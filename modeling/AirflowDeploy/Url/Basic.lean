import AirflowDeploy.Text.Cut
import AirflowDeploy.Text.Numeral
import AirflowDeploy.Text.Utf8

/-!
# Web addresses

The parts of an `http` or `https` address, and its text. Path, query and fragment are held in
their encoded form.
-/
namespace AirflowDeploy

inductive UrlError where
  | emptyHost
  | invalidPort
  | invalidIpv4
  | invalidIpv6
  /-- A host name with characters that no host name has. -/
  | invalidDomain
  deriving DecidableEq, Repr

def UrlError.message : UrlError → String
  | .emptyHost => "empty host"
  | .invalidPort => "invalid port number"
  | .invalidIpv4 => "invalid IPv4 address"
  | .invalidIpv6 => "invalid IPv6 address"
  | .invalidDomain => "invalid international domain name"

structure Url where
  /-- Whether the scheme is `https`. -/
  secure : Bool
  /-- User and password with the at sign after them, or nothing. -/
  userInfo : List Char
  host : List Char
  /-- None for the default port of the scheme. -/
  port : Option Nat
  /-- The segments after each slash. -/
  path : List (List Char)
  query : Option (List Char)
  fragment : Option (List Char)
  deriving DecidableEq, Repr

namespace Url

open Text

def scheme (secure : Bool) : List Char := if secure then "https".toList else "http".toList

def defaultPort (secure : Bool) : Nat := if secure then 443 else 80

def renderPath (path : List (List Char)) : List Char := path.flatMap ('/' :: ·)

/-- Path and query, as they are asked for. -/
def target (u : Url) : String :=
  String.ofList (renderPath u.path ++ (u.query.elim [] ('?' :: ·)))

def origin (u : Url) : List Char :=
  scheme u.secure ++ "://".toList ++ u.userInfo ++ u.host ++ (u.port.elim [] (':' :: decimal ·))

def render (u : Url) : String :=
  String.ofList (u.origin ++ renderPath u.path ++ (u.query.elim [] ('?' :: ·)) ++
    (u.fragment.elim [] ('#' :: ·)))

def hexUpper (n : Nat) : Char := asciiUpper (hexDigit n)

def percent (b : UInt8) : List Char := ['%', hexUpper (b.toNat / 16), hexUpper (b.toNat % 16)]

/-- Encodes the bytes of the characters that may not stand for themselves. -/
def encodeExcept (keep : Char → Bool) (cs : List Char) : List Char :=
  cs.flatMap fun c => if keep c then [c] else (String.utf8EncodeChar c).flatMap percent

/-- Characters that stand for themselves in a path segment made from any text. -/
def isUnreserved (c : Char) : Bool :=
  isAsciiAlphanumeric c || c == '-' || c == '.' || c == '_' || c == '~'

/-- A text as one path segment. -/
def encodeSegment (text : String) : List Char := encodeExcept isUnreserved text.toList

def isPrintable (c : Char) : Bool := 0x20 < c.toNat && c.toNat < 0x7F

def keepsFragment (c : Char) : Bool := isPrintable c && !(['"', '<', '>', '\x60'].contains c)

def keepsQuery (c : Char) : Bool := isPrintable c && !(['"', '#', '<', '>', '\''].contains c)

def keepsPath (c : Char) : Bool := keepsFragment c && !(['#', '?', '\x7b', '\x7d'].contains c)

def keepsUserInfo (c : Char) : Bool :=
  keepsPath c && !(['/', ':', ';', '=', '@', '[', '\\', ']', '^', '|'].contains c)

/-- The bytes of a text in which percent signs with two digits stand for bytes. -/
def percentDecode : List Char → List UInt8
  | '%' :: a :: b :: rest =>
    match hexValue? a, hexValue? b with
    | some h, some l => UInt8.ofNat (h * 16 + l) :: percentDecode rest
    | _, _ => 0x25 :: percentDecode (a :: b :: rest)
  | c :: rest => String.utf8EncodeChar c ++ percentDecode rest
  | [] => []

end Url

end AirflowDeploy
