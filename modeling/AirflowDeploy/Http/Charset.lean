import AirflowDeploy.Text.Ascii
import AirflowDeploy.Text.Blank
import AirflowDeploy.Text.Cut
import AirflowDeploy.Text.Utf8

/-!
# Character sets

The text of a body by the character set that its content type names, UTF-8 where it names none.
A byte order mark at the front wins over the name. What cannot be decoded is replaced.
-/
namespace AirflowDeploy.Http

open Text

inductive Charset where
  | utf8
  | utf16 (bigEndian : Bool)
  /-- One byte a character, ASCII and Latin letters. -/
  | latin
  deriving DecidableEq, Repr

namespace Charset

/-- The characters of the bytes 0x80 to 0x9F. -/
def latinUpper : List Nat :=
  [0x20AC, 0x81, 0x201A, 0x192, 0x201E, 0x2026, 0x2020, 0x2021, 0x2C6, 0x2030, 0x160, 0x2039,
    0x152, 0x8D, 0x17D, 0x8F, 0x90, 0x2018, 0x2019, 0x201C, 0x201D, 0x2022, 0x2013, 0x2014,
    0x2DC, 0x2122, 0x161, 0x203A, 0x153, 0x9D, 0x17E, 0x178]

def latinChar (b : UInt8) : Char :=
  let n := b.toNat
  Char.ofNat (if 0x80 ≤ n && n < 0xA0 then latinUpper.getD (n - 0x80) n else n)

/-- The two bytes of a code unit, most significant first. -/
def unit (bigEndian : Bool) (a b : UInt8) : Nat :=
  if bigEndian then a.toNat * 256 + b.toNat else b.toNat * 256 + a.toNat

def isHighHalf (n : Nat) : Bool := 0xD800 ≤ n && n < 0xDC00

def isLowHalf (n : Nat) : Bool := 0xDC00 ≤ n && n < 0xE000

/-- Joins code units, with a replacement for each half that stands alone. -/
def joinUnits : List Nat → List Char
  | [] => []
  | [n] => [if isHighHalf n || isLowHalf n then Utf8.replacement else Char.ofNat n]
  | n :: m :: rest =>
    if isHighHalf n && isLowHalf m then
      Char.ofNat (0x10000 + (n - 0xD800) * 0x400 + (m - 0xDC00)) :: joinUnits rest
    else
      (if isHighHalf n || isLowHalf n then Utf8.replacement else Char.ofNat n) ::
        joinUnits (m :: rest)

/-- The whole code units, and whether a byte is left over. -/
def units (bigEndian : Bool) : List UInt8 → List Nat × Bool
  | [] => ([], false)
  | [_] => ([], true)
  | a :: b :: rest => (unit bigEndian a b :: (units bigEndian rest).1, (units bigEndian rest).2)

def decodeUnits (bigEndian : Bool) (bs : List UInt8) : List Char :=
  let (ns, odd) := units bigEndian bs
  joinUnits ns ++ (if odd then [Utf8.replacement] else [])

/-- The character set of a label; none for unknown ones. -/
def ofLabel? (label : List Char) : Option Charset :=
  let name := String.ofList (label.map asciiLower)
  if ["utf-8", "utf8", "unicode-1-1-utf-8", "unicode11utf8", "unicode20utf8",
      "x-unicode20utf8"].contains name then some .utf8
  else if ["utf-16", "utf-16le", "ucs-2", "csunicode", "iso-10646-ucs-2", "unicode",
      "unicodefeff"].contains name then some (.utf16 false)
  else if ["utf-16be", "unicodefffe"].contains name then some (.utf16 true)
  else if ["iso-8859-1", "iso8859-1", "iso88591", "iso_8859-1", "iso_8859-1:1987", "latin1", "l1",
      "ascii", "us-ascii", "ansi_x3.4-1968", "windows-1252", "cp1252", "x-cp1252", "cp819",
      "csisolatin1", "ibm819", "iso-ir-100"].contains name then some .latin
  else none

/-- The character set that the byte order mark at the front tells, and what is after it. -/
def ofMark? : List UInt8 → Option (Charset × List UInt8)
  | 0xEF :: 0xBB :: 0xBF :: rest => some (.utf8, rest)
  | 0xFE :: 0xFF :: rest => some (.utf16 true, rest)
  | 0xFF :: 0xFE :: rest => some (.utf16 false, rest)
  | _ => none

def decodeUnmarked : Charset → List UInt8 → List Char
  | .utf8, bs => Utf8.decodeLossy bs
  | .utf16 bigEndian, bs => decodeUnits bigEndian bs
  | .latin, bs => bs.map latinChar

def decode (charset : Charset) (bs : List UInt8) : List Char :=
  match ofMark? bs with
  | some (marked, rest) => decodeUnmarked marked rest
  | none => decodeUnmarked charset bs

def isSemicolon (c : Char) : Bool := c == ';'

def withoutQuotes (cs : List Char) : List Char :=
  match cs with
  | '"' :: rest => if rest.getLast? = some '"' then rest.dropLast else cs
  | _ => cs

/-- The value of a parameter `charset`. -/
def parameter? (cs : List Char) : Option (List Char) :=
  match cutFirst (· == '=') (trim cs) with
  | (name, some value) =>
    if eqAsciiCase name "charset".toList then some (withoutQuotes value) else none
  | (_, none) => none

/-- The character set that a content type names. -/
def ofContentType (contentType : Option String) : Charset :=
  match contentType with
  | none => .utf8
  | some text =>
    (((pieces isSemicolon text.toList).tail.findSome? parameter?).bind ofLabel?).getD .utf8

end Charset

end AirflowDeploy.Http
