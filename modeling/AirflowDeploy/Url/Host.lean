import AirflowDeploy.Text.Blank
import AirflowDeploy.Text.Case
import AirflowDeploy.Text.Punycode
import AirflowDeploy.Url.Basic

/-!
# Hosts

A host is a domain name in lower case, an IPv4 address in any of its number forms, or an IPv6
address in brackets.
-/
namespace AirflowDeploy.Url

open Text

def isPoint (c : Char) : Bool := c == '.'

def isOctal (c : Char) : Bool := '0'.toNat ≤ c.toNat && c.toNat ≤ '7'.toNat

def isHex (c : Char) : Bool := (hexValue? c).isSome

def digitsValue (radix : Nat) (cs : List Char) : Nat :=
  (cs.filterMap hexValue?).foldl (fun n d => n * radix + d) 0

/-- A number in decimal, in octal after a zero, or in hexadecimal after `0x`. -/
def ipv4Number? (cs : List Char) : Option Nat :=
  match cs with
  | [] => none
  | '0' :: 'x' :: rest | '0' :: 'X' :: rest =>
    if rest.all isHex then some (digitsValue 16 rest) else none
  | '0' :: c :: rest => if (c :: rest).all isOctal then some (digitsValue 8 (c :: rest)) else none
  | cs => if cs.all isDigit then some (digitsValue 10 cs) else none

/-- The labels of a name, without an empty one at the end. -/
def labels (cs : List Char) : List (List Char) :=
  let parts := pieces isPoint cs
  if parts.getLast? = some [] then parts.dropLast else parts

/-- Whether a name is to be read as an address: its last label is a number. -/
def endsInNumber (cs : List Char) : Bool :=
  (labels cs).getLast?.any fun last =>
    (!last.isEmpty && last.all isDigit) || (ipv4Number? last).isSome

/-- A number in `count` bytes, the most significant first; none where it does not fit. -/
def bytes? : Nat → Nat → Option (List Nat)
  | 0, n => if n = 0 then some [] else none
  | count + 1, n => (bytes? count (n / 256)).map (· ++ [n % 256])

/-- The four bytes that up to four numbers stand for. The last number fills what the others
leave. -/
def ipv4? (cs : List Char) : Option (List Nat) :=
  let parts := labels cs
  if 4 < parts.length then none
  else
    match parts.mapM ipv4Number? with
    | none => none
    | some numbers =>
      let front := numbers.dropLast
      let last := numbers.getLast?.getD 0
      if front.all (· < 256) then (bytes? (4 - front.length) last).map (front ++ ·) else none

def renderIpv4 (bytes : List Nat) : List Char := joinWith ['.'] (bytes.map decimal)

def isColon (c : Char) : Bool := c == ':'

/-- One byte in decimal without a superfluous zero. -/
def byte? (cs : List Char) : Option Nat :=
  match cs with
  | '0' :: _ :: _ => none
  | cs => (readDigits? cs).filter (· < 256)

/-- The two groups of an IPv4 address. -/
def dotted? (cs : List Char) : Option (List Nat) :=
  match (pieces isPoint cs).mapM byte? with
  | some [a, b, c, d] => some [a * 256 + b, c * 256 + d]
  | _ => none

def group? (cs : List Char) : Option Nat :=
  if cs.isEmpty || 4 < cs.length then none else readHex? cs

/-- Groups with colons between them. The last one may be an IPv4 address. -/
def groups? : List (List Char) → Option (List Nat)
  | [] => some []
  | [last] => if last.any isPoint then dotted? last else (group? last).map ([·])
  | first :: rest => (group? first).bind fun n => (groups? rest).map (n :: ·)

/-- The groups on one side of a double colon. -/
def side? (cs : List Char) : Option (List Nat) :=
  if cs.isEmpty then some [] else groups? (pieces isColon cs)

/-- The text before and after the first double colon. -/
def cutDouble : List Char → List Char × Option (List Char)
  | ':' :: ':' :: rest => ([], some rest)
  | c :: rest => (c :: (cutDouble rest).1, (cutDouble rest).2)
  | [] => ([], none)

def ipv6? (cs : List Char) : Option (List Nat) :=
  match cutDouble cs with
  | (all, none) => (groups? (pieces isColon all)).filter (·.length = 8)
  | (left, some right) =>
    if left.any isPoint then none
    else
      match side? left, side? right with
      | some front, some back =>
        if front.length + back.length ≤ 7 then
          some (front ++ List.replicate (8 - front.length - back.length) 0 ++ back)
        else none
      | _, _ => none

/-- Length of the run of zeros at the front. -/
def zeros (groups : List Nat) : Nat := (groups.takeWhile (· = 0)).length

/-- Start and length of the first longest run of zeros. -/
def longestZeros : Nat → List Nat → Nat × Nat
  | _, [] => (0, 0)
  | start, g :: rest =>
    let after := longestZeros (start + 1) rest
    let here := zeros (g :: rest)
    if here ≠ 0 ∧ after.2 ≤ here then (start, here) else after

def hexGroup (n : Nat) : List Char :=
  let digits := (hex 4 n).dropWhile (· == '0')
  if digits.isEmpty then ['0'] else digits

def renderGroups (groups : List Nat) : List Char := joinWith [':'] (groups.map hexGroup)

/-- Lower-case groups, with a double colon for the first longest run of two or more zeros. -/
def renderIpv6 (groups : List Nat) : List Char :=
  let (start, length) := longestZeros 0 groups
  if length < 2 then renderGroups groups
  else renderGroups (groups.take start) ++ ':' :: ':' :: renderGroups (groups.drop (start + length))

def isForbidden (c : Char) : Bool :=
  c.toNat ≤ 0x20 || c.toNat == 0x7F ||
    ['%', '#', '/', ':', '<', '>', '?', '@', '[', '\\', ']', '^', '|'].contains c

/-- Characters that names leave out. -/
def isIgnored (c : Char) : Bool :=
  c.toNat == 0xAD || c.toNat == 0x200B || c.toNat == 0x2060 || c.toNat == 0xFEFF ||
    (0xFE00 ≤ c.toNat && c.toNat ≤ 0xFE0F)

/-- Characters outside of ASCII that no name has. -/
def isUnnamed (c : Char) : Bool :=
  let n := c.toNat
  (0x80 ≤ n && n ≤ 0x9F) || isBlank c && 0x80 ≤ n || (0x200C ≤ n && n ≤ 0x200F) ||
    (0x2028 ≤ n && n ≤ 0x202E) || (0xE000 ≤ n && n ≤ 0xF8FF) || (0xFFF0 ≤ n && n ≤ 0xFFFF)

/-- A character of full width as the one of normal width, and every kind of full stop as a
point. -/
def narrow (c : Char) : Char :=
  let n := c.toNat
  if n == 0x3002 || n == 0xFF61 then '.'
  else if 0xFF01 ≤ n && n ≤ 0xFF5E then Char.ofNat (n - 0xFEE0)
  else c

def punycodeMark : List Char := ['x', 'n', '-', '-']

/-- A label in ASCII. A label that is already encoded has to be the code of something. -/
def asciiLabel? (label : List Char) : Option (List Char) :=
  match afterPrefix? punycodeMark label with
  | none =>
    if label.all Punycode.isAscii then some label
    else some (punycodeMark ++ Punycode.encode label)
  | some code =>
    match Punycode.decode? code with
    | some decoded =>
      if decoded.all Punycode.isAscii || Punycode.encode decoded != code then none
      else some label
    | none => none

/-- A domain name in lower case and in ASCII. -/
def domain? (cs : List Char) : Option (List Char) :=
  let mapped := lower ((cs.filter fun c => !isIgnored c).map narrow)
  if mapped.any isForbidden || mapped.any isUnnamed then none
  else ((pieces isPoint mapped).mapM asciiLabel?).map (joinWith ['.'])

/-- The text of a host in its one form. -/
def readHost (cs : List Char) : Except UrlError (List Char) :=
  match cs with
  | [] => .error .emptyHost
  | '[' :: rest =>
    if rest.getLast? = some ']' then
      match ipv6? rest.dropLast with
      | some groups => .ok ('[' :: renderIpv6 groups ++ [']'])
      | none => .error .invalidIpv6
    else .error .invalidIpv6
  | cs =>
    match domain? (Utf8.decodeLossy (percentDecode cs)) with
    | none => .error .invalidDomain
    | some [] => .error .emptyHost
    | some domain =>
      if endsInNumber domain then
        match ipv4? domain with
        | some bytes => .ok (renderIpv4 bytes)
        | none => .error .invalidIpv4
      else .ok domain

end AirflowDeploy.Url
