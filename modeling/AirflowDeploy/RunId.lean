import AirflowDeploy.Text.Ascii

/-!
# Run identifiers

A run is identified by a UUID. Its text has 32 hexadecimal digits in groups of 8, 4, 4, 4 and
12; braces or `urn:uuid:` may stand around the grouped form.
-/
namespace AirflowDeploy

structure RunId where
  value : BitVec 128
  deriving DecidableEq, Repr

namespace RunId

open Text

def groups : List Nat := [8, 4, 4, 4, 12]

/-- Takes groups of the given lengths, with a hyphen between each two and nothing after. -/
def ungroup? : List Nat → List Char → Option (List Char)
  | [], cs => if cs.isEmpty then some [] else none
  | [n], cs => if cs.length = n then some cs else none
  | n :: ns, cs =>
    match cs.drop n with
    | '-' :: rest => if (cs.take n).length = n then (ungroup? ns rest).map (cs.take n ++ ·) else none
    | _ => none

def ofDigits? (cs : List Char) : Option RunId := (readHex? cs).map fun n => ⟨BitVec.ofNat 128 n⟩

def ofGrouped? (cs : List Char) : Option RunId := (ungroup? groups cs).bind ofDigits?

def urn : List Char := ['u', 'r', 'n', ':', 'u', 'u', 'i', 'd', ':']

def parse? (cs : List Char) : Option RunId :=
  if cs.length = 32 then ofDigits? cs
  else if cs.length = 36 then ofGrouped? cs
  else if cs.length = 38 then
    match cs with
    | '{' :: rest => if rest.getLast? = some '}' then ofGrouped? rest.dropLast else none
    | _ => none
  else if cs.length = 45 then
    if (cs.take 9).map asciiLower = urn then ofGrouped? (cs.drop 9) else none
  else none

def digits (id : RunId) : List Char := hex 32 id.value.toNat

/-- Inserts the hyphens between groups. -/
def group : List Nat → List Char → List Char
  | [], cs => cs
  | [_], cs => cs
  | n :: ns, cs => cs.take n ++ '-' :: group ns (cs.drop n)

def render (id : RunId) : String := String.ofList (group groups id.digits)

/-- The last eight digits, which differ between runs started close together. -/
def short (id : RunId) : String := String.ofList (id.digits.drop 24)

/-- The four bits after the twelfth digit. -/
def version (id : RunId) : Nat := (id.value.extractLsb' 76 4).toNat

/-- A time-ordered identifier: 48 bits of milliseconds, version 7, 12 random bits, variant 2
and 62 random bits. -/
def ofTime (milliseconds random : Nat) : RunId :=
  ⟨BitVec.ofNat 48 milliseconds ++ 7#4 ++ BitVec.ofNat 12 (random >>> 62) ++ 2#2 ++
    BitVec.ofNat 62 random⟩

end RunId

end AirflowDeploy
