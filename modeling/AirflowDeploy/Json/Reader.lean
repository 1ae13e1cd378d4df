import AirflowDeploy.Json.Basic
import AirflowDeploy.Text.Utf8

/-!
# Reading JSON

The strict grammar, with nothing but blanks after the value. Escapes are read as UTF-16 code
units, of which two halves in a row make one character.
-/
namespace AirflowDeploy.Json

open Text

def isSpace (c : Char) : Bool := c == ' ' || c == '\n' || c == '\r' || c == '\t'

def skip (cs : List Char) : List Char := cs.dropWhile isSpace

theorem skip_cons {c : Char} (h : isSpace c = false) (cs : List Char) :
    skip (c :: cs) = c :: cs := by
  simp [skip, h]

/-- The character that a one-letter escape stands for. -/
def escaped? : Char → Option Char
  | '"' => some '"'
  | '\\' => some '\\'
  | '/' => some '/'
  | 'b' => some '\x08'
  | 'f' => some '\x0c'
  | 'n' => some '\n'
  | 'r' => some '\r'
  | 't' => some '\t'
  | _ => none

/-- The code units and code points up to the closing quote, and the rest after it. -/
def points : List Char → Option (List Nat × List Char)
  | [] => none
  | '"' :: rest => some ([], rest)
  | '\\' :: 'u' :: a :: b :: c :: d :: rest =>
    (readHex? [a, b, c, d]).bind fun n => (points rest).map fun r => (n :: r.1, r.2)
  | '\\' :: e :: rest =>
    (escaped? e).bind fun c => (points rest).map fun r => (c.toNat :: r.1, r.2)
  | c :: rest =>
    if c.toNat < 32 || c == '\\' then none
    else (points rest).map fun r => (c.toNat :: r.1, r.2)

def isHighHalf (n : Nat) : Bool := 0xD800 ≤ n && n < 0xDC00

def isLowHalf (n : Nat) : Bool := 0xDC00 ≤ n && n < 0xE000

/-- Joins halves to characters; none when a half stands alone. -/
def joinHalves : List Nat → Option (List Char)
  | [] => some []
  | [n] => if isHighHalf n || isLowHalf n then none else some [Char.ofNat n]
  | n :: m :: rest =>
    if isHighHalf n then
      if isLowHalf m then
        (joinHalves rest).map
          (Char.ofNat (0x10000 + (n - 0xD800) * 0x400 + (m - 0xDC00)) :: ·)
      else none
    else if isLowHalf n then none
    else (joinHalves (m :: rest)).map (Char.ofNat n :: ·)

/-- A string after its opening quote. -/
def readString (cs : List Char) : Option (Option String × List Char) :=
  (points cs).map fun r => ((joinHalves r.1).map String.ofList, r.2)

/-- The digits at the front, at least one. -/
def digitRun (cs : List Char) : Option (List Char × List Char) :=
  let digits := cs.takeWhile isDigit
  if digits.isEmpty then none else some (digits, cs.dropWhile isDigit)

def wholePart (cs : List Char) : Option (List Char × List Char) :=
  match cs with
  | '0' :: rest => some (['0'], rest)
  | _ => digitRun cs

def fractionPart (cs : List Char) : Option (List Char × List Char) :=
  match cs with
  | '.' :: rest => (digitRun rest).map fun r => ('.' :: r.1, r.2)
  | _ => some ([], cs)

def exponentPart (cs : List Char) : Option (List Char × List Char) :=
  match cs with
  | e :: rest =>
    if e == 'e' || e == 'E' then
      match rest with
      | '+' :: rest => (digitRun rest).map fun r => (e :: '+' :: r.1, r.2)
      | '-' :: rest => (digitRun rest).map fun r => (e :: '-' :: r.1, r.2)
      | rest => (digitRun rest).map fun r => (e :: r.1, r.2)
    else some ([], cs)
  | [] => some ([], [])

def unsigned (cs : List Char) : Option (List Char × List Char) := do
  let (whole, rest) ← wholePart cs
  let (fraction, rest) ← fractionPart rest
  let (exponent, rest) ← exponentPart rest
  return (whole ++ fraction ++ exponent, rest)

def readNumber (cs : List Char) : Option (List Char × List Char) :=
  match cs with
  | '-' :: rest => (unsigned rest).map fun r => ('-' :: r.1, r.2)
  | _ => unsigned cs

mutual

/-- A value at the front and the rest after it, in at most `fuel` nested steps. -/
def readValue : Nat → List Char → Option (Json × List Char)
  | 0, _ => none
  | fuel + 1, cs =>
    match skip cs with
    | '{' :: rest =>
      match skip rest with
      | '}' :: rest => some (.object [], rest)
      | rest => (readMembers fuel rest).map fun r => (.object r.1, r.2)
    | '[' :: rest =>
      match skip rest with
      | ']' :: rest => some (.array [], rest)
      | rest => (readItems fuel rest).map fun r => (.array r.1, r.2)
    | '"' :: rest => (readString rest).map fun r => (.string r.1, r.2)
    | 'n' :: 'u' :: 'l' :: 'l' :: rest => some (.null, rest)
    | 't' :: 'r' :: 'u' :: 'e' :: rest => some (.bool true, rest)
    | 'f' :: 'a' :: 'l' :: 's' :: 'e' :: rest => some (.bool false, rest)
    | cs => (readNumber cs).map fun r => (.number r.1, r.2)

/-- One or more items up to the closing bracket. -/
def readItems : Nat → List Char → Option (List Json × List Char)
  | 0, _ => none
  | fuel + 1, cs =>
    (readValue fuel cs).bind fun (item, rest) =>
      match skip rest with
      | ',' :: rest => (readItems fuel rest).map fun r => (item :: r.1, r.2)
      | ']' :: rest => some ([item], rest)
      | _ => none

/-- One or more members up to the closing brace. -/
def readMembers : Nat → List Char → Option (List (Option String × Json) × List Char)
  | 0, _ => none
  | fuel + 1, cs =>
    match skip cs with
    | '"' :: rest =>
      (readString rest).bind fun (key, rest) =>
        match skip rest with
        | ':' :: rest =>
          (readValue fuel rest).bind fun (value, rest) =>
            match skip rest with
            | ',' :: rest => (readMembers fuel rest).map fun r => ((key, value) :: r.1, r.2)
            | '}' :: rest => some ([(key, value)], rest)
            | _ => none
        | _ => none
    | _ => none

end

/-- A closing bracket is neither an item nor, as below, a member. -/
theorem readItems_bracket (fuel : Nat) (cs : List Char) : readItems fuel (']' :: cs) = none := by
  cases fuel with
  | zero => rw [readItems]
  | succ fuel =>
    have hvalue : readValue fuel (']' :: cs) = none := by
      cases fuel with
      | zero => rw [readValue]
      | succ fuel =>
        rw [readValue, skip_cons rfl]
        rfl
    rw [readItems, hvalue]
    rfl

theorem readMembers_brace (fuel : Nat) (cs : List Char) : readMembers fuel ('}' :: cs) = none := by
  cases fuel with
  | zero => rw [readMembers]
  | succ fuel =>
    rw [readMembers, skip_cons rfl]
    rfl

/-- The value at the front, where every nested step takes a character. -/
def readFront? (cs : List Char) : Option (Json × List Char) := readValue (cs.length + 1) cs

def read? (cs : List Char) : Option Json :=
  (readFront? cs).bind fun r => if (skip r.2).isEmpty then some r.1 else none

/-- The text of a body, in which an ill-formed part is spelled as two first halves of surrogate
pairs, so that a string which holds one is no text. -/
def spelledWithin : Nat → List UInt8 → List Char
  | 0, _ => []
  | fuel + 1, bs =>
    match Utf8.front bs with
    | .empty => []
    | .char c n => c :: spelledWithin fuel (bs.drop n)
    | .illFormed n => "\\ud800\\ud800".toList ++ spelledWithin fuel (bs.drop n)

def readBytes? (bs : List UInt8) : Option Json := read? (spelledWithin bs.length bs)

end AirflowDeploy.Json
