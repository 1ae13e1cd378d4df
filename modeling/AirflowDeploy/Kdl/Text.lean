import AirflowDeploy.Kdl.Basic
import AirflowDeploy.Text.Cut
import AirflowDeploy.Text.Numeral

/-!
# Reading KDL strings and numbers

Identifiers, quoted and raw strings on one line or several, keywords and numbers. Each reader
gives what stands at the front and the rest after it.
-/
namespace AirflowDeploy.Kdl

open AirflowDeploy.Text

/-- The rest after one line end, which may have two characters. -/
def afterNewline? : List Char → Option (List Char)
  | '\r' :: '\n' :: rest => some rest
  | c :: rest => if isNewline c then some rest else none
  | [] => none

/-- The character that a one-letter escape stands for. -/
def escaped? : Char → Option Char
  | '"' => some '"'
  | '\\' => some '\\'
  | 'b' => some '\x08'
  | 'f' => some '\x0c'
  | 'n' => some '\n'
  | 'r' => some '\r'
  | 't' => some '\t'
  | 's' => some ' '
  | _ => none

def isHexDigit (c : Char) : Bool := (hexValue? c).isSome

/-- The character with a code point, which is no surrogate. -/
def scalar? (n : Nat) : Option Char :=
  if h : n.isValidChar then some (Char.ofNatAux n h) else none

/-- A code point in braces, of one to six digits. -/
def readCodePoint (cs : List Char) : Option (Char × List Char) :=
  match cs with
  | '\x7b' :: rest =>
    let digits := rest.takeWhile isHexDigit
    match rest.dropWhile isHexDigit with
    | '\x7d' :: rest =>
      if digits.isEmpty || 6 < digits.length then none
      else ((readHex? digits).bind scalar?).map (·, rest)
    | _ => none
  | _ => none

def isBreak (c : Char) : Bool := isSpace c || isNewline c

/-- What a backslash and the text after it stand for: a character, or nothing where blanks and
line ends follow. -/
def readEscape (cs : List Char) : Option (List Char × List Char) :=
  match cs with
  | 'u' :: rest => (readCodePoint rest).map fun r => ([r.1], r.2)
  | c :: rest =>
    if isBreak c then some ([], rest.dropWhile isBreak)
    else (escaped? c).map fun e => ([e], rest)
  | [] => none

/-- The content up to the closing quote on the same line. -/
def readQuoted : Nat → List Char → Option (List Char × List Char)
  | 0, _ => none
  | _ + 1, [] => none
  | _ + 1, '"' :: rest => some ([], rest)
  | fuel + 1, '\\' :: rest =>
    (readEscape rest).bind fun e => (readQuoted fuel e.2).map fun r => (e.1 ++ r.1, r.2)
  | fuel + 1, c :: rest =>
    if isNewline c then none else (readQuoted fuel rest).map fun r => (c :: r.1, r.2)

def threeQuotes : List Char := ['"', '"', '"']

/-- The physical lines up to the closing quotes, still with their escapes. The last one stands
before the quotes. -/
def readBlock (escapes : Bool) (closing : List Char) :
    Nat → List Char → Option (List (List Char) × List Char)
  | 0, _ => none
  | _ + 1, [] => none
  | fuel + 1, c :: rest =>
    match afterPrefix? closing (c :: rest) with
    | some rest => some ([[]], rest)
    | none =>
      match afterNewline? (c :: rest) with
      | some rest => (readBlock escapes closing fuel rest).map fun r => ([] :: r.1, r.2)
      | none =>
        match c, rest with
        | '\\', d :: rest =>
          if escapes then
            if isBreak d then
              onto [] (readBlock escapes closing fuel (rest.dropWhile isBreak))
            else onto ['\\', d] (readBlock escapes closing fuel rest)
          else onto ['\\'] (readBlock escapes closing fuel (d :: rest))
        | c, rest => onto [c] (readBlock escapes closing fuel rest)
where
  onto (front : List Char) : Option (List (List Char) × List Char) →
      Option (List (List Char) × List Char)
    | some (line :: lines, rest) => some ((front ++ line) :: lines, rest)
    | _ => none

/-- The content of a line after the common indentation; a blank line is empty. -/
def dedent? (margin line : List Char) : Option (List Char) :=
  if line.all isSpace then some [] else afterPrefix? margin line

/-- Resolves the escapes of one line. -/
def unescape : Nat → List Char → Option (List Char)
  | _, [] => some []
  | 0, _ => none
  | fuel + 1, '\\' :: rest =>
    (readEscape rest).bind fun e => (unescape fuel e.2).map (e.1 ++ ·)
  | fuel + 1, c :: rest => (unescape fuel rest).map (c :: ·)

/-- The text of the lines between the quotes. The last line is the common indentation. -/
def blockText (escapes : Bool) (lines : List (List Char)) : Option (List Char) := do
  let margin ← lines.getLast?
  if !margin.all isSpace then none
  let texts ← lines.dropLast.mapM fun line => do
    let text ← dedent? margin line
    if escapes then unescape text.length text else some text
  return joinWith ['\n'] texts

def readLines (escapes : Bool) (closing cs : List Char) : Option (List Char × List Char) := do
  let body ← afterNewline? cs
  let (lines, rest) ← readBlock escapes closing (body.length + 1) body
  return (← blockText escapes lines, rest)

/-- The content up to a quote and the number signs after it, on one line. -/
def readRaw (closing : List Char) : List Char → Option (List Char × List Char)
  | [] => none
  | c :: rest =>
    match afterPrefix? closing (c :: rest) with
    | some rest => some ([], rest)
    | none => if isNewline c then none else (readRaw closing rest).map fun r => (c :: r.1, r.2)

def isHash (c : Char) : Bool := c == '#'

/-- A raw string from its number signs on. -/
def readRawString (cs : List Char) : Option (List Char × List Char) :=
  let hashes := cs.takeWhile isHash
  match cs.dropWhile isHash with
  | '"' :: '"' :: '"' :: rest => readLines false (threeQuotes ++ hashes) rest
  | '"' :: rest => readRaw ('"' :: hashes) rest
  | _ => none

/-- Whether a text starts with a sign, a point and a digit. -/
def startsSignedFraction : List Char → Bool
  | sign :: '.' :: rest => isSign sign && startsWithDigit rest
  | _ => false

/-- Whether a word without quotes is a string. -/
def isIdentifier (cs : List Char) : Bool :=
  !cs.isEmpty && !looksNumeric cs && !startsSignedFraction cs && !reserved.contains cs

def readString (cs : List Char) : Option (List Char × List Char) :=
  match cs with
  | '"' :: '"' :: '"' :: rest => readLines true threeQuotes rest
  | '"' :: rest => readQuoted (rest.length + 1) rest
  | '#' :: _ => readRawString cs
  | cs =>
    let word := cs.takeWhile isIdentifierChar
    if isIdentifier word then some (word, cs.dropWhile isIdentifierChar) else none

def isRadixDigit (radix : Nat) (c : Char) : Bool := (hexValue? c).any (· < radix)

/-- Digits with underscores between and after them. -/
def digitRun (radix : Nat) (cs : List Char) : Option (List Char × List Char) :=
  match cs with
  | c :: _ =>
    if isRadixDigit radix c then
      some (cs.span fun c => isRadixDigit radix c || c == '_')
    else none
  | [] => none

/-- The value of digits, without regard to underscores. -/
def radixValue (radix : Nat) (cs : List Char) : Nat :=
  (cs.filterMap hexValue?).foldl (fun n d => n * radix + d) 0

/-- One more than the largest integer, which has 127 bits. -/
def integerBound : Nat := 170141183460469231731687303715884105728

def readInteger (radix : Nat) (cs : List Char) : Option (List Char × List Char) :=
  (digitRun radix cs).filter fun r => radixValue radix r.1 < integerBound

def readExponent (cs : List Char) : Option (List Char × List Char) :=
  match cs with
  | e :: rest =>
    if e == 'e' || e == 'E' then
      let sign := (rest.take 1).filter isSign
      (digitRun 10 (rest.drop sign.length)).map fun r => (e :: sign ++ r.1, r.2)
    else none
  | [] => none

def readFraction (cs : List Char) : Option (List Char × List Char) :=
  match cs with
  | '.' :: rest => (digitRun 10 rest).map fun r => ('.' :: r.1, r.2)
  | _ => none

def readDecimal (cs : List Char) : Option (List Char × List Char) := do
  let (whole, rest) ← digitRun 10 cs
  let (fraction, rest) := (readFraction rest).getD ([], rest)
  let (exponent, rest) := (readExponent rest).getD ([], rest)
  if fraction.isEmpty && exponent.isEmpty then readInteger 10 cs
  else return (whole ++ fraction ++ exponent, rest)

def readUnsigned (cs : List Char) : Option (List Char × List Char) :=
  match cs with
  | '0' :: 'x' :: rest => (readInteger 16 rest).map fun r => ('0' :: 'x' :: r.1, r.2)
  | '0' :: 'o' :: rest => (readInteger 8 rest).map fun r => ('0' :: 'o' :: r.1, r.2)
  | '0' :: 'b' :: rest => (readInteger 2 rest).map fun r => ('0' :: 'b' :: r.1, r.2)
  | cs => readDecimal cs

def readNumber (cs : List Char) : Option (List Char × List Char) :=
  let sign := (cs.take 1).filter isSign
  (readUnsigned (cs.drop sign.length)).map fun r => (sign ++ r.1, r.2)

def keywords : List (List Char × Value) :=
  [("#true".toList, .bool true), ("#false".toList, .bool false), ("#null".toList, .null),
    ("#inf".toList, .number "#inf".toList), ("#-inf".toList, .number "#-inf".toList),
    ("#nan".toList, .number "#nan".toList)]

def readKeyword (cs : List Char) : Option (Value × List Char) :=
  keywords.findSome? fun (word, value) => (afterPrefix? word cs).map fun rest => (value, rest)

def startsNumber (cs : List Char) : Bool :=
  startsWithDigit cs || (cs.head?.any isSign && startsWithDigit cs.tail)

/-- A string, number or keyword. -/
def readValue (cs : List Char) : Option (Value × List Char) :=
  match readKeyword cs with
  | some r => some r
  | none =>
    if startsNumber cs then (readNumber cs).map fun r => (.number r.1, r.2)
    else (readString cs).map fun r => (.string (String.ofList r.1), r.2)

end AirflowDeploy.Kdl
