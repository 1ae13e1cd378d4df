import AirflowDeploy.Text.Blank
import AirflowDeploy.Text.Numeral
import AirflowDeploy.Time.Calendar

/-!
# Instants

Points in time to the nanosecond, with room for a leap second at the end of a minute. Texts are
read as date, time and offset with blanks between the parts, and written in UTC.
-/
namespace AirflowDeploy

/-- Seconds since 1970 in UTC and nanoseconds within the second. The nanoseconds go on to two
seconds in the last second of a minute, for a leap second after it. -/
structure Instant where
  seconds : Int
  nanos : Nat
  fraction : nanos < 1000000000 ∨ (nanos < 2000000000 ∧ seconds % 60 = 59)
  deriving DecidableEq, Repr

namespace Instant

open Text

/-- The first and the last year that an instant is read from. -/
def years : Int × Int := (-262143, 262142)

def date (t : Instant) : Date := Date.ofDays (t.seconds / 86400)

def secondOfDay (t : Instant) : Nat := (t.seconds % 86400).toNat

def hour (t : Instant) : Nat := t.secondOfDay / 3600

def minute (t : Instant) : Nat := t.secondOfDay / 60 % 60

def ofSeconds (seconds : Int) : Instant := ⟨seconds, 0, .inl (by decide)⟩

/-- Reads one or more digits, at most `most`, after any blanks. -/
def readNumber (most : Nat) (cs : List Char) : Option (Nat × List Char) :=
  let cs := trimStart cs
  let digits := (cs.take most).takeWhile isDigit
  (readDigits? digits).map fun n => (n, cs.drop digits.length)

/-- A year: up to four digits, or a sign and any number of them. -/
def readYear (cs : List Char) : Option (Int × List Char) :=
  match trimStart cs with
  | '-' :: rest => (readSigned rest).map fun r => (-(r.1 : Int), r.2)
  | '+' :: rest => (readSigned rest).map fun r => ((r.1 : Int), r.2)
  | cs => (readNumber 4 cs).map fun r => ((r.1 : Int), r.2)
where
  readSigned (cs : List Char) : Option (Nat × List Char) :=
    let digits := cs.takeWhile isDigit
    (readDigits? digits).map fun n => (n, cs.drop digits.length)

/-- A separator with any blanks before it. -/
def readMark (mark : Char) (cs : List Char) : Option (List Char) :=
  match trimStart cs with
  | c :: rest => if c = mark then some rest else none
  | [] => none

/-- Nanoseconds of an optional fraction, of which nine digits count. -/
def readFraction (cs : List Char) : Option (Nat × List Char) :=
  match cs with
  | '.' :: rest =>
    let digits := rest.takeWhile isDigit
    let counted := (digits ++ List.replicate 9 '0').take 9
    if digits.isEmpty then none
    else (readDigits? counted).map fun n => (n, rest.drop digits.length)
  | _ => some (0, cs)

def isOffsetMark (c : Char) : Bool := c == ':' || isBlank c

/-- Seconds east of UTC from hours and minutes of two digits each. -/
def readHours (cs : List Char) : Option (Nat × List Char) :=
  let minutes := (cs.drop 2).dropWhile isOffsetMark
  match readDigits? (cs.take 2), readDigits? (minutes.take 2) with
  | some h, some m =>
    if (cs.take 2).length = 2 && (minutes.take 2).length = 2 && m < 60 && h < 24 then
      some (h * 3600 + m * 60, minutes.drop 2)
    else none
  | _, _ => none

def readOffset (cs : List Char) : Option (Int × List Char) :=
  if eqAsciiCase (cs.take 3) ['U', 'T', 'C'] then some (0, cs.drop 3)
  else
    match cs with
    | 'Z' :: rest | 'z' :: rest => some (0, rest)
    | '+' :: rest => (readHours rest).map fun r => ((r.1 : Int), r.2)
    | '-' :: rest | '−' :: rest => (readHours rest).map fun r => (-(r.1 : Int), r.2)
    | _ => none

/-- The instant of a local date, hour, minute, second, fraction and offset. -/
def ofParts? (d : Date) (hour minute second nanos : Nat) (offset : Int) : Option Instant :=
  let seconds :=
    d.toDays * 86400 + hour * 3600 + minute * 60 + (if second = 60 then 59 else second) - offset
  let nanos := if second = 60 then nanos + 1000000000 else nanos
  let year := (Date.ofDays (seconds / 86400)).year
  if d.isValid && hour < 24 && minute < 60 && second ≤ 60 &&
      years.1 ≤ d.year && d.year ≤ years.2 && years.1 ≤ year && year ≤ years.2 then
    if h : nanos < 1000000000 ∨ (nanos < 2000000000 ∧ seconds % 60 = 59) then
      some ⟨seconds, nanos, h⟩
    else none
  else none

def parse? (cs : List Char) : Option Instant := do
  let (year, cs) ← readYear cs
  let (month, cs) ← readNumber 2 (← readMark '-' cs)
  let (day, cs) ← readNumber 2 (← readMark '-' cs)
  let cs ← match cs with
    | 'T' :: rest | 't' :: rest | ' ' :: rest => some rest
    | _ => none
  let (hour, cs) ← readNumber 2 cs
  let (minute, cs) ← readNumber 2 (← readMark ':' cs)
  let (second, cs) ← readNumber 2 (← readMark ':' cs)
  let (nanos, cs) ← readFraction cs
  let (offset, cs) ← readOffset (trimStart cs)
  if (trimStart cs).isEmpty then ofParts? ⟨year, month, day⟩ hour minute second nanos offset
  else none

/-- A year of at least four digits, with a sign outside of 0 to 9999. -/
def renderYear (year : Int) : List Char :=
  if year < 0 then '-' :: padded 4 year.natAbs
  else if year ≤ 9999 then padded 4 year.toNat
  else '+' :: padded 4 year.toNat

def renderDate (d : Date) : List Char :=
  renderYear d.year ++ '-' :: padded 2 d.month ++ '-' :: padded 2 d.day

/-- Zero, three, six or nine digits: the fewest that lose nothing. -/
def renderFraction (nanos : Nat) : List Char :=
  if nanos = 0 then []
  else if nanos % 1000000 = 0 then '.' :: padded 3 (nanos / 1000000)
  else if nanos % 1000 = 0 then '.' :: padded 6 (nanos / 1000)
  else '.' :: padded 9 nanos

def render (t : Instant) : String :=
  String.ofList <| renderDate t.date ++ 'T' :: padded 2 t.hour ++ ':' :: padded 2 t.minute ++
    ':' :: padded 2 (t.secondOfDay % 60 + t.nanos / 1000000000) ++
    renderFraction (t.nanos % 1000000000) ++ ['Z']

/-- Date, hour and minute in the form of an image tag. -/
def stamp (t : Instant) : String :=
  String.ofList <| renderDate t.date ++ 'T' :: padded 2 t.hour ++ '-' :: padded 2 t.minute

end Instant

end AirflowDeploy
