import AirflowDeploy.Text.Blank
import AirflowDeploy.Text.Cut
import AirflowDeploy.Text.Numeral

/-!
# Versions

Semantic versions: three numbers, pre-release identifiers and build metadata. `parse?` reads
the strict grammar; `read?` also allows blanks around the version and one leading `v`.
-/
namespace AirflowDeploy

/-- A pre-release identifier. Digits alone are a number, whatever their count. -/
inductive Identifier where
  | number (n : Nat)
  | word (text : List Char)
  deriving DecidableEq, Repr

structure Version where
  major : Nat
  minor : Nat
  patch : Nat
  pre : List Identifier
  build : List (List Char)
  deriving DecidableEq, Repr

namespace Version

open Text

def isDot (c : Char) : Bool := c == '.'

def isIdentifierChar (c : Char) : Bool := isAsciiAlphanumeric c || c == '-'

/-- Digits without a superfluous zero in front. -/
def readCanonical? (cs : List Char) : Option Nat :=
  match cs with
  | '0' :: _ :: _ => none
  | _ => readDigits? cs

/-- One of the three numbers, which fit 64 bits. -/
def readNumber? (cs : List Char) : Option Nat := (readCanonical? cs).filter (· < wordBound)

def readIdentifier? (cs : List Char) : Option Identifier :=
  if cs.isEmpty || !cs.all isIdentifierChar then none
  else if cs.all isDigit then (readCanonical? cs).map .number
  else some (.word cs)

def readBuild? (cs : List Char) : Option (List Char) :=
  if cs.isEmpty || !cs.all isIdentifierChar then none else some cs

def readPre? : Option (List Char) → Option (List Identifier)
  | none => some []
  | some cs => (pieces isDot cs).mapM readIdentifier?

def readBuilds? : Option (List Char) → Option (List (List Char))
  | none => some []
  | some cs => (pieces isDot cs).mapM readBuild?

/-- Strict reading of `MAJOR.MINOR.PATCH[-pre][+build]`. -/
def parse? (cs : List Char) : Option Version := do
  let (rest, build) := cutFirst (· == '+') cs
  let (numbers, pre) := cutFirst (· == '-') rest
  match pieces isDot numbers with
  | [major, minor, patch] =>
    return {
      major := ← readNumber? major
      minor := ← readNumber? minor
      patch := ← readNumber? patch
      pre := ← readPre? pre
      build := ← readBuilds? build }
  | _ => none

/-- The text that a runtime version is read from: without blanks around it and one `v`. -/
def bare (cs : List Char) : List Char :=
  match trim cs with
  | 'v' :: rest => rest
  | cs => cs

def read? (s : String) : Option Version := parse? (bare s.toList)

def isPreRelease (v : Version) : Bool := !v.pre.isEmpty

def renderIdentifier : Identifier → List Char
  | .number n => decimal n
  | .word text => text

def render (v : Version) : List Char :=
  decimal v.major ++ '.' :: decimal v.minor ++ '.' :: decimal v.patch ++
    (if v.pre.isEmpty then [] else '-' :: joinWith ['.'] (v.pre.map renderIdentifier)) ++
    (if v.build.isEmpty then [] else '+' :: joinWith ['.'] v.build)

instance : ToString Version := ⟨fun v => String.ofList v.render⟩

end Version

end AirflowDeploy
