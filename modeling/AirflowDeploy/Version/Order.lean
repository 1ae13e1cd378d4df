import AirflowDeploy.Version.Basic

/-!
# Order of versions

Precedence compares the three numbers, then the pre-release. Build metadata has no part in it.
-/
namespace AirflowDeploy

namespace Text

/-- Lexical order of texts by code point, which is also the order of their UTF-8 bytes. -/
def compare : List Char → List Char → Ordering
  | [], [] => .eq
  | [], _ :: _ => .lt
  | _ :: _, [] => .gt
  | a :: as, b :: bs => (Ord.compare a.toNat b.toNat).then (compare as bs)

end Text

namespace Identifier

/-- Numbers compare by value and come before words. -/
def compare : Identifier → Identifier → Ordering
  | .number a, .number b => Ord.compare a b
  | .number _, .word _ => .lt
  | .word _, .number _ => .gt
  | .word a, .word b => Text.compare a b

/-- From left to right; a proper beginning comes first. -/
def compareLists : List Identifier → List Identifier → Ordering
  | [], [] => .eq
  | [], _ :: _ => .lt
  | _ :: _, [] => .gt
  | a :: as, b :: bs => (a.compare b).then (compareLists as bs)

/-- No pre-release at all comes after every pre-release. -/
def comparePre : List Identifier → List Identifier → Ordering
  | [], [] => .eq
  | [], _ :: _ => .gt
  | _ :: _, [] => .lt
  | as, bs => compareLists as bs

end Identifier

namespace Version

/-- Semantic-version precedence. -/
def compare (a b : Version) : Ordering :=
  (Ord.compare a.major b.major).then <| (Ord.compare a.minor b.minor).then <|
    (Ord.compare a.patch b.patch).then <| Identifier.comparePre a.pre b.pre

/-- Whether two versions count as the same one. -/
def isSame (a b : Version) : Bool := a.compare b == .eq

end Version

end AirflowDeploy
