/-!
# Cutting text at a separator

The part before and the part after the first or the last separator.
-/
namespace AirflowDeploy.Text

/-- The text before the first separator, and the text after it when there is one. -/
def cutFirst (p : Char → Bool) (cs : List Char) : List Char × Option (List Char) :=
  match cs.dropWhile fun c => !p c with
  | [] => (cs, none)
  | _ :: rest => (cs.takeWhile fun c => !p c, some rest)

/-- The text before the last separator when there is one, and the text after it. -/
def cutLast (p : Char → Bool) (cs : List Char) : Option (List Char) × List Char :=
  let after := (cs.reverse.takeWhile fun c => !p c).reverse
  match cs.reverse.dropWhile fun c => !p c with
  | [] => (none, after)
  | _ :: before => (some before.reverse, after)

/-- The rest after a given beginning. -/
def afterPrefix? : List Char → List Char → Option (List Char)
  | [], cs => some cs
  | _ :: _, [] => none
  | p :: ps, c :: cs => if p = c then afterPrefix? ps cs else none

/-- Texts with a separator between each two. -/
def joinWith (sep : List Char) : List (List Char) → List Char
  | [] => []
  | [text] => text
  | text :: rest => text ++ sep ++ joinWith sep rest

/-- Whether `needle` stands somewhere in `cs`. -/
def contains (needle : List Char) : List Char → Bool
  | [] => needle.isEmpty
  | c :: cs => (afterPrefix? needle (c :: cs)).isSome || contains needle cs

theorem afterPrefix?_append (ps cs : List Char) : afterPrefix? ps (ps ++ cs) = some cs := by
  induction ps with
  | nil => rfl
  | cons p ps ih => simp [afterPrefix?, ih]

theorem eq_append_of_afterPrefix? {ps cs rest : List Char} (h : afterPrefix? ps cs = some rest) :
    cs = ps ++ rest := by
  induction ps generalizing cs with
  | nil => simp_all [afterPrefix?]
  | cons p ps ih =>
    cases cs with
    | nil => simp [afterPrefix?] at h
    | cons c cs =>
      rw [afterPrefix?] at h
      split at h
      · next hc => rw [hc, ih h]; rfl
      · simp at h

end AirflowDeploy.Text
