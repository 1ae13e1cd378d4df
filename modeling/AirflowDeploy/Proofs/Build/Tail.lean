import AirflowDeploy.Build.OutputTail
import Mathlib.Data.List.DropRight

/-!
# Kept lines

A tail keeps the last lines that were pushed, in the order of the pushes. Exactly the tails with
room for a line stay within their capacity.
-/
namespace AirflowDeploy.Build

theorem length_rtake {α : Type} (l : List α) (n : Nat) : (l.rtake n).length = min n l.length := by
  rw [List.rtake, List.length_drop]
  omega

/-- What was not among the last elements is not among them after one more. -/
theorem rtake_rtake_append_singleton {α : Type} (l : List α) (a : α) (n : Nat) :
    (l.rtake n ++ [a]).rtake n = (l ++ [a]).rtake n := by
  cases n with
  | zero => simp
  | succ n =>
    have hrtake : (l.rtake (n + 1)).rtake n = l.rtake n := by
      simp [List.rtake_eq_reverse_take_reverse, List.take_take]
    rw [List.rtake_concat_succ, List.rtake_concat_succ, hrtake]

theorem map_rtake {α β : Type} (f : α → β) (l : List α) (n : Nat) :
    (l.rtake n).map f = (l.map f).rtake n := by
  rw [List.rtake, List.rtake, List.map_drop, List.length_map]

theorem take_append_rtake {α : Type} (l : List α) (n : Nat) :
    l.take (l.length - n) ++ l.rtake n = l := List.take_append_drop _ l

theorem rtake_append_of_length {α : Type} {first rest : List α} {n : Nat} (h : rest.length = n) :
    (first ++ rest).rtake n = rest := by
  rw [List.rtake, List.length_append, h, Nat.add_sub_cancel, List.drop_left]

/-- The last elements with a property are the last elements of all if these have the property. -/
theorem rtake_filter_eq_iff {α : Type} {p : α → Bool} {l : List α} {n : Nat} :
    (l.filter p).rtake n = l.rtake n ↔ ∀ a ∈ l.rtake n, p a = true := by
  constructor
  · intro hsame a ha
    rw [← hsame] at ha
    exact (List.mem_filter.mp (List.mem_of_mem_drop ha)).2
  · intro hall
    have hlast : (l.rtake n).filter p = l.rtake n := List.filter_eq_self.mpr hall
    rcases Nat.lt_or_ge l.length n with hshort | hlong
    · have hwhole : l.rtake n = l := by
        rw [List.rtake, Nat.sub_eq_zero_of_le (Nat.le_of_lt hshort), List.drop_zero]
      rw [hwhole] at hlast ⊢
      rw [hlast, hwhole]
    · have hlength : (l.rtake n).length = n := by
        rw [length_rtake, Nat.min_eq_left hlong]
      conv_lhs => rw [← take_append_rtake l n, List.filter_append, hlast]
      exact rtake_append_of_length hlength

theorem mem_rtake_zipIdx {α : Type} {l : List α} {n : Nat} {p : α × Nat} :
    p ∈ l.zipIdx.rtake n ↔ l.length - n ≤ p.2 ∧ l[p.2]? = some p.1 := by
  have hdrop : l.zipIdx.rtake n = (l.rtake n).zipIdx (l.length - n) := by
    refine List.ext_getElem? fun i => ?_
    simp [List.rtake, List.getElem?_zipIdx, Nat.add_comm]
  rw [hdrop, List.mem_zipIdx_iff_le_and_getElem?_sub]
  refine and_congr_right fun hle => ?_
  rw [List.rtake, List.getElem?_drop, Nat.add_sub_cancel' hle]

namespace OutputTail

theorem capacity_pushAll (t : OutputTail) (lines : List String) :
    (t.pushAll lines).capacity = t.capacity := by
  induction lines generalizing t with
  | nil => rfl
  | cons line lines ih => exact ih (t.push line)

theorem pushAll_append (t : OutputTail) (first rest : List String) :
    t.pushAll (first ++ rest) = (t.pushAll first).pushAll rest := List.foldl_append

variable {t : OutputTail}

/-- A tail without capacity is not full once it holds a line, so it gives none away. -/
theorem lines_push_of_capacity_zero (h : t.capacity = 0) (line : String) :
    (t.push line).lines = t.lines ++ [line] := by
  rw [push]
  dsimp only
  split
  · next hfull =>
    rw [List.eq_nil_of_length_eq_zero (hfull.trans h), List.tail_nil]
  · rfl

theorem lines_pushAll_of_capacity_zero (h : t.capacity = 0) (lines : List String) :
    (t.pushAll lines).lines = t.lines ++ lines := by
  induction lines generalizing t with
  | nil => exact (List.append_nil t.lines).symm
  | cons line lines ih =>
    have hrest : ((t.push line).pushAll lines).lines = (t.push line).lines ++ lines := ih h
    rw [lines_push_of_capacity_zero h, ← List.append_cons] at hrest
    exact hrest

section

variable (hpos : 0 < t.capacity)
include hpos

/-- A tail that has room takes a line, and a full one gives its oldest line away for it. -/
theorem lines_push (h : t.lines.length ≤ t.capacity) (line : String) :
    (t.push line).lines = (t.lines ++ [line]).rtake t.capacity := by
  rw [push, List.rtake, List.length_append, List.length_singleton]
  dsimp only
  split
  · next hfull =>
    rw [hfull, Nat.add_sub_cancel_left, List.drop_append_of_le_length (by omega), List.drop_one]
  · rw [show t.lines.length + 1 - t.capacity = 0 by omega, List.drop_zero]

theorem length_lines_push_le (h : t.lines.length ≤ t.capacity) (line : String) :
    (t.push line).lines.length ≤ t.capacity := by
  rw [lines_push hpos h, length_rtake]
  exact Nat.min_le_left _ _

/-- A tail within its capacity stays within it. -/
theorem length_lines_pushAll_le (h : t.lines.length ≤ t.capacity) (lines : List String) :
    (t.pushAll lines).lines.length ≤ t.capacity := by
  induction lines generalizing t with
  | nil => exact h
  | cons line lines ih => exact ih hpos (length_lines_push_le hpos h line)

/-- What is kept of a tail that is filled from the start are the last pushed lines. -/
theorem lines_pushAll (hempty : t.lines = []) (lines : List String) :
    (t.pushAll lines).lines = lines.rtake t.capacity := by
  induction lines using List.reverseRecOn with
  | nil => simpa [pushAll] using hempty
  | append_singleton lines line ih =>
    have hcapacity := capacity_pushAll t lines
    have hlength : (t.pushAll lines).lines.length ≤ (t.pushAll lines).capacity := by
      rw [hcapacity]
      exact length_lines_pushAll_le hpos (by simp [hempty]) lines
    rw [pushAll_append]
    refine (lines_push (hcapacity ▸ hpos) hlength line).trans ?_
    rw [hcapacity, ih, rtake_rtake_append_singleton]

end

/-- Exactly the tails with room for a line are bounded: one without capacity keeps all lines. -/
theorem forall_length_le_iff {capacity : Nat} :
    (∀ lines, ((empty capacity).pushAll lines).lines.length ≤ capacity) ↔ 0 < capacity := by
  constructor
  · intro hall
    by_contra hzero
    obtain rfl := Nat.eq_zero_of_not_pos hzero
    have hone := hall [""]
    rw [lines_pushAll_of_capacity_zero rfl] at hone
    exact absurd hone (by decide)
  · intro hpos lines
    exact length_lines_pushAll_le hpos (Nat.zero_le _) lines

end OutputTail

end AirflowDeploy.Build
