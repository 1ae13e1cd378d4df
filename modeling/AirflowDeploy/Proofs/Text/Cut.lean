import AirflowDeploy.Text.Cut
import Mathlib.Data.List.TakeWhile

/-!
# Cut and joined texts

A text loses what surrounds it at both ends. It is cut at the first separator in it, and texts are
joined with a separator between each two.
-/
namespace AirflowDeploy.Text

section TakeWhile

variable {α : Type} {p : α → Bool} {as : List α}

theorem dropWhile_eq_self (h : ∀ a ∈ as.head?, p a = false) : as.dropWhile p = as := by
  cases as with
  | nil => rfl
  | cons a as => simp [h a rfl]

theorem takeWhile_eq_nil (h : ∀ a ∈ as.head?, p a = false) : as.takeWhile p = [] := by
  cases as with
  | nil => rfl
  | cons a as => simp [h a rfl]

theorem head?_dropWhile : ∀ a ∈ (as.dropWhile p).head?, p a = false := by
  intro a ha
  have hstop := List.head?_dropWhile_not p as
  rw [Option.mem_def.mp ha] at hstop
  exact hstop

theorem mem_dropWhile_iff {a : α} (ha : p a = false) : a ∈ as.dropWhile p ↔ a ∈ as := by
  induction as with
  | nil => rfl
  | cons b as ih =>
    by_cases hb : p b = true
    · have hne : a ≠ b := by
        rintro rfl
        simp [ha] at hb
      simp [hb, ih, hne]
    · simp [hb]

theorem dropWhile_append_cons {a : α} (ha : p a = false) (rest : List α) :
    (as ++ a :: rest).dropWhile p = as.dropWhile p ++ a :: rest := by
  rw [List.dropWhile_append]
  split
  · rename_i hnil
    simp [List.isEmpty_iff.mp hnil, ha]
  · rfl

/-- A list with elements of `p` around it, of which none is left at its own ends. -/
def IsCore (p : α → Bool) (core as : List α) : Prop :=
  ∃ first last, as = first ++ (core ++ last) ∧ (∀ a ∈ first ++ last, p a = true) ∧
    (∀ a ∈ core.head?, p a = false) ∧ ∀ a ∈ core.getLast?, p a = false

/-- What is left when both ends are dropped is a core. -/
theorem isCore_dropEnds (p : α → Bool) (as : List α) :
    IsCore p ((as.dropWhile p).reverse.dropWhile p).reverse as := by
  let inner := as.dropWhile p
  have hinner :
      (inner.reverse.dropWhile p).reverse ++ (inner.reverse.takeWhile p).reverse = inner := by
    rw [← List.reverse_append, List.takeWhile_append_dropWhile, List.reverse_reverse]
  refine ⟨as.takeWhile p, (inner.reverse.takeWhile p).reverse, ?_, ?_, ?_, ?_⟩
  · rw [hinner, List.takeWhile_append_dropWhile]
  · intro a ha
    rcases List.mem_append.mp ha with ha | ha
    · exact List.mem_takeWhile_imp ha
    · exact List.mem_takeWhile_imp (List.mem_reverse.mp ha)
  · intro a ha
    have hhead : inner.head? = some a := by
      rw [← hinner, List.head?_append, Option.mem_def.mp ha, Option.some_or]
    exact head?_dropWhile a hhead
  · intro a ha
    rw [List.getLast?_reverse] at ha
    exact head?_dropWhile a ha

theorem IsCore.dropEnds_eq {core : List α} (h : IsCore p core as) :
    ((as.dropWhile p).reverse.dropWhile p).reverse = core := by
  obtain ⟨first, last, rfl, hends, hhead, hlast⟩ := h
  have hfirst : (first ++ (core ++ last)).dropWhile p = (core ++ last).dropWhile p :=
    List.dropWhile_append_of_pos fun a ha => hends a (List.mem_append_left last ha)
  have hrest : ∀ a ∈ last, p a = true := fun a ha => hends a (List.mem_append_right first ha)
  rw [hfirst]
  cases core with
  | nil =>
    have hnone : last.dropWhile p = [] := List.dropWhile_eq_nil_iff.mpr hrest
    simp [hnone]
  | cons a core =>
    have hstop : (a :: core ++ last).dropWhile p = a :: core ++ last :=
      dropWhile_eq_self fun c hc => hhead c (by simpa using hc)
    have hback : (a :: core).reverse.dropWhile p = (a :: core).reverse :=
      dropWhile_eq_self fun c hc => hlast c (by rwa [List.head?_reverse] at hc)
    rw [hstop, List.reverse_append, List.dropWhile_append_of_pos (by simpa using hrest), hback,
      List.reverse_reverse]

theorem dropEnds_eq_iff {core : List α} :
    ((as.dropWhile p).reverse.dropWhile p).reverse = core ↔ IsCore p core as := by
  constructor
  · rintro rfl
    exact isCore_dropEnds p as
  · exact IsCore.dropEnds_eq

end TakeWhile

theorem cutFirst_append {p : Char → Bool} {cs : List Char} (hcs : ∀ c ∈ cs, p c = false) {c : Char}
    (hc : p c = true) (rest : List Char) : cutFirst p (cs ++ c :: rest) = (cs, some rest) := by
  have hdrop : (cs ++ c :: rest).dropWhile (fun c => !p c) = c :: rest := by
    rw [List.dropWhile_append_of_pos (by simpa using hcs)]
    simp [hc]
  have htake : (cs ++ c :: rest).takeWhile (fun c => !p c) = cs := by
    rw [List.takeWhile_append_of_pos (by simpa using hcs)]
    simp [hc]
  simp [cutFirst, hdrop, htake]

theorem cutFirst_eq_self {p : Char → Bool} {cs : List Char} (hcs : ∀ c ∈ cs, p c = false) :
    cutFirst p cs = (cs, none) := by
  have hdrop : cs.dropWhile (fun c => !p c) = [] :=
    List.dropWhile_eq_nil_iff.mpr (by simpa using hcs)
  simp [cutFirst, hdrop]

theorem beq_eq_false_of_notMem {c d : Char} {cs : List Char} (h : c ∉ cs) (hd : d ∈ cs) :
    (d == c) = false := beq_eq_false_iff_ne.mpr fun he => h (he ▸ hd)

theorem cutFirst_eq_self_of_notMem {c : Char} {cs : List Char} (h : c ∉ cs) :
    cutFirst (· == c) cs = (cs, none) := cutFirst_eq_self fun _ => beq_eq_false_of_notMem h

theorem notMem_of_cutFirst {c : Char} {cs : List Char} (h : (cutFirst (· == c) cs).2 = none) :
    c ∉ cs := by
  unfold cutFirst at h
  split at h
  · rename_i hnil
    intro hmem
    simpa using List.dropWhile_eq_nil_iff.mp hnil c hmem
  · cases h

/-- What stands in front of the first separator and what stands behind it make up the text. -/
theorem append_of_cutFirst (c : Char) (cs : List Char) :
    (cutFirst (· == c) cs).1 ++ (cutFirst (· == c) cs).2.elim [] (c :: ·) = cs ∧
      c ∉ (cutFirst (· == c) cs).1 := by
  by_cases hmem : c ∈ cs
  · obtain ⟨left, right, rfl, hleft⟩ := List.eq_append_cons_of_mem hmem
    rw [cutFirst_append (fun _ => beq_eq_false_of_notMem hleft) (beq_self_eq_true c)]
    exact ⟨rfl, hleft⟩
  · rw [cutFirst_eq_self_of_notMem hmem]
    exact ⟨List.append_nil cs, hmem⟩

theorem cutLast_append {p : Char → Bool} (cs : List Char) {c : Char} (hc : p c = true)
    {rest : List Char} (hrest : ∀ d ∈ rest, p d = false) :
    cutLast p (cs ++ c :: rest) = (some cs, rest) := by
  have hother : ∀ d ∈ rest.reverse, (!p d) = true := by simpa using hrest
  have hreverse : (cs ++ c :: rest).reverse = rest.reverse ++ c :: cs.reverse := by simp
  have htake : (cs ++ c :: rest).reverse.takeWhile (fun d => !p d) = rest.reverse := by
    rw [hreverse, List.takeWhile_append_of_pos hother]
    simp [hc]
  have hdrop : (cs ++ c :: rest).reverse.dropWhile (fun d => !p d) = c :: cs.reverse := by
    rw [hreverse, List.dropWhile_append_of_pos hother]
    simp [hc]
  simp only [cutLast, htake, hdrop, List.reverse_reverse]

theorem cutLast_eq_self {p : Char → Bool} {cs : List Char} (hcs : ∀ c ∈ cs, p c = false) :
    cutLast p cs = (none, cs) := by
  have hother : ∀ c ∈ cs.reverse, (!p c) = true := by simpa using hcs
  have htake : cs.reverse.takeWhile (fun c => !p c) = cs.reverse :=
    List.takeWhile_eq_self_iff.mpr hother
  have hdrop : cs.reverse.dropWhile (fun c => !p c) = [] := List.dropWhile_eq_nil_iff.mpr hother
  simp only [cutLast, htake, hdrop, List.reverse_reverse]

/-- A text with a certain character is cut at the last one of them. -/
theorem exists_last_of_mem {c : Char} {cs : List Char} (h : c ∈ cs) :
    ∃ before after, cs = before ++ c :: after ∧ c ∉ after := by
  obtain ⟨after, before, hreverse, hafter⟩ := List.eq_append_cons_of_mem (List.mem_reverse.mpr h)
  refine ⟨before.reverse, after.reverse, ?_, by simpa using hafter⟩
  rw [← List.reverse_reverse cs, hreverse]
  simp

theorem joinWith_cons_cons (sep text next : List Char) (rest : List (List Char)) :
    joinWith sep (text :: next :: rest) = text ++ sep ++ joinWith sep (next :: rest) := rfl

theorem joinWith_append {sep : List Char} {first rest : List (List Char)} (hf : first ≠ [])
    (hr : rest ≠ []) :
    joinWith sep (first ++ rest) = joinWith sep first ++ sep ++ joinWith sep rest := by
  induction first with
  | nil => exact absurd rfl hf
  | cons text first ih =>
    cases first with
    | nil =>
      obtain ⟨next, more, rfl⟩ := List.exists_cons_of_ne_nil hr
      rfl
    | cons next first =>
      have hrest := ih (List.cons_ne_nil next first)
      rw [List.cons_append, List.cons_append, joinWith_cons_cons, ← List.cons_append, hrest,
        joinWith_cons_cons]
      simp

end AirflowDeploy.Text
