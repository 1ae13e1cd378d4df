import AirflowDeploy.Proofs.Dialogue.Runs

/-!
# Runs through another dialogue

Where each question of a dialogue is carried out by a dialogue of its own, a run consists of the
runs of these dialogues, one after the other.
-/
namespace AirflowDeploy.Dialogue

variable {I J : Interface} {α : Type} {realize : (q : I.Query) → Dialogue J (I.Answer q)}
  {outer : List (Exchange I)} {inner : List (Exchange J)}

/-- The exchanges `outer` are carried out, one after the other, through the exchanges `inner`. -/
inductive Realizes (realize : (q : I.Query) → Dialogue J (I.Answer q)) :
    List (Exchange I) → List (Exchange J) → Prop where
  | nil : Realizes realize [] []
  | cons {e : Exchange I} {outer : List (Exchange I)} {first rest : List (Exchange J)}
      (run : Runs (realize e.query) first e.answer) (more : Realizes realize outer rest) :
      Realizes realize (e :: outer) (first ++ rest)

theorem runs_through_iff {d : Dialogue I α} {a : α} :
    Runs (d.through realize) inner a ↔ ∃ outer, Runs d outer a ∧ Realizes realize outer inner := by
  induction d generalizing inner with
  | done b =>
    rw [through, runs_done_iff]
    constructor
    · rintro ⟨rfl, rfl⟩
      exact ⟨[], .done a, .nil⟩
    · rintro ⟨outer, hd, hr⟩
      obtain ⟨rfl, rfl⟩ := runs_done_iff.mp hd
      cases hr
      exact ⟨rfl, rfl⟩
  | ask q next ih =>
    change Runs (realize q >>= fun answer => (next answer).through realize) inner a ↔ _
    rw [runs_bind_iff]
    constructor
    · rintro ⟨first, answer, rest, rfl, hq, hnext⟩
      obtain ⟨outer, hd, hr⟩ := (ih answer).mp hnext
      exact ⟨⟨q, answer⟩ :: outer, .ask answer hd, .cons hq hr⟩
    · rintro ⟨outer, hd, hr⟩
      obtain ⟨answer, rest, rfl, hnext⟩ := runs_ask_iff.mp hd
      cases hr with
      | @cons _ _ first last run more =>
        exact ⟨first, answer, last, rfl, run, (ih answer).mpr ⟨rest, hnext, more⟩⟩

namespace Realizes

/-- Every exchange is carried out by a run of its own. -/
theorem exists_run {e : Exchange I} (h : Realizes realize outer inner) (he : e ∈ outer) :
    ∃ first, Runs (realize e.query) first e.answer ∧ first ⊆ inner := by
  induction h with
  | nil => cases he
  | @cons e' outer first rest run more ih =>
    rcases List.mem_cons.mp he with rfl | he
    · exact ⟨first, run, List.subset_append_left _ _⟩
    · obtain ⟨part, hrun, hsub⟩ := ih he
      exact ⟨part, hrun, List.Subset.trans hsub (List.subset_append_right _ _)⟩

/-- Every exchange that carries something out stands in the run of one exchange. -/
theorem exists_run_of_mem {e : Exchange J} (h : Realizes realize outer inner) (he : e ∈ inner) :
    ∃ e' ∈ outer, ∃ first, Runs (realize e'.query) first e'.answer ∧ e ∈ first ∧
      first ⊆ inner := by
  induction h with
  | nil => cases he
  | @cons e' outer first rest run more ih =>
    rcases List.mem_append.mp he with he | he
    · exact ⟨e', List.mem_cons_self, first, run, he, List.subset_append_left _ _⟩
    · obtain ⟨e'', hmem, part, hrun, hpart, hsub⟩ := ih he
      exact ⟨e'', List.mem_cons_of_mem _ hmem, part, hrun, hpart,
        List.Subset.trans hsub (List.subset_append_right _ _)⟩

end Realizes

end AirflowDeploy.Dialogue
