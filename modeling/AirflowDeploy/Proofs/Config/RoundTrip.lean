import AirflowDeploy.Config.Global
import AirflowDeploy.Proofs.Kdl.Documents

/-!
# Written configurations

A configuration is read back from its text as it was, or its text is no document at all. Whatever
its strings are, none of them changes another setting.
-/
namespace AirflowDeploy

open Kdl

/-- The strings of a context. -/
def Context.texts (c : Context) : List String := [c.domain, c.token, c.workspace, c.organization]

namespace GlobalConfig

/-- Every domain has one context, and the current context is there. -/
structure Consistent (c : GlobalConfig) : Prop where
  distinct : (c.contexts.map (·.domain)).Nodup
  current : ∀ domain ∈ c.currentContext, c.hasContext domain = true

/-- The strings of a configuration. -/
def texts (c : GlobalConfig) : List String :=
  c.currentContext.toList ++ c.contexts.flatMap Context.texts

/-- A configuration whose strings are read back once they are written. -/
def IsFaithful (c : GlobalConfig) : Prop := ∀ text ∈ c.texts, Faithful text

theorem isFaithful_iff {c : GlobalConfig} :
    c.IsFaithful ↔ (∀ text ∈ c.currentContext.toList, Faithful text) ∧
      ∀ context ∈ c.contexts, ∀ text ∈ context.texts, Faithful text := by
  rw [IsFaithful, texts, List.forall_mem_append, List.forall_mem_flatMap]

theorem faithful_contextNode_iff (context : Context) :
    (∀ text ∈ textsOf [contextNode context], Faithful text) ↔
      ∀ text ∈ context.texts, Faithful text := by
  have hwords : Faithful "context" ∧ Faithful "token" ∧ Faithful "workspace" ∧
      Faithful "organization" ∧ Faithful "system-admin" := by decide
  have htexts : textsOf [contextNode context] = ["context", context.domain, "token", context.token,
      "workspace", context.workspace, "organization", context.organization, "system-admin"] := rfl
  simp [htexts, hwords, Context.texts]

theorem textsOf_cons (n : Node) (d : Document) : textsOf (n :: d) = textsOf [n] ++ textsOf d := by
  simp [textsOf, families]

theorem textsOf_append (first rest : Document) :
    textsOf (first ++ rest) = textsOf first ++ textsOf rest := by
  induction first with
  | nil => rfl
  | cons n first ih =>
    rw [List.cons_append, textsOf_cons, ih, textsOf_cons n first, List.append_assoc]

/-- The words of the document itself are never lost. -/
theorem faithful_toDocument_iff (c : GlobalConfig) :
    (∀ text ∈ textsOf c.toDocument, Faithful text) ↔ c.IsFaithful := by
  have hcurrent : (∀ text ∈ textsOf (c.currentContext.toList.map (Node.ofText "current-context")),
      Faithful text) ↔ ∀ text ∈ c.currentContext.toList, Faithful text := by
    have hword : Faithful "current-context" := by decide
    cases c.currentContext with
    | none => simp [textsOf, families]
    | some current =>
      have htexts : textsOf [Node.ofText "current-context" current] =
          ["current-context", current] := rfl
      simp [htexts, hword]
  have hcontexts : (∀ text ∈ textsOf (c.contexts.map contextNode), Faithful text) ↔
      ∀ context ∈ c.contexts, ∀ text ∈ context.texts, Faithful text := by
    induction c.contexts with
    | nil => simp [textsOf, families]
    | cons context contexts ih =>
      rw [List.map_cons, textsOf_cons, List.forall_mem_append, faithful_contextNode_iff, ih,
        List.forall_mem_cons]
  rw [toDocument, textsOf_append, List.forall_mem_append, hcurrent, hcontexts, isFaithful_iff]

theorem wordy_contextNode (context : Context) :
    ∀ n ∈ (contextNode context).family, n.Wordy := by
  simp [contextNode, Node.ofValue, Node.ofText, Node.ofBool, Node.family, families, Node.Wordy,
    Value.isNumber]

theorem wordy_toDocument (c : GlobalConfig) : ∀ n ∈ families c.toDocument, n.Wordy := by
  intro n hn
  obtain ⟨node, hnode, hn⟩ := mem_families.mp hn
  rcases List.mem_append.mp hnode with hcurrent | hcontext
  · obtain ⟨current, -, rfl⟩ := List.mem_map.mp hcurrent
    simp_all [Node.ofValue, Node.ofText, Node.family, families, Node.Wordy, Value.isNumber]
  · obtain ⟨context, -, rfl⟩ := List.mem_map.mp hcontext
    exact wordy_contextNode context n hn

theorem readNode_contextNode {c : GlobalConfig} {context : Context}
    (hnew : c.hasContext context.domain = false) :
    readNode c (contextNode context) = .ok { c with contexts := c.contexts ++ [context] } := by
  change (do
    if c.hasContext context.domain then throw (.duplicate ("context '" ++ context.domain ++ "'"))
    return { c with contexts := c.contexts ++ [context] } : Except ConfigError GlobalConfig) = _
  rw [hnew]
  rfl

theorem hasContext_eq_true_iff {c : GlobalConfig} {domain : String} :
    c.hasContext domain = true ↔ domain ∈ c.contexts.map (·.domain) := by
  simp [hasContext]

theorem foldlM_contextNodes (contexts : List Context) {c : GlobalConfig}
    (hdistinct : ((c.contexts ++ contexts).map (·.domain)).Nodup) :
    (contexts.map contextNode).foldlM readNode c =
      .ok { c with contexts := c.contexts ++ contexts } := by
  induction contexts generalizing c with
  | nil =>
    rw [List.append_nil]
    rfl
  | cons context contexts ih =>
    have hnew : c.hasContext context.domain = false := by
      rw [← Bool.not_eq_true, hasContext_eq_true_iff]
      rw [List.map_append, List.map_cons] at hdistinct
      obtain ⟨-, -, hdisjoint⟩ := List.nodup_append.mp hdistinct
      exact fun hmem => hdisjoint _ hmem _ List.mem_cons_self rfl
    have hmore : (({ c with contexts := c.contexts ++ [context] } : GlobalConfig).contexts ++
        contexts) = c.contexts ++ context :: contexts := by simp
    rw [List.map_cons, List.foldlM_cons, readNode_contextNode hnew]
    refine (ih (hmore ▸ hdistinct)).trans ?_
    rw [hmore]

theorem ofDocument_toDocument {c : GlobalConfig} (h : c.Consistent) :
    ofDocument c.toDocument = .ok c := by
  obtain ⟨currentContext, contexts⟩ := c
  have hread : (toDocument ⟨currentContext, contexts⟩).foldlM readNode {} =
      .ok ⟨currentContext, contexts⟩ := by
    rw [toDocument, List.foldlM_append]
    cases currentContext with
    | none => exact foldlM_contextNodes contexts h.distinct
    | some current => exact foldlM_contextNodes (c := ⟨some current, []⟩) contexts h.distinct
  rw [ofDocument, hread]
  cases currentContext with
  | none => rfl
  | some current =>
    exact if_pos (h.current current rfl)

theorem parse_render_of_isFaithful {c : GlobalConfig} (h : c.Consistent)
    (hfaithful : c.IsFaithful) : parse c.render = .ok c := by
  have hread := read?_render (wordy_toDocument c)
  rw [if_pos ((faithful_toDocument_iff c).mpr hfaithful)] at hread
  rw [parse, Config.readDocument, render, hread]
  exact ofDocument_toDocument h

theorem parse_render_of_not_isFaithful {c : GlobalConfig} (hlost : ¬ c.IsFaithful) :
    parse c.render = .error .syntaxError := by
  have hread := read?_render (wordy_toDocument c)
  rw [if_neg (mt (faithful_toDocument_iff c).mp hlost)] at hread
  rw [parse, Config.readDocument, render, hread]
  rfl

/-- A configuration is read back from its text if all of its strings can be, and otherwise its
text is no document. It is never read as another configuration. -/
theorem parse_render {c : GlobalConfig} (h : c.Consistent) :
    (c.IsFaithful → parse c.render = .ok c) ∧
      (¬ c.IsFaithful → parse c.render = .error .syntaxError) :=
  ⟨parse_render_of_isFaithful h, parse_render_of_not_isFaithful⟩

instance (c : GlobalConfig) : Decidable c.IsFaithful :=
  inferInstanceAs (Decidable (∀ text ∈ c.texts, Faithful text))

/-- Strings with quotes, braces and line ends, an empty one and one that looks like a number. -/
def awkward : GlobalConfig where
  currentContext := some "+1"
  contexts := [{ domain := "", token := "\"\n\x7d token \\x", workspace := "#true" },
    { domain := "+1", token := "a b", organization := "/-", systemAdmin := true }]

theorem consistent_awkward : awkward.Consistent where
  distinct := by decide
  current := by
    rintro _ ⟨⟩
    decide

theorem parse_render_awkward : awkward.IsFaithful ∧ parse awkward.render = .ok awkward :=
  have hfaithful : awkward.IsFaithful := by decide
  ⟨hfaithful, (parse_render consistent_awkward).1 hfaithful⟩

end GlobalConfig

end AirflowDeploy
