import AirflowDeploy.Proofs.Config.Contexts
import Mathlib.Data.List.Induction
import Mathlib.Logic.Relation

/-!
# Accepted configurations

Which documents are configurations, and what holds of a configuration from then on, whichever
contexts are made the current one and however the current one is edited.
-/
namespace AirflowDeploy.GlobalConfig

open Kdl Relation

variable {d : Document} {n : Node} {c c' : GlobalConfig} {context : Context}

/-- The domains that the contexts of a document are given, in their order. -/
def domainsOf (d : Document) : List String :=
  (d.filter (·.name = "context")).filterMap Node.text?

/-- The current context as the last node for it has it. One without a text names none, and takes
back what the nodes before it name. -/
def namedCurrent (d : Document) : Option String :=
  (d.filter (·.name = "current-context")).getLast?.bind Node.text?

/-- A mark of system administrators without a truth value. -/
def IsBadMark (n : Node) : Prop := n.name = "system-admin" ∧ n.bool? = none

/-- A context without a domain, or with a bad mark. -/
def IsBadContext (n : Node) : Prop :=
  n.name = "context" ∧ (n.text? = none ∨ ∃ mark ∈ n.children, IsBadMark mark)

/-- The document is no configuration. -/
inductive Rejected (d : Document) : Prop where
  | unreadable (n : Node) (hn : n ∈ d) (hbad : IsBadContext n)
  | repeated (hrepeated : ¬ (domainsOf d).Nodup)
  | dangling (domain : String) (hnamed : namedCurrent d = some domain)
      (hmissing : domain ∉ domainsOf d)

theorem readSetting_cases (context : Context) (n : Node) :
    (¬ IsBadMark n ∧ ∃ next, readSetting context n = .ok next ∧ next.domain = context.domain) ∨
      IsBadMark n ∧ ∃ e, readSetting context n = .error e := by
  by_cases hname : n.name = "system-admin"
  · cases hvalue : n.bool? <;> simp [readSetting, IsBadMark, hname, hvalue]
  · refine .inl ⟨fun hbad => hname hbad.1, ?_⟩
    unfold readSetting
    split <;> simp_all

theorem foldlM_readSetting_cases (settings : List Node) (context : Context) :
    ((∀ n ∈ settings, ¬ IsBadMark n) ∧
        ∃ next, settings.foldlM readSetting context = .ok next ∧ next.domain = context.domain) ∨
      (∃ n ∈ settings, IsBadMark n) ∧ ∃ e, settings.foldlM readSetting context = .error e := by
  induction settings generalizing context with
  | nil => exact .inl ⟨by simp, context, rfl, rfl⟩
  | cons n settings ih =>
    rw [List.foldlM_cons]
    rcases readSetting_cases context n with ⟨hgood, next, hnext, hdomain⟩ | ⟨hbad, e, he⟩
    · rw [hnext, ← hdomain]
      rcases ih next with ⟨hrest, hread⟩ | ⟨⟨other, hother, hbad⟩, herror⟩
      · exact .inl ⟨List.forall_mem_cons.mpr ⟨hgood, hrest⟩, hread⟩
      · exact .inr ⟨⟨other, List.mem_cons_of_mem n hother, hbad⟩, herror⟩
    · rw [he]
      exact .inr ⟨⟨n, List.mem_cons_self, hbad⟩, e, rfl⟩

/-- A context is read unless it is a bad one. -/
theorem readContext_cases (hname : n.name = "context") :
    (¬ IsBadContext n ∧
        ∃ context, readContext n = .ok context ∧ n.text? = some context.domain) ∨
      IsBadContext n ∧ ∃ e, readContext n = .error e := by
  rw [IsBadContext, readContext]
  cases n.text? with
  | none => exact .inr ⟨⟨hname, .inl rfl⟩, _, rfl⟩
  | some domain =>
    rcases foldlM_readSetting_cases n.children { domain := domain } with
      ⟨hgood, context, hread, hdomain⟩ | ⟨hbad, herror⟩
    · exact .inl ⟨by simpa using fun _ => hgood, context, hread, congrArg some hdomain.symm⟩
    · exact .inr ⟨⟨hname, .inr hbad⟩, herror⟩

theorem readNode_of_other (hcurrent : n.name ≠ "current-context") (hcontext : n.name ≠ "context") :
    readNode c n = .ok c := by
  unfold readNode
  split
  · exact absurd ‹_› hcurrent
  · exact absurd ‹_› hcontext
  · rfl

theorem readNode_of_current (hname : n.name = "current-context") :
    readNode c n = .ok { c with currentContext := n.text? } := by
  simp only [readNode, hname]

theorem readNode_of_context (hname : n.name = "context") (hread : readContext n = .ok context) :
    readNode c n = if c.hasContext context.domain
      then .error (.duplicate ("context '" ++ context.domain ++ "'"))
      else .ok { c with contexts := c.contexts ++ [context] } := by
  simp only [readNode, hname, hread]
  change (if c.hasContext context.domain then _ else _) = _
  split <;> rfl

theorem readNode_of_unreadable {e : ConfigError} (hname : n.name = "context")
    (hread : readContext n = .error e) : readNode c n = .error e := by
  rw [readNode, hname]
  change (readContext n).bind _ = _
  rw [hread]
  rfl

theorem domainsOf_append (d rest : Document) :
    domainsOf (d ++ rest) = domainsOf d ++ domainsOf rest := by
  simp [domainsOf]

theorem domainsOf_append_context (hname : n.name = "context") :
    domainsOf (d ++ [n]) = domainsOf d ++ n.text?.toList := by
  rw [domainsOf_append]
  cases htext : n.text? <;> simp [domainsOf, hname, htext]

theorem domainsOf_append_other (hname : n.name ≠ "context") :
    domainsOf (d ++ [n]) = domainsOf d := by
  rw [domainsOf_append]
  simp [domainsOf, hname]

theorem namedCurrent_append_current (hname : n.name = "current-context") :
    namedCurrent (d ++ [n]) = n.text? := by
  simp [namedCurrent, hname]

theorem namedCurrent_append_other (hname : n.name ≠ "current-context") :
    namedCurrent (d ++ [n]) = namedCurrent d := by
  simp [namedCurrent, hname]

/-- What the document is read as, before the current context is looked up. -/
structure ReadAs (d : Document) (c : GlobalConfig) : Prop where
  readable : ∀ n ∈ d, ¬ IsBadContext n
  distinct : (domainsOf d).Nodup
  domains : c.contexts.map (·.domain) = domainsOf d
  current : c.currentContext = namedCurrent d

theorem ReadAs.forall_readable (h : ReadAs d c) (hgood : ¬ IsBadContext n) :
    ∀ other ∈ d ++ [n], ¬ IsBadContext other :=
  List.forall_mem_append.mpr ⟨h.readable, List.forall_mem_singleton.mpr hgood⟩

/-- A node that is no context leaves the contexts as they are. -/
theorem ReadAs.append_other {current : Option String} (h : ReadAs d c) (hname : n.name ≠ "context")
    (hcurrent : current = namedCurrent (d ++ [n])) :
    ReadAs (d ++ [n]) { c with currentContext := current } where
  readable := h.forall_readable fun hbad => hname hbad.1
  distinct := by
    rw [domainsOf_append_other hname]
    exact h.distinct
  domains := h.domains.trans (domainsOf_append_other hname).symm
  current := hcurrent

theorem ReadAs.append_context (h : ReadAs d c) (hname : n.name = "context")
    (hgood : ¬ IsBadContext n) (hdomain : n.text? = some context.domain)
    (hnew : context.domain ∉ domainsOf d) :
    ReadAs (d ++ [n]) { c with contexts := c.contexts ++ [context] } where
  readable := h.forall_readable hgood
  distinct := by
    rw [domainsOf_append_context hname, hdomain]
    refine List.nodup_append.mpr ⟨h.distinct, by simp, ?_⟩
    rintro domain hthere _ hlast rfl
    exact hnew (List.mem_singleton.mp hlast ▸ hthere)
  domains := by
    rw [domainsOf_append_context hname, hdomain, List.map_append, h.domains]
    rfl
  current := by
    rw [namedCurrent_append_other (by simp [hname])]
    exact h.current

/-- One more node is read, or it is a bad context or a second one of its domain. -/
theorem ReadAs.step (h : ReadAs d c) (n : Node) :
    (∃ next, readNode c n = .ok next ∧ ReadAs (d ++ [n]) next) ∨
      (∃ e, readNode c n = .error e) ∧ (IsBadContext n ∨ ¬ (domainsOf (d ++ [n])).Nodup) := by
  by_cases hcontext : n.name = "context"
  · rcases readContext_cases hcontext with ⟨hgood, context, hread, hdomain⟩ | ⟨hbad, e, he⟩
    · rw [readNode_of_context hcontext hread]
      split
      · next hthere =>
        rw [hasContext_eq_true_iff, h.domains] at hthere
        refine .inr ⟨⟨_, rfl⟩, .inr fun hdistinct => ?_⟩
        rw [domainsOf_append_context hcontext, hdomain] at hdistinct
        exact (List.nodup_append.mp hdistinct).2.2 _ hthere _ List.mem_cons_self rfl
      · next hnew =>
        rw [hasContext_eq_true_iff, h.domains] at hnew
        exact .inl ⟨_, rfl, h.append_context hcontext hgood hdomain hnew⟩
    · exact .inr ⟨⟨e, readNode_of_unreadable hcontext he⟩, .inl hbad⟩
  · by_cases hcurrent : n.name = "current-context"
    · exact .inl ⟨_, readNode_of_current hcurrent,
        h.append_other hcontext (namedCurrent_append_current hcurrent).symm⟩
    · exact .inl ⟨_, readNode_of_other hcurrent hcontext,
        h.append_other hcontext (h.current.trans (namedCurrent_append_other hcurrent).symm)⟩

theorem foldlM_readNode_append (d : Document) (n : Node) :
    (d ++ [n]).foldlM readNode {} = (d.foldlM readNode {}).bind fun c => readNode c n := by
  rw [List.foldlM_append]
  exact bind_congr fun c => bind_pure (readNode c n)

/-- The nodes of a document are read unless one is a bad context or two have one domain. -/
theorem foldlM_readNode_cases (d : Document) :
    (∃ c, d.foldlM readNode {} = .ok c ∧ ReadAs d c) ∨
      (∃ e, d.foldlM readNode {} = .error e) ∧
        ((∃ n ∈ d, IsBadContext n) ∨ ¬ (domainsOf d).Nodup) := by
  -- From the end, so that `ReadAs.step` meets the last node with all that the others have left.
  induction d using List.reverseRecOn with
  | nil => exact .inl ⟨{}, rfl, by simp, List.nodup_nil, rfl, rfl⟩
  | append_singleton d n ih =>
    rw [foldlM_readNode_append]
    rcases ih with ⟨c, hc, hread⟩ | ⟨⟨e, he⟩, ⟨other, hother, hbad⟩ | hrepeated⟩
    · rw [hc]
      refine (hread.step n).imp_right (And.imp_right (Or.imp_left fun hbad => ?_))
      exact ⟨n, List.mem_append_right d List.mem_cons_self, hbad⟩
    · rw [he]
      exact .inr ⟨⟨e, rfl⟩, .inl ⟨other, List.mem_append_left _ hother, hbad⟩⟩
    · rw [he]
      refine .inr ⟨⟨e, rfl⟩, .inr fun hdistinct => hrepeated ?_⟩
      rw [domainsOf_append] at hdistinct
      exact (List.nodup_append.mp hdistinct).1

theorem checkCurrent_cases (c : GlobalConfig) :
    ((∀ domain ∈ c.currentContext, c.hasContext domain = true) ∧ checkCurrent c = .ok c) ∨
      (∃ domain ∈ c.currentContext, ¬ c.hasContext domain = true) ∧
        ∃ e, checkCurrent c = .error e := by
  rw [checkCurrent]
  cases c.currentContext with
  | none => exact .inl ⟨by simp, rfl⟩
  | some current => cases hthere : c.hasContext current <;> simp [hthere]

/-- Where all nodes are read, the current context is the last thing that can be wrong. -/
theorem ReadAs.rejected_iff (h : ReadAs d c) :
    Rejected d ↔ ∃ domain ∈ c.currentContext, ¬ c.hasContext domain = true := by
  simp only [h.current, hasContext_eq_true_iff, h.domains]
  constructor
  · rintro (⟨n, hn, hbad⟩ | hrepeated | ⟨domain, hnamed, hmissing⟩)
    · exact absurd hbad (h.readable n hn)
    · exact absurd h.distinct hrepeated
    · exact ⟨domain, hnamed, hmissing⟩
  · rintro ⟨domain, hnamed, hmissing⟩
    exact .dangling domain hnamed hmissing

/-- A document is read as a consistent configuration unless it is one that is rejected. -/
theorem ofDocument_cases (d : Document) :
    (¬ Rejected d ∧ ∃ c, ofDocument d = .ok c ∧ c.Consistent) ∨
      Rejected d ∧ ∃ e, ofDocument d = .error e := by
  change (_ ∧ ∃ c, (d.foldlM readNode {}).bind checkCurrent = .ok c ∧ _) ∨
    (_ ∧ ∃ e, (d.foldlM readNode {}).bind checkCurrent = .error e)
  rcases foldlM_readNode_cases d with ⟨c, hc, hread⟩ | ⟨⟨e, he⟩, ⟨n, hn, hbad⟩ | hrepeated⟩
  · rw [hc, hread.rejected_iff]
    rcases checkCurrent_cases c with ⟨hthere, hchecked⟩ | ⟨hmissing, hchecked⟩
    · exact .inl ⟨by simpa using hthere, c, hchecked, hread.domains ▸ hread.distinct, hthere⟩
    · exact .inr ⟨hmissing, hchecked⟩
  · rw [he]
    exact .inr ⟨.unreadable n hn hbad, e, rfl⟩
  · rw [he]
    exact .inr ⟨.repeated hrepeated, e, rfl⟩

theorem parse_of_read? {text : String} (hread : Kdl.read? text = some d) :
    parse text = ofDocument d := by
  rw [parse, Config.readDocument, hread]
  rfl

theorem error_parse_iff {text : String} (hread : Kdl.read? text = some d) :
    (∃ e, parse text = .error e) ↔ Rejected d := by
  rw [parse_of_read? hread]
  rcases ofDocument_cases d with ⟨haccepted, c, hc, -⟩ | ⟨hrejected, herror⟩
  · simp [hc, haccepted]
  · exact iff_of_true herror hrejected

theorem consistent_of_parse {text : String} (h : parse text = .ok c) : c.Consistent := by
  cases hread : Kdl.read? text with
  | none => simp [parse, Config.readDocument, hread, bind, Except.bind] at h
  | some d =>
    rw [parse_of_read? hread] at h
    rcases ofDocument_cases d with ⟨-, other, hother, hconsistent⟩ | ⟨-, e, he⟩
    · obtain rfl := Except.ok.inj (hother.symm.trans h)
      exact hconsistent
    · cases he.symm.trans h

/-- What is done to a configuration in memory. -/
inductive Change (c : GlobalConfig) : GlobalConfig → Prop where
  | setCurrent (context : Context) : Change c (c.setCurrent context)
  | edit (f : Context → Context)
      (hkeeps : ∀ context ∈ c.current?, (f context).domain = context.domain) :
      Change c (c.editCurrent f)

theorem Change.consistent (h : Change c c') (hconsistent : c.Consistent) : c'.Consistent := by
  cases h with
  | setCurrent context => exact hconsistent.setCurrent context
  | edit f hkeeps => exact hconsistent.editCurrent_of_keeps hkeeps

theorem consistent_of_changes (h : ReflTransGen Change c c') (hconsistent : c.Consistent) :
    c'.Consistent := by
  induction h with
  | refl => exact hconsistent
  | tail _ hchange ih => exact hchange.consistent ih

theorem Consistent.isSome_current?_iff (h : c.Consistent) :
    c.current?.isSome = c.currentContext.isSome := by
  rw [Bool.eq_iff_iff, ← not_iff_not]
  simpa using h.current?_eq_none_iff

theorem Consistent.current?_setCurrent (h : c.Consistent) (context : Context) :
    (c.setCurrent context).current? = some context :=
  (h.setCurrent context).current?_eq_some_iff.mpr ⟨rfl, filter_own_setCurrent h context⟩

/-- A document is rejected for one of four faults, and a configuration that was read stays
consistent over all changes: every domain has one context, the current context is there whenever
one is named, and making a context the current one leaves those of other domains alone. -/
theorem parse_consistent_over_changes (text : String) :
    (∀ d, Kdl.read? text = some d → ((∃ e, parse text = .error e) ↔ Rejected d)) ∧
      ∀ c, parse text = .ok c → ∀ c', ReflTransGen Change c c' →
        c'.Consistent ∧
          c'.current?.isSome = c'.currentContext.isSome ∧
          (∀ context, c'.current? = some context →
            c'.currentContext = some context.domain ∧
              c'.contexts.filter (·.domain == context.domain) = [context]) ∧
          ∀ context, (c'.setCurrent context).current? = some context ∧
            (c'.setCurrent context).contexts.filter (·.domain != context.domain) =
              c'.contexts.filter (·.domain != context.domain) := by
  refine ⟨fun d hread => error_parse_iff hread, fun c hparse c' hchanges => ?_⟩
  have hconsistent := consistent_of_changes hchanges (consistent_of_parse hparse)
  exact ⟨hconsistent, hconsistent.isSome_current?_iff,
    fun context => hconsistent.current?_eq_some_iff.mp,
    fun context => ⟨hconsistent.current?_setCurrent context,
      filter_others_setCurrent hconsistent context⟩⟩

/-- Two contexts. The second one is current, which an earlier node has otherwise. -/
def pairText : String :=
  "current-context \"a\"\ncontext \"a\"\ncontext \"b\" \x7b\n  token \"t\"\n\x7d\n" ++
    "current-context \"b\"\nother 1\n"

def pair : GlobalConfig where
  currentContext := some "b"
  contexts := [{ domain := "a" }, { domain := "b", token := "t" }]

def logOut (context : Context) : Context := { context with token := "" }

/-- The context for `b` is logged out, and one for `c` is added. -/
theorem changes_pair : ReflTransGen Change pair
    ((pair.editCurrent logOut).setCurrent { domain := "c", token := "u" }) :=
  .tail (.single (.edit logOut fun _ _ => rfl)) (.setCurrent _)

theorem pairText_consistent_over_changes :
    ((Kdl.read? pairText).isSome = true ∧ parse pairText = .ok pair ∧ ReflTransGen Change pair
      ((pair.editCurrent logOut).setCurrent { domain := "c", token := "u" })) ∧
      (∀ d, Kdl.read? pairText = some d → ¬ Rejected d) ∧
      ((pair.editCurrent logOut).setCurrent { domain := "c", token := "u" }).Consistent := by
  have hread : parse pairText = .ok pair := by decide +kernel
  obtain ⟨herror, hchanges⟩ := parse_consistent_over_changes pairText
  refine ⟨⟨by decide +kernel, hread, changes_pair⟩, fun d hd hrejected => ?_, ?_⟩
  · obtain ⟨e, he⟩ := (herror d hd).mpr hrejected
    cases hread.symm.trans he
  · exact (hchanges pair hread _ changes_pair).1

end AirflowDeploy.GlobalConfig
