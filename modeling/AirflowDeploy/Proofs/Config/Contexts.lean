import AirflowDeploy.Proofs.Config.RoundTrip

/-!
# Changes of contexts

Making a context the current one changes no other context, and editing the current one changes
nothing else. Both keep a configuration consistent.
-/
namespace AirflowDeploy.GlobalConfig

variable {c : GlobalConfig} {context : Context} {domain : String} {f : Context → Context}

theorem updateFirst_eq_map {contexts : List Context}
    (hdistinct : (contexts.map (·.domain)).Nodup) :
    updateFirst (fun other => other.domain == domain) f contexts =
      contexts.map fun other => if other.domain = domain then f other else other := by
  induction contexts with
  | nil => rfl
  | cons first rest ih =>
    obtain ⟨hnew, hrest⟩ := List.nodup_cons.mp hdistinct
    rw [updateFirst, List.map_cons]
    by_cases hfirst : first.domain = domain
    · have hothers : ∀ other ∈ rest, other.domain ≠ domain := fun other hother heq =>
        hnew (List.mem_map.mpr ⟨other, hother, heq.trans hfirst.symm⟩)
      have hsame : (rest.map fun other => if other.domain = domain then f other else other) =
          rest := by
        refine (List.map_congr_left fun other hother => ?_).trans (List.map_id _)
        exact if_neg (hothers other hother)
      rw [hsame]
      simp [hfirst]
    · rw [← ih hrest]
      simp [hfirst]

/-- At most one context has a domain. -/
theorem filter_domain_eq {contexts : List Context}
    (hdistinct : (contexts.map (·.domain)).Nodup) :
    contexts.filter (·.domain == domain) = (contexts.find? (·.domain == domain)).toList := by
  induction contexts with
  | nil => rfl
  | cons first rest ih =>
    obtain ⟨hnew, hrest⟩ := List.nodup_cons.mp hdistinct
    rw [List.filter_cons, List.find?_cons]
    by_cases hfirst : first.domain = domain
    · have hnone : rest.filter (·.domain == domain) = [] := by
        refine List.filter_eq_nil_iff.mpr fun other hother heq => hnew ?_
        exact List.mem_map.mpr ⟨other, hother, (beq_iff_eq.mp heq).trans hfirst.symm⟩
      simp [hfirst, hnone]
    · have hother : (first.domain == domain) = false := beq_eq_false_iff_ne.mpr hfirst
      simp [hother, ih hrest]

theorem find?_eq_none_iff : c.find? domain = none ↔ c.hasContext domain = false := by
  simp [find?, hasContext]

theorem domain_of_find? (h : c.find? domain = some context) : context.domain = domain := by
  simpa using List.find?_some h

theorem Consistent.current?_eq_none_iff (h : c.Consistent) :
    c.current? = none ↔ c.currentContext = none := by
  rw [current?]
  cases hcurrent : c.currentContext with
  | none => simp
  | some current =>
    have hthere := h.current current hcurrent
    simp [find?_eq_none_iff, hthere]

/-- The current context is the only one of its domain. -/
theorem Consistent.current?_eq_some (h : c.Consistent) (hcurrent : c.currentContext = some domain)
    (hthere : context ∈ c.contexts) (hdomain : context.domain = domain) :
    c.current? = some context := by
  have hmem : context ∈ c.contexts.filter (·.domain == domain) :=
    List.mem_filter.mpr ⟨hthere, beq_iff_eq.mpr hdomain⟩
  rw [filter_domain_eq h.distinct] at hmem
  rw [current?, hcurrent]
  exact Option.mem_toList.mp hmem

theorem Consistent.current?_eq_some_iff (h : c.Consistent) :
    c.current? = some context ↔
      c.currentContext = some context.domain ∧
        c.contexts.filter (·.domain == context.domain) = [context] := by
  rw [filter_domain_eq h.distinct]
  constructor
  · intro hfound
    obtain ⟨domain, hcurrent, hfind⟩ := Option.bind_eq_some_iff.mp hfound
    obtain rfl := domain_of_find? hfind
    exact ⟨hcurrent, congrArg Option.toList hfind⟩
  · rintro ⟨hcurrent, honly⟩
    rw [current?, hcurrent]
    exact Option.toList_eq_singleton_iff.mp honly

/-- A configuration is consistent if another with the same domains is. -/
theorem Consistent.of_domains {next : GlobalConfig} (h : c.Consistent)
    (hcurrent : next.currentContext = c.currentContext)
    (hdomains : next.contexts.map (·.domain) = c.contexts.map (·.domain)) : next.Consistent where
  distinct := hdomains ▸ h.distinct
  current := by
    intro domain hthere
    rw [hasContext_eq_true_iff, hdomains, ← hasContext_eq_true_iff]
    exact h.current domain (hcurrent ▸ hthere)

theorem editCurrent_of_none (hcurrent : c.currentContext = none) : c.editCurrent f = c := by
  rw [editCurrent, hcurrent]

theorem contexts_editCurrent (h : c.Consistent) (hcurrent : c.currentContext = some domain) :
    c.editCurrent f =
      { c with
        contexts := c.contexts.map fun other =>
          if other.domain = domain then f other else other } := by
  rw [editCurrent, hcurrent]
  exact congrArg (GlobalConfig.mk (some domain)) (updateFirst_eq_map h.distinct)

/-- It is enough that the edit keeps the domain of the context that it is made on. -/
theorem Consistent.editCurrent_of_keeps (h : c.Consistent)
    (hkeeps : ∀ context ∈ c.current?, (f context).domain = context.domain) :
    (c.editCurrent f).Consistent := by
  cases hcurrent : c.currentContext with
  | none =>
    rwa [editCurrent_of_none hcurrent]
  | some current =>
    rw [contexts_editCurrent h hcurrent]
    refine h.of_domains rfl ((List.map_map ..).trans (List.map_congr_left fun other hother => ?_))
    rw [Function.comp_apply]
    split
    · next hown => exact hkeeps other (h.current?_eq_some hcurrent hother hown)
    · rfl

section Edit

variable (hdomain : ∀ other, (f other).domain = other.domain)

include hdomain

theorem map_domain_edit (contexts : List Context) :
    (contexts.map fun other => if other.domain = domain then f other else other).map (·.domain) =
      contexts.map (·.domain) := by
  rw [List.map_map]
  refine List.map_congr_left fun other _ => ?_
  by_cases hother : other.domain = domain <;> simp [hother, hdomain]

theorem Consistent.editCurrent (h : c.Consistent) : (c.editCurrent f).Consistent :=
  h.editCurrent_of_keeps fun context _ => hdomain context

theorem find?_editCurrent (h : c.Consistent) (hcurrent : c.currentContext = some domain)
    (wanted : String) :
    (c.editCurrent f).find? wanted =
      (c.find? wanted).map fun other => if other.domain = domain then f other else other := by
  rw [contexts_editCurrent h hcurrent, find?, List.find?_map]
  congr 1
  refine congrArg (c.contexts.find? ·) (funext fun other => ?_)
  by_cases hother : other.domain = domain <;> simp [hother, hdomain]

end Edit

theorem IsFaithful.editCurrent (h : c.Consistent) (hfaithful : c.IsFaithful)
    (hedit : ∀ other ∈ c.contexts, ∀ text ∈ (f other).texts, Kdl.Faithful text) :
    (c.editCurrent f).IsFaithful := by
  cases hcurrent : c.currentContext with
  | none =>
    rwa [editCurrent_of_none hcurrent]
  | some current =>
    rw [isFaithful_iff] at hfaithful
    rw [contexts_editCurrent h hcurrent, isFaithful_iff]
    refine ⟨hfaithful.1, fun context hcontext => ?_⟩
    obtain ⟨other, hother, rfl⟩ := List.mem_map.mp hcontext
    split
    · exact hedit other hother
    · exact hfaithful.2 other hother

/-- Where a context has the domain, it is replaced in its place. -/
theorem contexts_setCurrent_of_hasContext (h : c.Consistent) (hhas : c.hasContext context.domain) :
    (c.setCurrent context).contexts =
      c.contexts.map fun other => if other.domain = context.domain then context else other := by
  change (if c.hasContext context.domain then _ else _) = _
  rw [if_pos hhas]
  exact updateFirst_eq_map h.distinct

theorem contexts_setCurrent_of_not_hasContext (hhas : ¬ c.hasContext context.domain) :
    (c.setCurrent context).contexts = c.contexts ++ [context] := if_neg hhas

theorem filter_others_setCurrent (h : c.Consistent) (context : Context) :
    (c.setCurrent context).contexts.filter (·.domain != context.domain) =
      c.contexts.filter (·.domain != context.domain) := by
  by_cases hhas : c.hasContext context.domain
  · rw [contexts_setCurrent_of_hasContext h hhas]
    induction c.contexts with
    | nil => rfl
    | cons first rest ih =>
      by_cases hfirst : first.domain = context.domain <;> simp [hfirst, ih]
  · simp [contexts_setCurrent_of_not_hasContext hhas]

theorem map_domain_setCurrent (h : c.Consistent) (hhas : c.hasContext context.domain) :
    (c.setCurrent context).contexts.map (·.domain) = c.contexts.map (·.domain) := by
  rw [contexts_setCurrent_of_hasContext h hhas, List.map_map]
  refine List.map_congr_left fun other _ => ?_
  by_cases hother : other.domain = context.domain <;> simp [hother]

theorem hasContext_setCurrent (h : c.Consistent) (context : Context) :
    (c.setCurrent context).hasContext context.domain = true := by
  rw [hasContext_eq_true_iff]
  by_cases hhas : c.hasContext context.domain
  · rw [map_domain_setCurrent h hhas]
    exact hasContext_eq_true_iff.mp hhas
  · simp [contexts_setCurrent_of_not_hasContext hhas]

theorem Consistent.setCurrent (h : c.Consistent) (context : Context) :
    (c.setCurrent context).Consistent where
  distinct := by
    by_cases hhas : c.hasContext context.domain
    · rw [map_domain_setCurrent h hhas]
      exact h.distinct
    · rw [contexts_setCurrent_of_not_hasContext hhas, List.map_append, List.map_singleton]
      refine List.nodup_append.mpr ⟨h.distinct, by simp, ?_⟩
      rintro domain hdomain _ hnew rfl
      rw [List.mem_singleton.mp hnew] at hdomain
      exact hhas (hasContext_eq_true_iff.mpr hdomain)
  current := by
    rintro _ ⟨⟩
    exact hasContext_setCurrent h context

theorem find?_setCurrent (h : c.Consistent) (context : Context) (wanted : String) :
    (c.setCurrent context).find? wanted =
      if wanted = context.domain then some context else c.find? wanted := by
  by_cases hhas : c.hasContext context.domain
  · have hkeeps : ((·.domain == wanted) ∘ fun other : Context =>
        if other.domain = context.domain then context else other) = (·.domain == wanted) := by
      funext other
      by_cases hother : other.domain = context.domain <;> simp [hother]
    rw [find?, contexts_setCurrent_of_hasContext h hhas, List.find?_map, hkeeps]
    cases hfind : c.find? wanted with
    | none =>
      have hmissing : wanted ≠ context.domain := by
        rintro rfl
        simp [find?_eq_none_iff.mp hfind] at hhas
      rw [if_neg hmissing]
      exact congrArg _ hfind
    | some other =>
      refine (congrArg _ hfind).trans ?_
      rw [← domain_of_find? hfind]
      split <;> simp_all
  · rw [find?, contexts_setCurrent_of_not_hasContext hhas, List.find?_append]
    by_cases hwanted : wanted = context.domain
    · have hnone : c.contexts.find? (·.domain == wanted) = none :=
        find?_eq_none_iff.mpr (by simpa [hwanted] using hhas)
      rw [hnone, Option.none_or, if_pos hwanted]
      simp [hwanted]
    · have hnone : [context].find? (·.domain == wanted) = none := by
        simpa using Ne.symm hwanted
      rw [hnone, if_neg hwanted, Option.or_none]
      rfl

/-- The domain of the new context occurs once. -/
theorem filter_own_setCurrent (h : c.Consistent) (context : Context) :
    (c.setCurrent context).contexts.filter (·.domain == context.domain) = [context] := by
  rw [filter_domain_eq (h.setCurrent context).distinct]
  change ((c.setCurrent context).find? context.domain).toList = _
  rw [find?_setCurrent h, if_pos rfl]
  rfl

theorem mem_setCurrent (h : c.Consistent) {other : Context}
    (hother : other ∈ (c.setCurrent context).contexts) : other = context ∨ other ∈ c.contexts := by
  by_cases hhas : c.hasContext context.domain
  · rw [contexts_setCurrent_of_hasContext h hhas] at hother
    obtain ⟨first, hfirst, rfl⟩ := List.mem_map.mp hother
    split
    · exact .inl rfl
    · exact .inr hfirst
  · rw [contexts_setCurrent_of_not_hasContext hhas] at hother
    simpa [or_comm] using hother

theorem IsFaithful.setCurrent (h : c.Consistent) (hfaithful : c.IsFaithful)
    (hnew : ∀ text ∈ context.texts, Kdl.Faithful text) : (c.setCurrent context).IsFaithful := by
  rw [isFaithful_iff] at hfaithful ⊢
  constructor
  · intro text htext
    rw [List.mem_singleton.mp htext]
    exact hnew _ List.mem_cons_self
  · intro other hother
    rcases mem_setCurrent h hother with rfl | hold
    · exact hnew
    · exact hfaithful.2 other hold

end AirflowDeploy.GlobalConfig
