import AirflowDeploy.Proofs.Text.Cut
import AirflowDeploy.Proofs.Text.Lines
import AirflowDeploy.Proofs.Version.Order

/-!
# Chains of upgrades

A chain of upgrades is an upgrade as a whole where one and the same order decides all of it. Where
precedence and code points take turns, it may end on a version that is older than the first one.
-/
namespace AirflowDeploy.Version

open Std Text

/-- Whether a text reads as a version. -/
def isReadable (text : String) : Bool := (read? text).isSome

/-- Each text is an upgrade of the one before it. -/
abbrev Upgrades (texts : List String) : Prop := texts.IsChain fun a b => isUpgrade a b = true

section Comparison

variable {a b : String}

theorem compareTexts_of_read {v w : Version} (ha : read? a = some v) (hb : read? b = some w) :
    compareTexts a b = v.compare w := by
  simp [compareTexts, ha, hb]

theorem compareTexts_of_not_readable (h : (isReadable a && isReadable b) = false) :
    compareTexts a b = Text.compare a.toList b.toList := by
  unfold compareTexts
  split
  · next ha hb => simp [isReadable, ha, hb] at h
  · rfl

theorem compareTexts_self (a : String) : compareTexts a a = .eq := by
  cases ha : read? a with
  | some v => rw [compareTexts_of_read ha ha]; exact ReflCmp.compare_self
  | none =>
    rw [compareTexts_of_not_readable (by simp [isReadable, ha])]
    exact ReflCmp.compare_self

theorem isUpgrade_iff :
    isUpgrade a b = true ↔ a = "" ∨ b ≠ "" ∧ (compareTexts a b).isLE = true := by
  simp [isUpgrade, Ordering.isLE_iff_ne_gt]

theorem isUpgrade_self (a : String) : isUpgrade a a = true := by
  rw [isUpgrade_iff, compareTexts_self]
  by_cases h : a = ""
  · exact .inl h
  · exact .inr ⟨h, rfl⟩

/-- Both texts are versions, and the second one is not older. -/
def NotOlder (a b : String) : Prop :=
  ∃ v w, read? a = some v ∧ read? b = some w ∧ (v.compare w).isLE = true

instance : Trans NotOlder NotOlder NotOlder where
  trans := by
    rintro a b c ⟨u, v, ha, hb, huv⟩ ⟨v', w, hb', hc, hvw⟩
    obtain rfl := Option.some.inj (hb.symm.trans hb')
    exact ⟨u, w, ha, hc, TransCmp.isLE_trans huv hvw⟩

theorem notOlder_of_isLE (ha : isReadable a = true) (hb : isReadable b = true)
    (h : (compareTexts a b).isLE = true) : NotOlder a b := by
  obtain ⟨v, hv⟩ := Option.isSome_iff_exists.mp ha
  obtain ⟨w, hw⟩ := Option.isSome_iff_exists.mp hb
  rw [compareTexts_of_read hv hw] at h
  exact ⟨v, w, hv, hw, h⟩

theorem NotOlder.isUpgrade (h : NotOlder a b) : isUpgrade a b = true := by
  obtain ⟨v, w, ha, hb, hle⟩ := h
  refine isUpgrade_iff.mpr (.inr ⟨?_, by rwa [compareTexts_of_read ha hb]⟩)
  rintro rfl
  cases hb

/-- By code points the second text is not before the first one. -/
def NotBefore (a b : String) : Prop := (Text.compare a.toList b.toList).isLE = true

instance : Trans NotBefore NotBefore NotBefore where
  trans hab hbc := TransCmp.isLE_trans hab hbc

theorem NotBefore.isUpgrade (h : NotBefore a b) (hr : (isReadable a && isReadable b) = false) :
    isUpgrade a b = true := by
  rw [isUpgrade_iff, compareTexts_of_not_readable hr]
  refine or_iff_not_imp_left.mpr fun ha => ⟨?_, h⟩
  rintro rfl
  cases hcs : a.toList with
  | nil => exact ha (String.toList_eq_nil_iff.mp hcs)
  | cons c cs => simp [NotBefore, hcs, Text.compare] at h

end Comparison

/-- Which of the texts of a chain are readable. Both ends and both texts of every step are
compared by one order: by precedence all of them, or none of them. -/
def OneOrder (readable : List Bool) : Prop :=
  readable.IsChain fun a b => (a && b) = (readable.headD true && readable.getLastD true)

variable {texts : List String} {first last : String}

theorem headD_map_isReadable (h : texts.head? = some first) :
    (texts.map isReadable).headD true = isReadable first := by
  rw [List.headD_eq_head?_getD, List.head?_map, h]
  rfl

theorem getLastD_map_isReadable (h : texts.getLast? = some last) :
    (texts.map isReadable).getLastD true = isReadable last := by
  rw [List.getLastD_eq_getLast?, List.getLast?_map, h]
  rfl

theorem Upgrades.ne_empty (h : Upgrades (first :: texts)) (hne : first ≠ "") :
    ∀ text ∈ first :: texts, text ≠ "" := by
  induction texts generalizing first with
  | nil => simpa using hne
  | cons next texts ih =>
    obtain ⟨hstep, hrest⟩ := List.isChain_cons_cons.mp h
    have hnext : next ≠ "" := ((isUpgrade_iff.mp hstep).resolve_left hne).1
    exact List.forall_mem_cons.mpr ⟨hne, ih hrest hnext⟩

/-- Under one order the last version is an upgrade of the first one. -/
theorem isUpgrade_of_upgrades (h : Upgrades (first :: texts))
    (hlast : (first :: texts).getLast? = some last)
    (ho : OneOrder ((first :: texts).map isReadable)) : isUpgrade first last = true := by
  by_cases hne : first = ""
  · exact isUpgrade_iff.mpr (.inl hne)
  have hnonempty := h.ne_empty hne
  have hfirst : (first :: texts).head? = some first := rfl
  rw [OneOrder, headD_map_isReadable hfirst, getLastD_map_isReadable hlast,
    List.isChain_map, List.isChain_iff_forall_rel_of_append_cons_cons] at ho
  have hsteps ⦃a b : String⦄ ⦃l₁ l₂ : List String⦄ (heq : first :: texts = l₁ ++ a :: b :: l₂) :
      (compareTexts a b).isLE = true := by
    have hstep := List.isChain_iff_forall_rel_of_append_cons_cons.mp h heq
    exact ((isUpgrade_iff.mp hstep).resolve_left (hnonempty a (by simp [heq]))).2
  rcases List.mem_cons.mp (List.mem_of_getLast? hlast) with rfl | hmem
  · exact isUpgrade_self last
  cases hc : isReadable first && isReadable last with
  | true =>
    have hchain : (first :: texts).IsChain NotOlder := by
      rw [List.isChain_iff_forall_rel_of_append_cons_cons]
      intro a b l₁ l₂ heq
      have hboth := Bool.and_eq_true_iff.mp ((ho heq).trans hc)
      exact notOlder_of_isLE hboth.1 hboth.2 (hsteps heq)
    exact (hchain.rel_cons hmem).isUpgrade
  | false =>
    have hchain : (first :: texts).IsChain NotBefore := by
      rw [List.isChain_iff_forall_rel_of_append_cons_cons]
      intro a b l₁ l₂ heq
      have hle := hsteps heq
      rwa [compareTexts_of_not_readable ((ho heq).trans hc)] at hle
    exact (hchain.rel_cons hmem).isUpgrade hc

/-- Build metadata is read on its own. -/
theorem parse?_append {cs : List Char} (hcs : ∀ c ∈ cs, (c == '+') = false) (build : List Char) :
    parse? (cs ++ '+' :: build) = (parse? cs).bind fun v =>
      (readBuilds? (some build)).map fun builds => { v with build := builds } := by
  unfold parse?
  rw [cutFirst_append hcs rfl, cutFirst_eq_self hcs]
  simp only
  split
  · have hnone : readBuilds? none = some [] := rfl
    simp only [hnone, Option.bind_eq_bind, Option.pure_def, Option.map_eq_bind, Option.bind_assoc,
      Option.bind_some, Function.comp_def]
  · rfl

/-- The text of a version without build metadata, with nothing in front of its numbers. -/
structure Plain (base : List Char) (v : Version) : Prop where
  parses : parse? base = some v
  noBuild : ∀ c ∈ base, (c == '+') = false
  startsWithDigit : ∃ c cs, base = c :: cs ∧ isDigit c = true

/-- Build metadata that grows with `n`; a sign at its end makes it unreadable. -/
def stamp (n : Nat) (readable : Bool) : List Char :=
  List.replicate n 'a' ++ [if readable then 'a' else '!']

/-- A text of the version `base`, the later in code points the greater `n` is. -/
def stamped (base : List Char) (n : Nat) (readable : Bool) : String :=
  String.ofList (base ++ '+' :: stamp n readable)

section Stamped

variable {base : List Char} {v : Version} {n : Nat} {readable : Bool}

theorem readBuilds?_stamp :
    readBuilds? (some (stamp n readable)) =
      if readable then some [stamp n readable] else none := by
  have hdot : ∀ c ∈ stamp n readable, isDot c = false := by
    intro c hc
    rcases List.mem_append.mp hc with hc | hc
    · obtain rfl := List.eq_of_mem_replicate hc
      rfl
    · obtain rfl := List.mem_singleton.mp hc
      cases readable <;> rfl
  have hbuild : readBuild? (stamp n readable) =
      if readable then some (stamp n readable) else none := by
    have hletter : isIdentifierChar 'a' = true := rfl
    have hsign : isIdentifierChar '!' = false := rfl
    cases readable <;> simp [readBuild?, stamp, hletter, hsign]
  simp only [readBuilds?, pieces_eq_singleton hdot, List.mapM_cons, List.mapM_nil, hbuild]
  cases readable <;> rfl

theorem bare_stamped (h : Plain base v) :
    bare (stamped base n readable).toList = base ++ '+' :: stamp n readable := by
  obtain ⟨c, cs, rfl, hc⟩ := h.startsWithDigit
  have hsolid : SolidEnd (c :: cs ++ '+' :: stamp n readable) :=
    ⟨c :: cs ++ '+' :: List.replicate n 'a', if readable then 'a' else '!', by simp [stamp],
      by cases readable <;> rfl⟩
  have hv : c ≠ 'v' := by
    rintro rfl
    cases hc
  rw [stamped, String.toList_ofList, bare, trim, List.cons_append,
    trimStart_eq_self (isBlank_of_isDigit hc), ← List.cons_append, hsolid.trimEnd_eq]
  split
  · next heq => exact absurd (List.cons.inj heq).1 hv
  · rfl

theorem read?_stamped (h : Plain base v) :
    read? (stamped base n readable) =
      if readable then some { v with build := [stamp n readable] } else none := by
  rw [read?, bare_stamped h, parse?_append h.noBuild, h.parses, readBuilds?_stamp]
  cases readable <;> rfl

@[simp] theorem isReadable_stamped (h : Plain base v) :
    isReadable (stamped base n readable) = readable := by
  cases readable <;> simp [isReadable, read?_stamped h]

theorem stamped_ne_empty : stamped base n readable ≠ "" := by
  intro h
  have hnil := String.toList_eq_nil_iff.mpr h
  simp [stamped, stamp] at hnil

/-- The next text of the same version is an upgrade, whichever order decides. -/
theorem isUpgrade_stamped_succ (h : Plain base v) (next : Bool) :
    isUpgrade (stamped base n readable) (stamped base (n + 1) next) = true := by
  cases hc : readable && next with
  | true =>
    obtain ⟨rfl, rfl⟩ := Bool.and_eq_true_iff.mp hc
    have hsame : v.compare v = .eq := ReflCmp.compare_self
    exact NotOlder.isUpgrade
      ⟨_, _, read?_stamped h, read?_stamped h, Ordering.isLE_of_eq_eq hsame⟩
  | false =>
    have hgrows : Text.compare (stamp n readable) (stamp (n + 1) next) = .lt := by
      rw [stamp, stamp, List.replicate_succ', List.append_assoc, Text.compare_append_left]
      cases readable <;> rfl
    refine NotBefore.isUpgrade ?_ (by simpa [isReadable_stamped h] using hc)
    simp [NotBefore, stamped, Text.compare_append_left, Text.compare, hgrows]

/-- Texts of one version, which grow in code points and are readable as is told. -/
def stampedFrom (base : List Char) (n : Nat) : List Bool → List String
  | [] => []
  | readable :: rest => stamped base n readable :: stampedFrom base (n + 1) rest

theorem map_isReadable_stampedFrom (h : Plain base v) (kinds : List Bool) :
    (stampedFrom base n kinds).map isReadable = kinds := by
  induction kinds generalizing n with
  | nil => rfl
  | cons readable rest ih => simp [stampedFrom, isReadable_stamped h, ih]

theorem upgrades_stampedFrom (h : Plain base v) (kinds : List Bool) :
    Upgrades (stampedFrom base n kinds) := by
  induction kinds generalizing n with
  | nil => exact .nil
  | cons readable rest ih =>
    cases rest with
    | nil => exact .singleton _
    | cons next rest => exact List.isChain_cons_cons.mpr ⟨isUpgrade_stamped_succ h next, ih⟩

theorem eq_stamped_of_mem (h : Plain base v) {kinds : List Bool} {text : String}
    (hmem : text ∈ stampedFrom base n kinds) : ∃ m, text = stamped base m (isReadable text) := by
  induction kinds generalizing n with
  | nil => cases hmem
  | cons readable rest ih =>
    rcases List.mem_cons.mp hmem with rfl | hmem
    · exact ⟨n, by rw [isReadable_stamped h]⟩
    · exact ih hmem

end Stamped

/-- A text of one version is an upgrade of a text of another one as the order says that decides. -/
theorem isUpgrade_stamped {base base' : List Char} {v w : Version} (h : Plain base v)
    (h' : Plain base' w) (m n : Nat) (a b : Bool) :
    isUpgrade (stamped base m a) (stamped base' n b) =
      if a && b then (v.compare w).isLE
      else (Text.compare (base ++ '+' :: stamp m a) (base' ++ '+' :: stamp n b)).isLE := by
  have hle : isUpgrade (stamped base m a) (stamped base' n b) =
      (compareTexts (stamped base m a) (stamped base' n b)).isLE := by
    rw [Bool.eq_iff_iff, isUpgrade_iff]
    simp [stamped_ne_empty]
  rw [hle]
  split
  · next hboth =>
    obtain ⟨rfl, rfl⟩ := Bool.and_eq_true_iff.mp hboth
    rw [compareTexts_of_read (read?_stamped h) (read?_stamped h')]
    rfl
  · next hboth =>
    rw [compareTexts_of_not_readable]
    · simp [stamped]
    · simpa [isReadable_stamped h, isReadable_stamped h'] using hboth

/-- There are two versions with an upgrade from the first one to the second under one of the two
orders only, whichever that is. -/
theorem exists_upgrade_iff (precedence : Bool) :
    ∃ base base' v w, Plain base v ∧ Plain base' w ∧ ∀ m n a b,
      isUpgrade (stamped base m a) (stamped base' n b) = ((a && b) == precedence) := by
  have hnine : Plain "9.0.0".toList ⟨9, 0, 0, [], []⟩ := ⟨rfl, by simp, '9', _, rfl, rfl⟩
  have hten : Plain "10.0.0".toList ⟨10, 0, 0, [], []⟩ := ⟨rfl, by simp, '1', _, rfl, rfl⟩
  cases precedence with
  | true =>
    refine ⟨_, _, _, _, hnine, hten, fun m n a b => ?_⟩
    rw [isUpgrade_stamped hnine hten]
    cases a && b <;> rfl
  | false =>
    refine ⟨_, _, _, _, hten, hnine, fun m n a b => ?_⟩
    rw [isUpgrade_stamped hten hnine]
    cases a && b <;> rfl

/-- Two chains with an upgrade from one to the other where the order decides that decides between
`a` and `b`, and nowhere else. -/
theorem exists_chains_across (before : List Bool) (a b : Bool) (after : List Bool) :
    ∃ left right, left.map isReadable = before ++ [a] ∧ right.map isReadable = b :: after ∧
      Upgrades left ∧ Upgrades right ∧
      ∀ x ∈ left, ∀ y ∈ right, isUpgrade x y = ((isReadable x && isReadable y) == (a && b)) := by
  obtain ⟨base, base', v, w, hbase, hbase', hupgrade⟩ := exists_upgrade_iff (a && b)
  refine ⟨stampedFrom base 0 (before ++ [a]), stampedFrom base' 0 (b :: after),
    map_isReadable_stampedFrom hbase _, map_isReadable_stampedFrom hbase' _,
    upgrades_stampedFrom hbase _, upgrades_stampedFrom hbase' _, fun x hx y hy => ?_⟩
  obtain ⟨m, hm⟩ := eq_stamped_of_mem hbase hx
  obtain ⟨n, hn⟩ := eq_stamped_of_mem hbase' hy
  rw [← hupgrade m n, ← hm, ← hn]

/-- Chains of upgrades are upgrades as a whole, for all texts that are readable or not as is told,
exactly where this leaves one order for all comparisons. -/
theorem upgrades_compose_iff (readable : List Bool) :
    (∀ texts, texts.map isReadable = readable → Upgrades texts →
      ∀ first ∈ texts.head?, ∀ last ∈ texts.getLast?, isUpgrade first last = true) ↔
    OneOrder readable := by
  constructor
  · intro hcompose
    rw [OneOrder, List.isChain_iff_forall_rel_of_append_cons_cons]
    rintro a b before after rfl
    -- The step from `a` to `b` goes from one version to another; all other steps stay at theirs.
    obtain ⟨left, right, hleft, hright, hup, hup', hacross⟩ :=
      exists_chains_across before a b after
    have hne : left ≠ [] ∧ right ≠ [] := by
      constructor <;> rintro rfl <;> simp at hleft hright
    have hjoined : (left ++ right).map isReadable = before ++ a :: b :: after := by
      rw [List.map_append, hleft, hright, List.append_assoc, List.singleton_append]
    have hjunction : ∀ x ∈ left.getLast?, ∀ y ∈ right.head?, isUpgrade x y = true := by
      intro x hx y hy
      have hxa : isReadable x = a := by
        rw [← getLastD_map_isReadable hx, hleft, List.getLastD_concat]
      have hyb : isReadable y = b := by
        rw [← headD_map_isReadable hy, hright, List.headD_cons]
      rw [hacross x (List.mem_of_getLast? hx) y (List.mem_of_head? hy), hxa, hyb, beq_self_eq_true]
    have hfirst : (left ++ right).head? = some (left.head hne.1) := by
      rw [List.head?_append_of_ne_nil _ hne.1, List.head?_eq_some_head hne.1]
    have hlast : (left ++ right).getLast? = some (right.getLast hne.2) := by
      rw [List.getLast?_append_of_ne_nil _ hne.2, List.getLast?_eq_some_getLast hne.2]
    have hends := hcompose _ hjoined (List.isChain_append.mpr ⟨hup, hup', hjunction⟩)
      _ hfirst _ hlast
    rw [hacross _ (List.head_mem hne.1) _ (List.getLast_mem hne.2), beq_iff_eq] at hends
    rw [← hjoined, headD_map_isReadable hfirst, getLastD_map_isReadable hlast, hends]
  · rintro ho texts rfl h first hfirst last hlast
    obtain ⟨rest, rfl⟩ := List.head?_eq_some_iff.mp hfirst
    exact isUpgrade_of_upgrades h hlast ho

/-- Each step is an upgrade, and the last version is older than the first one. -/
theorem upgrades_through_unreadable :
    Upgrades ["4.10.0", "4.2.x", "4.9.0"] ∧ (∀ text ∈ ["4.10.0", "4.2.x", "4.9.0"], text ≠ "") ∧
      isUpgrade "4.10.0" "4.9.0" = false := by
  refine ⟨?_, by decide, by decide +kernel⟩
  have hfirst : isUpgrade "4.10.0" "4.2.x" = true := by decide +kernel
  have hsecond : isUpgrade "4.2.x" "4.9.0" = true := by decide +kernel
  exact List.isChain_cons_cons.mpr ⟨hfirst, List.isChain_cons_cons.mpr ⟨hsecond, .singleton _⟩⟩

end AirflowDeploy.Version
