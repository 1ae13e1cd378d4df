import AirflowDeploy.Proofs.Text.Cut
import AirflowDeploy.Proofs.Url.Segments

/-!
# Roots

An address whose path ends in a slash is continued by the segments that are put behind it. The
root of a service is read as such an address.
-/
namespace AirflowDeploy.Url

open Text

variable {base u : Url} {path segments : List (List Char)} {texts : List String}

/-- The path ends in a slash, and nothing stands behind it. -/
structure IsRoot (base : Url) : Prop where
  path : base.path.getLast? = some []
  query : base.query = none
  fragment : base.fragment = none

/-- The address with segments put behind the last slash of its path. -/
def below (base : Url) (segments : List (List Char)) : Url :=
  { base with path := base.path.dropLast ++ segments }

/-- The address `u` is written as `base` with segments behind it, which stand for these texts. -/
def Continues (base u : Url) (texts : List String) : Prop :=
  ∃ segments, u = base.below segments ∧
    u.render = base.render ++ String.ofList (joinWith ['/'] segments) ∧
    segments.map percentDecode = texts.map fun text => Utf8.encode text.toList

theorem renderPath_append (front segments : List (List Char)) :
    renderPath (front ++ segments) = renderPath front ++ renderPath segments :=
  List.flatMap_append

theorem renderPath_eq (hne : segments ≠ []) :
    renderPath segments = '/' :: joinWith ['/'] segments := by
  induction segments with
  | nil => exact absurd rfl hne
  | cons segment rest ih =>
    rw [renderPath, List.flatMap_cons, ← renderPath]
    cases rest with
    | nil => simp [renderPath, joinWith]
    | cons next more => simp [ih, joinWith_cons_cons]

/-- Segments are written behind an address as it is written exactly where its last slash is its
end. -/
theorem render_below_iff (hquery : base.query = none) (hfragment : base.fragment = none)
    (hne : segments ≠ []) :
    (base.below segments).render = base.render ++ String.ofList (joinWith ['/'] segments) ↔
      base.path.getLast? = some [] := by
  have hbelow : (base.below segments).render = String.ofList
      (base.origin ++ renderPath base.path.dropLast ++ '/' :: joinWith ['/'] segments) := by
    simp [render, below, origin, hquery, hfragment, renderPath_append, renderPath_eq hne]
  have hbase : base.render = String.ofList (base.origin ++ renderPath base.path) := by
    simp [render, hquery, hfragment]
  rw [hbelow, hbase, ← String.ofList_append, String.ofList_inj]
  rcases List.eq_nil_or_concat' base.path with hpath | ⟨front, last, hpath⟩
  · simp [hpath, renderPath]
  · have hend : renderPath [last] = '/' :: last := by simp [renderPath]
    simp [hpath, renderPath_append, hend]

theorem continues_join_iff (hne : texts ≠ []) :
    base.Continues (base.join path) texts ↔ base.IsRoot ∧
      ∃ segments, resolve base.path.dropLast path = base.path.dropLast ++ segments ∧
        segments.map percentDecode = texts.map fun text => Utf8.encode text.toList := by
  have hsegments {segments : List (List Char)}
      (h : segments.map percentDecode = texts.map fun text => Utf8.encode text.toList) :
      segments ≠ [] := by
    rintro rfl
    exact hne (List.map_eq_nil_iff.mp h.symm)
  constructor
  · rintro ⟨segments, hjoin, hrender, hdecode⟩
    obtain ⟨hpath, hquery, hfragment⟩ :
        resolve base.path.dropLast path = base.path.dropLast ++ segments ∧
          none = base.query ∧ none = base.fragment := by
      simpa [join, below] using hjoin
    rw [hjoin, render_below_iff hquery.symm hfragment.symm (hsegments hdecode)] at hrender
    exact ⟨⟨hrender, hquery.symm, hfragment.symm⟩, segments, hpath, hdecode⟩
  · rintro ⟨⟨hlast, hquery, hfragment⟩, segments, hpath, hdecode⟩
    have hjoin : base.join path = base.below segments := by
      simp [join, below, hpath, hquery, hfragment]
    refine ⟨segments, hjoin, ?_, hdecode⟩
    rw [hjoin, render_below_iff hquery hfragment (hsegments hdecode)]
    exact hlast

/-- What stands behind user, host and port. -/
def afterAuthority (text : List Char) : List Char :=
  ((text.filter fun c => !isDropped c).dropWhile isSlash).dropWhile fun c => !endsAuthority c

theorem readAfterScheme_ok {secure : Bool} {text : List Char} {u : Url}
    (h : readAfterScheme secure text = .ok u) :
    u.path = readPath (cutFirst (· == '?') (cutFirst (· == '#') (afterAuthority text)).1).1 ∧
    u.query = (cutFirst (· == '?') (cutFirst (· == '#') (afterAuthority text)).1).2.map
      (encodeExcept keepsQuery) ∧
    u.fragment = (cutFirst (· == '#') (afterAuthority text)).2.map (encodeExcept keepsFragment) := by
  unfold readAfterScheme at h
  simp only [bind, Except.bind] at h
  split at h
  · cases h
  · split at h
    · cases h
    · cases h
      exact ⟨rfl, rfl, rfl⟩

theorem afterAuthority_root (rest : List Char) :
    ∃ front, afterAuthority (rest ++ "/v1/".toList) = front ++ ['/'] := by
  have hfilter : (rest ++ "/v1/".toList).filter (fun c => !isDropped c) =
      (rest.filter (fun c => !isDropped c) ++ ['/']) ++ 'v' :: ['1', '/'] := by
    simp [List.filter_append, isDropped]
  have hend (front : List Char) :
      front ++ 'v' :: ['1', '/'] = (front ++ ['v', '1']) ++ '/' :: [] := by simp
  rw [afterAuthority, hfilter, dropWhile_append_cons (by decide), hend,
    dropWhile_append_cons (by decide)]
  exact ⟨_, rfl⟩

theorem mem_afterAuthority_iff {c : Char} {text : List Char} (hkept : isDropped c = false)
    (hslash : isSlash c = false) (hends : endsAuthority c = true) :
    c ∈ afterAuthority text ↔ c ∈ text := by
  rw [afterAuthority, mem_dropWhile_iff (by simp [hends]), mem_dropWhile_iff hslash]
  simp [hkept]

/-- The root of a service is read as one exactly where no query and no fragment begins before
it. -/
theorem isRoot_iff_of_readAfterScheme {secure : Bool} {rest : List Char} {u : Url}
    (h : readAfterScheme secure (rest ++ "/v1/".toList) = .ok u) :
    u.IsRoot ↔ '?' ∉ rest ∧ '#' ∉ rest := by
  obtain ⟨hpath, hquery, hfragment⟩ := readAfterScheme_ok h
  obtain ⟨front, hfront⟩ := afterAuthority_root rest
  have hmark : '?' ∈ front ++ ['/'] ↔ '?' ∈ rest := by
    rw [← hfront, mem_afterAuthority_iff rfl rfl rfl]
    simp
  have hhash : '#' ∈ front ++ ['/'] ↔ '#' ∈ rest := by
    rw [← hfront, mem_afterAuthority_iff rfl rfl rfl]
    simp
  rw [hfront] at hpath hquery hfragment
  rw [← hmark, ← hhash]
  constructor
  · intro hroot
    have hcut : '#' ∉ front ++ ['/'] :=
      notMem_of_cutFirst (Option.map_eq_none_iff.mp (hfragment.symm.trans hroot.fragment))
    rw [cutFirst_eq_self_of_notMem hcut] at hquery
    exact ⟨notMem_of_cutFirst (Option.map_eq_none_iff.mp (hquery.symm.trans hroot.query)), hcut⟩
  · rintro ⟨hno, hcut⟩
    rw [cutFirst_eq_self_of_notMem hcut] at hpath hquery hfragment
    rw [cutFirst_eq_self_of_notMem hno] at hpath hquery
    exact ⟨hpath ▸ getLast?_readPath front, hquery, hfragment⟩

end AirflowDeploy.Url
