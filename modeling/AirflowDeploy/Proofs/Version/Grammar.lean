import AirflowDeploy.Proofs.Text.Cut
import AirflowDeploy.Proofs.Text.Numerals
import AirflowDeploy.Version.Basic

/-!
# The grammar of versions

A version is written as three numbers, the identifiers of a pre-release behind a hyphen and build
metadata behind a plus sign. Exactly the texts of this form are read, and a version that was read
is written as the text that it was read from.
-/
namespace AirflowDeploy.Version

open Text

variable {cs : List Char} {sign : Char}

/-- An identifier of a pre-release: a numeral, or letters, digits and hyphens that are not all
digits. -/
inductive IsPreIdentifier (cs : List Char) : Prop where
  | numeral (h : IsNumeral cs)
  | word (h : ∀ c ∈ cs, isIdentifierChar c = true) (hother : ∃ c ∈ cs, isDigit c = false)

/-- An identifier of build metadata, which may have zeros in front. -/
structure IsBuildIdentifier (cs : List Char) : Prop where
  ne_nil : cs ≠ []
  chars : ∀ c ∈ cs, isIdentifierChar c = true

/-- The texts that the text of a version is composed of. -/
structure Parts where
  major : List Char
  minor : List Char
  patch : List Char
  pre : List (List Char)
  build : List (List Char)
  deriving DecidableEq, Repr

/-- Identifiers with full stops between them behind a sign, which is left out where there are
none. -/
def behind (sign : Char) (identifiers : List (List Char)) : List Char :=
  if identifiers = [] then [] else sign :: joinWith ['.'] identifiers

/-- What an identifier of a pre-release stands for. -/
def identifier (cs : List Char) : Identifier :=
  if cs.all isDigit then .number (digitsFrom 0 cs) else .word cs

namespace Parts

def numbers (p : Parts) : List (List Char) := [p.major, p.minor, p.patch]

/-- What stands in front of the build metadata. -/
def front (p : Parts) : List Char := joinWith ['.'] p.numbers ++ behind '-' p.pre

def text (p : Parts) : List Char := p.front ++ behind '+' p.build

def version (p : Parts) : Version where
  major := digitsFrom 0 p.major
  minor := digitsFrom 0 p.minor
  patch := digitsFrom 0 p.patch
  pre := p.pre.map identifier
  build := p.build

/-- The three numbers fit into 64 bits. -/
structure Valid (p : Parts) : Prop where
  numbers : ∀ n ∈ p.numbers, IsNumeral n ∧ digitsFrom 0 n < wordBound
  pre : ∀ i ∈ p.pre, IsPreIdentifier i
  build : ∀ i ∈ p.build, IsBuildIdentifier i

end Parts

theorem isIdentifierChar_of_isDigit {c : Char} (h : isDigit c = true) :
    isIdentifierChar c = true := by
  simp [isIdentifierChar, isAsciiAlphanumeric, h]

theorem IsPreIdentifier.chars (h : IsPreIdentifier cs) : ∀ c ∈ cs, isIdentifierChar c = true := by
  cases h with
  | numeral h => exact fun c hc => isIdentifierChar_of_isDigit (h.digits c hc)
  | word h => exact h

theorem IsPreIdentifier.ne_nil (h : IsPreIdentifier cs) : cs ≠ [] := by
  cases h with
  | numeral h => exact h.ne_nil
  | word _ hother =>
    obtain ⟨c, hc, -⟩ := hother
    exact List.ne_nil_of_mem hc

theorem readCanonical?_eq_some_iff {n : Nat} :
    readCanonical? cs = some n ↔ IsNumeral cs ∧ digitsFrom 0 cs = n := by
  unfold readCanonical?
  split
  · next c rest =>
    refine iff_of_false (Option.some_ne_none n ∘ Eq.symm) fun ⟨h, _⟩ => ?_
    simpa using h.canonical rfl
  · next hcanonical =>
    rw [readDigits?_eq_some_iff]
    constructor
    · rintro ⟨hne, hdigits, hn⟩
      refine ⟨⟨hne, hdigits, fun hzero => ?_⟩, hn⟩
      obtain ⟨rest, rfl⟩ := List.head?_eq_some_iff.mp hzero
      cases rest with
      | nil => rfl
      | cons c rest => exact absurd rfl (hcanonical c rest)
    · rintro ⟨h, hn⟩
      exact ⟨h.ne_nil, h.digits, hn⟩

theorem readNumber?_eq_some_iff {n : Nat} :
    readNumber? cs = some n ↔
      (IsNumeral cs ∧ digitsFrom 0 cs < wordBound) ∧ digitsFrom 0 cs = n := by
  rw [readNumber?, Option.filter_eq_some_iff, readCanonical?_eq_some_iff, decide_eq_true_eq]
  constructor
  · rintro ⟨⟨h, rfl⟩, hlt⟩
    exact ⟨⟨h, hlt⟩, rfl⟩
  · rintro ⟨⟨h, hlt⟩, rfl⟩
    exact ⟨⟨h, rfl⟩, hlt⟩

theorem readIdentifier?_eq_some_iff {i : Identifier} :
    readIdentifier? cs = some i ↔ IsPreIdentifier cs ∧ identifier cs = i := by
  unfold readIdentifier? identifier
  split
  · next hbad =>
    refine iff_of_false (Option.some_ne_none i ∘ Eq.symm) fun ⟨h, _⟩ => ?_
    have hall : cs.all isIdentifierChar = true := List.all_eq_true.mpr h.chars
    simp [h.ne_nil, hall] at hbad
  · next hgood =>
    split
    · next hdigits =>
      simp only [Option.map_eq_some_iff, readCanonical?_eq_some_iff]
      constructor
      · rintro ⟨n, ⟨h, rfl⟩, rfl⟩
        exact ⟨.numeral h, rfl⟩
      · rintro ⟨h | ⟨-, c, hc, hother⟩, rfl⟩
        · exact ⟨_, ⟨h, rfl⟩, rfl⟩
        · simp [List.all_eq_true.mp hdigits c hc] at hother
    · next hother =>
      simp only [Bool.or_eq_true, Bool.not_eq_true', not_or, Bool.not_eq_false] at hgood
      rw [Option.some_inj]
      refine (and_iff_right ?_).symm
      exact .word (List.all_eq_true.mp hgood.2) (by simpa using hother)

theorem readBuild?_eq_some_iff {b : List Char} :
    readBuild? cs = some b ↔ IsBuildIdentifier cs ∧ cs = b := by
  unfold readBuild?
  split
  · next hbad =>
    refine iff_of_false (Option.some_ne_none b ∘ Eq.symm) fun ⟨h, _⟩ => ?_
    have hall : cs.all isIdentifierChar = true := List.all_eq_true.mpr h.chars
    simp [h.ne_nil, hall] at hbad
  · next hgood =>
    simp only [Bool.or_eq_true, Bool.not_eq_true', not_or, Bool.not_eq_false,
      List.isEmpty_iff] at hgood
    rw [Option.some_inj]
    exact (and_iff_right ⟨hgood.1, List.all_eq_true.mp hgood.2⟩).symm

/-- All of a list is read where each one is. -/
theorem mapM_eq_some_iff {α β : Type} {read? : α → Option β} {valid : α → Prop} {value : α → β}
    (h : ∀ a b, read? a = some b ↔ valid a ∧ value a = b) {as : List α} {bs : List β} :
    as.mapM read? = some bs ↔ (∀ a ∈ as, valid a) ∧ as.map value = bs := by
  induction as generalizing bs with
  | nil => simp [eq_comm]
  | cons a as ih =>
    simp only [List.mapM_cons, Option.bind_eq_bind, Option.pure_def, Option.bind_eq_some_iff, h, ih,
      Option.some_inj, List.forall_mem_cons, List.map_cons]
    constructor
    · rintro ⟨_, ⟨ha, rfl⟩, _, ⟨has, rfl⟩, rfl⟩
      exact ⟨⟨ha, has⟩, rfl⟩
    · rintro ⟨⟨ha, has⟩, rfl⟩
      exact ⟨_, ⟨ha, rfl⟩, _, ⟨has, rfl⟩, rfl⟩

/-- The identifiers in a text that may be missing. -/
def identifiersOf (text : Option (List Char)) : List (List Char) := text.elim [] (pieces isDot)

theorem readPre?_eq_some_iff {text : Option (List Char)} {ids : List Identifier} :
    readPre? text = some ids ↔
      (∀ i ∈ identifiersOf text, IsPreIdentifier i) ∧
        (identifiersOf text).map identifier = ids := by
  cases text with
  | none => simp [readPre?, identifiersOf, eq_comm]
  | some cs => exact mapM_eq_some_iff fun _ _ => readIdentifier?_eq_some_iff

theorem readBuilds?_eq_some_iff {text : Option (List Char)} {ids : List (List Char)} :
    readBuilds? text = some ids ↔
      (∀ i ∈ identifiersOf text, IsBuildIdentifier i) ∧ identifiersOf text = ids := by
  cases text with
  | none => simp [readBuilds?, identifiersOf, eq_comm]
  | some cs =>
    have hall : (pieces isDot cs).mapM readBuild? = some ids ↔
        (∀ i ∈ pieces isDot cs, IsBuildIdentifier i) ∧ (pieces isDot cs).map id = ids :=
      mapM_eq_some_iff fun _ _ => readBuild?_eq_some_iff
    rwa [List.map_id] at hall

/-- What stands behind a sign is put together again from its identifiers. -/
theorem behind_identifiersOf (sign : Char) (text : Option (List Char)) :
    behind sign (identifiersOf text) = text.elim [] (sign :: ·) := by
  cases text with
  | none => rfl
  | some cs =>
    have hjoined : joinWith ['.'] (pieces isDot cs) = cs := joinWith_pieces '.' cs
    simp [behind, identifiersOf, pieces_ne_nil, hjoined]

theorem cutFirst_behind {front : List Char} (h : sign ∉ front) (ids : List (List Char)) :
    cutFirst (· == sign) (front ++ behind sign ids) =
      (front, if ids = [] then none else some (joinWith ['.'] ids)) := by
  have hother : ∀ c ∈ front, (c == sign) = false := fun c hc =>
    beq_false_of_ne fun he => h (he ▸ hc)
  unfold behind
  split
  · rw [List.append_nil, cutFirst_eq_self hother]
  · rw [cutFirst_append hother (beq_self_eq_true sign)]

theorem identifiersOf_joinWith {ids : List (List Char)} (h : ∀ i ∈ ids, ∀ c ∈ i, isDot c = false) :
    identifiersOf (if ids = [] then none else some (joinWith ['.'] ids)) = ids := by
  split
  · next hnil =>
    rw [hnil]
    rfl
  · next hne => exact pieces_joinWith rfl hne h

/-- What holds of a full stop and of all characters of some texts holds of their joined text. -/
theorem forall_mem_joinWith {P : Char → Prop} (hdot : P '.') {ids : List (List Char)}
    (h : ∀ i ∈ ids, ∀ c ∈ i, P c) : ∀ c ∈ joinWith ['.'] ids, P c := by
  induction ids with
  | nil => simp [joinWith]
  | cons i ids ih =>
    obtain ⟨hi, hrest⟩ := List.forall_mem_cons.mp h
    cases ids with
    | nil => exact hi
    | cons next ids =>
      rw [joinWith_cons_cons]
      intro c hc
      rcases List.mem_append.mp hc with hc | hc
      · rcases List.mem_append.mp hc with hc | hc
        · exact hi c hc
        · exact List.mem_singleton.mp hc ▸ hdot
      · exact ih hrest c hc

theorem forall_mem_behind {P : Char → Prop} (hsign : P sign) (hdot : P '.')
    {ids : List (List Char)} (h : ∀ i ∈ ids, ∀ c ∈ i, P c) : ∀ c ∈ behind sign ids, P c := by
  unfold behind
  split
  · simp
  · exact List.forall_mem_cons.mpr ⟨hsign, forall_mem_joinWith hdot h⟩

/-- Identifiers hold neither a separator nor a blank. -/
theorem of_isIdentifierChar {c : Char} (h : isIdentifierChar c = true) :
    isDot c = false ∧ c ≠ '+' ∧ isBlank c = false := by
  have hascii : c.toNat < 128 := by
    simp only [isIdentifierChar, isAsciiAlphanumeric, isDigit, isAsciiLetter, isAsciiLower,
      isAsciiUpper, Char.reduceToNat, Bool.or_eq_true, Bool.and_eq_true, decide_eq_true_eq,
      beq_iff_eq] at h
    rcases h with h | rfl
    · omega
    · decide
  exact forall_ascii
    (P := fun c => isIdentifierChar c = true → isDot c = false ∧ c ≠ '+' ∧ isBlank c = false)
    (by decide) hascii h

theorem ne_hyphen_of_isDigit {c : Char} (h : isDigit c = true) : c ≠ '-' := by
  rintro rfl
  cases h

namespace Parts

variable {p : Parts}

namespace Valid

variable (h : p.Valid)

include h

theorem digits : ∀ n ∈ p.numbers, ∀ c ∈ n, isDigit c = true :=
  fun n hn => (h.numbers n hn).1.digits

theorem identifierChars :
    ∀ text ∈ p.numbers ++ p.pre ++ p.build, ∀ c ∈ text, isIdentifierChar c = true := by
  intro text htext c hc
  rcases List.mem_append.mp htext with htext | htext
  · rcases List.mem_append.mp htext with htext | htext
    · exact isIdentifierChar_of_isDigit (h.digits text htext c hc)
    · exact (h.pre text htext).chars c hc
  · exact (h.build text htext).chars c hc

theorem hyphen_not_mem : '-' ∉ joinWith ['.'] p.numbers := fun hmem =>
  forall_mem_joinWith (P := (· ≠ '-')) (by decide)
    (fun n hn c hc => ne_hyphen_of_isDigit (h.digits n hn c hc)) _ hmem rfl

theorem plus_not_mem : '+' ∉ p.front := by
  have hplus : ∀ text ∈ p.numbers ++ p.pre, ∀ c ∈ text, c ≠ '+' := fun text htext c hc =>
    (of_isIdentifierChar (h.identifierChars text (List.mem_append_left _ htext) c hc)).2.1
  intro hmem
  rcases List.mem_append.mp hmem with hmem | hmem
  · exact forall_mem_joinWith (P := (· ≠ '+')) (by decide)
      (fun n hn => hplus n (List.mem_append_left _ hn)) _ hmem rfl
  · exact forall_mem_behind (P := (· ≠ '+')) (by decide) (by decide)
      (fun i hi => hplus i (List.mem_append_right _ hi)) _ hmem rfl

theorem not_blank : ∀ c ∈ p.text, isBlank c = false := by
  have hsolid : ∀ text ∈ p.numbers ++ p.pre ++ p.build, ∀ c ∈ text, isBlank c = false :=
    fun text htext c hc => (of_isIdentifierChar (h.identifierChars text htext c hc)).2.2
  intro c hc
  rcases List.mem_append.mp hc with hc | hc
  · rcases List.mem_append.mp hc with hc | hc
    · exact forall_mem_joinWith (P := (isBlank · = false)) rfl
        (fun n hn => hsolid n (by simp [hn])) c hc
    · exact forall_mem_behind (P := (isBlank · = false)) rfl rfl
        (fun i hi => hsolid i (by simp [hi])) c hc
  · exact forall_mem_behind (P := (isBlank · = false)) rfl rfl
      (fun i hi => hsolid i (by simp [hi])) c hc

end Valid

/-- The parts of a text are read from it. -/
theorem parse?_text (h : p.Valid) : parse? p.text = some p.version := by
  have hdots : ∀ text ∈ p.numbers ++ p.pre ++ p.build, ∀ c ∈ text, isDot c = false :=
    fun text htext c hc => (of_isIdentifierChar (h.identifierChars text htext c hc)).1
  have hnumbers : pieces isDot (joinWith ['.'] p.numbers) = p.numbers :=
    pieces_joinWith rfl (by simp [numbers]) fun n hn => hdots n (by simp [hn])
  have hpre : identifiersOf (if p.pre = [] then none else some (joinWith ['.'] p.pre)) = p.pre :=
    identifiersOf_joinWith fun i hi => hdots i (by simp [hi])
  have hbuild : identifiersOf (if p.build = [] then none else some (joinWith ['.'] p.build)) =
      p.build := identifiersOf_joinWith fun i hi => hdots i (by simp [hi])
  have hnumber {n : List Char} (hn : n ∈ p.numbers) : readNumber? n = some (digitsFrom 0 n) :=
    readNumber?_eq_some_iff.mpr ⟨h.numbers n hn, rfl⟩
  unfold parse?
  rw [text, cutFirst_behind h.plus_not_mem]
  simp only
  rw [front, cutFirst_behind h.hyphen_not_mem]
  simp only [hnumbers]
  rw [numbers]
  simp only [hnumber (n := p.major) (by simp [numbers]), hnumber (n := p.minor) (by simp [numbers]),
    hnumber (n := p.patch) (by simp [numbers]),
    readPre?_eq_some_iff.mpr ⟨fun i hi => h.pre i (hpre ▸ hi), rfl⟩,
    readBuilds?_eq_some_iff.mpr ⟨fun i hi => h.build i (hbuild ▸ hi), rfl⟩, hpre, hbuild]
  rfl

end Parts

/-- The text that was cut into parts is the text of these parts. -/
theorem text_of_cut {rest numbers major minor patch : List Char} {pre build : Option (List Char)}
    (hplus : cutFirst (· == '+') cs = (rest, build))
    (hminus : cutFirst (· == '-') rest = (numbers, pre))
    (hnumbers : pieces isDot numbers = [major, minor, patch]) :
    Parts.text ⟨major, minor, patch, identifiersOf pre, identifiersOf build⟩ = cs := by
  have hcs := (append_of_cutFirst '+' cs).1
  have hrest := (append_of_cutFirst '-' rest).1
  have hjoined : joinWith ['.'] (pieces isDot numbers) = numbers := joinWith_pieces '.' numbers
  rw [hplus] at hcs
  rw [hminus] at hrest
  rw [hnumbers] at hjoined
  rw [Parts.text, Parts.front, behind_identifiersOf, behind_identifiersOf, Parts.numbers, hjoined,
    hrest, hcs]

theorem exists_parts_of_parse? {v : Version} (h : parse? cs = some v) :
    ∃ p : Parts, p.Valid ∧ p.text = cs ∧ p.version = v := by
  rcases hplus : cutFirst (· == '+') cs with ⟨rest, build⟩
  rcases hminus : cutFirst (· == '-') rest with ⟨numbers, pre⟩
  simp only [parse?, hplus, hminus] at h
  split at h
  · next major minor patch hnumbers =>
    simp only [Option.bind_eq_bind, Option.pure_def, Option.bind_eq_some_iff, Option.some_inj,
      readNumber?_eq_some_iff, readPre?_eq_some_iff, readBuilds?_eq_some_iff] at h
    obtain ⟨_, ⟨hmajor, rfl⟩, _, ⟨hminor, rfl⟩, _, ⟨hpatch, rfl⟩, _, ⟨hpre, rfl⟩, _,
      ⟨hbuild, rfl⟩, rfl⟩ := h
    refine ⟨_, ⟨?_, hpre, hbuild⟩, text_of_cut hplus hminus hnumbers, rfl⟩
    simpa [Parts.numbers] using ⟨hmajor, hminor, hpatch⟩
  · cases h

/-- The texts that are read as a version are those with its parts. -/
theorem parse?_eq_some_iff {v : Version} :
    parse? cs = some v ↔ ∃ p : Parts, p.Valid ∧ p.text = cs ∧ p.version = v := by
  refine ⟨exists_parts_of_parse?, ?_⟩
  rintro ⟨p, hp, rfl, rfl⟩
  exact Parts.parse?_text hp

theorem renderIdentifier_identifier (h : IsPreIdentifier cs) :
    renderIdentifier (identifier cs) = cs := by
  unfold identifier
  split
  · next hdigits =>
    rcases h with h | ⟨-, c, hc, hother⟩
    · exact h.decimal_digitsFrom
    · simp [List.all_eq_true.mp hdigits c hc] at hother
  · rfl

namespace Parts

variable {p : Parts}

/-- The version is written as the text that it was read from. -/
theorem render_version (h : p.Valid) : p.version.render = p.text := by
  have hnumber {n : List Char} (hn : n ∈ p.numbers) : decimal (digitsFrom 0 n) = n :=
    (h.numbers n hn).1.decimal_digitsFrom
  have hpre : (p.pre.map identifier).map renderIdentifier = p.pre := by
    rw [List.map_map]
    exact (List.map_congr_left fun i hi => renderIdentifier_identifier (h.pre i hi)).trans
      (List.map_id p.pre)
  have hmajor : decimal (digitsFrom 0 p.major) = p.major := hnumber (by simp [numbers])
  have hminor : decimal (digitsFrom 0 p.minor) = p.minor := hnumber (by simp [numbers])
  have hpatch : decimal (digitsFrom 0 p.patch) = p.patch := hnumber (by simp [numbers])
  simp only [render, version, hpre, hmajor, hminor, hpatch, text, front, numbers, behind, joinWith,
    List.isEmpty_iff, List.map_eq_nil_iff, List.append_assoc, List.cons_append, List.nil_append]

/-- Nothing is taken from the text of a version before it is read. -/
theorem bare_text (h : p.Valid) : bare p.text = p.text := by
  have hmajor := (h.numbers p.major (by simp [numbers])).1
  obtain ⟨c, cs, hc⟩ := List.exists_cons_of_ne_nil hmajor.ne_nil
  have hdigit : isDigit c = true := hmajor.digits c (by simp [hc])
  rw [bare, trim_eq_self h.not_blank]
  split
  · next rest heq =>
    have hfirst : c = 'v' := by
      rw [text, front, numbers, hc] at heq
      exact (List.cons.inj heq).1
    subst hfirst
    cases hdigit
  · rfl

/-- There is a hyphen in front of the build metadata exactly where there is a pre-release. -/
theorem isPreRelease_version (h : p.Valid) :
    p.version.isPreRelease = true ↔ '-' ∈ p.text.takeWhile (· != '+') := by
  have hfront : p.text.takeWhile (· != '+') = p.front := by
    have hkept : ∀ c ∈ p.front, (c != '+') = true := fun c hc =>
      bne_iff_ne.mpr fun he => h.plus_not_mem (he ▸ hc)
    rw [text, List.takeWhile_append_of_pos hkept]
    unfold behind
    split <;> simp
  have hnumbers := h.hyphen_not_mem
  rw [hfront, front, List.mem_append, or_iff_right hnumbers, behind]
  cases hpre : p.pre with
  | nil => simp [isPreRelease, version, hpre]
  | cons i ids => simp [isPreRelease, version, hpre]

end Parts

/-- A text without the blanks around it and, where a `v` is then in front, without this `v`. -/
def IsStripped (text cs : List Char) : Prop :=
  ∃ core, IsCore isBlank core cs ∧ (core = 'v' :: text ∨ core = text ∧ text.head? ≠ some 'v')

theorem bare_eq_iff {text : List Char} : bare cs = text ↔ IsStripped text cs := by
  unfold bare IsStripped
  simp only [← trim_eq_iff, exists_eq_left']
  split
  · next rest hcore =>
    rw [hcore]
    constructor
    · rintro rfl
      exact .inl rfl
    · rintro (hsame | ⟨rfl, hother⟩)
      · exact (List.cons.inj hsame).2
      · exact absurd rfl hother
  · next hother =>
    constructor
    · rintro rfl
      refine .inr ⟨rfl, fun hfirst => ?_⟩
      obtain ⟨rest, hrest⟩ := List.head?_eq_some_iff.mp hfirst
      exact hother rest hrest
    · rintro (hsame | ⟨hsame, -⟩)
      · exact absurd hsame (hother text)
      · exact hsame

/-- One text is left of a string without the blanks around it and without a `v` in front. The string
is read exactly if this text is composed of parts, as the version of its parts, which is written as
this text and read from it again. -/
theorem read?_writes_back (s : String) :
    ∃ text, (∀ other, IsStripped other s.toList ↔ other = text) ∧
      (∀ v, read? s = some v ↔ ∃ p : Parts, p.Valid ∧ p.text = text ∧ p.version = v) ∧
      ∀ v, read? s = some v →
        (toString v).toList = text ∧ read? (toString v) = some v ∧
          (v.isPreRelease = true ↔ '-' ∈ text.takeWhile (· != '+')) := by
  have hiff (v : Version) : read? s = some v ↔
      ∃ p : Parts, p.Valid ∧ p.text = bare s.toList ∧ p.version = v := parse?_eq_some_iff
  refine ⟨bare s.toList, fun other => bare_eq_iff.symm.trans eq_comm, hiff, fun v h => ?_⟩
  obtain ⟨p, hp, htext, rfl⟩ := (hiff v).mp h
  have hwritten : (toString p.version).toList = p.text := by
    rw [← Parts.render_version hp]
    exact String.toList_ofList
  rw [← htext]
  refine ⟨hwritten, ?_, Parts.isPreRelease_version hp⟩
  rw [read?, hwritten, Parts.bare_text hp, Parts.parse?_text hp]

/-- Zeros in front are kept in build metadata and refused in numbers, which end below `2 ^ 64`. -/
example :
    (read? "\tv1.20.0-rc.10.x-7+001.- ").map toString = some "1.20.0-rc.10.x-7+001.-" ∧
    (read? "18446744073709551615.0.0").isSome = true ∧ read? "18446744073709551616.0.0" = none ∧
    read? "1.0.0-01" = none ∧ read? "1.0.0-" = none ∧ read? "vv1.0.0" = none := by
  decide +kernel

end AirflowDeploy.Version
