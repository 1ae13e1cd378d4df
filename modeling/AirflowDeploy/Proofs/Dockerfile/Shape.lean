import AirflowDeploy.Proofs.Dockerfile.BaseImage
import AirflowDeploy.Proofs.Dockerfile.Statements
import Mathlib.Data.List.Forall2

/-!
# The shape of a Dockerfile that was read

Whatever the text is, the instructions that are read from it start on lines of their own, one after
the other, and none is without arguments. A Dockerfile that is refused is refused at one of its
lines.
-/
namespace AirflowDeploy

open Text

/-- The line that an error names. -/
def DockerfileError.line? : DockerfileError → Option Nat
  | .unknownInstruction _ line | .missingArguments _ line | .noFrom line => some line
  | .unreadable _ _ | .empty => none

namespace Dockerfile

/-- The names of all keywords. -/
def keywordNames : List String :=
  ["ADD", "ARG", "CMD", "COPY", "ENTRYPOINT", "ENV", "EXPOSE", "FROM", "HEALTHCHECK", "LABEL",
    "MAINTAINER", "ONBUILD", "RUN", "SHELL", "STOPSIGNAL", "USER", "VOLUME", "WORKDIR"]

/-- An instruction of a file of `n` lines. -/
structure WellFormedInstruction (n : Nat) (i : Instruction) : Prop where
  line_pos : 1 ≤ i.line
  line_le : i.line ≤ n
  keyword : i.keyword.name ∈ keywordNames
  args_ne_nil : i.args.toList ≠ []
  noBlankBefore : ∀ c ∈ i.args.toList.head?, isBlank c = false
  noBlankAfter : ∀ c ∈ i.args.toList.getLast?, isBlank c = false
  oneLine : '\n' ∉ i.args.toList

/-- Only `ARG` stands before the first `FROM`, and there is one. -/
def StartsWithFrom (instructions : List Instruction) : Prop :=
  ∃ first, instructions.find? (·.keyword != .arg) = some first ∧ first.keyword = .fromImage

/-- The instructions of a file of `n` lines. -/
structure WellFormed (n : Nat) (d : Dockerfile) : Prop where
  ne_nil : d.instructions ≠ []
  increasing : d.instructions.Pairwise fun i j => i.line < j.line
  instructions : ∀ i ∈ d.instructions, WellFormedInstruction n i
  startsWithFrom : StartsWithFrom d.instructions
  noImage : d.baseImage = none ↔ ∀ i ∈ d.instructions, i.keyword = .fromImage →
    ∀ word ∈ words i.args.toList, ['-', '-'] <+: word

variable {escape : Char} {pending : Option Statement} {number low high : Nat}
  {ls : List (List Char)} {s : Statement} {rest : List Statement}

/-- Statements that start on lines from `low` up to `high`, one after the other. -/
structure Ordered (low high : Nat) (ss : List Statement) : Prop where
  bounds : ∀ s ∈ ss, low ≤ s.line ∧ s.line < high
  increasing : ss.Pairwise fun s t => s.line < t.line

theorem ordered_nil (low high : Nat) : Ordered low high [] where
  bounds _ hs := by cases hs
  increasing := .nil

theorem Ordered.cons {middle : Nat} (h : Ordered middle high rest) (hlow : low ≤ s.line)
    (hmiddle : s.line < middle) (hhigh : middle ≤ high) : Ordered low high (s :: rest) where
  bounds := by
    refine List.forall_mem_cons.mpr ⟨⟨hlow, by omega⟩, fun t ht => ?_⟩
    have hbounds := h.bounds t ht
    omega
  increasing := List.pairwise_cons.mpr
    ⟨fun t ht => Nat.lt_of_lt_of_le hmiddle (h.bounds t ht).1, h.increasing⟩

theorem Ordered.mono {low' : Nat} (h : Ordered low' high rest) (hlow : low ≤ low') :
    Ordered low high rest where
  bounds t ht := (h.bounds t ht).imp_left hlow.trans
  increasing := h.increasing

theorem Ordered.finish {middle : Nat} (h : Ordered middle high rest) (hlow : low ≤ s.line)
    (hmiddle : s.line < middle) (hhigh : middle ≤ high) : Ordered low high (s.finish rest) := by
  unfold Statement.finish
  split
  · exact h.mono (by omega)
  · exact h.cons hlow hmiddle hhigh

/-- Lines end where the ones below the first of them end. -/
theorem add_length_cons (number : Nat) (line : List Char) (ls : List (List Char)) :
    number + (line :: ls).length = number + 1 + ls.length := by
  rw [List.length_cons]
  omega

/-- A statement that is open started on an earlier line. -/
def StartedWithin (low number : Nat) (pending : Option Statement) : Prop :=
  ∀ s ∈ pending, low ≤ s.line ∧ s.line < number

theorem StartedWithin.add (h : StartedWithin low number pending) (hlow : low ≤ number)
    (body : List Char) : StartedWithin low (number + 1)
      (some ((pending.getD ⟨number, []⟩).add body)) := by
  rintro _ ⟨⟩
  cases pending with
  | none => exact ⟨hlow, Nat.lt_succ_self number⟩
  | some s =>
    have hs := h s rfl
    exact ⟨hs.1, Nat.lt_succ_of_lt hs.2⟩

/-- Statements start on the lines that are read, apart from the one that is open already. -/
theorem ordered_statements (h : StartedWithin low number pending) (hlow : low ≤ number) :
    Ordered low (number + ls.length) (statements escape pending number ls) := by
  induction ls generalizing pending number low with
  | nil =>
    cases pending with
    | none => exact ordered_nil _ _
    | some s =>
      have hs := h s rfl
      exact (ordered_nil number number).finish hs.1 hs.2 le_rfl
  | cons line ls ih =>
    have hnext : Ordered (number + 1) (number + 1 + ls.length)
        (statements escape none (number + 1) ls) := ih (fun _ hs => by cases hs) le_rfl
    have hended (body : List Char) : Ordered low (number + 1 + ls.length)
        (((pending.getD ⟨number, []⟩).add body).finish
          (statements escape none (number + 1) ls)) := by
      have hs := h.add hlow body _ rfl
      exact hnext.finish hs.1 hs.2 (by omega)
    rw [add_length_cons]
    rcases lineKind escape line with hcomment | hblank | ⟨body, hline, hhash⟩ | ⟨hne, hhash, hlast⟩
    · rw [statements_comment hcomment]
      exact ih (fun s hs => (h s hs).imp_right Nat.lt_succ_of_lt) (by omega)
    · cases pending with
      | none =>
        rw [statements_blank hblank]
        exact hnext.mono (by omega)
      | some s =>
        rw [statements_blank_within hblank]
        have hs := h s rfl
        exact hnext.finish hs.1 (by omega) (by omega)
    · rw [statements_continued hline hhash]
      exact ih (h.add hlow _) (by omega)
    · rw [statements_ended rfl hne hhash hlast]
      exact hended _

theorem newline_not_mem_extend {text body : List Char} (htext : '\n' ∉ text) (hbody : '\n' ∉ body) :
    '\n' ∉ extend text body := by
  unfold extend
  split <;> simp [htext, hbody]

theorem newline_not_mem_finish (hs : '\n' ∉ s.text) (hrest : ∀ t ∈ rest, '\n' ∉ t.text) :
    ∀ t ∈ s.finish rest, '\n' ∉ t.text := by
  unfold Statement.finish
  split
  · exact hrest
  · exact List.forall_mem_cons.mpr ⟨hs, hrest⟩

/-- Lines are joined without newlines. -/
theorem newline_not_mem_statements (hls : ∀ line ∈ ls, '\n' ∉ line)
    (hpending : ∀ s ∈ pending, '\n' ∉ s.text) :
    ∀ s ∈ statements escape pending number ls, '\n' ∉ s.text := by
  induction ls generalizing pending number with
  | nil =>
    cases pending with
    | none => simp [statements]
    | some s => exact newline_not_mem_finish (hpending s rfl) (by simp)
  | cons line ls ih =>
    obtain ⟨hline, hls⟩ := List.forall_mem_cons.mp hls
    have hnext : ∀ s ∈ statements escape none (number + 1) ls, '\n' ∉ s.text :=
      ih hls fun _ hs => by cases hs
    have hopen : '\n' ∉ (pending.getD ⟨number, []⟩).text := by
      cases pending with
      | none => simp
      | some s => exact hpending s rfl
    rcases lineKind escape line with hcomment | hblank | ⟨body, hbody, hhash⟩ | ⟨hne, hhash, hlast⟩
    · rw [statements_comment hcomment]
      exact ih hls hpending
    · cases pending with
      | none => rwa [statements_blank hblank]
      | some s =>
        rw [statements_blank_within hblank]
        exact newline_not_mem_finish hopen hnext
    · rw [statements_continued hbody hhash]
      have hadded : '\n' ∉ trimEnd body := fun hmem =>
        hline (mem_of_mem_trim (hbody ▸ List.mem_append_left _ (mem_of_mem_trimEnd hmem)))
      refine ih hls ?_
      rintro _ ⟨⟩
      exact newline_not_mem_extend hopen hadded
    · rw [statements_ended rfl hne hhash hlast]
      have hadded : '\n' ∉ trim line := fun hmem => hline (mem_of_mem_trim hmem)
      exact newline_not_mem_finish (newline_not_mem_extend hopen hadded) hnext

theorem Statement.read_ok {i : Instruction} (h : s.read = .ok i) :
    i.line = s.line ∧ i.args.toList ≠ [] ∧
      ∃ args, i.args.toList = trim args ∧ ∀ c ∈ args, c ∈ s.text := by
  unfold Statement.read at h
  rcases hcut : cutFirst isBlank s.text with ⟨word, rest⟩
  simp only [hcut] at h
  split at h
  · cases h
  · split at h
    · cases h
    · next hne =>
      obtain rfl := Except.ok.inj h
      refine ⟨rfl, by simpa using hne, rest.getD [], by simp, fun c hc => ?_⟩
      unfold cutFirst at hcut
      split at hcut
      · obtain ⟨rfl, rfl⟩ := Prod.mk.inj hcut
        cases hc
      · next d after hafter =>
        obtain ⟨rfl, rfl⟩ := Prod.mk.inj hcut
        exact (List.dropWhile_suffix _).subset (hafter ▸ List.mem_cons_of_mem d hc)

theorem Statement.line?_of_read {e : DockerfileError} (h : s.read = .error e) :
    e.line? = some s.line := by
  unfold Statement.read at h
  rcases hcut : cutFirst isBlank s.text with ⟨word, rest⟩
  simp only [hcut] at h
  split at h
  · obtain rfl := Except.error.inj h
    rfl
  · split at h
    · obtain rfl := Except.error.inj h
      rfl
    · cases h

/-- Instructions that are read from statements, one from each. -/
abbrev ReadFrom (ss : List Statement) (instructions : List Instruction) : Prop :=
  List.Forall₂ (fun s i => s.read = .ok i) ss instructions

theorem mapM_read_eq_ok_iff {ss : List Statement} {instructions : List Instruction} :
    ss.mapM Statement.read = .ok instructions ↔ ReadFrom ss instructions := by
  induction ss generalizing instructions with
  | nil =>
    rw [ReadFrom, List.forall₂_nil_left_iff]
    exact ⟨fun h => (Except.ok.inj h).symm, fun h => h ▸ rfl⟩
  | cons s ss ih =>
    rw [ReadFrom, List.mapM_cons, List.forall₂_cons_left_iff]
    constructor
    · intro h
      cases hs : s.read with
      | error e =>
        rw [hs] at h
        cases h
      | ok i =>
        cases hss : ss.mapM Statement.read with
        | error e =>
          rw [hs, hss] at h
          cases h
        | ok rest =>
          rw [hs, hss] at h
          exact ⟨i, rest, rfl, ih.mp hss, (Except.ok.inj h).symm⟩
    · rintro ⟨i, rest, hs, hrest, rfl⟩
      rw [hs, ih.mpr hrest]
      rfl

theorem ReadFrom.exists_of_mem {ss : List Statement} {instructions : List Instruction}
    (h : ReadFrom ss instructions) : ∀ i ∈ instructions, ∃ s ∈ ss, s.read = .ok i := by
  induction h with
  | nil => simp
  | @cons s i ss instructions hread _ ih =>
    refine List.forall_mem_cons.mpr ⟨⟨s, List.mem_cons_self, hread⟩, fun j hj => ?_⟩
    obtain ⟨t, ht, htj⟩ := ih j hj
    exact ⟨t, List.mem_cons_of_mem s ht, htj⟩

theorem ReadFrom.map_line {ss : List Statement} {instructions : List Instruction}
    (h : ReadFrom ss instructions) : instructions.map (·.line) = ss.map (·.line) := by
  induction h with
  | nil => rfl
  | cons hread _ ih => rw [List.map_cons, List.map_cons, ih, (Statement.read_ok hread).1]

theorem exists_of_mapM_read {ss : List Statement} {e : DockerfileError}
    (h : ss.mapM Statement.read = .error e) : ∃ s ∈ ss, s.read = .error e := by
  induction ss with
  | nil => cases h
  | cons s ss ih =>
    rw [List.mapM_cons] at h
    cases hs : s.read with
    | error e' =>
      rw [hs] at h
      obtain rfl := Except.error.inj h
      exact ⟨s, List.mem_cons_self, hs⟩
    | ok i =>
      cases hss : ss.mapM Statement.read with
      | error e' =>
        rw [hs, hss] at h
        obtain rfl := Except.error.inj h
        obtain ⟨t, ht, hread⟩ := ih hss
        exact ⟨t, List.mem_cons_of_mem s ht, hread⟩
      | ok rest =>
        rw [hs, hss] at h
        cases h

/-- The statements of a file. -/
def fileStatements (ls : List (List Char)) : List Statement :=
  let (escape, number, rest) := afterDirectives '\\' 1 ls
  statements escape none number rest

theorem parseLines_eq (ls : List (List Char)) :
    parseLines ls = (fileStatements ls).mapM Statement.read >>= checkStart := rfl

/-- The lines that are passed over at the start are directives. -/
theorem exists_directives (escape : Char) (number : Nat) (ls : List (List Char)) :
    ∃ directives, ls = directives ++ (afterDirectives escape number ls).2.2 ∧
      (afterDirectives escape number ls).2.1 = number + directives.length ∧
      ∀ line ∈ directives, (directive? (trim line)).isSome = true := by
  induction ls generalizing escape number with
  | nil => exact ⟨[], rfl, rfl, by simp⟩
  | cons line ls ih =>
    rw [afterDirectives]
    cases hd : directive? (trim line) with
    | none => exact ⟨[], rfl, rfl, by simp⟩
    | some directive =>
      obtain ⟨directives, hls, hnumber, hall⟩ := ih (escapeAfter escape directive) (number + 1)
      refine ⟨line :: directives, congrArg (line :: ·) hls, ?_, ?_⟩
      · rw [hnumber, List.length_cons]
        omega
      · exact List.forall_mem_cons.mpr ⟨by simp [hd], hall⟩

/-- The lines behind the directives are numbered up to the end of the file. -/
theorem length_afterDirectives (ls : List (List Char)) :
    (afterDirectives '\\' 1 ls).2.1 + (afterDirectives '\\' 1 ls).2.2.length = ls.length + 1 := by
  obtain ⟨directives, hls, hnumber, -⟩ := exists_directives '\\' 1 ls
  have hlength := congrArg List.length hls
  rw [List.length_append] at hlength
  omega

theorem ordered_fileStatements (ls : List (List Char)) :
    Ordered 1 (ls.length + 1) (fileStatements ls) := by
  obtain ⟨directives, -, hnumber, -⟩ := exists_directives '\\' 1 ls
  rw [← length_afterDirectives]
  exact ordered_statements (fun _ hs => by cases hs) (by omega)

theorem newline_not_mem_fileStatements {ls : List (List Char)} (h : ∀ line ∈ ls, '\n' ∉ line) :
    ∀ s ∈ fileStatements ls, '\n' ∉ s.text := by
  obtain ⟨directives, hls, -, -⟩ := exists_directives '\\' 1 ls
  refine newline_not_mem_statements (fun line hline => h line ?_) fun _ hs => by cases hs
  rw [hls]
  exact List.mem_append_right _ hline

theorem checkStart_eq_ok_iff {instructions : List Instruction} {d : Dockerfile} :
    checkStart instructions = .ok d ↔ d = ⟨instructions⟩ ∧ StartsWithFrom instructions := by
  unfold checkStart StartsWithFrom
  cases instructions.find? (·.keyword != .arg) with
  | none => cases instructions.getLast? <;> simp
  | some first =>
    by_cases hfrom : first.keyword = .fromImage
    · simp [hfrom, eq_comm]
    · simp [hfrom]

theorem exists_of_checkStart {instructions : List Instruction} {e : DockerfileError}
    (h : checkStart instructions = .error e) :
    ∀ line ∈ e.line?, ∃ i ∈ instructions, i.line = line := by
  unfold checkStart at h
  split at h
  · next first hfirst =>
    split at h
    · cases h
    · obtain rfl := Except.error.inj h
      rintro _ ⟨⟩
      exact ⟨first, List.mem_of_find?_eq_some hfirst, rfl⟩
  · split at h
    · obtain rfl := Except.error.inj h
      rintro _ ⟨⟩
    · next last hlast =>
      obtain rfl := Except.error.inj h
      rintro _ ⟨⟩
      exact ⟨last, List.mem_of_getLast? hlast, rfl⟩

theorem parseLines_eq_ok_iff {ls : List (List Char)} {d : Dockerfile} :
    parseLines ls = .ok d ↔
      ReadFrom (fileStatements ls) d.instructions ∧ StartsWithFrom d.instructions := by
  rw [parseLines_eq]
  constructor
  · intro h
    cases hread : (fileStatements ls).mapM Statement.read with
    | error e =>
      rw [hread] at h
      cases h
    | ok instructions =>
      rw [hread] at h
      obtain ⟨rfl, hstart⟩ := checkStart_eq_ok_iff.mp h
      exact ⟨mapM_read_eq_ok_iff.mp hread, hstart⟩
  · rintro ⟨hread, hstart⟩
    rw [mapM_read_eq_ok_iff.mpr hread]
    exact checkStart_eq_ok_iff.mpr ⟨rfl, hstart⟩

/-- Where a file is refused, the line that is named is one of a statement. -/
theorem exists_of_parseLines {ls : List (List Char)} {e : DockerfileError}
    (h : parseLines ls = .error e) :
    ∀ line ∈ e.line?, ∃ s ∈ fileStatements ls, s.line = line := by
  rw [parseLines_eq] at h
  cases hread : (fileStatements ls).mapM Statement.read with
  | error e' =>
    rw [hread] at h
    obtain rfl := Except.error.inj h
    obtain ⟨s, hs, hfails⟩ := exists_of_mapM_read hread
    rw [Statement.line?_of_read hfails]
    rintro _ ⟨⟩
    exact ⟨s, hs, rfl⟩
  | ok instructions =>
    rw [hread] at h
    intro line hline
    obtain ⟨i, hi, rfl⟩ := exists_of_checkStart h line hline
    obtain ⟨s, hs, hsi⟩ := (mapM_read_eq_ok_iff.mp hread).exists_of_mem i hi
    exact ⟨s, hs, (Statement.read_ok hsi).1.symm⟩

theorem mem_keywordNames (keyword : Keyword) : keyword.name ∈ keywordNames := by
  cases keyword <;> decide

/-- There is no base image exactly where every `FROM` holds options only. -/
theorem baseImage_eq_none_iff (d : Dockerfile) :
    d.baseImage = none ↔ ∀ i ∈ d.instructions, i.keyword = .fromImage →
      ∀ word ∈ words i.args.toList, ['-', '-'] <+: word := by
  have hstage (i : Instruction) : stage? d.value i = none ↔ imageWords i = [] := by
    unfold stage?
    cases imageWords i <;> simp
  have hwords (i : Instruction) : imageWords i = [] ↔
      (i.keyword = .fromImage → ∀ word ∈ words i.args.toList, ['-', '-'] <+: word) := by
    unfold imageWords
    split
    · next hfrom => simp [hfrom, List.filter_eq_nil_iff]
    · next hother => simp [hother]
  rw [baseImage_eq, Option.map_eq_none_iff, chase_eq_none_iff, List.reverse_eq_nil_iff, stages,
    List.filterMap_eq_nil_iff]
  exact forall₂_congr fun i _ => (hstage i).trans (hwords i)

theorem wellFormed_of_parseLines {ls : List (List Char)} {d : Dockerfile}
    (hls : ∀ line ∈ ls, '\n' ∉ line) (h : parseLines ls = .ok d) : WellFormed ls.length d := by
  obtain ⟨hread, hstart⟩ := parseLines_eq_ok_iff.mp h
  have hordered := ordered_fileStatements ls
  constructor
  · obtain ⟨first, hfirst, -⟩ := hstart
    exact List.ne_nil_of_mem (List.mem_of_find?_eq_some hfirst)
  · have hlines : (d.instructions.map (·.line)).Pairwise (· < ·) := by
      rw [hread.map_line]
      exact List.pairwise_map.mpr hordered.increasing
    exact List.pairwise_map.mp hlines
  · intro i hi
    obtain ⟨s, hs, hsi⟩ := hread.exists_of_mem i hi
    obtain ⟨hline, hne, args, hargs, hsub⟩ := Statement.read_ok hsi
    have hbounds := hordered.bounds s hs
    exact {
      line_pos := by omega
      line_le := by omega
      keyword := mem_keywordNames i.keyword
      args_ne_nil := hne
      noBlankBefore := hargs ▸ head?_trim args
      noBlankAfter := hargs ▸ getLast?_trim args
      oneLine := fun hmem => newline_not_mem_fileStatements hls s hs
        (hsub _ (mem_of_mem_trim (hargs ▸ hmem))) }
  · exact hstart
  · exact baseImage_eq_none_iff d

/-- What is read from a text has the shape of a Dockerfile, and an error that names a line names
one of the text. -/
theorem parse_wellFormed (content : String) :
    match parse content with
    | .ok d => WellFormed (lines content.toList).length d
    | .error e => ∀ line ∈ e.line?, 1 ≤ line ∧ line ≤ (lines content.toList).length := by
  rw [parse_eq]
  cases h : parseLines (lines content.toList) with
  | ok d => exact wellFormed_of_parseLines (newline_not_mem_lines _) h
  | error e =>
    intro line hline
    obtain ⟨s, hs, rfl⟩ := exists_of_parseLines h line hline
    have hbounds := (ordered_fileStatements _).bounds s hs
    omega

/-- The text may end within an instruction, and lines may hold nothing but the continuation
character. -/
example : parse "\\\nFROM a\n\\\nRUN \\\n\\\nb \\" =
    .ok ⟨[⟨.fromImage, "a", 1⟩, ⟨.run, "b", 3⟩]⟩ := by
  decide +kernel

end Dockerfile

end AirflowDeploy
