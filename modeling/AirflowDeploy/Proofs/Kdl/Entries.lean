import AirflowDeploy.Kdl.Reader
import AirflowDeploy.Proofs.Kdl.Strings

/-!
# Written entries

What the reader passes over between the parts of a document, and what it makes of the entries of
a node that the printer has written.
-/
namespace AirflowDeploy.Kdl

open AirflowDeploy.Text

/-- Nothing is passed over at the front of a text within a line. -/
def Solid : List Char → Prop
  | [] => True
  | c :: _ => isSpace c = false ∧ c ≠ '/' ∧ c ≠ '\\'

/-- Nothing is passed over at the front of a text between nodes. -/
def Settled : List Char → Prop
  | [] => True
  | c :: rest => Solid (c :: rest) ∧ isNewline c = false

theorem Settled.solid {cs : List Char} (h : Settled cs) : Solid cs := by
  cases cs with
  | nil => trivial
  | cons c rest => exact h.1

theorem skipSpace_blanks {cs : List Char} (hcs : Solid cs) (n : Nat) {fuel : Nat}
    (hfuel : n ≤ fuel) : skipSpace fuel (List.replicate n ' ' ++ cs) = some cs := by
  induction n generalizing fuel with
  | zero =>
    cases fuel with
    | zero => rfl
    | succ fuel =>
      cases cs with
      | nil => rfl
      | cons c rest =>
        obtain ⟨hspace, hslash, -⟩ := hcs
        rw [List.replicate_zero, List.nil_append, skipSpace, hspace]
        · rfl
        · exact fun _ h => (hslash h).elim
  | succ n ih =>
    obtain ⟨fuel, rfl⟩ := Nat.exists_eq_succ_of_ne_zero (Nat.ne_zero_of_lt hfuel)
    exact ih (Nat.le_of_succ_le_succ hfuel)

theorem nodeSpace_blanks {cs : List Char} (hcs : Solid cs) (n : Nat) :
    nodeSpace (List.replicate n ' ' ++ cs) = some cs := by
  rw [nodeSpace, skipNodeSpace, skipSpace_blanks hcs n (by simp)]
  cases cs with
  | nil => rfl
  | cons c rest =>
    have hbackslash : c ≠ '\\' := hcs.2.2
    simp [hbackslash]

theorem nodeSpace_solid {cs : List Char} (hcs : Solid cs) : nodeSpace cs = some cs :=
  nodeSpace_blanks hcs 0

theorem nodeSpace_space {cs : List Char} (hcs : Solid cs) : nodeSpace (' ' :: cs) = some cs :=
  nodeSpace_blanks hcs 1

theorem skipLineSpace_blanks {cs : List Char} (hcs : Settled cs) (n fuel : Nat) :
    skipLineSpace (fuel + 1) (List.replicate n ' ' ++ cs) = some cs := by
  rw [skipLineSpace, nodeSpace_blanks hcs.solid n]
  cases cs with
  | nil => rfl
  | cons c rest =>
    obtain ⟨⟨-, hslash, -⟩, hnewline⟩ := hcs
    have hstays : afterNewline? (c :: rest) = none := by
      rw [afterNewline?, hnewline]
      · rfl
      · rintro _ rfl
        cases hnewline
    split
    · next h => cases h
    · next h => exact absurd (List.cons.inj (Option.some.inj h)).1 hslash
    · next h =>
      cases h
      rw [hstays]

theorem lineSpace_blanks {cs : List Char} (hcs : Settled cs) (n : Nat) :
    lineSpace (List.replicate n ' ' ++ cs) = some cs := skipLineSpace_blanks hcs n _

theorem lineSpace_newline {cs : List Char} (hcs : Settled cs) (n : Nat) :
    lineSpace ('\n' :: (List.replicate n ' ' ++ cs)) = some cs := by
  have hsolid : Solid ('\n' :: (List.replicate n ' ' ++ cs)) := by
    refine ⟨?_, ?_, ?_⟩ <;> decide
  rw [lineSpace, skipLineSpace, nodeSpace_solid hsolid]
  exact skipLineSpace_blanks hcs n _

theorem Value.starts_ne {c d : Char} (h : Value.starts c) (hd : Value.starts d = false) :
    c ≠ d := by
  rintro rfl
  simp [hd] at h

theorem solid_of_starts {c : Char} (h : Value.starts c) (rest : List Char) : Solid (c :: rest) := by
  refine ⟨?_, Value.starts_ne h (by decide), Value.starts_ne h (by decide)⟩
  by_contra hspace
  have hword : isIdentifierChar c = false := by simp_all [isIdentifierChar]
  have hquote : c = '"' ∨ c = '#' := by simpa [Value.starts, startsString, hword, or_comm] using h
  rcases hquote with rfl | rfl <;> exact hspace (by decide)

theorem starts_of_startsString {c : Char} (h : startsString c) : Value.starts c := by
  simp [Value.starts, h]

namespace Entry

/-- The name of a property and the text in the value. -/
def texts (e : Entry) : List String := e.name.toList ++ e.value.texts

/-- Whether a written entry without a number is read back. -/
def isReadable (e : Entry) : Bool := e.texts.all fun text => Kdl.isReadable text.toList

theorem render_eq_cons {e : Entry} (he : e.value.isNumber = false) :
    ∃ c rest, e.render = c :: rest ∧ Value.starts c := by
  obtain ⟨name, value⟩ := e
  cases name with
  | none => exact value.render_eq_cons he
  | some name =>
    obtain ⟨c, rest, hrender, hc⟩ := renderString_eq_cons name.toList
    refine ⟨c, rest ++ '=' :: value.render, ?_, starts_of_startsString hc⟩
    change renderString name.toList ++ '=' :: value.render = _
    rw [hrender, List.cons_append]

end Entry

/-- No written value has a type in front. -/
theorem afterType?_render {v : Value} (hv : v.isNumber = false) (rest : List Char) :
    afterType? (v.render ++ rest) = some (v.render ++ rest) := by
  obtain ⟨c, cs, hrender, hc⟩ := v.render_eq_cons hv
  rw [hrender, List.cons_append, afterType?]
  intro _ h
  exact Value.starts_ne hc (by decide) (List.cons.inj h).1

theorem readTypedValue_render {v : Value} (hv : v.isNumber = false) (rest : List Char) {c : Char}
    (hc : isDelimiter c) :
    readTypedValue (v.render ++ c :: rest) =
      if v.isReadable then some (v, c :: rest) else none := by
  rw [readTypedValue, afterType?_render hv, Option.bind_some, readValue_render hv rest hc]

theorem readEntry_argument {cs rest : List Char} {v : Value}
    (hvalue : readTypedValue cs = some (v, rest))
    (hnext : ∀ after, nodeSpace rest ≠ some ('=' :: after)) :
    readEntry cs = some (⟨none, v⟩, rest) := by
  rw [readEntry, hvalue]
  simp only [Option.bind_eq_bind, Option.bind_some]
  split
  · next h => exact absurd h (hnext _)
  · rfl

theorem readEntry_property {cs rest after : List Char} {name : String}
    (hname : readTypedValue cs = some (.string name, rest)) (hhead : cs.head? ≠ some '(')
    (hequals : nodeSpace rest = some ('=' :: after)) :
    readEntry cs =
      ((nodeSpace after).bind readTypedValue).map fun r => (⟨some name, r.1⟩, r.2) := by
  rw [readEntry, hname]
  simp only [Option.bind_eq_bind, Option.bind_some, hequals, hhead, if_false]
  cases nodeSpace after with
  | none => rfl
  | some after => cases hvalue : readTypedValue after <;> simp [hvalue]

theorem readEntry_eq_none {cs : List Char} (h : readTypedValue cs = none) :
    readEntry cs = none := by
  rw [readEntry, h]
  rfl

/-- An entry is read up to a blank or the end of the line, unless an equals sign follows. -/
theorem readEntry_render {e : Entry} (he : e.value.isNumber = false) {c : Char} (rest : List Char)
    (hc : isDelimiter c) (hnext : ∀ after, nodeSpace (c :: rest) ≠ some ('=' :: after)) :
    readEntry (e.render ++ c :: rest) = if e.isReadable then some (e, c :: rest) else none := by
  obtain ⟨name, value⟩ := e
  have hlast := readTypedValue_render he rest hc
  cases name with
  | none =>
    change readEntry (value.render ++ c :: rest) =
      if value.isReadable then some (⟨none, value⟩, c :: rest) else none
    by_cases hread : value.isReadable
    · rw [if_pos hread] at hlast ⊢
      exact readEntry_argument hlast hnext
    · rw [if_neg hread] at hlast ⊢
      exact readEntry_eq_none hlast
  | some name =>
    obtain ⟨d, ds, hname, hd⟩ := renderString_eq_cons name.toList
    obtain ⟨v, vs, hvalue, hv⟩ := value.render_eq_cons he
    let after := value.render ++ c :: rest
    have hwhole : Entry.render ⟨some name, value⟩ ++ c :: rest =
        (Value.string name).render ++ '=' :: after := by
      change (renderString name.toList ++ '=' :: value.render) ++ c :: rest = _
      rw [List.append_assoc, List.cons_append]
      rfl
    have hfirst := readTypedValue_render (v := .string name) rfl after (c := '=') rfl
    have hhead : ((Value.string name).render ++ '=' :: after).head? ≠ some '(' := by
      change (renderString name.toList ++ _).head? ≠ _
      rw [hname]
      simpa using startsString_ne hd (by decide)
    have hequals : nodeSpace ('=' :: after) = some ('=' :: after) :=
      nodeSpace_solid (by refine ⟨?_, ?_, ?_⟩ <;> decide)
    have hspace : nodeSpace after = some after := by
      simp only [after, hvalue]
      exact nodeSpace_solid (solid_of_starts hv _)
    have hboth : Entry.isReadable ⟨some name, value⟩ =
        ((Value.string name).isReadable && value.isReadable) := by
      simp [Entry.isReadable, Entry.texts, Value.isReadable, Value.texts]
    rw [hwhole, hboth]
    by_cases hread : (Value.string name).isReadable
    · rw [if_pos hread] at hfirst
      rw [readEntry_property hfirst hhead hequals, hspace, Option.bind_some, hlast, hread,
        Bool.true_and]
      split <;> rfl
    · rw [if_neg hread] at hfirst
      simp [readEntry_eq_none hfirst, hread]

/-- The text after the entries of a node, and what is left of it when they are read: the end of
the line, or children in braces after a blank. -/
inductive EndsEntries : List Char → List Char → Prop where
  | line (rest : List Char) : EndsEntries ('\n' :: rest) ('\n' :: rest)
  | children (rest : List Char) : EndsEntries (' ' :: '\x7b' :: rest) ('\x7b' :: rest)

theorem EndsEntries.nodeSpace_eq {tail rest : List Char} (h : EndsEntries tail rest) :
    nodeSpace tail = some rest := by
  cases h with
  | line rest => exact nodeSpace_solid (by refine ⟨?_, ?_, ?_⟩ <;> decide)
  | children rest => exact nodeSpace_space (by refine ⟨?_, ?_, ?_⟩ <;> decide)

theorem readEntries_end {tail rest : List Char} (h : EndsEntries tail rest) (fuel : Nat) :
    readEntries (fuel + 1) tail = some ([], rest) := by
  rw [readEntries, h.nodeSpace_eq]
  cases h with
  | line rest => simp
  | children rest =>
    have hstart : startsEntry ('\x7b' :: rest) = false := rfl
    simp [hstart]

def renderEntries (entries : List Entry) : List Char :=
  entries.flatMap fun entry => ' ' :: entry.render

/-- What follows an entry begins with a delimiter, and no equals sign comes next. -/
theorem renderEntries_append_eq_cons {entries : List Entry}
    (hentries : ∀ e ∈ entries, e.value.isNumber = false) {tail rest : List Char}
    (h : EndsEntries tail rest) :
    ∃ c more, renderEntries entries ++ tail = c :: more ∧ isDelimiter c ∧
      ∀ after, nodeSpace (c :: more) ≠ some ('=' :: after) := by
  cases entries with
  | nil =>
    cases h with
    | line rest =>
      refine ⟨'\n', rest, rfl, rfl, fun after heq => ?_⟩
      rw [(EndsEntries.line rest).nodeSpace_eq] at heq
      cases heq
    | children rest =>
      refine ⟨' ', _, rfl, rfl, fun after heq => ?_⟩
      rw [(EndsEntries.children rest).nodeSpace_eq] at heq
      cases heq
  | cons e entries =>
    obtain ⟨c, cs, hrender, hc⟩ := e.render_eq_cons (hentries e List.mem_cons_self)
    refine ⟨' ', c :: (cs ++ (renderEntries entries ++ tail)), ?_, rfl, fun after heq => ?_⟩
    · simp [renderEntries, hrender]
    · rw [nodeSpace_space (solid_of_starts hc _)] at heq
      exact Value.starts_ne hc (by decide) (List.cons.inj (Option.some.inj heq)).1

theorem startsEntry_of_starts {c : Char} (h : Value.starts c) (rest : List Char) :
    startsEntry (c :: rest) = true := by
  have hcases : c = '#' ∨ c = '"' ∨ isIdentifierChar c = true := by
    simpa [Value.starts, startsString] using h
  rcases hcases with rfl | rfl | hword
  · rfl
  · rfl
  · simp [startsEntry, hword]

theorem readEntries_cons {cs rest : List Char} (fuel : Nat) (hspace : nodeSpace cs = some rest)
    (hshort : rest.length < cs.length) (hslash : rest.head? ≠ some '/')
    (hstart : startsEntry rest = true) :
    readEntries (fuel + 1) cs =
      (readEntry rest).bind fun r => (readEntries fuel r.2).map fun s => (r.1 :: s.1, s.2) := by
  rw [readEntries, hspace]
  simp only [hshort, if_true]
  split
  · exact absurd rfl hslash
  · rw [if_pos hstart]

theorem readEntries_render {entries : List Entry}
    (hentries : ∀ e ∈ entries, e.value.isNumber = false) {tail rest : List Char}
    (h : EndsEntries tail rest) {fuel : Nat} (hfuel : entries.length < fuel) :
    readEntries fuel (renderEntries entries ++ tail) =
      if entries.all Entry.isReadable then some (entries, rest) else none := by
  induction entries generalizing fuel with
  | nil =>
    obtain ⟨fuel, rfl⟩ := Nat.exists_eq_succ_of_ne_zero (Nat.ne_zero_of_lt hfuel)
    exact readEntries_end h fuel
  | cons e entries ih =>
    obtain ⟨fuel, rfl⟩ := Nat.exists_eq_succ_of_ne_zero (Nat.ne_zero_of_lt hfuel)
    obtain ⟨he, hrest⟩ := List.forall_mem_cons.mp hentries
    obtain ⟨c, cs, hrender, hc⟩ := e.render_eq_cons he
    obtain ⟨d, more, hmore, hd, hnext⟩ := renderEntries_append_eq_cons hrest h
    have hwhole : renderEntries (e :: entries) ++ tail = ' ' :: (e.render ++ d :: more) := by
      rw [← hmore]
      simp [renderEntries]
    have hspace : nodeSpace (' ' :: (e.render ++ d :: more)) = some (e.render ++ d :: more) := by
      rw [hrender]
      exact nodeSpace_space (solid_of_starts hc _)
    have hstep := readEntries_cons fuel hspace (by simp)
      (by simpa [hrender] using Value.starts_ne hc (by decide))
      (by rw [hrender]; exact startsEntry_of_starts hc _)
    rw [hwhole, hstep, readEntry_render he more hd hnext, List.all_cons]
    by_cases hread : e.isReadable
    · rw [if_pos hread, Option.bind_some, ← hmore, ih hrest (Nat.lt_of_succ_lt_succ hfuel), hread,
        Bool.true_and]
      split <;> rfl
    · simp [hread]

end AirflowDeploy.Kdl
