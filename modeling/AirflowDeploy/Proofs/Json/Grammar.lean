import AirflowDeploy.Json.Printer
import AirflowDeploy.Json.Reader
import AirflowDeploy.Proofs.Text.Numerals

/-!
# The grammar of JSON

Which texts spell a value: blanks may stand around a value and around the marks of arrays and
objects, and a character of a string may be spelled by itself or by an escape. Every value that the
program writes is spelled by its compact form.
-/
namespace AirflowDeploy.Json

open Text

structure IsDigits (ds : List Char) : Prop where
  ne_nil : ds ≠ []
  digits : ∀ c ∈ ds, isDigit c = true

inductive IsFraction : List Char → Prop where
  | none : IsFraction []
  | some {ds : List Char} (h : IsDigits ds) : IsFraction ('.' :: ds)

inductive IsExponent : List Char → Prop where
  | none : IsExponent []
  | some {e : Char} {sign ds : List Char} (he : e = 'e' ∨ e = 'E')
      (hsign : sign = [] ∨ sign = ['+'] ∨ sign = ['-']) (h : IsDigits ds) :
      IsExponent (e :: (sign ++ ds))

inductive IsNumber : List Char → Prop where
  | mk {sign whole fraction exponent : List Char} (hsign : sign = [] ∨ sign = ['-'])
      (hwhole : IsNumeral whole) (hfraction : IsFraction fraction)
      (hexponent : IsExponent exponent) :
      IsNumber (sign ++ (whole ++ (fraction ++ exponent)))

/-- The code points and code units that a string is spelled with. -/
inductive SpellsUnits : List Nat → List Char → Prop where
  | nil : SpellsUnits [] []
  | plain {c : Char} {ns : List Nat} {cs : List Char} (hvisible : 32 ≤ c.toNat) (hquote : c ≠ '"')
      (hslash : c ≠ '\\') (h : SpellsUnits ns cs) : SpellsUnits (c.toNat :: ns) (c :: cs)
  | short {e c : Char} {ns : List Nat} {cs : List Char} (he : escaped? e = some c)
      (h : SpellsUnits ns cs) : SpellsUnits (c.toNat :: ns) ('\\' :: e :: cs)
  | long {a b c d : Char} {n : Nat} {ns : List Nat} {cs : List Char}
      (hn : readHex? [a, b, c, d] = some n) (h : SpellsUnits ns cs) :
      SpellsUnits (n :: ns) ('\\' :: 'u' :: a :: b :: c :: d :: cs)

/-- Code points and pairs of code units make up a text. -/
inductive MakesUp : List Nat → List Char → Prop where
  | nil : MakesUp [] []
  | point (c : Char) {ns : List Nat} {cs : List Char} (h : MakesUp ns cs) :
      MakesUp (c.toNat :: ns) (c :: cs)
  | pair {high low : Nat} {c : Char} {ns : List Nat} {cs : List Char}
      (hhigh : isHighHalf high = true) (hlow : isLowHalf low = true)
      (hc : c.toNat = 0x10000 + (high - 0xD800) * 0x400 + (low - 0xDC00)) (h : MakesUp ns cs) :
      MakesUp (high :: low :: ns) (c :: cs)

/-- A string between its quotes: a text, or none where half of a pair stands alone. -/
inductive SpellsString : Option String → List Char → Prop where
  | text {s : String} {ns : List Nat} {cs : List Char} (h : SpellsUnits ns cs)
      (hs : MakesUp ns s.toList) : SpellsString (some s) cs
  | broken {ns : List Nat} {cs : List Char} (h : SpellsUnits ns cs) (hs : ∀ s, ¬MakesUp ns s) :
      SpellsString none cs

def IsGap (cs : List Char) : Prop := ∀ c ∈ cs, isSpace c = true

/-- What a part of a text is: a value, a value with blanks around it, or several of these up to the
closing bracket. -/
inductive Part where
  | value (j : Json)
  | item (j : Json)
  | items (js : List Json)
  | member (m : Option String × Json)
  | members (ms : List (Option String × Json))

inductive Spells : Part → List Char → Prop where
  | null : Spells (.value .null) "null".toList
  | truth : Spells (.value (.bool true)) "true".toList
  | falsehood : Spells (.value (.bool false)) "false".toList
  | number {literal : List Char} (h : IsNumber literal) :
      Spells (.value (.number literal)) literal
  | string {text : Option String} {cs : List Char} (h : SpellsString text cs) :
      Spells (.value (.string text)) ('"' :: (cs ++ ['"']))
  | emptyArray {gap : List Char} (h : IsGap gap) :
      Spells (.value (.array [])) ('[' :: (gap ++ [']']))
  | array {items : List Json} {cs : List Char} (h : Spells (.items items) cs) :
      Spells (.value (.array items)) ('[' :: (cs ++ [']']))
  | emptyObject {gap : List Char} (h : IsGap gap) :
      Spells (.value (.object [])) ('{' :: (gap ++ ['}']))
  | object {members : List (Option String × Json)} {cs : List Char}
      (h : Spells (.members members) cs) :
      Spells (.value (.object members)) ('{' :: (cs ++ ['}']))
  | item {j : Json} {before cs after : List Char} (hbefore : IsGap before)
      (h : Spells (.value j) cs) (hafter : IsGap after) :
      Spells (.item j) (before ++ (cs ++ after))
  | lastItem {j : Json} {cs : List Char} (h : Spells (.item j) cs) : Spells (.items [j]) cs
  | nextItem {j : Json} {js : List Json} {cs ds : List Char} (h : Spells (.item j) cs)
      (hrest : Spells (.items js) ds) : Spells (.items (j :: js)) (cs ++ ',' :: ds)
  | member {key : Option String} {j : Json} {before name after cs : List Char}
      (hbefore : IsGap before) (hkey : SpellsString key name) (hafter : IsGap after)
      (h : Spells (.item j) cs) :
      Spells (.member (key, j)) (before ++ '"' :: (name ++ '"' :: (after ++ ':' :: cs)))
  | lastMember {m : Option String × Json} {cs : List Char} (h : Spells (.member m) cs) :
      Spells (.members [m]) cs
  | nextMember {m : Option String × Json} {ms : List (Option String × Json)} {cs ds : List Char}
      (h : Spells (.member m) cs) (hrest : Spells (.members ms) ds) :
      Spells (.members (m :: ms)) (cs ++ ',' :: ds)

/-- The compact form of a value spells it. -/
def IsSpelled (j : Json) : Prop :=
  ∃ cs, Spells (.value j) cs ∧ ∀ tail, renderOnto tail j = cs ++ tail

theorem isSpelled_null : IsSpelled .null := ⟨_, .null, fun _ => rfl⟩

theorem isSpelled_bool (b : Bool) : IsSpelled (.bool b) := by
  cases b with
  | true => exact ⟨_, .truth, fun _ => by rw [renderOnto]⟩
  | false => exact ⟨_, .falsehood, fun _ => by rw [renderOnto]⟩

theorem isSpelled_number {literal : List Char} (h : IsNumber literal) :
    IsSpelled (.number literal) := ⟨literal, .number h, fun _ => by rw [renderOnto]⟩

theorem readHex?_hex {n : Nat} (h : n < 32) : readHex? (hex 4 n) = some n := by
  decide +revert

theorem spellsUnits_escapeChar (c : Char) {ns : List Nat} {cs : List Char}
    (h : SpellsUnits ns cs) : SpellsUnits (c.toNat :: ns) (escapeChar c ++ cs) := by
  unfold escapeChar
  split
  · exact .short rfl h
  · exact .short rfl h
  · exact .short rfl h
  · exact .short rfl h
  · exact .short rfl h
  · exact .short rfl h
  · exact .short rfl h
  · next hquote hslash _ _ _ _ _ =>
    split
    · next hcontrol => exact .long (readHex?_hex hcontrol) h
    · next hvisible => exact .plain (Nat.le_of_not_lt hvisible) hquote hslash h

theorem makesUp_points (cs : List Char) : MakesUp (cs.map Char.toNat) cs := by
  induction cs with
  | nil => exact .nil
  | cons c cs ih => exact .point c ih

theorem spellsUnits_escapes (cs : List Char) :
    SpellsUnits (cs.map Char.toNat) (cs.flatMap escapeChar) := by
  induction cs with
  | nil => exact .nil
  | cons c cs ih => exact spellsUnits_escapeChar c ih

theorem spellsString_escapes (s : String) : SpellsString (some s) (s.toList.flatMap escapeChar) :=
  .text (spellsUnits_escapes s.toList) (makesUp_points s.toList)

theorem isSpelled_text (s : String) : IsSpelled (.text s) := by
  refine ⟨_, .string (spellsString_escapes s), fun tail => ?_⟩
  rw [text, renderOnto]
  rfl

theorem isGap_nil : IsGap [] := by
  rintro c ⟨⟩

theorem Spells.toItem {j : Json} {cs : List Char} (h : Spells (.value j) cs) :
    Spells (.item j) cs := by
  simpa using Spells.item isGap_nil h isGap_nil

theorem exists_spells_items {items : List Json} (hne : items ≠ [])
    (h : ∀ item ∈ items, IsSpelled item) :
    ∃ cs, Spells (.items items) cs ∧ ∀ tail, renderItems tail items = cs ++ tail := by
  induction items with
  | nil => exact absurd rfl hne
  | cons item items ih =>
    obtain ⟨⟨cs, hcs, hrender⟩, hrest⟩ := List.forall_mem_cons.mp h
    cases items with
    | nil =>
      refine ⟨cs, .lastItem hcs.toItem, fun tail => ?_⟩
      rw [renderItems, hrender]
    | cons next items =>
      obtain ⟨ds, hds, hlater⟩ := ih (List.cons_ne_nil next items) hrest
      refine ⟨cs ++ ',' :: ds, .nextItem hcs.toItem hds, fun tail => ?_⟩
      rw [renderItems, hrender, hlater, List.append_assoc, List.cons_append]
      rintro ⟨⟩

theorem isSpelled_array {items : List Json} (h : ∀ item ∈ items, IsSpelled item) :
    IsSpelled (.array items) := by
  cases items with
  | nil => exact ⟨_, .emptyArray isGap_nil, renderOnto_emptyArray⟩
  | cons item items =>
    obtain ⟨cs, hcs, hrender⟩ := exists_spells_items (List.cons_ne_nil item items) h
    refine ⟨_, .array hcs, fun tail => ?_⟩
    rw [renderOnto, hrender, List.cons_append, List.append_assoc]
    rfl

theorem exists_spells_members {members : List (Option String × Json)} (hne : members ≠ [])
    (h : ∀ member ∈ members, (∃ name, member.1 = some name) ∧ IsSpelled member.2) :
    ∃ cs, Spells (.members members) cs ∧ ∀ tail, renderMembers tail members = cs ++ tail := by
  induction members with
  | nil => exact absurd rfl hne
  | cons member members ih =>
    obtain ⟨key, value⟩ := member
    obtain ⟨⟨⟨name, rfl⟩, cs, hcs, hrender⟩, hrest⟩ := List.forall_mem_cons.mp h
    have hmember := Spells.member isGap_nil (spellsString_escapes name) isGap_nil hcs.toItem
    cases members with
    | nil =>
      refine ⟨_, .lastMember hmember, fun tail => ?_⟩
      rw [renderMembers, hrender]
      simp [renderString, quote]
    | cons next members =>
      obtain ⟨ds, hds, hlater⟩ := ih (List.cons_ne_nil next members) hrest
      refine ⟨_, .nextMember hmember hds, fun tail => ?_⟩
      rw [renderMembers, hrender, hlater]
      · simp [renderString, quote]
      · rintro ⟨⟩

theorem isSpelled_object {members : List (Option String × Json)}
    (h : ∀ member ∈ members, (∃ name, member.1 = some name) ∧ IsSpelled member.2) :
    IsSpelled (.object members) := by
  cases members with
  | nil => exact ⟨_, .emptyObject isGap_nil, renderOnto_emptyObject⟩
  | cons member members =>
    obtain ⟨cs, hcs, hrender⟩ := exists_spells_members (List.cons_ne_nil member members) h
    refine ⟨_, .object hcs, fun tail => ?_⟩
    rw [renderOnto, hrender, List.cons_append, List.append_assoc]
    rfl

theorem isSpelled_record {fields : List (String × Json)}
    (h : ∀ field ∈ fields, IsSpelled field.2) : IsSpelled (record fields) := by
  refine isSpelled_object fun member hmember => ?_
  obtain ⟨field, hfield, rfl⟩ := List.mem_map.mp hmember
  exact ⟨⟨field.1, rfl⟩, h field hfield⟩

theorem spells_render {j : Json} (h : IsSpelled j) : Spells (.value j) (render j).toList := by
  obtain ⟨cs, hcs, hrender⟩ := h
  rwa [render, String.toList_ofList, hrender, List.append_nil]

end AirflowDeploy.Json
