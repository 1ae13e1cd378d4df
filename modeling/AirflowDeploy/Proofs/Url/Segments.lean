import AirflowDeploy.Proofs.Text.Lines
import AirflowDeploy.Proofs.Text.Utf8
import AirflowDeploy.Text.Case
import AirflowDeploy.Url.Parser

/-!
# Segments made from texts

A text that is encoded as one segment is decoded as this text again. The points of a text stay as
they are in its segment, so the texts `.` and `..` make segments that stand for levels of a path. No
other text does.
-/
namespace AirflowDeploy.Url

open Text

variable {front segs : List (List Char)} {cs ds rest : List Char} {keep : Char → Bool}

theorem hexValue?_hexUpper {n : Nat} (h : n < 16) : hexValue? (hexUpper n) = some n := by
  have hall : ∀ n : Fin 16, hexValue? (hexUpper n) = some n.val := by decide
  exact hall ⟨n, h⟩

theorem percentDecode_percent (b : UInt8) (rest : List Char) :
    percentDecode (percent b ++ rest) = b :: percentDecode rest := by
  have hb : b.toNat < 256 := b.toNat_lt
  have hhigh := hexValue?_hexUpper (n := b.toNat / 16) (by omega)
  have hlow := hexValue?_hexUpper (n := b.toNat % 16) (by omega)
  have hsum : b.toNat / 16 * 16 + b.toNat % 16 = b.toNat := by omega
  change percentDecode ('%' :: hexUpper (b.toNat / 16) :: hexUpper (b.toNat % 16) :: rest) = _
  simp only [percentDecode, hhigh, hlow, hsum, UInt8.ofNat_toNat]

theorem percentDecode_percents (bs : List UInt8) (rest : List Char) :
    percentDecode (bs.flatMap percent ++ rest) = bs ++ percentDecode rest := by
  induction bs with
  | nil => rfl
  | cons b bs ih =>
    rw [List.flatMap_cons, List.append_assoc, percentDecode_percent, ih, List.cons_append]

theorem percentDecode_cons {c : Char} (hc : c ≠ '%') (rest : List Char) :
    percentDecode (c :: rest) = String.utf8EncodeChar c ++ percentDecode rest := by
  rw [percentDecode]
  rintro _ _ _ rfl
  exact absurd rfl hc

/-- What is encoded is decoded as it was, whichever characters stand for themselves, as long as
percent signs do not. -/
theorem percentDecode_encodeExcept (hkeep : keep '%' = false) (cs : List Char) :
    percentDecode (encodeExcept keep cs) = Utf8.encode cs := by
  induction cs with
  | nil => rfl
  | cons c cs ih =>
    rw [Utf8.encode, List.flatMap_cons, ← Utf8.encode, ← ih, encodeExcept, List.flatMap_cons,
      ← encodeExcept]
    by_cases hc : keep c = true
    · rw [if_pos hc]
      exact percentDecode_cons (by rintro rfl; simp [hkeep] at hc) _
    · rw [if_neg hc, percentDecode_percents]

theorem percentDecode_encodeSegment (text : String) :
    percentDecode (encodeSegment text) = Utf8.encode text.toList :=
  percentDecode_encodeExcept rfl _

theorem eq_of_percentDecode {text text' : String}
    (h : percentDecode (encodeSegment text) = Utf8.encode text'.toList) : text = text' := by
  rw [percentDecode_encodeSegment] at h
  exact Utf8.encode_toList_injective h

theorem encodeSegment_injective : Function.Injective encodeSegment := fun text text' h => by
  refine eq_of_percentDecode ?_
  rw [h, percentDecode_encodeSegment]

theorem eq_of_asciiLower {c d : Char} (h : asciiLower c = d) (hd : isAsciiLower d = false) :
    c = d := by
  subst h
  by_cases hc : c.toNat < 128
  · exact forall_ascii (P := fun c => isAsciiLower (asciiLower c) = false → c = asciiLower c)
      (by decide) hc hd
  · exact (asciiLower_eq_self hc).symm

theorem hexValue?_of_asciiLower {c : Char} (h : asciiLower c = 'e') : hexValue? c = some 14 := by
  have hc : c.toNat < 128 := (asciiLower_lt_iff c).mp (h ▸ by decide)
  exact forall_ascii (P := fun c => asciiLower c = 'e' → hexValue? c = some 14) (by decide) hc h

/-- A point at the front of a segment, as it is or encoded, is decoded as one. -/
theorem percentDecode_point
    (h : cs.map asciiLower = '.' :: ds ∨ cs.map asciiLower = '%' :: '2' :: 'e' :: ds) :
    ∃ rest, rest.map asciiLower = ds ∧ percentDecode cs = 0x2E :: percentDecode rest := by
  rcases h with h | h
  · obtain ⟨c, rest, rfl, hc, hrest⟩ := List.map_eq_cons_iff.mp h
    obtain rfl := eq_of_asciiLower hc rfl
    exact ⟨rest, hrest, percentDecode_cons (by decide) rest⟩
  · obtain ⟨a, tail, rfl, ha, htail⟩ := List.map_eq_cons_iff.mp h
    obtain ⟨b, tail, rfl, hb, htail⟩ := List.map_eq_cons_iff.mp htail
    obtain ⟨c, rest, rfl, hc, hrest⟩ := List.map_eq_cons_iff.mp htail
    obtain rfl := eq_of_asciiLower ha rfl
    obtain rfl := eq_of_asciiLower hb rfl
    have htwo : hexValue? '2' = some 2 := rfl
    refine ⟨rest, hrest, ?_⟩
    simp only [percentDecode, htwo, hexValue?_of_asciiLower hc]
    rfl

theorem isOneDot_iff : isOneDot cs = true ↔
    cs.map asciiLower = ['.'] ∨ cs.map asciiLower = ['%', '2', 'e'] := by
  simp [isOneDot]

theorem percentDecode_of_isOneDot (h : isOneDot cs = true) : percentDecode cs = [0x2E] := by
  obtain ⟨rest, hrest, hcs⟩ := percentDecode_point (isOneDot_iff.mp h)
  rw [hcs, List.map_eq_nil_iff.mp hrest]
  rfl

theorem percentDecode_of_isTwoDots (h : isTwoDots cs = true) :
    percentDecode cs = [0x2E, 0x2E] := by
  have hcases : ∃ ds, (ds = ['.'] ∨ ds = ['%', '2', 'e']) ∧
      (cs.map asciiLower = '.' :: ds ∨ cs.map asciiLower = '%' :: '2' :: 'e' :: ds) := by
    simp only [isTwoDots, List.any_cons, List.any_nil, Bool.or_false, Bool.or_eq_true,
      beq_iff_eq] at h
    rcases h with h | h | h | h
    · exact ⟨_, .inl rfl, .inl h⟩
    · exact ⟨_, .inr rfl, .inl h⟩
    · exact ⟨_, .inl rfl, .inr h⟩
    · exact ⟨_, .inr rfl, .inr h⟩
  obtain ⟨ds, hds, hfront⟩ := hcases
  obtain ⟨rest, rfl, hcs⟩ := percentDecode_point hfront
  rw [hcs, percentDecode_of_isOneDot (isOneDot_iff.mpr hds)]

/-- No text but the point itself makes the segment for the same level. -/
@[simp] theorem isOneDot_encodeSegment {text : String} :
    isOneDot (encodeSegment text) = true ↔ text = "." := by
  constructor
  · intro h
    exact eq_of_percentDecode (percentDecode_of_isOneDot h)
  · rintro rfl
    decide

/-- No text but the two points themselves makes the segment for the upper level. -/
@[simp] theorem isTwoDots_encodeSegment {text : String} :
    isTwoDots (encodeSegment text) = true ↔ text = ".." := by
  constructor
  · intro h
    exact eq_of_percentDecode (percentDecode_of_isTwoDots h)
  · rintro rfl
    decide

theorem resolve_cons (segment : List Char) (hne : segs ≠ []) :
    resolve front (segment :: segs) =
      if isTwoDots segment then resolve front.dropLast segs
      else if isOneDot segment then resolve front segs
      else resolve (front ++ [segment]) segs := by
  cases segs with
  | nil => exact absurd rfl hne
  | cons next rest => rfl

/-- A slash at the end leaves an empty segment at the end. -/
theorem getLast?_resolve (front segs : List (List Char)) :
    (resolve front (segs ++ [[]])).getLast? = some [] := by
  induction segs generalizing front with
  | nil => simp [resolve, isTwoDots, isOneDot]
  | cons segment segs ih =>
    have hne : segs ++ [[]] ≠ [] := by simp
    rw [List.cons_append, resolve_cons segment hne]
    split_ifs <;> exact ih _

theorem getLast?_readPath (front : List Char) :
    (readPath (front ++ ['/'])).getLast? = some [] := by
  cases front with
  | nil => rfl
  | cons first rest =>
    have hsplit : segments (rest ++ ['/']) = segments rest ++ [[]] := by
      rw [segments, pieces_append_cons rfl, List.map_append]
      rfl
    rw [List.cons_append, readPath, hsplit]
    exact getLast?_resolve [] _

end AirflowDeploy.Url
