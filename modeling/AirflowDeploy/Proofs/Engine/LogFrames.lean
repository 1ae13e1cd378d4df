import AirflowDeploy.Check.Outcome
import AirflowDeploy.Proofs.Engine.CheckRun
import AirflowDeploy.Proofs.Text.Units
import Mathlib.Algebra.Group.Nat.Defs

/-!
# The text of a framed log

The daemon sends the log of a container in frames, and each frame is decoded on its own. The text
is that of the whole log exactly if no frame ends inside of a character or of a maximal ill-formed
part.
-/
namespace AirflowDeploy

open Text

namespace Daemon

variable {frames : List LogFrame}

theorem lengthOf_lengthBytes {n : Nat} (h : n < 2 ^ 32) :
    lengthOf (UInt8.ofNat (n / 16777216)) (UInt8.ofNat (n / 65536)) (UInt8.ofNat (n / 256))
      (UInt8.ofNat n) = n := by
  simp only [lengthOf, UInt8.toNat_ofNat']
  omega

theorem LogStream.byte_le_two (stream : LogStream) : stream.byte ≤ 2 := by
  cases stream <;> decide

/-- Frames are the pieces of the log that they are written to. -/
theorem isLog_frames (hframes : ∀ frame ∈ frames, frame.data.length < 2 ^ 32) :
    IsLog (frames.flatMap LogFrame.encode) (frames.map LogFrame.data) := by
  induction frames with
  | nil => exact .nil
  | cons frame frames ih =>
    obtain ⟨hframe, hrest⟩ := List.forall_mem_cons.mp hframes
    have hlength := (lengthOf_lengthBytes hframe).symm
    rw [List.flatMap_cons]
    exact .frame frame.stream.byte_le_two hlength (ih hrest)

/-- The text of frames is that of their data, one after the other. -/
theorem logText_frames (hframes : ∀ frame ∈ frames, frame.data.length < 2 ^ 32) :
    logText (frames.flatMap LogFrame.encode) =
      .ok (String.ofList ((frames.map LogFrame.data).flatMap Utf8.decodeLossy)) :=
  logText_eq_ok_iff.mpr ⟨_, isLog_frames hframes, rfl⟩

end Daemon

namespace Engine

open Daemon

variable {bs : List UInt8} {pieces others : List (List UInt8)}

/-- The pieces of a byte sequence, each short enough for a frame. -/
structure IsCut (bs : List UInt8) (pieces : List (List UInt8)) : Prop where
  flatten : pieces.flatten = bs
  short : ∀ piece ∈ pieces, piece.length < 2 ^ 32

/-- The daemon's reply to a question for a log, where each piece has a frame. -/
def framedLog (stream : LogStream) (pieces : List (List UInt8)) : Except String Reply :=
  .ok ⟨200, (pieces.map (LogFrame.mk stream)).flatMap LogFrame.encode⟩

theorem loggedText_framedLog (stream : LogStream) (hcut : IsCut bs pieces) :
    loggedText (framedLog stream pieces) =
      .ok (String.ofList (pieces.flatMap Utf8.decodeLossy)) := by
  have hbody : replyBody (framedLog stream pieces) =
      .ok ((pieces.map (LogFrame.mk stream)).flatMap LogFrame.encode) := rfl
  have hdata : (pieces.map (LogFrame.mk stream)).map LogFrame.data = pieces := by
    rw [List.map_map]
    exact List.map_id pieces
  have hshort : ∀ frame ∈ pieces.map (LogFrame.mk stream), frame.data.length < 2 ^ 32 := by
    simpa using hcut.short
  rw [loggedText, hbody, Except.bind, logText_frames hshort, hdata]

theorem loggedText_eq_iff (stream : LogStream) (hcut : IsCut bs pieces) :
    loggedText (framedLog stream pieces) = .ok (String.ofList (Utf8.decodeLossy bs)) ↔
      Utf8.CutsBetween pieces := by
  rw [loggedText_framedLog stream hcut, Except.ok.injEq, String.ofList_inj, ← hcut.flatten,
    Utf8.flatMap_decodeLossy_eq_iff]

/-- Every byte sequence can be sent so that no frame ends inside of a unit. -/
theorem isCut_units (bs : List UInt8) : IsCut bs (Utf8.units bs) where
  flatten := Utf8.flatten_units bs
  short unit hunit := by
    have hfour := (Utf8.length_of_mem_units hunit).2
    omega

/-- A unit of several bytes can be divided. -/
theorem exists_isCut_divided {unit : List UInt8} (hunit : unit ∈ Utf8.units bs)
    (hlong : unit.length ≠ 1) : ∃ pieces, IsCut bs pieces ∧ ¬Utf8.CutsBetween pieces := by
  obtain ⟨hpos, hfour⟩ := Utf8.length_of_mem_units hunit
  obtain ⟨before, after, hunits⟩ := List.append_of_mem hunit
  obtain ⟨first, rest, rfl⟩ := List.exists_cons_of_length_pos hpos
  have hrest : rest ≠ [] := by
    rintro rfl
    exact hlong rfl
  refine ⟨before ++ [first] :: rest :: after, ⟨?_, ?_⟩,
    Utf8.not_cutsBetween_of_divided hunits (List.cons_ne_nil first []) hrest⟩
  · rw [← Utf8.flatten_units bs, hunits]
    simp
  · have hshort := (isCut_units bs).short
    rw [hunits] at hshort
    simp only [List.mem_append, List.mem_cons] at hshort ⊢
    rw [List.length_cons] at hfour
    rintro piece (hbefore | rfl | rfl | hafter)
    · exact hshort piece (.inl hbefore)
    · simp
    · omega
    · exact hshort piece (.inr (.inr hafter))

theorem loggedText_of_single (stream : LogStream)
    (hsingle : ∀ unit ∈ Utf8.units bs, unit.length = 1) (hcut : IsCut bs pieces) :
    loggedText (framedLog stream pieces) = .ok (String.ofList (Utf8.decodeLossy bs)) := by
  refine (loggedText_eq_iff stream hcut).mpr (Utf8.cutsBetween_of_single ?_)
  rw [hcut.flatten]
  exact hsingle

/-- Framing has no influence on a log in ASCII. -/
theorem loggedText_ascii (stream : LogStream) (hascii : ∀ b ∈ bs, b < 0x80)
    (hcut : IsCut bs pieces) :
    loggedText (framedLog stream pieces) = .ok (String.ofList (Utf8.decodeLossy bs)) :=
  loggedText_of_single stream (fun _ => Utf8.length_of_mem_units_ascii hascii) hcut

/-- For whatever a container writes to a stream: the text of its log is that of the bytes as a
whole exactly if no frame ends inside of a unit, and it is the same for all ways of cutting it
exactly if every unit is a single byte. -/
theorem loggedText_cuts (stream : LogStream) (bs : List UInt8) :
    (∀ pieces, IsCut bs pieces →
      (loggedText (framedLog stream pieces) = .ok (String.ofList (Utf8.decodeLossy bs)) ↔
        Utf8.CutsBetween pieces)) ∧
    ((∀ pieces others, IsCut bs pieces → IsCut bs others →
      loggedText (framedLog stream pieces) = loggedText (framedLog stream others)) ↔
        ∀ unit ∈ Utf8.units bs, unit.length = 1) := by
  refine ⟨fun pieces => loggedText_eq_iff stream, fun hsame unit hunit => ?_,
    fun hsingle pieces others hpieces hothers => ?_⟩
  · by_contra hlong
    obtain ⟨pieces, hpieces, hdivided⟩ := exists_isCut_divided hunit hlong
    have hwhole := (loggedText_eq_iff stream (isCut_units bs)).mpr (Utf8.cutsBetween_units bs)
    refine hdivided ((loggedText_eq_iff stream hpieces).mp ?_)
    rw [hsame pieces _ hpieces (isCut_units bs), hwhole]
  · rw [loggedText_of_single stream hsingle hpieces, loggedText_of_single stream hsingle hothers]

/-- A failed run: the blank in front of its status is a character of two bytes. -/
def spacedStatus : List UInt8 := Utf8.encode "\u00A0exit code 1\n".toList

/-- With a frame that ends inside of the blank, the run counts as one without a status. -/
theorem spacedStatus_parts :
    IsCut spacedStatus [spacedStatus] ∧
    IsCut spacedStatus [spacedStatus.take 1, spacedStatus.drop 1] ∧
    loggedText (framedLog .stdout [spacedStatus]) = .ok "\u00A0exit code 1\n" ∧
    loggedText (framedLog .stdout [spacedStatus.take 1, spacedStatus.drop 1]) =
      .ok "\uFFFD\uFFFDexit code 1\n" ∧
    Check.classify "\u00A0exit code 1\n" = .failed 1 ∧
    Check.classify "\uFFFD\uFFFDexit code 1\n" = .unknown := by
  refine ⟨⟨rfl, by decide⟩, ⟨rfl, by decide⟩, ?_, ?_, ?_, ?_⟩
  · decide +kernel
  · decide +kernel
  · decide +kernel
  · decide +kernel

end Engine

end AirflowDeploy
