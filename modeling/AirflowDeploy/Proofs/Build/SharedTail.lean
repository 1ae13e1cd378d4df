import AirflowDeploy.Proofs.Build.Diagnostics

/-!
# Tails that streams share

The streams of a build push their lines into one tail. In whatever order the lines arrive, the tail
holds the last pushes, and what it holds of one stream is the end of what this stream pushed.
-/
namespace AirflowDeploy.Build

open Text

/-- A line that is pushed, with the stream that it comes from. -/
structure Push where
  stream : Stream
  line : String
  deriving DecidableEq, Repr

/-- The lines of one stream, in the order of their pushes. -/
def linesOf (stream : Stream) (pushes : List Push) : List String :=
  (pushes.filter (·.stream = stream)).map (·.line)

/-- Later pushes have the later lines of each stream. -/
theorem linesOf_suffix {pushes kept : List Push} (h : kept <:+ pushes) (stream : Stream) :
    linesOf stream kept <:+ linesOf stream pushes :=
  (h.filter _).map _

/-- The pushes that arriving lines lead to. They have the lines that are heard. -/
def pushed (stopped : List Stream) : List Arrival → List Push
  | [] => []
  | arrival :: rest =>
    if stopped.contains arrival.stream then pushed stopped rest
    else
      match Utf8.decode? arrival.line with
      | some cs => ⟨arrival.stream, String.ofList (lineText cs)⟩ :: pushed stopped rest
      | none => pushed (arrival.stream :: stopped) rest

theorem map_line_pushed (stopped : List Stream) (output : List Arrival) :
    (pushed stopped output).map (·.line) = heard stopped output := by
  induction output generalizing stopped with
  | nil => rfl
  | cons arrival rest ih =>
    by_cases hin : arrival.stream ∈ stopped
    · simp [pushed, heard, hin, ih]
    · cases hdecode : Utf8.decode? arrival.line <;> simp [pushed, heard, hin, hdecode, ih]

/-- Of the stopped streams only those matter that still have lines. -/
theorem pushed_congr {stopped stopped' : List Stream} {output : List Arrival}
    (h : ∀ a ∈ output, (a.stream ∈ stopped ↔ a.stream ∈ stopped')) :
    pushed stopped output = pushed stopped' output := by
  induction output generalizing stopped stopped' with
  | nil => rfl
  | cons arrival rest ih =>
    obtain ⟨harrival, hrest⟩ := List.forall_mem_cons.mp h
    have hbroken : pushed (arrival.stream :: stopped) rest =
        pushed (arrival.stream :: stopped') rest := by
      refine ih fun a ha => ?_
      rw [List.mem_cons, List.mem_cons, hrest a ha]
    by_cases hin : arrival.stream ∈ stopped
    · have hin' : arrival.stream ∈ stopped' := harrival.mp hin
      simp [pushed, hin, hin', ih hrest]
    · have hin' : arrival.stream ∉ stopped' := fun hmem => hin (harrival.mpr hmem)
      cases hdecode : Utf8.decode? arrival.line <;>
        simp [pushed, hin, hin', hdecode, hbroken, ih hrest]

/-- One stream pushes what it would push alone: that another one stops has no influence on it. -/
theorem filter_pushed (stream : Stream) (stopped : List Stream) (output : List Arrival) :
    (pushed stopped output).filter (·.stream = stream) =
      pushed stopped (output.filter (·.stream = stream)) := by
  induction output generalizing stopped with
  | nil => rfl
  | cons arrival rest ih =>
    by_cases hsame : arrival.stream = stream
    · rw [List.filter_cons_of_pos (by simpa using hsame)]
      subst hsame
      by_cases hin : arrival.stream ∈ stopped
      · simp [pushed, hin, ih]
      · cases hdecode : Utf8.decode? arrival.line <;> simp [pushed, hin, hdecode, ih]
    · rw [List.filter_cons_of_neg (by simpa using hsame)]
      have hstop : pushed (arrival.stream :: stopped) (rest.filter (·.stream = stream)) =
          pushed stopped (rest.filter (·.stream = stream)) := by
        refine pushed_congr fun a ha => ?_
        have hstream : a.stream = stream := by simpa using (List.mem_filter.mp ha).2
        simp [hstream, Ne.symm hsame]
      by_cases hin : arrival.stream ∈ stopped
      · simp [pushed, hin, ih]
      · cases hdecode : Utf8.decode? arrival.line <;>
          simp [pushed, hin, hdecode, hsame, ih, hstop]

theorem linesOf_pushed (stream : Stream) (stopped : List Stream) (output : List Arrival) :
    linesOf stream (pushed stopped output) =
      heard stopped (output.filter (·.stream = stream)) := by
  rw [linesOf, filter_pushed, map_line_pushed]

/-- A tail with these pushes behind it. -/
def tailOf (capacity : Nat) (pushes : List Push) : OutputTail :=
  (OutputTail.empty capacity).pushAll (pushes.map (·.line))

theorem lines_tailOf {capacity : Nat} (hpos : 0 < capacity) (pushes : List Push) :
    (tailOf capacity pushes).lines = (pushes.rtake capacity).map (·.line) := by
  rw [map_rtake]
  exact OutputTail.lines_pushAll hpos rfl _

theorem length_lines_tailOf_le {capacity : Nat} (hpos : 0 < capacity) (pushes : List Push) :
    (tailOf capacity pushes).lines.length ≤ capacity :=
  OutputTail.length_lines_pushAll_le (t := .empty capacity) hpos (Nat.zero_le _) _

/-- With room for a line, a tail holds the last pushes in their order, at no moment more of them
than it has room for, and of each stream the end of what it pushed. For the two streams of a build
that is the end of what is heard of each alone, in whatever order their lines arrive. -/
theorem tailOf_keeps_last {capacity : Nat} (hpos : 0 < capacity) (pushes : List Push) :
    ∃ kept : List Push, (tailOf capacity pushes).lines = kept.map (·.line) ∧
      kept <:+ pushes ∧ kept.length = min capacity pushes.length ∧
      (∀ earlier, earlier <+: pushes → (tailOf capacity earlier).lines.length ≤ capacity) ∧
      (∀ stream, linesOf stream kept <:+ linesOf stream pushes) ∧
      ∀ {out err : List UInt8} {output : List Arrival}, Interleaves out err output →
        pushes = pushed [] output →
        tailOf capacity pushes = (OutputTail.empty capacity).pushAll (heard [] output) ∧
        linesOf .stdout kept <:+ heard [] (arrivals .stdout out) ∧
        linesOf .stderr kept <:+ heard [] (arrivals .stderr err) := by
  have hsuffix : pushes.rtake capacity <:+ pushes := List.drop_suffix _ pushes
  refine ⟨pushes.rtake capacity, lines_tailOf hpos pushes, hsuffix, length_rtake pushes capacity,
    fun earlier _ => length_lines_tailOf_le hpos earlier, linesOf_suffix hsuffix, ?_⟩
  rintro out err output hstreams rfl
  have hends := linesOf_suffix hsuffix
  simp only [linesOf_pushed] at hends
  refine ⟨?_, ?_, ?_⟩
  · rw [tailOf, map_line_pushed]
  · rw [← hstreams.stdout]
    exact hends .stdout
  · rw [← hstreams.stderr]
    exact hends .stderr

def stepsOut : List UInt8 := Utf8.encode "step 1\nstep 2\nstep 3\n".toList

def stepsErr : List UInt8 := Utf8.encode "warning: cache miss\nerror: pip install failed\n".toList

/-- The warning arrives after the first step, and the error at the end. -/
def stepsOutput : List Arrival :=
  (arrivals .stdout stepsOut).take 1 ++ (arrivals .stderr stepsErr).take 1 ++
    (arrivals .stdout stepsOut).drop 1 ++ (arrivals .stderr stepsErr).drop 1

theorem interleaves_stepsOutput : Interleaves stepsOut stepsErr stepsOutput := by
  constructor <;> decide +kernel

/-- Room for three of five lines leaves two of the one stream and one of the other. -/
theorem stepsOutput_keeps_last :
    (0 < 3 ∧ Interleaves stepsOut stepsErr stepsOutput) ∧
    (tailOf 3 (pushed [] stepsOutput)).lines =
      ["step 2", "step 3", "error: pip install failed"] ∧
    ∃ kept : List Push, (tailOf 3 (pushed [] stepsOutput)).lines = kept.map (·.line) ∧
      kept <:+ pushed [] stepsOutput ∧ kept.length = min 3 (pushed [] stepsOutput).length ∧
      linesOf .stdout kept <:+ heard [] (arrivals .stdout stepsOut) ∧
      linesOf .stderr kept <:+ heard [] (arrivals .stderr stepsErr) := by
  refine ⟨⟨by decide, interleaves_stepsOutput⟩, by decide +kernel, ?_⟩
  obtain ⟨kept, hlines, hsuffix, hlength, _, _, hstreams⟩ :=
    tailOf_keeps_last (by decide : 0 < 3) (pushed [] stepsOutput)
  obtain ⟨_, hout, herr⟩ := hstreams interleaves_stepsOutput rfl
  exact ⟨kept, hlines, hsuffix, hlength, hout, herr⟩

end AirflowDeploy.Build
