import AirflowDeploy.Proofs.Build.Tail
import AirflowDeploy.Proofs.Engine.BuildPlace
import AirflowDeploy.Proofs.Text.Input

/-!
# Build diagnostics

What is told about a build that failed. Each of its two streams is heard up to the first line that
is no text, and what was heard last is told, in the order of arrival.
-/
namespace AirflowDeploy.Build

open Text Dialogue

abbrev IsText (bs : List UInt8) : Prop := (Utf8.decode? bs).isSome = true

theorem isText_append_newline (bs rest : List UInt8) :
    IsText (bs ++ 10 :: rest) ↔ IsText (bs ++ [10]) ∧ IsText rest := by
  unfold IsText
  rw [Utf8.decode?_append_newline]
  cases Utf8.decode? (bs ++ [10]) <;> simp

/-- A stream is text where all of its lines are. -/
theorem isText_iff_streamLines {fuel : Nat} {bs : List UInt8} (h : bs.length ≤ fuel) :
    IsText bs ↔ ∀ line ∈ streamLines fuel bs, IsText line := by
  induction fuel generalizing bs with
  | zero =>
    obtain rfl := List.eq_nil_of_length_eq_zero (Nat.le_zero.mp h)
    simp [streamLines, IsText, Utf8.decode?, Utf8.strictWithin]
  | succ fuel ih =>
    rw [streamLines]
    split
    · next hempty =>
      obtain rfl := List.isEmpty_iff.mp hempty
      simp [IsText, Utf8.decode?, Utf8.strictWithin]
    · rcases firstLineBytes_cases bs with ⟨line, rest, rfl, -, hfirst⟩ | ⟨-, hfirst⟩
      · have hrest : rest.length ≤ fuel := by
          rw [List.length_append, List.length_cons] at h
          omega
        rw [hfirst, isText_append_newline, List.forall_mem_cons, ih hrest]
      · rw [hfirst, List.forall_mem_cons]
        cases fuel <;> simp [streamLines]

/-- The lines of two streams, in some order. -/
structure Interleaves (out err : List UInt8) (output : List Arrival) : Prop where
  stdout : output.filter (·.stream = .stdout) = arrivals .stdout out
  stderr : output.filter (·.stream = .stderr) = arrivals .stderr err

variable {output before rest : List Arrival} {run : Run}

theorem forall_arrivals_isText (stream : Stream) (bs : List UInt8) :
    (∀ a ∈ arrivals stream bs, IsText a.line) ↔ IsText bs := by
  rw [arrivals, List.forall_mem_map, isText_iff_streamLines (Nat.le_refl _)]

theorem Interleaves.forall_isText {out err : List UInt8} (h : Interleaves out err output) :
    (∀ a ∈ output, IsText a.line) ↔ IsText out ∧ IsText err := by
  rw [← forall_arrivals_isText .stdout, ← forall_arrivals_isText .stderr, ← h.stdout, ← h.stderr]
  simp only [List.mem_filter, decide_eq_true_eq]
  constructor
  · intro hall
    exact ⟨fun a ha => hall a ha.1, fun a ha => hall a ha.1⟩
  · rintro ⟨hout, herr⟩ a ha
    cases hstream : a.stream with
    | stdout => exact hout a ⟨ha, hstream⟩
    | stderr => exact herr a ⟨ha, hstream⟩

/-- A line without its line end, where bytes that are no text are replaced. -/
def Arrival.text (a : Arrival) : String := String.ofList (lineText (Utf8.decodeLossy a.line))

/-- The line in this place is not heard: it is no text, or an earlier line of its stream is
none. -/
def CutOff (output : List Arrival) (n : Nat) : Prop :=
  ∃ a ∈ output[n]?, ∃ b ∈ output.take (n + 1), b.stream = a.stream ∧ ¬ IsText b.line

instance (output : List Arrival) (n : Nat) : Decidable (CutOff output n) :=
  inferInstanceAs (Decidable (∃ a ∈ output[n]?, ∃ b ∈ output.take (n + 1), _))

/-- Some line of the stream is no text. -/
def Broken (before : List Arrival) (stream : Stream) : Prop :=
  ∃ b ∈ before, b.stream = stream ∧ ¬ IsText b.line

theorem broken_append_singleton {a : Arrival} {stream : Stream} :
    Broken (before ++ [a]) stream ↔
      Broken before stream ∨ a.stream = stream ∧ ¬ IsText a.line := by
  simp [Broken, or_and_right, exists_or]

theorem cutOff_append_cons {a : Arrival} :
    CutOff (before ++ a :: rest) before.length ↔ Broken (before ++ [a]) a.stream := by
  have hthere : (before ++ a :: rest)[before.length]? = some a := by simp
  have hearlier : (before ++ a :: rest).take (before.length + 1) = before ++ [a] := by
    rw [List.append_cons]
    exact List.take_left' (by simp)
  rw [CutOff, hthere, hearlier, Broken]
  simp

theorem forall_not_cutOff_iff :
    (∀ n, ¬ CutOff output n) ↔ ∀ a ∈ output, IsText a.line := by
  constructor
  · intro hnone a ha
    obtain ⟨before, rest, rfl⟩ := List.append_of_mem ha
    have hnot := hnone before.length
    rw [cutOff_append_cons, broken_append_singleton] at hnot
    by_contra hbroken
    exact hnot (.inr ⟨rfl, hbroken⟩)
  · rintro hall n ⟨_, _, b, hb, _, hbroken⟩
    exact hbroken (hall b (List.mem_of_mem_take hb))

/-- The streams that are not heard any more are those with a line that is no text. -/
theorem heard_eq_of_stopped {stopped : List Stream}
    (h : ∀ stream, stream ∈ stopped ↔ Broken before stream) :
    heard stopped rest =
      ((rest.zipIdx before.length).filter fun p => ¬ CutOff (before ++ rest) p.2).map
        (·.1.text) := by
  induction rest generalizing before stopped with
  | nil => rfl
  | cons a rest ih =>
    have hsplit : before ++ a :: rest = before ++ [a] ++ rest := by simp
    have hcut : CutOff (before ++ a :: rest) before.length ↔
        a.stream ∈ stopped ∨ ¬ IsText a.line := by
      rw [cutOff_append_cons, broken_append_singleton, h]
      simp
    have hrest {stopped : List Stream}
        (hstopped : ∀ stream, stream ∈ stopped ↔ Broken (before ++ [a]) stream) :
        heard stopped rest =
          ((rest.zipIdx (before.length + 1)).filter
            fun p => ¬ CutOff (before ++ a :: rest) p.2).map (·.1.text) := by
      rw [ih hstopped, List.length_append, List.length_singleton, ← hsplit]
    rw [heard, List.zipIdx_cons, List.filter_cons]
    by_cases hin : a.stream ∈ stopped
    · have hsame : ∀ stream, stream ∈ stopped ↔ Broken (before ++ [a]) stream := by
        intro stream
        rw [broken_append_singleton, ← h]
        refine ⟨.inl, ?_⟩
        rintro (hold | ⟨rfl, _⟩)
        · exact hold
        · exact hin
      simp [hin, hcut, hrest hsame]
    · cases hdecode : Utf8.decode? a.line with
      | some cs =>
        have htext : IsText a.line := by simp [IsText, hdecode]
        have hsame : ∀ stream, stream ∈ stopped ↔ Broken (before ++ [a]) stream := by
          intro stream
          rw [broken_append_singleton, ← h]
          simp [htext]
        simp [hin, hcut, hrest hsame, htext, Arrival.text, Utf8.decodeLossy_of_decode? hdecode]
      | none =>
        have hbroken : ¬ IsText a.line := by simp [IsText, hdecode]
        have hmore : ∀ stream, stream ∈ a.stream :: stopped ↔ Broken (before ++ [a]) stream := by
          intro stream
          rw [broken_append_singleton, ← h, List.mem_cons, or_comm]
          simp [hbroken, eq_comm]
        simp [hin, hcut, hrest hmore, hbroken]

/-- The lines with their places, without the ones that are not heard. -/
def heardLines (output : List Arrival) : List (Arrival × Nat) :=
  output.zipIdx.filter fun p => ¬ CutOff output p.2

theorem heard_eq (output : List Arrival) :
    heard [] output = (heardLines output).map (·.1.text) := by
  have hstart : ∀ stream, stream ∈ ([] : List Stream) ↔ Broken [] stream := by simp [Broken]
  exact heard_eq_of_stopped hstart

/-- A build that failed is told with its exit code and some lines. -/
def failure (exit : Exit) (lines : List (Arrival × Nat)) : Fault :=
  .buildFailed ("docker build exited with " ++ exit.text ++ "\n" ++
    String.intercalate "\n" (lines.map (·.1.text)))

theorem outcome_of_failed {program : String} (hexit : run.exit ≠ .code 0) :
    outcome program (.ok run) =
      .error (failure run.exit ((heardLines run.output).rtake tailCapacity)) := by
  have hlines := OutputTail.lines_pushAll (t := .empty tailCapacity) (by decide) rfl
    (heard [] run.output)
  rw [outcome, if_neg hexit, hlines, heard_eq, failure, map_rtake]
  rfl

theorem told_eq_last_iff :
    (heardLines output).rtake tailCapacity = output.zipIdx.rtake tailCapacity ↔
      ∀ n, output.length ≤ n + tailCapacity → ¬ CutOff output n := by
  rw [heardLines, rtake_filter_eq_iff]
  simp only [decide_eq_true_eq]
  constructor
  · rintro hlast n hn ⟨a, ha, hbroken⟩
    exact hlast (a, n) (mem_rtake_zipIdx.mpr ⟨by omega, ha⟩) ⟨a, ha, hbroken⟩
  · intro hheard p hp
    exact hheard p.2 (by have := (mem_rtake_zipIdx.mp hp).1; omega)

/-- A build that failed is told with the last lines of its two streams that are heard. They are the
last lines at all exactly if none of these is cut off, as in streams that are text throughout. -/
theorem build_tells_last_lines {e : Engine} {image : String} {ctx : BuildContext}
    {trace : List (Exchange machine)} {result : Except Fault Unit} {out err : List UInt8}
    (h : Runs (e.build image ctx) trace result)
    (hrun : ⟨.process e.program ctx.projectDir (ctx.arguments image), .ok run⟩ ∈ trace)
    (hexit : run.exit ≠ .code 0) (hstreams : Interleaves out err run.output) :
    ∃ told : List (Arrival × Nat), result = .error (failure run.exit told) ∧
      told = (heardLines run.output).rtake 25 ∧
      (told = run.output.zipIdx.rtake 25 ↔
        ∀ n, run.output.length ≤ n + 25 → ¬ CutOff run.output n) ∧
      ((∀ n, ¬ CutOff run.output n) ↔ IsText out ∧ IsText err) := by
  obtain ⟨answer, rfl, rfl⟩ := runs_build_iff.mp h
  cases List.mem_singleton.mp hrun
  exact ⟨_, outcome_of_failed hexit, rfl, told_eq_last_iff,
    forall_not_cutOff_iff.trans hstreams.forall_isText⟩

/-- A line of text, a stray byte and an error, each on a line of its own. -/
def strayOut : List UInt8 :=
  Utf8.encode "step 1\n".toList ++ 255 :: Utf8.encode "\nerror\n".toList

def strayRun : Run := ⟨arrivals .stdout strayOut, .code 1⟩

def strayContext : BuildContext := ⟨"/p", "Dockerfile", none, "", "r/airflow:latest"⟩

def strayTrace : List (Exchange machine) :=
  [⟨.process "docker" "/p" (strayContext.arguments "r/airflow:latest"), .ok strayRun⟩]

def strayResult : Except Fault Unit := outcome "docker" (.ok strayRun)

theorem runs_strayBuild :
    Runs (Engine.build ⟨"/run/docker.sock", "docker"⟩ "r/airflow:latest" strayContext) strayTrace
      strayResult := runs_build_iff.mpr ⟨.ok strayRun, rfl, rfl⟩

theorem interleaves_strayRun : Interleaves strayOut [] strayRun.output := by
  constructor <;> decide +kernel

theorem strayBuild_tells_last_lines :
    (strayRun.exit ≠ .code 0 ∧ CutOff strayRun.output 2) ∧
    ∃ told : List (Arrival × Nat), strayResult = .error (failure strayRun.exit told) ∧
      told = (heardLines strayRun.output).rtake 25 ∧
      (told = strayRun.output.zipIdx.rtake 25 ↔
        ∀ n, strayRun.output.length ≤ n + 25 → ¬ CutOff strayRun.output n) := by
  refine ⟨⟨by decide, by decide +kernel⟩, ?_⟩
  obtain ⟨told, hresult, htold, hlast, _⟩ :=
    build_tells_last_lines runs_strayBuild (.head _) (by decide) interleaves_strayRun
  exact ⟨told, hresult, htold, hlast⟩

/-- Of three lines only the first one is told, and the error behind the stray byte is lost. -/
theorem strayBuild_loses_lines :
    (Runs (Engine.build ⟨"/run/docker.sock", "docker"⟩ "r/airflow:latest" strayContext) strayTrace
        strayResult ∧ Interleaves strayOut [] strayRun.output ∧ strayRun.exit ≠ .code 0) ∧
    strayRun.output.map Arrival.text = ["step 1", "\uFFFD", "error"] ∧
    strayResult = .error (.buildFailed "docker build exited with 1\nstep 1") ∧
    strayResult ≠ .error (failure strayRun.exit (strayRun.output.zipIdx.rtake 25)) :=
  ⟨⟨runs_strayBuild, interleaves_strayRun, by decide⟩, by decide +kernel, by decide +kernel,
    by decide +kernel⟩

end AirflowDeploy.Build
