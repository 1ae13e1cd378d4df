import AirflowDeploy.Deploy.RuntimeVersion
import AirflowDeploy.Engine.Image
import AirflowDeploy.Proofs.Deploy.Action
import AirflowDeploy.Proofs.Files.Places

/-!
# The project of a build

The build process starts in the project directory and is told the same directory again. It sees the
project that was checked exactly where this directory leads back to itself.
-/
namespace AirflowDeploy

open Dialogue

/-- The value behind an option, where values follow their options. -/
def optionValue? (name : String) : List String → Option String
  | option :: value :: rest => if option = name then some value else optionValue? name rest
  | _ => none

/-- The Dockerfile that a build command names. -/
def buildFile? (arguments : List String) : Option String := optionValue? "-f" arguments.tail

/-- The directory that a build command names. -/
def buildDirectory? (arguments : List String) : Option String := arguments.getLast?

theorem buildFile?_arguments (ctx : BuildContext) (image : String) :
    buildFile? (ctx.arguments image) = some ctx.dockerfilePath := by
  simp [buildFile?, BuildContext.arguments, optionValue?]

theorem buildDirectory?_arguments (ctx : BuildContext) (image : String) :
    buildDirectory? (ctx.arguments image) = some ctx.projectDir := by
  rw [buildDirectory?, BuildContext.arguments, List.getLast?_concat]

theorem runs_build_iff {e : Engine} {image : String} {ctx : BuildContext}
    {trace : List (Exchange machine)} {result : Except Fault Unit} :
    Runs (e.build image ctx) trace result ↔
      ∃ answer : Except IoFault Build.Run,
        trace = [⟨.process e.program ctx.projectDir (ctx.arguments image), answer⟩] ∧
          result = Build.outcome e.program answer :=
  runs_map_iff.trans (exists_congr fun _ => and_congr_left' runs_query_iff)

theorem runs_build {e : Engine} {image : String} {ctx : BuildContext}
    {trace : List (Exchange machine)} {result : Except Fault Unit}
    (h : Runs (e.build image ctx) trace result) :
    ∃ answer, trace = [⟨.process e.program ctx.projectDir (ctx.arguments image), answer⟩] := by
  obtain ⟨answer, htrace, _⟩ := runs_build_iff.mp h
  exact ⟨answer, htrace⟩

/-- The check of a Dockerfile reads one file. -/
theorem Deploy.ends_dockerfileRuntimeTag {ctx : BuildContext} {catalog : List RuntimeRelease}
    {trace : List (Exchange outside)} {result : Except DeployError (Option String)}
    (h : Ends (dockerfileRuntimeTag ctx catalog) trace result) :
    ∃ content, trace = [⟨.fileContent ctx.dockerfilePath, content⟩] := by
  obtain ⟨_, h, _⟩ := Action.ends_map_iff.mp h
  obtain ⟨_, h, _⟩ := Action.ends_expect_iff.mp h
  obtain ⟨content, h, _⟩ := runs_map_iff.mp h
  exact ⟨content, runs_query_iff.mp h⟩

variable {Place : Type} {fs : FileSystem Place} {cwd project : Place} {ctx : BuildContext}

/-- From the directory where it starts, a build command names the Dockerfile and the project
directory that are there for the caller. -/
structure SeesChecked (fs : FileSystem Place) (cwd project : Place) (ctx : BuildContext)
    (arguments : List String) : Prop where
  file : ∃ path ∈ buildFile? arguments,
    fs.denotes? project path = fs.denotes? cwd ctx.dockerfilePath
  directory : ∃ path ∈ buildDirectory? arguments,
    fs.denotes? project path = fs.denotes? cwd ctx.projectDir

/-- The build sees what was checked where the project directory leads back to itself. -/
theorem seesChecked_iff (hproject : fs.denotes? cwd ctx.projectDir = some project)
    (image version : String) :
    SeesChecked fs cwd project ctx ({ ctx with runtimeTag := version }.arguments image) ↔
      fs.denotes? project ctx.projectDir = some project := by
  have hfile := buildFile?_arguments { ctx with runtimeTag := version } image
  have hdirectory := buildDirectory?_arguments { ctx with runtimeTag := version } image
  constructor
  · rintro ⟨_, dir, hdir, hsame⟩
    obtain rfl := Option.some.inj (hdirectory.symm.trans hdir)
    exact hsame.trans hproject
  · intro hback
    exact ⟨⟨_, hfile, FileSystem.denotes?_join_congr hback hproject ctx.dockerfile⟩,
      ⟨_, hdirectory, hback.trans hproject.symm⟩⟩

/-- The check reads the Dockerfile of a context from the working directory. The build for a version
starts in the project and sees what was checked exactly where the project directory, as it is
written, leads from the project back to it. So it does when it is absolute or made of dots, and
never when it leads down from the working directory. -/
theorem build_seesChecked_iff (hproject : fs.denotes? cwd ctx.projectDir = some project)
    (e : Engine) (image version : String) {trace : List (Exchange machine)}
    {result : Except Fault Unit}
    (h : Runs (e.build image { ctx with runtimeTag := version }) trace result) :
    (∀ catalog checked read, Deploy.Ends (Deploy.dockerfileRuntimeTag ctx catalog) checked read →
      ∃ content, checked = [⟨.fileContent ctx.dockerfilePath, content⟩]) ∧
    ∃ arguments answer, trace = [⟨.process e.program ctx.projectDir arguments, answer⟩] ∧
      (SeesChecked fs cwd project ctx arguments ↔
        fs.denotes? project ctx.projectDir = some project) ∧
      (Path.isAbsolute ctx.projectDir = true ∨ Path.components ctx.projectDir = [] →
        SeesChecked fs cwd project ctx arguments) ∧
      ((∃ depth, fs.Nested depth) → Path.isAbsolute ctx.projectDir = false →
        Path.components ctx.projectDir ≠ [] → ".." ∉ Path.components ctx.projectDir →
        ¬ SeesChecked fs cwd project ctx arguments) := by
  refine ⟨fun _ _ _ => Deploy.ends_dockerfileRuntimeTag, ?_⟩
  obtain ⟨answer, htrace⟩ := runs_build h
  have hsees := seesChecked_iff hproject image version
  refine ⟨_, answer, htrace, hsees, fun hdir => ?_, ?_⟩
  · exact hsees.mpr (FileSystem.denotes?_back hproject hdir)
  · rintro ⟨depth, hnested⟩ hrelative hsome hdown hchecked
    exact hnested.denotes?_ne_self hrelative hdown hsome (hsees.mp hchecked)

/-- A file system of nested directories, where places are told by their names. -/
def nestedFiles (directories files : List (List String)) : FileSystem (List String) where
  root := []
  enter place name :=
    if directories.contains place then
      let next := if name = ".." then place.dropLast else place ++ [name]
      if (directories ++ files).contains next then some next else none
    else none
  isDirectory place := directories.contains place

theorem nested_nestedFiles (directories files : List (List String)) :
    (nestedFiles directories files).Nested List.length := by
  intro place name next hname henter
  simp only [nestedFiles, if_neg hname] at henter
  split at henter
  · split at henter
    · obtain rfl := Option.some.inj henter
      simp
    · cases henter
  · cases henter

/-- The directories `/w/proj` and `/w/proj/proj`, with a Dockerfile in each. -/
def twoProjects : FileSystem (List String) :=
  nestedFiles [[], ["w"], ["w", "proj"], ["w", "proj", "proj"]]
    [["w", "proj", "Dockerfile"], ["w", "proj", "proj", "Dockerfile"]]

/-- A build context in a directory. -/
def contextIn (dir : String) : BuildContext :=
  ⟨dir, "Dockerfile", none, "5.0.0", "r/airflow:latest"⟩

def commandIn (dir : String) : List String := (contextIn dir).arguments "r/airflow:latest"

theorem runs_build_contextIn (dir : String) :
    Runs (Engine.build ⟨"", "docker"⟩ "r/airflow:latest" (contextIn dir))
      [⟨.process "docker" dir (commandIn dir), .ok ⟨[], .code 0⟩⟩] (.ok ()) :=
  runs_map_iff.mpr ⟨.ok ⟨[], .code 0⟩, runs_query_iff.mpr rfl, rfl⟩

/-- The build of a project that is told by its absolute path sees what was checked, and the one of
a project that is told from the working directory does not. -/
theorem builds_seeChecked :
    twoProjects.denotes? ["w"] "/w/proj" = some ["w", "proj"] ∧
    SeesChecked twoProjects ["w"] ["w", "proj"] (contextIn "/w/proj") (commandIn "/w/proj") ∧
    twoProjects.denotes? ["w"] "proj" = some ["w", "proj"] ∧
    ¬ SeesChecked twoProjects ["w"] ["w", "proj"] (contextIn "proj") (commandIn "proj") := by
  have hcommand {dir : String} {arguments : List String} {answer answer' : Except IoFault Build.Run}
      (h : [(⟨.process "docker" dir (commandIn dir), answer⟩ : Exchange machine)] =
        [⟨.process "docker" dir arguments, answer'⟩]) : commandIn dir = arguments := by
    have hquery := congrArg Exchange.query (List.cons.inj h).1
    exact (Machine.Query.process.inj hquery).2.2
  have hproject : twoProjects.denotes? ["w"] (contextIn "/w/proj").projectDir =
      some ["w", "proj"] := by decide
  have hrelative : twoProjects.denotes? ["w"] (contextIn "proj").projectDir =
      some ["w", "proj"] := by decide
  refine ⟨hproject, ?_, hrelative, ?_⟩
  · obtain ⟨_, _, htrace, _, habsolute, _⟩ := (build_seesChecked_iff hproject ⟨"", "docker"⟩
      "r/airflow:latest" "5.0.0" (runs_build_contextIn "/w/proj")).2
    obtain rfl := hcommand htrace
    exact habsolute (.inl rfl)
  · obtain ⟨_, _, htrace, _, _, hdown⟩ := (build_seesChecked_iff hrelative ⟨"", "docker"⟩
      "r/airflow:latest" "5.0.0" (runs_build_contextIn "proj")).2
    obtain rfl := hcommand htrace
    exact hdown ⟨List.length, nested_nestedFiles _ _⟩ rfl (by decide) (by decide)

/-- A build of `proj` succeeds with the Dockerfile of `proj/proj`, which was not checked. -/
theorem build_relative_sees_other :
    Runs (Engine.build ⟨"", "docker"⟩ "r/airflow:latest" (contextIn "proj"))
      [⟨.process "docker" "proj" (commandIn "proj"), .ok ⟨[], .code 0⟩⟩] (.ok ()) ∧
    twoProjects.denotes? ["w"] "proj" = some ["w", "proj"] ∧
    twoProjects.denotes? ["w"] (contextIn "proj").dockerfilePath =
      some ["w", "proj", "Dockerfile"] ∧
    buildFile? (commandIn "proj") = some "proj/Dockerfile" ∧
    twoProjects.denotes? ["w", "proj"] "proj/Dockerfile" =
      some ["w", "proj", "proj", "Dockerfile"] ∧
    ¬ SeesChecked twoProjects ["w"] ["w", "proj"] (contextIn "proj") (commandIn "proj") := by
  have hchecked : twoProjects.denotes? ["w"] (contextIn "proj").dockerfilePath =
      some ["w", "proj", "Dockerfile"] := by decide
  have hfile : buildFile? (commandIn "proj") = some "proj/Dockerfile" := by decide
  have hbuilt : twoProjects.denotes? ["w", "proj"] "proj/Dockerfile" =
      some ["w", "proj", "proj", "Dockerfile"] := by decide
  refine ⟨runs_build_contextIn "proj", by decide, hchecked, hfile, hbuilt, ?_⟩
  rintro ⟨⟨path, hpath, hsame⟩, _⟩
  obtain rfl := Option.some.inj (hfile.symm.trans hpath)
  rw [hbuilt, hchecked] at hsame
  exact absurd hsame (by decide)

end AirflowDeploy
