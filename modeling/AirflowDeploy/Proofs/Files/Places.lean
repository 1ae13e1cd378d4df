import AirflowDeploy.Files.Tree
import AirflowDeploy.Proofs.Text.Lines

/-!
# Places

Where a path leads from a working directory. The names of a joined path are walked one after the
other, so what a path leads to from some directory decides where everything below it is.
-/
namespace AirflowDeploy

open Text

namespace Path

variable {dir path : String}

theorem components_append_slash (cs rest : List Char) :
    components (String.ofList (cs ++ '/' :: rest)) =
      components (String.ofList cs) ++ components (String.ofList rest) := by
  have hslash : isSlash '/' = true := rfl
  simp [components, pieces_append_cons hslash]

@[simp] theorem components_empty : components "" = [] := rfl

/-- The names of a joined path are those of both sides. -/
theorem components_join (hpath : isAbsolute path = false) :
    components (join dir path) = components dir ++ components path := by
  rw [join, hpath, if_neg Bool.false_ne_true]
  split
  · next hopen =>
    rcases Bool.or_eq_true_iff.mp hopen with hempty | hslash
    · obtain rfl := String.isEmpty_iff.mp hempty
      simp
    · -- The slash at the end of the directory separates the two sides.
      obtain ⟨c, hlast, hc⟩ : ∃ c, dir.toList.getLast? = some c ∧ isSlash c = true := by
        simpa [Option.any_eq_true] using hslash
      obtain ⟨cs, hcs⟩ := List.getLast?_eq_some_iff.mp hlast
      obtain rfl : c = '/' := by simpa [isSlash] using hc
      have hdir : dir = String.ofList (cs ++ ['/']) := by rw [← hcs, String.ofList_toList]
      have hjoined : dir ++ path = String.ofList (cs ++ '/' :: path.toList) := by
        simp [hdir, ← String.toList_inj]
      rw [hjoined, hdir, components_append_slash, components_append_slash]
      simp
  · have hjoined : dir ++ "/" ++ path = String.ofList (dir.toList ++ '/' :: path.toList) := by
      simp [← String.toList_inj]
    rw [hjoined, components_append_slash]
    simp

theorem isAbsolute_join (hdir : dir ≠ "") (hpath : isAbsolute path = false) :
    isAbsolute (join dir path) = isAbsolute dir := by
  have happend (rest : String) : isAbsolute (dir ++ rest) = isAbsolute dir := by
    cases hcs : dir.toList with
    | nil => exact absurd (String.toList_eq_nil_iff.mp hcs) hdir
    | cons c cs => simp [isAbsolute, hcs]
  rw [join, hpath, if_neg Bool.false_ne_true]
  split
  · exact happend path
  · rw [String.append_assoc]
    exact happend _

theorem join_of_isAbsolute (hpath : isAbsolute path = true) : join dir path = path := by
  rw [join, hpath, if_pos rfl]

end Path

/-- The places of a file system, and where each name leads from a directory, two dots and links
included. -/
structure FileSystem (Place : Type) where
  root : Place
  enter : Place → String → Option Place
  isDirectory : Place → Bool

namespace FileSystem

variable {Place : Type} (fs : FileSystem Place) {here there found : Place} {dir path : String}

/-- Where the walk of a path starts. -/
def start (here : Place) (path : String) : Place := if Path.isAbsolute path then fs.root else here

def walk (place : Place) (names : List String) : Option Place := names.foldlM fs.enter place

/-- What a path denotes for a process in a directory. -/
def denotes? (here : Place) (path : String) : Option Place :=
  if path = "" then none
  else (fs.walk (fs.start here path) (Path.components path)).filter fun found =>
    !FileTree.mustBeDirectory path || fs.isDirectory found

variable {fs}

theorem walk_append (place : Place) (names rest : List String) :
    fs.walk place (names ++ rest) = (fs.walk place names).bind (fs.walk · rest) :=
  List.foldlM_append

theorem walk_of_denotes? (h : fs.denotes? here path = some found) :
    fs.walk (fs.start here path) (Path.components path) = some found := by
  unfold denotes? at h
  split at h
  · cases h
  · exact (Option.filter_eq_some_iff.mp h).1

theorem ne_empty_of_denotes? (h : fs.denotes? here path = some found) : path ≠ "" := by
  rintro rfl
  cases h

/-- An absolute path leads to one place from everywhere. -/
theorem denotes?_of_isAbsolute (h : Path.isAbsolute path = true) (here there : Place) :
    fs.denotes? here path = fs.denotes? there path := by
  simp [denotes?, start, h]

/-- Where a directory is the same place for two processes, so is everything below it. -/
theorem denotes?_join_congr (hhere : fs.denotes? here dir = some found)
    (hthere : fs.denotes? there dir = some found) (path : String) :
    fs.denotes? here (Path.join dir path) = fs.denotes? there (Path.join dir path) := by
  cases hpath : Path.isAbsolute path with
  | true =>
    rw [Path.join_of_isAbsolute hpath]
    exact denotes?_of_isAbsolute hpath _ _
  | false =>
    have hne := ne_empty_of_denotes? hhere
    have hstart (place : Place) : fs.start place (Path.join dir path) = fs.start place dir := by
      rw [start, start, Path.isAbsolute_join hne hpath]
    have hwalk : fs.walk (fs.start here (Path.join dir path)) (Path.components (Path.join dir path)) =
        fs.walk (fs.start there (Path.join dir path)) (Path.components (Path.join dir path)) := by
      rw [hstart, hstart, Path.components_join hpath, walk_append, walk_append,
        walk_of_denotes? hhere, walk_of_denotes? hthere]
    rw [denotes?, denotes?, hwalk]

/-- An absolute path, and one of single dots, leads from where it leads to back to it. -/
theorem denotes?_back (h : fs.denotes? here path = some found)
    (hpath : Path.isAbsolute path = true ∨ Path.components path = []) :
    fs.denotes? found path = some found := by
  cases habsolute : Path.isAbsolute path with
  | true => rwa [denotes?_of_isAbsolute habsolute found here]
  | false =>
    have hdots : Path.components path = [] := hpath.resolve_left (by simp [habsolute])
    have hwalk := walk_of_denotes? h
    rw [start, habsolute, hdots] at hwalk
    obtain rfl := Option.some.inj hwalk
    exact h

variable (fs) in
/-- Every name but two dots leads one level down: directories are nested, without links. -/
def Nested (depth : Place → Nat) : Prop :=
  ∀ place name next, name ≠ ".." → fs.enter place name = some next → depth next = depth place + 1

theorem Nested.depth_walk {depth : Place → Nat} (h : fs.Nested depth) {names : List String}
    (hnames : ".." ∉ names) (hwalk : fs.walk here names = some found) :
    depth found = depth here + names.length := by
  induction names generalizing here with
  | nil =>
    obtain rfl := Option.some.inj hwalk
    rfl
  | cons name rest ih =>
    rw [List.mem_cons, not_or] at hnames
    obtain ⟨hname, hrest⟩ := hnames
    rw [walk, List.foldlM_cons] at hwalk
    obtain ⟨next, henter, hnext⟩ := Option.bind_eq_some_iff.mp hwalk
    have hstep := h here name next (Ne.symm hname) henter
    rw [ih hrest hnext, hstep, List.length_cons]
    omega

/-- A way down leads to another place. -/
theorem Nested.denotes?_ne_self {depth : Place → Nat} (h : fs.Nested depth)
    (hrelative : Path.isAbsolute path = false) (hdown : ".." ∉ Path.components path)
    (hsome : Path.components path ≠ []) : fs.denotes? here path ≠ some here := by
  intro hself
  have hwalk := walk_of_denotes? hself
  rw [start, hrelative, if_neg Bool.false_ne_true] at hwalk
  have hdepth := h.depth_walk hdown hwalk
  have hlength := List.length_pos_iff.mpr hsome
  omega

end FileSystem

end AirflowDeploy
