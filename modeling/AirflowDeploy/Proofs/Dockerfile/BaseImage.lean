import AirflowDeploy.Proofs.Dockerfile.Defaults
import AirflowDeploy.Proofs.Dockerfile.Variables

/-!
# The base image of a Dockerfile

A stage starts from an image, or from an earlier stage that it calls by its name. The base image is
the one at the end of the chain of names that starts at the last stage. Variables in it are replaced
once, by their defaults as these are written, so that references in a default are left.
-/
namespace AirflowDeploy.Dockerfile

open Text

/-- The words of a `FROM` that do not start with two dashes: its image, and what stands behind
it. -/
def imageWords (i : Instruction) : List (List Char) :=
  if i.keyword = .fromImage then
    (words i.args.toList).filter fun word => !List.isPrefixOf ['-', '-'] word
  else []

theorem isOption_eq (word : List Char) : isOption word = List.isPrefixOf ['-', '-'] word := by
  rw [Bool.eq_iff_iff, List.isPrefixOf_iff_prefix, isOption, Option.isSome_iff_exists]
  constructor
  · rintro ⟨rest, hrest⟩
    exact ⟨rest, (eq_append_of_afterPrefix? hrest).symm⟩
  · rintro ⟨rest, rfl⟩
    exact ⟨rest, afterPrefix?_append _ rest⟩

theorem imageWords_of_from {i : Instruction} (h : i.keyword = .fromImage) :
    imageWords i = fromWords i.args.toList := by
  simp only [imageWords, h, if_true, fromWords, isOption_eq]

/-- The name behind an image, in lower case: the word after an `AS` in any case. -/
def givenName? : List (List Char) → Option (List Char)
  | word :: name :: _ =>
    if word = ['A', 'S'] ∨ word = ['A', 's'] ∨ word = ['a', 'S'] ∨ word = ['a', 's'] then
      some (lower name)
    else none
  | _ => none

theorem eqAsciiCase_as_iff {word : List Char} : eqAsciiCase word ['a', 's'] = true ↔
    word = ['A', 'S'] ∨ word = ['A', 's'] ∨ word = ['a', 'S'] ∨ word = ['a', 's'] := by
  have hletter {c : Char} : (asciiLower c = 'a' ↔ c = 'A' ∨ c = 'a') ∧
      (asciiLower c = 's' ↔ c = 'S' ∨ c = 's') := by
    by_cases hc : c.toNat < 128
    · exact forall_ascii (P := fun c => (asciiLower c = 'a' ↔ c = 'A' ∨ c = 'a') ∧
        (asciiLower c = 's' ↔ c = 'S' ∨ c = 's')) (by decide) hc
    · rw [asciiLower_eq_self hc]
      have hother {d : Char} (hd : d.toNat < 128) : c ≠ d := fun he => hc (he ▸ hd)
      simp [hother]
  have hlower : ['a', 's'].map asciiLower = ['a', 's'] := by decide
  rw [eqAsciiCase, beq_iff_eq, hlower]
  rcases word with _ | ⟨c, _ | ⟨d, _ | ⟨_, _⟩⟩⟩
  · simp
  · simp
  · simp only [List.map_cons, List.map_nil, List.cons.injEq, hletter, and_true]
    grind
  · simp

theorem alias?_eq (rest : List (List Char)) : alias? rest = givenName? rest := by
  rcases rest with _ | ⟨word, _ | ⟨name, _⟩⟩
  · rfl
  · rfl
  · simp only [alias?, givenName?, eqAsciiCase_as_iff]

structure Stage where
  /-- The image as it is written. -/
  word : List Char
  /-- The image with its variables replaced. -/
  image : List Char
  /-- The name that the stage is given, in lower case. -/
  name : Option (List Char)
  deriving DecidableEq, Repr

/-- The stage that an instruction starts. -/
def stage? (value : List Char → List Char) (i : Instruction) : Option Stage :=
  match imageWords i with
  | [] => none
  | word :: rest => some ⟨word, substitute value word, givenName? rest⟩

def stages (d : Dockerfile) : List Stage := d.instructions.filterMap (stage? d.value)

/-- The instructions that give a default in the header or start a stage. -/
def essential (d : Dockerfile) : Dockerfile where
  instructions := d.header.filter (fun i => (defaultOf? i).isSome) ++
    d.instructions.filter fun i => !(imageWords i).isEmpty

def Stage.isCalled (name : List Char) (s : Stage) : Bool := s.name == some name

/-- Of some stages, the latest first, those from the latest one of a name on. -/
def fromCalled (name : List Char) (stages : List Stage) : List Stage :=
  stages.dropWhile fun s => !s.isCalled name

/-- The stage at the end of a chain of names. The chain starts at the first of the stages, the
latest first, and goes on at the latest stage before it that its image is the name of. -/
def chase : List Stage → Option Stage
  | [] => none
  | s :: earlier => (chase (fromCalled (lower s.image) earlier)).or (some s)
termination_by stages => stages.length
decreasing_by exact Nat.lt_succ_of_le (List.dropWhile_suffix _).length_le

theorem fromCalled_cons_of_isCalled {name : List Char} {s : Stage} (h : s.isCalled name = true)
    (earlier : List Stage) : fromCalled name (s :: earlier) = s :: earlier := by
  simp [fromCalled, h]

theorem fromCalled_cons_of_not_isCalled {name : List Char} {s : Stage}
    (h : s.isCalled name = false) (earlier : List Stage) :
    fromCalled name (s :: earlier) = fromCalled name earlier := by
  simp [fromCalled, h]

theorem chase_eq_none_iff {stages : List Stage} : chase stages = none ↔ stages = [] := by
  cases stages with
  | nil => simp [chase]
  | cons s earlier => simp [chase]

/-- A stage is added, resolved with the names that are known. -/
def Stages.add (s : Stages) (t : Stage) : Stages :=
  let image := (s.names.lookup (lower t.image)).getD t.image
  { s with seenFrom := true, names := (t.name.map (·, image)).toList ++ s.names,
           image := some image }

/-- The values that the known globals give to variables. -/
def Stages.value (s : Stages) (name : List Char) : List Char := (s.globals.lookup name).getD []

theorem Stages.step_of_from (s : Stages) {i : Instruction} (h : i.keyword = .fromImage) :
    s.step i =
      match stage? s.value i with
      | some t => s.add t
      | none => { s with seenFrom := true } := by
  simp only [Stages.step, h, Stages.start, stage?, imageWords_of_from h]
  cases fromWords i.args.toList with
  | nil => rfl
  | cons word rest =>
    simp only [expand_eq_substitute, alias?_eq]
    cases givenName? rest <;> rfl

/-- Apart from stages there are defaults, which count in the header only. -/
theorem Stages.step_of_ne (s : Stages) {i : Instruction} (h : i.keyword ≠ .fromImage) :
    s.step i =
      if s.seenFrom then s else { s with globals := (defaultOf? i).toList ++ s.globals } := by
  by_cases harg : i.keyword = .arg
  · simp only [Stages.step, harg, Stages.define, defaultOf?, if_true]
    cases default? i.args.toList <;> rfl
  · have hstep : s.step i = s := by
      unfold Stages.step
      split
      · next h' => exact absurd h' harg
      · next h' => exact absurd h' h
      · rfl
    simp [hstep, defaultOf?, harg]

/-- Every known name stands for the image that its chain ends at, and the image is the one at the
end of the chain from the latest stage. -/
structure Knows (s : Stages) (known : List Stage) : Prop where
  names : ∀ name, s.names.lookup name = (chase (fromCalled name known)).map Stage.image
  image : s.image = (chase known).map Stage.image

theorem knows_nothing (globals : Bindings) (seenFrom : Bool) :
    Knows { globals, seenFrom } [] where
  names name := by simp [fromCalled, chase]
  image := by simp [chase]

theorem Knows.add {s : Stages} {known : List Stage} (h : Knows s known) (t : Stage) :
    Knows (s.add t) (t :: known) := by
  have himage : (chase (t :: known)).map Stage.image =
      some ((s.names.lookup (lower t.image)).getD t.image) := by
    rw [chase, h.names]
    cases chase (fromCalled (lower t.image) known) <;> rfl
  constructor
  · intro name
    cases hcalled : t.isCalled name with
    | true =>
      have hname : t.name = some name := by simpa [Stage.isCalled] using hcalled
      rw [fromCalled_cons_of_isCalled hcalled, himage]
      simp [Stages.add, hname]
    | false =>
      rw [fromCalled_cons_of_not_isCalled hcalled, ← h.names]
      cases hname : t.name with
      | none => simp [Stages.add, hname]
      | some other =>
        have hne : other ≠ name := by simpa [Stage.isCalled, hname] using hcalled
        have hlookup : (name == other) = false := beq_false_of_ne hne.symm
        simp [Stages.add, hname, List.lookup_cons, hlookup]
  · exact himage.symm

theorem stage?_eq_none {value : List Char → List Char} {i : Instruction}
    (h : i.keyword ≠ .fromImage) : stage? value i = none := by
  simp [stage?, imageWords, h]

/-- From the first `FROM` on the values of the variables are settled. -/
theorem Stages.step_settled {s : Stages} {i : Instruction}
    (h : s.seenFrom = true ∨ i.keyword = .fromImage) :
    (s.step i).seenFrom = true ∧ (s.step i).value = s.value := by
  by_cases hfrom : i.keyword = .fromImage
  · rw [s.step_of_from hfrom]
    cases stage? s.value i <;> exact ⟨rfl, rfl⟩
  · have hseen := h.resolve_right hfrom
    rw [s.step_of_ne hfrom, if_pos hseen]
    exact ⟨hseen, rfl⟩

theorem Knows.step {s : Stages} {known : List Stage} (h : Knows s known) {i : Instruction}
    (hi : s.seenFrom = true ∨ i.keyword = .fromImage) :
    Knows (s.step i) ((stage? s.value i).toList ++ known) := by
  by_cases hfrom : i.keyword = .fromImage
  · rw [s.step_of_from hfrom]
    cases stage? s.value i with
    | none => exact ⟨h.names, h.image⟩
    | some t => exact h.add t
  · rw [s.step_of_ne hfrom, if_pos (hi.resolve_right hfrom), stage?_eq_none hfrom]
    exact h

theorem Knows.foldl_step {s : Stages} {known : List Stage} (h : Knows s known)
    (instructions : List Instruction)
    (hs : s.seenFrom = true ∨ ∀ i ∈ instructions.head?, i.keyword = .fromImage) :
    Knows (instructions.foldl Stages.step s)
      ((instructions.filterMap (stage? s.value)).reverse ++ known) := by
  induction instructions generalizing s known with
  | nil => simpa using h
  | cons i rest ih =>
    have hi : s.seenFrom = true ∨ i.keyword = .fromImage := hs.imp_right fun h => h i rfl
    obtain ⟨hseen, hvalue⟩ := Stages.step_settled hi
    have hrest := ih (h.step hi) (.inl hseen)
    rw [hvalue] at hrest
    rw [List.foldl_cons, List.filterMap_cons]
    cases hstage : stage? s.value i with
    | none => simpa [hstage] using hrest
    | some t => simpa [hstage] using hrest

/-- The header gives defaults only. -/
theorem foldl_step_header {instructions : List Instruction} {s : Stages}
    (h : ∀ i ∈ instructions, i.keyword ≠ .fromImage) (hs : s.seenFrom = false) :
    instructions.foldl Stages.step s =
      { s with globals := (instructions.filterMap defaultOf?).reverse ++ s.globals } := by
  induction instructions generalizing s with
  | nil => rfl
  | cons i rest ih =>
    have hstep := s.step_of_ne (h i List.mem_cons_self)
    simp only [hs, Bool.false_eq_true, if_false] at hstep
    have hrest := ih (s := s.step i) (fun j hj => h j (List.mem_cons_of_mem i hj)) (by rw [hstep])
    rw [List.foldl_cons, hrest, hstep]
    cases hdefault : defaultOf? i <;> simp [hdefault, hs]

theorem keyword_ne_of_mem_header {d : Dockerfile} {i : Instruction} (h : i ∈ d.header) :
    i.keyword ≠ .fromImage := by
  simpa using List.mem_takeWhile_imp h

/-- What is known in the end are the stages of the file. -/
theorem knows_stages (d : Dockerfile) :
    Knows (d.instructions.foldl Stages.step {}) d.stages.reverse := by
  let body := d.instructions.dropWhile fun i => i.keyword != .fromImage
  have hsplit : d.header ++ body = d.instructions := List.takeWhile_append_dropWhile
  have hheader : d.header.filterMap (stage? d.value) = [] :=
    List.filterMap_eq_nil_iff.mpr fun i hi => stage?_eq_none (keyword_ne_of_mem_header hi)
  have hdefaults : d.header.foldl Stages.step {} = { globals := d.defaults.reverse } := by
    rw [foldl_step_header (fun i hi => keyword_ne_of_mem_header hi) rfl, List.append_nil]
    rfl
  have hbody : ∀ i ∈ body.head?, i.keyword = .fromImage := fun i hi => by
    simpa using head?_dropWhile i hi
  have hknown := (knows_nothing d.defaults.reverse false).foldl_step body (.inr hbody)
  rw [List.append_nil] at hknown
  rw [stages, ← hsplit, List.foldl_append, List.filterMap_append, hheader, List.nil_append,
    hdefaults]
  exact hknown

theorem baseImage_eq (d : Dockerfile) :
    d.baseImage = (chase d.stages.reverse).map fun s => String.ofList s.image := by
  rw [baseImage, (knows_stages d).image, Option.map_map]
  rfl

theorem filterMap_filter_isSome {α β : Type} {f : α → Option β} {p : α → Bool}
    (h : ∀ a, p a = (f a).isSome) (as : List α) : (as.filter p).filterMap f = as.filterMap f := by
  rw [List.filterMap_filter]
  refine List.filterMap_congr fun a _ => ?_
  cases hf : f a <;> simp [h, hf]

theorem keyword_of_mem_essential {d : Dockerfile} {i : Instruction}
    (h : i ∈ d.instructions.filter fun i => !(imageWords i).isEmpty) : i.keyword = .fromImage := by
  have himage := (List.mem_filter.mp h).2
  by_contra hne
  simp [imageWords, hne] at himage

theorem header_essential (d : Dockerfile) :
    d.essential.header = d.header.filter fun i => (defaultOf? i).isSome := by
  have hleft : ∀ i ∈ d.header.filter (fun i => (defaultOf? i).isSome),
      (i.keyword != .fromImage) = true := by
    intro i hi
    simpa using keyword_ne_of_mem_header (List.mem_filter.mp hi).1
  have hright : (d.instructions.filter fun i => !(imageWords i).isEmpty).takeWhile
      (fun i => i.keyword != .fromImage) = [] := by
    refine takeWhile_eq_nil fun i hi => ?_
    simpa using keyword_of_mem_essential (List.mem_of_mem_head? hi)
  rw [header, essential, List.takeWhile_append_of_pos hleft, hright, List.append_nil]

theorem value_essential (d : Dockerfile) : d.essential.value = d.value := by
  have hdefaults : d.essential.defaults = d.defaults := by
    rw [defaults, header_essential, filterMap_filter_isSome fun _ => rfl]
    rfl
  funext name
  rw [value, hdefaults]
  rfl

theorem stages_essential (d : Dockerfile) : d.essential.stages = d.stages := by
  have hleft : (d.header.filter fun i => (defaultOf? i).isSome).filterMap (stage? d.value) = [] :=
    List.filterMap_eq_nil_iff.mpr fun i hi =>
      stage?_eq_none (keyword_ne_of_mem_header (List.mem_filter.mp hi).1)
  have hright : (d.instructions.filter fun i => !(imageWords i).isEmpty).filterMap
      (stage? d.value) = d.stages := by
    refine filterMap_filter_isSome (fun i => ?_) _
    unfold stage?
    cases imageWords i <;> rfl
  rw [stages, value_essential, essential, List.filterMap_append, hleft, hright, List.nil_append]

/-- The base image is the image at the end of the chain of names that starts at the last stage. The
variables in it have the last defaults of the header. There is none exactly where there is no stage,
and nothing depends on the other instructions. -/
theorem baseImage_chases_names (d : Dockerfile) :
    d.baseImage = (chase d.stages.reverse).map (fun s => String.ofList s.image) ∧
    (d.baseImage = none ↔ d.stages = []) ∧
    (∀ name, InForce name d.header (d.value name)) ∧
    d.essential.baseImage = d.baseImage := by
  refine ⟨baseImage_eq d, ?_, inForce_value d, ?_⟩
  · rw [baseImage_eq, Option.map_eq_none_iff, chase_eq_none_iff, List.reverse_eq_nil_iff]
  · rw [baseImage_eq, baseImage_eq, stages_essential]

/-- A name that is given again stands for the later stage, and a stage may bear the name of the
image that it starts from. -/
example :
    let d : Dockerfile := ⟨[⟨.fromImage, "a AS x", 1⟩, ⟨.fromImage, "b as X", 2⟩,
      ⟨.fromImage, "x AS x", 3⟩, ⟨.fromImage, "--platform=p X", 4⟩]⟩
    d.baseImage = some "b" := by
  decide +kernel

theorem mem_of_chase {stages : List Stage} {s : Stage} (h : chase stages = some s) :
    s ∈ stages := by
  induction stages using chase.induct with
  | case1 => simp [chase] at h
  | case2 t earlier ih =>
    rw [chase] at h
    cases hearlier : chase (fromCalled (lower t.image) earlier) with
    | none =>
      rw [hearlier] at h
      obtain rfl := Option.some.inj h
      exact List.mem_cons_self
    | some u =>
      rw [hearlier] at h
      obtain rfl := Option.some.inj h
      exact List.mem_cons_of_mem t ((List.dropWhile_suffix _).subset (ih hearlier))

theorem image_of_mem_stages {d : Dockerfile} {s : Stage} (h : s ∈ d.stages) :
    s.image = substitute d.value s.word := by
  obtain ⟨i, _, hstage⟩ := List.mem_filterMap.mp h
  unfold stage? at hstage
  split at hstage
  · cases hstage
  · rw [← Option.some.inj hstage]

/-- Where every dollar sign belongs to a reference, the base image still holds a reference exactly
if the default of a variable that it was written with holds one. -/
theorem baseImage_hasReference_iff {d : Dockerfile} {s : Stage}
    (hs : chase d.stages.reverse = some s) (hword : Tidy s.word)
    (hvalue : ∀ name ∈ references s.word, Tidy (d.value name)) :
    (∃ image, d.baseImage = some image ∧ HasReference image.toList) ↔
      ∃ name ∈ references s.word, HasReference (d.value name) := by
  have himage : s.image = substitute d.value s.word :=
    image_of_mem_stages (List.mem_reverse.mp (mem_of_chase hs))
  rw [← hasReference_substitute_iff hword hvalue, ← himage, baseImage_eq, hs]
  simp

/-- Each default refers only to variables of the list, or with a default before it. -/
def EarlierOnly (known : List (List Char)) : List (List Char × List Char) → Prop
  | [] => True
  | (name, text) :: rest => (∀ used ∈ references text, used ∈ known) ∧
      EarlierOnly (name :: known) rest

/-- Every variable in a `FROM` has a default. -/
def UsesDefaults (d : Dockerfile) : Prop :=
  ∀ i ∈ d.instructions, i.keyword = .fromImage →
    ∀ name ∈ references i.args.toList, name ∈ d.defaults.map Prod.fst

instance instDecidableEarlierOnly :
    ∀ known defaults, Decidable (EarlierOnly known defaults)
  | _, [] => isTrue trivial
  | known, (name, _) :: rest =>
    have := instDecidableEarlierOnly (name :: known) rest
    inferInstanceAs (Decidable (_ ∧ _))

instance (d : Dockerfile) : Decidable d.UsesDefaults :=
  inferInstanceAs (Decidable (∀ i ∈ d.instructions, _))

/-- A default that refers to the one before it. -/
def nestedDefaults : Dockerfile where
  instructions := [⟨.arg, "VERSION=4.2.5", 1⟩, ⟨.arg, "TAG=${VERSION}-base", 2⟩,
    ⟨.fromImage, "r:${TAG}", 3⟩]

theorem startsReference_braced (name rest : List Char) (h : IsName name) :
    StartsReference ('{' :: (name ++ '}' :: rest)) := ⟨name, rest, h, .inr rfl⟩

/-- Its only stage starts from an image that refers to a variable, whose default does so too. -/
theorem nestedDefaults_hasReference :
    ∃ s, chase nestedDefaults.stages.reverse = some s ∧ Tidy s.word ∧
      (∀ name ∈ references s.word, Tidy (nestedDefaults.value name)) ∧
      ∃ image, nestedDefaults.baseImage = some image ∧ HasReference image.toList := by
  have hchase : chase nestedDefaults.stages.reverse =
      some ⟨"r:${TAG}".toList, "r:${VERSION}-base".toList, none⟩ := by decide +kernel
  have hreferences : references "r:${TAG}".toList = ["TAG".toList] := by decide +kernel
  have hvalue : nestedDefaults.value "TAG".toList = "${VERSION}-base".toList := by decide +kernel
  have hword : Tidy "r:${TAG}".toList :=
    tidy_of_dollar_not_mem "r:".toList (by decide) (by decide)
      (startsReference_braced "TAG".toList [] (by decide))
  have hversion : StartsReference "{VERSION}-base".toList :=
    startsReference_braced "VERSION".toList "-base".toList (by decide)
  have hdefault : ∀ name ∈ references "r:${TAG}".toList, Tidy (nestedDefaults.value name) := by
    intro name hname
    rw [hreferences] at hname
    rw [List.mem_singleton.mp hname, hvalue]
    exact tidy_of_dollar_not_mem [] (by decide) (by decide) hversion
  refine ⟨_, hchase, hword, hdefault, ?_⟩
  refine (baseImage_hasReference_iff hchase hword hdefault).mpr ⟨"TAG".toList, ?_, ?_⟩
  · rw [hreferences]
    exact List.mem_cons_self
  · rw [hvalue]
    exact ⟨[], _, rfl, hversion⟩

/-- Each default refers to earlier ones, every variable in the `FROM` has a default, and a
reference is left. -/
theorem nestedDefaults_keeps_reference :
    parse "ARG VERSION=4.2.5\nARG TAG=${VERSION}-base\nFROM r:${TAG}\n" = .ok nestedDefaults ∧
    EarlierOnly [] nestedDefaults.defaults ∧ UsesDefaults nestedDefaults ∧
    nestedDefaults.baseImage = some "r:${VERSION}-base" ∧
    HasReference "r:${VERSION}-base".toList := by
  have hparse : parse "ARG VERSION=4.2.5\nARG TAG=${VERSION}-base\nFROM r:${TAG}\n" =
      .ok nestedDefaults := rfl
  have hversion : StartsReference "{VERSION}-base".toList :=
    startsReference_braced "VERSION".toList "-base".toList (by decide)
  exact ⟨hparse, by decide +kernel, by decide +kernel, by decide +kernel,
    "r:".toList, _, rfl, hversion⟩

end AirflowDeploy.Dockerfile
