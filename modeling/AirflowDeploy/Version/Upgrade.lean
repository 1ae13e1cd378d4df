import AirflowDeploy.Version.Order

/-!
# Upgrades

Version texts are compared by precedence where both can be read and by code point otherwise.
An upgrade never goes back in this order.
-/
namespace AirflowDeploy.Version

/-- Compares two version texts. -/
def compareTexts (a b : String) : Ordering :=
  match read? a, read? b with
  | some a, some b => a.compare b
  | _, _ => Text.compare a.toList b.toList

/-- Whether a deployment that runs `current` may move to `candidate`. Nothing running permits
anything; no candidate is never an upgrade of something. -/
def isUpgrade (current candidate : String) : Bool :=
  current.isEmpty || (!candidate.isEmpty && compareTexts current candidate != .gt)

/-- Whether a tag is one of the known ones, exactly as it is written. -/
def isKnownTag (known : List String) (tag : String) : Bool := known.contains tag

@[simp] theorem isKnownTag_iff {known : List String} {tag : String} :
    isKnownTag known tag = true ↔ tag ∈ known := List.contains_iff_mem

/-- The later of two entries, the second one where they are equal. -/
def later (a b : String × Version) : String × Version :=
  if a.2.compare b.2 == .gt then a else b

/-- The texts that read as versions without a pre-release. -/
def stable (texts : List String) : List (String × Version) :=
  texts.filterMap fun text =>
    ((read? text).filter fun version => !version.isPreRelease).map (text, ·)

/-- The newest stable version as it was written, the last one among equals. -/
def latestStable? (texts : List String) : Option String :=
  match stable texts with
  | [] => none
  | first :: rest => some (rest.foldl later first).1

end AirflowDeploy.Version
