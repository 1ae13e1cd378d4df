import AirflowDeploy.Proofs.Deploy.Calls
import AirflowDeploy.Proofs.Deploy.Console
import AirflowDeploy.Proofs.Table.Columns
import AirflowDeploy.Proofs.Text.Numerals

/-!
# The prompt for a deployment

The table numbers the deployments from one on, and the line that is read picks the deployment whose
number stands in it. No other line picks one, and nothing after the line is read.
-/
namespace AirflowDeploy.Deploy

open Dialogue Deploy.Action Console

variable {deployments : List Deployment}

/-- The cells of a deployment behind its number. -/
def cells (d : Deployment) : List Table.Cell :=
  [d.label, d.releaseName, d.id, d.runtimeRelease.version].map String.toList

/-- A line that shows a number, blanks, and the deployment behind them. -/
def NumberedLine (number : Nat) (d : Deployment) (line : String) : Prop :=
  ∃ (gap : Nat) (widths : List Nat), widths.length = (cells d).length ∧
    line.toList = ' ' :: (Text.decimal number ++
      Text.trimEnd (List.replicate (gap + 2) ' ' ++ Table.padded widths (cells d)))

/-- One line for every deployment, under its number from one on. -/
structure Numbered (deployments : List Deployment) (rows : List String) : Prop where
  length_eq : rows.length = deployments.length
  shown : ∀ n d, deployments[n]? = some d →
    ∃ line, rows[n]? = some line ∧ NumberedLine (n + 1) d line

theorem length_deploymentRows (first : Nat) (deployments : List Deployment) :
    (deploymentRows first deployments).length = deployments.length := by
  induction deployments generalizing first with
  | nil => rfl
  | cons d rest ih => exact congrArg (· + 1) (ih (first + 1))

theorem length_of_mem_deploymentRows {first : Nat} {row : List String}
    (h : row ∈ deploymentRows first deployments) : row.length = deploymentHeaders.length := by
  obtain ⟨n, hn⟩ := List.mem_iff_getElem?.mp h
  rw [getElem?_deploymentRows] at hn
  obtain ⟨d, -, rfl⟩ := Option.map_eq_some_iff.mp hn
  rfl

theorem deploymentRow_toList (number : Nat) (d : Deployment) :
    (deploymentRow number d).map String.toList = Text.decimal number :: cells d := by
  simp [deploymentRow, cells]

theorem numberedLine_tableLine (deployments : List Deployment) (number : Nat) (d : Deployment) :
    NumberedLine number d (tableLine deployments number d) := by
  have hrows : ∀ row ∈ (deploymentRows 1 deployments).map (·.map String.toList),
      row.length = deploymentHeaders.length := by
    intro row hrow
    obtain ⟨texts, htexts, rfl⟩ := List.mem_map.mp hrow
    rw [List.length_map, length_of_mem_deploymentRows htexts]
  have hwidths : (Table.widths (deploymentHeaders.map String.toList)
      ((deploymentRows 1 deployments).map (·.map String.toList))).length =
        (Text.decimal number :: cells d).length :=
    Table.length_widths (List.length_map String.toList) hrows
  obtain ⟨gap, widths, hlength, hline⟩ :=
    Table.exists_line_cons_cons (Text.solidEnd_decimal number) hwidths
  refine ⟨gap, widths, hlength, ?_⟩
  rw [tableLine, String.toList_ofList, deploymentRow_toList]
  exact hline

/-- Below its headers, the table has the deployments under their numbers. -/
theorem exists_numbered_rows (deployments : List Deployment) :
    ∃ header rows, deploymentTable deployments = header :: rows ∧ Numbered deployments rows := by
  refine ⟨_, (deploymentTable deployments).tail, rfl, ?_, ?_⟩
  · simp [deploymentTable, Table.render, Table.lines, length_deploymentRows]
  · intro n d hd
    refine ⟨_, ?_, numberedLine_tableLine deployments (n + 1) d⟩
    rw [List.getElem?_tail]
    exact getElem?_deploymentTable hd

/-- What a line picks from the deployments: the one that it numbers, or none. -/
structure Picks (deployments : List Deployment) (line : List Char)
    (result : Except DeployError Deployment) : Prop where
  ok_iff : ∀ d, result = .ok d ↔
    ∃ n, deployments[n]? = some d ∧ Text.IsNumeralOf (n + 1) (Text.trim line)
  otherwise : (∀ d, result ≠ .ok d) → result = .error .invalidDeploymentKey

/-- A numeral of any length is read as its number, and one that no place has picks nothing. -/
theorem pick?_eq_some_iff_isNumeralOf (hlength : deployments.length < Text.wordBound)
    {line : String} {d : Deployment} :
    pick? deployments line = some d ↔
      ∃ n, deployments[n]? = some d ∧ Text.IsNumeralOf (n + 1) (Text.trim line.toList) := by
  rw [pick?_eq_some_iff]
  constructor
  · rintro ⟨n, hread, hd⟩
    exact ⟨n, hd, (Text.readNatural?_eq_some_iff.mp hread).1⟩
  · rintro ⟨n, hd, hnumeral⟩
    obtain ⟨hn, -⟩ := List.getElem?_eq_some_iff.mp hd
    exact ⟨n, Text.readNatural?_eq_some_iff.mpr ⟨hnumeral, by omega⟩, hd⟩

/-- The pick of a line, as the prompt hands it over. -/
def picked (deployments : List Deployment) (line : String) : Except DeployError Deployment :=
  match pick? deployments line with
  | some d => .ok d
  | none => .error .invalidDeploymentKey

theorem picks_picked (hlength : deployments.length < Text.wordBound) (line : List Char) :
    Picks deployments line (picked deployments (String.ofList line)) := by
  have hpick (d : Deployment) : pick? deployments (String.ofList line) = some d ↔
      ∃ n, deployments[n]? = some d ∧ Text.IsNumeralOf (n + 1) (Text.trim line) := by
    rw [pick?_eq_some_iff_isNumeralOf hlength, String.toList_ofList]
  unfold picked
  cases hp : pick? deployments (String.ofList line) with
  | none => exact ⟨fun d => by simp [← hpick, hp], fun _ => rfl⟩
  | some p => exact ⟨fun d => by simp [← hpick, hp], fun hnone => absurd rfl (hnone p)⟩

variable {elsewhere : (q : Query) → q.Answer} {domain : String} {workspace : Workspace}

/-- The lines are shown, one line is read, and it decides. -/
theorem outcome_promptForDeployment (hne : deployments ≠ []) (shown : String)
    (input : List Char) :
    outcome elsewhere (promptForDeployment domain workspace deployments)
        ⟨shown, Text.Utf8.encode input⟩ =
      (picked deployments (String.ofList (Text.firstLine input).1),
        ⟨shown ++ printed (promptLines domain workspace deployments) ++ "\n> ",
          Text.Utf8.encode (Text.firstLine input).2⟩) := by
  have hfull : ¬ deployments.isEmpty = true := by simpa using hne
  unfold promptForDeployment
  simp only [if_neg hfull]
  rw [outcome_bind (outcome_sayLine _), outcome_bind (outcome_sayLine _),
    outcome_bind (outcome_sayLines _), outcome_bind (outcome_say _), outcome_bind outcome_flush,
    outcome_bind (outcome_readLine rfl)]
  simp only [picked, promptLines, printed, List.foldr_cons, String.append_assoc]
  cases pick? deployments (String.ofList (Text.firstLine input).1) with
  | none => exact outcome_throw .invalidDeploymentKey
  | some d => exact outcome_pure d

/-- Without deployments nobody is asked anything. With some, each stands in the table under its
number, and one line is read: the deployment whose number it is comes out, and no other line has
one. A list in memory is shorter than the largest number of 64 bits, so that every number of a row
is read. -/
theorem prompt_picks_numbered_row (hlength : deployments.length < Text.wordBound)
    (elsewhere : (q : Query) → q.Answer) (domain : String) (workspace : Workspace)
    (shown : String) (input : List Char) :
    let prompt := promptForDeployment domain workspace deployments
    let console : Console := ⟨shown, Text.Utf8.encode input⟩
    (deployments = [] → outcome elsewhere prompt console = (.error .noDeployments, console)) ∧
      (deployments ≠ [] → ∃ result,
        outcome elsewhere prompt console =
          (result, ⟨shown ++ printed (promptLines domain workspace deployments) ++ "\n> ",
            Text.Utf8.encode (Text.firstLine input).2⟩) ∧
        (∃ header rows, deploymentTable deployments = header :: rows ∧
          Numbered deployments rows) ∧
        Picks deployments (Text.firstLine input).1 result) := by
  refine ⟨?_, fun hne => ?_⟩
  · rintro rfl
    rfl
  · exact ⟨_, outcome_promptForDeployment hne shown input, exists_numbered_rows deployments,
      picks_picked hlength _⟩

def offeredWorkspace : Workspace := ⟨"w", "Quasar", ""⟩

def secondOffered : Deployment := ⟨"e", "", "s", "w", ⟨"", "7.0.0"⟩, "", none⟩

def offered : List Deployment := [⟨"d", "Büro", "r", "w", ⟨"", "7.0.0"⟩, "", none⟩, secondOffered]

/-- A numeral with a sign and zeros picks its row, and the line behind it is left. -/
theorem secondOffered_picked :
    offered.length < Text.wordBound ∧
      outcome willing (promptForDeployment "x" offeredWorkspace offered)
          ⟨"", Text.Utf8.encode " +002\n1\n".toList⟩ =
        (.ok secondOffered, ⟨printed (promptLines "x" offeredWorkspace offered) ++ "\n> ",
          Text.Utf8.encode "1\n".toList⟩) ∧
      outcome willing (promptForDeployment "x" offeredWorkspace []) ⟨"", []⟩ =
        (.error .noDeployments, ⟨"", []⟩) := by
  have hlength : offered.length < Text.wordBound := by decide
  obtain ⟨-, hpicks⟩ := prompt_picks_numbered_row hlength willing "x" offeredWorkspace ""
    " +002\n1\n".toList
  obtain ⟨result, houtcome, -, hresult⟩ := hpicks (List.cons_ne_nil _ _)
  have hread : Text.readNatural? (Text.trim (Text.firstLine " +002\n1\n".toList).1) = some 2 := by
    decide
  have hnumeral := (Text.readNatural?_eq_some_iff.mp hread).1
  obtain rfl := (hresult.ok_iff secondOffered).mpr ⟨1, rfl, hnumeral⟩
  refine ⟨hlength, houtcome, ?_⟩
  exact (prompt_picks_numbered_row (by decide) willing "x" offeredWorkspace "" []).1 rfl

end AirflowDeploy.Deploy
