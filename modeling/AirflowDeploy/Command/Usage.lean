import AirflowDeploy.Deploy.Mode
import AirflowDeploy.Machine
import AirflowDeploy.Text.Cut

/-!
# Command line arguments

The commands with their options, and the values that a command line gives to them. An option with
a value may name an environment variable, which counts when the option is not given.
-/
namespace AirflowDeploy

/-- Why a command line gives no command. -/
inductive UsageError where
  | helpRequested
  | versionRequested
  /-- Not even a subcommand. -/
  | nothingGiven
  | missingSubcommand
  | unknownSubcommand
  | unknownArgument
  /-- A value that is missing or is not one of the option's values. -/
  | invalidValue
  | givenTwice
  /-- A value for an option that takes none. -/
  | unexpectedValue
  | missingArgument
  deriving DecidableEq, Repr

namespace UsageError

def isRequest : UsageError → Bool
  | .helpRequested | .versionRequested => true
  | _ => false

def exitCode (e : UsageError) : Nat := if e.isRequest then 0 else 2

def message : UsageError → String
  | .helpRequested => "help requested"
  | .versionRequested => "version requested"
  | .nothingGiven | .missingSubcommand => "a subcommand is required but one was not provided"
  | .unknownSubcommand => "unrecognized subcommand"
  | .unknownArgument => "unexpected argument found"
  | .invalidValue => "invalid or missing value for an argument"
  | .givenTwice => "an argument cannot be used multiple times"
  | .unexpectedValue => "unexpected value for a flag"
  | .missingArgument => "a required argument was not provided"

end UsageError

namespace Usage

/-- How many values an option takes. -/
inductive Arity where
  | none
  | one
  /-- At most one; another one stands for it when it is missing. -/
  | optional (missing : String)
  deriving DecidableEq, Repr

structure Setting where
  name : String
  arity : Arity := .one
  short : Option Char := none
  /-- The environment variable that is read when the setting is not given. -/
  envName : Option String := none
  required : Bool := false
  /-- The allowed values; any for none. -/
  choices : List String := []
  mayBeEmpty : Bool := true
  deriving DecidableEq, Repr

def Setting.accepts (setting : Setting) (value : String) : Bool :=
  (setting.choices.isEmpty || setting.choices.contains value) &&
    (setting.mayBeEmpty || !value.isEmpty)

/-- A command, or a group of commands. -/
inductive Level where
  | root
  | workspace
  | deployment
  | deploy
  | login
  | logout
  | workspaceList
  | deploymentList
  deriving DecidableEq, Repr

/-- Settings that every command takes. -/
def globalSettings : List Setting :=
  [{ name := "verbose", arity := .none, short := some 'v' },
    { name := "log-format", choices := ["text", "json"] }]

namespace Level

def ownSettings : Level → List Setting
  | .deploy =>
    [{ name := "deployment-id", envName := some "DAGSHIP_DEPLOYMENT_ID" },
      { name := "workspace-id", envName := some "DAGSHIP_WORKSPACE_ID" },
      { name := "parse", arity := .none },
      { name := "pytest", arity := .optional Deploy.Mode.allTests },
      { name := "image-name" },
      { name := "runtime-version" },
      { name := "prompt", arity := .none },
      { name := "env", mayBeEmpty := false },
      { name := "json", arity := .none }]
  | .login =>
    [{ name := "domain", envName := some "DAGSHIP_DOMAIN", required := true },
      { name := "token", envName := some "DAGSHIP_TOKEN", required := true },
      { name := "workspace-id" },
      { name := "organization-id" }]
  | .deploymentList => [{ name := "workspace-id", envName := some "DAGSHIP_WORKSPACE_ID" }]
  | _ => []

def settings (level : Level) : List Setting := level.ownSettings ++ globalSettings

/-- The argument without a name. -/
def positional? : Level → Option Setting
  | .deploy => some { name := "path", mayBeEmpty := false }
  | _ => none

def subcommand? : Level → String → Option Level
  | .root, "deploy" => some .deploy
  | .root, "login" => some .login
  | .root, "logout" => some .logout
  | .root, "workspace" => some .workspace
  | .root, "deployment" => some .deployment
  | .workspace, "list" => some .workspaceList
  | .deployment, "list" => some .deploymentList
  | _, _ => none

def isGroup : Level → Bool
  | .root | .workspace | .deployment => true
  | _ => false

/-- How deep the commands below a level are nested. -/
def depth : Level → Nat
  | .root => 2
  | .workspace | .deployment => 1
  | _ => 0

theorem depth_subcommand {level sub : Level} {name : String}
    (h : level.subcommand? name = some sub) : sub.depth < level.depth := by
  unfold subcommand? at h
  split at h <;> cases h <;> decide

/-- What a request for help on some subcommand of a level comes to. -/
def helpOn (level : Level) : List String → UsageError
  | [] => .helpRequested
  | name :: rest =>
    match level.subcommand? name with
    | some sub => sub.helpOn rest
    | none => if level.isGroup && name == "help" && rest.isEmpty then .helpRequested
      else .unknownSubcommand

end Level

/-- The form of an argument. -/
inductive Form where
  /-- Two dashes: only arguments without names follow. -/
  | dashes
  | long (name : String) (value : Option String)
  | short (flags : List Char)
  | plain
  deriving DecidableEq, Repr

def formOf (argument : String) : Form :=
  match argument.toList with
  | ['-', '-'] => .dashes
  | '-' :: '-' :: rest =>
    let (name, value) := Text.cutFirst (· == '=') rest
    .long (String.ofList name) (value.map String.ofList)
  | '-' :: c :: rest => .short (c :: rest)
  | _ => .plain

/-- Values by the names of settings. -/
abbrev Values := List (String × String)

/-- What has been read of the arguments of one command. -/
structure Scan where
  values : Values := []
  /-- A setting that is given but not yet taken over, with its value if that has come. -/
  pending : Option (Setting × Option String) := none
  /-- Only arguments without names follow. -/
  trailing : Bool := false
  positionalGiven : Bool := false
  deriving Repr

namespace Scan

/-- The last setting waits for a value. -/
def isWaiting (s : Scan) : Bool :=
  match s.pending with
  | some (_, none) => true
  | _ => false

def record (s : Scan) (setting : Setting) (value : String) : Except UsageError Scan :=
  if (s.values.lookup setting.name).isSome then .error .givenTwice
  else if !setting.accepts value then .error .invalidValue
  else .ok { s with values := (setting.name, value) :: s.values }

/-- Takes the pending setting over. -/
def settle (s : Scan) : Except UsageError Scan :=
  match s.pending with
  | none => .ok s
  | some (setting, some value) => { s with pending := none }.record setting value
  | some (setting, none) =>
    match setting.arity with
    | .optional missing => { s with pending := none }.record setting missing
    | _ => .error .invalidValue

def setFlag (s : Scan) (setting : Setting) : Except UsageError Scan := do
  (← s.settle).record setting "true"

/-- An argument with two dashes before its name. -/
def long (s : Scan) (level : Level) (name : String) (value : Option String) :
    Except UsageError Scan :=
  match level.settings.find? fun setting => setting.name == name with
  | some setting =>
    match setting.arity, value with
    | .none, some _ => .error .unexpectedValue
    | .none, none => s.setFlag setting
    | _, some value => do (← s.settle).record setting value
    | _, none => do return { ← s.settle with pending := some (setting, none) }
  | none =>
    if name == "help" || (name == "version" && level = .root) then
      if value.isSome then .error .unexpectedValue
      else do
        let _ ← s.settle
        throw (if name == "help" then .helpRequested else .versionRequested)
    else .error .unknownArgument

/-- Letters after one dash. -/
def short (s : Scan) (level : Level) : List Char → Except UsageError Scan
  | [] => .ok s
  | c :: rest =>
    match level.settings.find? fun setting => setting.short == some c with
    | some setting => do (← s.setFlag setting).short level rest
    | none =>
      if c == 'h' || (c == 'V' && level = .root) then do
        let _ ← s.settle
        throw (if c == 'h' then .helpRequested else .versionRequested)
      else .error .unknownArgument

/-- An argument that is no option: the value that is waited for, or one without a name. -/
def plain (s : Scan) (level : Level) (argument : String) : Except UsageError Scan :=
  match s.trailing, s.pending with
  | false, some (setting, none) => .ok { s with pending := some (setting, some argument) }
  | _, _ =>
    match level.positional?, s.positionalGiven with
    | some setting, false => do
      return { ← s.settle with
        pending := some (setting, some argument), positionalGiven := true }
    | _, _ =>
      if level.isGroup && !(s.trailing && (argument == "help" || (level.subcommand? argument).isSome))
      then .error .unknownSubcommand
      else .error .unknownArgument

end Scan

/-- Reads the arguments of one command, up to the name of a subcommand, which is returned with
what comes after it. -/
def scan (level : Level) (s : Scan) :
    List String → Except UsageError (Scan × Option (String × List String))
  | [] => .ok (s, none)
  | argument :: rest =>
    if s.trailing then do scan level (← s.plain level argument) rest
    else if !s.isWaiting && (level.subcommand? argument).isSome then .ok (s, some (argument, rest))
    else if !s.isWaiting && level.isGroup && argument == "help" then .error (level.helpOn rest)
    else
      match formOf argument with
      | .dashes => scan level { s with trailing := true } rest
      | .long name value => do scan level (← s.long level name value) rest
      | .short flags => do scan level (← s.short level flags) rest
      | .plain => do scan level (← s.plain level argument) rest

/-- The values of environment variables for the settings that are not given. -/
def fromEnvironment (environment : Environment) (values : Values) (settings : List Setting) :
    Values :=
  settings.filterMap fun setting =>
    if (values.lookup setting.name).isSome then none
    else (setting.envName.bind environment).map (setting.name, ·)

/-- The values of a command without subcommands. -/
def complete (environment : Environment) (level : Level) (s : Scan) : Except UsageError Values := do
  let given := (← s.settle).values
  let values := given ++ fromEnvironment environment given level.settings
  if level.settings.all fun setting => !setting.required || (values.lookup setting.name).isSome then
    return values
  else throw .missingArgument

/-- The command of some arguments, with its values; those of inner commands stand first. -/
def parse (environment : Environment) (level : Level) (arguments : List String) :
    Except UsageError (Level × Values) :=
  match scan level {} arguments with
  | .error e => .error e
  | .ok (s, some (name, rest)) =>
    match _h : level.subcommand? name with
    | none => .error .unknownSubcommand
    | some sub =>
      match parse environment sub rest with
      | .error e => .error e
      | .ok (command, values) => s.settle.map fun own => (command, values ++ own.values)
  | .ok (s, none) =>
    if level.isGroup then
      match s.settle with
      | .error e => .error e
      | .ok own => .error (if own.values.isEmpty then .nothingGiven else .missingSubcommand)
    else (complete environment level s).map (level, ·)
termination_by level.depth
decreasing_by exact Level.depth_subcommand _h

end Usage

end AirflowDeploy
