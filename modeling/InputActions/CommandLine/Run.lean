import InputActions.CommandLine.Arguments
import InputActions.CommandLine.Files
import InputActions.Json.Writer
import InputActions.Replay
import InputActions.SettingsFile

/-!
# Running the command

A run loads the settings, checks the log level, and then replays a script or says what the settings
are. The settings come from the file that was named, else from the one in the working directory,
else from the user's; where there is no file they are the standard ones. The environment overrides
those of sessions, whichever way they came.

A run prints to its output also when it fails: a replay prints what was injected before the failure.
-/

namespace InputActions.CommandLine

/-- Why a command did not do what it was asked for. -/
inductive CommandError where
  | usage (error : UsageError)
  | noConfigDirectory
  | unreadableConfig
  | malformedConfig
  | unknownLogLevel
  | unreadableScript (path : String)
  | malformedScript (path : String)
  | action (error : ActionError)
  deriving DecidableEq

/-- What the command says about an error; what lies behind it is said elsewhere. -/
def CommandError.message : CommandError → String
  | .usage _ => "invalid arguments"
  | .noConfigDirectory => "Failed to get config directory"
  | .unreadableConfig => "Failed to read config file"
  | .malformedConfig => "Failed to parse config file"
  | .unknownLogLevel => "Invalid log level"
  | .unreadableScript path => "Failed to read " ++ path
  | .malformedScript path => "Failed to parse " ++ path
  | .action error => "webdriver error: " ++ error.code

/-- What a run printed, and how it ended. -/
structure Output where
  text : String
  result : Except CommandError Unit

/-- Where settings are looked for in the working directory. -/
def localConfig : String := "config/wdactions.yaml"

/-- The directory of the user's settings. -/
def configDirectory? (environment : Environment) : Option String :=
  match (environment.get? "XDG_CONFIG_HOME").filter (·.toList.head? == some '/') with
  | some directory => some directory
  | none => ((environment.get? "HOME").filter (· != "")).map fun home => joinPath home ".config"

/-- The user's settings. -/
def userConfig? (environment : Environment) : Option String :=
  (configDirectory? environment).map fun directory =>
    joinPath (joinPath directory "wdactions") "config.yaml"

namespace Invocation

/-- The file of the settings, whether it is there or not. -/
def configPath (invocation : Invocation) (files : Files) (environment : Environment) :
    Except CommandError String :=
  match invocation.config with
  | some path => .ok path
  | none =>
    if (files localConfig).isThere then .ok localConfig
    else
      match userConfig? environment with
      | some path => .ok path
      | none => .error .noConfigDirectory

end Invocation

/-- The environment variables that a run asks for. -/
def variableNames : List String :=
  ["XDG_CONFIG_HOME", "HOME", Config.intervalVariable, Config.centerVariable,
    Config.platformVariable]

/-- The paths that a run may read. -/
def Invocation.paths (invocation : Invocation) (environment : Environment) : List String :=
  let configs :=
    match invocation.config with
    | some path => [path]
    | none => localConfig :: (userConfig? environment).toList
  match invocation.command with
  | .replay file .. => file :: configs
  | _ => configs

/-- The settings of a file before the environment is asked. -/
def settingsOf : Entry → Except CommandError Settings
  | .missing => .ok .standard
  | .unreadable => .error .unreadableConfig
  | .text content =>
    match Settings.ofDocument? content with
    | some settings => .ok settings
    | none => .error .malformedConfig

/-- The settings of a file, with what the environment overrides. -/
def loadSettings (entry : Entry) (environment : Environment) : Except CommandError Settings := do
  let settings ← settingsOf entry
  return { settings with actions := settings.actions.withOverrides environment }

/-- A debugging run needs no log level. -/
def Invocation.checkLogLevel (invocation : Invocation) (settings : Settings) :
    Except CommandError Unit :=
  if invocation.debug || isLogLevel (invocation.logLevel.getD settings.logLevel) then .ok ()
  else .error .unknownLogLevel

/-- The script at a path. -/
def loadScript (files : Files) (path : String) : Except CommandError Replay.Script :=
  match files path with
  | .text content =>
    match Replay.Script.ofText? content with
    | some script => .ok script
    | none => .error (.malformedScript path)
  | _ => .error (.unreadableScript path)

/-- The line of an event. -/
def eventLine (event : Event) : String := event.toJson.text ++ "\n"

def Output.ofOutcome (outcome : Replay.Outcome) : Output :=
  ⟨String.join (outcome.events.map eventLine), outcome.result.mapError .action⟩

/-- Runs a command under settings that were loaded. -/
def Command.run (command : Command) (files : Files) (path : String) (settings : Settings) :
    Output :=
  match command with
  | .replay file release legacyOrigin viewport =>
    match loadScript files file with
    | .error error => ⟨"", .error error⟩
    | .ok script =>
      .ofOutcome
        (Replay.run
          ⟨settings.actions, viewport.getD settings.viewport, script, legacyOrigin, release⟩)
  | .showConfig => ⟨"# " ++ path ++ "\n" ++ settings.document, .ok ()⟩
  | .configPath => ⟨path ++ "\n", .ok ()⟩

/-- What is settled before a command runs: the path of the settings, and the settings. -/
def Invocation.prepare (invocation : Invocation) (files : Files) (environment : Environment) :
    Except CommandError (String × Settings) := do
  let path ← invocation.configPath files environment
  let settings ← loadSettings (files path) environment
  invocation.checkLogLevel settings
  return (path, settings)

def Invocation.run (invocation : Invocation) (files : Files) (environment : Environment) :
    Output :=
  match invocation.prepare files environment with
  | .error error => ⟨"", .error error⟩
  | .ok (path, settings) => invocation.command.run files path settings

/-- Runs the command with arguments. -/
def run (arguments : List String) (files : Files) (environment : Environment) : Output :=
  match Invocation.ofArguments arguments with
  | .error error => ⟨"", .error (.usage error)⟩
  | .ok invocation => invocation.run files environment

end InputActions.CommandLine
