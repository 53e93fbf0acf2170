import InputActions.ViewportText

/-!
# Commands and their parameters

The command has two subcommands, one of which has two of its own. A `Place` is a point in this tree.
Some parameters are understood at every place; those of a replay only there. A parameter is named by
a word after two dashes, some also by a letter after one dash, and one stands for itself: the script
to replay.
-/

namespace InputActions.CommandLine

/-- A point in the tree of commands. -/
inductive Place where
  | top
  | replay
  | config
  | showConfig
  | configPath
  deriving DecidableEq, Repr

inductive Parameter where
  | config
  | logLevel
  | debug
  | logFormat
  | file
  | release
  | legacyOrigin
  | viewport
  | help
  | version
  deriving DecidableEq, Repr

/-- Whether a parameter comes with a value. -/
def Parameter.takesValue : Parameter → Bool
  | .config => true
  | .logLevel => true
  | .logFormat => true
  | .file => true
  | .viewport => true
  | _ => false

namespace Place

/-- The commands at a place, by their names. -/
def commands : Place → List (String × Place)
  | .top => [("replay", .replay), ("config", .config)]
  | .config => [("show", .showConfig), ("path", .configPath)]
  | _ => []

def hasCommands (place : Place) : Bool := !place.commands.isEmpty

def command? (place : Place) (name : String) : Option Place :=
  (place.commands.find? (·.1 == name)).map (·.2)

/-- The word for help is a command wherever there are commands. -/
def isHelp (place : Place) (name : String) : Bool := place.hasCommands && name == "help"

/-- The parameters with a name of their own, by their words. -/
def parameters (place : Place) : List (String × Parameter) :=
  [("config", .config), ("log-level", .logLevel), ("debug", .debug), ("log-format", .logFormat),
      ("help", .help), ("version", .version)]
    ++ if place = .replay then
        [("release", .release), ("legacy-origin", .legacyOrigin), ("viewport", .viewport)]
      else []

def parameter? (place : Place) (word : String) : Option Parameter :=
  (place.parameters.find? (·.1 == word)).map (·.2)

end Place

/-- The parameter of a letter; letters mean the same at every place. -/
def Parameter.ofLetter? : Char → Option Parameter
  | 'c' => some .config
  | 'l' => some .logLevel
  | 'd' => some .debug
  | 'h' => some .help
  | 'V' => some .version
  | _ => none

/-- How log lines look. -/
inductive LogFormat where
  | text
  | json
  deriving DecidableEq, Repr

def LogFormat.ofText? : String → Option LogFormat
  | "text" => some .text
  | "json" => some .json
  | _ => none

/-- Why the arguments are no command, or ask for something else than running one. -/
inductive UsageError where
  /-- A command was expected, and there was nothing at all. -/
  | nothingGiven
  | missingCommand
  | unknownCommand
  | missingArgument
  | unknownArgument
  | badValue
  | badViewport (fault : ViewportFault)
  /-- A parameter without a value was given one. -/
  | unwantedValue
  | repeated
  | helpRequested
  | versionRequested
  deriving DecidableEq, Repr

end InputActions.CommandLine
