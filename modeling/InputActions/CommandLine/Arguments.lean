import InputActions.CommandLine.Parameter

/-!
# Reading arguments

Arguments are read from the left, at one place after the other. The name of a command leads to its
place, where the rest is read; what was given at different places is joined afterwards, and of two
values for one parameter the one further inside counts. At one place no parameter may be given
twice.

The value of a parameter is attached to its name or is the next argument, unless that looks like a
name itself. A value that is an argument of its own is looked at when the next parameter is read, or
at the end, but not before a command or an argument that makes no sense: so such an argument is
reported instead of a bad value before it. After two dashes alone no argument is a name.
-/

namespace InputActions.CommandLine

/-- What was given at a place. -/
structure Given where
  config : Option String
  logLevel : Option String
  logFormat : Option LogFormat
  debug : Bool
  file : Option String
  release : Bool
  legacyOrigin : Bool
  viewport : Option Viewport
  deriving DecidableEq

namespace Given

def nothing : Given := ⟨none, none, none, false, none, false, false, none⟩

/-- What was given at two places, with the inner one first. -/
def join (inner outer : Given) : Given :=
  ⟨inner.config <|> outer.config, inner.logLevel <|> outer.logLevel,
    inner.logFormat <|> outer.logFormat, inner.debug || outer.debug, inner.file <|> outer.file,
    inner.release || outer.release, inner.legacyOrigin || outer.legacyOrigin,
    inner.viewport <|> outer.viewport⟩

/-- The value of a parameter that has none yet. -/
def valueOnce {α : Type} (old : Option α) (value : Option String)
    (read : String → Except UsageError α) : Except UsageError (Option α) :=
  match value with
  | none => .error .badValue
  | some text => if old.isSome then .error .repeated else (read text).map some

def markOnce (old : Bool) : Except UsageError Bool := if old then .error .repeated else .ok true

def path (text : String) : Except UsageError String :=
  if text.isEmpty then .error .badValue else .ok text

def format (text : String) : Except UsageError LogFormat :=
  match LogFormat.ofText? text with
  | some format => .ok format
  | none => .error .badValue

/-- Takes a parameter with its value, if it has one. -/
def supply (given : Given) (parameter : Parameter) (value : Option String) :
    Except UsageError Given :=
  match parameter with
  | .config => return { given with config := ← valueOnce given.config value path }
  | .logLevel => return { given with logLevel := ← valueOnce given.logLevel value .ok }
  | .logFormat => return { given with logFormat := ← valueOnce given.logFormat value format }
  | .file => return { given with file := ← valueOnce given.file value path }
  | .viewport =>
    return { given with
      viewport := ← valueOnce given.viewport value fun text =>
        (Viewport.ofText text).mapError .badViewport }
  | .debug => return { given with debug := ← markOnce given.debug }
  | .release => return { given with release := ← markOnce given.release }
  | .legacyOrigin => return { given with legacyOrigin := ← markOnce given.legacyOrigin }
  | .help => .error .helpRequested
  | .version => .error .versionRequested

end Given

/-- A parameter that was named and whose value has not been looked at. -/
inductive Outstanding where
  | nothing
  | awaited (parameter : Parameter)
  | received (parameter : Parameter) (value : String)
  deriving DecidableEq

/-- How far the arguments of a place have been read. -/
structure Scan where
  given : Given
  outstanding : Outstanding
  /-- Whether the script to replay has been named. -/
  hasFile : Bool
  /-- Whether two dashes alone have been passed. -/
  literal : Bool
  deriving DecidableEq

namespace Scan

def start : Scan := ⟨.nothing, .nothing, false, false⟩

def isAwaiting (scan : Scan) : Bool :=
  match scan.outstanding with
  | .awaited _ => true
  | _ => false

/-- What is given, once the outstanding value has been looked at. -/
def settle (scan : Scan) : Except UsageError Given :=
  match scan.outstanding with
  | .nothing => .ok scan.given
  | .awaited parameter => scan.given.supply parameter none
  | .received parameter value => scan.given.supply parameter (some value)

/-- Takes a parameter whose value, if it has one, is attached. -/
def take (scan : Scan) (parameter : Parameter) (value : Option String) :
    Except UsageError Scan := do
  let given ← (← scan.settle).supply parameter value
  return { scan with given := given, outstanding := .nothing }

/-- Names a parameter whose value is still to come. -/
def await (scan : Scan) (parameter : Parameter) : Except UsageError Scan := do
  let given ← scan.settle
  return { scan with given := given, outstanding := .awaited parameter }

/-- Takes the word of a parameter, with what is attached to it. -/
def takeWord (scan : Scan) (place : Place) (text : List Char) : Except UsageError Scan :=
  let word := String.ofList (text.takeWhile (· != '='))
  let attached : Option String :=
    match text.dropWhile (· != '=') with
    | [] => none
    | _ :: value => some (String.ofList value)
  match place.parameter? word with
  | none => .error .unknownArgument
  | some parameter =>
    match parameter.takesValue, attached with
    | true, some value => scan.take parameter (some value)
    | true, none => scan.await parameter
    | false, some _ => .error .unwantedValue
    | false, none => scan.take parameter none

/-- Takes letters of parameters, the last of which may have a value attached. -/
def takeLetters (scan : Scan) : List Char → Except UsageError Scan
  | [] => .ok scan
  | letter :: rest =>
    match Parameter.ofLetter? letter with
    | none => .error .unknownArgument
    | some parameter =>
      if parameter.takesValue then
        match rest with
        | [] => scan.await parameter
        | '=' :: value => scan.take parameter (some (String.ofList value))
        | value => scan.take parameter (some (String.ofList value))
      else do
        let scan ← scan.take parameter none
        scan.takeLetters rest

/-- Takes an argument that names nothing. -/
def takePlain (scan : Scan) (place : Place) (argument : String) : Except UsageError Scan :=
  if place = .replay && !scan.hasFile then do
    let given ← scan.settle
    return { scan with given := given, outstanding := .received .file argument, hasFile := true }
  else if place.hasCommands &&
      !(scan.literal && ((place.command? argument).isSome || place.isHelp argument)) then
    .error .unknownCommand
  else .error .unknownArgument

/-- Takes an argument that is not the name of a command. -/
def takeArgument (scan : Scan) (place : Place) (argument : String) : Except UsageError Scan :=
  if scan.literal then scan.takePlain place argument
  else
    match argument.toList with
    | ['-', '-'] => .ok { scan with literal := true }
    | '-' :: '-' :: text => scan.takeWord place text
    | '-' :: letter :: letters => scan.takeLetters (letter :: letters)
    | _ =>
      match scan.outstanding with
      | .awaited parameter => .ok { scan with outstanding := .received parameter argument }
      | _ => scan.takePlain place argument

end Scan

/-- What is said about the commands whose names follow the word for help. -/
def helpOn (place : Place) : List String → UsageError
  | [] => .helpRequested
  | name :: names =>
    match place.command? name with
    | some inner => helpOn inner names
    | none => if place.isHelp name && names.isEmpty then .helpRequested else .unknownCommand

inductive Command where
  | replay (file : String) (release legacyOrigin : Bool) (viewport : Option Viewport)
  | showConfig
  | configPath
  deriving DecidableEq

/-- The command at a place, with what was given there. -/
def Place.close (place : Place) (given : Given) : Except UsageError Command :=
  match place with
  | .replay =>
    match given.file with
    | some file => .ok (.replay file given.release given.legacyOrigin given.viewport)
    | none => .error .missingArgument
  | .showConfig => .ok .showConfig
  | .configPath => .ok .configPath
  | _ => .error (if given = .nothing then .nothingGiven else .missingCommand)

/-- Reads the arguments at a place. -/
def read (place : Place) (scan : Scan) : List String → Except UsageError (Command × Given)
  | [] => do
    let given ← scan.settle
    return (← place.close given, given)
  | argument :: arguments =>
    if !scan.literal && !scan.isAwaiting && place.isHelp argument then
      .error (helpOn place arguments)
    else
      match if scan.literal || scan.isAwaiting then none else place.command? argument with
      | some inner => do
        let (command, given) ← read inner .start arguments
        return (command, given.join (← scan.settle))
      | none => do
        let scan ← scan.takeArgument place argument
        read place scan arguments

/-- What the arguments ask for. -/
structure Invocation where
  config : Option String
  logLevel : Option String
  debug : Bool
  logFormat : LogFormat
  command : Command
  deriving DecidableEq

def Invocation.ofArguments (arguments : List String) : Except UsageError Invocation := do
  let (command, given) ← read .top .start arguments
  return ⟨given.config, given.logLevel, given.debug, given.logFormat.getD .text, command⟩

end InputActions.CommandLine
