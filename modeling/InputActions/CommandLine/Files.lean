/-!
# Files

A command reads files by their paths. For each path there is a text, or something that cannot be
read as a text, or nothing.

A working directory that holds some files and nothing else is described by their names
(`Files.ofTree`). Relative paths lead through its directories; an absolute path leads nowhere.
-/

namespace InputActions.CommandLine

/-- What stands at a path. -/
inductive Entry where
  | missing
  | unreadable
  | text (content : String)
  deriving DecidableEq

def Entry.isThere : Entry → Bool
  | .missing => false
  | _ => true

abbrev Files := String → Entry

namespace Files

/-- A path from the working directory: the names on the way. -/
abbrev Way := List String

def components (path : String) : List String :=
  (path.toList.splitOn '/').map String.ofList

/-- The way of a file's name. -/
def wayOf (name : String) : Way := (components name).filter fun c => c != "" && c != "."

def isDirectory (tree : List (Way × String)) (way : Way) : Bool :=
  way.isEmpty || tree.any fun file => way.isPrefixOf file.1 && way != file.1

/-- Follows the components of a path through directories. -/
def walk (tree : List (Way × String)) (way : Way) : List String → Option Way
  | [] => some way
  | component :: components =>
    if !isDirectory tree way then none
    else if component == "" || component == "." then walk tree way components
    else if component == ".." then
      if way.isEmpty then none else walk tree way.dropLast components
    else walk tree (way ++ [component]) components

def entry (tree : List (Way × String)) (path : String) : Entry :=
  if path.isEmpty || path.toList.head? == some '/' then .missing
  else
    match walk tree [] (components path) with
    | none => .missing
    | some way =>
      match tree.find? (·.1 == way) with
      | some (_, content) => .text content
      | none => if isDirectory tree way then .unreadable else .missing

/-- The files of a working directory, by name. -/
def ofTree (files : List (String × String)) : Files :=
  entry (files.map fun (name, content) => (wayOf name, content))

end Files

/-- A name in a directory. -/
def joinPath (directory name : String) : String :=
  if directory.toList.getLast? == some '/' then directory ++ name else directory ++ "/" ++ name

end InputActions.CommandLine
