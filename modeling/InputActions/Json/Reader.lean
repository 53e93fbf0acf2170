import InputActions.Json.Token

/-!
# Reading JSON

Tokens are read from the left by a machine that holds the containers whose inside is still being
read, innermost first. `Phase` says what may come next: in a phase only the tokens that continue
some value are accepted, so the machine ends in `finished` exactly on the tokens of one value.
Each token takes one step, and the number of open containers is bounded by `depthLimit`.
-/

namespace InputActions.Json

namespace Reader

/-- A container with a child that is still being read; its finished children, last first. -/
inductive Frame where
  | array (done : List Json)
  | object (done : List (String × Json)) (name : String)

/-- What the next token may be. The container that is being read carries its children, last
first. -/
inductive Phase where
  | value
  | arrayStart
  | arrayNext (done : List Json)
  | objectStart
  | objectName (done : List (String × Json))
  | objectColon (done : List (String × Json)) (name : String)
  | objectNext (done : List (String × Json))
  | finished (value : Json)

/-- How many containers may be open at once. -/
def depthLimit : Nat := 127

/-- Puts a finished value where the innermost open container waits for it. -/
def place (value : Json) : List Frame → Phase × List Frame
  | [] => (.finished value, [])
  | .array done :: frames => (.arrayNext (value :: done), frames)
  | .object done name :: frames => (.objectNext ((name, value) :: done), frames)

/-- Begins the value whose place the frames give. -/
def begin? (frames : List Frame) : Token → Option (Phase × List Frame)
  | .scalar value => some (place value frames)
  | .openArray => if frames.length < depthLimit then some (.arrayStart, frames) else none
  | .openObject => if frames.length < depthLimit then some (.objectStart, frames) else none
  | _ => none

/-- One token. -/
def step? (phase : Phase) (frames : List Frame) (token : Token) : Option (Phase × List Frame) :=
  match phase, token with
  | .value, token => begin? frames token
  | .arrayStart, .closeArray => some (place (.arr []) frames)
  | .arrayStart, token => begin? (.array [] :: frames) token
  | .arrayNext done, .comma => some (.value, .array done :: frames)
  | .arrayNext done, .closeArray => some (place (.arr done.reverse) frames)
  | .objectStart, .closeObject => some (place (.obj []) frames)
  | .objectStart, .scalar (.str name) => some (.objectColon [] name, frames)
  | .objectName done, .scalar (.str name) => some (.objectColon done name, frames)
  | .objectColon done name, .colon => some (.value, .object done name :: frames)
  | .objectNext done, .comma => some (.objectName done, frames)
  | .objectNext done, .closeObject => some (place (.obj done.reverse) frames)
  | _, _ => none

def run? (phase : Phase) (frames : List Frame) : List Token → Option Json
  | [] =>
    match phase, frames with
    | .finished value, [] => some value
    | _, _ => none
  | token :: tokens =>
    match step? phase frames token with
    | none => none
    | some (phase, frames) => run? phase frames tokens

end Reader

/-- The value that a text is, if it is one. -/
def read? (text : String) : Option Json := do
  Reader.run? .value [] (← Token.list? text.toList)

end InputActions.Json
