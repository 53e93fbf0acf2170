import InputActions.Interchange
import InputActions.Json.Reader
import InputActions.Session.Script

/-!
# Replays

A script is a document with payloads and the places of elements. Its chains run one after the other
on one session and a surface that answers at once, and the first failure ends the replay; what is
still held may be released at the end. All that was injected is reported, also by a replay that
fails.

An element has the same centre whichever way centres are taken.
-/

namespace InputActions

namespace Replay

/-- Payloads to run in order, and where elements are. -/
structure Script where
  payloads : List Json
  elements : List (ElementRef × Point)

namespace Script

/-- A member that stands at most once in an object. -/
def once? (members : List (String × Json)) (name : String) : Option (Option Json) :=
  if (members.filter (·.1 == name)).length ≤ 1 then some (Json.lookup members name) else none

def elementsOf? : Option Json → Option (List (ElementRef × Point))
  | none => some []
  | some (.obj members) =>
    members.mapM fun (name, place) => (Point.ofJson? place).map fun point => (⟨name⟩, point)
  | some _ => none

def payloadsOf? : Option Json → Option (List Json)
  | none => some []
  | some (.arr payloads) => some payloads
  | some _ => none

/-- An array is the only payload of its script. An object must have a first payload and may have
more of them, and elements. -/
def ofJson? : Json → Option Script
  | .arr sequences => some ⟨[.arr sequences], []⟩
  | .obj members => do
    let first ← once? members "actions"
    let elements ← elementsOf? (← once? members "elements")
    let further ← payloadsOf? (← once? members "then")
    return ⟨(← first) :: further, elements⟩
  | _ => none

def ofText? (text : String) : Option Script := (Json.read? text).bind ofJson?

end Script

/-- What a replay injected, and how it ended. -/
structure Outcome where
  events : List Event
  result : Except ActionError Unit

/-- Asks for something that is answered by a result. -/
def ask (session : Session) (world : World) (request : Request) :
    World × Except ActionError Unit :=
  match world.ask session request with
  | (world, .result result) => (world, result)
  | (world, _) => (world, .ok ())

/-- Runs payloads up to the first that fails. -/
def runPayloads (session : Session) (mode : CenterMode) (world : World) :
    List Json → World × Except ActionError Unit
  | [] => (world, .ok ())
  | payload :: payloads =>
    match ask session world (.dispatch payload (some mode)) with
    | (world, .error error) => (world, .error error)
    | (world, .ok ()) => runPayloads session mode world payloads

/-- A surface that knows the elements of a script. -/
def surface (viewport : Viewport) (elements : List (ElementRef × Point)) : Host :=
  elements.foldl (fun host (ref, point) => host.addElement ref ⟨point, point⟩) (.prompt viewport)

end Replay

/-- How a script is replayed. -/
structure Replay where
  config : Config
  viewport : Viewport
  script : Replay.Script
  /-- Whether moves are measured from the centre of whole elements, whatever the configuration. -/
  legacyOrigin : Bool
  /-- Whether everything still held is released at the end. -/
  release : Bool

namespace Replay

def mode (replay : Replay) (session : Session) : CenterMode :=
  if replay.legacyOrigin then .legacy else session.config.centerMode

def run (replay : Replay) : Outcome :=
  let session := Session.ofConfig replay.config
  let world := World.initial (surface replay.viewport replay.script.elements)
  let (world, result) :=
    match runPayloads session (replay.mode session) world replay.script.payloads with
    | (world, .ok ()) => if replay.release then ask session world .release else (world, .ok ())
    | failed => failed
  ⟨world.host.recorded, result⟩

end Replay

end InputActions
