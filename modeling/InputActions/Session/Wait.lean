import InputActions.Motion
import InputActions.Session.World

/-!
# How one action runs

An action runs in sections. A section changes the world at one instant and ends either with the
result of the action or with a wait: for the answer to a request, for the next sample of a move,
or for the end of a pause. `Wait` says what is waited for and carries what the rest of the action
needs; `Action.begin` is the first section and `Wait.resume` each later one. Between two sections
other actions may run, so a section reads the inputs anew and trusts nothing it did not carry.

Every section makes at most one request, which is its last step.
-/

namespace InputActions

/-- The fixed part of a pointer move. -/
structure Move where
  id : SourceId
  /-- When the move began, before any question about geometry. -/
  started : Nat
  /-- Where the pointer was then. -/
  start : Point
  dx : Int64
  dy : Int64
  duration : UInt64
  deriving DecidableEq

/-- What an action waits for. -/
inductive Wait where
  /-- The end of a pause. -/
  | pause
  /-- The answer to a keydown. -/
  | keydown (id : SourceId) (event : KeyEvent) (printable : Bool) (verdict : Verdict)
  /-- The answer to a keypress. -/
  | keypress (verdict : Verdict)
  /-- The answer to a keyup, after which a refused key is held again. -/
  | keyup (id : SourceId) (key : String) (verdict : Verdict)
  /-- The answer to a mousedown, which may open the context menu. -/
  | mousedown (id : SourceId) (event : MouseEvent) (opensMenu : Bool) (verdict : Verdict)
  /-- The answer to a contextmenu event. -/
  | contextmenu (verdict : Verdict)
  /-- The answer to a mouseup, after which a refused button is held again. -/
  | mouseup (id : SourceId) (button : UInt32) (verdict : Verdict)
  /-- The centre of an element. -/
  | center (move : Move) (ref : ElementRef) (refusal : Option HostError)
  /-- The viewport. -/
  | viewport (move : Move) (base : Point) (refusal : Option HostError)
  /-- The time of the next sample. -/
  | sample (move : Move) (target : Point)
  /-- The answer to the mousemove of a sample. -/
  | step (move : Move) (target position : Point) (verdict : Verdict)
  /-- The answer to the mousemove to the target. -/
  | arrival (id : SourceId) (target : Point) (verdict : Verdict)
  deriving DecidableEq

/-- How a section ends. -/
inductive Outcome where
  | settled (result : Except ActionError Unit)
  | waits (ms : Nat) (wait : Wait)

namespace Outcome

def done : Outcome := .settled (.ok ())

def failed (error : ActionError) : Outcome := .settled (.error error)

end Outcome

namespace World

/-- Injects an event and waits for its answer. -/
def request (world : World) (id : SourceId) (event : Event) (wait : Verdict → Wait) :
    World × Outcome :=
  let (world, verdict, delay) := world.inject id event
  (world, .waits delay (wait verdict))

/-- Asks for the viewport on behalf of a move from this base. -/
def requestViewport (world : World) (move : Move) (base : Point) : World × Outcome :=
  let (world, refusal, delay) := world.askViewport
  (world, .waits delay (.viewport move base refusal))

/-- Asks for the centre of an element on behalf of a move. -/
def requestCenter (world : World) (move : Move) (ref : ElementRef) : World × Outcome :=
  let (world, refusal, delay) := world.askCenter ref
  (world, .waits delay (.center move ref refusal))

/-- Moves a mouse to the target of a move, unless it is there. -/
def moveToTarget (world : World) (id : SourceId) (target : Point) : World × Outcome :=
  match world.inputs.moveEvent id target with
  | .error error => (world, .failed error)
  | .ok none => (world, .done)
  | .ok (some event) => world.request id (.mouse event) (.arrival id target)

/-- Waits for the next sample of a move. -/
def awaitSample (world : World) (session : Session) (move : Move) (target : Point) :
    World × Outcome :=
  (world, .waits session.config.sampleInterval.toNat (.sample move target))

/-- Moves a mouse to a sample of a move, unless it is there. -/
def moveToSample (world : World) (session : Session) (move : Move) (target position : Point) :
    World × Outcome :=
  match world.inputs.moveEvent move.id position with
  | .error error => (world, .failed error)
  | .ok none => world.awaitSample session move target
  | .ok (some event) => world.request move.id (.mouse event) (.step move target position)

end World

namespace Action

/-- How long a pause or a move of this tick takes. -/
def effective (duration : Option UInt64) (tickDuration : UInt64) : UInt64 :=
  duration.getD tickDuration

def beginKeyDown (action : Action) (value : String) (world : World) : World × Outcome :=
  match world.inputs.pressKey action value with
  | .error fault => (world, .failed (.invalidArgument fault))
  | .ok (event, printable, inputs) =>
    { world with inputs := inputs }.request action.id (.key event)
      (.keydown action.id event printable)

def beginKeyUp (action : Action) (value : String) (world : World) : World × Outcome :=
  match world.inputs.liftKey action value with
  | .error fault => (world, .failed (.invalidArgument fault))
  | .ok none => (world, .done)
  | .ok (some (event, inputs)) =>
    { world with inputs := inputs }.request action.id (.key event)
      (.keyup action.id (Key.normalized value))

/-- The button that opens the context menu. -/
def secondaryButton : UInt32 := 2

/-- A press is a click. With the control key on a Mac it is a click of the secondary button, which
never counts as the second of two; otherwise it may complete a double click. -/
def beginPointerDown (action : Action) (context : Context) (button : UInt32) (world : World) :
    World × Outcome :=
  match world.inputs.pressButton action button with
  | .error error => (world, .failed error)
  | .ok none => (world, .done)
  | .ok (some (event, inputs)) =>
    let world := { world with inputs := inputs }
    let secondary := event.modifiers.ctrl && context.session.config.platform = .mac
    let event :=
      if secondary then { event with button := secondaryButton, clickCount := 1 }
      else if !event.modifiers.ctrl && world.host.isDoubleClick then
        { event with clickCount := 2 }
      else { event with clickCount := 1 }
    let world := if secondary then world.resetClick else world
    world.request action.id (.mouse event)
      (.mousedown action.id event (button = secondaryButton || secondary))

def beginPointerUp (action : Action) (button : UInt32) (world : World) : World × Outcome :=
  match world.inputs.liftButton action button with
  | .error error => (world, .failed error)
  | .ok none => (world, .done)
  | .ok (some (event, inputs)) =>
    let event := { event with clickCount := if world.host.isDoubleClick then 2 else 1 }
    { world with inputs := inputs }.request action.id (.mouse event) (.mouseup action.id button)

def beginPointerMove (action : Action) (duration : UInt64) (origin : Origin) (dx dy : Int64)
    (world : World) : World × Outcome :=
  match world.inputs.store.mouse action.id with
  | .error error => (world, .failed error)
  | .ok source =>
    let move : Move := ⟨action.id, world.now, source.position, dx, dy, duration⟩
    match origin with
    | .viewport => world.requestViewport move .origin
    | .pointer => world.requestViewport move source.position
    | .element ref => world.requestCenter move ref

/-- The first section of an action. -/
def begin (action : Action) (context : Context) (tickDuration : UInt64) (world : World) :
    World × Outcome :=
  match action.gesture with
  | .pause duration =>
    let ms := effective duration tickDuration
    if ms = 0 then (world, .done) else (world, .waits ms.toNat .pause)
  | .keyDown value => action.beginKeyDown value world
  | .keyUp value => action.beginKeyUp value world
  | .pointerDown button => action.beginPointerDown context button world
  | .pointerUp button => action.beginPointerUp button world
  | .pointerMove duration origin dx dy =>
    action.beginPointerMove (effective duration tickDuration) origin dx dy world
  | .pointerCancel => (world, .failed (.unsupported .pointerCancel))

end Action

namespace Wait

/-- A keydown that was accepted is followed by a keypress if the key types a character. -/
def afterKeydown (id : SourceId) (event : KeyEvent) (printable : Bool) (world : World) :
    World × Outcome :=
  let flags := event.modifiers
  if printable && !(flags.ctrl || flags.alt || flags.metaKey) then
    world.request id (.key { event with kind := .keypress }) .keypress
  else (world, .done)

/-- The result of an action that takes back what a refused event reported. -/
def refused (error : HostError) (restored : Except InvalidArgument Inputs) (world : World) :
    World × Outcome :=
  match restored with
  | .error fault => (world, .failed (.invalidArgument fault))
  | .ok inputs => ({ world with inputs := inputs }, .failed (.host error))

/-- Checks the target of a move and sets out for it. -/
def setOut (context : Context) (move : Move) (base : Point) (world : World) : World × Outcome :=
  match Motion.target world.host.viewport base move.dx move.dy with
  | .error cause => (world, .failed (.moveTargetOutOfBounds cause))
  | .ok target =>
    if move.duration = 0 then world.moveToTarget move.id target
    else world.awaitSample context.session move target

/-- Takes the next sample of a move, or its last step. -/
def takeSample (context : Context) (move : Move) (target : Point) (world : World) :
    World × Outcome :=
  let elapsed := world.now - move.started
  if Motion.continues context.session.config.sampleInterval move.duration elapsed then
    world.moveToSample context.session move target
      (Motion.interpolate move.start target (Motion.share elapsed move.duration))
  else world.moveToTarget move.id target

/-- The section that follows a wait. -/
def resume (wait : Wait) (context : Context) (world : World) : World × Outcome :=
  match wait with
  | .pause => (world, .done)
  | .keydown id event printable verdict =>
    let world := world.acknowledge verdict
    match verdict.refusal with
    | some error => (world, .failed (.host error))
    | none => afterKeydown id event printable world
  | .keypress verdict =>
    let world := world.acknowledge verdict
    match verdict.refusal with
    | some error => (world, .failed (.host error))
    | none => (world, .done)
  | .keyup id key verdict =>
    let world := world.acknowledge verdict
    match verdict.refusal with
    | some error => refused error (world.inputs.holdKey id key) world
    | none => (world, .done)
  | .mousedown id event opensMenu verdict =>
    let world := world.acknowledge verdict
    match verdict.refusal with
    | some error => (world, .failed (.host error))
    | none =>
      if opensMenu then
        world.request id (.mouse { event with kind := .contextmenu }) .contextmenu
      else (world, .done)
  | .contextmenu verdict =>
    let world := world.acknowledge verdict
    match verdict.refusal with
    | some error => (world, .failed (.host error))
    | none => (world, .done)
  | .mouseup id button verdict =>
    let world := world.acknowledge verdict
    match verdict.refusal with
    | some error => refused error (world.inputs.holdButton id button) world
    | none => (world, .done)
  | .center move ref refusal =>
    match refusal with
    | some error => (world, .failed (.host error))
    | none =>
      match world.host.center ref context.mode with
      | .error error => (world, .failed (.host error))
      | .ok base => world.requestViewport move base
  | .viewport move base refusal =>
    match refusal with
    | some error => (world, .failed (.host error))
    | none => setOut context move base world
  | .sample move target => takeSample context move target world
  | .step move target position verdict =>
    let world := world.acknowledge verdict
    match verdict.refusal with
    | some error => (world, .failed (.host error))
    | none =>
      match world.inputs.arrive move.id position with
      | .error error => (world, .failed error)
      | .ok inputs => { world with inputs := inputs }.awaitSample context.session move target
  | .arrival id target verdict =>
    let world := world.acknowledge verdict
    match verdict.refusal with
    | some error => (world, .failed (.host error))
    | none =>
      match world.inputs.arrive id target with
      | .error error => (world, .failed error)
      | .ok inputs => ({ world with inputs := inputs }, .done)

end Wait

end InputActions
