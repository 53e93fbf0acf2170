import InputActions.Proofs.Placing
import InputActions.Proofs.Surface

/-!
# Actions in turn

What a chain comes to when its actions are applied one after the other, each as a whole: tick after
tick, in the order of the chain inside a tick, up to and including the first tick in which an action
fails. An action that fails contributes its error and nothing else. Nothing here knows how long the
surface takes to answer: it is seen as a `Scene`, which shows the same whenever it is asked.
-/
namespace InputActions

/-! ### The surface -/

/-- What the surface shows to actions. -/
structure Scene where
  viewport : Viewport
  /-- Why the surface does not tell its viewport, if it does not. -/
  hidden : Option HostError
  elements : ElementRef → Option Centers
  stale : ElementRef → Bool
  doubleClick : Bool

/-- A surface that shows a scene whenever it is asked, and refuses no event. -/
structure Host.Shows (host : Host) (scene : Scene) : Prop where
  viewport : host.viewport = scene.viewport
  hidden : ∀ tally now, host.viewportRefusal tally now = scene.hidden
  elements : host.elements = scene.elements
  stale : host.stale = scene.stale
  doubleClick : host.isDoubleClick = scene.doubleClick
  willing : ∀ tally now, host.injectionRefusal tally now = none

theorem Host.Shows.of_surface {host next : Host} {scene : Scene} (h : host.Shows scene)
    (same : next.surface = host.surface) : next.Shows scene where
  viewport := (congrArg Host.viewport same :).trans h.viewport
  hidden tally now := (congrFun (congrFun (congrArg Host.viewportRefusal same :) tally) now).trans
    (h.hidden tally now)
  elements := (congrArg Host.elements same :).trans h.elements
  stale := (congrArg Host.stale same :).trans h.stale
  doubleClick := (congrArg Host.isDoubleClick same :).trans h.doubleClick
  willing tally now := (congrFun (congrFun (congrArg Host.injectionRefusal same :) tally) now).trans
    (h.willing tally now)

namespace Scene

/-- The point that the offset of a move is measured from, for a pointer at a position. -/
def base (scene : Scene) (mode : CenterMode) (position : Point) : Origin → Except HostError Point
  | .viewport => .ok .origin
  | .pointer => .ok position
  | .element ref =>
    if scene.stale ref then .error (.staleElement ref.shown)
    else
      match scene.elements ref with
      | some centers => .ok (centers.point mode)
      | none => .error (.noSuchElement ref.shown)

/-- The target at an offset from a point, if it can be reached. -/
def reach (scene : Scene) (base : Point) (dx dy : Int64) : Except ActionError Point :=
  match scene.hidden with
  | some error => .error (.host error)
  | none =>
    match Motion.target scene.viewport base dx dy with
    | .error cause => .error (.moveTargetOutOfBounds cause)
    | .ok target => .ok target

/-- The target of a move, if it can be reached. -/
def aim (scene : Scene) (mode : CenterMode) (position : Point) (origin : Origin) (dx dy : Int64) :
    Except ActionError Point :=
  match scene.base mode position origin with
  | .error error => .error (.host error)
  | .ok base => scene.reach base dx dy

end Scene

/-! ### Reports -/

/-- What an event reports of a press or a lift: everything but where the pointer is. -/
def Event.press? : Event → Option Event
  | .key event => if event.kind = .keypress then none else some (.key event)
  | .mouse event =>
    if event.kind = .mousedown ∨ event.kind = .mouseup then
      some (.mouse { event with position := .origin })
    else none

/-- The reports of presses and lifts in an event of a source. -/
def Event.reports (event : Event) (id : SourceId) : List (SourceId × Event) :=
  (event.press?.map (id, ·)).toList

/-- The reports that the surface has received, in their order. -/
def Host.reports (host : Host) : List (SourceId × Event) :=
  host.journal.flatMap fun injection => injection.event.reports injection.source

/-- The click that a mousedown belongs to. -/
def MouseEvent.pressing (event : MouseEvent) (context : Context) (scene : Scene) : MouseEvent :=
  if event.modifiers.ctrl && context.session.config.platform = .mac then
    { event with button := Action.secondaryButton, clickCount := 1 }
  else if !event.modifiers.ctrl && scene.doubleClick then { event with clickCount := 2 }
  else { event with clickCount := 1 }

/-- The click that a mouseup belongs to. -/
def MouseEvent.lifting (event : MouseEvent) (scene : Scene) : MouseEvent :=
  { event with clickCount := if scene.doubleClick then 2 else 1 }

/-! ### One action after the other -/

/-- What an action comes to: the inputs it leaves and its reports, or the error it fails with. -/
abbrev Effect := Except ActionError (Inputs × List (SourceId × Event))

/-- What an action comes to when nothing else runs. -/
def Action.alone (action : Action) (context : Context) (scene : Scene) (inputs : Inputs) : Effect :=
  match action.gesture with
  | .pause _ => .ok (inputs, [])
  | .keyDown value =>
    match inputs.pressKey action value with
    | .error fault => .error (.invalidArgument fault)
    -- The keypress that may follow is no report of a press.
    | .ok (event, _, next) => .ok (next, (Event.key event).reports action.id)
  | .keyUp value =>
    match inputs.liftKey action value with
    | .error fault => .error (.invalidArgument fault)
    | .ok none => .ok (inputs, [])
    | .ok (some (event, next)) => .ok (next, (Event.key event).reports action.id)
  | .pointerDown button =>
    match inputs.pressButton action button with
    | .error error => .error error
    | .ok none => .ok (inputs, [])
    | .ok (some (event, next)) =>
      .ok (next, (Event.mouse (event.pressing context scene)).reports action.id)
  | .pointerUp button =>
    match inputs.liftButton action button with
    | .error error => .error error
    | .ok none => .ok (inputs, [])
    | .ok (some (event, next)) => .ok (next, (Event.mouse (event.lifting scene)).reports action.id)
  | .pointerMove _ origin dx dy =>
    match inputs.store.mouse action.id with
    | .error error => .error error
    | .ok source =>
      match scene.aim context.mode source.position origin dx dy with
      | .error error => .error error
      | .ok target => .ok (inputs.place action.id target, [])
  | .pointerCancel => .error (.unsupported .pointerCancel)

/-- The inputs after some actions, what they reported, and the first error. -/
structure Account where
  inputs : Inputs
  reports : List (SourceId × Event)
  failure : Option ActionError

namespace Account

/-- The account after one more action. -/
def after (account : Account) : Effect → Account
  | .ok (inputs, reports) => ⟨inputs, account.reports ++ reports, account.failure⟩
  | .error error => { account with failure := account.failure.or (some error) }

def result (account : Account) : Except ActionError Unit :=
  match account.failure with
  | some error => .error error
  | none => .ok ()

end Account

/-- The account after the actions of a tick, all of which are applied. -/
def Tick.inTurn (context : Context) (scene : Scene) (tick : Tick) (account : Account) : Account :=
  tick.foldl (fun account action => account.after (action.alone context scene account.inputs))
    account

/-- The account after the ticks of a chain, up to the first one that fails. -/
def Chain.inTurn (context : Context) (scene : Scene) : Chain → Account → Account
  | [], account => account
  | tick :: rest, account =>
    -- A tick that fails has been applied as a whole; the ticks after it are not.
    match account.failure with
    | some _ => account
    | none => inTurn context scene rest (Tick.inTurn context scene tick account)

end InputActions
