import InputActions.Config
import InputActions.Event
import InputActions.Failure

/-!
# The surface

The surface receives events and answers questions about its geometry. Each request takes time to
be answered. Whether a request is refused is settled when it is made, and what it says about the
geometry is read when it is answered.

Refusals and delays may depend on how many requests came before and on the time, and on nothing
else; `Timetable` is such a dependence. The surface keeps a journal of every event it was asked to
inject, refused ones included, and of the order in which the answers came.
-/

namespace InputActions

/-- How many requests of each sort were made. -/
structure Tally where
  injections : Nat
  centers : Nat
  viewports : Nat
  deriving DecidableEq

/-- A value that depends on the requests so far and on the time. -/
abbrev Timetable (α : Type) := Tally → Nat → α

/-- The two centres of an element. -/
structure Centers where
  inView : Point
  legacy : Point
  deriving DecidableEq

def Centers.point (centers : Centers) : CenterMode → Point
  | .inView => centers.inView
  | .legacy => centers.legacy

/-- An event that the surface was asked to inject on behalf of a source. -/
structure Injection where
  time : Nat
  source : SourceId
  event : Event
  refusal : Option HostError
  deriving DecidableEq

structure Host where
  viewport : Viewport
  elements : ElementRef → Option Centers
  /-- Elements that are known and gone. -/
  stale : ElementRef → Bool
  injectionRefusal : Timetable (Option HostError)
  viewportRefusal : Timetable (Option HostError)
  injectionDelay : Timetable Nat
  geometryDelay : Timetable Nat
  /-- Whether the next press or release completes a double click. -/
  doubleClick : Bool
  /-- Whether the surface knows about clicks at all. -/
  countsClicks : Bool
  /-- How often the surface was told to forget the last click. -/
  clickResets : Nat
  tally : Tally
  journal : List Injection
  /-- The numbers of the injections that were answered, in the order of the answers. -/
  answered : List Nat
  /-- How many entries of the journal have been cleared from the record. -/
  cleared : Nat

namespace Host

/-- A surface that answers at once, refuses nothing and knows no element. -/
def prompt (viewport : Viewport) : Host where
  viewport := viewport
  elements := fun _ => none
  stale := fun _ => false
  injectionRefusal := fun _ _ => none
  viewportRefusal := fun _ _ => none
  injectionDelay := fun _ _ => 0
  geometryDelay := fun _ _ => 0
  doubleClick := false
  countsClicks := true
  clickResets := 0
  tally := ⟨0, 0, 0⟩
  journal := []
  answered := []
  cleared := 0

/-- Makes an element known, or moves one that is. -/
def addElement (host : Host) (ref : ElementRef) (centers : Centers) : Host :=
  { host with elements := fun other => if other = ref then some centers else host.elements other }

def isDoubleClick (host : Host) : Bool := host.countsClicks && host.doubleClick

def resetClick (host : Host) : Host :=
  if host.countsClicks then { host with clickResets := host.clickResets + 1 } else host

/-- The centre of an element, if it is there. -/
def center (host : Host) (ref : ElementRef) (mode : CenterMode) : Except HostError Point :=
  match host.elements ref with
  | some centers => .ok (centers.point mode)
  | none => .error (.noSuchElement ref.shown)

/-- The events that were not refused, since the record was last cleared. -/
def recorded (host : Host) : List Event :=
  (host.journal.drop host.cleared).filterMap fun injection =>
    if injection.refusal.isNone then some injection.event else none

/-- A change to the surface from outside. -/
inductive Adjustment where
  | doubleClick (value : Bool)
  | viewport (size : Viewport)
  | element (ref : ElementRef) (centers : Centers)
  | clear
  /-- Refuses the injection that comes after `skip` others. -/
  | refuseInjection (skip : Nat) (error : HostError)
  | stale (ref : ElementRef)
  /-- Refuses the next question for the viewport. -/
  | refuseViewport (error : HostError)
  | delays (injection geometry : Nat)

def adjust (host : Host) : Adjustment → Host
  | .doubleClick value => { host with doubleClick := value }
  | .viewport size => { host with viewport := size }
  | .element ref centers => host.addElement ref centers
  | .clear => { host with cleared := host.journal.length }
  | .refuseInjection skip error =>
    let number := host.tally.injections + skip
    { host with
      injectionRefusal := fun tally now =>
        if tally.injections = number then some error else host.injectionRefusal tally now }
  | .stale ref => { host with stale := fun other => other = ref || host.stale other }
  | .refuseViewport error =>
    let number := host.tally.viewports
    { host with
      viewportRefusal := fun tally now =>
        if tally.viewports = number then some error else host.viewportRefusal tally now }
  | .delays injection geometry =>
    { host with injectionDelay := fun _ _ => injection, geometryDelay := fun _ _ => geometry }

end Host

end InputActions
