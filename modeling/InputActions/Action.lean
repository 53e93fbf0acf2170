import InputActions.Failure

/-!
# Actions

An action is one step of one input source. What it does is a `Gesture`; `Subtype` is the name of a
gesture without its fields, which decides the sources that may make it. A typed action may pair any
source with any gesture: whether the two agree is for the reader of action sequences to decide.

A press has an inverse, the release of the same key or button by the same source, and nothing else
has one, so an inverse has none (`Action.inverse?_inverse?`).
-/

namespace InputActions

inductive Subtype where
  | pause
  | keyDown
  | keyUp
  | pointerDown
  | pointerUp
  | pointerMove
  | pointerCancel
  deriving DecidableEq, Repr

namespace Subtype

def name : Subtype → String
  | .pause => "pause"
  | .keyDown => "keyDown"
  | .keyUp => "keyUp"
  | .pointerDown => "pointerDown"
  | .pointerUp => "pointerUp"
  | .pointerMove => "pointerMove"
  | .pointerCancel => "pointerCancel"

def ofName? : String → Option Subtype
  | "pause" => some .pause
  | "keyDown" => some .keyDown
  | "keyUp" => some .keyUp
  | "pointerDown" => some .pointerDown
  | "pointerUp" => some .pointerUp
  | "pointerMove" => some .pointerMove
  | "pointerCancel" => some .pointerCancel
  | _ => none

theorem ofName?_name (subtype : Subtype) : ofName? subtype.name = some subtype := by
  cases subtype <;> rfl

/-- Every source may pause; keys belong to key sources and the rest to pointers. -/
def allowedFor (subtype : Subtype) : SourceType → Bool
  | .none => subtype = .pause
  | .key => subtype = .pause || subtype = .keyDown || subtype = .keyUp
  | .pointer => subtype ≠ .keyDown && subtype ≠ .keyUp

end Subtype

/-- What the offset of a pointer move is measured from. -/
inductive Origin where
  | viewport
  | pointer
  | element (ref : ElementRef)
  deriving DecidableEq, Repr

/-- What a source does. Durations are milliseconds. -/
inductive Gesture where
  | pause (duration : Option UInt64)
  | keyDown (value : String)
  | keyUp (value : String)
  | pointerDown (button : UInt32)
  | pointerUp (button : UInt32)
  | pointerMove (duration : Option UInt64) (origin : Origin) (dx dy : Int64)
  | pointerCancel
  deriving DecidableEq, Repr

def Gesture.subtype : Gesture → Subtype
  | .pause _ => .pause
  | .keyDown _ => .keyDown
  | .keyUp _ => .keyUp
  | .pointerDown _ => .pointerDown
  | .pointerUp _ => .pointerUp
  | .pointerMove .. => .pointerMove
  | .pointerCancel => .pointerCancel

/-- One step of one input source. -/
structure Action where
  id : SourceId
  type : SourceType
  pointerKind : Option PointerKind
  gesture : Gesture
  deriving DecidableEq, Repr

namespace Action

def subtype (action : Action) : Subtype := action.gesture.subtype

/-- The kind of source that the action needs; a pointer of no stated kind is a mouse. -/
def sourceKind (action : Action) : SourceKind :=
  match action.type with
  | .none => .none
  | .key => .key
  | .pointer => .pointer (action.pointerKind.getD .mouse)

/-- The time an action asks for itself: that of a pause, or of a move by a pointer. -/
def duration? (action : Action) : Option UInt64 :=
  match action.gesture with
  | .pause duration => duration
  | .pointerMove duration .. => if action.type = .pointer then duration else none
  | _ => none

/-- The release that undoes a press. -/
def inverse? (action : Action) : Option Action :=
  match action.gesture with
  | .keyDown value => some { action with gesture := .keyUp value }
  | .pointerDown button => some { action with gesture := .pointerUp button }
  | _ => none

theorem inverse?_inverse? {action inverse : Action} (h : action.inverse? = some inverse) :
    inverse.inverse? = none := by
  unfold inverse? at h
  split at h <;> simp_all
  all_goals subst h; rfl

def text (action : Action) : String :=
  "[" ++ action.type.name ++ " " ++ action.subtype.name ++ " " ++ action.id.text ++ "]"

end Action

end InputActions
