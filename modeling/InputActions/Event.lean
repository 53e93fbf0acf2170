import InputActions.Source

/-!
# Events

What the surface receives: keyboard events with the data of a key, and mouse events at a position.
Both carry modifier flags.
-/

namespace InputActions

inductive KeyEventKind where
  | keydown
  | keypress
  | keyup
  deriving DecidableEq, Repr

def KeyEventKind.name : KeyEventKind → String
  | .keydown => "keydown"
  | .keypress => "keypress"
  | .keyup => "keyup"

def KeyEventKind.all : List KeyEventKind := [.keydown, .keypress, .keyup]

inductive MouseEventKind where
  | mousedown
  | mouseup
  | mousemove
  | contextmenu
  deriving DecidableEq, Repr

def MouseEventKind.name : MouseEventKind → String
  | .mousedown => "mousedown"
  | .mouseup => "mouseup"
  | .mousemove => "mousemove"
  | .contextmenu => "contextmenu"

def MouseEventKind.all : List MouseEventKind := [.mousedown, .mouseup, .mousemove, .contextmenu]

/-- A keyboard event. `held` says that the key was down already. -/
structure KeyEvent where
  kind : KeyEventKind
  key : String
  code : String
  location : Key.Location
  held : Bool
  modifiers : Modifiers
  deriving DecidableEq, Repr

/-- The event of a key that was not held before. -/
def KeyEvent.of (kind : KeyEventKind) (data : Key.Data) (modifiers : Modifiers) : KeyEvent :=
  ⟨kind, data.key, data.code, data.location, false, modifiers⟩

/-- A mouse event. `buttons` has a bit for each button that is down. -/
structure MouseEvent where
  kind : MouseEventKind
  position : Point
  button : UInt32
  buttons : Nat
  clickCount : Nat
  modifiers : Modifiers
  deriving DecidableEq, Repr

inductive Event where
  | key (event : KeyEvent)
  | mouse (event : MouseEvent)
  deriving DecidableEq, Repr

end InputActions
