/-!
# Keyboard layout

Two tables describe the keyboard. `specialKeys` gives the private-use characters that stand for
keys without a character of their own: the name of the key, the physical key and the side of the
keyboard it sits on. `printableKeys` gives the characters of a US keyboard that are neither letters
nor the space: the plain and the shifted character of each physical key.

A character stands at most once in either table, on one side of one row, so looking up the first
match finds the only one.
-/

namespace InputActions.Key

/-- Where on the keyboard a key sits, when two keys have the same name. -/
inductive Location where
  | standard
  | left
  | right
  | numpad
  deriving DecidableEq, Repr

/-- The number by which events name a location. -/
def Location.number : Location → Nat
  | .standard => 0
  | .left => 1
  | .right => 2
  | .numpad => 3

/-- A key named by a private-use character. -/
structure Special where
  character : Char
  name : String
  code : String
  location : Location

/-- A physical key with a plain and a shifted character. -/
structure Printable where
  plain : Char
  shifted : Char
  code : String

def specialKeys : List Special :=
  [⟨'\ue000', "Unidentified", "", .standard⟩,
   ⟨'\ue001', "Cancel", "", .standard⟩,
   ⟨'\ue002', "Help", "Help", .standard⟩,
   ⟨'\ue003', "Backspace", "Backspace", .standard⟩,
   ⟨'\ue004', "Tab", "Tab", .standard⟩,
   ⟨'\ue005', "Clear", "", .standard⟩,
   ⟨'\ue006', "Enter", "Enter", .standard⟩,
   ⟨'\ue007', "Enter", "NumpadEnter", .numpad⟩,
   ⟨'\ue008', "Shift", "ShiftLeft", .left⟩,
   ⟨'\ue009', "Control", "ControlLeft", .left⟩,
   ⟨'\ue00a', "Alt", "AltLeft", .left⟩,
   ⟨'\ue00b', "Pause", "Pause", .standard⟩,
   ⟨'\ue00c', "Escape", "Escape", .standard⟩,
   ⟨'\ue00d', " ", "Space", .standard⟩,
   ⟨'\ue00e', "PageUp", "PageUp", .standard⟩,
   ⟨'\ue00f', "PageDown", "PageDown", .standard⟩,
   ⟨'\ue010', "End", "End", .standard⟩,
   ⟨'\ue011', "Home", "Home", .standard⟩,
   ⟨'\ue012', "ArrowLeft", "ArrowLeft", .standard⟩,
   ⟨'\ue013', "ArrowUp", "ArrowUp", .standard⟩,
   ⟨'\ue014', "ArrowRight", "ArrowRight", .standard⟩,
   ⟨'\ue015', "ArrowDown", "ArrowDown", .standard⟩,
   ⟨'\ue016', "Insert", "Insert", .standard⟩,
   ⟨'\ue017', "Delete", "Delete", .standard⟩,
   ⟨'\ue018', ";", "Semicolon", .standard⟩,
   ⟨'\ue019', "=", "Equal", .standard⟩,
   ⟨'\ue01a', "0", "Numpad0", .numpad⟩,
   ⟨'\ue01b', "1", "Numpad1", .numpad⟩,
   ⟨'\ue01c', "2", "Numpad2", .numpad⟩,
   ⟨'\ue01d', "3", "Numpad3", .numpad⟩,
   ⟨'\ue01e', "4", "Numpad4", .numpad⟩,
   ⟨'\ue01f', "5", "Numpad5", .numpad⟩,
   ⟨'\ue020', "6", "Numpad6", .numpad⟩,
   ⟨'\ue021', "7", "Numpad7", .numpad⟩,
   ⟨'\ue022', "8", "Numpad8", .numpad⟩,
   ⟨'\ue023', "9", "Numpad9", .numpad⟩,
   ⟨'\ue024', "*", "NumpadMultiply", .numpad⟩,
   ⟨'\ue025', "+", "NumpadAdd", .numpad⟩,
   ⟨'\ue026', ",", "NumpadComma", .numpad⟩,
   ⟨'\ue027', "-", "NumpadSubtract", .numpad⟩,
   ⟨'\ue028', ".", "NumpadDecimal", .numpad⟩,
   ⟨'\ue029', "/", "NumpadDivide", .numpad⟩,
   ⟨'\ue031', "F1", "F1", .standard⟩,
   ⟨'\ue032', "F2", "F2", .standard⟩,
   ⟨'\ue033', "F3", "F3", .standard⟩,
   ⟨'\ue034', "F4", "F4", .standard⟩,
   ⟨'\ue035', "F5", "F5", .standard⟩,
   ⟨'\ue036', "F6", "F6", .standard⟩,
   ⟨'\ue037', "F7", "F7", .standard⟩,
   ⟨'\ue038', "F8", "F8", .standard⟩,
   ⟨'\ue039', "F9", "F9", .standard⟩,
   ⟨'\ue03a', "F10", "F10", .standard⟩,
   ⟨'\ue03b', "F11", "F11", .standard⟩,
   ⟨'\ue03c', "F12", "F12", .standard⟩,
   ⟨'\ue03d', "Meta", "MetaLeft", .left⟩,
   ⟨'\ue040', "ZenkakuHankaku", "Lang1", .standard⟩,
   ⟨'\ue050', "Shift", "ShiftRight", .right⟩,
   ⟨'\ue051', "Control", "ControlRight", .right⟩,
   ⟨'\ue052', "Alt", "AltRight", .right⟩,
   ⟨'\ue053', "Meta", "MetaRight", .right⟩,
   ⟨'\ue054', "PageUp", "Numpad9", .numpad⟩,
   ⟨'\ue055', "PageDown", "Numpad3", .numpad⟩,
   ⟨'\ue056', "End", "Numpad1", .numpad⟩,
   ⟨'\ue057', "Home", "Numpad7", .numpad⟩,
   ⟨'\ue058', "ArrowLeft", "Numpad4", .numpad⟩,
   ⟨'\ue059', "ArrowUp", "Numpad8", .numpad⟩,
   ⟨'\ue05a', "ArrowRight", "Numpad6", .numpad⟩,
   ⟨'\ue05b', "ArrowDown", "Numpad2", .numpad⟩,
   ⟨'\ue05c', "Insert", "Numpad0", .numpad⟩,
   ⟨'\ue05d', "Delete", "NumpadDecimal", .numpad⟩]

def printableKeys : List Printable :=
  [⟨'\x60', '~', "Backquote"⟩,
   ⟨'1', '!', "Digit1"⟩,
   ⟨'2', '@', "Digit2"⟩,
   ⟨'3', '#', "Digit3"⟩,
   ⟨'4', '$', "Digit4"⟩,
   ⟨'5', '%', "Digit5"⟩,
   ⟨'6', '^', "Digit6"⟩,
   ⟨'7', '&', "Digit7"⟩,
   ⟨'8', '*', "Digit8"⟩,
   ⟨'9', '(', "Digit9"⟩,
   ⟨'0', ')', "Digit0"⟩,
   ⟨'-', '_', "Minus"⟩,
   ⟨'=', '+', "Equal"⟩,
   ⟨'[', '\x7b', "BracketLeft"⟩,
   ⟨']', '\x7d', "BracketRight"⟩,
   ⟨'\\', '|', "Backslash"⟩,
   ⟨';', ':', "Semicolon"⟩,
   ⟨'\'', '"', "Quote"⟩,
   ⟨',', '<', "Comma"⟩,
   ⟨'.', '>', "Period"⟩,
   ⟨'/', '?', "Slash"⟩]

end InputActions.Key
