import InputActions.Text.Property.Extend
import InputActions.Text.Property.Invisible

/-!
# Quoted text for messages

A text that a message quotes stands between double quotes, and a reader can tell every character
of it. The quote and the backslash are escaped, line breaks, tabs and the null character have
short names, and a character that shows no glyph of its own, or that would merge with the one
before it, is spelled by its code point. An apostrophe needs no escape.
-/

namespace InputActions.Text

/-- A character that cannot be shown as itself. -/
def isHidden (c : Char) : Bool :=
  if 0x20 ≤ c.toNat && c.toNat < 0x7F then false
  else Property.graphemeExtend.holds c || Property.separatorOrFormat.holds c ||
    Property.unassigned.holds c

/-- The lower-case hexadecimal digits of a number. -/
def hexText (n : Nat) : List Char := Nat.toDigits 16 n

/-- How one character is written inside the quotes. -/
def quotedChar (c : Char) : List Char :=
  if c = '"' then ['\\', '"']
  else if c = '\\' then ['\\', '\\']
  else if c = '\n' then ['\\', 'n']
  else if c = '\r' then ['\\', 'r']
  else if c = '\t' then ['\\', 't']
  else if c.toNat = 0 then ['\\', '0']
  else if isHidden c then ['\\', 'u', '\x7b'] ++ hexText c.toNat ++ ['\x7d']
  else [c]

/-- The text between double quotes, with escapes. -/
def quoted (text : String) : String :=
  String.ofList ('"' :: (text.toList.flatMap quotedChar ++ ['"']))

end InputActions.Text
