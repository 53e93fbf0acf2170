import InputActions.Geometry
import InputActions.Text.Property.Blank
import InputActions.Text.Quoted

/-!
# Viewports in text

A viewport is written as its width and height with an `x` between them. Reading splits the text at
the first `x`, small or capital, and allows blanks around either number; both must be positive.
Whatever is wrong with the width is reported before anything about the height.
-/

namespace InputActions

/-- Why a text is no viewport. -/
inductive ViewportFault where
  | noSeparator (text : String)
  | width (fault : Text.Integer.Fault)
  | height (fault : Text.Integer.Fault)
  | notPositive (text : String)
  deriving DecidableEq, Repr

def ViewportFault.message : ViewportFault → String
  | .noSeparator text => "expected WIDTHxHEIGHT, got " ++ Text.quoted text
  | .width fault => "invalid width: " ++ fault.message
  | .height fault => "invalid height: " ++ fault.message
  | .notPositive text => "viewport must be positive, got " ++ Text.quoted text

namespace Viewport

def isSeparator (c : Char) : Bool := c == 'x' || c == 'X'

/-- What stands before and after the first separator. -/
def halves? (text : List Char) : Option (List Char × List Char) :=
  match text.dropWhile (!isSeparator ·) with
  | [] => none
  | _ :: height => some (text.takeWhile (!isSeparator ·), height)

/-- Reads one side of a viewport. -/
def side (text : List Char) : Except Text.Integer.Fault Int64 :=
  Text.Integer.readInt64 (Text.trim text)

/-- Reads a viewport. -/
def ofText (text : String) : Except ViewportFault Viewport :=
  match halves? text.toList with
  | none => .error (.noSeparator text)
  | some (before, after) => do
    let width ← (side before).mapError .width
    let height ← (side after).mapError .height
    if 0 < width ∧ 0 < height then .ok ⟨width, height⟩ else .error (.notPositive text)

end Viewport

end InputActions
