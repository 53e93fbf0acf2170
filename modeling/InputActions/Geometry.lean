import InputActions.Numeric.Word
import InputActions.Text.Integer

/-!
# Points and viewports

Coordinates are signed numbers of 64 bits. Moving a point may leave them, in which case there is no
moved point; `Coordinate.sum?_eq_none_iff` says that this is the only reason. A viewport contains
its edges, all four of them.
-/

namespace InputActions

/-- A position in viewport coordinates. -/
structure Point where
  x : Int64
  y : Int64
  deriving DecidableEq, Repr

/-- Inner width and height of the surface that receives input. -/
structure Viewport where
  width : Int64
  height : Int64
  deriving DecidableEq, Repr

/-- The sum of two coordinates, if it is a coordinate. -/
def Coordinate.sum? (a b : Int64) : Option Int64 := Word.signed? (a.toInt + b.toInt)

theorem Coordinate.toInt_of_sum? {a b c : Int64} (h : Coordinate.sum? a b = some c) :
    c.toInt = a.toInt + b.toInt :=
  Word.toInt_of_signed? h

theorem Coordinate.sum?_eq_none_iff (a b : Int64) :
    Coordinate.sum? a b = none ↔
      a.toInt + b.toInt < Int64.minValue.toInt ∨ Int64.maxValue.toInt < a.toInt + b.toInt :=
  Word.signed?_eq_none_iff _

namespace Point

def origin : Point := ⟨0, 0⟩

/-- The point moved by an offset, unless a coordinate overflows. -/
def offset? (p : Point) (dx dy : Int64) : Option Point := do
  return ⟨← Coordinate.sum? p.x dx, ← Coordinate.sum? p.y dy⟩

def text (p : Point) : String :=
  "(" ++ Text.Integer.intText p.x.toInt ++ ", " ++ Text.Integer.intText p.y.toInt ++ ")"

end Point

namespace Viewport

def standard : Viewport := ⟨1280, 720⟩

/-- Scroll bars belong to the viewport, so every edge is inside. -/
def contains (v : Viewport) (p : Point) : Bool :=
  0 ≤ p.x && 0 ≤ p.y && p.x ≤ v.width && p.y ≤ v.height

theorem contains_iff (v : Viewport) (p : Point) :
    v.contains p = true ↔
      (0 ≤ p.x ∧ p.x ≤ v.width) ∧ (0 ≤ p.y ∧ p.y ≤ v.height) := by
  simp only [contains, Bool.and_eq_true, decide_eq_true_eq]
  constructor
  · rintro ⟨⟨⟨hx, hy⟩, hw⟩, hh⟩
    exact ⟨⟨hx, hw⟩, hy, hh⟩
  · rintro ⟨⟨hx, hw⟩, hy, hh⟩
    exact ⟨⟨⟨hx, hy⟩, hw⟩, hh⟩

def text (v : Viewport) : String :=
  Text.Integer.intText v.width.toInt ++ "x" ++ Text.Integer.intText v.height.toInt

end Viewport

end InputActions
