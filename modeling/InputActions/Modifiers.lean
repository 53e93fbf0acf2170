import InputActions.Key.Basic

/-!
# Modifier flags

One flag for each modifier key, of one key source or of all of them together. `Modifiers.union` is
commutative, associative and idempotent, so the flags of several sources do not depend on the order
in which they are joined.
-/

namespace InputActions

structure Modifiers where
  alt : Bool
  shift : Bool
  ctrl : Bool
  metaKey : Bool
  deriving DecidableEq, Repr

namespace Modifiers

def none : Modifiers := ⟨false, false, false, false⟩

def get (m : Modifiers) : Modifier → Bool
  | .alt => m.alt
  | .shift => m.shift
  | .ctrl => m.ctrl
  | .metaKey => m.metaKey

def set (m : Modifiers) (modifier : Modifier) (value : Bool) : Modifiers :=
  match modifier with
  | .alt => { m with alt := value }
  | .shift => { m with shift := value }
  | .ctrl => { m with ctrl := value }
  | .metaKey => { m with metaKey := value }

/-- The flags that are set on either side. -/
def union (m n : Modifiers) : Modifiers :=
  ⟨m.alt || n.alt, m.shift || n.shift, m.ctrl || n.ctrl, m.metaKey || n.metaKey⟩

@[simp] theorem get_none (modifier : Modifier) : none.get modifier = false := by
  cases modifier <;> rfl

theorem get_set (m : Modifiers) (modifier other : Modifier) (value : Bool) :
    (m.set modifier value).get other = if other = modifier then value else m.get other := by
  cases modifier <;> cases other <;> rfl

theorem get_union (m n : Modifiers) (modifier : Modifier) :
    (m.union n).get modifier = (m.get modifier || n.get modifier) := by
  cases modifier <;> rfl

theorem ext_get {m n : Modifiers} (h : ∀ modifier, m.get modifier = n.get modifier) : m = n := by
  obtain ⟨alt, shift, ctrl, metaKey⟩ := m
  have halt := h .alt
  have hshift := h .shift
  have hctrl := h .ctrl
  have hmeta := h .metaKey
  simp only [get] at halt hshift hctrl hmeta
  simp only [halt, hshift, hctrl, hmeta]

end Modifiers

end InputActions
