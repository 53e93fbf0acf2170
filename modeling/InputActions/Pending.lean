import InputActions.Action

/-!
# Pending releases

Every press leaves its inverse in a list, oldest first. A release takes the whole list and replays
it; what it could not replay it puts back ahead of whatever was added in the meantime. Replaying an
entry whose key or button is no longer held does nothing, so an entry too many is harmless.
-/

namespace InputActions

/-- The releases that are owed, oldest first. -/
structure Pending where
  entries : List Action
  deriving DecidableEq

namespace Pending

def empty : Pending := ⟨[]⟩

def push (pending : Pending) (inverse : Action) : Pending := ⟨pending.entries ++ [inverse]⟩

/-- All entries, and what is left when they are taken. -/
def take (pending : Pending) : List Action × Pending := (pending.entries, empty)

/-- Puts back entries that were taken and not replayed. -/
def restore (pending : Pending) (unreplayed : List Action) : Pending :=
  ⟨unreplayed ++ pending.entries⟩

/-- Owes the inverse of an action, if it has one. -/
def record (pending : Pending) (action : Action) : Pending :=
  match action.inverse? with
  | some inverse => pending.push inverse
  | none => pending

end Pending

end InputActions
