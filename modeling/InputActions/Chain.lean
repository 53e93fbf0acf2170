import InputActions.Action

/-!
# Action chains

The actions of several sources run in step. Tick `i` of a chain holds the `i`-th action of every
sequence that has one, in the order of the sequences. `Chain.ofSequences` lays the sequences side
by side one after the other: `layOver` adds the actions of a sequence at the ends of the ticks,
and actions beyond the last tick open new ones. So no tick is empty, and the order inside a tick is
that of the sequences.
-/

namespace InputActions

/-- The actions of one source, in order. -/
structure Sequence where
  id : SourceId
  kind : SourceKind
  actions : List Action
  deriving DecidableEq

/-- Actions that run together. -/
abbrev Tick := List Action

/-- Ticks that run one after another. -/
abbrev Chain := List Tick

namespace Tick

/-- The longest time that an action of the tick asks for, or none at all. -/
def duration (tick : Tick) : UInt64 :=
  (tick.filterMap Action.duration?).foldl max 0

end Tick

namespace Chain

/-- Adds the actions of one more sequence, the `i`-th at the end of tick `i`. -/
def layOver : Chain → List Action → Chain
  | ticks, [] => ticks
  | [], action :: actions => [action] :: layOver [] actions
  | tick :: ticks, action :: actions => (tick ++ [action]) :: layOver ticks actions

/-- The ticks of sequences that start together. -/
def ofSequences (sequences : List Sequence) : Chain :=
  sequences.foldl (fun ticks sequence => layOver ticks sequence.actions) []

end Chain

end InputActions
