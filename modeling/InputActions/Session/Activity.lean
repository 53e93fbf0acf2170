import InputActions.Payload
import InputActions.Session.Progress

/-!
# What runs on a session

An activity is one request to a session, from the moment it is planned to its answer. A dispatch
runs its chain tick by tick: all actions of a tick start together, each in a `Slot` of its own, and
the next tick starts when all have settled, unless one failed. A release replays the entries it took
one after the other, and puts back those from the first failure on.

`Activity.step` runs one section of an activity that is ready. The remaining size of an activity
(`Activity.bound`) is lowered by each step of one that has begun, and beginning one lowers the
number of those that are planned; together they are why every run ends.
-/

namespace InputActions

/-- What a session, or the surface it acts on, can be asked for. -/
inductive Request where
  /-- Reads a payload and runs its chain. -/
  | dispatch (payload : Json) (mode : Option CenterMode)
  /-- Runs a chain. -/
  | perform (chain : Chain) (mode : Option CenterMode)
  /-- Replays the pending releases. -/
  | release
  /-- Forgets every source and every pending release. -/
  | reset
  /-- Reads a payload and registers its sources. -/
  | parse (payload : Json)
  /-- Lets time pass. -/
  | wait (ms : Nat)
  /-- Changes the surface. -/
  | adjust (change : Host.Adjustment)
  /-- Asks for the recorded events. -/
  | recorded

inductive Answer where
  | result (result : Except ActionError Unit)
  | chain (result : Except ActionError Chain)
  | events (recorded : List Event)

/-- The sum of a measure over a list. -/
def total {α : Type} (measure : α → Nat) (items : List α) : Nat :=
  items.foldr (fun item sum => measure item + sum) 0

@[simp] theorem total_nil {α : Type} (measure : α → Nat) : total measure [] = 0 := rfl

@[simp] theorem total_cons {α : Type} (measure : α → Nat) (item : α) (items : List α) :
    total measure (item :: items) = measure item + total measure items := rfl

@[simp] theorem total_map {α β : Type} (measure : β → Nat) (f : α → β) (items : List α) :
    total measure (items.map f) = total (measure ∘ f) items := by
  induction items with
  | nil => rfl
  | cons item items ih => simp [ih]

/-- One action of a tick: still to begin, waiting until some instant, or settled. -/
inductive Slot where
  | ready (action : Action)
  | waiting (wake : Nat) (wait : Wait)
  | settled (result : Except ActionError Unit)

/-- A request on its way to its answer. -/
inductive Activity where
  | planned (start : Nat) (request : Request)
  /-- A chain: the slots of the current tick, and the ticks after it. -/
  | ticking (context : Context) (duration : UInt64) (slots : List Slot) (rest : List Tick)
  /-- A release: the entry that is being replayed, its slot, and the entries after it. -/
  | releasing (context : Context) (entry : Action) (slot : Slot) (rest : List Action)
  | sleeping (wake : Nat)
  | finished (time : Nat) (answer : Answer)

namespace Slot

def isReady (now : Nat) : Slot → Bool
  | .ready _ => true
  | .waiting wake _ => wake ≤ now
  | .settled _ => false

def isSettled : Slot → Bool
  | .settled _ => true
  | _ => false

/-- When the slot is ready at the latest, if nothing else happens. -/
def wake? : Slot → Option Nat
  | .waiting wake _ => some wake
  | _ => none

def error? : Slot → Option ActionError
  | .settled (.error error) => some error
  | _ => none

/-- Where an action stands after a section that left the world as it is. -/
def ofOutcome (world : World) : Outcome → Slot
  | .settled result => .settled result
  | .waits ms wait => .waiting (world.wake ms) wait

/-- Runs the next section of the slot. -/
def step (slot : Slot) (context : Context) (duration : UInt64) (world : World) : World × Slot :=
  match slot with
  | .ready action =>
    let (world, outcome) := action.begin context duration world
    (world, ofOutcome world outcome)
  | .waiting _ wait =>
    let (world, outcome) := wait.resume context world
    (world, ofOutcome world outcome)
  | .settled result => (world, .settled result)

/-- How many sections the slot may still have. -/
def bound (duration : UInt64) : Slot → Nat
  | .ready action => action.bound duration + 1
  | .waiting wake wait => wait.bound wake + 1
  | .settled _ => 0

/-- Runs the next section of the first slot that is ready. -/
def stepFirst (slots : List Slot) (context : Context) (duration : UInt64) (world : World) :
    Option (World × List Slot) :=
  match slots with
  | [] => none
  | slot :: slots =>
    if slot.isReady world.now then
      let (world, next) := slot.step context duration world
      some (world, next :: slots)
    else (stepFirst slots context duration world).map fun (world, rest) => (world, slot :: rest)

end Slot

namespace Activity

def isPlanned : Activity → Bool
  | .planned .. => true
  | _ => false

def isFinished : Activity → Bool
  | .finished .. => true
  | _ => false

/-- Whether the activity can run at this instant. -/
def isReady (now : Nat) : Activity → Bool
  | .planned start _ => start ≤ now
  | .ticking _ _ slots _ => slots.any (·.isReady now) || slots.all (·.isSettled)
  | .releasing _ _ slot _ => slot.isReady now || slot.isSettled
  | .sleeping wake => wake ≤ now
  | .finished .. => false

/-- The first instant at which the activity can run, if it has to wait for one. -/
def wake? : Activity → Option Nat
  | .planned start _ => some start
  | .ticking _ _ slots _ => (slots.filterMap (·.wake?)).min?
  | .releasing _ _ slot _ => slot.wake?
  | .sleeping wake => some wake
  | .finished .. => none

/-- The first tick of a chain, with all of its actions still to begin. -/
def ofTicks (context : Context) (now : Nat) : List Tick → Activity
  | [] => .finished now (.result (.ok ()))
  | tick :: rest => .ticking context tick.duration (tick.map .ready) rest

/-- The first entry of a release, still to begin. -/
def ofEntries (context : Context) (now : Nat) : List Action → Activity
  | [] => .finished now (.result (.ok ()))
  | entry :: rest => .releasing context entry (.ready entry) rest

end Activity

namespace World

def withStore (world : World) (store : Store) : World :=
  { world with inputs := { world.inputs with store := store } }

def withPending (world : World) (pending : Pending) : World :=
  { world with inputs := { world.inputs with pending := pending } }

/-- Reads a payload and registers the sources it adds. -/
def parse (world : World) (payload : Json) : Except ActionError Chain × World :=
  match Payload.validate world.inputs.store payload with
  | .error error => (.error error, world)
  | .ok validated =>
    let (result, store) := validated.commit world.inputs.store
    match result with
    | .error fault => (.error (.invalidArgument fault), world.withStore store)
    | .ok () => (.ok validated.chain, world.withStore store)

/-- The sources that the actions of a chain need, action by action. -/
def sourcesOf (chain : Chain) : List (SourceId × SourceKind) :=
  chain.flatten.map fun action => (action.id, action.sourceKind)

/-- Registers the sources of a chain and begins its first tick. -/
def perform (world : World) (context : Context) (chain : Chain) : World × Activity :=
  let (result, store) := world.inputs.store.ensureAll (sourcesOf chain)
  let world := world.withStore store
  match result with
  | .error fault => (world, .finished world.now (.result (.error (.invalidArgument fault))))
  | .ok () => (world, .ofTicks context world.now chain)

/-- Begins a request. -/
def start (world : World) (session : Session) : Request → World × Activity
  | .dispatch payload mode =>
    let (result, world) := world.parse payload
    match result with
    | .error error => (world, .finished world.now (.result (.error error)))
    | .ok chain => world.perform ⟨session, mode.getD session.config.centerMode⟩ chain
  | .perform chain mode => world.perform ⟨session, mode.getD session.config.centerMode⟩ chain
  | .release =>
    let (entries, pending) := world.inputs.pending.take
    (world.withPending pending,
      .ofEntries ⟨session, session.config.centerMode⟩ world.now entries)
  | .reset => ({ world with inputs := .fresh }, .finished world.now (.result (.ok ())))
  | .parse payload =>
    let (result, world) := world.parse payload
    (world, .finished world.now (.chain result))
  | .wait ms => (world, .sleeping (world.wake ms))
  | .adjust change =>
    ({ world with host := world.host.adjust change }, .finished world.now (.result (.ok ())))
  | .recorded => (world, .finished world.now (.events world.host.recorded))

end World

namespace Activity

/-- What follows a tick whose actions have all settled: the next tick, or the first error in the
order of the tick. -/
def afterTick (context : Context) (slots : List Slot) (rest : List Tick) (now : Nat) : Activity :=
  match slots.findSome? (·.error?) with
  | some error => .finished now (.result (.error error))
  | none => ofTicks context now rest

/-- What follows a section of the entry that a release replays. -/
def afterEntry (context : Context) (entry : Action) (slot : Slot) (rest : List Action)
    (world : World) : World × Activity :=
  match slot with
  | .settled (.ok ()) => (world, ofEntries context world.now rest)
  | .settled (.error error) =>
    (world.withPending (world.inputs.pending.restore (entry :: rest)),
      .finished world.now (.result (.error error)))
  | slot => (world, .releasing context entry slot rest)

/-- Runs one section of an activity that is ready. -/
def step (activity : Activity) (session : Session) (world : World) : World × Activity :=
  match activity with
  | .planned _ request => world.start session request
  | .ticking context duration slots rest =>
    match Slot.stepFirst slots context duration world with
    | some (world, slots) => (world, .ticking context duration slots rest)
    | none => (world, afterTick context slots rest world.now)
  | .releasing context entry slot rest =>
    let (world, slot) := slot.step context 0 world
    afterEntry context entry slot rest world
  | .sleeping _ => (world, .finished world.now (.result (.ok ())))
  | .finished time answer => (world, .finished time answer)

def tickBound (tick : Tick) : Nat :=
  total (fun action => action.bound (Tick.duration tick) + 1) tick + 1

/-- How many sections an activity that has begun may still have. -/
def bound : Activity → Nat
  | .planned .. => 0
  | .ticking _ duration slots rest =>
    total (·.bound duration) slots + total tickBound rest + 1
  | .releasing _ _ slot rest =>
    slot.bound 0 + total (fun entry => entry.bound 0 + 2) rest + 1
  | .sleeping _ => 1
  | .finished .. => 0

end Activity

end InputActions
