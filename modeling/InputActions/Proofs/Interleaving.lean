import InputActions.Proofs.Section
import InputActions.Session.Script

/-!
# Interleavings

The activities of a session may take their sections in any order, and any time may pass between two
sections: `Schedule.Moves` is one such move, and `Schedule.Reached` what a fresh session comes to by
moves while requests join. The moves of the schedule itself are among them (`Reached.run`), so what
holds of every moment that is reached holds of every run.

`Activity.Turn` says everything that a section of an activity can do to the inputs and to the
activity (`Activity.step_turn`).
-/
namespace InputActions

/-! ### Sections of activities -/

/-- The slot that runs is the first one that is ready. -/
theorem Slot.stepFirst_eq_some {slots rest : List Slot} {context : Context} {duration : UInt64}
    {world next : World} (h : stepFirst slots context duration world = some (next, rest)) :
    ∃ before slot after, slots = before ++ slot :: after ∧
      (∀ other ∈ before, other.isReady world.now = false) ∧ slot.isReady world.now = true ∧
      next = (slot.step context duration world).1 ∧
      rest = before ++ (slot.step context duration world).2 :: after := by
  -- The induction walks past the slots that are not ready; they are `before` in the end.
  induction slots generalizing rest with
  | nil => cases h
  | cons slot slots ih =>
    unfold stepFirst at h
    split at h
    next ready =>
      cases h
      exact ⟨[], slot, slots, rfl, by simp, ready, rfl, rfl⟩
    next idle =>
      simp only [Option.map_eq_some_iff, Prod.mk.injEq, Prod.exists] at h
      obtain ⟨_, _, found, rfl, rfl⟩ := h
      obtain ⟨before, ran, after, rfl, quiet, ready, rfl, rfl⟩ := ih found
      refine ⟨slot :: before, ran, after, rfl, ?_, ready, rfl, rfl⟩
      simpa [idle] using quiet

/-- A chain that has not begun a section. -/
def Activity.IsFresh : Activity → Prop
  | .planned .. => False
  | .ticking _ _ slots _ => ∀ slot ∈ slots, ∃ action, slot = .ready action
  | .releasing .. => False
  | .sleeping _ => True
  | .finished .. => True

theorem Activity.isFresh_ofTicks (context : Context) (now : Nat) (ticks : List Tick) :
    (ofTicks context now ticks).IsFresh := by
  cases ticks with
  | nil => trivial
  | cons tick rest =>
    intro slot member
    obtain ⟨action, -, rfl⟩ := List.mem_map.mp member
    exact ⟨action, rfl⟩

/-- What a section makes of a world and of its activity. -/
inductive Activity.Turn (before : World) : Activity → World → Activity → Prop
  /-- A request begins that at most registers sources. -/
  | start {instant request after next}
      (grows : before.inputs.store.Grows after.inputs.store)
      (pending : after.inputs.pending = before.inputs.pending)
      (journal : after.host.journal = before.host.journal)
      (fresh : next.IsFresh) :
      Turn before (.planned instant request) after next
  /-- A release takes what is owed. -/
  | take {instant context} :
      Turn before (.planned instant .release) (before.withPending .empty)
        (ofEntries context before.now before.inputs.pending.entries)
  /-- Everything is forgotten. -/
  | reset {instant answer} :
      Turn before (.planned instant .reset) { before with inputs := .fresh }
        (.finished before.now answer)
  /-- An action of a tick has a section. -/
  | slot {context duration left slot right rest after next}
      (turn : Slot.Turn before slot after next) :
      Turn before (.ticking context duration (left ++ slot :: right) rest) after
        (.ticking context duration (left ++ next :: right) rest)
  /-- A tick is over. -/
  | complete {context duration slots rest next}
      (settled : ∀ slot ∈ slots, slot.isSettled = true)
      (fresh : next.IsFresh) :
      Turn before (.ticking context duration slots rest) before next
  /-- An entry is being replayed. -/
  | replay {context entry slot rest after next}
      (turn : Slot.Turn before slot after next)
      (unsettled : next.isSettled = false) :
      Turn before (.releasing context entry slot rest) after (.releasing context entry next rest)
  /-- An entry has been replayed. -/
  | replayed {context entry slot rest after}
      (turn : Slot.Turn before slot after (.settled (.ok ()))) :
      Turn before (.releasing context entry slot rest) after (ofEntries context after.now rest)
  /-- An entry could not be replayed. -/
  | interrupted {context entry slot rest after error}
      (turn : Slot.Turn before slot after (.settled (.error error))) :
      Turn before (.releasing context entry slot rest)
        (after.withPending (after.inputs.pending.restore (entry :: rest)))
        (.finished after.now (.result (.error error)))
  /-- A wait is over. -/
  | woken {instant answer} : Turn before (.sleeping instant) before (.finished before.now answer)
  | done {time answer} : Turn before (.finished time answer) before (.finished time answer)

private theorem grows_parse (world : World) (payload : Json) :
    world.inputs.store.Grows (world.parse payload).2.inputs.store ∧
      (world.parse payload).2.inputs.pending = world.inputs.pending ∧
      (world.parse payload).2.host = world.host := by
  unfold World.parse
  split
  · exact ⟨.refl _, rfl, rfl⟩
  next validated _ =>
    have grows := Store.Grows.ensureAll world.inputs.store validated.newSources
    dsimp only
    split <;> exact ⟨grows, rfl, rfl⟩

private theorem grows_perform (world : World) (context : Context) (chain : Chain) :
    world.inputs.store.Grows (world.perform context chain).1.inputs.store ∧
      (world.perform context chain).1.inputs.pending = world.inputs.pending ∧
      (world.perform context chain).1.host = world.host ∧
      (world.perform context chain).2.IsFresh := by
  have grows := Store.Grows.ensureAll world.inputs.store (World.sourcesOf chain)
  unfold World.perform
  dsimp only
  split
  · exact ⟨grows, rfl, rfl, trivial⟩
  · exact ⟨grows, rfl, rfl, Activity.isFresh_ofTicks ..⟩

private theorem start_turn (world : World) (session : Session) (instant : Nat)
    (request : Request) :
    Activity.Turn world (.planned instant request) (world.start session request).1
      (world.start session request).2 := by
  cases request with
  | dispatch payload mode =>
    obtain ⟨grows, pending, host⟩ := grows_parse world payload
    unfold World.start
    dsimp only
    split
    · exact .start grows pending (congrArg Host.journal host) trivial
    · obtain ⟨grows', pending', host', fresh⟩ := grows_perform (world.parse payload).2
        ⟨session, mode.getD session.config.centerMode⟩ _
      exact .start (grows.trans grows') (pending'.trans pending)
        (congrArg Host.journal (host'.trans host)) fresh
  | perform chain mode =>
    obtain ⟨grows, pending, host, fresh⟩ := grows_perform world
      ⟨session, mode.getD session.config.centerMode⟩ chain
    exact .start grows pending (congrArg Host.journal host) fresh
  | release => exact .take
  | reset => exact .reset
  | parse payload =>
    obtain ⟨grows, pending, host⟩ := grows_parse world payload
    exact .start grows pending (congrArg Host.journal host) trivial
  | wait ms => exact .start (.refl _) rfl rfl trivial
  | adjust change => exact .start (.refl _) rfl (by cases change <;> rfl) trivial
  | recorded => exact .start (.refl _) rfl rfl trivial

/-- Every section of an activity that is ready is a turn. -/
theorem Activity.step_turn {activity : Activity} (session : Session) {world : World}
    (ready : activity.isReady world.now = true) :
    activity.Turn world (activity.step session world).1 (activity.step session world).2 := by
  cases activity with
  | planned instant request => exact start_turn world session instant request
  | sleeping instant => exact .woken
  | finished time answer => exact .done
  | ticking context duration slots rest =>
    unfold step
    dsimp only
    split
    next ran =>
      obtain ⟨left, slot, right, rfl, -, -, rfl, rfl⟩ := Slot.stepFirst_eq_some ran
      exact .slot (slot.step_turn context duration world)
    next none =>
      -- The activity is ready although no slot is, so all of them have settled.
      have idle := Slot.stepFirst_eq_none none
      simp only [isReady, idle, Bool.false_or, List.all_eq_true] at ready
      refine .complete ready ?_
      unfold afterTick
      split
      · trivial
      · exact isFresh_ofTicks ..
  | releasing context entry slot rest =>
    have turn := slot.step_turn context 0 world
    unfold step
    dsimp only
    generalize (slot.step context 0 world).1 = after at turn ⊢
    generalize (slot.step context 0 world).2 = next at turn ⊢
    unfold afterEntry
    split
    · exact .replayed turn
    · exact .interrupted turn
    next unfinished failed =>
      -- Neither way to settle applies, so the slot waits on.
      refine .replay turn ?_
      cases next with
      | settled result =>
        cases result with
        | ok value => exact absurd rfl unfinished
        | error error => exact absurd rfl (failed error)
      | _ => rfl

/-- A chain whose sources are registered begins with its first tick. -/
theorem World.start_perform {world : World} {chain : Chain} {store : Store}
    (registers : world.inputs.store.ensureAll (sourcesOf chain) = (.ok (), store))
    (session : Session) (mode : Option CenterMode) :
    world.start session (.perform chain mode) = (world.withStore store,
      .ofTicks ⟨session, mode.getD session.config.centerMode⟩ world.now chain) := by
  simp only [start, perform, registers, withStore]

/-- Whatever runs has begun. -/
theorem Activity.isPlanned_step {activity : Activity} (session : Session) {world : World}
    (ready : activity.isReady world.now = true) :
    (activity.step session world).2.isPlanned = false := by
  cases begun : activity.isPlanned with
  | false => exact (step_bound session begun ready).1
  | true =>
    cases activity with
    | planned start request => exact World.isPlanned_start ..
    | _ => cases begun

/-! ### Moves -/

namespace Schedule

/-- One move: a section of some activity that is ready, or the passing of time. -/
inductive Moves : Schedule → Schedule → Prop
  | advance {session world left activity right} (ready : activity.isReady world.now = true) :
      Moves ⟨session, world, left ++ activity :: right⟩
        ⟨session, (activity.step session world).1,
          left ++ (activity.step session world).2 :: right⟩
  | elapse {session world activities now} (later : world.now ≤ now) :
      Moves ⟨session, world, activities⟩ ⟨session, { world with now := now }, activities⟩

theorem getElem?_place {α : Type} {left right : List α} {item : α} :
    (left ++ item :: right)[left.length]? = some item := by
  rw [List.getElem?_append_right (Nat.le_refl _), Nat.sub_self]
  rfl

/-- What takes the place of one item leaves the others in theirs. -/
theorem getElem?_replaced {α : Type} {left : List α} {i : Nat} (apart : left.length ≠ i)
    (item next : α) (right : List α) :
    (left ++ next :: right)[i]? = (left ++ item :: right)[i]? := by
  have replaced : left ++ next :: right = (left ++ item :: right).set left.length next := by
    simp
  rw [replaced]
  exact List.getElem?_set_ne apart

/-- The schedule with one more request that is planned for an instant. -/
def join (schedule : Schedule) (start : Nat) (request : Request) : Schedule :=
  { schedule with activities := schedule.activities ++ [.planned start request] }

/-- The moments of a fresh session on some surface. A request may join where `joins` allows it, and
a move may be made where `moves` allows it. -/
inductive Reached (session : Session) (joins : Schedule → Request → Prop)
    (moves : Schedule → Schedule → Prop) : Schedule → Prop
  | fresh (host : Host) : Reached session joins moves ⟨session, .initial host, []⟩
  | join {schedule} (start : Nat) (request : Request) :
      Reached session joins moves schedule → joins schedule request →
      Reached session joins moves (schedule.join start request)
  | move {schedule next} :
      Reached session joins moves schedule → schedule.Moves next → moves schedule next →
      Reached session joins moves next

theorem stepFirst_eq_some {session : Session} {world next : World}
    {activities rest : List Activity}
    (h : stepFirst session world activities = some (next, rest)) :
    ∃ left activity right, activities = left ++ activity :: right ∧
      activity.isReady world.now = true ∧ next = (activity.step session world).1 ∧
      rest = left ++ (activity.step session world).2 :: right := by
  induction activities generalizing rest with
  | nil => cases h
  | cons activity activities ih =>
    unfold stepFirst at h
    split at h
    next ready =>
      cases h
      exact ⟨[], activity, activities, rfl, ready, rfl, rfl⟩
    next idle =>
      simp only [Option.map_eq_some_iff, Prod.mk.injEq, Prod.exists] at h
      obtain ⟨_, _, found, rfl, rfl⟩ := h
      obtain ⟨left, ran, right, rfl, ready, rfl, rfl⟩ := ih found
      exact ⟨activity :: left, ran, right, rfl, ready, rfl, rfl⟩

/-- A step of the schedule is a move, unless nothing is left to do. -/
theorem step_moves (schedule : Schedule) :
    schedule.step = schedule ∨ schedule.Moves schedule.step := by
  unfold step
  split
  next ran =>
    obtain ⟨session, world, activities⟩ := schedule
    obtain ⟨left, activity, right, rfl, ready, rfl, rfl⟩ := stepFirst_eq_some ran
    exact Or.inr (.advance ready)
  · split
    · exact Or.inr (.elapse (Nat.le_max_left _ _))
    · exact Or.inl rfl

theorem run_of_finished {schedule : Schedule} (h : schedule.isFinished = true) :
    schedule.run = schedule := by
  rw [run, dif_pos h]

theorem run_of_live {schedule : Schedule} (h : schedule.isFinished = false) :
    schedule.run = schedule.step.run := by
  rw [run, dif_neg (by rw [h]; exact Bool.false_ne_true)]

/-- What every move keeps, a run keeps. -/
theorem run_invariant {property : Schedule → Prop}
    (kept : ∀ {s next}, property s → s.Moves next → property next) {schedule : Schedule}
    (h : property schedule) : property schedule.run := by
  fun_induction run schedule with
  | case1 schedule _ => exact h
  | case2 schedule _ ih =>
    apply ih
    rcases step_moves schedule with same | moved
    · rwa [same]
    · exact kept h moved

/-! ### Requests one after the other -/

/-- The schedule behind some activities. -/
def behind (done : List Activity) (schedule : Schedule) : Schedule :=
  { schedule with activities := done ++ schedule.activities }

section
variable {done : List Activity} (finished : done.all (·.isFinished) = true)
include finished

theorem isFinished_behind (schedule : Schedule) :
    (schedule.behind done).isFinished = schedule.isFinished := by
  rw [isFinished, behind, List.all_append, finished, Bool.true_and, isFinished]

private theorem stepFirst_behind (session : Session) (world : World) (activities : List Activity) :
    stepFirst session world (done ++ activities) =
      (stepFirst session world activities).map fun (world, rest) => (world, done ++ rest) := by
  induction done with
  | nil => exact Option.map_id'.symm
  | cons activity done ih =>
    rw [List.all_cons, Bool.and_eq_true] at finished
    obtain ⟨first, others⟩ := finished
    -- What is finished is never ready, so the search goes on behind it.
    have idle : activity.isReady world.now = false := by
      cases activity <;> first | rfl | cases first
    rw [List.cons_append, stepFirst, if_neg (by simp [idle]), ih others, Option.map_map]
    rfl

theorem step_behind (schedule : Schedule) :
    (schedule.behind done).step = schedule.step.behind done := by
  have silent : done.filterMap (·.wake?) = [] := by
    refine List.filterMap_eq_nil_iff.mpr fun activity member => ?_
    have ended := List.all_eq_true.mp finished activity member
    cases activity <;> first | rfl | cases ended
  have instant : nextInstant? (done ++ schedule.activities) = nextInstant? schedule.activities := by
    rw [nextInstant?, List.filterMap_append, silent, List.nil_append, nextInstant?]
  unfold step behind
  dsimp only
  rw [stepFirst_behind finished, instant]
  cases stepFirst schedule.session schedule.world schedule.activities with
  | some ran => rfl
  | none => cases nextInstant? schedule.activities <;> rfl

/-- What is finished stays as it is. -/
theorem step_of_finished {session : Session} {world : World} :
    (Schedule.mk session world done).step = ⟨session, world, done⟩ := by
  have alone := step_behind finished ⟨session, world, []⟩
  rw [behind, List.append_nil] at alone
  rw [alone]
  exact congrArg (Schedule.mk session world) (List.append_nil done)

/-- Activities that are finished have no part in a run. -/
theorem run_behind (schedule : Schedule) :
    (schedule.behind done).run = schedule.run.behind done := by
  -- Every step of the run is a step behind what is finished.
  fun_induction run schedule with
  | case1 schedule ended =>
    rw [run_of_finished ((isFinished_behind finished schedule).trans ended)]
  | case2 schedule live ih =>
    have live : (schedule.behind done).isFinished = false := by
      rw [isFinished_behind finished]
      simpa using live
    rw [run_of_live live, step_behind finished, ih]

end

/-- A number of steps that leads to the end leads to the end of the run. -/
theorem run_eq_steps {schedule : Schedule} {n : Nat}
    (ended : (schedule.steps n).isFinished = true) : schedule.run = schedule.steps n := by
  induction n generalizing schedule with
  | zero => exact run_of_finished ended
  | succ n ih =>
    rw [steps, ← ih ended]
    cases finished : schedule.isFinished with
    | false => exact run_of_live finished
    | true => rw [step_of_finished finished]

namespace Reached

variable {session : Session} {joins : Schedule → Request → Prop}
  {moves : Schedule → Schedule → Prop} {s : Schedule}

theorem session_eq (h : Reached session joins moves s) : s.session = session := by
  induction h with
  | fresh => rfl
  | join _ _ _ _ ih => exact ih
  | move _ moved _ ih => cases moved <;> exact ih

/-- A run stays among the moments that are reached. -/
theorem run (h : Reached session joins moves s) (free : ∀ s next, moves s next) :
    Reached session joins moves s.run :=
  run_invariant (fun reached moved => .move reached moved (free _ _)) h

theorem steps (h : Reached session joins moves s) (free : ∀ s next, moves s next) (n : Nat) :
    Reached session joins moves (s.steps n) := by
  induction n generalizing s with
  | zero => exact h
  | succ n ih =>
    apply ih
    rcases step_moves s with same | moved
    · rwa [same]
    · exact h.move moved (free _ _)

/-- When all activities are finished, asking for one more thing leads to the next such moment. -/
theorem ask (h : Reached session joins moves s) (finished : s.isFinished = true)
    (free : ∀ s next, moves s next) {request : Request} (allowed : joins s request) :
    ∃ next, Reached session joins moves next ∧ next.isFinished = true ∧
      next.world = (s.world.ask session request).1 := by
  refine ⟨(s.join s.world.now request).run, (h.join _ request allowed).run free, run_finished _, ?_⟩
  -- What is finished has no part in the run, so the request is as good as alone.
  have split : s.join s.world.now request =
      behind s.activities ⟨session, s.world, [.planned s.world.now request]⟩ := by
    rw [behind, ← h.session_eq]
    rfl
  rw [split, run_behind finished]
  unfold World.ask Step.perform
  dsimp only [behind, Step.plan]
  split <;> simp_all

end Reached

end Schedule

/-- A chain whose sources are registered runs its ticks. -/
theorem World.run_perform {world : World} {chain : Chain} {store : Store}
    (registers : world.inputs.store.ensureAll (sourcesOf chain) = (.ok (), store))
    (session : Session) (mode : Option CenterMode) :
    Schedule.run ⟨session, world, [.planned world.now (.perform chain mode)]⟩ =
      Schedule.run ⟨session, world.withStore store,
        [.ofTicks ⟨session, mode.getD session.config.centerMode⟩ world.now chain]⟩ := by
  have ready : (Activity.planned world.now (.perform chain mode)).isReady world.now = true :=
    decide_eq_true (Nat.le_refl _)
  rw [Schedule.run_of_live rfl, Schedule.step, Schedule.stepFirst, if_pos ready, Activity.step,
    start_perform registers]

/-- A request on its own leads to the world and the answer at the end of its run. -/
theorem World.ask_of_run {world : World} {session : Session} {request : Request} {time : Nat}
    {answer : Answer}
    (h : (Schedule.run ⟨session, world, [.planned world.now request]⟩).activities =
      [.finished time answer]) :
    world.ask session request =
      ((Schedule.run ⟨session, world, [.planned world.now request]⟩).world, answer) := by
  rw [ask, Step.perform, Step.plan, h]
  rfl

end InputActions
