import InputActions.Proofs.Interleaving

/-!
# Ticks one after the other

A chain that is performed, whatever else runs with it, leaves a log of the sections of its actions.
The log is all that the chain does to the world. `Schedule.ticks_in_order` says that every section
comes after all actions of all earlier ticks have succeeded, and what the answer is: ok when all
ticks have succeeded, and otherwise the first error, in the order of the tick, of a tick whose
actions have all settled and after which nothing of the chain ran.
-/
namespace InputActions

/-- A section of the action at a place of a tick. -/
structure Section where
  tick : Nat
  place : Nat
  before : World
  slot : Slot
  after : World
  next : Slot

/-- Where the action at a place of a tick stands after the sections of a log, latest first. -/
def stand (ticks : Chain) (log : List Section) (tick place : Nat) : Option Slot :=
  match log.find? fun ran => ran.tick = tick && ran.place = place with
  | some ran => some ran.next
  | none => (ticks[tick]?.bind (·[place]?)).map .ready

/-- Whether all actions of a tick have succeeded. -/
def Passed (ticks : Chain) (log : List Section) (tick : Nat) : Prop :=
  ∀ place slot, stand ticks log tick place = some slot → slot = .settled (.ok ())

/-- A section carries an action on from where it stood, and all earlier ticks have succeeded. -/
structure Section.Follows (context : Context) (ticks : Chain) (earlier : List Section)
    (ran : Section) : Prop where
  stands : stand ticks earlier ran.tick ran.place = some ran.slot
  ready : ran.slot.isReady ran.before.now = true
  runs : ∃ tick, ticks[ran.tick]? = some tick ∧
    ran.slot.step context (Tick.duration tick) ran.before = (ran.after, ran.next)
  passed : ∀ tick < ran.tick, Passed ticks earlier tick

/-- How a chain ends: every tick has succeeded; or all actions of the last tick that ran have
settled, and the answer is the error of the first of them that failed. -/
inductive Ends (ticks : Chain) (log : List Section) : Answer → Prop
  | passed (all : ∀ tick, Passed ticks log tick) : Ends ticks log (.result (.ok ()))
  | failed {tick place error}
      (earlier : ∀ before < tick, Passed ticks log before)
      (settled : ∀ place slot, stand ticks log tick place = some slot → slot.isSettled = true)
      (fails : stand ticks log tick place = some (.settled (.error error)))
      (first : ∀ before < place, stand ticks log tick before = some (.settled (.ok ())))
      (last : ∀ ran ∈ log, ran.tick ≤ tick) : Ends ticks log (.result (.error error))

/-- The moments of a chain that is performed at a place of a schedule, with its log. Time passes,
requests join, and the other activities run as they like; the log has every section of the chain. -/
inductive Schedule.Dispatches (i : Nat) (context : Context) (ticks : Chain) :
    Schedule → List Section → Prop
  | begins {s now} (begun : s.activities[i]? = some (.ofTicks context now ticks)) :
      Dispatches i context ticks s []
  | elapse {s log now} (before : Dispatches i context ticks s log) (later : s.world.now ≤ now) :
      Dispatches i context ticks { s with world := { s.world with now := now } } log
  | join {s log} (before : Dispatches i context ticks s log) (start : Nat) (request : Request) :
      Dispatches i context ticks (s.join start request) log
  /-- Another activity has a section. -/
  | elsewhere {session world left activity right log}
      (before : Dispatches i context ticks ⟨session, world, left ++ activity :: right⟩ log)
      (apart : left.length ≠ i) (ready : activity.isReady world.now = true) :
      Dispatches i context ticks ⟨session, (activity.step session world).1,
        left ++ (activity.step session world).2 :: right⟩ log
  /-- An action of the tick has a section. -/
  | acts {s log duration left slot right rest} (before : Dispatches i context ticks s log)
      (here : s.activities[i]? =
        some (.ticking context duration (left ++ slot :: right) rest))
      (ready : slot.isReady s.world.now = true) :
      Dispatches i context ticks
        ⟨s.session, (slot.step context duration s.world).1, s.activities.set i
          (.ticking context duration
            (left ++ (slot.step context duration s.world).2 :: right) rest)⟩
        (⟨ticks.length - rest.length - 1, left.length, s.world, slot,
          (slot.step context duration s.world).1, (slot.step context duration s.world).2⟩ :: log)
  /-- The tick is over. -/
  | turns {s log duration slots rest} (before : Dispatches i context ticks s log)
      (here : s.activities[i]? = some (.ticking context duration slots rest))
      (settled : ∀ slot ∈ slots, slot.isSettled = true) :
      Dispatches i context ticks
        ⟨s.session, s.world,
          s.activities.set i (Activity.afterTick context slots rest s.world.now)⟩ log

/-! ### Where actions stand -/

theorem stand_cons (ticks : Chain) (ran : Section) (log : List Section) (tick place : Nat) :
    stand ticks (ran :: log) tick place =
      if ran.tick = tick ∧ ran.place = place then some ran.next
      else stand ticks log tick place := by
  unfold stand
  rw [List.find?_cons]
  by_cases here : ran.tick = tick ∧ ran.place = place
  · simp [here]
  · rw [if_neg here]
    have other : (ran.tick = tick && ran.place = place : Bool) = false := by simpa using here
    rw [other]

/-- An action whose tick has not run is still to begin. -/
theorem stand_of_lt {ticks : Chain} {log : List Section} {tick : Nat}
    (idle : ∀ ran ∈ log, ran.tick < tick) (place : Nat) :
    stand ticks log tick place = (ticks[tick]?.bind (·[place]?)).map .ready := by
  have none : log.find? (fun ran => ran.tick = tick && ran.place = place) = none := by
    rw [List.find?_eq_none]
    intro ran member
    simp [Nat.ne_of_lt (idle ran member)]
  rw [stand, none]

theorem Passed.cons {ticks : Chain} {log : List Section} {tick : Nat} (h : Passed ticks log tick)
    {ran : Section} (other : ran.tick ≠ tick) : Passed ticks (ran :: log) tick := by
  intro place slot stands
  rw [stand_cons, if_neg fun same => other same.1] at stands
  exact h place slot stands

/-! ### One section after the other -/

/-- Where a chain is: its actions stand in the slots of the current tick, and the ticks before it
have succeeded; or it has ended. -/
inductive Chain.Reaches (context : Context) (ticks : Chain) (log : List Section) :
    Activity → Prop
  | ticking {past tick rest slots} (split : ticks = past ++ tick :: rest)
      (stands : ∀ place, stand ticks log past.length place = slots[place]?)
      (passed : ∀ before < past.length, Passed ticks log before)
      (last : ∀ ran ∈ log, ran.tick ≤ past.length) :
      Reaches context ticks log (.ticking context (Tick.duration tick) slots rest)
  | finished {time answer} (ends : Ends ticks log answer) :
      Reaches context ticks log (.finished time answer)

namespace Chain.Reaches

variable {context : Context} {ticks past rest : Chain} {tick : Tick} {log : List Section}

/-- The next tick begins when all before it have succeeded. -/
theorem ofTicks (split : ticks = past ++ rest)
    (passed : ∀ before < past.length, Passed ticks log before)
    (last : ∀ ran ∈ log, ran.tick < past.length) (now : Nat) :
    Reaches context ticks log (.ofTicks context now rest) := by
  cases rest with
  | nil =>
    refine .finished (.passed fun tick => ?_)
    -- There is no action beyond the last tick, so nothing is left to succeed.
    rcases Nat.lt_or_ge tick past.length with before | beyond
    · exact passed tick before
    · intro place slot stands
      have idle : ∀ ran ∈ log, ran.tick < tick := fun ran member =>
        Nat.lt_of_lt_of_le (last ran member) beyond
      have missing : ticks[tick]? = none := by
        rw [split, List.append_nil]
        exact List.getElem?_eq_none beyond
      rw [stand_of_lt idle, missing] at stands
      cases stands
  | cons tick rest =>
    refine .ticking split (fun place => ?_) passed fun ran member => Nat.le_of_lt (last ran member)
    have here : ticks[past.length]? = some tick := by
      rw [split]
      simp
    rw [stand_of_lt last, here, Option.bind_some, List.getElem?_map]

private theorem settled_ok {slot : Slot} (settled : slot.isSettled = true)
    (fine : slot.error? = none) : slot = .settled (.ok ()) := by
  cases slot with
  | settled result =>
    cases result with
    | ok => rfl
    | error error => cases fine
  | _ => cases settled

/-- When all actions of a tick have settled, the chain goes on, or ends with the first error. -/
theorem afterTick {slots : List Slot} (split : ticks = past ++ tick :: rest)
    (stands : ∀ place, stand ticks log past.length place = slots[place]?)
    (passed : ∀ before < past.length, Passed ticks log before)
    (last : ∀ ran ∈ log, ran.tick ≤ past.length)
    (settled : ∀ slot ∈ slots, slot.isSettled = true) (now : Nat) :
    Reaches context ticks log (Activity.afterTick context slots rest now) := by
  unfold Activity.afterTick
  split
  next error failed =>
    -- The first error is that of a slot, and the slots before it have none.
    obtain ⟨left, slot, right, rfl, fails, fine⟩ := List.findSome?_eq_some_iff.mp failed
    have same : slot = .settled (.error error) := by
      cases slot with
      | settled result =>
        cases result with
        | ok => cases fails
        | error => cases fails; rfl
      | _ => cases fails
    have fails : stand ticks log past.length left.length = some (.settled (.error error)) := by
      rw [stands, same]
      simp
    refine .finished (.failed passed ?_ fails ?_ last)
    · intro place slot stands'
      rw [stands] at stands'
      exact settled slot (List.mem_of_getElem? stands')
    · intro before less
      rw [stands, List.getElem?_append_left less, List.getElem?_eq_getElem less]
      have member := List.getElem_mem less
      exact congrArg some (settled_ok (settled _ (List.mem_append_left _ member)) (fine _ member))
  next none =>
    have split : ticks = (past ++ [tick]) ++ rest := by simpa using split
    refine ofTicks split ?_ ?_ now
    · intro before less
      rw [List.length_append, List.length_singleton] at less
      rcases Nat.lt_succ_iff_lt_or_eq.mp less with early | rfl
      · exact passed before early
      · intro place slot stands'
        rw [stands] at stands'
        have member := List.mem_of_getElem? stands'
        exact settled_ok (settled slot member) (List.findSome?_eq_none_iff.mp none slot member)
    · intro ran member
      rw [List.length_append, List.length_singleton]
      exact Nat.lt_succ_of_le (last ran member)

/-- A section of the current tick leaves the others where they were. -/
theorem acts {left right : List Slot} {slot next : Slot} {before after : World}
    (split : ticks = past ++ tick :: rest)
    (stands : ∀ place, stand ticks log past.length place = (left ++ slot :: right)[place]?)
    (passed : ∀ before < past.length, Passed ticks log before)
    (last : ∀ ran ∈ log, ran.tick ≤ past.length) :
    Reaches context ticks (⟨past.length, left.length, before, slot, after, next⟩ :: log)
      (.ticking context (Tick.duration tick) (left ++ next :: right) rest) := by
  refine .ticking split (fun place => ?_) ?_ ?_
  · rw [stand_cons, stands]
    have replaced : left ++ next :: right = (left ++ slot :: right).set left.length next := by simp
    rw [replaced, List.getElem?_set]
    by_cases here : left.length = place
    · subst here
      simp
    · simp [here]
  · intro earlier less
    exact (passed earlier less).cons (Nat.ne_of_gt less)
  · intro ran member
    rcases List.mem_cons.mp member with rfl | old
    · exact Nat.le_refl _
    · exact last ran old

end Chain.Reaches

namespace Schedule.Dispatches

variable {i : Nat} {context : Context} {ticks : Chain} {s : Schedule} {log : List Section}

/-- At every moment the chain is somewhere, and every section followed those before it. -/
theorem reaches (h : s.Dispatches i context ticks log) :
    (∃ activity, s.activities[i]? = some activity ∧ Chain.Reaches context ticks log activity) ∧
      ∀ later ran earlier, log = later ++ ran :: earlier → ran.Follows context ticks earlier := by
  induction h with
  | begins begun =>
    refine ⟨⟨_, begun, ?_⟩, ?_⟩
    · exact Chain.Reaches.ofTicks (List.nil_append ticks).symm (fun _ less => nomatch less)
        (fun _ member => absurd member List.not_mem_nil) _
    · intro later ran earlier split
      cases later <;> cases split
  | elapse _ _ ih => exact ih
  | join _ start request ih =>
    obtain ⟨⟨activity, here, reaches⟩, follows⟩ := ih
    have inside := (List.getElem?_eq_some_iff.mp here).1
    exact ⟨⟨activity, (List.getElem?_append_left inside).trans here, reaches⟩, follows⟩
  | elsewhere _ apart _ ih =>
    obtain ⟨⟨activity, here, reaches⟩, follows⟩ := ih
    refine ⟨⟨activity, ?_, reaches⟩, follows⟩
    rw [← here]
    exact getElem?_replaced apart _ _ _
  | @acts s log duration left slot right rest before here ready ih =>
    obtain ⟨⟨activity, found, reaches⟩, follows⟩ := ih
    cases here.symm.trans found
    cases reaches with
    | @ticking past tick _ _ split stands passed last =>
      -- The ticks that are left tell which one is running.
      have index : ticks.length - rest.length - 1 = past.length := by
        rw [split, List.length_append, List.length_cons]
        omega
      have inside : i < s.activities.length := (List.getElem?_eq_some_iff.mp here).1
      rw [index]
      refine ⟨⟨_, List.getElem?_set_self inside, .acts split stands passed last⟩, ?_⟩
      intro later ran earlier split'
      -- The new section is the latest; those before it followed as they did.
      cases later with
      | cons _ later =>
        obtain ⟨-, tail⟩ := List.cons.inj split'
        exact follows later ran earlier tail
      | nil =>
        obtain ⟨rfl, rfl⟩ := List.cons.inj split'
        refine ⟨?_, ready, ⟨tick, ?_, rfl⟩, passed⟩
        · rw [stands]
          simp
        · rw [split]
          simp
  | @turns s log duration slots rest before here settled ih =>
    obtain ⟨⟨activity, found, reaches⟩, follows⟩ := ih
    cases here.symm.trans found
    cases reaches with
    | ticking split stands passed last =>
      have inside : i < s.activities.length := (List.getElem?_eq_some_iff.mp here).1
      refine ⟨⟨_, List.getElem?_set_self inside, ?_⟩, follows⟩
      exact .afterTick split stands passed last settled _

/-- A section of the activity is one of the dispatch. -/
private theorem advance {duration : UInt64} {slots : List Slot} {rest : List Tick}
    (h : s.Dispatches i context ticks log)
    (here : s.activities[i]? = some (.ticking context duration slots rest))
    (ready : (Activity.ticking context duration slots rest).isReady s.world.now = true) :
    ∃ more, Dispatches i context ticks
      ⟨s.session, ((Activity.ticking context duration slots rest).step s.session s.world).1,
        s.activities.set i
          ((Activity.ticking context duration slots rest).step s.session s.world).2⟩
      (more ++ log) := by
  unfold Activity.step
  dsimp only
  cases ran : Slot.stepFirst slots context duration s.world with
  | some result =>
    obtain ⟨left, slot, right, rfl, -, due, first, second⟩ := Slot.stepFirst_eq_some ran
    dsimp only
    rw [first, second]
    exact ⟨[_], h.acts here due⟩
  | none =>
    have idle := Slot.stepFirst_eq_none ran
    simp only [Activity.isReady, idle, Bool.false_or, List.all_eq_true] at ready
    exact ⟨[], h.turns here ready⟩

/-- Every move of the schedule is one of the dispatch, or of the others. -/
theorem move {next : Schedule} (h : s.Dispatches i context ticks log) (moved : s.Moves next) :
    ∃ more, next.Dispatches i context ticks (more ++ log) := by
  -- A section at the place of the chain is one of the chain; all others are elsewhere.
  cases moved with
  | elapse later => exact ⟨[], h.elapse later⟩
  | @advance session world left activity right ready =>
    by_cases here : left.length = i
    · subst here
      have replaced : left ++ (activity.step session world).2 :: right =
          (left ++ activity :: right).set left.length (activity.step session world).2 := by simp
      rw [replaced]
      obtain ⟨⟨found, listed, reaches⟩, -⟩ := h.reaches
      have same : activity = found := by simpa using listed
      subst same
      cases reaches with
      | ticking => exact h.advance listed ready
      | finished => cases ready
    · exact ⟨[], h.elsewhere here ready⟩

/-- A run of the schedule brings the chain to its end. -/
theorem run (h : s.Dispatches i context ticks log) :
    ∃ more time answer, s.run.Dispatches i context ticks (more ++ log) ∧
      s.run.activities[i]? = some (.finished time answer) := by
  have kept : ∀ {s next : Schedule}, (∃ more, s.Dispatches i context ticks (more ++ log)) →
      s.Moves next → ∃ more, next.Dispatches i context ticks (more ++ log) := by
    rintro s next ⟨more, dispatches⟩ moved
    obtain ⟨newer, dispatches⟩ := dispatches.move moved
    exact ⟨newer ++ more, by rwa [List.append_assoc]⟩
  obtain ⟨more, dispatches⟩ := run_invariant kept ⟨[], h⟩
  obtain ⟨⟨activity, here, reaches⟩, -⟩ := dispatches.reaches
  have finished := List.all_eq_true.mp (run_finished s) activity (List.mem_of_getElem? here)
  cases reaches with
  | ticking => cases finished
  | finished => exact ⟨more, _, _, dispatches, here⟩

end Schedule.Dispatches

/-- Ticks run strictly one after the other. Every section of an action of a chain comes after all
actions of all earlier ticks have succeeded. When the chain has its answer, either every tick has
succeeded, or the answer is the first error in the order of a tick, all actions of which have run to
their own end and after which nothing of the chain ran. Whatever the schedule does next, the log
goes on with it, and every run comes to that end. -/
theorem Schedule.ticks_in_order {i : Nat} {context : Context} {ticks : Chain} {s : Schedule}
    {log : List Section} (h : s.Dispatches i context ticks log) :
    (∀ later ran earlier, log = later ++ ran :: earlier → ran.Follows context ticks earlier) ∧
      (∀ time answer, s.activities[i]? = some (.finished time answer) → Ends ticks log answer) ∧
      (∀ next, s.Moves next → ∃ more, next.Dispatches i context ticks (more ++ log)) ∧
      ∃ more time answer, s.run.Dispatches i context ticks (more ++ log) ∧
        s.run.activities[i]? = some (.finished time answer) ∧ Ends ticks (more ++ log) answer := by
  have ends : ∀ {s : Schedule} {log}, s.Dispatches i context ticks log → ∀ time answer,
      s.activities[i]? = some (.finished time answer) → Ends ticks log answer := by
    intro s log h time answer here
    obtain ⟨⟨activity, found, reaches⟩, -⟩ := h.reaches
    cases here.symm.trans found
    cases reaches with
    | finished ends => exact ends
  obtain ⟨more, time, answer, runs, here⟩ := h.run
  exact ⟨h.reaches.2, ends h, fun _ moved => h.move moved, more, time, answer, runs, here,
    ends runs time answer here⟩

/-- A tick that fails while a press of the same tick awaits its answer, and one more tick. -/
def cancels : Chain :=
  [[⟨⟨"mouse"⟩, .pointer, none, .pointerDown 0⟩, ⟨⟨"pen"⟩, .pointer, some .pen, .pointerCancel⟩],
    [⟨⟨"mouse"⟩, .pointer, none, .pointerUp 0⟩]]

/-- The first tick of that chain, about to begin. -/
def Schedule.cancelling : Schedule :=
  step ⟨.ofConfig .standard, .initial (.prompt ⟨100, 100⟩), [.planned 0 (.perform cancels none)]⟩

/-- The chain comes to its end with the error of its first tick. -/
theorem Schedule.cancelling_in_order :
    ∃ log, cancelling.run.Dispatches 0 ⟨.ofConfig .standard, .inView⟩ cancels log ∧
      Ends cancels log (.result (.error (.unsupported .pointerCancel))) := by
  have begins : cancelling.Dispatches 0 ⟨.ofConfig .standard, .inView⟩ cancels [] := .begins rfl
  obtain ⟨-, -, -, log, time, answer, runs, here, ends⟩ := ticks_in_order begins
  rw [List.append_nil] at runs ends
  have ended : cancelling.run = cancelling.steps 6 := run_eq_steps (by decide +kernel)
  have fails : (cancelling.steps 6).activities =
      [.finished 0 (.result (.error (.unsupported .pointerCancel)))] := rfl
  rw [ended, fails] at here
  cases here
  exact ⟨log, runs, ends⟩

end InputActions
