import InputActions.Proofs.Replaying

/-!
# Held and owed

For one trigger of one source, three things count: whether it is held, how many refused lifts of it
will be taken back, and how many releases of it are owed, be they pending or in the hands of a
release under way. `Schedule.Moves.standing` says how a move can change them. Every invariant about
what is held and owed follows from that by arithmetic.

A release that finds a trigger up drops its entry (`Step.pass`). It is the only change after which
a refused lift of the trigger may have nothing left to cover it.
-/
namespace InputActions

/-- What counts for one trigger of one source. -/
structure Standing where
  held : Bool
  refused : Nat
  left : Nat

namespace Standing

/-- The standing together with what others have under way. -/
def add (a : Standing) (refused left : Nat) : Standing :=
  ⟨a.held, a.refused + refused, a.left + left⟩

/-- A change by an action, whoever asked for it. -/
inductive Change (a b : Standing) : Prop
  | same (held : b.held = a.held) (refused : b.refused = a.refused) (left : b.left = a.left)
  | press (held : b.held = true) (refused : b.refused = a.refused) (left : b.left = a.left + 1)
  | lift (down : a.held = true) (up : b.held = false) (refused : b.refused = a.refused)
      (left : b.left = a.left)
  | refuse (down : a.held = true) (up : b.held = false) (refused : b.refused = a.refused + 1)
      (left : b.left = a.left)
  | takeBack (held : b.held = true) (refused : a.refused = b.refused + 1) (left : b.left = a.left)
  | lose (up : b.held = false) (was : a.held = false) (refused : a.refused = b.refused + 1)
      (left : b.left = a.left)

/-- A change by an activity, while `others` counts the refused lifts that other activities have
under way. -/
inductive Step (others : Nat) (a b : Standing) : Prop
  | change (change : Change a b)
  /-- An entry lifts its trigger. -/
  | replay (down : a.held = true) (up : b.held = false) (refused : b.refused = a.refused)
      (left : a.left = b.left + 1)
  /-- An entry finds its trigger up. -/
  | pass (was : a.held = false) (up : b.held = false) (before : a.refused = others)
      (after : b.refused = others) (left : a.left = b.left + 1)

theorem Change.add {a b : Standing} (h : Change a b) (refused left : Nat) :
    Change (a.add refused left) (b.add refused left) := by
  unfold Standing.add
  cases h with
  | same held same kept =>
    exact .same held (congrArg (· + refused) same) (congrArg (· + left) kept)
  | press held same more => exact .press held (congrArg (· + refused) same) (by simp only; omega)
  | lift down up same kept =>
    exact .lift down up (congrArg (· + refused) same) (congrArg (· + left) kept)
  | refuse down up more kept =>
    exact .refuse down up (by simp only; omega) (congrArg (· + left) kept)
  | takeBack held fewer kept =>
    exact .takeBack held (by simp only; omega) (congrArg (· + left) kept)
  | lose up was fewer kept => exact .lose up was (by simp only; omega) (congrArg (· + left) kept)

theorem Step.add {others : Nat} {a b : Standing} (h : Step others a b) (refused left : Nat) :
    Step (others + refused) (a.add refused left) (b.add refused left) := by
  cases h with
  | change change => exact .change (change.add refused left)
  | replay down up same fewer =>
    exact .replay down up (congrArg (· + refused) same) (by simp only [Standing.add]; omega)
  | pass was up before after fewer =>
    exact .pass was up (congrArg (· + refused) before) (congrArg (· + refused) after)
      (by simp only [Standing.add]; omega)

/-- What is held, and what will be held again, is owed. -/
def Covered (a : Standing) : Prop := a.held.toNat + a.refused ≤ a.left

theorem Change.covered {a b : Standing} (h : Change a b) (covered : a.Covered) : b.Covered := by
  unfold Covered at *
  cases h with
  | same held refused left => rwa [held, refused, left]
  | press held _ _ => rw [held, Bool.toNat_true]; omega
  | lift down up _ _ => rw [down, Bool.toNat_true] at covered; rw [up, Bool.toNat_false]; omega
  | refuse down up _ _ => rw [down, Bool.toNat_true] at covered; rw [up, Bool.toNat_false]; omega
  | takeBack held _ _ => rw [held, Bool.toNat_true]; omega
  | lose up _ _ _ => rw [up, Bool.toNat_false]; omega

/-- Everything stays covered, unless a release passes over a trigger of which refused lifts are
under way. -/
theorem Step.covered {others : Nat} {a b : Standing} (h : Step others a b) (covered : a.Covered)
    (tidy : a.held = false → b.left < a.left → a.refused = 0) : b.Covered := by
  cases h with
  | change change => exact change.covered covered
  | replay down up refused left =>
    unfold Covered at *
    rw [down, Bool.toNat_true] at covered
    rw [up, Bool.toNat_false]
    omega
  | pass was up before after left =>
    -- The trigger is up, so only refused lifts could miss the entry, and there are none.
    unfold Covered
    rw [up, Bool.toNat_false, after, ← before, tidy was (by omega)]
    omega

/-- Only a release that passes over a trigger which is up owes less of it. -/
theorem Step.refused_eq {others : Nat} {a b : Standing} (h : Step others a b)
    (up : a.held = false) (fewer : b.left < a.left) : a.refused = others := by
  cases h with
  | change change =>
    cases change <;> omega
  | replay down => exact absurd (down.symm.trans up) nofun
  | pass was _ before => exact before

end Standing

/-! ### Counting -/

/-- Whether a refused lift of the trigger is under way. -/
def Slot.refuses (id : SourceId) (trigger : Trigger) (slot : Slot) : Bool :=
  match slot.lift? with
  | some (source, lifted, verdict) => source = id && lifted = trigger && verdict.refusal.isSome
  | none => false

/-- Whether a lift that the surface accepted is under way. -/
def Slot.isLanding (slot : Slot) : Bool :=
  match slot.lift? with
  | some (_, _, verdict) => verdict.refusal.isNone
  | none => false

namespace Activity

/-- The actions that an activity has in hand. -/
def slots : Activity → List Slot
  | .ticking _ _ slots _ => slots
  | .releasing _ _ slot _ => [slot]
  | _ => []

/-- What a release has still to replay; an entry is replayed when its lift is accepted. -/
def owed : Activity → List Action
  | .releasing _ entry slot rest => if slot.isLanding then rest else entry :: rest
  | _ => []

theorem owed_releasing (context : Context) (entry : Action) (slot : Slot) (rest : List Action) :
    (releasing context entry slot rest).owed = if slot.isLanding then rest else entry :: rest := rfl

theorem owed_finished (time : Nat) (answer : Answer) : (finished time answer).owed = [] := rfl

@[simp] theorem owed_ofTicks (context : Context) (now : Nat) (ticks : List Tick) :
    (ofTicks context now ticks).owed = [] := by
  cases ticks <;> rfl

@[simp] theorem owed_ofEntries (context : Context) (now : Nat) (entries : List Action) :
    (ofEntries context now entries).owed = entries := by
  cases entries <;> rfl

theorem owed_of_isFresh {activity : Activity} (fresh : activity.IsFresh) : activity.owed = [] := by
  cases activity <;> first | rfl | exact fresh.elim

theorem countP_refuses_of_isFresh {activity : Activity} (fresh : activity.IsFresh) (id : SourceId)
    (trigger : Trigger) : activity.slots.countP (·.refuses id trigger) = 0 := by
  cases activity with
  | ticking context duration slots rest =>
    refine List.countP_eq_zero.mpr fun slot member => ?_
    obtain ⟨action, rfl⟩ := fresh slot member
    exact Bool.false_ne_true
  | releasing => exact fresh.elim
  | _ => rfl

end Activity

theorem Activity.countP_refuses_ofEntries (context : Context) (now : Nat) (entries : List Action)
    (id : SourceId) (trigger : Trigger) :
    (ofEntries context now entries).slots.countP (·.refuses id trigger) = 0 := by
  cases entries <;> rfl

/-- The standing of a trigger among some actions in hand and some releases owed. -/
def World.standing (world : World) (slots : List Slot) (owed : List Action) (id : SourceId)
    (trigger : Trigger) : Standing where
  held := decide (world.inputs.Holds id trigger)
  refused := slots.countP (·.refuses id trigger)
  left := world.inputs.pending.entries.countP (·.undoes id trigger) +
    owed.countP (·.undoes id trigger)

def Schedule.standing (schedule : Schedule) (id : SourceId) (trigger : Trigger) : Standing :=
  schedule.world.standing (schedule.activities.flatMap (·.slots))
    (schedule.activities.flatMap (·.owed)) id trigger

/-! ### What a section changes -/

theorem Slot.refuses_of_none {slot : Slot} (h : slot.lift? = none) (id : SourceId)
    (trigger : Trigger) : slot.refuses id trigger = false := by
  rw [refuses, h]

@[simp] theorem Slot.refuses_ready (action : Action) (id : SourceId) (trigger : Trigger) :
    (Slot.ready action).refuses id trigger = false := rfl

@[simp] theorem Slot.refuses_settled (result : Except ActionError Unit) (id : SourceId)
    (trigger : Trigger) : (Slot.settled result).refuses id trigger = false := rfl

theorem Slot.refuses_iff {slot : Slot} {source : SourceId} {lifted : Trigger} {verdict : Verdict}
    (h : slot.lift? = some (source, lifted, verdict)) (id : SourceId) (trigger : Trigger) :
    slot.refuses id trigger = true ↔
      (id = source ∧ trigger = lifted) ∧ verdict.refusal.isSome = true := by
  rw [refuses, h]
  simp only [Bool.and_eq_true, decide_eq_true_eq, eq_comm (a := id), eq_comm (a := trigger)]

@[simp] theorem Slot.isLanding_ready (action : Action) :
    (Slot.ready action).isLanding = false := rfl

theorem Slot.isLanding_eq {slot : Slot} {source : SourceId} {lifted : Trigger} {verdict : Verdict}
    (h : slot.lift? = some (source, lifted, verdict)) :
    slot.isLanding = verdict.refusal.isNone := by
  rw [isLanding, h]

theorem Pending.countP_record {action : Action} {lifted : Trigger}
    (pressed : action.gesture.pressed? = some lifted) (pending : Pending) (id : SourceId)
    (trigger : Trigger) : (pending.record action).entries.countP (·.undoes id trigger) =
      pending.entries.countP (·.undoes id trigger) +
        if id = action.id ∧ trigger = lifted then 1 else 0 := by
  obtain ⟨inverse, undone, same, lifts⟩ := Action.inverse?_of_pressed pressed
  have undoes : inverse.undoes id trigger = true ↔ id = action.id ∧ trigger = lifted := by
    rw [Action.undoes_iff, same, lifts, Option.some.injEq, eq_comm, eq_comm (a := lifted)]
  rw [record, undone]
  simp only [push, List.countP_append, List.countP_singleton, undoes]

/-- A section of an action changes the standing of a trigger in one of the ways of `Change`. -/
theorem Slot.Turn.change {before after : World} {slot next : Slot}
    (h : slot.Turn before after next) (id : SourceId) (trigger : Trigger) :
    Standing.Change (before.standing [slot] [] id trigger)
      (after.standing [next] [] id trigger) := by
  -- A section is about one trigger of one source; the standing of every other one is the same.
  cases h with
  | @press action lifted source stored _ wake wait pressed accepts found holds inputs free =>
    have free : (Slot.waiting wake wait).lift? = none := free
    have holds := inputs ▸ Inputs.holds_hold found holds _ id trigger
    have left := Pending.countP_record pressed before.inputs.pending id trigger
    by_cases same : id = action.id ∧ trigger = lifted
    · rw [if_pos same] at left
      refine .press (decide_eq_true (holds.mpr (Or.inl same))) ?_ ?_
      · simp [World.standing, Slot.refuses_of_none free]
      · simp [World.standing, inputs, left]
    · rw [if_neg same] at left
      refine .same (decide_eq_decide.mpr (holds.trans (or_iff_right same))) ?_ ?_
      · simp [World.standing, Slot.refuses_of_none free]
      · simp [World.standing, inputs, left]
  | @lift action lifted source stored _ wake wait verdict injection isLift found held lifts inputs
      under =>
    have under : (Slot.waiting wake wait).lift? = some (action.id, lifted, verdict) := under
    have holds := inputs ▸ Inputs.holds_lift found lifts before.inputs.pending id trigger
    by_cases same : id = action.id ∧ trigger = lifted
    · have down : before.inputs.Holds id trigger := by
        rw [Inputs.Holds, Store.held?_eq, same.1, found, same.2]
        exact held
      have up := decide_eq_false fun h => (holds.mp h).1 same
      -- The surface has decided already: a refused lift counts as one that will be taken back.
      cases refusal : verdict.refusal with
      | none =>
        refine .lift (decide_eq_true down) up ?_ (by simp [World.standing, inputs])
        simp [World.standing, Slot.refuses_iff under, refusal]
      | some error =>
        refine .refuse (decide_eq_true down) up ?_ (by simp [World.standing, inputs])
        simp [World.standing, Slot.refuses_iff under, refusal, same]
    · refine .same (decide_eq_decide.mpr (holds.trans (and_iff_right same))) ?_ ?_
      · simp [World.standing, Slot.refuses_iff under, same]
      · simp [World.standing, inputs]
  | pass => exact .same rfl rfl rfl
  | deny => exact .same rfl rfl rfl
  | @takeBack wake wait other lifted verdict error source stored _ under refused found holds
      inputs =>
    have under : (Slot.waiting wake wait).lift? = some (other, lifted, verdict) := under
    have holds := inputs ▸ Inputs.holds_hold found holds before.inputs.pending id trigger
    by_cases same : id = other ∧ trigger = lifted
    · refine .takeBack (decide_eq_true (holds.mpr (Or.inl same))) ?_ ?_
      · simp [World.standing, Slot.refuses_iff under, refused, same]
      · simp [World.standing, inputs]
    · refine .same (decide_eq_decide.mpr (holds.trans (or_iff_right same))) ?_ ?_
      · simp [World.standing, Slot.refuses_iff under, same]
      · simp [World.standing, inputs]
  | @lose wake wait other lifted verdict error fault _ under refused missing inputs =>
    have under : (Slot.waiting wake wait).lift? = some (other, lifted, verdict) := under
    by_cases same : id = other ∧ trigger = lifted
    · have up : ¬ before.inputs.Holds id trigger := by
        rw [Inputs.Holds, same.1, same.2, missing]
        intro held
        cases held
      refine .lose (decide_eq_false (inputs ▸ up)) (decide_eq_false up) ?_ ?_
      · simp [World.standing, Slot.refuses_iff under, refused, same]
      · simp [World.standing, inputs]
    · refine .same (by simp [World.standing, inputs]) ?_ (by simp [World.standing, inputs])
      simp [World.standing, Slot.refuses_iff under, same]
  | @land wake wait other lifted verdict _ under accepted inputs =>
    have under : (Slot.waiting wake wait).lift? = some (other, lifted, verdict) := under
    refine .same (by simp [World.standing, inputs]) ?_ (by simp [World.standing, inputs])
    simp [World.standing, Slot.refuses_iff under, accepted]
  | @arrive wake wait other s target _ _ found inputs idle free =>
    have idle : (Slot.waiting wake wait).lift? = none := idle
    have holds := inputs ▸ Inputs.holds_position found target id trigger
    refine .same (decide_eq_decide.mpr holds) ?_ (by simp [World.standing, inputs])
    simp [World.standing, Slot.refuses_of_none idle, Slot.refuses_of_none free]
  | still inputs other idle free =>
    refine .same (by simp [World.standing, inputs]) ?_ (by simp [World.standing, inputs])
    simp [World.standing, Slot.refuses_of_none idle, Slot.refuses_of_none free]

theorem World.standing_add (world : World) (before slots after : List Slot)
    (earlier owed later : List Action) (id : SourceId) (trigger : Trigger) :
    world.standing (before ++ (slots ++ after)) (earlier ++ (owed ++ later)) id trigger =
      (world.standing slots owed id trigger).add
        ((before ++ after).countP (·.refuses id trigger))
        ((earlier ++ later).countP (·.undoes id trigger)) := by
  simp only [standing, Standing.add, List.countP_append, Standing.mk.injEq, true_and]
  omega

private theorem undoes_eq {entry : Action} {lifted : Trigger}
    (lifts : entry.gesture.lifted? = some lifted) (id : SourceId) (trigger : Trigger) :
    entry.undoes id trigger = decide (id = entry.id ∧ trigger = lifted) := by
  rw [Bool.eq_iff_iff, Action.undoes_iff, lifts, Option.some.injEq, decide_eq_true_iff,
    eq_comm, eq_comm (a := lifted)]

private theorem countP_owed {entry : Action} {lifted : Trigger}
    (lifts : entry.gesture.lifted? = some lifted) (rest : List Action) (id : SourceId)
    (trigger : Trigger) :
    (entry :: rest).countP (·.undoes id trigger) =
      rest.countP (·.undoes id trigger) + if id = entry.id ∧ trigger = lifted then 1 else 0 := by
  rw [List.countP_cons, undoes_eq lifts]
  simp only [decide_eq_true_iff]

/-- Replaying an entry changes the standing of its own trigger only. -/
private theorem replay_step {entry : Action} {lifted : Trigger} {before after : World}
    {slot next : Slot} (h : slot.Replay entry lifted before after next)
    (lifts : entry.gesture.lifted? = some lifted) (rest : List Action) (context : Context)
    (id : SourceId) (trigger : Trigger) :
    Standing.Step 0
      (before.standing [slot] (Activity.releasing context entry slot rest).owed id trigger)
      ((Activity.afterEntry context entry next rest after).1.standing
        (Activity.afterEntry context entry next rest after).2.slots
        (Activity.afterEntry context entry next rest after).2.owed id trigger) := by
  have owed := countP_owed lifts rest id trigger
  cases h with
  | @lift _ wake wait verdict injection held holds pending under =>
    have under : (Slot.waiting wake wait).lift? = some (entry.id, lifted, verdict) := under
    by_cases same : id = entry.id ∧ trigger = lifted
    · have down : before.inputs.Holds id trigger := by rwa [same.1, same.2]
      have up := decide_eq_false fun h => ((holds id trigger).mp h).1 same
      cases refusal : verdict.refusal with
      | none =>
        -- The entry counts as replayed from now on, although the answer is still to come.
        refine .replay (decide_eq_true down) up ?_ ?_
        · simp [World.standing, Activity.afterEntry, Activity.slots, Slot.refuses_iff under,
            refusal]
        · rw [if_pos same] at owed
          simp [World.standing, Activity.afterEntry, Activity.owed_releasing, pending,
            Slot.isLanding_eq under, refusal, owed, Nat.add_assoc]
      | some error =>
        refine .change (.refuse (decide_eq_true down) up ?_ ?_)
        · simp [World.standing, Activity.afterEntry, Activity.slots, Slot.refuses_iff under,
            refusal, same]
        · simp [World.standing, Activity.afterEntry, Activity.owed_releasing, pending,
            Slot.isLanding_eq under, refusal]
    · rw [if_neg same] at owed
      refine .change (.same (decide_eq_decide.mpr ((holds id trigger).trans
        (and_iff_right same))) ?_ ?_)
      · simp [World.standing, Activity.afterEntry, Activity.slots, Slot.refuses_iff under, same]
      · cases refusal : verdict.refusal <;>
          simp [World.standing, Activity.afterEntry, Activity.owed_releasing, pending, owed,
            Slot.isLanding_eq under, refusal]
  | pass up =>
    by_cases same : id = entry.id ∧ trigger = lifted
    · have up : ¬ before.inputs.Holds id trigger := by rwa [same.1, same.2]
      rw [if_pos same] at owed
      refine .pass (decide_eq_false up) (decide_eq_false up) ?_ ?_ ?_
      · simp [World.standing]
      · simp [World.standing, Activity.afterEntry, Activity.countP_refuses_ofEntries]
      · simp [World.standing, Activity.afterEntry, Activity.owed_releasing, owed, Nat.add_assoc]
    · rw [if_neg same] at owed
      refine .change (.same rfl ?_ ?_)
      · simp [World.standing, Activity.afterEntry, Activity.countP_refuses_ofEntries]
      · simp [World.standing, Activity.afterEntry, Activity.owed_releasing, owed]
  | @land wake wait verdict _ under accepted inputs =>
    have under : (Slot.waiting wake wait).lift? = some (entry.id, lifted, verdict) := under
    refine .change (.same ?_ ?_ ?_)
    · simp [World.standing, Activity.afterEntry, inputs]
    · simp [World.standing, Activity.afterEntry, Activity.countP_refuses_ofEntries,
        Slot.refuses_iff under, accepted]
    · simp [World.standing, Activity.afterEntry, Activity.owed_releasing, inputs,
        Slot.isLanding_eq under, accepted]
  | @takeBack wake wait verdict error _ under refused holds pending journal =>
    have under : (Slot.waiting wake wait).lift? = some (entry.id, lifted, verdict) := under
    -- What was in hand is pending again, so as much is left as before.
    have left : (before.inputs.pending.restore (entry :: rest)).entries.countP
        (·.undoes id trigger) = before.inputs.pending.entries.countP (·.undoes id trigger) +
          (entry :: rest).countP (·.undoes id trigger) := by
      rw [Pending.restore, List.countP_append, Nat.add_comm]
    by_cases same : id = entry.id ∧ trigger = lifted
    · refine .change (.takeBack (decide_eq_true ((holds id trigger).mpr (Or.inl same))) ?_ ?_)
      · simp [World.standing, Activity.afterEntry, Activity.slots, Slot.refuses_iff under, refused,
          same]
      · simp [World.standing, Activity.afterEntry, World.withPending, Activity.owed_releasing,
          Activity.owed_finished, Slot.isLanding_eq under, refused, pending, left]
    · refine .change (.same (decide_eq_decide.mpr ((holds id trigger).trans
        (or_iff_right same))) ?_ ?_)
      · simp [World.standing, Activity.afterEntry, Activity.slots, Slot.refuses_iff under, same]
      · simp [World.standing, Activity.afterEntry, World.withPending, Activity.owed_releasing,
          Activity.owed_finished, Slot.isLanding_eq under, refused, pending, left]

theorem Activity.countP_refuses_of_isSettled {slots : List Slot}
    (settled : ∀ slot ∈ slots, slot.isSettled = true) (id : SourceId) (trigger : Trigger) :
    slots.countP (·.refuses id trigger) = 0 := by
  refine List.countP_eq_zero.mpr fun slot member => ?_
  cases slot with
  | settled result => exact Bool.false_ne_true
  | _ => exact absurd (settled _ member) Bool.false_ne_true

/-- A turn of an activity changes the standing of a trigger in one of the ways of `Step`. -/
theorem Activity.Turn.standing {before after : World} {activity next : Activity}
    (h : activity.Turn before after next) (orderly : activity.Orderly before.inputs.store)
    (kept : activity.isReset = false) (id : SourceId) (trigger : Trigger) :
    Standing.Step 0 (before.standing activity.slots activity.owed id trigger)
      (after.standing next.slots next.owed id trigger) := by
  cases h with
  | start grows pending journal fresh =>
    refine .change (.same (decide_eq_decide.mpr (grows.held?_iff id trigger)) ?_ ?_)
    · exact countP_refuses_of_isFresh fresh id trigger
    · rw [World.standing, World.standing, pending, owed_of_isFresh fresh]
      rfl
  | take =>
    refine .change (.same rfl (countP_refuses_ofEntries ..) ?_)
    rw [owed_ofEntries]
    exact Nat.zero_add _
  | reset => cases kept
  | @slot context duration left slot right rest _ next turn =>
    -- The other actions of the tick count for as much before as after.
    have whole : ∀ (world : World) (slot : Slot),
        world.standing (left ++ slot :: right) [] id trigger =
          (world.standing [slot] [] id trigger).add
            ((left ++ right).countP (·.refuses id trigger)) 0 :=
      fun world slot => world.standing_add left [slot] right [] [] [] id trigger
    have change := (turn.change id trigger).add ((left ++ right).countP (·.refuses id trigger)) 0
    rw [← whole, ← whole] at change
    exact .change change
  | complete settled fresh =>
    refine .change (.same rfl ?_ ?_)
    · exact (countP_refuses_of_isFresh fresh id trigger).trans
        (countP_refuses_of_isSettled settled id trigger).symm
    · rw [World.standing, World.standing, owed_of_isFresh fresh]
      rfl
  | @replay context entry slot rest _ next turn unsettled =>
    obtain ⟨lifted, lifts, accepts⟩ := orderly.2 entry List.mem_cons_self
    have replay := turn.replay orderly.1 lifts accepts
    have step := replay_step replay lifts rest context id trigger
    cases next with
    | settled => cases unsettled
    | _ => exact step
  | @replayed context entry slot rest _ turn =>
    obtain ⟨lifted, lifts, accepts⟩ := orderly.2 entry List.mem_cons_self
    exact replay_step (turn.replay orderly.1 lifts accepts) lifts rest context id trigger
  | @interrupted context entry slot rest _ error turn =>
    obtain ⟨lifted, lifts, accepts⟩ := orderly.2 entry List.mem_cons_self
    exact replay_step (turn.replay orderly.1 lifts accepts) lifts rest context id trigger
  | woken => exact .change (.same rfl rfl rfl)
  | done => exact .change (.same rfl rfl rfl)

namespace Schedule

/-- A move changes the standing of a trigger in one of the ways of `Step`. -/
theorem Moves.standing {s next : Schedule} (h : s.Moves next) (orderly : s.Orderly)
    (kept : ¬ s.Resets) (id : SourceId) (trigger : Trigger) :
    ∃ others, Standing.Step others (s.standing id trigger) (next.standing id trigger) := by
  cases h with
  | @advance session world left activity right ready =>
    have member : activity ∈ left ++ activity :: right := by simp
    have reset : activity.isReset = false := by simpa using fun is => kept ⟨activity, member, is⟩
    have step := (activity.step_turn session ready).standing (orderly.activities activity member)
      reset id trigger
    -- So do the other activities of the schedule.
    have whole := step.add ((left.flatMap (·.slots) ++ right.flatMap (·.slots)).countP
      (·.refuses id trigger)) ((left.flatMap (·.owed) ++ right.flatMap (·.owed)).countP
      (·.undoes id trigger))
    rw [← World.standing_add, ← World.standing_add] at whole
    simp only [Schedule.standing, List.flatMap_append, List.flatMap_cons]
    exact ⟨_, whole⟩
  | elapse => exact ⟨0, .change (.same rfl rfl rfl)⟩

end Schedule

end InputActions
