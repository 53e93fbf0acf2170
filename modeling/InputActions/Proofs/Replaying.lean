import InputActions.Proofs.Interleaving

/-!
# Releases under way

Every entry that is pending, or in the hands of a release, lifts a trigger that its source accepts:
`Schedule.Orderly` is kept by every move, as the sources keep their kinds until they are forgotten.
So replaying an entry has only four kinds of sections (`Slot.Replay`): its trigger is lifted, or is
up already; the lift lands, or was refused and is taken back. In particular a release fails only
with what the surface said.
-/
namespace InputActions

/-- Whether an action lifts a trigger that its source accepts. -/
def Action.Fits (store : Store) (action : Action) : Prop :=
  ∃ trigger, action.gesture.lifted? = some trigger ∧ store.Accepts action.id trigger

/-- Whether a slot replays an entry: its lift is still to come or under way. -/
inductive Slot.Replays (entry : Action) : Slot → Prop
  | ready : Replays entry (.ready entry)
  | waiting {wake wait trigger verdict} (lifted : entry.gesture.lifted? = some trigger)
      (under : wait.lift? = some (entry.id, trigger, verdict)) :
      Replays entry (.waiting wake wait)

/-- A section that replays an entry which lifts `trigger`. -/
inductive Slot.Replay (entry : Action) (trigger : Trigger) (before : World) :
    Slot → World → Slot → Prop
  | lift {after wake wait verdict injection}
      (held : before.inputs.Holds entry.id trigger)
      (holds : ∀ id other, after.inputs.Holds id other ↔
        ¬ (id = entry.id ∧ other = trigger) ∧ before.inputs.Holds id other)
      (pending : after.inputs.pending = before.inputs.pending)
      (under : wait.lift? = some (entry.id, trigger, verdict))
      (journal : after.host.journal = before.host.journal ++ [injection])
      (refusal : injection.refusal = verdict.refusal)
      (asked : verdict.refusal = before.host.injectionRefusal before.host.tally before.now) :
      Replay entry trigger before (.ready entry) after (.waiting wake wait)
  | pass (up : ¬ before.inputs.Holds entry.id trigger) :
      Replay entry trigger before (.ready entry) before (.settled (.ok ()))
  | land {wake wait verdict after}
      (under : wait.lift? = some (entry.id, trigger, verdict))
      (accepted : verdict.refusal = none)
      (inputs : after.inputs = before.inputs)
      (journal : after.host.journal = before.host.journal) :
      Replay entry trigger before (.waiting wake wait) after (.settled (.ok ()))
  | takeBack {wake wait verdict error after}
      (under : wait.lift? = some (entry.id, trigger, verdict))
      (refused : verdict.refusal = some error)
      (holds : ∀ id other, after.inputs.Holds id other ↔
        (id = entry.id ∧ other = trigger) ∨ before.inputs.Holds id other)
      (pending : after.inputs.pending = before.inputs.pending)
      (journal : after.host.journal = before.host.journal) :
      Replay entry trigger before (.waiting wake wait) after (.settled (.error (.host error)))

/-- Every section of a slot that replays a fitting entry is one of the four. -/
theorem Slot.Turn.replay {before after : World} {slot next : Slot} {entry : Action}
    {trigger : Trigger} (h : slot.Turn before after next) (replays : slot.Replays entry)
    (lifts : entry.gesture.lifted? = some trigger)
    (accepts : before.inputs.store.Accepts entry.id trigger) :
    Slot.Replay entry trigger before slot after next := by
  cases replays with
  | ready =>
    cases h with
    | press pressed =>
      -- No gesture both presses and lifts.
      cases gesture : entry.gesture <;>
        simp_all [Gesture.pressed?, Gesture.lifted?]
    | lift lifted found held stored inputs under journal refusal asked =>
      cases lifts.symm.trans lifted
      refine .lift ?_ ?_ (by rw [inputs]) under journal refusal asked
      · exact (Inputs.holds_iff found _).mpr held
      · rw [inputs]
        exact Inputs.holds_lift found stored _
    | pass lifted up =>
      cases lifts.symm.trans lifted
      refine .pass ?_
      rw [Inputs.Holds, up]
      intro down
      cases down
    | deny lifted foreign =>
      cases lifts.symm.trans lifted
      exact absurd accepts foreign
    | still inputs other => exact absurd (lifts.symm.trans (other _ rfl)) (Option.some_ne_none _)
  | waiting lifted under =>
    cases lifts.symm.trans lifted
    cases h with
    | takeBack under' refused found holds inputs journal =>
      cases under.symm.trans under'
      refine .takeBack under refused ?_ (by rw [inputs]) journal
      rw [inputs]
      exact Inputs.holds_hold found holds _
    | lose under' refused missing =>
      -- The source of a fitting entry is there, and knows the trigger.
      cases under.symm.trans under'
      obtain ⟨source, held, _, found, known, _⟩ := accepts.found
      rw [Store.held?_eq, found, Option.bind_some, known] at missing
      cases missing
    | land under' accepted inputs journal =>
      cases under.symm.trans under'
      exact .land under accepted inputs journal
    | arrive found inputs idle => exact absurd (under.symm.trans idle) (Option.some_ne_none _)
    | still inputs other idle => exact absurd (under.symm.trans idle) (Option.some_ne_none _)

/-! ### Kinds -/

/-- No section of an action changes the kind of a source. -/
theorem Slot.Turn.kind? {before after : World} {slot next : Slot}
    (h : slot.Turn before after next) (id : SourceId) :
    after.inputs.store.kind? id = before.inputs.store.kind? id := by
  cases h with
  | press _ _ found holds inputs =>
    rw [inputs]
    exact Store.kind?_put_of_kind found (Source.kind_hold? holds) id
  | lift _ found _ lifts inputs =>
    rw [inputs]
    exact Store.kind?_put_of_kind found (Source.kind_lift? lifts) id
  | pass => rfl
  | deny => rfl
  | takeBack _ _ found holds inputs =>
    rw [inputs]
    exact Store.kind?_put_of_kind found (Source.kind_hold? holds) id
  | lose _ _ _ inputs => rw [inputs]
  | land _ _ inputs => rw [inputs]
  | @arrive wake wait other source target _ _ found inputs =>
    have same : (Source.pointer { source with position := target }).kind =
        (Source.pointer source).kind := rfl
    rw [inputs]
    exact Store.kind?_put_of_kind found same id
  | still inputs => rw [inputs]

/-- Whether a request forgets everything. -/
def Request.isReset : Request → Bool
  | .reset => true
  | _ => false

/-- Whether an activity is about to forget everything. -/
def Activity.isReset : Activity → Bool
  | .planned _ request => request.isReset
  | _ => false

/-- A source that is known stays known, and keeps its kind. -/
theorem Activity.Turn.kind? {before after : World} {activity next : Activity}
    (h : activity.Turn before after next) (kept : activity.isReset = false) {id : SourceId}
    {kind : SourceKind} (known : before.inputs.store.kind? id = some kind) :
    after.inputs.store.kind? id = some kind := by
  cases h with
  | start grows => exact grows.kind? known
  | take => exact known
  | reset => cases kept
  | slot turn => rwa [turn.kind?]
  | complete => exact known
  | replay turn => rwa [turn.kind?]
  | replayed turn => rwa [turn.kind?]
  | interrupted turn => exact (turn.kind? id).trans known
  | woken => exact known
  | done => exact known

/-! ### Order -/

/-- A release holds only entries that fit, and replays the first of them. -/
def Activity.Orderly (store : Store) : Activity → Prop
  | .releasing _ entry slot rest => slot.Replays entry ∧ ∀ owed ∈ entry :: rest, owed.Fits store
  | _ => True

/-- Whatever is owed can be replayed. -/
structure Schedule.Orderly (schedule : Schedule) : Prop where
  pending : ∀ entry ∈ schedule.world.inputs.pending.entries,
    entry.Fits schedule.world.inputs.store
  activities : ∀ activity ∈ schedule.activities, activity.Orderly schedule.world.inputs.store

theorem Action.Fits.of_kinds {action : Action} {store next : Store} (h : action.Fits store)
    (kinds : ∀ id kind, store.kind? id = some kind → next.kind? id = some kind) :
    action.Fits next := by
  obtain ⟨trigger, lifted, accepts⟩ := h
  exact ⟨trigger, lifted, accepts.of_kinds kinds⟩

theorem Activity.Orderly.of_kinds {activity : Activity} {store next : Store}
    (h : activity.Orderly store)
    (kinds : ∀ id kind, store.kind? id = some kind → next.kind? id = some kind) :
    activity.Orderly next := by
  cases activity with
  | releasing context entry slot rest =>
    exact ⟨h.1, fun owed member => (h.2 owed member).of_kinds kinds⟩
  | _ => trivial

theorem Activity.orderly_of_isFresh {activity : Activity} (fresh : activity.IsFresh)
    (store : Store) : activity.Orderly store := by
  cases activity with
  | releasing => exact fresh.elim
  | _ => trivial

theorem Activity.orderly_ofEntries {entries : List Action} {store : Store}
    (fit : ∀ entry ∈ entries, entry.Fits store) (context : Context) (now : Nat) :
    (ofEntries context now entries).Orderly store := by
  cases entries with
  | nil => trivial
  | cons entry rest => exact ⟨.ready, fit⟩

/-- A section owes only what fits. -/
theorem Slot.Turn.pending {before after : World} {slot next : Slot}
    (h : slot.Turn before after next)
    (fit : ∀ entry ∈ before.inputs.pending.entries, entry.Fits before.inputs.store) :
    ∀ entry ∈ after.inputs.pending.entries, entry.Fits after.inputs.store := by
  intro entry member
  have kinds : ∀ id kind, before.inputs.store.kind? id = some kind →
      after.inputs.store.kind? id = some kind := fun id _ known => (h.kind? id).trans known
  have kept (same : after.inputs.pending = before.inputs.pending) :
      entry.Fits after.inputs.store := (fit entry (same ▸ member)).of_kinds kinds
  cases h with
  | @press action trigger _ _ _ _ _ pressed accepts found holds inputs =>
    obtain ⟨inverse, undone, same, lifts⟩ := Action.inverse?_of_pressed pressed
    simp only [inputs, Pending.record, undone, Pending.push, List.mem_append,
      List.mem_singleton] at member
    rcases member with old | rfl
    · exact (fit entry old).of_kinds kinds
    -- The inverse of a press is for the same trigger, which the source accepted.
    · exact ⟨trigger, lifts, (same ▸ accepts).of_kinds kinds⟩
  | lift _ _ _ _ inputs => exact kept (by rw [inputs])
  | pass => exact fit entry member
  | deny => exact fit entry member
  | takeBack _ _ _ _ inputs => exact kept (by rw [inputs])
  | lose _ _ _ inputs => exact kept (by rw [inputs])
  | land _ _ inputs => exact kept (by rw [inputs])
  | arrive _ inputs => exact kept (by rw [inputs])
  | still inputs => exact kept (by rw [inputs])

/-- A turn leaves only what fits, and what other activities hold goes on to fit. -/
theorem Activity.Turn.orderly {before after : World} {activity next : Activity}
    (h : activity.Turn before after next) (orderly : activity.Orderly before.inputs.store)
    (fit : ∀ entry ∈ before.inputs.pending.entries, entry.Fits before.inputs.store) :
    (∀ entry ∈ after.inputs.pending.entries, entry.Fits after.inputs.store) ∧
      next.Orderly after.inputs.store := by
  cases h with
  | start grows pending journal fresh =>
    refine ⟨fun entry member => ?_, orderly_of_isFresh fresh _⟩
    rw [pending] at member
    exact (fit entry member).of_kinds fun _ _ => grows.kind?
  | take => exact ⟨nofun, orderly_ofEntries fit ..⟩
  | reset => exact ⟨nofun, trivial⟩
  | slot turn => exact ⟨turn.pending fit, trivial⟩
  | complete settled fresh => exact ⟨fit, orderly_of_isFresh fresh _⟩
  | @replay context entry slot rest _ _ turn unsettled =>
    have kinds : ∀ id kind, before.inputs.store.kind? id = some kind →
        after.inputs.store.kind? id = some kind := fun id _ known => (turn.kind? id).trans known
    refine ⟨turn.pending fit, ?_, fun owed member => (orderly.2 owed member).of_kinds kinds⟩
    obtain ⟨trigger, lifts, accepts⟩ := orderly.2 entry List.mem_cons_self
    cases turn.replay orderly.1 lifts accepts with
    | lift _ _ _ under => exact .waiting lifts under
    | _ => cases unsettled
  | @replayed context entry slot rest _ turn =>
    refine ⟨turn.pending fit, orderly_ofEntries (fun owed member => ?_) ..⟩
    exact (orderly.2 owed (List.mem_cons_of_mem _ member)).of_kinds
      fun id _ known => (turn.kind? id).trans known
  | @interrupted context entry slot rest after error turn =>
    refine ⟨fun owed member => ?_, trivial⟩
    -- The entries put back were in hand, where they fitted.
    rcases List.mem_append.mp member with put | kept
    · exact (orderly.2 owed put).of_kinds fun id _ known => (turn.kind? id).trans known
    · exact turn.pending fit owed kept
  | woken => exact ⟨fit, trivial⟩
  | done => exact ⟨fit, trivial⟩

namespace Schedule

/-- Whether some activity is about to forget everything. -/
def Resets (schedule : Schedule) : Prop := ∃ activity ∈ schedule.activities, activity.isReset = true

theorem not_resets_of_idle {schedule : Schedule} (idle : schedule.activities = []) :
    ¬ schedule.Resets := by
  rintro ⟨activity, listed, -⟩
  rw [idle] at listed
  cases listed

/-- Order is kept for as long as nothing is forgotten. -/
theorem Orderly.move {s next : Schedule} (h : s.Orderly) (kept : ¬ s.Resets)
    (moved : s.Moves next) : next.Orderly := by
  cases moved with
  | @advance session world left activity right ready =>
    have member : activity ∈ left ++ activity :: right := by simp
    have turn := activity.step_turn session ready
    have reset : activity.isReset = false := by simpa using fun is => kept ⟨activity, member, is⟩
    obtain ⟨pending, orderly⟩ := turn.orderly (h.activities activity member) h.pending
    refine ⟨pending, fun other listed => ?_⟩
    -- Another activity may hold entries in hand; kinds are kept, so they go on to fit.
    simp only [List.mem_append, List.mem_cons] at listed
    rcases listed with before | rfl | after
    · exact (h.activities other (by simp [before])).of_kinds fun _ _ => turn.kind? reset
    · exact orderly
    · exact (h.activities other (by simp [after])).of_kinds fun _ _ => turn.kind? reset
  | elapse => exact ⟨h.pending, h.activities⟩

theorem Moves.not_resets {s next : Schedule} (h : s.Moves next) (kept : ¬ s.Resets) :
    ¬ next.Resets := by
  rintro ⟨other, listed, resets⟩
  cases h with
  | elapse => exact kept ⟨other, listed, resets⟩
  | @advance session world left activity right ready =>
    simp only [List.mem_append, List.mem_cons] at listed
    rcases listed with before | rfl | after
    · exact kept ⟨other, by simp [before], resets⟩
    -- What has run has begun, and only what is planned can be about to forget.
    · have begun := activity.isPlanned_step session ready
      cases next : (activity.step session world).2 <;> rw [next] at begun resets
      · cases begun
      all_goals cases resets
    · exact kept ⟨other, by simp [after], resets⟩

theorem Orderly.join {s : Schedule} (h : s.Orderly) (start : Nat) (request : Request) :
    (s.join start request).Orderly := by
  refine ⟨h.pending, fun activity listed => ?_⟩
  rcases List.mem_append.mp listed with old | new
  · exact h.activities activity old
  · cases List.mem_singleton.mp new
    trivial

end Schedule

end InputActions
