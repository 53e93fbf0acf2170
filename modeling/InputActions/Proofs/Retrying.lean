import InputActions.Proofs.Stray
import InputActions.Proofs.Telling

/-!
# Releases that are tried again

A release replays what is owed entry by entry. If the surface refuses a lift, the release puts back
that entry and those after it, and the next attempt goes on from there. However often it is
interrupted, every trigger that was held at first is lifted once, in the order of the first entries
(`Schedule.retries_lift_once`).

One attempt is an induction over its entries: `Inputs.Lifted` says what has been done when some of
them have been replayed. What is still due after an attempt is the rest of what was due before, so
the attempts add up (`World.Resumes.attempt`).
-/
namespace InputActions

/-! ### What is due -/

/-- The trigger of its source that an action lifts. -/
def Action.target? (action : Action) : Option (SourceId × Trigger) :=
  action.gesture.lifted?.map (action.id, ·)

/-- The triggers that some entries lift. -/
def targets (entries : List Action) : List (SourceId × Trigger) := entries.filterMap (·.target?)

namespace Inputs

/-- The triggers that some entries lift and that are held, in the order of their first entries. -/
def dueFor (inputs : Inputs) (entries : List Action) : List (SourceId × Trigger) :=
  ((targets entries).filter fun (id, trigger) => inputs.Holds id trigger).eraseDups

/-- What a release has to lift. -/
def due (inputs : Inputs) : List (SourceId × Trigger) := inputs.dueFor inputs.pending.entries

variable {inputs next : Inputs} {entries : List Action} {id : SourceId} {trigger : Trigger}

theorem mem_dueFor :
    (id, trigger) ∈ inputs.dueFor entries ↔
      (id, trigger) ∈ targets entries ∧ inputs.Holds id trigger := by
  rw [dueFor, List.mem_eraseDups, List.mem_filter, decide_eq_true_iff]

private theorem nodup_eraseDups {α : Type} [BEq α] [LawfulBEq α] (values : List α) :
    values.eraseDups.Nodup := by
  match values with
  | [] => exact List.nodup_nil
  | value :: values =>
    rw [List.eraseDups_cons, List.nodup_cons]
    refine ⟨fun member => ?_, nodup_eraseDups _⟩
    simpa using List.mem_eraseDups.mp member
termination_by values.length
decreasing_by exact Nat.lt_succ_of_le (List.length_filter_le _ _)

theorem nodup_due (inputs : Inputs) : inputs.due.Nodup := nodup_eraseDups _

/-- What is due for some entries and then for others, of which fewer triggers are held. -/
theorem dueFor_append {done rest : List Action}
    (holds : ∀ id trigger, next.Holds id trigger ↔
      inputs.Holds id trigger ∧ (id, trigger) ∉ targets done) :
    inputs.dueFor (done ++ rest) = inputs.dueFor done ++ next.dueFor rest := by
  have same : ((targets rest).filter fun (id, trigger) => inputs.Holds id trigger).removeAll
      ((targets done).filter fun (id, trigger) => inputs.Holds id trigger) =
      (targets rest).filter fun (id, trigger) => next.Holds id trigger := by
    rw [List.removeAll, List.filter_filter]
    refine List.filter_congr fun ⟨id, trigger⟩ _ => ?_
    by_cases held : inputs.Holds id trigger <;> simp [holds, held]
  rw [dueFor, targets, List.filterMap_append, List.filter_append, List.eraseDups_append]
  exact congrArg (_ ++ List.eraseDups ·) same

theorem dueFor_of_held {entry : Action} (lifts : entry.gesture.lifted? = some trigger)
    (held : inputs.Holds entry.id trigger) : inputs.dueFor [entry] = [(entry.id, trigger)] := by
  simp [dueFor, targets, Action.target?, lifts, held, List.eraseDups_cons]

theorem dueFor_of_up {entry : Action} (lifts : entry.gesture.lifted? = some trigger)
    (up : ¬ inputs.Holds entry.id trigger) : inputs.dueFor [entry] = [] := by
  simp [dueFor, targets, Action.target?, lifts, up]

end Inputs

theorem mem_targets {entries : List Action} {id : SourceId} {trigger : Trigger} :
    (id, trigger) ∈ targets entries ↔ ∃ entry ∈ entries, entry.undoes id trigger = true := by
  simp [targets, Action.target?, Action.undoes_iff, and_comm]

theorem mem_targets_concat {done : List Action} {entry : Action} {lifted : Trigger}
    (lifts : entry.gesture.lifted? = some lifted) (id : SourceId) (trigger : Trigger) :
    (id, trigger) ∈ targets (done ++ [entry]) ↔
      (id, trigger) ∈ targets done ∨ id = entry.id ∧ trigger = lifted := by
  simp [targets, Action.target?, lifts, eq_comm]

/-! ### One attempt -/

namespace Injection

/-- Whether an event says that a trigger of a source went up. -/
def Reports (lifted : SourceId × Trigger) (injection : Injection) : Prop :=
  injection.source = lifted.1 ∧
    match lifted.2, injection.event with
    | .key key, .key event =>
      event.kind = .keyup ∧ ∃ value, Key.normalized value = key ∧ event.Names value
    | .button button, .mouse event => event.kind = .mouseup ∧ event.button = button
    | _, _ => False

/-- Whether the surface accepted a lift. -/
def Lifts (lifted : SourceId × Trigger) (injection : Injection) : Prop :=
  injection.Reports lifted ∧ injection.refusal = none

/-- What the surface accepted of what it was told. -/
def accepted (told : List Injection) : List Injection := told.filter (·.refusal.isNone)

theorem accepted_append (told later : List Injection) :
    accepted (told ++ later) = accepted told ++ accepted later :=
  List.filter_append ..

theorem accepted_refused {injection : Injection} {refusal : HostError}
    (refused : injection.refusal = some refusal) : accepted [injection] = [] := by
  simp [accepted, refused]

theorem accepted_of_lifts {lifted : List (SourceId × Trigger)} {told : List Injection}
    (h : List.Forall₂ Lifts lifted told) : accepted told = told := by
  induction h with
  | nil => rfl
  | cons lifts _ ih =>
    rw [accepted, List.filter_cons, if_pos (Option.isNone_iff_eq_none.mpr lifts.2)]
    exact congrArg _ ih

end Injection

theorem Notice.Faithful.reports {platform : Platform} {entry : Action} {injection : Injection}
    {trigger : Trigger} (h : Notice.Faithful platform ⟨some entry, injection⟩)
    (lifts : entry.gesture.lifted? = some trigger) : injection.Reports (entry.id, trigger) := by
  obtain ⟨source, tells⟩ := h
  refine ⟨source, ?_⟩
  dsimp only at tells ⊢
  generalize entry.gesture = gesture at tells lifts
  generalize injection.event = event at tells
  cases tells <;> cases lifts
  next kind names => exact ⟨kind, _, rfl, names⟩
  next kind named => exact ⟨kind, named⟩

namespace Inputs

/-- Some entries have been replayed: what was due for them is up, and the surface was told. -/
structure Lifted (start : Inputs) (done : List Action) (told : List Injection)
    (inputs : Inputs) : Prop where
  lifts : List.Forall₂ Injection.Lifts (start.dueFor done) told
  holds : ∀ id trigger, inputs.Holds id trigger ↔
    start.Holds id trigger ∧ (id, trigger) ∉ targets done

namespace Lifted

variable {start inputs next : Inputs} {done : List Action} {told : List Injection}
  {entry : Action} {trigger : Trigger}

theorem lift (h : start.Lifted done told inputs) (lifts : entry.gesture.lifted? = some trigger)
    (held : inputs.Holds entry.id trigger) {injection : Injection}
    (accepted : injection.Lifts (entry.id, trigger))
    (holds : ∀ id other, next.Holds id other ↔
      ¬ (id = entry.id ∧ other = trigger) ∧ inputs.Holds id other) :
    start.Lifted (done ++ [entry]) (told ++ [injection]) next := by
  constructor
  · rw [dueFor_append h.holds, dueFor_of_held lifts held]
    exact List.rel_append h.lifts (.cons accepted .nil)
  · intro id other
    rw [holds, h.holds, mem_targets_concat lifts]
    tauto

/-- What is up was lifted for an earlier entry, or was not held to begin with. -/
theorem pass (h : start.Lifted done told inputs) (lifts : entry.gesture.lifted? = some trigger)
    (up : ¬ inputs.Holds entry.id trigger) : start.Lifted (done ++ [entry]) told inputs := by
  constructor
  · rw [dueFor_append h.holds, dueFor_of_up lifts up, List.append_nil]
    exact h.lifts
  · intro id other
    rw [mem_targets_concat lifts]
    by_cases same : id = entry.id ∧ other = trigger
    · obtain ⟨rfl, rfl⟩ := same
      have here := h.holds entry.id other
      tauto
    · have here := h.holds id other
      tauto

end Lifted

/-- A lift that is taken back leaves what was held before it. -/
theorem holds_of_takenBack {before during after : Inputs} {source : SourceId} {lifted : Trigger}
    (held : before.Holds source lifted)
    (lifts : ∀ id trigger, during.Holds id trigger ↔
      ¬ (id = source ∧ trigger = lifted) ∧ before.Holds id trigger)
    (holds : ∀ id trigger, after.Holds id trigger ↔
      (id = source ∧ trigger = lifted) ∨ during.Holds id trigger) (id : SourceId)
    (trigger : Trigger) : after.Holds id trigger ↔ before.Holds id trigger := by
  rw [holds, lifts]
  by_cases same : id = source ∧ trigger = lifted
  · obtain ⟨rfl, rfl⟩ := same
    tauto
  · tauto

end Inputs

/-- How far a release has come that began in some world. In `done` are the entries that it has
replayed, in `told` the lifts that the surface has accepted. -/
inductive Activity.Attempts (start : World) : Activity → World → Prop
  | planned {time world} (inputs : world.inputs = start.inputs)
      (journal : world.host.journal = start.host.journal) :
      Attempts start (.planned time .release) world
  | ready {context entry rest done told world}
      (whole : start.inputs.pending.entries = done ++ entry :: rest)
      (journal : world.host.journal = start.host.journal ++ told)
      (lifted : start.inputs.Lifted done told world.inputs) :
      Attempts start (.releasing context entry (.ready entry) rest) world
  /-- The lift of an entry is under way and will be accepted. -/
  | accepted {context entry wake wait trigger verdict rest done told world}
      (whole : start.inputs.pending.entries = done ++ entry :: rest)
      (under : wait.lift? = some (entry.id, trigger, verdict)) (accepts : verdict.refusal = none)
      (journal : world.host.journal = start.host.journal ++ told)
      (lifted : start.inputs.Lifted (done ++ [entry]) told world.inputs) :
      Attempts start (.releasing context entry (.waiting wake wait) rest) world
  /-- The lift of an entry is under way and will be taken back. -/
  | refused {context entry wake wait trigger verdict refusal rest done told last before world}
      (whole : start.inputs.pending.entries = done ++ entry :: rest)
      (lifts : entry.gesture.lifted? = some trigger)
      (under : wait.lift? = some (entry.id, trigger, verdict))
      (refuses : verdict.refusal = some refusal) (refused : last.refusal = some refusal)
      (reports : last.Reports (entry.id, trigger))
      (journal : world.host.journal = start.host.journal ++ (told ++ [last]))
      (lifted : start.inputs.Lifted done told before) (held : before.Holds entry.id trigger)
      (holds : ∀ id other, world.inputs.Holds id other ↔
        ¬ (id = entry.id ∧ other = trigger) ∧ before.Holds id other) :
      Attempts start (.releasing context entry (.waiting wake wait) rest) world
  | ok {time told world} (journal : world.host.journal = start.host.journal ++ told)
      (lifted : start.inputs.Lifted start.inputs.pending.entries told world.inputs)
      (pending : world.inputs.pending = .empty) :
      Attempts start (.finished time (.result (.ok ()))) world
  | failed {time entry trigger refusal rest done told last world}
      (whole : start.inputs.pending.entries = done ++ entry :: rest)
      (lifts : entry.gesture.lifted? = some trigger) (refused : last.refusal = some refusal)
      (reports : last.Reports (entry.id, trigger))
      (journal : world.host.journal = start.host.journal ++ (told ++ [last]))
      (lifted : start.inputs.Lifted done told world.inputs)
      (held : world.inputs.Holds entry.id trigger)
      (pending : world.inputs.pending.entries = entry :: rest) :
      Attempts start (.finished time (.result (.error (.host refusal)))) world

namespace Activity.Attempts

variable {start world : World} {activity : Activity}

theorem of_same {after : World} (h : activity.Attempts start world)
    (inputs : after.inputs = world.inputs) (journal : after.host.journal = world.host.journal) :
    activity.Attempts start after := by
  cases h with
  | planned same silent => exact .planned (inputs.trans same) (journal.trans silent)
  | ready whole told lifted =>
    exact .ready whole (journal.trans told) (inputs ▸ lifted)
  | accepted whole under accepts told lifted =>
    exact .accepted whole under accepts (journal.trans told) (inputs ▸ lifted)
  | refused whole lifts under refuses refused reports told lifted held holds =>
    refine .refused whole lifts under refuses refused reports (journal.trans told) lifted held ?_
    rw [inputs]
    exact holds
  | ok told lifted pending =>
    exact .ok (journal.trans told) (inputs ▸ lifted) (by rw [inputs, pending])
  | failed whole lifts refused reports told lifted held pending =>
    exact .failed whole lifts refused reports (journal.trans told) (inputs ▸ lifted)
      (by rwa [inputs]) (by rwa [inputs])

/-- When an entry has been replayed, the next one is to begin, if there is one. -/
private theorem ofEntries {done rest : List Action} {told : List Injection}
    (whole : start.inputs.pending.entries = done ++ rest)
    (journal : world.host.journal = start.host.journal ++ told)
    (lifted : start.inputs.Lifted done told world.inputs) (taken : world.inputs.pending = .empty)
    (context : Context) (now : Nat) :
    (Activity.ofEntries context now rest).Attempts start world := by
  cases rest with
  | nil =>
    rw [List.append_nil] at whole
    exact .ok journal (whole ▸ lifted) taken
  | cons entry rest => exact .ready whole journal lifted

/-- A section that replays an entry. -/
private theorem replay {context : Context} {entry : Action} {slot : Slot} {rest : List Action}
    (h : (Activity.releasing context entry slot rest).Attempts start world)
    (alone : (Activity.releasing context entry slot rest).Alone world) (session : Session) :
    ((Activity.releasing context entry slot rest).step session world).2.Attempts start
      ((Activity.releasing context entry slot rest).step session world).1 := by
  obtain ⟨trigger, lifts, accepts⟩ := alone.orderly.2 entry List.mem_cons_self
  have replay := (slot.step_turn context 0 world).replay alone.orderly.1 lifts accepts
  have told := @Slot.notices_of_told slot context 0 world
  have taken := alone.taken.1
  unfold Activity.step
  dsimp only
  generalize (slot.step context 0 world).1 = after at replay told ⊢
  generalize (slot.step context 0 world).2 = next at replay ⊢
  cases replay with
  | @lift _ wake wait verdict injection held holds pending under journal refusal asked =>
    cases h with
    | @ready _ _ _ done earlier _ whole silent lifted =>
      have reports := (told journal).2.reports lifts
      have journal' : after.host.journal = start.host.journal ++ (earlier ++ [injection]) := by
        rw [journal, silent, List.append_assoc]
      -- Whether the lift is refused is settled when it is told.
      cases verdict' : verdict.refusal with
      | none =>
        have accepted : injection.Lifts (entry.id, trigger) := ⟨reports, refusal.trans verdict'⟩
        exact .accepted whole under verdict' journal' (lifted.lift lifts held accepted holds)
      | some error =>
        exact .refused whole lifts under verdict' (refusal.trans verdict') reports journal' lifted
          held holds
  | pass up =>
    cases h with
    | ready whole silent lifted =>
      exact ofEntries (whole.trans (List.append_cons ..)) silent (lifted.pass lifts up) taken ..
  | land under accepted inputs journal =>
    cases h with
    | accepted whole under' accepts told' lifted =>
      exact ofEntries (whole.trans (List.append_cons ..)) (journal.trans told') (inputs ▸ lifted)
        (inputs ▸ taken) ..
    | refused _ _ under' refuses =>
      cases under.symm.trans under'
      exact nomatch accepted.symm.trans refuses
  | takeBack under refused holds pending journal =>
    cases h with
    | accepted _ under' accepts =>
      cases under.symm.trans under'
      exact nomatch accepts.symm.trans refused
    | refused whole lifts' under' refuses was reports told' lifted held up =>
      cases under.symm.trans under'
      cases refused.symm.trans refuses
      -- The entry and those after it go back to where they were, and so does its trigger.
      have same := Inputs.holds_of_takenBack held up holds
      have put : (after.inputs.pending.restore (entry :: rest)).entries = entry :: rest := by
        rw [pending, taken]
        exact List.append_nil _
      exact .failed whole lifts was reports (journal.trans told')
        ⟨lifted.lifts, fun id other => (same id other).trans (lifted.holds id other)⟩
        ((same _ _).mpr held) put

theorem step (h : activity.Attempts start world) (alone : activity.Alone world)
    (session : Session) (ready : activity.isReady world.now = true) :
    (activity.step session world).2.Attempts start (activity.step session world).1 := by
  cases activity with
  | releasing context entry slot rest => exact h.replay alone session
  | planned time request =>
    cases h with
    | planned inputs journal =>
      -- Nothing has been replayed, and everything that was owed is in hand.
      have whole : start.inputs.pending.entries = [] ++ world.inputs.pending.entries := by
        rw [inputs, List.nil_append]
      have silent : (world.withPending .empty).host.journal = start.host.journal ++ [] := by
        rw [List.append_nil]
        exact journal
      have holds : ∀ id trigger, (world.withPending .empty).inputs.Holds id trigger ↔
          start.inputs.Holds id trigger ∧ (id, trigger) ∉ targets [] := by
        intro id trigger
        have same : (world.withPending .empty).inputs.Holds id trigger ↔
            world.inputs.Holds id trigger := Iff.rfl
        rw [same, inputs]
        exact (and_iff_left List.not_mem_nil).symm
      exact ofEntries whole silent ⟨.nil, holds⟩ rfl _ _
  | finished => cases ready
  | _ => cases h

end Activity.Attempts

/-- A release that began in some world is all that runs. -/
private def Schedule.Attempting (start : World) (schedule : Schedule) : Prop :=
  ∃ activity, schedule.activities = [activity] ∧ activity.Attempts start schedule.world ∧
    activity.Alone schedule.world

private theorem Schedule.Attempting.move {start : World} {s next : Schedule}
    (h : s.Attempting start) (moved : s.Moves next) : next.Attempting start := by
  obtain ⟨activity, only, attempts, alone⟩ := h
  cases moved with
  | elapse => exact ⟨activity, only, attempts.of_same rfl rfl, alone.of_same rfl rfl⟩
  | @advance session world left running right ready =>
    obtain ⟨rfl, rfl, rfl⟩ : left = [] ∧ running = activity ∧ right = [] := by
      simpa [List.append_eq_cons_iff] using only
    exact ⟨_, rfl, attempts.step alone session ready, alone.step session ready⟩

/-- A release on its own ends with an answer, having replayed all entries or some of them. -/
theorem Activity.Alone.ask_attempts {world : World}
    (h : (Activity.planned world.now .release).Alone world) (session : Session) :
    ∃ time, (Activity.finished time (world.ask session .release).2).Attempts world
        (world.ask session .release).1 ∧
      (Activity.finished time (world.ask session .release).2).Alone
        (world.ask session .release).1 := by
  have begins : Schedule.Attempting world ⟨session, world, [.planned world.now .release]⟩ :=
    ⟨_, rfl, .planned rfl rfl, h⟩
  obtain ⟨activity, only, attempts, alone⟩ :=
    Schedule.run_invariant Schedule.Attempting.move begins
  have finished := Schedule.run_finished ⟨session, world, [.planned world.now .release]⟩
  rw [Schedule.isFinished, only, List.all_cons, Bool.and_eq_true] at finished
  cases activity with
  | finished time answer =>
    rw [World.ask_of_run only]
    exact ⟨time, attempts, alone⟩
  | _ => exact absurd finished.1 Bool.false_ne_true

/-! ### Several attempts -/

namespace World

/-- The worlds in which a release may be tried again that was interrupted in every attempt so far.
Between two attempts the surface may change and time may pass. -/
inductive Retries (session : Session) (start : World) : World → Prop
  | first {world} (inputs : world.inputs = start.inputs)
      (journal : world.host.journal = start.host.journal) : Retries session start world
  | again {world next error} (before : Retries session start world)
      (failed : (world.ask session .release).2 = .result (.error error))
      (inputs : next.inputs = (world.ask session .release).1.inputs)
      (journal : next.host.journal = (world.ask session .release).1.host.journal) :
      Retries session start next

/-- What an interrupted attempt leaves: it stopped at an entry whose trigger is still held, has put
back the entries from that one on, and all triggers that were lifted so far are up. Its error is
what the surface said about the lift of that entry, which is the last thing it was told. -/
inductive Interrupted (start before after : World) (told : List Injection) : ActionError → Prop
  | intro {done entry rest trigger lifted earlier last refusal}
      (whole : before.inputs.pending.entries = done ++ entry :: rest)
      (pending : after.inputs.pending.entries = entry :: rest)
      (lifts : entry.gesture.lifted? = some trigger)
      (held : after.inputs.Holds entry.id trigger)
      (due : start.inputs.due = lifted ++ after.inputs.due)
      (accepted : List.Forall₂ Injection.Lifts lifted (Injection.accepted told))
      (up : ∀ id trigger, (id, trigger) ∈ lifted → ¬ after.inputs.Holds id trigger)
      (split : told = earlier ++ [last]) (reports : last.Reports (entry.id, trigger))
      (refused : last.refusal = some refusal) : Interrupted start before after told (.host refusal)

/-- What has been done before an attempt: a part of what was due is up, and the surface was told. -/
structure Resumes (start world : World) (told : List Injection)
    (lifted : List (SourceId × Trigger)) : Prop where
  alone : (Activity.planned world.now .release).Alone world
  journal : world.host.journal = start.host.journal ++ told
  accepted : List.Forall₂ Injection.Lifts lifted (Injection.accepted told)
  due : start.inputs.due = lifted ++ world.inputs.due
  holds : ∀ id trigger, world.inputs.Holds id trigger ↔
    start.inputs.Holds id trigger ∧ (id, trigger) ∉ lifted

namespace Resumes

variable {start world : World} {told : List Injection} {lifted : List (SourceId × Trigger)}

theorem of_same {next : World} (h : start.Resumes world told lifted)
    (inputs : next.inputs = world.inputs) (journal : next.host.journal = world.host.journal) :
    start.Resumes next told lifted where
  alone :=
    have alone := h.alone.of_same inputs journal
    ⟨alone.pending, trivial, alone.covered, trivial⟩
  journal := journal.trans h.journal
  accepted := h.accepted
  due := inputs ▸ h.due
  holds := inputs ▸ h.holds

/-- Before the first attempt everything is due. -/
theorem first (alone : (Activity.planned start.now .release).Alone start) :
    start.Resumes start [] [] where
  alone := alone
  journal := (List.append_nil _).symm
  accepted := .nil
  due := rfl
  holds _ _ := (and_iff_left List.not_mem_nil).symm

/-- An attempt goes on from where the one before it stopped. -/
theorem attempt (h : start.Resumes world told lifted) (session : Session) :
    let after := (world.ask session .release).1
    ∃ told, after.host.journal = start.host.journal ++ told ∧
      match (world.ask session .release).2 with
      | .result (.ok ()) =>
        List.Forall₂ Injection.Lifts start.inputs.due (Injection.accepted told) ∧
          after.inputs.pending = .empty ∧ ∀ id trigger, ¬ after.inputs.Holds id trigger
      | .result (.error error) =>
        start.Interrupted world after told error ∧ ∃ lifted, start.Resumes after told lifted
      | _ => False := by
  obtain ⟨time, attempts, alone⟩ := h.alone.ask_attempts session
  dsimp only
  generalize (world.ask session .release).1 = after at attempts alone ⊢
  generalize (world.ask session .release).2 = answer at attempts alone ⊢
  cases attempts with
  | @ok _ later _ journal replayed pending =>
    refine ⟨told ++ later, ?_, ?_, pending, fun id trigger held => ?_⟩
    · rw [journal, h.journal, List.append_assoc]
    · rw [h.due, Injection.accepted_append, Injection.accepted_of_lifts replayed.lifts]
      exact List.rel_append h.accepted replayed.lifts
    -- Whatever is held is owed, and nothing is owed.
    · have covered := alone.covered id trigger
      rw [Standing.Covered, World.standing, pending, decide_eq_true held] at covered
      exact absurd covered (Nat.not_succ_le_zero 0)
  | @failed _ entry trigger refusal rest done later last _ whole lifts refused reports journal
      replayed held pending =>
    have journal' : after.host.journal = start.host.journal ++ (told ++ (later ++ [last])) := by
      rw [journal, h.journal, List.append_assoc]
    -- What this attempt replayed comes next in what was due, and the entries it put back are left.
    have due : start.inputs.due = lifted ++ world.inputs.dueFor done ++ after.inputs.due := by
      rw [h.due, Inputs.due, whole, Inputs.dueFor_append replayed.holds, ← pending,
        List.append_assoc]
      rfl
    have accepted : List.Forall₂ Injection.Lifts (lifted ++ world.inputs.dueFor done)
        (Injection.accepted (told ++ (later ++ [last]))) := by
      rw [Injection.accepted_append, Injection.accepted_append,
        Injection.accepted_of_lifts replayed.lifts, Injection.accepted_refused refused,
        List.append_nil]
      exact List.rel_append h.accepted replayed.lifts
    have holds : ∀ id trigger, after.inputs.Holds id trigger ↔
        start.inputs.Holds id trigger ∧ (id, trigger) ∉ lifted ++ world.inputs.dueFor done := by
      intro id trigger
      rw [replayed.holds, List.mem_append, Inputs.mem_dueFor, h.holds]
      tauto
    have up : ∀ id trigger, (id, trigger) ∈ lifted ++ world.inputs.dueFor done →
        ¬ after.inputs.Holds id trigger :=
      fun id trigger member held => ((holds id trigger).mp held).2 member
    refine ⟨told ++ (later ++ [last]), journal', ?_, _, ?_, journal', accepted, due, holds⟩
    · exact .intro whole pending lifts held due accepted up (List.append_assoc ..).symm reports
        refused
    · exact ⟨alone.pending, trivial, alone.covered, trivial⟩

end Resumes

/-- However many attempts there were, a part of what was due is up. -/
theorem Retries.resumes {session : Session} {start world : World}
    (h : start.Retries session world)
    (alone : (Activity.planned start.now .release).Alone start) :
    ∃ told lifted, start.Resumes world told lifted := by
  -- Each attempt that failed left something to resume, from which the next one began.
  induction h with
  | first inputs journal => exact ⟨[], [], (Resumes.first alone).of_same inputs journal⟩
  | again _ failed inputs journal ih =>
    obtain ⟨told, lifted, resumes⟩ := ih
    obtain ⟨told, -, ends⟩ := resumes.attempt session
    rw [failed] at ends
    obtain ⟨-, lifted, resumes⟩ := ends
    exact ⟨told, lifted, resumes.of_same inputs journal⟩

end World

namespace Schedule

/-- However often a release is interrupted and tried again, the surface accepts one lift of every
trigger that was held at first, in the order of their first entries, and nothing else. An attempt
that is interrupted leaves the entries from the one it failed at, and its error is what the surface
said; the attempt that answers ok leaves nothing held and nothing owed. -/
theorem retries_lift_once {session : Session} {moves : Schedule → Schedule → Prop} {s : Schedule}
    (reached : Reached session OneByOne moves s)
    (quiet : ∀ activity ∈ s.activities, activity.isCall = false) {world : World}
    (retries : s.world.Retries session world) :
    let due := s.world.inputs.due
    let after := (world.ask session .release).1
    due.Nodup ∧ (∀ id trigger, (id, trigger) ∈ due ↔ s.world.inputs.Holds id trigger) ∧
      ∃ told, after.host.journal = s.world.host.journal ++ told ∧
        match (world.ask session .release).2 with
        | .result (.ok ()) =>
          List.Forall₂ Injection.Lifts due (Injection.accepted told) ∧
            after.inputs.pending = .empty ∧ ∀ id trigger, ¬ after.inputs.Holds id trigger
        | .result (.error error) => s.world.Interrupted world after told error
        | _ => False := by
  have begins := (Sequential.reached reached).planned quiet s.world.now .release
  refine ⟨Inputs.nodup_due _, fun id trigger => ?_, ?_⟩
  · rw [Inputs.due, Inputs.mem_dueFor, mem_targets]
    refine ⟨And.right, fun held => ⟨?_, held⟩⟩
    -- No call has anything in hand, so what covers the trigger is among the entries.
    have covered := begins.covered id trigger
    rw [Standing.Covered, World.standing, decide_eq_true held] at covered
    exact List.countP_pos_iff.mp covered
  · obtain ⟨told, lifted, resumes⟩ := retries.resumes begins
    obtain ⟨told, journal, ends⟩ := resumes.attempt session
    refine ⟨told, journal, ?_⟩
    split at ends
    · exact ends
    · exact ends.1
    · exact ends

/-- What the only call answered. -/
def answer? (schedule : Schedule) : Option (Except ActionError Unit) :=
  match schedule.activities with
  | [.finished _ (.result result)] => some result
  | _ => none

theorem ask_of_steps {session : Session} {world : World} {request : Request} {n : Nat}
    {result : Except ActionError Unit}
    (answers : (steps n ⟨session, world, [.planned world.now request]⟩).answer? = some result) :
    world.ask session request =
      ((steps n ⟨session, world, [.planned world.now request]⟩).world, .result result) := by
  unfold answer? at answers
  split at answers
  next time answer only =>
    cases answers
    have finished : (steps n ⟨session, world, [.planned world.now request]⟩).isFinished = true := by
      rw [isFinished, only]
      rfl
    rw [World.ask_of_run ((congrArg activities (run_eq_steps finished)).trans only),
      run_eq_steps finished]
  · cases answers

/-- A surface that refuses the fourth event. -/
def refusesFourth : Host :=
  { Host.prompt ⟨100, 100⟩ with
    injectionRefusal := fun tally _ =>
      if tally.injections = 3 then some (.injection "refused") else none }

/-- Two buttons of a mouse are down. -/
def pressesBoth : Schedule :=
  let presses := [Gesture.pointerDown 0, .pointerDown 1]
  (join ⟨.ofConfig .standard, .initial refusesFourth, []⟩ 0
    (.perform [presses.map (⟨⟨"m"⟩, .pointer, none, ·⟩)] none)).steps 7

/-- The world after a release that lifts the first button only. -/
def interrupted : World :=
  let world := pressesBoth.world
  (steps 5 ⟨pressesBoth.session, world, [.planned world.now .release]⟩).world

/-- The release of the second button is refused, and the release after that lifts it. -/
theorem retried_lifts :
    let session := pressesBoth.session
    pressesBoth.world.ask session .release =
        (interrupted, .result (.error (.host (.injection "refused")))) ∧
      (interrupted.ask session .release).2 = .result (.ok ()) ∧
      ∃ told, (interrupted.ask session .release).1.host.journal =
          pressesBoth.world.host.journal ++ told ∧
        List.Forall₂ Injection.Lifts [(⟨"m"⟩, .button 0), (⟨"m"⟩, .button 1)]
          (Injection.accepted told) := by
  intro session
  have free : ∀ s next : Schedule, True := fun _ _ => trivial
  have reached : Reached (.ofConfig .standard) OneByOne (fun _ _ => True) pressesBoth :=
    (Reached.join 0 _ (.fresh refusesFourth)
      fun _ _ member => absurd member List.not_mem_nil).steps free 7
  have same : session = .ofConfig .standard := reached.session_eq
  have ended : pressesBoth.activities.all (fun activity => !activity.isCall) = true := by
    decide +kernel
  have quiet : ∀ activity ∈ pressesBoth.activities, activity.isCall = false := by
    simpa using ended
  have due : pressesBoth.world.inputs.due = [(⟨"m"⟩, .button 0), (⟨"m"⟩, .button 1)] := by
    decide +kernel
  have refused : pressesBoth.world.ask session .release =
      (interrupted, .result (.error (.host (.injection "refused")))) :=
    @ask_of_steps _ _ _ 5 _ (by decide +kernel)
  have answered : (interrupted.ask session .release).2 = .result (.ok ()) :=
    congrArg Prod.snd (@ask_of_steps session interrupted _ 3 _ (by decide +kernel))
  have retries : pressesBoth.world.Retries session interrupted := by
    refine .again (.first rfl rfl) (congrArg Prod.snd refused) ?_ ?_ <;> rw [refused]
  obtain ⟨-, -, told, journal, ends⟩ := retries_lift_once (same ▸ reached) quiet retries
  rw [answered, due] at ends
  exact ⟨refused, answered, told, journal, ends.1⟩

end Schedule

end InputActions
