import InputActions.Proofs.Asking
import InputActions.Proofs.Conserving
import InputActions.Proofs.Keeping

/-!
# What the surface refuses is reported

Whatever the surface refuses an action, the action ends with that error as its result, and a release
is interrupted with it. One case is different. When a lift is refused, the trigger is pressed again
before the error is reported, and if that fails, the action reports the failed press and the error
of the surface is lost. It can fail only after a reset, which has to come while the answer is
awaited: `Schedule.refusals_reported`.
-/
namespace InputActions

/-! ### Answers of the surface -/

namespace Wait

/-- The error with which the surface answers, if it does not grant what is waited for. -/
def failure? (wait : Wait) (mode : CenterMode) (host : Host) : Option HostError :=
  match wait with
  | .center _ _ (some error) => some error
  | .center _ ref none =>
    match host.center ref mode with
    | .error error => some error
    | .ok _ => none
  | .viewport _ _ refusal => refusal
  | wait => wait.verdict?.bind (·.refusal)

theorem failure?_of_verdict? {wait : Wait} {verdict : Verdict}
    (awaits : wait.verdict? = some verdict) (mode : CenterMode) (host : Host) :
    wait.failure? mode host = verdict.refusal := by
  cases wait <;> cases awaits <;> rfl

/-- What a wait for the geometry knows of the answer is what asking for it in this world gives. -/
def Foretold (world : World) : Wait → Prop
  | .center _ ref refusal => refusal = (world.askCenter ref).2.1
  | .viewport _ _ refusal => refusal = world.askViewport.2.1
  | _ => True

end Wait

/-- An action that comes to wait for the geometry has asked for it in the world that it found. -/
theorem Slot.Leaves.foretold {slot : Slot} {world : World} {wake : Nat} {wait : Wait}
    (h : slot.Leaves world (.waiting wake wait)) : wait.Foretold world := by
  cases h with
  | center => rfl
  | viewport => rfl
  | measures => rfl
  | _ => trivial

/-! ### Reports -/

/-- The fault that something fails with, if it fails. -/
def InvalidArgument.of? {α : Type} : Except InvalidArgument α → Option InvalidArgument
  | .error fault => some fault
  | .ok _ => none

/-- What an action reports when the surface refuses what it waits for. A trigger that was lifted is
to be pressed again first, and a fault of that press is reported in place of the error. -/
def Wait.report (wait : Wait) (store : Store) (error : HostError) : ActionError :=
  match wait.lift?.bind fun (id, trigger, _) => InvalidArgument.of? (store.press id trigger) with
  | some fault => .invalidArgument fault
  | none => .host error

namespace Inputs

theorem of?_holdKey (inputs : Inputs) (id : SourceId) (key : String) :
    InvalidArgument.of? (inputs.holdKey id key) =
      InvalidArgument.of? (inputs.store.press id (.key key)) := by
  unfold holdKey Store.press
  cases inputs.store[id]? with
  | none => rfl
  | some source => cases source <;> rfl

theorem of?_holdButton (inputs : Inputs) (id : SourceId) (button : UInt32) :
    InvalidArgument.of? (inputs.holdButton id button) =
      InvalidArgument.of? (inputs.store.press id (.button button)) := by
  unfold holdButton
  cases inputs.store.press id (.button button) <;> rfl

end Inputs

/-- A press fails only where nothing is known of the trigger. -/
theorem Store.held?_of_press_fault {store : Store} {id : SourceId} {trigger : Trigger}
    {fault : InvalidArgument} (h : InvalidArgument.of? (store.press id trigger) = some fault) :
    store.held? id trigger = none := by
  rw [held?_eq]
  unfold press at h
  cases found : store[id]? with
  | none => rfl
  | some source =>
    rw [found] at h
    cases source <;> cases trigger <;> first | rfl | cases h

namespace Wait

theorem refused_report (error : HostError) (restored : Except InvalidArgument Inputs)
    (world : World) :
    (refused error restored world).2 =
      .failed (match InvalidArgument.of? restored with
        | some fault => .invalidArgument fault
        | none => .host error) := by
  cases restored <;> rfl

/-- Only a lift can report anything but the error of the surface. -/
theorem report_of_none {wait : Wait} (idle : wait.lift? = none) (store : Store)
    (error : HostError) : wait.report store error = .host error := by
  rw [report, idle, Option.bind_none]

/-- What takes the place of the error is a fault, and then nothing is known of what was lifted. -/
theorem report_cases (wait : Wait) (store : Store) (error : HostError) :
    wait.report store error = .host error ∨
      ∃ id trigger verdict fault, wait.lift? = some (id, trigger, verdict) ∧
        store.held? id trigger = none ∧ wait.report store error = .invalidArgument fault := by
  unfold report
  cases under : wait.lift? with
  | none => exact Or.inl rfl
  | some lift =>
    obtain ⟨id, trigger, verdict⟩ := lift
    rw [Option.bind_some]
    dsimp only
    cases failed : InvalidArgument.of? (store.press id trigger) with
    | none => exact Or.inl rfl
    | some fault =>
      exact Or.inr ⟨id, trigger, verdict, fault, rfl, Store.held?_of_press_fault failed, rfl⟩

/-- An action to which the surface refuses something ends at once, with its report. -/
theorem resume_report {wait : Wait} {context : Context} {world : World} {error : HostError}
    (fails : wait.failure? context.mode world.host = some error) :
    (wait.resume context world).2 = .failed (wait.report world.inputs.store error) := by
  -- Whatever is no lift passes the error on.
  have passes {outcome : Outcome} (idle : wait.lift? = none)
      (same : outcome = .failed (.host error)) :
      outcome = .failed (wait.report world.inputs.store error) := by
    rw [same, report_of_none idle]
  cases wait with
  | pause => cases fails
  | sample move target => cases fails
  | keyup id key verdict =>
    have refusal : verdict.refusal = some error := fails
    simp only [resume, refusal]
    rw [refused_report, Inputs.of?_holdKey]
    rfl
  | mouseup id button verdict =>
    have refusal : verdict.refusal = some error := fails
    simp only [resume, refusal]
    rw [refused_report, Inputs.of?_holdButton]
    rfl
  | center move ref refusal =>
    apply passes rfl
    cases refusal with
    | some known =>
      cases fails
      rfl
    | none =>
      cases shows : world.host.center ref context.mode with
      | error absent =>
        simp only [failure?, shows, Option.some.injEq] at fails
        simp only [resume, shows, fails]
      | ok base => simp only [failure?, shows, reduceCtorEq] at fails
  | viewport move base refusal =>
    apply passes rfl
    have refusal : refusal = some error := fails
    simp only [resume, refusal]
  | keydown _ _ _ verdict | keypress verdict | mousedown _ _ _ verdict | contextmenu verdict
  | step _ _ _ verdict | arrival _ _ verdict =>
    apply passes rfl
    have refusal : verdict.refusal = some error := fails
    simp only [resume, refusal]

end Wait

namespace Passage

variable {passage : Passage} {wake : Nat} {wait : Wait}

/-- An action that waits for an answer knows what the surface said when it was asked. -/
theorem foretells (ends : passage.next = .waiting wake wait) :
    wait.Foretold passage.world ∧
      ∀ injection ∈ passage.told, ∀ mode host, wait.failure? mode host = injection.refusal := by
  have leaves := passage.slot.step_leaves passage.context passage.duration passage.world
  rw [← Passage.next, ends] at leaves
  refine ⟨leaves.foretold, fun injection told mode host => ?_⟩
  rcases passage.told_cases with ⟨none, -⟩ | ⟨_, _, _, one, waits, -, expects⟩
  · rw [none] at told
    exact absurd told List.not_mem_nil
  · cases ends.symm.trans waits
    rw [one, List.mem_singleton] at told
    rw [told]
    exact Wait.failure?_of_verdict? expects.verdict mode host

/-- An action that hears of a failure settles with its report. -/
theorem settles {error : HostError} (waits : passage.slot = .waiting wake wait)
    (fails : wait.failure? passage.context.mode passage.world.host = some error) :
    passage.next = .settled (.error (wait.report passage.world.inputs.store error)) := by
  rw [next, waits, Slot.step]
  dsimp only
  rw [Wait.resume_report fails]
  rfl

end Passage

/-! ### Where an action stands -/

/-- At this spot of the activity an action stands in this slot. -/
def Activity.Stands (spot : Spot) (slot : Slot) : Activity → Prop
  | .ticking _ _ slots rest => rest.length = spot.behind ∧ slots[spot.place]? = some slot
  | .releasing _ _ own rest => rest.length = spot.behind ∧ spot.place = 0 ∧ own = slot
  | _ => False

namespace Activity

variable {activity : Activity} {spot : Spot} {slot : Slot} {call : Nat} {world : World}
  {passage : Passage}

theorem Stands.unfinished (h : activity.Stands spot slot) : activity.isFinished = false := by
  cases activity <;> first | rfl | exact h.elim

/-- Where an action stands, its next section goes on from its slot. -/
theorem Stands.slot_eq (h : activity.Stands spot slot)
    (passes : activity.passage? call world = some passage) (here : passage.spot = spot) :
    passage.slot = slot := by
  subst here
  cases activity with
  | ticking context duration slots rest =>
    rcases passage?_ticking context duration slots rest call world with
      ⟨left, own, right, rfl, -, found⟩ | ⟨-, none⟩
    · cases found.symm.trans passes
      exact Option.some.inj (Schedule.getElem?_place.symm.trans h.2)
    · cases none.symm.trans passes
  | releasing context entry own rest =>
    cases passes
    exact h.2.2
  | _ => exact h.elim

/-- An action that is not settled stands where its section has left it. -/
theorem stands_of_passage (passes : activity.passage? call world = some passage)
    (unsettled : passage.next.isSettled = false) (session : Session) :
    (activity.step session world).2.Stands passage.spot passage.next := by
  cases activity with
  | ticking context duration slots rest =>
    rcases passage?_ticking context duration slots rest call world with
      ⟨left, own, right, rfl, ran, found⟩ | ⟨-, none⟩
    · cases found.symm.trans passes
      simp only [step, ran]
      exact ⟨rfl, Schedule.getElem?_place⟩
    · cases none.symm.trans passes
  | releasing context entry own rest =>
    cases passes
    simp only [step, afterEntry]
    split
    next done => cases unsettled.symm.trans (congrArg Slot.isSettled done)
    next failed => cases unsettled.symm.trans (congrArg Slot.isSettled failed)
    next => exact ⟨rfl, rfl, rfl⟩
  | _ => cases passes

/-- An action that is not settled stands where it is until its next section. -/
theorem Stands.step (h : activity.Stands spot slot) (unsettled : slot.isSettled = false)
    (ready : activity.isReady world.now = true)
    (elsewhere : ∀ passage, activity.passage? spot.call world = some passage →
      passage.spot ≠ spot) (session : Session) :
    (activity.step session world).2.Stands spot slot := by
  cases activity with
  | ticking context duration slots rest =>
    obtain ⟨behind, stands⟩ := h
    rcases passage?_ticking context duration slots rest spot.call world with
      ⟨left, own, right, rfl, ran, found⟩ | ⟨idle, -⟩
    · have apart : left.length ≠ spot.place := by
        rintro place
        exact elsewhere _ found (by rw [behind, place])
      simp only [Activity.step, ran]
      exact ⟨behind, (Schedule.getElem?_replaced apart own _ right).trans stands⟩
    -- The tick is over, and so are all of its actions.
    · simp only [isReady, Slot.stepFirst_eq_none idle, Bool.false_or, List.all_eq_true] at ready
      cases unsettled.symm.trans (ready slot (List.mem_of_getElem? stands))
  | releasing context entry own rest =>
    obtain ⟨behind, place, -⟩ := h
    exact absurd (by rw [behind, ← place]) (elsewhere _ rfl)
  | _ => exact h.elim

/-- An entry whose replay fails interrupts its release with the error. -/
theorem interrupted_of_passage {context : Context} {entry : Action} {own : Slot}
    {rest : List Action} {error : ActionError}
    (ready : (releasing context entry own rest).isReady world.now = true)
    (passes : (releasing context entry own rest).passage? call world = some passage)
    (fails : passage.next = .settled (.error error)) (session : Session) :
    ((releasing context entry own rest).step session world).2 =
      .finished world.now (.result (.error error)) := by
  cases passes
  have fails : (own.step context 0 world).2 = .settled (.error error) := fails
  have now : (own.step context 0 world).1.now = world.now := by
    rcases (Bool.or_eq_true _ _).mp ready with ready | settled
    · exact (Slot.step_bound context 0 ready).1
    · cases own <;> first | rfl | cases settled
  simp only [step, fails, afterEntry, now]

end Activity

/-! ### Histories -/

namespace Schedule

variable {session : Session} {joins : Schedule → Request → Prop}
  {moves : Schedule → Schedule → Prop} {start s : Schedule} {log : List Advance}
  {spot : Spot} {slot : Slot}

/-- At this spot of the session an action stands in this slot. -/
def Stands (s : Schedule) (spot : Spot) (slot : Slot) : Prop :=
  ∃ activity, s.activities[spot.call]? = some activity ∧ activity.Stands spot slot

theorem Stands.unfinished (h : s.Stands spot slot) : s.isFinished = false := by
  obtain ⟨activity, found, stands⟩ := h
  by_contra finished
  rw [Bool.not_eq_false] at finished
  have answered := List.all_eq_true.mp finished activity (List.mem_of_getElem? found)
  exact nomatch stands.unfinished.symm.trans answered

/-- An action that is not settled stands where it is until its next section, which goes on from
there. -/
theorem Chronicle.goesOn (h : Chronicle joins moves start s log) (stands : start.Stands spot slot)
    (unsettled : slot.isSettled = false) :
    s.Stands spot slot ∧ (∀ other ∈ trail log, other.spot ≠ spot) ∨
      ∃ (between : List Advance) (answering : Advance) (after : List Advance) (answer : Passage),
        log = between ++ answering :: after ∧
        (∀ other ∈ trail between, other.spot ≠ spot) ∧
        answering.passage? = some answer ∧ answer.spot = spot ∧ answer.slot = slot := by
  induction h with
  | begins => exact Or.inl ⟨stands, List.forall_mem_nil _⟩
  | join _ instant request _ ih =>
    rcases ih with ⟨⟨activity, found, stands⟩, none⟩ | went
    · have inside := (List.getElem?_eq_some_iff.mp found).1
      exact Or.inl ⟨⟨activity, (List.getElem?_append_left inside).trans found, stands⟩, none⟩
    · exact Or.inr went
  | elapse _ _ _ ih => exact ih
  | @advance session world left activity right log _ ready _ ih =>
    rcases ih with ⟨⟨own, found, stands⟩, none⟩ | ⟨between, answering, after, answer, rfl, went⟩
    -- Either the section is the next one of the action, or it leaves the action where it stands.
    · by_cases passed : ∃ answer, activity.passage? left.length world = some answer ∧
        answer.spot = spot
      · obtain ⟨answer, passes, same⟩ := passed
        have here : left.length = spot.call :=
          same ▸ (Activity.step_of_passage passes session).2.2.2.symm
        rw [← here, getElem?_place] at found
        cases found
        exact Or.inr ⟨log, _, [], answer, rfl, none, passes, same, stands.slot_eq passes same⟩
      · have none : ∀ other ∈ trail (log ++ [⟨left.length, activity, world⟩]),
            other.spot ≠ spot := by
          rw [trail_concat]
          refine List.forall_mem_append.mpr ⟨none, fun other listed same => ?_⟩
          exact passed ⟨other, Option.mem_toList.mp listed, same⟩
        refine Or.inl ⟨?_, none⟩
        by_cases here : left.length = spot.call
        · rw [← here, getElem?_place] at found
          cases found
          refine ⟨_, by rw [← here, getElem?_place], ?_⟩
          exact stands.step unsettled ready (fun answer passes same =>
            passed ⟨answer, here ▸ passes, same⟩) session
        · rw [← getElem?_replaced here activity (activity.step session world).2] at found
          exact ⟨own, found, stands⟩
    · exact Or.inr ⟨between, answering, after ++ [⟨left.length, activity, world⟩], answer, by simp,
        went⟩

/-- What is known of a trigger is forgotten only by a reset. -/
theorem Chronicle.resets_of_held? (h : Chronicle joins moves start s log) {id : SourceId}
    {trigger : Trigger} (known : start.world.inputs.store.held? id trigger ≠ none)
    (gone : s.world.inputs.store.held? id trigger = none) :
    ∃ other ∈ log, other.activity.isReset = true := by
  by_contra kept
  have kept : ∀ other ∈ log, other.activity.isReset = false := fun other member => by
    by_contra resets
    exact kept ⟨other, member, by simpa using resets⟩
  exact Store.held?_ne_none_of_kinds (h.keeps kept) known gone

/-- What the surface refuses is reported. Whatever runs together on a fresh session, an action that
has asked the surface for something knows how an event will be answered. It waits until the answer
comes, and if the answer is an error, that is its result, and that of the release which replays it.
The one exception is a refused lift whose trigger cannot be pressed again, because a reset came
while the answer was awaited: then the fault of the press is reported, and the error is not. -/
theorem refusals_reported {host : Host}
    (h : Chronicle joins moves ⟨session, .initial host, []⟩ s log) :
    ∀ (early : List Advance) (asked : Advance) (late : List Advance),
      log = early ++ asked :: late →
      ∀ request wake wait, asked.passage? = some request → request.next = .waiting wake wait →
      (wait.Foretold request.world ∧
        ∀ injection ∈ request.told, ∀ mode host, wait.failure? mode host = injection.refusal) ∧
      (s.isFinished = false ∧ s.Stands request.spot request.next ∨
        ∃ (between : List Advance) (answering : Advance) (after : List Advance) (answer : Passage),
          late = between ++ answering :: after ∧
          (∀ other ∈ trail between, other.spot ≠ request.spot) ∧
          answering.passage? = some answer ∧ answer.spot = request.spot ∧
          answer.slot = request.next ∧
          ∀ error, wait.failure? answer.context.mode answering.world.host = some error →
            let report := wait.report answering.world.inputs.store error
            answer.next = .settled (.error report) ∧
            (report = .host error ∨ wait.lift?.isSome = true ∧
              (∃ fault, report = .invalidArgument fault) ∧
              ∃ other ∈ between, other.activity.isReset = true) ∧
            ∀ context entry slot rest, answering.activity = .releasing context entry slot rest →
              answering.next session =
                .finished answering.world.now (.result (.error report))) := by
  rintro early asked late rfl request wake wait asks ends
  refine ⟨Passage.foretells ends, ?_⟩
  obtain ⟨left, right, -, here, -, rest⟩ := h.split
  obtain ⟨store, -, -, call⟩ := Activity.step_of_passage asks session
  have unsettled : request.next.isSettled = false := by rw [ends]; rfl
  have stands : Schedule.Stands ⟨session, asked.after session,
      left ++ asked.next session :: right⟩ request.spot request.next := by
    refine ⟨asked.next session, ?_, Activity.stands_of_passage asks unsettled session⟩
    rw [call, ← here, getElem?_place]
  rcases rest.goesOn stands unsettled with
    ⟨waits, -⟩ | ⟨between, answering, after, answer, rfl, apart, answers, spot, same⟩
  · exact Or.inl ⟨waits.unfinished, waits⟩
  refine Or.inr ⟨between, answering, after, answer, rfl, apart, answers, spot, same, ?_⟩
  intro error fails report
  obtain ⟨_, _, middle, -, ready, -⟩ := rest.split
  obtain ⟨-, -, world, -⟩ := Activity.step_of_passage answers session
  have settles : answer.next = .settled (.error report) := by
    rw [← world] at fails
    rw [Passage.settles (same.trans ends) fails, world]
  refine ⟨settles, ?_, fun context entry slot rest releases => ?_⟩
  · rcases wait.report_cases answering.world.inputs.store error with
      passes | ⟨id, trigger, verdict, fault, under, gone, masks⟩
    · exact Or.inl passes
    -- The lift was made on a source that knew the trigger, and now nothing is known of it.
    · have turn := request.slot.step_turn request.context request.duration request.world
      have lifted : request.next.lift? = some (id, trigger, verdict) := by rw [ends]; exact under
      have known : (asked.after session).inputs.store.held? id trigger ≠ none := by
        rw [Advance.after, store]
        exact turn.root lifted
      exact Or.inr ⟨by rw [under]; rfl, ⟨fault, masks⟩, middle.resets_of_held? known gone⟩
  · obtain ⟨number, activity, world⟩ := answering
    cases releases
    exact Activity.interrupted_of_passage ready answers settles session

/-- Two buttons are pressed. A release fails to lift the first of them, but everything is forgotten
before the answer comes. -/
def bereaves : Schedule :=
  let fresh : Schedule := ⟨.ofConfig .standard, .initial balks, []⟩
  ((fresh.join 0 (clicking [0, 1])).join 6 .release).join 8 .reset

/-- The errors that calls have answered with. -/
def errors (s : Schedule) : List ActionError :=
  s.activities.filterMap fun
    | .finished _ (.result (.error error)) => some error
    | _ => none

/-- Whether a section asks for an event that is going to be refused. -/
private def isRefused (advance : Advance) : Bool :=
  match advance.passage? with
  | some request => request.told.any (·.refusal = some (.injection "busy"))
  | none => false

/-- Whether a section, if it hears of a refusal, misses the mouse. -/
private def misses (advance : Advance) : Bool :=
  match advance.passage? with
  | some answer => (answer.slot.verdict?.bind (·.refusal)).isNone ||
      answer.next.error? = some (.invalidArgument (.unknownSource ⟨"m"⟩))
  | none => true

/-- The release says that it does not know the mouse, and nobody says that the surface is busy. -/
theorem bereaves_masked :
    let log := bereaves.annals 14
    let done := bereaves.steps 14
    Chronicle (fun _ _ => True) (fun _ _ => True) ⟨.ofConfig .standard, .initial balks, []⟩ done
        log ∧
      done.errors = [.invalidArgument (.unknownSource ⟨"m"⟩)] ∧
      ∃ asked ∈ log, ∃ request injection, asked.passage? = some request ∧
        injection ∈ request.told ∧ injection.refusal = some (.injection "busy") ∧
        ∃ answering ∈ log, ∃ answer, answering.passage? = some answer ∧
          answer.slot = request.next ∧
          answer.next = .settled (.error (.invalidArgument (.unknownSource ⟨"m"⟩))) := by
  intro log done
  have begun : Chronicle (fun _ _ => True) (fun _ _ => True)
      ⟨.ofConfig .standard, .initial balks, []⟩ bereaves [] :=
    ((Chronicle.begins.join 0 _ trivial).join 6 _ trivial).join 8 _ trivial
  have chronicle := begun.steps (fun _ _ => trivial) 14
  rw [List.nil_append] at chronicle
  have finished : done.isFinished = true := by decide +kernel
  have occurs : log.any isRefused = true := by decide +kernel
  have missed : log.all misses = true := by decide +kernel
  refine ⟨chronicle, by decide +kernel, ?_⟩
  obtain ⟨asked, member, is⟩ := List.any_eq_true.mp occurs
  obtain ⟨early, late, split⟩ := List.append_of_mem member
  unfold isRefused at is
  split at is
  case h_2 => cases is
  next request asks =>
    obtain ⟨injection, told, refused⟩ := List.any_eq_true.mp is
    have refused : injection.refusal = some (.injection "busy") := of_decide_eq_true refused
    rcases request.told_cases with ⟨none, -⟩ | ⟨wake, wait, one, tells, ends, -, expects⟩
    · rw [none] at told
      exact absurd told List.not_mem_nil
    obtain ⟨⟨-, foretold⟩, ⟨live, -⟩ |
        ⟨between, answering, after, answer, rfl, -, answers, -, same, reports⟩⟩ :=
      refusals_reported chronicle early asked late split request wake wait asks ends
    · cases finished.symm.trans live
    have listed : answering ∈ log := by simp [split]
    have settles := (reports (.injection "busy") ((foretold injection told _ _).trans refused)).1
    refine ⟨asked, member, request, injection, asks, told, refused, answering, listed, answer,
      answers, same, ?_⟩
    -- The answer is a refusal, so its section misses the mouse.
    have heard : (answer.slot.verdict?.bind (·.refusal)).isNone = false := by
      rw [tells, List.mem_singleton] at told
      rw [same, ends, Slot.verdict?, expects.verdict, ← told, Option.bind_some, refused]
      rfl
    have misses := List.all_eq_true.mp missed answering listed
    unfold Schedule.misses at misses
    rw [answers] at misses
    dsimp only at misses
    rw [heard, Bool.false_or, decide_eq_true_iff, settles] at misses
    rw [settles, Option.some.inj misses]

end Schedule

end InputActions
