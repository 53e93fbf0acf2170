import InputActions.Proofs.Conserving
import InputActions.Proofs.Registering

/-!
# Chains that go on

A chain can be cut between two ticks. A dispatch of the whole does what a dispatch of its first part
does, and after that, unless it failed, what a dispatch of the second part does, at the same times
and with the same answers of the surface (`World.perform_append`). Until the first part is over
neither run looks at the ticks behind it (`Activity.step_followedBy`).
-/
namespace InputActions

/-! ### More ticks behind an activity -/

/-- The activity with more ticks at the end of its chain. A chain that has run goes on with them,
and one that has failed never comes to them. -/
def Activity.followedBy (more : List Tick) (context : Context) : Activity → Activity
  | .ticking own duration slots rest => .ticking own duration slots (rest ++ more)
  | .finished time (.result (.ok ())) => .ofTicks context time more
  | other => other

/-- What a dispatch is once it has begun: a chain under way, or its answer. -/
def Activity.Dispatches (context : Context) (now : Nat) : Activity → Prop
  | .ticking own .. => own = context
  | .finished time (.result _) => time = now
  | _ => False

namespace Activity

variable {context : Context} {activity : Activity} (session : Session) {world : World}

theorem dispatches_ofTicks (context : Context) (now : Nat) (ticks : List Tick) :
    (ofTicks context now ticks).Dispatches context now := by
  cases ticks <;> exact rfl

theorem followedBy_ofTicks (context : Context) (now : Nat) (first second : List Tick) :
    (ofTicks context now first).followedBy second context =
      ofTicks context now (first ++ second) := by
  cases first <;> rfl

theorem dispatches_afterTick (context : Context) (slots : List Slot) (rest : List Tick)
    (now : Nat) : (afterTick context slots rest now).Dispatches context now := by
  unfold afterTick
  split
  · exact rfl
  · exact dispatches_ofTicks ..

/-- A tick that is over leads to the next one, which may be the first of those behind. -/
theorem followedBy_afterTick (context : Context) (slots : List Slot) (rest more : List Tick)
    (now : Nat) :
    (afterTick context slots rest now).followedBy more context =
      afterTick context slots (rest ++ more) now := by
  unfold afterTick
  split
  · rfl
  · exact followedBy_ofTicks ..

/-- The section of a chain is the same with more ticks behind it, and leaves a chain or the
answer. -/
theorem step_followedBy (more : List Tick) (dispatches : activity.Dispatches context world.now)
    (live : activity.isFinished = false) :
    (activity.followedBy more context).step session world =
        ((activity.step session world).1,
          (activity.step session world).2.followedBy more context) ∧
      (activity.step session world).2.Dispatches context (activity.step session world).1.now := by
  cases activity with
  | ticking own duration slots rest =>
    have same : own = context := dispatches
    subst same
    have whole : (ticking own duration slots rest).followedBy more own =
        .ticking own duration slots (rest ++ more) := rfl
    rw [whole]
    unfold step
    dsimp only
    cases ran : Slot.stepFirst slots own duration world with
    | some result => exact ⟨rfl, rfl⟩
    | none =>
      refine ⟨?_, dispatches_afterTick ..⟩
      dsimp only
      rw [followedBy_afterTick]
  | finished => cases live
  | _ => exact dispatches.elim

end Activity

/-! ### A dispatch on its own -/

namespace Schedule

variable (session : Session) {context : Context} {world : World} {activity : Activity}

/-- A step of a dispatch that is under way is the same step with more ticks behind it, and no source
is lost or changes its kind. -/
theorem step_followedBy (more : List Tick) (dispatches : activity.Dispatches context world.now)
    (live : activity.isFinished = false) :
    ∃ (after : World) (next : Activity),
      (Schedule.mk session world [activity]).step = ⟨session, after, [next]⟩ ∧
      (Schedule.mk session world [activity.followedBy more context]).step =
        ⟨session, after, [next.followedBy more context]⟩ ∧
      next.Dispatches context after.now ∧
      ∀ id kind, world.inputs.store.kind? id = some kind →
        after.inputs.store.kind? id = some kind := by
  obtain ⟨stepped, goesOn⟩ := Activity.step_followedBy session more dispatches live
  cases activity with
  | ticking own duration slots rest =>
    -- Neither whether a tick is ready nor when it will be depends on the ticks behind it.
    cases ready : (Activity.ticking own duration slots rest).isReady world.now with
    | true =>
      have turn := Activity.step_turn session ready
      refine ⟨_, _, ?_, ?_, goesOn, fun _ _ => turn.kind? rfl⟩
      · simp only [step, stepFirst, ready, if_true]
      · have ready' : ((Activity.ticking own duration slots rest).followedBy more context).isReady
            world.now = true := ready
        simp only [step, stepFirst, ready', stepped, if_true]
    | false =>
      have ready' : ((Activity.ticking own duration slots rest).followedBy more context).isReady
          world.now = false := ready
      have instant : nextInstant? [(Activity.ticking own duration slots rest).followedBy more
          context] = nextInstant? [Activity.ticking own duration slots rest] := rfl
      simp only [step, stepFirst, ready, ready', instant, Bool.false_eq_true, if_false,
        Option.map_none]
      cases nextInstant? [Activity.ticking own duration slots rest] with
      | none => exact ⟨_, _, rfl, rfl, dispatches, fun _ _ known => known⟩
      | some instant => exact ⟨_, _, rfl, rfl, dispatches, fun _ _ known => known⟩
  | finished => cases live
  | _ => exact dispatches.elim

/-- A dispatch comes to its answer, and with more ticks behind it to the same moment, from where it
goes on with them. -/
theorem run_followedBy (more : List Tick) (dispatches : activity.Dispatches context world.now) :
    ∃ (after : World) (result : Except ActionError Unit),
      run ⟨session, world, [activity]⟩ =
        ⟨session, after, [.finished after.now (.result result)]⟩ ∧
      run ⟨session, world, [activity.followedBy more context]⟩ =
        run ⟨session, after,
          [(Activity.finished after.now (.result result)).followedBy more context]⟩ ∧
      ∀ id kind, world.inputs.store.kind? id = some kind →
        after.inputs.store.kind? id = some kind := by
  generalize alone : Schedule.mk session world [activity] = schedule
  fun_induction run schedule generalizing world activity with
  | case1 schedule ended =>
    subst alone
    cases activity with
    | finished time answer =>
      cases answer with
      | result result =>
        have time : time = world.now := dispatches
        subst time
        exact ⟨world, result, rfl, rfl, fun _ _ known => known⟩
      | _ => exact dispatches.elim
    | _ => cases ended
  | case2 schedule live ih =>
    subst alone
    have live : activity.isFinished = false := by simpa [isFinished] using live
    obtain ⟨after, next, stepped, behind, goesOn, kinds⟩ :=
      step_followedBy session more dispatches live
    obtain ⟨last, result, ends, together, kept⟩ := ih goesOn stepped.symm
    refine ⟨last, result, ends, ?_, fun id kind known => kept id kind (kinds id kind known)⟩
    have live' : (Schedule.mk session world [activity.followedBy more context]).isFinished =
        false := by
      cases activity with
      | ticking => rfl
      | finished => cases live
      | _ => exact dispatches.elim
    rw [run_of_live live', behind, together]

end Schedule

/-! ### Dispatches one after the other -/

namespace World

/-- A request on its own has the world and the answer at the end of its run. -/
private theorem perform_of_run {world after : World} {session : Session} {request : Request}
    {time : Nat} {answer : Answer}
    (h : Schedule.run ⟨session, world, [.planned world.now request]⟩ =
      ⟨session, after, [.finished time answer]⟩) :
    (Step.request request).perform session world = (after, .answer time answer) := by
  rw [Step.perform, Step.plan, h]
  rfl

section
variable {world : World} (session : Session) (mode : Option CenterMode)

/-- A dispatch of a chain whose sources are registered runs its ticks in the world as it is. -/
private theorem run_registered {chain : Chain} (registered : ∀ action ∈ chain.flatten,
      world.inputs.store.kind? action.id = some action.sourceKind) :
    Schedule.run ⟨session, world, [.planned world.now (.perform chain mode)]⟩ =
      Schedule.run ⟨session, world,
        [.ofTicks ⟨session, mode.getD session.config.centerMode⟩ world.now chain]⟩ := by
  have registers : world.inputs.store.ensureAll (sourcesOf chain) =
      (.ok (), world.inputs.store) := by
    refine Store.ensureAll_of_known fun entry member => ?_
    obtain ⟨action, listed, rfl⟩ := List.mem_map.mp member
    exact registered action listed
  exact run_perform registers session mode

/-- Dispatching a chain is dispatching its two parts one after the other, wherever it is cut. If all
sources are registered, then in any world, however late and with whatever refusals the surface
answers, the first part settles, and a dispatch of the whole comes to the same world, time and
result as one of the first part and, only if that returned ok, one of the second. -/
theorem perform_append {first second : Chain} (registered : ∀ action ∈ (first ++ second).flatten,
      world.inputs.store.kind? action.id = some action.sourceKind) :
    ∃ (between : World) (result : Except ActionError Unit),
      (Step.request (.perform first mode)).perform session world =
        (between, .answer between.now (.result result)) ∧
      (Step.request (.perform (first ++ second) mode)).perform session world =
        match result with
        | .ok () => (Step.request (.perform second mode)).perform session between
        | .error error => (between, .answer between.now (.result (.error error))) := by
  have whole := run_registered session mode registered
  rw [List.flatten_append] at registered
  obtain ⟨inFirst, inSecond⟩ := List.forall_mem_append.mp registered
  have early := run_registered session mode inFirst
  obtain ⟨between, result, ends, together, kept⟩ := Schedule.run_followedBy session second
    (Activity.dispatches_ofTicks ⟨session, mode.getD session.config.centerMode⟩
      world.now first)
  rw [Activity.followedBy_ofTicks, ← whole] at together
  refine ⟨between, result, perform_of_run (early.trans ends), ?_⟩
  cases result with
  | error error =>
    refine perform_of_run (together.trans ?_)
    exact Schedule.run_of_finished rfl
  | ok value =>
    -- The whole goes on as the second part does when it is asked for now.
    have late := run_registered session mode fun action member =>
      kept _ _ (inSecond action member)
    obtain ⟨after, last, ends, -, -⟩ := Schedule.run_followedBy session []
      (Activity.dispatches_ofTicks ⟨session, mode.getD session.config.centerMode⟩
        between.now second)
    rw [perform_of_run (together.trans ends), perform_of_run (late.trans ends)]

end

/-- When the only call settled, and with what. -/
private def settled? (schedule : Schedule) : Option (Nat × Except ActionError Unit) :=
  match schedule.activities with
  | [.finished time (.result result)] => some (time, result)
  | _ => none

private theorem perform_of_steps (session : Session) (world : World) (request : Request) (n : Nat)
    (time : Nat) (result : Except ActionError Unit)
    (settles : settled? (Schedule.steps n ⟨session, world, [.planned world.now request]⟩) =
      some (time, result)) :
    ∃ after, (Step.request request).perform session world =
      (after, .answer time (.result result)) := by
  generalize reached : Schedule.steps n ⟨session, world, [.planned world.now request]⟩ = last
    at settles
  unfold settled? at settles
  split at settles
  next time result only =>
    cases settles
    have ended : last.isFinished = true := by
      rw [Schedule.isFinished, only]
      rfl
    have runs := Schedule.run_eq_steps (reached ▸ ended)
    refine ⟨last.world, ?_⟩
    rw [Step.perform, Step.plan, runs, reached, only]
    rfl
  · cases settles

/-- A keyboard on a surface that refuses the third event. -/
def typewriter : World :=
  (World.initial Schedule.balks).withStore (.insert ∅ ⟨"k"⟩ (.fresh .key))

/-- A tick of the keyboard. -/
def typing (gesture : Gesture) : Chain := [[⟨⟨"k"⟩, .key, none, gesture⟩]]

/-- A letter is typed in ten milliseconds, and its key is not lifted. -/
theorem perform_append_typing :
    let perform (chain : Chain) (world : World) :=
      (Step.request (.perform chain none)).perform (.ofConfig .standard) world
    let refused : ActionError := .host (.injection "busy")
    ∃ between after : World,
      perform (typing (.keyDown "a")) typewriter = (between, .answer 10 (.result (.ok ()))) ∧
      perform (typing (.keyUp "a")) between = (after, .answer 15 (.result (.error refused))) ∧
      perform (typing (.keyDown "a") ++ typing (.keyUp "a")) typewriter =
        (after, .answer 15 (.result (.error refused))) := by
  intro perform refused
  obtain ⟨_, early⟩ := perform_of_steps (.ofConfig .standard) typewriter
    (.perform (typing (.keyDown "a")) none) 7 10 (.ok ()) (by decide +kernel)
  obtain ⟨after, whole⟩ := perform_of_steps (.ofConfig .standard) typewriter
    (.perform (typing (.keyDown "a") ++ typing (.keyUp "a")) none) 11 15 (.error refused)
    (by decide +kernel)
  have registered : ∀ action ∈ (typing (.keyDown "a") ++ typing (.keyUp "a")).flatten,
      typewriter.inputs.store.kind? action.id = some action.sourceKind := by decide +kernel
  obtain ⟨between, result, first, both⟩ := perform_append (.ofConfig .standard) none registered
  have same := first.symm.trans early
  simp only [Prod.mk.injEq, Report.answer.injEq, Answer.result.injEq] at same
  obtain ⟨rfl, -, rfl⟩ := same
  exact ⟨between, after, early, both.symm.trans whole, whole⟩

end World

end InputActions
