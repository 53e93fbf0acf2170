import InputActions.Proofs.Interleaving
import InputActions.Proofs.Replaying
import InputActions.Proofs.Underway

/-!
# Latencies do not matter

On a surface that shows the same scene whenever it is asked and refuses no event, a chain that is
performed on its own comes to the account of its actions in turn, however long the surface takes to
answer: `World.ask_perform_in_turn`. The reason is one invariant of a tick in progress. The account
that it stands for is the same before and after every section (`Slot.step_serves`), because presses
and lifts take effect in the first section of an action, in the order of the tick, and what follows
only moves pointers.
-/
namespace InputActions

/-- Whether a name is that of a mouse. -/
def Inputs.IsMouse (inputs : Inputs) (id : SourceId) : Prop :=
  inputs.store.kind? id = some (.pointer .mouse)

theorem Inputs.IsMouse.found {inputs : Inputs} {id : SourceId} (h : inputs.IsMouse id) :
    ∃ s, inputs.store.mouse id = .ok s := by
  cases found : inputs.store.mouse id with
  | ok s => exact ⟨s, rfl⟩
  | error error => exact absurd h (Store.kind?_of_mouse_error found)

theorem Inputs.isMouse_of_found {inputs : Inputs} {id : SourceId} {s : PointerSource}
    (h : inputs.store.mouse id = .ok s) : inputs.IsMouse id := by
  obtain ⟨found, mouse⟩ := Store.mouse_eq_ok h
  rw [IsMouse, Store.kind?, found, Option.map_some, Source.kind, mouse]

theorem Inputs.kind?_place (inputs : Inputs) (id other : SourceId) (position : Point) :
    (inputs.place id position).store.kind? other = inputs.store.kind? other := by
  rw [Store.kind?, Store.kind?, place, Store.getElem?_setPosition]
  cases inputs.store[other]? with
  | none => rfl
  | some source => cases source <;> simp [Source.moved, Source.kind]

/-! ### What is awaited -/

/-- The answers that a wait carries are those of the scene, and a move is one of a mouse. -/
def Wait.Awaits (scene : Scene) (inputs : Inputs) : Wait → Prop
  | .pause => True
  | .keydown _ _ _ verdict => verdict.refusal = none
  | .keypress verdict => verdict.refusal = none
  | .keyup _ _ verdict => verdict.refusal = none
  | .mousedown _ _ _ verdict => verdict.refusal = none
  | .contextmenu verdict => verdict.refusal = none
  | .mouseup _ _ verdict => verdict.refusal = none
  | .center move ref refusal =>
    inputs.IsMouse move.id ∧
      refusal = if scene.stale ref then some (.staleElement ref.shown) else none
  | .viewport move _ refusal => inputs.IsMouse move.id ∧ refusal = scene.hidden
  | .sample move _ => inputs.IsMouse move.id
  | .step move _ _ verdict => inputs.IsMouse move.id ∧ verdict.refusal = none
  | .arrival id _ verdict => inputs.IsMouse id ∧ verdict.refusal = none

def Slot.Awaits (scene : Scene) (inputs : Inputs) : Slot → Prop
  | .waiting _ wait => wait.Awaits scene inputs
  | _ => True

/-- What is awaited stays so for as long as mice stay mice. -/
theorem Slot.Awaits.of_mice {scene : Scene} {slot : Slot} {inputs next : Inputs}
    (h : slot.Awaits scene inputs) (mice : ∀ id, inputs.IsMouse id → next.IsMouse id) :
    slot.Awaits scene next := by
  cases slot with
  | waiting wake wait =>
    cases wait with
    | center | viewport | step | arrival => exact ⟨mice _ h.1, h.2⟩
    | sample => exact mice _ h
    | _ => exact h
  | _ => trivial

/-- What is awaited depends on no more of the inputs than the kinds of sources. -/
theorem Slot.Awaits.of_kinds {scene : Scene} {slot : Slot} {inputs next : Inputs}
    (h : slot.Awaits scene inputs) (kinds : ∀ id, next.store.kind? id = inputs.store.kind? id) :
    slot.Awaits scene next :=
  h.of_mice fun id known => (kinds id).trans known

/-! ### Sections -/

/-- A section of an action that still comes to the same, and adds to the reports in turn. -/
structure Slot.Serves (context : Context) (scene : Scene) (slot : Slot) (before after : World)
    (next : Slot) : Prop where
  mover : next.mover? = slot.mover? ∨ next.mover? = none
  awaits : next.Awaits scene after.inputs
  carries : ∃ new, after.host.reports = before.host.reports ++ new ∧
    slot.Carries context scene next before.inputs after.inputs new

/-- A request adds its report at the end. -/
theorem World.reports_request (world : World) (id : SourceId) (event : Event)
    (wait : Verdict → Wait) :
    (world.request id event wait).1.host.reports = world.host.reports ++ event.reports id := by
  simp [request, inject, Host.reports]

theorem World.reports_request_silent (world : World) (id : SourceId) {event : Event}
    (silent : event.press? = none) (wait : Verdict → Wait) :
    (world.request id event wait).1.host.reports = world.host.reports := by
  rw [reports_request, Event.reports, silent]
  exact List.append_nil _

theorem World.reports_resetClick (world : World) :
    world.resetClick.host.reports = world.host.reports := by
  unfold resetClick Host.resetClick
  dsimp only
  split <;> rfl

namespace Slot.Serves

variable {context : Context} {scene : Scene} {world after : World} {slot next : Slot}
  {action : Action} {inputs : Inputs}

theorem failed {error : ActionError}
    (alone : action.alone context scene world.inputs = .error error) :
    (Slot.ready action).Serves context scene world world (.settled (.error error)) where
  mover := Or.inr rfl
  awaits := trivial
  carries := ⟨[], (List.append_nil _).symm, .setsOut alone rfl (Or.inr rfl)⟩

theorem done (alone : action.alone context scene world.inputs = .ok (world.inputs, [])) :
    (Slot.ready action).Serves context scene world world (.settled (.ok ())) where
  mover := Or.inr rfl
  awaits := trivial
  carries := ⟨[], (List.append_nil _).symm, .acts alone rfl rfl⟩

/-- A press or lift takes effect at once. -/
theorem reported {event : Event} {wake : Nat} {wait : Wait}
    (alone : action.alone context scene world.inputs = .ok (inputs, event.reports action.id))
    (same : after.inputs = inputs)
    (reports : after.host.reports = world.host.reports ++ event.reports action.id)
    (mover : wait.mover? = none) (awaits : wait.Awaits scene after.inputs)
    (still : wait.lands context scene = .ok []) :
    (Slot.ready action).Serves context scene world after (.waiting wake wait) where
  mover := Or.inr mover
  awaits := awaits
  carries := ⟨_, reports, .acts (by rw [same]; exact alone) rfl still⟩

/-- A move asks where its target is. -/
theorem setsOut {wake : Nat} {wait : Wait}
    (alone : action.alone context scene world.inputs =
      (wait.lands context scene).map fun landings => (world.inputs.placeAll landings, []))
    (inputs : after.inputs = world.inputs) (reports : after.host.reports = world.host.reports)
    (mover : wait.mover? = action.mover?) (awaits : wait.Awaits scene world.inputs) :
    (Slot.ready action).Serves context scene world after (.waiting wake wait) where
  mover := Or.inl mover
  awaits := by rwa [inputs]
  carries := by
    refine ⟨[], reports.trans (List.append_nil _).symm, ?_⟩
    rw [inputs]
    exact .setsOut alone rfl (Or.inl mover)

/-- A wait is followed by another for the same. -/
theorem stays (began : slot.isBegun = true) (begun : next.isBegun = true)
    (inputs : after.inputs = world.inputs)
    (reports : after.host.reports = world.host.reports)
    (mover : next.mover? = slot.mover? ∨ next.mover? = none)
    (awaits : next.Awaits scene world.inputs)
    (same : next.lands context scene = slot.lands context scene) :
    slot.Serves context scene world after next where
  mover := mover
  awaits := by rwa [inputs]
  carries := by
    refine ⟨[], reports.trans (List.append_nil _).symm, ?_⟩
    rw [inputs]
    exact .stays _ began begun same

/-- A move comes to a sample on its way, or to its target. -/
theorem lands {id : SourceId} {position target : Point} (began : slot.isBegun = true)
    (begun : next.isBegun = true)
    (inputs : after.inputs = world.inputs.place id position)
    (reports : after.host.reports = world.host.reports)
    (landing : slot.lands context scene = .ok [(id, target)])
    (goes : next.lands context scene = .ok [(id, target)] ∨
      next.lands context scene = .ok [] ∧ position = target)
    (mover : next.mover? = slot.mover? ∨ next.mover? = none)
    (awaits : next.Awaits scene world.inputs) :
    slot.Serves context scene world after next where
  mover := mover
  awaits := awaits.of_kinds fun other => by rw [inputs, Inputs.kind?_place]
  carries := by
    refine ⟨[], reports.trans (List.append_nil _).symm, ?_⟩
    rw [inputs]
    exact .lands _ began begun landing goes

end Slot.Serves

/-! ### First sections -/

section
variable {context : Context} {scene : Scene} {world : World} (shows : world.host.Shows scene)
  {action : Action}
include shows

private theorem serves_keyDown {value : String} (gesture : action.gesture = .keyDown value) :
    (Slot.ready action).Serves context scene world (action.beginKeyDown value world).1
      (Slot.ofOutcome (action.beginKeyDown value world).1
        (action.beginKeyDown value world).2) := by
  unfold Action.beginKeyDown
  cases pressed : world.inputs.pressKey action value with
  | error fault => exact .failed (by simp only [Action.alone, gesture, pressed])
  | ok result =>
    obtain ⟨event, printable, inputs⟩ := result
    have alone : action.alone context scene world.inputs =
        .ok (inputs, (Event.key event).reports action.id) := by
      simp only [Action.alone, gesture, pressed]
    exact .reported alone rfl (World.reports_request ..) rfl (shows.willing _ _) rfl

private theorem serves_keyUp {value : String} (gesture : action.gesture = .keyUp value) :
    (Slot.ready action).Serves context scene world (action.beginKeyUp value world).1
      (Slot.ofOutcome (action.beginKeyUp value world).1 (action.beginKeyUp value world).2) := by
  unfold Action.beginKeyUp
  cases lifted : world.inputs.liftKey action value with
  | error fault => exact .failed (by simp only [Action.alone, gesture, lifted])
  | ok result =>
    cases result with
    | none => exact .done (by simp only [Action.alone, gesture, lifted])
    | some result =>
      obtain ⟨event, inputs⟩ := result
      have alone : action.alone context scene world.inputs =
          .ok (inputs, (Event.key event).reports action.id) := by
        simp only [Action.alone, gesture, lifted]
      exact .reported alone rfl (World.reports_request ..) rfl (shows.willing _ _) rfl

private theorem serves_pointerDown {button : UInt32}
    (gesture : action.gesture = .pointerDown button) :
    (Slot.ready action).Serves context scene world (action.beginPointerDown context button world).1
      (Slot.ofOutcome (action.beginPointerDown context button world).1
        (action.beginPointerDown context button world).2) := by
  unfold Action.beginPointerDown
  cases pressed : world.inputs.pressButton action button with
  | error error => exact .failed (by simp only [Action.alone, gesture, pressed])
  | ok result =>
    cases result with
    | none => exact .done (by simp only [Action.alone, gesture, pressed])
    | some result =>
      obtain ⟨event, inputs⟩ := result
      have alone : action.alone context scene world.inputs =
          .ok (inputs, (Event.mouse (event.pressing context scene)).reports action.id) := by
        simp only [Action.alone, gesture, pressed]
      unfold MouseEvent.pressing at alone
      dsimp only
      rw [shows.doubleClick]
      -- A click of the secondary button also resets the last click, which the inputs do not show.
      cases secondary : event.modifiers.ctrl && decide (context.session.config.platform = .mac) with
      | false =>
        simp only [secondary] at alone ⊢
        exact .reported alone rfl (World.reports_request ..) rfl (shows.willing _ _) rfl
      | true =>
        simp only [secondary] at alone ⊢
        have reset := shows.of_surface (World.surface_resetClick { world with inputs := inputs })
        refine .reported alone rfl ?_ rfl (reset.willing _ _) rfl
        exact (World.reports_request ..).trans (congrArg (· ++ _) (World.reports_resetClick _))

private theorem serves_pointerUp {button : UInt32} (gesture : action.gesture = .pointerUp button) :
    (Slot.ready action).Serves context scene world (action.beginPointerUp button world).1
      (Slot.ofOutcome (action.beginPointerUp button world).1
        (action.beginPointerUp button world).2) := by
  unfold Action.beginPointerUp
  cases lifted : world.inputs.liftButton action button with
  | error error => exact .failed (by simp only [Action.alone, gesture, lifted])
  | ok result =>
    cases result with
    | none => exact .done (by simp only [Action.alone, gesture, lifted])
    | some result =>
      obtain ⟨event, inputs⟩ := result
      have alone : action.alone context scene world.inputs =
          .ok (inputs, (Event.mouse (event.lifting scene)).reports action.id) := by
        simp only [Action.alone, gesture, lifted]
      unfold MouseEvent.lifting at alone
      dsimp only
      rw [shows.doubleClick]
      exact .reported alone rfl (World.reports_request ..) rfl (shows.willing _ _) rfl

private theorem serves_pointerMove (tickDuration : UInt64) {duration : Option UInt64}
    {origin : Origin} {dx dy : Int64}
    (gesture : action.gesture = .pointerMove duration origin dx dy) :
    (Slot.ready action).Serves context scene world
      (action.beginPointerMove tickDuration origin dx dy world).1
      (Slot.ofOutcome (action.beginPointerMove tickDuration origin dx dy world).1
        (action.beginPointerMove tickDuration origin dx dy world).2) := by
  unfold Action.beginPointerMove
  cases found : world.inputs.store.mouse action.id with
  | error error => exact .failed (by simp only [Action.alone, gesture, found])
  | ok source =>
    have mouse := Inputs.isMouse_of_found found
    have alone : action.alone context scene world.inputs =
        ((scene.aim context.mode source.position origin dx dy).map fun target =>
          [(action.id, target)]).map fun landings => (world.inputs.placeAll landings, []) := by
      simp only [Action.alone, gesture, found]
      cases scene.aim context.mode source.position origin dx dy <;> rfl
    have mover : some action.id = action.mover? := by rw [Action.mover?, gesture]
    cases origin with
    | viewport => exact .setsOut alone rfl rfl mover ⟨mouse, shows.hidden _ _⟩
    | pointer => exact .setsOut alone rfl rfl mover ⟨mouse, shows.hidden _ _⟩
    | element ref => exact .setsOut alone rfl rfl mover ⟨mouse, by rw [shows.stale]⟩

theorem Action.begin_serves (tickDuration : UInt64) :
    (Slot.ready action).Serves context scene world (action.begin context tickDuration world).1
      (Slot.ofOutcome (action.begin context tickDuration world).1
        (action.begin context tickDuration world).2) := by
  unfold begin
  cases gesture : action.gesture with
  | keyDown value => exact serves_keyDown shows gesture
  | keyUp value => exact serves_keyUp shows gesture
  | pointerDown button => exact serves_pointerDown shows gesture
  | pointerUp button => exact serves_pointerUp shows gesture
  | pointerMove duration origin dx dy => exact serves_pointerMove shows _ gesture
  | pointerCancel => exact .failed (by simp only [alone, gesture])
  | pause duration =>
    have alone : action.alone context scene world.inputs = .ok (world.inputs, []) := by
      simp only [alone, gesture]
    have mover : none = action.mover? := by rw [mover?, gesture]
    dsimp only
    split
    · exact .done alone
    · exact .setsOut alone rfl rfl mover trivial

/-! ### Later sections -/

variable {wake : Nat} {wait : Wait} {id : SourceId} {target : Point}

private theorem serves_moveToTarget (mouse : world.inputs.IsMouse id)
    (mover : wait.mover? = some id) (lands : wait.lands context scene = .ok [(id, target)]) :
    (Slot.waiting wake wait).Serves context scene world (world.moveToTarget id target).1
      (Slot.ofOutcome (world.moveToTarget id target).1 (world.moveToTarget id target).2) := by
  obtain ⟨source, found⟩ := mouse.found
  unfold World.moveToTarget Inputs.moveEvent
  rw [found]
  simp only [bind, Except.bind, pure, Except.pure]
  -- A pointer that is there already arrives without an event.
  by_cases here : source.position = target
  · simp only [if_pos here]
    have still : world.inputs = world.inputs.place id source.position :=
      (Inputs.place_self _ _ (Store.mouse_eq_ok found).1).symm
    exact .lands rfl rfl still rfl lands (Or.inr ⟨rfl, here⟩)
      (Or.inr rfl) trivial
  · simp only [if_neg here]
    exact .stays rfl rfl rfl (World.reports_request_silent _ _ rfl _)
      (Or.inl mover.symm) ⟨mouse, shows.willing _ _⟩ lands.symm

private theorem serves_takeSample {move : Move} (mouse : world.inputs.IsMouse move.id) :
    (Slot.waiting wake (.sample move target)).Serves context scene world
      (Wait.takeSample context move target world).1
      (Slot.ofOutcome (Wait.takeSample context move target world).1
        (Wait.takeSample context move target world).2) := by
  unfold Wait.takeSample
  dsimp only
  split
  -- Whatever the sample is, the target of the move stays.
  · obtain ⟨source, found⟩ := mouse.found
    unfold World.moveToSample Inputs.moveEvent
    rw [found]
    simp only [bind, Except.bind, pure, Except.pure]
    split
    next failed =>
      split at failed <;> cases failed
    next there =>
      exact .stays rfl rfl rfl rfl (Or.inl rfl) mouse rfl
    next event goes =>
      split at goes
      · cases goes
      · cases goes
        exact .stays rfl rfl rfl (World.reports_request_silent _ _ rfl _)
          (Or.inl rfl) ⟨mouse, shows.willing _ _⟩ rfl
  · exact serves_moveToTarget shows mouse rfl rfl

private theorem serves_setOut {move : Move} {base : Point} (mouse : world.inputs.IsMouse move.id)
    (told : scene.hidden = none) (refusal : Option HostError) :
    (Slot.waiting wake (.viewport move base refusal)).Serves context scene world
      (Wait.setOut context move base world).1
      (Slot.ofOutcome (Wait.setOut context move base world).1
        (Wait.setOut context move base world).2) := by
  have lands : (Slot.waiting wake (.viewport move base refusal)).lands context scene =
      (scene.reach base move.dx move.dy).map fun target => [(move.id, target)] := rfl
  unfold Scene.reach at lands
  unfold Wait.setOut
  rw [shows.viewport]
  cases aimed : Motion.target scene.viewport base move.dx move.dy with
  | error cause =>
    simp only [told, aimed] at lands
    exact .stays rfl rfl rfl rfl (Or.inr rfl) trivial lands.symm
  | ok target =>
    simp only [told, aimed] at lands
    dsimp only
    split
    · exact serves_moveToTarget shows mouse rfl lands
    · exact .stays rfl rfl rfl rfl (Or.inl rfl) mouse lands.symm

private theorem serves_center {move : Move} {ref : ElementRef} {refusal : Option HostError}
    (awaits : (Wait.center move ref refusal).Awaits scene world.inputs) :
    (Slot.waiting wake (.center move ref refusal)).Serves context scene world
      ((Wait.center move ref refusal).resume context world).1
      (Slot.ofOutcome ((Wait.center move ref refusal).resume context world).1
        ((Wait.center move ref refusal).resume context world).2) := by
  obtain ⟨mouse, rfl⟩ := awaits
  have lands (refusal : Option HostError) :
      (Slot.waiting wake (.center move ref refusal)).lands context scene =
        (scene.aim context.mode move.start (.element ref) move.dx move.dy).map fun target =>
          [(move.id, target)] := rfl
  unfold Scene.aim Scene.base at lands
  dsimp only [Wait.resume, Host.center]
  rw [shows.elements]
  -- The reasons to fail come in the order in which the scene gives them.
  by_cases stale : scene.stale ref = true
  · simp only [if_pos stale] at lands ⊢
    exact .stays rfl rfl rfl rfl (Or.inr rfl) trivial (lands _).symm
  · simp only [if_neg stale] at lands ⊢
    cases known : scene.elements ref with
    | none =>
      simp only [known] at lands
      exact .stays rfl rfl rfl rfl (Or.inr rfl) trivial (lands _).symm
    | some centers =>
      simp only [known] at lands
      exact .stays rfl rfl rfl rfl (Or.inl rfl)
        ⟨mouse, shows.hidden _ _⟩ (lands _).symm

theorem Wait.resume_serves (awaits : wait.Awaits scene world.inputs) :
    (Slot.waiting wake wait).Serves context scene world (wait.resume context world).1
      (Slot.ofOutcome (wait.resume context world).1 (wait.resume context world).2) := by
  have settles {after : World} (same : after.inputs = world.inputs)
      (reports : after.host.reports = world.host.reports)
      (lands : wait.lands context scene = .ok []) :
      (Slot.waiting wake wait).Serves context scene world after (.settled (.ok ())) :=
    .stays rfl rfl same reports (Or.inr rfl) trivial lands.symm
  cases wait with
  | pause => exact settles rfl rfl rfl
  | keydown id event printable verdict =>
    have accepted : verdict.refusal = none := awaits
    dsimp only [resume]
    rw [accepted]
    unfold afterKeydown
    dsimp only
    split
    · exact .stays rfl rfl rfl (World.reports_request_silent _ _ rfl _)
        (Or.inl rfl) (shows.willing _ _) rfl
    · exact settles rfl rfl rfl
  | keypress verdict | contextmenu verdict | keyup _ _ verdict | mouseup _ _ verdict =>
    have accepted : verdict.refusal = none := awaits
    dsimp only [resume]
    rw [accepted]
    exact settles rfl rfl rfl
  | mousedown id event opensMenu verdict =>
    have accepted : verdict.refusal = none := awaits
    dsimp only [resume]
    rw [accepted]
    dsimp only
    split
    · exact .stays rfl rfl rfl (World.reports_request_silent _ _ rfl _)
        (Or.inl rfl) (shows.willing _ _) rfl
    · exact settles rfl rfl rfl
  | center move ref refusal => exact serves_center shows awaits
  | viewport move base refusal =>
    obtain ⟨mouse, rfl⟩ := awaits
    dsimp only [resume]
    split
    next error hidden =>
      have lands : (Slot.waiting wake (.viewport move base scene.hidden)).lands context scene =
          (scene.reach base move.dx move.dy).map fun target => [(move.id, target)] := rfl
      simp only [Scene.reach, hidden] at lands
      rw [hidden]
      exact .stays rfl rfl rfl rfl (Or.inr rfl) trivial lands.symm
    next told => exact serves_setOut shows mouse told _
  | sample move target => exact serves_takeSample shows awaits
  | step move target position verdict =>
    obtain ⟨mouse, accepted⟩ := awaits
    obtain ⟨source, found⟩ := mouse.found
    dsimp only [resume, World.acknowledge]
    rw [accepted]
    dsimp only
    rw [Inputs.arrive_eq _ _ _ found]
    exact .lands rfl rfl rfl rfl rfl (Or.inl rfl) (Or.inl rfl) mouse
  | arrival id target verdict =>
    obtain ⟨mouse, accepted⟩ := awaits
    obtain ⟨source, found⟩ := mouse.found
    dsimp only [resume, World.acknowledge]
    rw [accepted]
    dsimp only
    rw [Inputs.arrive_eq _ _ _ found]
    exact .lands rfl rfl rfl rfl rfl (Or.inr ⟨rfl, rfl⟩) (Or.inr rfl)
      trivial

/-- Every section leaves what its action comes to as it is. -/
theorem Slot.step_serves {slot : Slot} (duration : UInt64)
    (awaits : slot.Awaits scene world.inputs) :
    slot.Serves context scene world (slot.step context duration world).1
      (slot.step context duration world).2 := by
  cases slot with
  | ready action => exact action.begin_serves shows duration
  | waiting wake wait => exact wait.resume_serves shows awaits
  | settled result =>
    exact .stays rfl rfl rfl rfl (Or.inl rfl) trivial rfl

end

/-! ### Chains on their own -/

/-- No pointer is moved twice. -/
def Tick.MovesApart (tick : Tick) : Prop := (tick.filterMap Action.mover?).Nodup

/-- What has happened so far, with nothing failed. -/
def World.account (world : World) : Account := ⟨world.inputs, world.host.reports, none⟩

theorem Chain.inTurn_of_failure (context : Context) (scene : Scene) (chain : Chain)
    {account : Account} {error : ActionError} (failed : account.failure = some error) :
    chain.inTurn context scene account = account := by
  cases chain with
  | nil => rfl
  | cons tick rest =>
    unfold inTurn
    rw [failed]

/-- A tick whose actions have all settled stands for the first error. -/
theorem Slot.inTurn_settled {slots : List Slot} (settled : ∀ slot ∈ slots, slot.isSettled = true)
    (context : Context) (scene : Scene) (inputs : Inputs) (reports : List (SourceId × Event))
    (failure : Option ActionError) :
    inTurn context scene slots ⟨inputs, reports, failure⟩ =
      ⟨inputs, reports, failure.or (slots.findSome? (·.error?))⟩ := by
  induction slots generalizing failure with
  | nil =>
    rw [List.findSome?_nil, Option.or_none]
    rfl
  | cons slot slots ih =>
    have ih := ih fun other member => settled other (List.mem_cons_of_mem _ member)
    cases slot with
    | settled result =>
      cases result with
      | ok =>
        have fine : (Slot.settled (.ok ())).effect context scene inputs = .ok (inputs, []) := rfl
        rw [inTurn, List.foldl_cons, fine, Account.after, List.append_nil]
        exact ih failure
      | error error =>
        have first := ih (failure.or (some error))
        rw [Option.or_assoc] at first
        exact first
    | _ => cases settled _ List.mem_cons_self

/-- A chain on its way to an account. -/
inductive Activity.LeadsTo (context : Context) (scene : Scene) (account : Account) (world : World) :
    Activity → Prop
  | ticking {duration slots rest} (shows : world.host.Shows scene)
      (awaits : ∀ slot ∈ slots, slot.Awaits scene world.inputs)
      (apart : (slots.filterMap Slot.mover?).Nodup)
      (later : ∀ tick ∈ rest, Tick.MovesApart tick)
      (comes : Chain.inTurn context scene rest (Slot.inTurn context scene slots world.account) =
        account) :
      LeadsTo context scene account world (.ticking context duration slots rest)
  | finished {time answer failure}
      (comes : account = ⟨world.inputs, world.host.reports, failure⟩)
      (answers : answer = .result account.result) :
      LeadsTo context scene account world (.finished time answer)

namespace Activity.LeadsTo

variable {context : Context} {scene : Scene} {account : Account} {world : World}

theorem ofTicks (shows : world.host.Shows scene) {ticks : Chain}
    (apart : ∀ tick ∈ ticks, Tick.MovesApart tick)
    (comes : ticks.inTurn context scene world.account = account) (now : Nat) :
    (Activity.ofTicks context now ticks).LeadsTo context scene account world := by
  cases ticks with
  | nil =>
    subst comes
    exact .finished rfl rfl
  | cons tick rest =>
    refine .ticking shows ?_ ?_ (fun other member => apart other (List.mem_cons_of_mem _ member)) ?_
    · intro slot member
      obtain ⟨action, -, rfl⟩ := List.mem_map.mp member
      trivial
    · rw [List.filterMap_map]
      exact apart tick List.mem_cons_self
    · rw [Slot.inTurn_ready]
      exact comes

private theorem afterTick {slots : List Slot} {rest : Chain} (shows : world.host.Shows scene)
    (settled : ∀ slot ∈ slots, slot.isSettled = true)
    (later : ∀ tick ∈ rest, Tick.MovesApart tick)
    (comes : rest.inTurn context scene (Slot.inTurn context scene slots world.account) = account)
    (now : Nat) :
    (Activity.afterTick context slots rest now).LeadsTo context scene account world := by
  rw [World.account, Slot.inTurn_settled settled, Option.none_or] at comes
  unfold Activity.afterTick
  split
  next error failed =>
    rw [failed, Chain.inTurn_of_failure _ _ _ rfl] at comes
    subst comes
    exact .finished rfl rfl
  next none =>
    rw [none] at comes
    exact ofTicks shows later comes now

/-- A section of the tick leads to the same account. -/
private theorem section_of {duration : UInt64} {left right : List Slot} {slot : Slot} {rest : Chain}
    (shows : world.host.Shows scene) (begun : ∀ other ∈ left, other.isBegun = true)
    (awaits : ∀ other ∈ left ++ slot :: right, other.Awaits scene world.inputs)
    (apart : ((left ++ slot :: right).filterMap Slot.mover?).Nodup)
    (later : ∀ tick ∈ rest, Tick.MovesApart tick)
    (comes : rest.inTurn context scene
      (Slot.inTurn context scene (left ++ slot :: right) world.account) = account) :
    (Activity.ticking context duration (left ++ (slot.step context duration world).2 :: right)
      rest).LeadsTo context scene account (slot.step context duration world).1 := by
  have member : slot ∈ left ++ slot :: right := by simp
  have serves : slot.Serves context scene world (slot.step context duration world).1
      (slot.step context duration world).2 := slot.step_serves shows duration (awaits slot member)
  obtain ⟨mover, awaits', new, reports, carries⟩ := serves
  have kinds := (slot.step_turn context duration world).kind?
  -- Kinds are kept, the pointers in motion get fewer, and the account is that of before.
  refine .ticking (shows.of_surface (slot.step_surface context duration world)) ?_ ?_ later ?_
  · intro other listed
    rcases List.mem_append.mp listed with before | ran
    · exact (awaits other (List.mem_append_left _ before)).of_kinds kinds
    · rcases List.mem_cons.mp ran with rfl | behind
      · exact awaits'
      · have listed := List.mem_append_right left (List.mem_cons_of_mem slot behind)
        exact (awaits other listed).of_kinds kinds
  · refine apart.sublist ?_
    rw [List.filterMap_append, List.filterMap_append]
    refine List.Sublist.append (List.Sublist.refl _) ?_
    rw [List.filterMap_cons, List.filterMap_cons]
    rcases mover with same | none
    · exact same ▸ List.Sublist.refl _
    · rw [none]
      cases slot.mover? with
      | none => exact List.Sublist.refl _
      | some id => exact List.sublist_cons_self _ _
  · rw [World.account, reports, ← comes]
    apply congrArg (Chain.inTurn context scene rest)
    refine (carries.inTurn begun ?_ right _).symm
    intro id moved same
    rw [List.filterMap_append, List.filterMap_cons, same] at apart
    exact (List.nodup_append.mp apart).2.2 id moved id List.mem_cons_self rfl

theorem step {activity : Activity} (h : activity.LeadsTo context scene account world)
    (session : Session) (ready : activity.isReady world.now = true) :
    (activity.step session world).2.LeadsTo context scene account
      (activity.step session world).1 := by
  cases h with
  | finished => cases ready
  | @ticking duration slots rest shows awaits apart later comes =>
    unfold Activity.step
    dsimp only
    split
    next ran =>
      obtain ⟨left, slot, right, rfl, idle, -, rfl, rfl⟩ := Slot.stepFirst_eq_some ran
      -- The slots before the one that runs are not ready, so their actions have begun.
      have begun : ∀ other ∈ left, other.isBegun = true := fun other member =>
        Slot.isBegun_of_idle (idle other member)
      exact section_of shows begun awaits apart later comes
    next none =>
      have idle := Slot.stepFirst_eq_none none
      simp only [Activity.isReady, idle, Bool.false_or, List.all_eq_true] at ready
      exact afterTick shows ready later comes world.now

theorem elapse {activity : Activity} (h : activity.LeadsTo context scene account world)
    (now : Nat) : activity.LeadsTo context scene account { world with now := now } := by
  cases h with
  | finished comes answers => exact .finished comes answers
  | ticking shows awaits apart later comes => exact .ticking shows awaits apart later comes

end Activity.LeadsTo

/-- A chain that is on its own in a schedule leads to the same account at every moment. -/
theorem Schedule.Moves.leadsTo {context : Context} {scene : Scene} {account : Account}
    {s next : Schedule} (moved : s.Moves next)
    (h : ∃ activity, s.activities = [activity] ∧ activity.LeadsTo context scene account s.world) :
    ∃ activity, next.activities = [activity] ∧
      activity.LeadsTo context scene account next.world := by
  obtain ⟨only, single, leads⟩ := h
  -- There is one activity, so it is the one that moves.
  cases moved with
  | elapse => exact ⟨only, single, leads.elapse _⟩
  | @advance session world left activity right ready =>
    obtain ⟨rfl, same⟩ | ⟨-, none⟩ := List.append_eq_singleton_iff.mp single
    · cases same
      exact ⟨_, rfl, leads.step session ready⟩
    · cases none

/-- Latencies do not matter. A chain whose sources register, and no tick of which moves a pointer
twice, comes to the account of its actions in turn when it is performed on a surface that shows a
constant scene: the same triggers are held, with the same flags, positions and pending releases, and
presses and lifts are reported in the same order. The account knows nothing of latencies. -/
theorem World.ask_perform_in_turn {world : World} {scene : Scene} {chain : Chain} {store : Store}
    (registers : world.inputs.store.ensureAll (sourcesOf chain) = (.ok (), store))
    (apart : ∀ tick ∈ chain, Tick.MovesApart tick) (shows : world.host.Shows scene)
    (session : Session) (mode : Option CenterMode) :
    let account := chain.inTurn ⟨session, mode.getD session.config.centerMode⟩ scene
      (world.withStore store).account
    let asked := world.ask session (.perform chain mode)
    asked.1.inputs = account.inputs ∧ asked.1.host.reports = account.reports ∧
      asked.2 = .result account.result := by
  intro account asked
  let context : Context := ⟨session, mode.getD session.config.centerMode⟩
  let begun : Schedule := ⟨session, world.withStore store, [.ofTicks context world.now chain]⟩
  have registered : (world.withStore store).host.Shows scene := shows
  have leads : (Activity.ofTicks context world.now chain).LeadsTo context scene account
      (world.withStore store) := .ofTicks registered apart rfl world.now
  have ran : ∃ activity, begun.run.activities = [activity] ∧
      activity.LeadsTo context scene account begun.run.world :=
    Schedule.run_invariant (fun h moved => moved.leadsTo h) ⟨_, rfl, leads⟩
  obtain ⟨activity, only, leads⟩ := ran
  have ended := Schedule.run_finished begun
  rw [Schedule.isFinished, only, List.all_cons, List.all_nil, Bool.and_true] at ended
  cases leads with
  | ticking => cases ended
  | finished comes answers =>
    have same : asked = (begun.run.world, .result account.result) := by
      have runs := run_perform registers session mode
      rw [← answers]
      exact runs ▸ ask_of_run (runs ▸ only)
    rw [same]
    exact ⟨by rw [comes], by rw [comes], rfl⟩

/-- A surface that takes its time, and more of it for each event. -/
def lags : Host :=
  { Host.prompt ⟨100, 100⟩ with
    injectionDelay := fun tally _ => 7 * tally.injections + 1
    geometryDelay := fun _ _ => 3 }

/-- The mouse moves while a key goes down, and its button is pressed in a tick that fails: the pen
is to move to an element that is not there. -/
def drags : Chain :=
  [[⟨⟨"mouse"⟩, .pointer, none, .pointerMove (some 40) .viewport 30 40⟩,
      ⟨⟨"keyboard"⟩, .key, none, .keyDown "a"⟩],
    [⟨⟨"pen"⟩, .pointer, none, .pointerMove none (.element ⟨"gone"⟩) 0 0⟩,
      ⟨⟨"mouse"⟩, .pointer, none, .pointerDown 0⟩],
    [⟨⟨"mouse"⟩, .pointer, none, .pointerUp 0⟩]]

/-- The move lands late and the press of its button is reported early, but both presses stand, and
the chain ends with the tick of the pen. -/
theorem drags_in_turn :
    let asked := (World.initial lags).ask (.ofConfig .standard) (.perform drags none)
    asked.2 = .result (.error (.host (.noSuchElement "element gone"))) ∧
      asked.1.inputs.Holds ⟨"keyboard"⟩ (.key "a") ∧
      asked.1.inputs.Holds ⟨"mouse"⟩ (.button 0) := by
  intro asked
  have registers : (World.initial lags).inputs.store.ensureAll (World.sourcesOf drags) =
      (.ok (), (Store.ensureAll ∅ (World.sourcesOf drags)).2) := rfl
  have apart : ∀ tick ∈ drags, Tick.MovesApart tick := by
    unfold Tick.MovesApart
    decide
  have shows : (World.initial lags).host.Shows
      ⟨⟨100, 100⟩, none, fun _ => none, fun _ => false, false⟩ :=
    ⟨rfl, fun _ _ => rfl, rfl, rfl, rfl, fun _ _ => rfl⟩
  obtain ⟨inputs, -, answer⟩ :=
    World.ask_perform_in_turn registers apart shows (.ofConfig .standard) none
  have inputs : asked.1.inputs = _ := inputs
  refine ⟨answer.trans rfl, ?_, ?_⟩
  · rw [inputs]
    decide +kernel
  · rw [inputs]
    decide +kernel

end InputActions
