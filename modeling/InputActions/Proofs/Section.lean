import InputActions.Proofs.Trigger
import InputActions.Session.Schedule

/-!
# What a section of an action does

`Slot.Turn` says everything that a section can do to what is held and owed: press a trigger, lift
one, find it up, take a refused lift back, put a pointer somewhere, or leave the inputs alone. It
also says when the surface is told of it: a press and a lift are reported, and no other first
section of an action reports anything. The main statement, `Slot.step_turn`, is that every section
is one of these; invariants of a session are proved from it and look at no handler again.
-/
namespace InputActions

/-! ### The changes of the inputs -/

namespace Store

theorem keySource_eq_ok {store : Store} {id : SourceId} {s : KeySource}
    (h : store.keySource id = .ok s) : store[id]? = some (.key s) := by
  unfold keySource at h
  split at h <;> simp_all

theorem kind?_of_keySource_error {store : Store} {id : SourceId} {fault : InvalidArgument}
    (h : store.keySource id = .error fault) : store.kind? id ≠ some .key := by
  unfold keySource at h
  unfold kind?
  split at h
  · cases h
  next source other found =>
    rw [found]
    cases source with
    | key s => exact absurd rfl (other s)
    | _ => simp [Source.kind]
  next found => simp [found]

theorem mouse_eq_ok {store : Store} {id : SourceId} {s : PointerSource}
    (h : store.mouse id = .ok s) : store[id]? = some (.pointer s) ∧ s.kind = .mouse := by
  unfold mouse at h
  split at h
  · split at h
    next kind => cases h; exact ⟨‹_›, kind⟩
    · cases h
  · cases h
  · cases h

theorem kind?_of_mouse_error {store : Store} {id : SourceId} {error : ActionError}
    (h : store.mouse id = .error error) : store.kind? id ≠ some (.pointer .mouse) := by
  unfold mouse at h
  unfold kind?
  split at h
  next s found =>
    split at h
    · cases h
    next other => simpa [found, Source.kind] using other
  next source other found =>
    rw [found]
    cases source with
    | pointer s => exact absurd rfl (other s)
    | _ => simp [Source.kind]
  next found => simp [found]

end Store

namespace Inputs

theorem pressKey_cases {inputs next : Inputs} {action : Action} {value : String}
    {event : KeyEvent} {printable : Bool}
    (h : inputs.pressKey action value = .ok (event, printable, next)) :
    ∃ s, inputs.store[action.id]? = some (.key s) ∧
      next = ⟨inputs.store.insert action.id (.key (s.hold (Key.normalized value))),
        inputs.pending.record action⟩ := by
  unfold pressKey at h
  cases found : inputs.store.keySource action.id with
  | error fault => simp [found, bind, Except.bind] at h
  | ok s =>
    simp only [found, bind, Except.bind, pure, Except.pure, Except.ok.injEq, Prod.mk.injEq] at h
    exact ⟨s, Store.keySource_eq_ok found, h.2.2.symm⟩

theorem liftKey_cases {inputs : Inputs} {action : Action} {value : String}
    {outcome : Option (KeyEvent × Inputs)} (h : inputs.liftKey action value = .ok outcome) :
    ∃ s, inputs.store[action.id]? = some (.key s) ∧
      (s.isPressed (Key.normalized value) = false ∧ outcome = none ∨
        s.isPressed (Key.normalized value) = true ∧ ∃ event, outcome = some (event,
          { inputs with
            store := inputs.store.insert action.id (.key (s.lift (Key.normalized value))) })) := by
  unfold liftKey at h
  cases found : inputs.store.keySource action.id with
  | error fault => simp [found, bind, Except.bind] at h
  | ok s =>
    refine ⟨s, Store.keySource_eq_ok found, ?_⟩
    simp only [found, bind, Except.bind, pure, Except.pure] at h
    split at h
    next down => exact Or.inr ⟨down, _, (Except.ok.inj h).symm⟩
    next up => exact Or.inl ⟨by simpa using up, (Except.ok.inj h).symm⟩

theorem kind?_of_liftKey_error {inputs : Inputs} {action : Action} {value : String}
    {fault : InvalidArgument} (h : inputs.liftKey action value = .error fault) :
    inputs.store.kind? action.id ≠ some .key := by
  unfold liftKey at h
  cases found : inputs.store.keySource action.id with
  | error fault => exact Store.kind?_of_keySource_error found
  | ok s =>
    simp only [found, bind, Except.bind, pure, Except.pure] at h
    split at h <;> cases h

theorem pressButton_cases {inputs : Inputs} {action : Action} {button : UInt32}
    {outcome : Option (MouseEvent × Inputs)} (h : inputs.pressButton action button = .ok outcome) :
    ∃ s, inputs.store[action.id]? = some (.pointer s) ∧ s.kind = .mouse ∧
      (outcome = none ∨ ∃ event, outcome = some (event,
        ⟨inputs.store.insert action.id (.pointer (s.hold button)),
          inputs.pending.record action⟩)) := by
  unfold pressButton at h
  cases found : inputs.store.mouse action.id with
  | error error => simp [found, bind, Except.bind] at h
  | ok s =>
    refine ⟨s, (Store.mouse_eq_ok found).1, (Store.mouse_eq_ok found).2, ?_⟩
    simp only [found, bind, Except.bind, pure, Except.pure] at h
    split at h
    · exact Or.inl (Except.ok.inj h).symm
    · exact Or.inr ⟨_, (Except.ok.inj h).symm⟩

theorem liftButton_cases {inputs : Inputs} {action : Action} {button : UInt32}
    {outcome : Option (MouseEvent × Inputs)} (h : inputs.liftButton action button = .ok outcome) :
    ∃ s, inputs.store[action.id]? = some (.pointer s) ∧
      (s.isPressed button = false ∧ outcome = none ∨
        s.isPressed button = true ∧ ∃ event, outcome = some (event,
          { inputs with
            store := inputs.store.insert action.id (.pointer (s.lift button)) })) := by
  unfold liftButton at h
  cases found : inputs.store.mouse action.id with
  | error error => simp [found, bind, Except.bind] at h
  | ok s =>
    refine ⟨s, (Store.mouse_eq_ok found).1, ?_⟩
    simp only [found, bind, Except.bind, pure, Except.pure] at h
    split at h
    next down => exact Or.inr ⟨down, _, (Except.ok.inj h).symm⟩
    next up => exact Or.inl ⟨by simpa using up, (Except.ok.inj h).symm⟩

theorem kind?_of_liftButton_error {inputs : Inputs} {action : Action} {button : UInt32}
    {error : ActionError} (h : inputs.liftButton action button = .error error) :
    inputs.store.kind? action.id ≠ some (.pointer .mouse) := by
  unfold liftButton at h
  cases found : inputs.store.mouse action.id with
  | error error => exact Store.kind?_of_mouse_error found
  | ok s =>
    simp only [found, bind, Except.bind, pure, Except.pure] at h
    split at h <;> cases h

/-- A key is taken back on a keyboard, and nowhere else. -/
theorem holdKey_cases (inputs : Inputs) (id : SourceId) (key : String) :
    (∃ s, inputs.store[id]? = some (.key s) ∧ inputs.holdKey id key =
      .ok { inputs with store := inputs.store.insert id (.key (s.hold key)) }) ∨
    inputs.store.held? id (.key key) = none ∧ ∃ fault, inputs.holdKey id key = .error fault := by
  unfold holdKey
  split
  next s found => exact Or.inl ⟨s, found, rfl⟩
  next source other found =>
    refine Or.inr ⟨?_, _, rfl⟩
    rw [Store.held?_eq, found]
    cases source with
    | key s => exact absurd rfl (other s)
    | _ => rfl
  next found => exact Or.inr ⟨by rw [Store.held?_eq, found]; rfl, _, rfl⟩

/-- A button is taken back on a pointer, and nowhere else. -/
theorem holdButton_cases (inputs : Inputs) (id : SourceId) (button : UInt32) :
    (∃ s, inputs.store[id]? = some (.pointer s) ∧ inputs.holdButton id button =
      .ok { inputs with store := inputs.store.insert id (.pointer (s.hold button)) }) ∨
    inputs.store.held? id (.button button) = none ∧
      ∃ fault, inputs.holdButton id button = .error fault := by
  unfold holdButton Store.press
  rw [Store.held?_eq]
  cases found : inputs.store[id]? with
  | none => exact Or.inr ⟨rfl, _, rfl⟩
  | some source =>
    cases source with
    | pointer s => exact Or.inl ⟨s, rfl, rfl⟩
    | _ => exact Or.inr ⟨rfl, _, rfl⟩

theorem arrive_cases {inputs next : Inputs} {id : SourceId} {target : Point}
    (h : inputs.arrive id target = .ok next) :
    ∃ s, inputs.store[id]? = some (.pointer s) ∧ next =
      { inputs with store := inputs.store.insert id (.pointer { s with position := target }) } := by
  unfold arrive at h
  cases found : inputs.store.mouse id with
  | error error => simp [found, bind, Except.bind] at h
  | ok s =>
    simp only [found, bind, Except.bind, pure, Except.pure, Except.ok.injEq] at h
    exact ⟨s, (Store.mouse_eq_ok found).1, h.symm⟩

end Inputs

/-! ### Lifts under way -/

/-- What was lifted by the event whose answer is awaited. -/
def Wait.lift? : Wait → Option (SourceId × Trigger × Verdict)
  | .keyup id key verdict => some (id, .key key, verdict)
  | .mouseup id button verdict => some (id, .button button, verdict)
  | _ => none

/-- The lift that an action has under way. -/
def Slot.lift? : Slot → Option (SourceId × Trigger × Verdict)
  | .waiting _ wait => wait.lift?
  | _ => none

/-! ### Arrivals under way -/

/-- Where a pointer is put when the event whose answer is awaited is accepted. -/
def Wait.landing? : Wait → Option (SourceId × Point × Verdict)
  | .step move _ position verdict => some (move.id, position, verdict)
  | .arrival id target verdict => some (id, target, verdict)
  | _ => none

/-- The arrival that an action has under way. -/
def Slot.landing? : Slot → Option (SourceId × Point × Verdict)
  | .waiting _ wait => wait.landing?
  | _ => none

/-! ### Sections -/

/-- What a section makes of a world and of the slot of its action. -/
inductive Slot.Turn (before : World) : Slot → World → Slot → Prop
  /-- A trigger is held, and its release owed. -/
  | press {action trigger source next after wake wait}
      (pressed : action.gesture.pressed? = some trigger)
      (accepts : before.inputs.store.Accepts action.id trigger)
      (found : before.inputs.store[action.id]? = some source)
      (holds : source.hold? trigger = some next)
      (inputs : after.inputs =
        ⟨before.inputs.store.insert action.id next, before.inputs.pending.record action⟩)
      (free : wait.lift? = none)
      (told : ∃ injection, after.host.journal = before.host.journal ++ [injection]) :
      Turn before (.ready action) after (.waiting wake wait)
  /-- A trigger is lifted, and the surface told; whether it refuses is settled now. -/
  | lift {action trigger source next after wake wait verdict injection}
      (lifted : action.gesture.lifted? = some trigger)
      (found : before.inputs.store[action.id]? = some source)
      (held : source.held? trigger = some true)
      (lifts : source.lift? trigger = some next)
      (inputs : after.inputs =
        { before.inputs with store := before.inputs.store.insert action.id next })
      (under : wait.lift? = some (action.id, trigger, verdict))
      (journal : after.host.journal = before.host.journal ++ [injection])
      (refusal : injection.refusal = verdict.refusal)
      (asked : verdict.refusal = before.host.injectionRefusal before.host.tally before.now) :
      Turn before (.ready action) after (.waiting wake wait)
  /-- A trigger that is to be lifted is up. -/
  | pass {action trigger}
      (lifted : action.gesture.lifted? = some trigger)
      (up : before.inputs.store.held? action.id trigger = some false) :
      Turn before (.ready action) before (.settled (.ok ()))
  /-- A trigger that is to be lifted is not one of its source. -/
  | deny {action trigger error}
      (lifted : action.gesture.lifted? = some trigger)
      (foreign : ¬ before.inputs.store.Accepts action.id trigger) :
      Turn before (.ready action) before (.settled (.error error))
  /-- A refused lift is taken back. -/
  | takeBack {wake wait id trigger verdict error source next after}
      (under : wait.lift? = some (id, trigger, verdict))
      (refused : verdict.refusal = some error)
      (found : before.inputs.store[id]? = some source)
      (holds : source.hold? trigger = some next)
      (inputs : after.inputs =
        { before.inputs with store := before.inputs.store.insert id next })
      (journal : after.host.journal = before.host.journal) :
      Turn before (.waiting wake wait) after (.settled (.error (.host error)))
  /-- The source of a refused lift is gone. -/
  | lose {wake wait id trigger verdict error fault after}
      (under : wait.lift? = some (id, trigger, verdict))
      (refused : verdict.refusal = some error)
      (missing : before.inputs.store.held? id trigger = none)
      (inputs : after.inputs = before.inputs)
      (journal : after.host.journal = before.host.journal) :
      Turn before (.waiting wake wait) after (.settled (.error (.invalidArgument fault)))
  /-- A lift was accepted. -/
  | land {wake wait id trigger verdict after}
      (under : wait.lift? = some (id, trigger, verdict))
      (accepted : verdict.refusal = none)
      (inputs : after.inputs = before.inputs)
      (journal : after.host.journal = before.host.journal) :
      Turn before (.waiting wake wait) after (.settled (.ok ()))
  /-- A pointer is put where the surface saw it arrive. -/
  | arrive {wake wait id source target after next}
      (found : before.inputs.store[id]? = some (.pointer source))
      (inputs : after.inputs = { before.inputs with
        store := before.inputs.store.insert id (.pointer { source with position := target }) })
      (idle : wait.lift? = none)
      (free : next.lift? = none)
      (lands : ∃ verdict, wait.landing? = some (id, target, verdict) ∧ verdict.refusal = none) :
      Turn before (.waiting wake wait) after next
  /-- The inputs stay as they are. -/
  | still {slot after next}
      (inputs : after.inputs = before.inputs)
      (other : ∀ action, slot = .ready action → action.gesture.lifted? = none)
      (idle : slot.lift? = none)
      (free : next.lift? = none)
      (silent : ∀ action, slot = .ready action → after.host.journal = before.host.journal) :
      Turn before slot after next

/-- A section that leaves the inputs alone and lifts nothing. -/
private def Still (world : World) (result : World × Outcome) : Prop :=
  result.1.inputs = world.inputs ∧ (Slot.ofOutcome result.1 result.2).lift? = none

private theorem still_request {world : World} {id : SourceId} {event : Event}
    {wait : Verdict → Wait} (free : ∀ verdict, (wait verdict).lift? = none) :
    Still world (world.request id event wait) :=
  ⟨rfl, free _⟩

private theorem still_moveToTarget (world : World) (id : SourceId) (target : Point) :
    Still world (world.moveToTarget id target) := by
  unfold World.moveToTarget
  split
  · exact ⟨rfl, rfl⟩
  · exact ⟨rfl, rfl⟩
  · exact still_request fun _ => rfl

private theorem still_moveToSample (world : World) (session : Session) (move : Move)
    (target position : Point) : Still world (world.moveToSample session move target position) := by
  unfold World.moveToSample
  split
  · exact ⟨rfl, rfl⟩
  · exact ⟨rfl, rfl⟩
  · exact still_request fun _ => rfl

private theorem still_beginPointerMove (action : Action) (duration : UInt64) (origin : Origin)
    (dx dy : Int64) (world : World) :
    Still world (action.beginPointerMove duration origin dx dy world) := by
  unfold Action.beginPointerMove
  split
  · exact ⟨rfl, rfl⟩
  · split <;> exact ⟨rfl, rfl⟩

/-- A move asks for the geometry first. -/
private theorem journal_beginPointerMove (action : Action) (duration : UInt64) (origin : Origin)
    (dx dy : Int64) (world : World) :
    (action.beginPointerMove duration origin dx dy world).1.host.journal = world.host.journal := by
  unfold Action.beginPointerMove
  split
  · rfl
  · split <;> rfl

/-- Forgetting the last click tells nothing. -/
theorem World.journal_resetClick (world : World) (resets : Prop) [Decidable resets] :
    (if resets then world.resetClick else world).host.journal = world.host.journal := by
  split
  · unfold World.resetClick Host.resetClick
    dsimp only
    split <;> rfl
  · rfl

private theorem still_setOut (context : Context) (move : Move) (base : Point) (world : World) :
    Still world (Wait.setOut context move base world) := by
  unfold Wait.setOut
  split
  · exact ⟨rfl, rfl⟩
  · split
    · exact still_moveToTarget ..
    · exact ⟨rfl, rfl⟩

private theorem still_takeSample (context : Context) (move : Move) (target : Point)
    (world : World) : Still world (Wait.takeSample context move target world) := by
  unfold Wait.takeSample
  dsimp only
  split
  · exact still_moveToSample ..
  · exact still_moveToTarget ..

private theorem turn_of_still {before world : World} {slot : Slot} {result : World × Outcome}
    (same : world.inputs = before.inputs)
    (other : ∀ action, slot = .ready action → action.gesture.lifted? = none)
    (idle : slot.lift? = none) (h : Still world result)
    (silent : ∀ action, slot = .ready action →
      result.1.host.journal = before.host.journal) :
    slot.Turn before result.1 (Slot.ofOutcome result.1 result.2) :=
  .still (h.1.trans same) other idle h.2 silent

private theorem turn_of_waiting {before after : World} {wake : Nat} {wait : Wait} {next : Slot}
    (same : after.inputs = before.inputs) (idle : wait.lift? = none) (free : next.lift? = none) :
    (Slot.waiting wake wait).Turn before after next :=
  .still same nofun idle free nofun

private theorem not_accepts_of_kind {store : Store} {id : SourceId} {trigger : Trigger}
    {kind : SourceKind} (named : kind = match trigger with
      | .key _ => .key
      | .button _ => .pointer .mouse)
    (other : store.kind? id ≠ some kind) : ¬ store.Accepts id trigger := by
  subst named
  cases trigger <;> exact other

private theorem begin_keyDown (action : Action) {value : String} (world : World)
    (gesture : action.gesture = .keyDown value) :
    (Slot.ready action).Turn world (action.beginKeyDown value world).1
      (Slot.ofOutcome (action.beginKeyDown value world).1
        (action.beginKeyDown value world).2) := by
  have other : ∀ a, Slot.ready action = .ready a → a.gesture.lifted? = none := by
    rintro _ ⟨⟩
    rw [gesture]
    rfl
  unfold Action.beginKeyDown
  split
  · exact .still rfl other rfl rfl fun _ _ => rfl
  next event printable next pressed =>
    obtain ⟨s, found, rfl⟩ := Inputs.pressKey_cases pressed
    have accepts : world.inputs.store.Accepts action.id (.key (Key.normalized value)) := by
      rw [Store.Accepts, Store.kind?, found]
      rfl
    exact .press (by rw [gesture]; rfl) accepts found rfl rfl rfl ⟨_, rfl⟩

private theorem begin_keyUp (action : Action) {value : String} (world : World)
    (gesture : action.gesture = .keyUp value) :
    (Slot.ready action).Turn world (action.beginKeyUp value world).1
      (Slot.ofOutcome (action.beginKeyUp value world).1 (action.beginKeyUp value world).2) := by
  have lifted : action.gesture.lifted? = some (.key (Key.normalized value)) := by
    rw [gesture]
    rfl
  unfold Action.beginKeyUp
  split
  next fault denied =>
    exact .deny lifted (not_accepts_of_kind rfl (Inputs.kind?_of_liftKey_error denied))
  next up =>
    obtain ⟨s, found, ⟨released, -⟩ | ⟨-, _, absurd⟩⟩ := Inputs.liftKey_cases up
    · exact .pass lifted (by rw [Store.held?_eq, found]; exact congrArg some released)
    · cases absurd
  next event next down =>
    obtain ⟨s, found, ⟨-, absurd⟩ | ⟨held, _, same⟩⟩ := Inputs.liftKey_cases down
    · cases absurd
    · cases same
      exact .lift lifted found (congrArg some held) rfl rfl rfl rfl rfl rfl

private theorem begin_pointerDown (action : Action) (context : Context) {button : UInt32}
    (world : World) (gesture : action.gesture = .pointerDown button) :
    (Slot.ready action).Turn world (action.beginPointerDown context button world).1
      (Slot.ofOutcome (action.beginPointerDown context button world).1
        (action.beginPointerDown context button world).2) := by
  have other : ∀ a, Slot.ready action = .ready a → a.gesture.lifted? = none := by
    rintro _ ⟨⟩
    rw [gesture]
    rfl
  unfold Action.beginPointerDown
  split
  · exact .still rfl other rfl rfl fun _ _ => rfl
  · exact .still rfl other rfl rfl fun _ _ => rfl
  next event next pressed =>
    obtain ⟨s, found, mouse, absurd | ⟨_, same⟩⟩ := Inputs.pressButton_cases pressed
    · cases absurd
    · cases same
      have accepts : world.inputs.store.Accepts action.id (.button button) := by
        rw [Store.Accepts, Store.kind?, found, Option.map_some, Source.kind, mouse]
      -- Forgetting the last click, where it happens, leaves the inputs and the journal alone.
      refine .press (by rw [gesture]; rfl) accepts found rfl ?_ rfl ?_
      · dsimp only [World.request, World.inject, World.resetClick]
        split <;> rfl
      · dsimp only [World.request, World.inject]
        rw [World.journal_resetClick]
        exact ⟨_, rfl⟩

private theorem begin_pointerUp (action : Action) {button : UInt32} (world : World)
    (gesture : action.gesture = .pointerUp button) :
    (Slot.ready action).Turn world (action.beginPointerUp button world).1
      (Slot.ofOutcome (action.beginPointerUp button world).1
        (action.beginPointerUp button world).2) := by
  have lifted : action.gesture.lifted? = some (.button button) := by
    rw [gesture]
    rfl
  unfold Action.beginPointerUp
  split
  next error denied =>
    exact .deny lifted (not_accepts_of_kind rfl (Inputs.kind?_of_liftButton_error denied))
  next up =>
    obtain ⟨s, found, ⟨released, -⟩ | ⟨-, _, absurd⟩⟩ := Inputs.liftButton_cases up
    · exact .pass lifted (by rw [Store.held?_eq, found]; exact congrArg some released)
    · cases absurd
  next event next down =>
    obtain ⟨s, found, ⟨-, absurd⟩ | ⟨held, _, same⟩⟩ := Inputs.liftButton_cases down
    · cases absurd
    · cases same
      exact .lift lifted found (congrArg some held) rfl rfl rfl rfl rfl rfl

/-- The first section of an action. -/
theorem Action.begin_turn (action : Action) (context : Context) (tickDuration : UInt64)
    (world : World) :
    (Slot.ready action).Turn world (action.begin context tickDuration world).1
      (Slot.ofOutcome (action.begin context tickDuration world).1
        (action.begin context tickDuration world).2) := by
  unfold begin
  cases gesture : action.gesture with
  | keyDown value => exact begin_keyDown action world gesture
  | keyUp value => exact begin_keyUp action world gesture
  | pointerDown button => exact begin_pointerDown action context world gesture
  | pointerUp button => exact begin_pointerUp action world gesture
  | pause duration =>
    refine turn_of_still rfl ?_ rfl ?_ ?_
    · rintro _ ⟨⟩
      rw [gesture]
      rfl
    · dsimp only
      split <;> exact ⟨rfl, rfl⟩
    · dsimp only
      split <;> exact fun _ _ => rfl
  | pointerMove duration origin dx dy =>
    refine turn_of_still rfl ?_ rfl (still_beginPointerMove ..)
      fun _ _ => journal_beginPointerMove ..
    rintro _ ⟨⟩
    rw [gesture]
    rfl
  | pointerCancel =>
    refine turn_of_still rfl ?_ rfl ⟨rfl, rfl⟩ fun _ _ => rfl
    rintro _ ⟨⟩
    rw [gesture]
    rfl

private theorem resume_refusedLift {world after : World} {wake : Nat} {wait : Wait}
    {id : SourceId} {trigger : Trigger} {verdict : Verdict} {error : HostError}
    {restored : Except InvalidArgument Inputs}
    (under : wait.lift? = some (id, trigger, verdict)) (refused : verdict.refusal = some error)
    (same : after.inputs = world.inputs) (journal : after.host.journal = world.host.journal)
    (cases : (∃ source next, world.inputs.store[id]? = some source ∧
        source.hold? trigger = some next ∧ restored =
          .ok { world.inputs with store := world.inputs.store.insert id next }) ∨
      world.inputs.store.held? id trigger = none ∧ ∃ fault, restored = .error fault) :
    (Slot.waiting wake wait).Turn world (Wait.refused error restored after).1
      (Slot.ofOutcome (Wait.refused error restored after).1
        (Wait.refused error restored after).2) := by
  rcases cases with ⟨source, next, found, holds, rfl⟩ | ⟨missing, fault, rfl⟩
  · exact .takeBack under refused found holds rfl journal
  · exact .lose under refused missing same journal

/-- Each later section of an action. -/
theorem Wait.resume_turn (wait : Wait) (wake : Nat) (context : Context) (world : World) :
    (Slot.waiting wake wait).Turn world (wait.resume context world).1
      (Slot.ofOutcome (wait.resume context world).1 (wait.resume context world).2) := by
  have other : ∀ a, Slot.waiting wake wait = .ready a → a.gesture.lifted? = none := nofun
  cases wait with
  | pause => exact turn_of_waiting rfl rfl rfl
  | keydown id event printable verdict =>
    dsimp only [resume]
    split
    · exact turn_of_waiting rfl rfl rfl
    -- The keypress that may follow an accepted keydown holds nothing.
    · unfold afterKeydown
      dsimp only
      split <;> exact turn_of_waiting rfl rfl rfl
  | keypress verdict =>
    dsimp only [resume]
    split <;> exact turn_of_waiting rfl rfl rfl
  | keyup id key verdict =>
    -- The refusal was settled when the lift was reported; it takes effect with the answer.
    dsimp only [resume]
    split
    next error refused =>
      refine resume_refusedLift rfl refused rfl rfl ?_
      rcases Inputs.holdKey_cases world.inputs id key with ⟨s, found, held⟩ | missing
      · exact Or.inl ⟨_, _, found, rfl, held⟩
      · exact Or.inr missing
    next accepted => exact .land rfl accepted rfl rfl
  | mousedown id event opensMenu verdict =>
    dsimp only [resume]
    split
    · exact turn_of_waiting rfl rfl rfl
    · split <;> exact turn_of_waiting rfl rfl rfl
  | contextmenu verdict =>
    dsimp only [resume]
    split <;> exact turn_of_waiting rfl rfl rfl
  | mouseup id button verdict =>
    dsimp only [resume]
    split
    next error refused =>
      refine resume_refusedLift rfl refused rfl rfl ?_
      rcases Inputs.holdButton_cases world.inputs id button with ⟨s, found, held⟩ | missing
      · exact Or.inl ⟨_, _, found, rfl, held⟩
      · exact Or.inr missing
    next accepted => exact .land rfl accepted rfl rfl
  | center move ref refusal =>
    dsimp only [resume]
    split
    · exact turn_of_waiting rfl rfl rfl
    · split <;> exact turn_of_waiting rfl rfl rfl
  | viewport move base refusal =>
    dsimp only [resume]
    split
    · exact turn_of_waiting rfl rfl rfl
    · exact turn_of_still rfl other rfl (still_setOut ..) nofun
  | sample move target => exact turn_of_still rfl other rfl (still_takeSample ..) nofun
  | step move target position verdict =>
    dsimp only [resume]
    split
    · exact turn_of_waiting rfl rfl rfl
    -- The position is written once the surface has seen the pointer there, not before.
    next accepted =>
      split
      · exact turn_of_waiting rfl rfl rfl
      next arrived =>
        obtain ⟨s, found, rfl⟩ := Inputs.arrive_cases arrived
        exact .arrive found rfl rfl rfl ⟨verdict, rfl, accepted⟩
  | arrival id target verdict =>
    dsimp only [resume]
    split
    · exact turn_of_waiting rfl rfl rfl
    next accepted =>
      split
      · exact turn_of_waiting rfl rfl rfl
      next arrived =>
        obtain ⟨s, found, rfl⟩ := Inputs.arrive_cases arrived
        exact .arrive found rfl rfl rfl ⟨verdict, rfl, accepted⟩

/-- Every section of an action is a turn. -/
theorem Slot.step_turn (slot : Slot) (context : Context) (duration : UInt64) (world : World) :
    slot.Turn world (slot.step context duration world).1
      (slot.step context duration world).2 := by
  cases slot with
  | ready action => exact action.begin_turn context duration world
  | waiting wake wait => exact wait.resume_turn wake context world
  | settled result => exact .still rfl nofun rfl rfl nofun

end InputActions
