import InputActions.Proofs.Replaying
import InputActions.Proofs.Staying

/-!
# What the surface is told

An action reports its gesture with its first event, and no other event of it says that anything was
pressed or lifted (`Slot.step_tells`). `Schedule.Unfolds` is a part of the history of a session: the
moments from a given one on, with a notice for each event that the surface was asked to inject on
the way. A notice says which action the event reports, so it ties the event, which names a physical
key, to the trigger that was meant.
-/
namespace InputActions

/-! ### Events -/

namespace Event

/-- Whether an event says that a key or button went down. -/
def presses : Event → Bool
  | .key event => event.kind = .keydown
  | .mouse event => event.kind = .mousedown

/-- Whether an event says that a key or button went up. -/
def lifts : Event → Bool
  | .key event => event.kind = .keyup
  | .mouse event => event.kind = .mouseup

end Event

/-- Whether an event names the physical key of a value, shifted or not. -/
def KeyEvent.Names (event : KeyEvent) (value : String) : Prop :=
  ∃ shift : Bool, ∃ data, data = Key.data (if shift then Key.shifted value else value) ∧
    event.key = data.key ∧ event.code = data.code ∧ event.location = data.location

/-- What the event that reports a gesture says. A click with the control key on a Mac names the
secondary button; the lift that follows names the button that was asked for. -/
inductive Gesture.Tells (platform : Platform) : Gesture → Event → Prop
  | keyDown {value event} (kind : event.kind = .keydown) (names : event.Names value) :
      Tells platform (.keyDown value) (.key event)
  | keyUp {value event} (kind : event.kind = .keyup) (names : event.Names value) :
      Tells platform (.keyUp value) (.key event)
  | pointerDown {button event} (kind : event.kind = .mousedown)
      (named : event.button =
        if event.modifiers.ctrl && platform = .mac then Action.secondaryButton else button) :
      Tells platform (.pointerDown button) (.mouse event)
  | pointerUp {button event} (kind : event.kind = .mouseup) (named : event.button = button) :
      Tells platform (.pointerUp button) (.mouse event)

/-- A gesture is reported by a press exactly if it presses something. -/
theorem Gesture.Tells.presses_iff {platform : Platform} {gesture : Gesture} {event : Event}
    (h : gesture.Tells platform event) : event.presses = true ↔ gesture.pressed? ≠ none := by
  cases h <;> simp_all [Event.presses, Gesture.pressed?]

/-! ### Sections -/

/-- The action of a slot that is still to begin. -/
def Slot.action? : Slot → Option Action
  | .ready action => some action
  | _ => none

/-- An event, with the action whose gesture it reports. -/
structure Notice where
  action : Option Action
  injection : Injection

/-- Whether a notice says what its action does; one without an action says of nothing that it was
pressed or lifted. -/
def Notice.Faithful (platform : Platform) (notice : Notice) : Prop :=
  match notice.action with
  | some action => notice.injection.source = action.id ∧
      action.gesture.Tells platform notice.injection.event
  | none => notice.injection.event.presses = false ∧ notice.injection.event.lifts = false

/-- A section that tells the surface nothing, or one thing that is faithful. -/
private def Informs (platform : Platform) (action : Option Action) (before after : World) : Prop :=
  ∃ told : Option Injection, after.host.journal = before.host.journal ++ told.toList ∧
    ∀ injection ∈ told, Notice.Faithful platform ⟨action, injection⟩

private theorem informs_nothing {before after : World}
    (same : after.host.journal = before.host.journal) (platform : Platform)
    (action : Option Action) : Informs platform action before after := by
  refine ⟨none, ?_, fun _ member => absurd member (Option.not_mem_none _)⟩
  rw [same, Option.toList_none, List.append_nil]

private theorem informs_request {before world : World} {id : SourceId} {event : Event}
    {wait : Verdict → Wait} {platform : Platform} {action : Option Action}
    (same : world.host.journal = before.host.journal)
    (faithful : ∀ injection : Injection, injection.source = id → injection.event = event →
      Notice.Faithful platform ⟨action, injection⟩) :
    Informs platform action before (world.request id event wait).1 := by
  refine ⟨some _, congrArg (· ++ _) same, ?_⟩
  rintro injection ⟨⟩
  exact faithful _ rfl rfl

private theorem informs_later {before world : World} {id : SourceId} {event : Event}
    {wait : Verdict → Wait} (platform : Platform)
    (same : world.host.journal = before.host.journal)
    (presses : event.presses = false) (lifts : event.lifts = false) :
    Informs platform none before (world.request id event wait).1 := by
  refine informs_request same fun injection _ told => ?_
  rw [Notice.Faithful, told]
  exact ⟨presses, lifts⟩

private theorem ok_of_bind {ε α β : Type} {first : Except ε α} {next : α → Except ε β} {b : β}
    (h : (first >>= next) = .ok b) : ∃ a, first = .ok a ∧ next a = .ok b := by
  cases first with
  | error _ => cases h
  | ok a => exact ⟨a, rfl, h⟩

namespace Inputs

theorem pressKey_event {inputs next : Inputs} {action : Action} {value : String}
    {event : KeyEvent} {printable : Bool}
    (h : inputs.pressKey action value = .ok (event, printable, next)) :
    event.kind = .keydown ∧ event.Names value := by
  obtain ⟨s, -, pressed⟩ := ok_of_bind h
  cases pressed
  exact ⟨rfl, s.modifiers.shift, _, rfl, rfl, rfl, rfl⟩

theorem liftKey_event {inputs next : Inputs} {action : Action} {value : String}
    {event : KeyEvent} (h : inputs.liftKey action value = .ok (some (event, next))) :
    event.kind = .keyup ∧ event.Names value := by
  obtain ⟨s, -, lifted⟩ := ok_of_bind h
  dsimp only at lifted
  split at lifted <;> cases lifted
  exact ⟨rfl, s.modifiers.shift, _, rfl, rfl, rfl, rfl⟩

theorem pressButton_event {inputs next : Inputs} {action : Action} {button : UInt32}
    {event : MouseEvent} (h : inputs.pressButton action button = .ok (some (event, next))) :
    event.kind = .mousedown ∧ event.button = button := by
  obtain ⟨s, -, pressed⟩ := ok_of_bind h
  dsimp only at pressed
  split at pressed <;> cases pressed
  exact ⟨rfl, rfl⟩

theorem liftButton_event {inputs next : Inputs} {action : Action} {button : UInt32}
    {event : MouseEvent} (h : inputs.liftButton action button = .ok (some (event, next))) :
    event.kind = .mouseup ∧ event.button = button := by
  obtain ⟨s, -, lifted⟩ := ok_of_bind h
  dsimp only at lifted
  split at lifted <;> cases lifted
  exact ⟨rfl, rfl⟩

theorem moveEvent_kind {inputs : Inputs} {id : SourceId} {target : Point} {event : MouseEvent}
    (h : inputs.moveEvent id target = .ok (some event)) : event.kind = .mousemove := by
  obtain ⟨s, -, moved⟩ := ok_of_bind h
  dsimp only at moved
  split at moved <;> cases moved
  rfl

end Inputs

private theorem informs_moveToTarget {before world : World}
    (same : world.host.journal = before.host.journal) (platform : Platform) (id : SourceId)
    (target : Point) : Informs platform none before (world.moveToTarget id target).1 := by
  unfold World.moveToTarget
  split
  · exact informs_nothing same ..
  · exact informs_nothing same ..
  next moves =>
    have kind := Inputs.moveEvent_kind moves
    exact informs_later platform same (by simp [Event.presses, kind])
      (by simp [Event.lifts, kind])

private theorem informs_moveToSample {before world : World}
    (same : world.host.journal = before.host.journal) (platform : Platform) (session : Session)
    (move : Move) (target position : Point) :
    Informs platform none before (world.moveToSample session move target position).1 := by
  unfold World.moveToSample
  split
  · exact informs_nothing same ..
  · exact informs_nothing same ..
  next moves =>
    have kind := Inputs.moveEvent_kind moves
    exact informs_later platform same (by simp [Event.presses, kind])
      (by simp [Event.lifts, kind])

private theorem informs_pointerDown (action : Action) (context : Context) {button : UInt32}
    (world : World) (gesture : action.gesture = .pointerDown button) :
    Informs context.session.config.platform (some action) world
      (action.beginPointerDown context button world).1 := by
  unfold Action.beginPointerDown
  split
  · exact informs_nothing rfl ..
  · exact informs_nothing rfl ..
  next event next pressed =>
    obtain ⟨kind, button⟩ := Inputs.pressButton_event pressed
    dsimp only
    -- The remap of a click with the control key is decided by the flags that the event shows.
    have same : (if event.modifiers.ctrl && context.session.config.platform = .mac
        then World.resetClick { world with inputs := next }
        else { world with inputs := next }).host.journal = world.host.journal :=
      World.journal_resetClick ..
    refine informs_request same fun injection source told => ⟨source, ?_⟩
    dsimp only at told ⊢
    rw [told, gesture]
    split_ifs with secondary double
    · exact .pointerDown kind (by rw [if_pos secondary])
    · exact .pointerDown kind (by rw [if_neg secondary]; exact button)
    · exact .pointerDown kind (by rw [if_neg secondary]; exact button)

/-- The first section of an action tells of its gesture, if it tells anything. -/
private theorem Action.begin_informs (action : Action) (context : Context) (tickDuration : UInt64)
    (world : World) : Informs context.session.config.platform (some action) world
      (action.begin context tickDuration world).1 := by
  unfold begin
  cases gesture : action.gesture with
  | pause duration =>
    dsimp only
    split <;> exact informs_nothing rfl ..
  | keyDown value =>
    dsimp only
    unfold beginKeyDown
    split
    · exact informs_nothing rfl ..
    next pressed =>
      obtain ⟨kind, names⟩ := Inputs.pressKey_event pressed
      refine informs_request rfl fun injection source told => ⟨source, ?_⟩
      dsimp only at told ⊢
      rw [told, gesture]
      exact .keyDown kind names
  | keyUp value =>
    dsimp only
    unfold beginKeyUp
    split
    · exact informs_nothing rfl ..
    · exact informs_nothing rfl ..
    next lifted =>
      obtain ⟨kind, names⟩ := Inputs.liftKey_event lifted
      refine informs_request rfl fun injection source told => ⟨source, ?_⟩
      dsimp only at told ⊢
      rw [told, gesture]
      exact .keyUp kind names
  | pointerDown button => exact informs_pointerDown action context world gesture
  | pointerUp button =>
    dsimp only
    unfold beginPointerUp
    split
    · exact informs_nothing rfl ..
    · exact informs_nothing rfl ..
    next lifted =>
      obtain ⟨kind, button⟩ := Inputs.liftButton_event lifted
      refine informs_request rfl fun injection source told => ⟨source, ?_⟩
      dsimp only at told ⊢
      rw [told, gesture]
      exact .pointerUp kind button
  | pointerMove duration origin dx dy =>
    dsimp only
    unfold beginPointerMove
    split
    · exact informs_nothing rfl ..
    · split <;> exact informs_nothing rfl ..
  | pointerCancel => exact informs_nothing rfl ..

private theorem informs_refused (platform : Platform) (error : HostError)
    (restored : Except InvalidArgument Inputs) {before after : World}
    (same : after.host.journal = before.host.journal) :
    Informs platform none before (Wait.refused error restored after).1 := by
  unfold Wait.refused
  split <;> exact informs_nothing same ..

/-- A later section tells of no press and no lift. -/
private theorem Wait.resume_informs (wait : Wait) (platform : Platform) (context : Context)
    (world : World) : Informs platform none world (wait.resume context world).1 := by
  cases wait with
  | pause => exact informs_nothing rfl ..
  | keydown id event printable verdict =>
    dsimp only [resume]
    split
    · exact informs_nothing rfl ..
    · unfold afterKeydown
      dsimp only
      split
      · exact informs_later platform rfl rfl rfl
      · exact informs_nothing rfl ..
  | keypress verdict =>
    dsimp only [resume]
    split <;> exact informs_nothing rfl ..
  | keyup id key verdict =>
    dsimp only [resume]
    split
    · exact informs_refused platform _ _ rfl
    · exact informs_nothing rfl ..
  | mousedown id event opensMenu verdict =>
    dsimp only [resume]
    split
    · exact informs_nothing rfl ..
    · split
      · exact informs_later platform rfl rfl rfl
      · exact informs_nothing rfl ..
  | contextmenu verdict =>
    dsimp only [resume]
    split <;> exact informs_nothing rfl ..
  | mouseup id button verdict =>
    dsimp only [resume]
    split
    · exact informs_refused platform _ _ rfl
    · exact informs_nothing rfl ..
  | center move ref refusal =>
    dsimp only [resume]
    split
    · exact informs_nothing rfl ..
    · split <;> exact informs_nothing rfl ..
  | viewport move base refusal =>
    dsimp only [resume]
    split
    · exact informs_nothing rfl ..
    · unfold setOut
      split
      · exact informs_nothing rfl ..
      · split
        · exact informs_moveToTarget rfl ..
        · exact informs_nothing rfl ..
  | sample move target =>
    dsimp only [resume, takeSample]
    split
    · exact informs_moveToSample rfl ..
    · exact informs_moveToTarget rfl ..
  | step move target position verdict =>
    dsimp only [resume]
    split
    · exact informs_nothing rfl ..
    · split <;> exact informs_nothing rfl ..
  | arrival id target verdict =>
    dsimp only [resume]
    split
    · exact informs_nothing rfl ..
    · split <;> exact informs_nothing rfl ..

/-- A section tells the surface at most one thing: its first one of the gesture of the action, and
no later one of a press or a lift. -/
theorem Slot.step_tells (slot : Slot) (context : Context) (duration : UInt64) (world : World) :
    ∃ told : Option Injection,
      (slot.step context duration world).1.host.journal = world.host.journal ++ told.toList ∧
      ∀ injection ∈ told,
        Notice.Faithful context.session.config.platform ⟨slot.action?, injection⟩ := by
  cases slot with
  | ready action => exact action.begin_informs context duration world
  | waiting wake wait => exact wait.resume_informs context.session.config.platform context world
  | settled result => exact informs_nothing rfl ..

/-! ### Activities -/

namespace Activity

/-- The slot whose section an activity has next. -/
def running? (now : Nat) : Activity → Option Slot
  | .ticking _ _ slots _ => slots.find? (·.isReady now)
  | .releasing _ _ slot _ => some slot
  | _ => none

/-- What the actions of an activity know about their call. -/
def context? : Activity → Option Context
  | .ticking context _ _ _ => some context
  | .releasing context _ _ _ => some context
  | _ => none

/-- The lifts that an activity has under way. -/
def lifts (activity : Activity) : List (SourceId × Trigger × Verdict) :=
  activity.slots.filterMap (·.lift?)

end Activity

/-- What a section of a slot tells the surface. -/
def Slot.notices (slot : Slot) (context : Context) (duration : UInt64) (world : World) :
    List Notice :=
  ((slot.step context duration world).1.host.journal.drop world.host.journal.length).map
    (Notice.mk slot.action?)

/-- What a section of an activity tells the surface. -/
def Activity.notices (activity : Activity) (session : Session) (world : World) : List Notice :=
  ((activity.step session world).1.host.journal.drop world.host.journal.length).map
    (Notice.mk ((activity.running? world.now).bind (·.action?)))

theorem Slot.notices_eq (slot : Slot) (context : Context) (duration : UInt64) (world : World) :
    ∃ told : Option Injection,
      (slot.step context duration world).1.host.journal = world.host.journal ++ told.toList ∧
      slot.notices context duration world = told.toList.map (Notice.mk slot.action?) ∧
      ∀ injection ∈ told,
        Notice.Faithful context.session.config.platform ⟨slot.action?, injection⟩ := by
  obtain ⟨told, journal, faithful⟩ := slot.step_tells context duration world
  refine ⟨told, journal, ?_, faithful⟩
  rw [notices, journal, List.drop_left]

namespace Slot

variable {slot : Slot} {context : Context} {duration : UInt64} {world : World}

theorem notices_of_silent
    (silent : (slot.step context duration world).1.host.journal = world.host.journal) :
    slot.notices context duration world = [] := by
  rw [notices, silent, List.drop_length]
  rfl

theorem notices_of_told {injection : Injection}
    (told : (slot.step context duration world).1.host.journal =
      world.host.journal ++ [injection]) :
    slot.notices context duration world = [⟨slot.action?, injection⟩] ∧
      Notice.Faithful context.session.config.platform ⟨slot.action?, injection⟩ := by
  obtain ⟨one, journal, notices, faithful⟩ := slot.notices_eq context duration world
  have same : one.toList = [injection] := List.append_cancel_left (journal.symm.trans told)
  obtain rfl : one = some injection := by
    cases one <;> simp_all
  exact ⟨notices, faithful injection rfl⟩

end Slot

namespace Activity

/-- A section of an activity is one of a slot of it, or has nothing to do with what is under way:
it tells nothing, and nothing was or is to be answered. -/
inductive Ran (activity : Activity) (session : Session) (world : World) : Prop
  | idle (silent : (activity.step session world).1.host.journal = world.host.journal)
      (before : activity.lifts = []) (after : (activity.step session world).2.lifts = [])
      (holds : activity.isReset = false → ∀ id trigger,
        (activity.step session world).1.inputs.Holds id trigger ↔
          world.inputs.Holds id trigger)
  | slot {slot context duration left right} (listed : activity.slots = left ++ slot :: right)
      (serves : activity.context? = some context)
      (running : activity.running? world.now = some slot)
      (store : (activity.step session world).1.inputs.store =
        (slot.step context duration world).1.inputs.store)
      (host : (activity.step session world).1.host = (slot.step context duration world).1.host)
      (lifts : (activity.step session world).2.lifts =
        (left ++ (slot.step context duration world).2 :: right).filterMap (·.lift?))

theorem lifts_of_isFresh {activity : Activity} (fresh : activity.IsFresh) :
    activity.lifts = [] := by
  cases activity with
  | ticking context duration slots rest =>
    refine List.filterMap_eq_nil_iff.mpr fun slot member => ?_
    obtain ⟨action, rfl⟩ := fresh slot member
    rfl
  | releasing => exact fresh.elim
  | _ => rfl

theorem lifts_ofEntries (context : Context) (now : Nat) (entries : List Action) :
    (ofEntries context now entries).lifts = [] := by
  cases entries <;> rfl

theorem lifts_of_settled {slots : List Slot} (settled : ∀ slot ∈ slots, slot.isSettled = true) :
    slots.filterMap (·.lift?) = [] := by
  refine List.filterMap_eq_nil_iff.mpr fun slot member => ?_
  cases slot with
  | settled result => rfl
  | _ => exact absurd (settled _ member) Bool.false_ne_true

private theorem idle_planned {start : Nat} {request : Request} {before after : World}
    {next : Activity} (h : (planned start request).Turn before after next) :
    after.host.journal = before.host.journal ∧ next.lifts = [] ∧
      ((planned start request).isReset = false → ∀ id trigger,
        after.inputs.Holds id trigger ↔ before.inputs.Holds id trigger) := by
  cases h with
  | start grows pending journal fresh =>
    exact ⟨journal, lifts_of_isFresh fresh, fun _ => grows.held?_iff⟩
  | take => exact ⟨rfl, lifts_ofEntries .., fun _ _ _ => Iff.rfl⟩
  | reset => exact ⟨rfl, rfl, nofun⟩

/-- A tick runs its first slot that is ready, and is over when all have settled. -/
theorem step_ticking {context : Context} {duration : UInt64} {slots : List Slot}
    {rest : List Tick} (session : Session) {world : World}
    (ready : (ticking context duration slots rest).isReady world.now = true) :
    (∃ left slot right, slots = left ++ slot :: right ∧
      (ticking context duration slots rest).running? world.now = some slot ∧
      (ticking context duration slots rest).step session world =
        ((slot.step context duration world).1, ticking context duration
          (left ++ (slot.step context duration world).2 :: right) rest)) ∨
    (∀ slot ∈ slots, slot.isSettled = true) ∧
      (ticking context duration slots rest).step session world =
        (world, afterTick context slots rest world.now) := by
  cases ran : Slot.stepFirst slots context duration world with
  | some result =>
    obtain ⟨left, slot, right, rfl, earlier, due, after, next⟩ := Slot.stepFirst_eq_some ran
    refine Or.inl ⟨left, slot, right, rfl, ?_, by simp only [step, ran, after, next]⟩
    have none : left.find? (·.isReady world.now) = none := by simpa using earlier
    rw [running?, List.find?_append, none, Option.none_or, List.find?_cons_of_pos due]
  | none =>
    -- The activity is ready although no slot is, so all of them have settled.
    have idle := Slot.stepFirst_eq_none ran
    simp only [isReady, idle, Bool.false_or, List.all_eq_true] at ready
    exact Or.inr ⟨ready, by simp only [step, ran]⟩

/-- Every section of an activity that is ready is one of its slots, or has nothing to tell. -/
theorem step_ran {activity : Activity} (session : Session) {world : World}
    (ready : activity.isReady world.now = true) : activity.Ran session world := by
  cases activity with
  | planned start request =>
    obtain ⟨silent, none, holds⟩ := idle_planned (step_turn session ready)
    exact .idle silent rfl none holds
  | sleeping wake => exact .idle rfl rfl rfl fun _ _ _ => Iff.rfl
  | finished time answer => exact .idle rfl rfl rfl fun _ _ _ => Iff.rfl
  | ticking context duration slots rest =>
    rcases step_ticking session ready with ⟨left, slot, right, rfl, first, stepped⟩ |
      ⟨settled, stepped⟩
    · refine @Ran.slot _ _ _ slot context duration left right rfl rfl first ?_ ?_ ?_
      all_goals rw [stepped]
      rfl
    · refine .idle (by rw [stepped]) (lifts_of_settled settled) ?_ fun _ _ _ => by rw [stepped]
      rw [stepped]
      unfold afterTick
      split
      · rfl
      · exact lifts_of_isFresh (isFresh_ofTicks ..)
  | releasing context entry slot rest =>
    have stepped : (releasing context entry slot rest).step session world =
        afterEntry context entry (slot.step context 0 world).2 rest
          (slot.step context 0 world).1 := rfl
    refine @Ran.slot _ _ _ slot context 0 [] [] rfl rfl rfl ?_ ?_ ?_
    all_goals
      rw [stepped]
      generalize (slot.step context 0 world).2 = next
      unfold afterEntry
      split <;> first | rfl | exact lifts_ofEntries ..

/-- What an activity tells is what the slot tells that has its section. -/
theorem notices_of_running {activity : Activity} {session : Session} {world : World} {slot : Slot}
    {context : Context} {duration : UInt64} (running : activity.running? world.now = some slot)
    (host : (activity.step session world).1.host = (slot.step context duration world).1.host) :
    activity.notices session world = slot.notices context duration world := by
  rw [notices, running, host]
  rfl

theorem notices_of_silent {activity : Activity} {session : Session} {world : World}
    (silent : (activity.step session world).1.host.journal = world.host.journal) :
    activity.notices session world = [] := by
  rw [notices, silent, List.drop_length]
  rfl

/-- The notices of a section are what the journal gains. -/
theorem step_journal {activity : Activity} (session : Session) {world : World}
    (ready : activity.isReady world.now = true) :
    (activity.step session world).1.host.journal =
      world.host.journal ++ (activity.notices session world).map (·.injection) := by
  cases activity.step_ran session ready with
  | idle silent =>
    rw [notices_of_silent silent, silent]
    simp
  | @slot slot context duration _ _ _ _ running _ host =>
    obtain ⟨told, journal, notices, -⟩ := slot.notices_eq context duration world
    rw [notices_of_running running host, notices, host, journal]
    simp [Function.comp_def]

/-- Whether the actions of an activity know the session that it runs on. -/
def Serves (session : Session) (activity : Activity) : Prop :=
  ∀ context ∈ activity.context?, context.session = session

theorem serves_ofTicks {session : Session} {context : Context} (same : context.session = session)
    (now : Nat) (ticks : List Tick) : (ofTicks context now ticks).Serves session := by
  cases ticks with
  | nil => exact nofun
  | cons tick rest =>
    rintro _ ⟨⟩
    exact same

theorem serves_ofEntries {session : Session} {context : Context} (same : context.session = session)
    (now : Nat) (entries : List Action) : (ofEntries context now entries).Serves session := by
  cases entries with
  | nil => exact nofun
  | cons entry rest =>
    rintro _ ⟨⟩
    exact same

private theorem serves_perform {session : Session} {context : Context}
    (same : context.session = session) (world : World) (chain : Chain) :
    (world.perform context chain).2.Serves session := by
  unfold World.perform
  dsimp only
  split
  · exact nofun
  · exact serves_ofTicks same _ _

theorem Serves.step {activity : Activity} {session : Session} (h : activity.Serves session)
    (world : World) : (activity.step session world).2.Serves session := by
  cases activity with
  | planned start request =>
    cases request with
    | dispatch payload mode =>
      dsimp only [Activity.step, World.start]
      split
      · exact nofun
      · exact serves_perform rfl _ _
    | perform chain mode => exact serves_perform rfl _ _
    | release => exact serves_ofEntries rfl _ _
    | _ => exact nofun
  | sleeping wake => exact nofun
  | finished time answer => exact nofun
  | ticking context duration slots rest =>
    have same := h context rfl
    dsimp only [Activity.step]
    split
    · rintro _ ⟨⟩
      exact same
    · unfold afterTick
      split
      · exact nofun
      · exact serves_ofTicks same _ _
  | releasing context entry slot rest =>
    have same := h context rfl
    dsimp only [Activity.step]
    unfold afterEntry
    split
    · exact serves_ofEntries same _ _
    · exact nofun
    · rintro _ ⟨⟩
      exact same

/-- What an activity tells is faithful. -/
theorem faithful_of_mem_notices {activity : Activity} {session : Session} {world : World}
    (serves : activity.Serves session) (ready : activity.isReady world.now = true)
    {notice : Notice} (member : notice ∈ activity.notices session world) :
    notice.Faithful session.config.platform := by
  cases activity.step_ran session ready with
  | idle silent =>
    rw [notices_of_silent silent] at member
    cases member
  | @slot slot context duration _ _ _ known running _ host =>
    obtain ⟨told, -, notices, faithful⟩ := slot.notices_eq context duration world
    rw [notices_of_running running host, notices] at member
    obtain ⟨injection, listed, rfl⟩ := List.mem_map.mp member
    rw [← serves context known]
    exact faithful injection (Option.mem_toList.mp listed)

end Activity

/-! ### Histories -/

namespace Schedule

/-- The moments that follow a given one, with a notice for each event on the way. -/
inductive Unfolds (joins : Schedule → Request → Prop) (moves : Schedule → Schedule → Prop)
    (start : Schedule) : Schedule → List Notice → Prop
  | begins : Unfolds joins moves start start []
  | join {s log} (before : Unfolds joins moves start s log) (instant : Nat) (request : Request)
      (allowed : joins s request) : Unfolds joins moves start (s.join instant request) log
  | elapse {session world activities now log}
      (before : Unfolds joins moves start ⟨session, world, activities⟩ log)
      (later : world.now ≤ now)
      (allowed : moves ⟨session, world, activities⟩
        ⟨session, { world with now := now }, activities⟩) :
      Unfolds joins moves start ⟨session, { world with now := now }, activities⟩ log
  | advance {session world left activity right log}
      (before : Unfolds joins moves start ⟨session, world, left ++ activity :: right⟩ log)
      (ready : activity.isReady world.now = true)
      (allowed : moves ⟨session, world, left ++ activity :: right⟩
        ⟨session, (activity.step session world).1,
          left ++ (activity.step session world).2 :: right⟩) :
      Unfolds joins moves start
        ⟨session, (activity.step session world).1,
          left ++ (activity.step session world).2 :: right⟩
        (log ++ activity.notices session world)

variable {session : Session} {joins : Schedule → Request → Prop}
  {moves : Schedule → Schedule → Prop} {start s next : Schedule} {log : List Notice}

/-- Every moment of a session has a history. -/
theorem Reached.unfolds (h : Reached session joins moves s) :
    ∃ host log, Unfolds joins moves ⟨session, .initial host, []⟩ s log := by
  induction h with
  | fresh host => exact ⟨host, [], .begins⟩
  | join instant request _ allowed ih =>
    obtain ⟨host, log, before⟩ := ih
    exact ⟨host, log, before.join instant request allowed⟩
  | move _ moved allowed ih =>
    obtain ⟨host, log, before⟩ := ih
    cases moved with
    | advance ready => exact ⟨host, _, before.advance ready allowed⟩
    | elapse later => exact ⟨host, log, before.elapse later allowed⟩

namespace Unfolds

theorem reached (h : Unfolds joins moves start s log)
    (begun : Reached session joins moves start) : Reached session joins moves s := by
  induction h with
  | begins => exact begun
  | join _ instant request allowed ih => exact ih.join instant request allowed
  | elapse _ later allowed ih => exact ih.move (.elapse later) allowed
  | advance _ ready allowed ih => exact ih.move (.advance ready) allowed

theorem trans {later : List Notice} (h : Unfolds joins moves start s log)
    (rest : Unfolds joins moves s next later) :
    Unfolds joins moves start next (log ++ later) := by
  induction rest with
  | begins => rwa [List.append_nil]
  | join _ instant request allowed ih => exact ih.join instant request allowed
  | elapse _ later allowed ih => exact ih.elapse later allowed
  | advance _ ready allowed ih =>
    rw [← List.append_assoc]
    exact ih.advance ready allowed

/-- The notices of a history are what the journal gained. -/
theorem journal (h : Unfolds joins moves start s log) :
    s.world.host.journal = start.world.host.journal ++ log.map (·.injection) := by
  induction h with
  | begins => simp
  | join _ _ _ _ ih => exact ih
  | elapse _ _ _ ih => exact ih
  | advance _ ready _ ih =>
    rw [Activity.step_journal _ ready, ih, List.map_append, List.append_assoc]

/-- What is told is faithful. -/
theorem faithful (h : Unfolds joins moves start s log)
    (serves : ∀ activity ∈ start.activities, activity.Serves start.session) :
    (s.session = start.session ∧ ∀ activity ∈ s.activities, activity.Serves start.session) ∧
      ∀ notice ∈ log, notice.Faithful start.session.config.platform := by
  induction h with
  | begins => exact ⟨⟨rfl, serves⟩, fun _ member => absurd member List.not_mem_nil⟩
  | join _ _ request _ ih =>
    obtain ⟨⟨same, serves⟩, faithful⟩ := ih
    refine ⟨⟨same, fun activity member => ?_⟩, faithful⟩
    rcases List.mem_append.mp member with old | new
    · exact serves activity old
    · rw [List.mem_singleton.mp new]
      exact nofun
  | elapse _ _ _ ih => exact ih
  | @advance _ world left activity right log _ ready _ ih =>
    obtain ⟨⟨same, serves⟩, faithful⟩ := ih
    cases same
    -- The section is run on the session that its activity was begun on.
    have own := serves activity (by simp)
    refine ⟨⟨rfl, fun other member => ?_⟩, fun notice member => ?_⟩
    · simp only [List.mem_append, List.mem_cons] at member
      rcases member with before | rfl | after
      · exact serves other (by simp [before])
      · exact own.step world
      · exact serves other (by simp [after])
    · rcases List.mem_append.mp member with old | new
      · exact faithful notice old
      · exact Activity.faithful_of_mem_notices own ready new

end Unfolds

/-! ### The history of a run -/

/-- What the next step of a schedule tells the surface. -/
def notices (schedule : Schedule) : List Notice :=
  match schedule.activities.find? (·.isReady schedule.world.now) with
  | some activity => activity.notices schedule.session schedule.world
  | none => []

/-- What a number of steps tells the surface. -/
def record : Nat → Schedule → List Notice
  | 0, _ => []
  | n + 1, schedule => schedule.notices ++ record n schedule.step

theorem stepFirst_of_find? (session : Session) {world : World}
    {activities : List Activity} {activity : Activity}
    (first : activities.find? (·.isReady world.now) = some activity) :
    ∃ left right, activities = left ++ activity :: right ∧
      stepFirst session world activities = some ((activity.step session world).1,
        left ++ (activity.step session world).2 :: right) := by
  induction activities with
  | nil => cases first
  | cons head activities ih =>
    unfold stepFirst
    cases ready : head.isReady world.now with
    | true =>
      rw [List.find?_cons_of_pos ready] at first
      cases first
      exact ⟨[], activities, rfl, rfl⟩
    | false =>
      rw [List.find?_cons_of_neg (by simp [ready])] at first
      obtain ⟨left, right, rfl, ran⟩ := ih first
      exact ⟨head :: left, right, rfl, by rw [ran]; rfl⟩

private theorem stepFirst_of_find?_none (session : Session) {world : World}
    {activities : List Activity} (none : activities.find? (·.isReady world.now) = none) :
    stepFirst session world activities = .none := by
  induction activities with
  | nil => rfl
  | cons head activities ih =>
    rw [List.find?_eq_none, List.forall_mem_cons] at none
    rw [stepFirst, if_neg none.1, ih (List.find?_eq_none.mpr none.2)]
    rfl

/-- A step of the schedule goes on with the history. -/
theorem Unfolds.step (h : Unfolds joins moves start s log) (free : ∀ s next, moves s next) :
    Unfolds joins moves start s.step (log ++ s.notices) := by
  obtain ⟨session, world, activities⟩ := s
  cases first : activities.find? (·.isReady world.now) with
  | some activity =>
    obtain ⟨left, right, rfl, ran⟩ := stepFirst_of_find? session first
    have ready : activity.isReady world.now = true := List.find?_some first
    simp only [Schedule.step, notices, first, ran]
    exact h.advance ready (free _ _)
  | none =>
    have ran := stepFirst_of_find?_none session first
    simp only [Schedule.step, notices, first, ran, List.append_nil]
    split
    · exact h.elapse (Nat.le_max_left _ _) (free _ _)
    · exact h

theorem Unfolds.steps (h : Unfolds joins moves start s log) (free : ∀ s next, moves s next)
    (n : Nat) : Unfolds joins moves start (s.steps n) (log ++ s.record n) := by
  induction n generalizing s log with
  | zero =>
    rw [record, List.append_nil]
    exact h
  | succ n ih =>
    rw [record, ← List.append_assoc]
    exact ih (h.step free)

end Schedule

end InputActions
