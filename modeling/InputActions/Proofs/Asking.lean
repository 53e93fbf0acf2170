import InputActions.Proofs.Chronicle

/-!
# What a section asks of the surface

A section asks the surface to inject one event at most. If it does, the action waits for the answer
next, and the answer has the number of the injection (`Slot.step_asks`). A mouse event is made of
the store as the section leaves it, except for the menu that follows an accepted click: that event
is the click once more. So an answer that is awaited can be looked up in the journal, and an event
of the journal compared with the store (`Passage.told_of_verdict?`, `Passage.tells`).
-/
namespace InputActions

/-! ### Answers -/

/-- The answer that an action waits for, if it waits for that to an event. -/
def Wait.verdict? : Wait → Option Verdict
  | .keydown _ _ _ verdict => some verdict
  | .keypress verdict => some verdict
  | .keyup _ _ verdict => some verdict
  | .mousedown _ _ _ verdict => some verdict
  | .contextmenu verdict => some verdict
  | .mouseup _ _ verdict => some verdict
  | .step _ _ _ verdict => some verdict
  | .arrival _ _ verdict => some verdict
  | _ => none

/-- The answer that the action of a slot waits for. -/
def Slot.verdict? : Slot → Option Verdict
  | .waiting _ wait => wait.verdict?
  | _ => none

/-- The world once the answer has come that a slot waits for, if it waits for one. -/
def Slot.heard (slot : Slot) (world : World) : World :=
  match slot.verdict? with
  | some verdict => world.acknowledge verdict
  | none => world

@[simp] theorem Slot.inputs_heard (slot : Slot) (world : World) :
    (slot.heard world).inputs = world.inputs := by
  unfold heard
  split <;> rfl

@[simp] theorem Slot.journal_heard (slot : Slot) (world : World) :
    (slot.heard world).host.journal = world.host.journal := by
  unfold heard
  split <;> rfl

@[simp] theorem Slot.tally_heard (slot : Slot) (world : World) :
    (slot.heard world).host.tally = world.host.tally := by
  unfold heard
  split <;> rfl

/-- The click whose answer an action waits for. -/
def Wait.click? : Wait → Option (SourceId × MouseEvent)
  | .mousedown id event _ _ => some (id, event)
  | _ => none

/-- Where a mousemove puts its pointer. -/
def Injection.landing? (injection : Injection) : Option (SourceId × Point) :=
  match injection.event with
  | .mouse event =>
    if event.kind = .mousemove then some (injection.source, event.position) else none
  | .key _ => none

/-- A wait for the answer to an event: it has the number of the event and knows how it will be
answered, where a move leads, and what a click reported. -/
structure Wait.Expects (wait : Wait) (number : Nat) (injection : Injection) : Prop where
  verdict : wait.verdict? = some ⟨number, injection.refusal⟩
  landing : injection.landing? = wait.landing?.map fun (id, target, _) => (id, target)
  click : ∀ id event, wait.click? = some (id, event) →
    injection.source = id ∧ injection.event = .mouse event ∧ event.kind = .mousedown

/-! ### Events -/

/-- A mouse event that shows its mouse as it is in the store, and the flags of all keyboards. A
mousemove shows where its mouse will be. -/
structure MouseEvent.Reflects (event : MouseEvent) (store : Store) (id : SourceId) : Prop where
  source : ∃ source, store.mouse id = .ok source ∧ event.buttons = source.buttonMask ∧
    (event.kind ≠ .mousemove → event.position = source.position)
  modifiers : event.modifiers = store.modifiers

/-- What a slot tells the surface with a section that leaves the store as given. -/
inductive Slot.Tells (slot : Slot) (store : Store) (injection : Injection) : Prop
  | key {event} (told : injection.event = .key event)
  | mouse {event} (told : injection.event = .mouse event) (kind : event.kind ≠ .contextmenu)
      (reflects : event.Reflects store injection.source)
  /-- The menu that an accepted click opens. -/
  | menu {wake click opens verdict}
      (clicked : slot = .waiting wake (.mousedown injection.source click opens verdict))
      (accepted : verdict.refusal = none)
      (told : injection.event = .mouse { click with kind := .contextmenu })

/-- A stretch in which the surface is neither told anything nor answers. -/
structure World.Quiet (before after : World) : Prop where
  journal : after.host.journal = before.host.journal
  injections : after.host.tally.injections = before.host.tally.injections
  answered : after.host.answered = before.host.answered

theorem World.quiet_of_host {before after : World} (same : after.host = before.host) :
    before.Quiet after := by
  constructor <;> rw [same]

/-- What becomes of a slot that asks for something, or for nothing, with a section. -/
inductive Slot.Asks (slot : Slot) (before after : World) : Slot → Prop
  | nothing {next} (quiet : before.Quiet after) (idle : next.verdict? = none) :
      Asks slot before after next
  | asks {wake wait injection} (tells : slot.Tells after.inputs.store injection)
      (journal : after.host.journal = before.host.journal ++ [injection])
      (injections : after.host.tally.injections = before.host.tally.injections + 1)
      (answered : after.host.answered = before.host.answered)
      (expects : wait.Expects before.host.tally.injections injection) :
      Asks slot before after (.waiting wake wait)

namespace Slot.Asks

variable {slot next : Slot} {before after : World} (h : slot.Asks before after next)
include h

theorem answered_eq : after.host.answered = before.host.answered := by
  cases h with
  | nothing quiet => exact quiet.answered
  | asks _ _ _ answered => exact answered

theorem journal_eq : ∃ told, after.host.journal = before.host.journal ++ told := by
  cases h with
  | nothing quiet => exact ⟨[], quiet.journal.trans (List.append_nil _).symm⟩
  | asks _ journal => exact ⟨_, journal⟩

end Slot.Asks

/-! ### Inputs -/

namespace Inputs

variable {inputs next : Inputs}

theorem mouse_put {id : SourceId} {source : PointerSource} (mouse : source.kind = .mouse) :
    Store.mouse (inputs.store.insert id (.pointer source)) id = .ok source := by
  unfold Store.mouse
  rw [Store.getElem?_put, if_pos rfl]
  exact if_pos mouse

theorem pressButton_reflects {action : Action} {button : UInt32} {event : MouseEvent}
    (h : inputs.pressButton action button = .ok (some (event, next))) :
    event.kind = .mousedown ∧ event.Reflects next.store action.id := by
  unfold pressButton at h
  cases found : inputs.store.mouse action.id with
  | error error => simp [found, bind, Except.bind] at h
  | ok source =>
    simp only [found, bind, Except.bind, pure, Except.pure] at h
    split at h <;> cases h
    exact ⟨rfl, ⟨_, mouse_put (Store.mouse_eq_ok found).2, rfl, fun _ => rfl⟩, rfl⟩

theorem liftButton_reflects {action : Action} {button : UInt32} {event : MouseEvent}
    (h : inputs.liftButton action button = .ok (some (event, next))) :
    event.kind = .mouseup ∧ event.Reflects next.store action.id := by
  unfold liftButton at h
  cases found : inputs.store.mouse action.id with
  | error error => simp [found, bind, Except.bind] at h
  | ok source =>
    simp only [found, bind, Except.bind, pure, Except.pure] at h
    split at h <;> cases h
    exact ⟨rfl, ⟨_, mouse_put (Store.mouse_eq_ok found).2, rfl, fun _ => rfl⟩, rfl⟩

/-- A move changes nothing yet, so the event shows the buttons and flags that are in the store. -/
theorem moveEvent_reflects {id : SourceId} {target : Point} {event : MouseEvent}
    (h : inputs.moveEvent id target = .ok (some event)) :
    event.kind = .mousemove ∧ event.position = target ∧ event.Reflects inputs.store id := by
  unfold moveEvent at h
  cases found : inputs.store.mouse id with
  | error error => simp [found, bind, Except.bind] at h
  | ok source =>
    simp only [found, bind, Except.bind, pure, Except.pure] at h
    split at h <;> cases h
    exact ⟨rfl, rfl, ⟨_, found, rfl, fun moves => absurd rfl moves⟩, rfl⟩

end Inputs

/-! ### Sections -/

section
variable {slot : Slot} {before world : World} (quiet : before.Quiet world)
include quiet

/-- A section that ends with a request. -/
private theorem asks_request {id : SourceId} {event : Event} {wait : Verdict → Wait}
    (tells : ∀ time refusal, slot.Tells world.inputs.store ⟨time, id, event, refusal⟩)
    (expects : ∀ number time refusal,
      (wait ⟨number, refusal⟩).Expects number ⟨time, id, event, refusal⟩) :
    slot.Asks before (world.request id event wait).1
      (.ofOutcome (world.request id event wait).1 (world.request id event wait).2) := by
  refine .asks (tells _ _) (congrArg (· ++ _) quiet.journal)
    (congrArg (· + 1) quiet.injections) quiet.answered ?_
  rw [← quiet.injections]
  exact expects _ _ _

/-- A key event shows no mouse, and none moves with it. -/
private theorem asks_key {id : SourceId} {event : KeyEvent} {wait : Verdict → Wait}
    (awaits : ∀ verdict, (wait verdict).verdict? = some verdict)
    (still : ∀ verdict, (wait verdict).landing? = none)
    (other : ∀ verdict, (wait verdict).click? = none) :
    slot.Asks before (world.request id (.key event) wait).1
      (.ofOutcome (world.request id (.key event) wait).1
        (world.request id (.key event) wait).2) := by
  apply asks_request quiet
  · exact fun _ _ => .key rfl
  · intro number time refusal
    refine ⟨awaits _, ?_, fun _ _ clicks => nomatch (other _).symm.trans clicks⟩
    rw [still]
    rfl

/-- A mousemove leads where the wait for its answer will put the mouse. -/
private theorem asks_move {id : SourceId} {target : Point} {event : MouseEvent}
    {wait : Verdict → Wait} (moves : world.inputs.moveEvent id target = .ok (some event))
    (awaits : ∀ verdict, (wait verdict).verdict? = some verdict)
    (lands : ∀ verdict, (wait verdict).landing? = some (id, target, verdict))
    (other : ∀ verdict, (wait verdict).click? = none) :
    slot.Asks before (world.request id (.mouse event) wait).1
      (.ofOutcome (world.request id (.mouse event) wait).1
        (world.request id (.mouse event) wait).2) := by
  obtain ⟨kind, position, reflects⟩ := Inputs.moveEvent_reflects moves
  apply asks_request quiet
  · intro time refusal
    exact .mouse rfl (by rw [kind]; nofun) reflects
  · intro number time refusal
    refine ⟨awaits _, ?_, fun _ _ clicks => nomatch (other _).symm.trans clicks⟩
    simp [Injection.landing?, kind, position, lands]

/-- A click or a menu moves no mouse. -/
private theorem asks_click {id : SourceId} {event : MouseEvent} {wait : Verdict → Wait}
    (tells : ∀ time refusal, slot.Tells world.inputs.store ⟨time, id, .mouse event, refusal⟩)
    (kind : event.kind ≠ .mousemove) (awaits : ∀ verdict, (wait verdict).verdict? = some verdict)
    (still : ∀ verdict, (wait verdict).landing? = none)
    (click : ∀ verdict, (wait verdict).click? = none ∨
      (wait verdict).click? = some (id, event) ∧ event.kind = .mousedown) :
    slot.Asks before (world.request id (.mouse event) wait).1
      (.ofOutcome (world.request id (.mouse event) wait).1
        (world.request id (.mouse event) wait).2) := by
  apply asks_request quiet tells
  intro number time refusal
  refine ⟨awaits _, ?_, fun name report clicks => ?_⟩
  · simp [Injection.landing?, kind, still]
  · rcases click ⟨number, refusal⟩ with none | ⟨own, down⟩
    · cases none.symm.trans clicks
    · cases own.symm.trans clicks
      exact ⟨rfl, rfl, down⟩

private theorem asks_moveToTarget (id : SourceId) (target : Point) :
    slot.Asks before (world.moveToTarget id target).1
      (.ofOutcome (world.moveToTarget id target).1 (world.moveToTarget id target).2) := by
  unfold World.moveToTarget
  split
  · exact .nothing quiet rfl
  · exact .nothing quiet rfl
  next moves => exact asks_move quiet moves (fun _ => rfl) (fun _ => rfl) fun _ => rfl

private theorem asks_moveToSample (session : Session) (move : Move) (target position : Point) :
    slot.Asks before (world.moveToSample session move target position).1
      (.ofOutcome (world.moveToSample session move target position).1
        (world.moveToSample session move target position).2) := by
  unfold World.moveToSample
  split
  · exact .nothing quiet rfl
  · exact .nothing quiet rfl
  next moves => exact asks_move quiet moves (fun _ => rfl) (fun _ => rfl) fun _ => rfl

end

theorem World.quiet_resetClick (world : World) : world.Quiet world.resetClick := by
  unfold resetClick Host.resetClick
  constructor <;> dsimp only <;> split <;> rfl

/-- A press is reported as a click that shows the same, whichever button it names and however it
counts. -/
private theorem asks_mousedown {slot : Slot} {world next : World} {id : SourceId}
    {press : MouseEvent} (quiet : world.Quiet next)
    (reflects : press.Reflects next.inputs.store id) (down : press.kind = .mousedown)
    (button : UInt32) (count : Nat) (opens : Bool) :
    let click := { press with button := button, clickCount := count }
    slot.Asks world (next.request id (.mouse click) (.mousedown id click opens)).1
      (.ofOutcome (next.request id (.mouse click) (.mousedown id click opens)).1
        (next.request id (.mouse click) (.mousedown id click opens)).2) := by
  intro click
  have shows : click.Reflects next.inputs.store id := ⟨reflects.source, reflects.modifiers⟩
  have down : click.kind = .mousedown := down
  apply asks_click quiet
  · exact fun _ _ => .mouse rfl (by rw [down]; nofun) shows
  · rw [down]
    nofun
  · exact fun _ => rfl
  · exact fun _ => rfl
  · exact fun _ => Or.inr ⟨rfl, down⟩

private theorem asks_pointerDown (action : Action) (context : Context) (button : UInt32)
    (world : World) :
    (Slot.ready action).Asks world (action.beginPointerDown context button world).1
      (.ofOutcome (action.beginPointerDown context button world).1
        (action.beginPointerDown context button world).2) := by
  unfold Action.beginPointerDown
  split
  · exact .nothing (World.quiet_of_host rfl) rfl
  · exact .nothing (World.quiet_of_host rfl) rfl
  next event inputs pressed =>
    obtain ⟨kind, reflects⟩ := Inputs.pressButton_reflects pressed
    dsimp only
    split
    -- The surface is also told to forget the last click.
    · have reset := World.quiet_resetClick { world with inputs := inputs }
      have quiet : world.Quiet (World.resetClick { world with inputs := inputs }) :=
        ⟨reset.journal, reset.injections, reset.answered⟩
      exact asks_mousedown quiet reflects kind _ _ _
    · have quiet : world.Quiet { world with inputs := inputs } := World.quiet_of_host rfl
      split <;> exact asks_mousedown quiet reflects kind _ _ _

private theorem asks_pointerUp (action : Action) (button : UInt32) (world : World) :
    (Slot.ready action).Asks world (action.beginPointerUp button world).1
      (.ofOutcome (action.beginPointerUp button world).1
        (action.beginPointerUp button world).2) := by
  unfold Action.beginPointerUp
  split
  · exact .nothing (World.quiet_of_host rfl) rfl
  · exact .nothing (World.quiet_of_host rfl) rfl
  next event inputs lifted =>
    obtain ⟨kind, reflects⟩ := Inputs.liftButton_reflects lifted
    have quiet : world.Quiet { world with inputs := inputs } := World.quiet_of_host rfl
    dsimp only
    apply asks_click quiet
    · exact fun _ _ => .mouse rfl (by rw [kind]; nofun) ⟨reflects.source, reflects.modifiers⟩
    · rw [kind]
      nofun
    · exact fun _ => rfl
    · exact fun _ => rfl
    · exact fun _ => Or.inl rfl

private theorem asks_pointerMove (action : Action) (duration : UInt64) (origin : Origin)
    (dx dy : Int64) (world : World) :
    (Slot.ready action).Asks world (action.beginPointerMove duration origin dx dy world).1
      (.ofOutcome (action.beginPointerMove duration origin dx dy world).1
        (action.beginPointerMove duration origin dx dy world).2) := by
  unfold Action.beginPointerMove
  split
  · exact .nothing (World.quiet_of_host rfl) rfl
  · split <;> exact .nothing ⟨rfl, rfl, rfl⟩ rfl

theorem Action.begin_asks (action : Action) (context : Context) (tickDuration : UInt64)
    (world : World) :
    (Slot.ready action).Asks world (action.begin context tickDuration world).1
      (.ofOutcome (action.begin context tickDuration world).1
        (action.begin context tickDuration world).2) := by
  have still : world.Quiet world := World.quiet_of_host rfl
  unfold begin
  split
  · dsimp only
    split <;> exact .nothing still rfl
  · unfold beginKeyDown
    split
    · exact .nothing still rfl
    next inputs _ =>
      have quiet : world.Quiet { world with inputs := inputs } := World.quiet_of_host rfl
      exact asks_key quiet (fun _ => rfl) (fun _ => rfl) fun _ => rfl
  · unfold beginKeyUp
    split
    · exact .nothing still rfl
    · exact .nothing still rfl
    next inputs _ =>
      have quiet : world.Quiet { world with inputs := inputs } := World.quiet_of_host rfl
      exact asks_key quiet (fun _ => rfl) (fun _ => rfl) fun _ => rfl
  · exact asks_pointerDown ..
  · exact asks_pointerUp ..
  · exact asks_pointerMove ..
  · exact .nothing still rfl

private theorem asks_refused {slot : Slot} {before world : World} (quiet : before.Quiet world)
    (error : HostError) (restored : Except InvalidArgument Inputs) :
    slot.Asks before (Wait.refused error restored world).1
      (.ofOutcome (Wait.refused error restored world).1 (Wait.refused error restored world).2) := by
  unfold Wait.refused
  split
  · exact .nothing quiet rfl
  · exact .nothing ⟨quiet.journal, quiet.injections, quiet.answered⟩ rfl

private theorem asks_setOut (slot : Slot) (context : Context) (move : Move) (base : Point)
    (world : World) :
    slot.Asks world (Wait.setOut context move base world).1
      (.ofOutcome (Wait.setOut context move base world).1
        (Wait.setOut context move base world).2) := by
  have still : world.Quiet world := World.quiet_of_host rfl
  unfold Wait.setOut
  split
  · exact .nothing still rfl
  · split
    · exact asks_moveToTarget still _ _
    · exact .nothing still rfl

private theorem asks_takeSample (slot : Slot) (context : Context) (move : Move) (target : Point)
    (world : World) :
    slot.Asks world (Wait.takeSample context move target world).1
      (.ofOutcome (Wait.takeSample context move target world).1
        (Wait.takeSample context move target world).2) := by
  have still : world.Quiet world := World.quiet_of_host rfl
  unfold Wait.takeSample
  dsimp only
  split
  · exact asks_moveToSample still _ _ _ _
  · exact asks_moveToTarget still _ _

theorem Wait.resume_asks (wait : Wait) (wake : Nat) (context : Context) (world : World) :
    (Slot.waiting wake wait).Asks ((Slot.waiting wake wait).heard world)
      (wait.resume context world).1
      (.ofOutcome (wait.resume context world).1 (wait.resume context world).2) := by
  have still (world : World) : world.Quiet world := World.quiet_of_host rfl
  cases wait with
  | pause => exact .nothing (still _) rfl
  | keydown id event printable verdict =>
    dsimp only [resume]
    split
    · exact .nothing (still _) rfl
    · unfold afterKeydown
      dsimp only
      split
      · exact asks_key (still _) (fun _ => rfl) (fun _ => rfl) fun _ => rfl
      · exact .nothing (still _) rfl
  | keypress verdict | contextmenu verdict =>
    dsimp only [resume]
    split <;> exact .nothing (still _) rfl
  | keyup _ _ verdict | mouseup _ _ verdict =>
    dsimp only [resume]
    split
    · exact asks_refused (still _) _ _
    · exact .nothing (still _) rfl
  | mousedown id event opensMenu verdict =>
    dsimp only [resume]
    split
    · exact .nothing (still _) rfl
    next accepted =>
      -- The menu repeats the click, so nothing is said of the store, which may be another by now.
      split
      · apply asks_click (still (world.acknowledge verdict))
        · exact fun _ _ => .menu rfl accepted rfl
        · exact MouseEventKind.noConfusion
        · exact fun _ => rfl
        · exact fun _ => rfl
        · exact fun _ => Or.inl rfl
      · exact .nothing (still _) rfl
  | center move ref refusal =>
    dsimp only [resume]
    split
    · exact .nothing (still _) rfl
    · split
      · exact .nothing (still _) rfl
      · exact .nothing ⟨rfl, rfl, rfl⟩ rfl
  | viewport move base refusal =>
    dsimp only [resume]
    split
    · exact .nothing (still _) rfl
    · exact asks_setOut _ _ _ _ _
  | sample move target => exact asks_takeSample _ _ _ _ _
  | step _ _ _ verdict | arrival _ _ verdict =>
    dsimp only [resume]
    split
    · exact .nothing (still _) rfl
    · split
      · exact .nothing (still _) rfl
      · exact .nothing ⟨rfl, rfl, rfl⟩ rfl

/-- Once its answer is noted, a section asks for one thing at most. -/
theorem Slot.step_asks (slot : Slot) (context : Context) (duration : UInt64) (world : World) :
    slot.Asks (slot.heard world) (slot.step context duration world).1
      (slot.step context duration world).2 := by
  cases slot with
  | ready action => exact action.begin_asks context duration world
  | waiting wake wait => exact wait.resume_asks wake context world
  | settled result => exact .nothing (World.quiet_of_host rfl) rfl

/-! ### Sections in a history -/

namespace Passage

variable (passage : Passage)

theorem asks :
    passage.slot.Asks (passage.slot.heard passage.world) passage.after passage.next :=
  passage.slot.step_asks passage.context passage.duration passage.world

/-- A section tells nothing, or one thing, whose answer is awaited next. -/
theorem told_cases :
    passage.told = [] ∧ passage.next.verdict? = none ∨
      ∃ wake wait injection, passage.told = [injection] ∧ passage.next = .waiting wake wait ∧
        passage.slot.Tells passage.after.inputs.store injection ∧
        Wait.Expects wait passage.world.host.tally.injections injection := by
  have asked := passage.asks
  generalize ends : passage.next = next at asked
  cases asked with
  | nothing quiet idle =>
    refine Or.inl ⟨?_, idle⟩
    rw [told, quiet.journal, Slot.journal_heard, List.drop_length]
  | asks tells journal _ _ expects =>
    rw [Slot.tally_heard] at expects
    refine Or.inr ⟨_, _, _, ?_, rfl, tells, expects⟩
    rw [told, journal, Slot.journal_heard, List.drop_left]

theorem tells {passage : Passage} {injection : Injection} (h : injection ∈ passage.told) :
    passage.slot.Tells passage.after.inputs.store injection := by
  rcases passage.told_cases with ⟨none, -⟩ | ⟨_, _, _, one, -, tells, -⟩
  · rw [none] at h
    exact absurd h List.not_mem_nil
  · rw [one, List.mem_singleton] at h
    rwa [h]

/-- An action that comes to wait for an answer has just told the surface something. -/
theorem told_of_verdict? {passage : Passage} {wake : Nat} {wait : Wait} {verdict : Verdict}
    (ends : passage.next = .waiting wake wait) (awaits : wait.verdict? = some verdict) :
    ∃ injection, passage.told = [injection] ∧
      wait.Expects passage.world.host.tally.injections injection := by
  rcases passage.told_cases with ⟨-, idle⟩ | ⟨_, _, injection, one, waits, -, expects⟩
  · rw [ends] at idle
    cases awaits.symm.trans idle
  · cases ends.symm.trans waits
    exact ⟨injection, one, expects⟩

/-- No answer is noted but the one that the action waited for. -/
theorem answered_after :
    passage.after.host.answered = (passage.slot.heard passage.world).host.answered :=
  passage.asks.answered_eq

end Passage

end InputActions
