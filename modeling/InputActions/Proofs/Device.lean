import InputActions.Proofs.Forgetting

/-!
# How the events of a trigger follow one another

As long as the surface refuses nothing, what it is told of a key or button is what a device would
tell: a key goes down before it comes up, and says when it was down already; a button goes down and
comes up by turns. `Trigger.Allows` says what may be told next, and `Trigger.Follows` lists of such
events. The events of a button are those of the actions that name it, also where a click with the
control key on a Mac is reported as one of the secondary button.

Each handler reads whether the trigger is held, changes it and asks for the event in one section.
So the events lead to what is held, however the calls interleave (`Schedule.Unfolds.follows`).
-/
namespace InputActions

/-! ### The protocol of a device -/

/-- What may be told of a trigger that is down, or up. A key that is down can be pressed once more,
and its event says so; a button cannot. -/
inductive Trigger.Allows (down : Bool) : Trigger → Event → Prop
  | keydown {value event} (kind : event.kind = .keydown) (held : event.held = down) :
      Allows down (.key value) (.key event)
  | keyup {value event} (kind : event.kind = .keyup) (was : down = true) :
      Allows down (.key value) (.key event)
  | mousedown {number event} (kind : event.kind = .mousedown) (was : down = false) :
      Allows down (.button number) (.mouse event)
  | mouseup {number event} (kind : event.kind = .mouseup) (was : down = true) :
      Allows down (.button number) (.mouse event)

/-- The events of a trigger that is up at first, and whether it is down after them. -/
inductive Trigger.Follows (trigger : Trigger) : List Event → Bool → Prop
  | begins : Follows trigger [] false
  | tell {events down event} (before : Follows trigger events down)
      (allowed : trigger.Allows down event) :
      Follows trigger (events ++ [event]) event.presses

namespace Trigger.Follows

variable {trigger : Trigger} {events : List Event} {down : Bool}

/-- A trigger is down if its last event is a press. -/
theorem eq_last (h : trigger.Follows events down) :
    down = events.getLast?.any (·.presses) := by
  cases h with
  | begins => rfl
  | tell => simp

/-- Each event is one that may be told after the events before it. -/
theorem split {before after : List Event} {event : Event}
    (h : trigger.Follows (before ++ event :: after) down) :
    ∃ was, trigger.Follows before was ∧ trigger.Allows was event := by
  generalize whole : before ++ event :: after = events at h
  induction h generalizing after with
  | begins => simp at whole
  | @tell events was last earlier allowed ih =>
    rcases List.eq_nil_or_concat after with rfl | ⟨rest, other, rfl⟩
    · obtain ⟨rfl, rfl⟩ := by simpa using whole
      exact ⟨was, earlier, allowed⟩
    · have whole : (before ++ event :: rest) ++ [other] = events ++ [last] := by simpa using whole
      exact ih (List.append_inj_left' whole rfl)

/-- What an event may say depends on whether the one before it is a press. -/
theorem allows {before after : List Event} {event : Event}
    (h : trigger.Follows (before ++ event :: after) down) :
    trigger.Allows (before.getLast?.any (·.presses)) event := by
  obtain ⟨was, earlier, allowed⟩ := h.split
  rwa [← earlier.eq_last]

section
variable {number : UInt32} {event : Event}

private theorem presses_of_allows (h : (Trigger.button number).Allows down event) :
    event.presses = !down := by
  cases h <;> simp_all [Event.presses]

private theorem parity (h : (Trigger.button number).Follows events down) :
    down = decide (events.length % 2 = 1) := by
  induction h with
  | begins => rfl
  | @tell events down event before allowed ih =>
    rw [presses_of_allows allowed, ih, List.length_append, List.length_singleton]
    rcases Nat.mod_two_eq_zero_or_one events.length with even | odd
    · simp [Nat.add_mod, even]
    · simp [Nat.add_mod, odd]

/-- A button goes down and comes up by turns. -/
theorem presses_button (h : (Trigger.button number).Follows events down) {i : Nat}
    (found : events[i]? = some event) : event.presses = decide (i % 2 = 0) := by
  obtain ⟨inside, rfl⟩ := List.getElem?_eq_some_iff.mp found
  have whole : events = events.take i ++ events[i] :: events.drop (i + 1) := by simp
  rw [whole] at h
  obtain ⟨was, before, allowed⟩ := h.split
  rw [presses_of_allows allowed, before.parity, List.length_take_of_le (Nat.le_of_lt inside)]
  rcases Nat.mod_two_eq_zero_or_one i with even | odd
  · simp [even]
  · simp [odd]

end

end Trigger.Follows

/-! ### Handlers -/

namespace Inputs

variable {inputs next : Inputs} {action : Action}

/-- The event of a key that goes down says whether the key was held. -/
theorem pressKey_held {value : String} {event : KeyEvent} {printable : Bool}
    (h : inputs.pressKey action value = .ok (event, printable, next)) :
    event.held = decide (inputs.Holds action.id (.key (Key.normalized value))) := by
  unfold pressKey at h
  cases known : inputs.store.keySource action.id with
  | error fault => simp [known, bind, Except.bind] at h
  | ok source =>
    simp only [known, bind, Except.bind, pure, Except.pure, Except.ok.injEq, Prod.mk.injEq] at h
    obtain ⟨rfl, -⟩ := h
    simp [holds_iff (Store.keySource_eq_ok known), Source.held?]

theorem holds_of_liftKey {value : String} {event : KeyEvent}
    (h : inputs.liftKey action value = .ok (some (event, next))) :
    inputs.Holds action.id (.key (Key.normalized value)) := by
  obtain ⟨source, found, ⟨-, none⟩ | ⟨held, -⟩⟩ := liftKey_cases h
  · cases none
  · exact (holds_iff found _).mpr (congrArg some held)

theorem not_holds_of_pressButton {button : UInt32} {event : MouseEvent}
    (h : inputs.pressButton action button = .ok (some (event, next))) :
    ¬ inputs.Holds action.id (.button button) := by
  unfold pressButton at h
  cases known : inputs.store.mouse action.id with
  | error error => simp [known, bind, Except.bind] at h
  | ok source =>
    simp only [known, bind, Except.bind, pure, Except.pure] at h
    split at h
    · cases h
    next up =>
      intro held
      exact up (Option.some.inj ((holds_iff (Store.mouse_eq_ok known).1 _).mp held))

theorem holds_of_liftButton {button : UInt32} {event : MouseEvent}
    (h : inputs.liftButton action button = .ok (some (event, next))) :
    inputs.Holds action.id (.button button) := by
  obtain ⟨source, found, ⟨-, none⟩ | ⟨held, -⟩⟩ := liftButton_cases h
  · cases none
  · exact (holds_iff found _).mpr (congrArg some held)

end Inputs

/-! ### Sections -/

/-- An event that a section asks for is the one that the journal gains. -/
private theorem event_of_request {before world : World} {id : SourceId} {event : Event}
    {wait : Verdict → Wait} {injection : Injection}
    (same : world.host.journal = before.host.journal)
    (told : (world.request id event wait).1.host.journal =
      before.host.journal ++ [injection]) : injection.event = event := by
  have gained : (world.request id event wait).1.host.journal = world.host.journal ++
      [⟨world.now, id, event, world.host.injectionRefusal world.host.tally world.now⟩] := rfl
  rw [gained, same] at told
  cases List.append_cancel_left told
  rfl

private theorem not_told {before : World} {injection : Injection} {p : Prop}
    (told : before.host.journal = before.host.journal ++ [injection]) : p := by
  simp at told

/-- What the first section of an action tells of its trigger is allowed. -/
private theorem Action.begin_allows {action : Action} {context : Context} {tickDuration : UInt64}
    {world : World} {injection : Injection} {trigger : Trigger}
    (told : (action.begin context tickDuration world).1.host.journal =
      world.host.journal ++ [injection])
    (meant : action.gesture.trigger? = some trigger) :
    trigger.Allows (decide (world.inputs.Holds action.id trigger)) injection.event := by
  unfold begin at told
  cases gesture : action.gesture with
  | keyDown value =>
    rw [gesture] at told meant
    cases meant
    dsimp only [beginKeyDown] at told
    split at told
    · exact not_told told
    next pressed =>
      rw [event_of_request rfl told]
      exact .keydown (Inputs.pressKey_event pressed).1 (Inputs.pressKey_held pressed)
  | keyUp value =>
    rw [gesture] at told meant
    cases meant
    dsimp only [beginKeyUp] at told
    split at told
    · exact not_told told
    · exact not_told told
    next lifted =>
      rw [event_of_request rfl told]
      exact .keyup (Inputs.liftKey_event lifted).1
        (decide_eq_true (Inputs.holds_of_liftKey lifted))
  | pointerDown button =>
    rw [gesture] at told meant
    cases meant
    dsimp only [beginPointerDown] at told
    split at told
    · exact not_told told
    · exact not_told told
    next event next pressed =>
      have kind := (Inputs.pressButton_event pressed).1
      rw [event_of_request ?_ told]
      -- On a Mac the event may name another button, but it is a press all the same.
      · refine .mousedown ?_ (decide_eq_false (Inputs.not_holds_of_pressButton pressed))
        split_ifs <;> exact kind
      · exact World.journal_resetClick ..
  | pointerUp button =>
    rw [gesture] at told meant
    cases meant
    dsimp only [beginPointerUp] at told
    split at told
    · exact not_told told
    · exact not_told told
    next lifted =>
      rw [event_of_request rfl told]
      exact .mouseup (Inputs.liftButton_event lifted).1
        (decide_eq_true (Inputs.holds_of_liftButton lifted))
  | _ =>
    rw [gesture] at meant
    cases meant

/-- What a section tells of a trigger is allowed. -/
theorem Slot.allows_of_mem_notices {slot : Slot} {context : Context} {duration : UInt64}
    {world : World} {notice : Notice} (member : notice ∈ slot.notices context duration world)
    {id : SourceId} {trigger : Trigger} (about : notice.about id trigger = true) :
    trigger.Allows (decide (world.inputs.Holds id trigger)) notice.injection.event := by
  obtain ⟨told, journal, notices, faithful⟩ := slot.notices_eq context duration world
  rw [notices] at member
  obtain ⟨injection, listed, rfl⟩ := List.mem_map.mp member
  obtain rfl := Option.mem_toList.mp listed
  cases slot with
  | ready action =>
    obtain ⟨source, -⟩ := faithful injection rfl
    obtain ⟨named, meant⟩ := (Bool.and_eq_true _ _).mp about
    obtain rfl : action.id = id := source.symm.trans (of_decide_eq_true named)
    exact Action.begin_allows journal (of_decide_eq_true meant)
  -- Only the first section of an action is about a trigger.
  | _ => simp [Notice.about, Slot.action?] at about

/-- What a section of an activity tells of a trigger is allowed. -/
theorem Activity.allows_of_mem_notices {activity : Activity} {session : Session} {world : World}
    (ready : activity.isReady world.now = true) {notice : Notice}
    (member : notice ∈ activity.notices session world) {id : SourceId} {trigger : Trigger}
    (about : notice.about id trigger = true) :
    trigger.Allows (decide (world.inputs.Holds id trigger)) notice.injection.event := by
  cases activity.step_ran session ready with
  | idle silent =>
    rw [notices_of_silent silent] at member
    cases member
  | slot _ _ running _ host =>
    rw [notices_of_running running host] at member
    exact Slot.allows_of_mem_notices member about

/-! ### Histories -/

/-- The events of a log that are about a trigger. -/
def Notice.told (log : List Notice) (id : SourceId) (trigger : Trigger) : List Event :=
  (log.filter (·.about id trigger)).map (·.injection.event)

namespace Notice

variable {log later : List Notice} {id : SourceId} {trigger : Trigger}

theorem told_append_of_quiet (quiet : ∀ notice ∈ later, notice.about id trigger = false) :
    told (log ++ later) id trigger = told log id trigger := by
  have none : later.filter (·.about id trigger) = [] := by
    simpa using quiet
  rw [told, List.filter_append, none, List.append_nil, told]

theorem told_concat {notice : Notice} (about : notice.about id trigger = true) :
    told (log ++ [notice]) id trigger = told log id trigger ++ [notice.injection.event] := by
  simp [told, about]

/-- An event that says that something was pressed or lifted is about a trigger of its source. -/
theorem Faithful.about {platform : Platform} {notice : Notice} (h : notice.Faithful platform)
    (moves : notice.injection.event.presses = true ∨ notice.injection.event.lifts = true) :
    ∃ trigger, notice.about notice.injection.source trigger = true := by
  obtain ⟨action, injection⟩ := notice
  cases action with
  | none => simp_all [Faithful]
  | some action =>
    obtain ⟨source, tells⟩ := h
    have meant : ∃ trigger, action.gesture.trigger? = some trigger := by
      generalize injection.event = event at tells
      generalize action.gesture = gesture at tells
      cases tells <;> exact ⟨_, rfl⟩
    obtain ⟨trigger, meant⟩ := meant
    exact ⟨trigger, (about_iff source meant _ _).mpr ⟨source, rfl⟩⟩

end Notice

namespace Schedule

variable {session : Session} {host : Host} {moves : Schedule → Schedule → Prop} {s : Schedule}
  {log : List Notice}

/-- The events of a trigger lead to what is held, and no lift of it is to be taken back. -/
theorem Unfolds.follows (h : Unfolds Remembers moves ⟨session, .initial host, []⟩ s log)
    (accepted : ∀ notice ∈ log, notice.accepted = true) (id : SourceId) (trigger : Trigger) :
    trigger.Follows (Notice.told log id trigger) (s.standing id trigger).held ∧
      (s.standing id trigger).refused = 0 := by
  induction h with
  | begins =>
    have up : (standing ⟨session, .initial host, []⟩ id trigger).held = false :=
      decide_eq_false (not_holds_fresh id trigger)
    rw [up]
    exact ⟨.begins, rfl⟩
  | join _ _ _ _ ih =>
    rw [standing_join]
    exact ih accepted
  | elapse _ _ _ ih => exact ih accepted
  | @advance current world left activity right log before ready _ ih =>
    obtain ⟨follows, none⟩ := ih fun notice member =>
      accepted notice (List.mem_append_left _ member)
    have seen : ∀ notice ∈ activity.notices current world, notice.accepted = true :=
      fun notice member => accepted notice (List.mem_append_right _ member)
    have allowed : ∀ notice ∈ activity.notices current world, notice.about id trigger = true →
        trigger.Allows (decide (world.inputs.Holds id trigger)) notice.injection.event :=
      fun _ member about => Activity.allows_of_mem_notices ready member about
    cases (before.rooted (.fresh session host)).explains ready id trigger with
    | quiet silent same kept =>
      rw [Notice.told_append_of_quiet silent, same, kept]
      exact ⟨follows, none⟩
    | @press notice one about presses down kept =>
      rw [one, Notice.told_concat about, down, ← presses, kept]
      exact ⟨follows.tell (allowed notice (by simp [one]) about), none⟩
    | @lift notice one about lifts _ _ up kept =>
      rw [one, Notice.told_concat about, up, ← lifts, kept]
      exact ⟨follows.tell (allowed notice (by simp [one]) about), none⟩
    | refuse one _ denied =>
      exact absurd (seen _ (by rw [one]; exact List.mem_cons_self)) (by simp [denied])
    | takeBack _ _ fewer => omega

/-- As long as nothing is refused, the events of every key and button are those of a device: they
lead from up to what is held, each may follow the one before it, and a button goes down and comes
up by turns. Every event that says that something was pressed or lifted is one of these. -/
theorem events_keep_protocol (h : Recalls session host s log)
    (accepted : ∀ notice ∈ log, notice.accepted = true) :
    s.world.host.journal = host.journal ++ log.map (·.injection) ∧
      (∀ notice ∈ log,
        notice.injection.event.presses = true ∨ notice.injection.event.lifts = true →
          ∃ trigger, notice.about notice.injection.source trigger = true) ∧
      (∀ id (trigger : Trigger), trigger.Follows (Notice.told log id trigger)
        (decide (s.world.inputs.Holds id trigger))) ∧
      (∀ id (trigger : Trigger) before event after,
        Notice.told log id trigger = before ++ event :: after →
          trigger.Allows (before.getLast?.any (·.presses)) event) ∧
      ∀ id number i event, (Notice.told log id (.button number))[i]? = some event →
        event.presses = decide (i % 2 = 0) := by
  have follows (id : SourceId) (trigger : Trigger) := (h.follows accepted id trigger).1
  refine ⟨h.journal, fun notice member => ?_, follows, ?_, ?_⟩
  · have none : ∀ activity ∈ ([] : List Activity), activity.Serves session :=
      fun _ listed => absurd listed List.not_mem_nil
    exact ((h.faithful none).2 notice member).about
  · intro id trigger before event after whole
    exact (whole ▸ follows id trigger).allows
  · intro id number i event
    exact (follows id (.button number)).presses_button

/-- A key and a button of a mouse are pressed twice in one tick. -/
def twice : Request :=
  let key : Action := ⟨⟨"keys"⟩, .key, none, .keyDown "a"⟩
  let mouse : Action := ⟨⟨"mouse"⟩, .pointer, none, .pointerDown 0⟩
  .perform [[key, key, mouse, mouse]] none

/-- The key is pressed. -/
def again : Request := .perform [[⟨⟨"keys"⟩, .key, none, .keyDown "a"⟩]] none

def doubling : Schedule := join ⟨.ofConfig .standard, .initial slow, []⟩ 0 twice

/-- Once the presses are answered everything is released, and the key is pressed meanwhile. -/
def doubled : Schedule := ((doubling.steps 6).join 5 .release).join 5 again

/-- The second press of the key says that it was down, and the second press of the button is not
told. The release lifts the key twice, as it was pressed in between. -/
theorem doubled_keeps_protocol :
    let log := doubling.record 6 ++ doubled.record 28
    (Notice.told log ⟨"keys"⟩ (.key "a")).map (·.presses) = [true, true, false, true, false] ∧
      (Notice.told log ⟨"mouse"⟩ (.button 0)).map (·.presses) = [true, false] ∧
      (Trigger.key "a").Follows (Notice.told log ⟨"keys"⟩ (.key "a")) false ∧
      (Trigger.button 0).Follows (Notice.told log ⟨"mouse"⟩ (.button 0)) false := by
  intro log
  have free : ∀ s next : Schedule, True := fun _ _ => trivial
  have fresh : Recalls (.ofConfig .standard) slow
    ⟨.ofConfig .standard, .initial slow, []⟩ [] := .begins
  have pressed := (fresh.join 0 twice rfl).steps free 6
  rw [List.nil_append] at pressed
  have recalls : Recalls (.ofConfig .standard) slow (doubled.steps 28) log :=
    ((pressed.join 5 .release rfl).join 5 again rfl).steps free 28
  have accepted : ∀ notice ∈ log, notice.accepted = true := by
    have all : log.all (·.accepted) = true := by decide +kernel
    exact List.all_eq_true.mp all
  have protocol := (events_keep_protocol recalls accepted).2.2.1
  have lifted : ¬ (doubled.steps 28).world.inputs.Holds ⟨"keys"⟩ (.key "a") ∧
      ¬ (doubled.steps 28).world.inputs.Holds ⟨"mouse"⟩ (.button 0) := by decide +kernel
  refine ⟨by decide +kernel, by decide +kernel, ?_, ?_⟩
  · simpa [lifted.1] using protocol ⟨"keys"⟩ (.key "a")
  · simpa [lifted.2] using protocol ⟨"mouse"⟩ (.button 0)

end Schedule

end InputActions
