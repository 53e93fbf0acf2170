import InputActions.Proofs.Arriving
import InputActions.Proofs.Flags
import InputActions.Proofs.Registering
import InputActions.Proofs.Resuming

/-!
# Refused lifts

A refused lift keeps no copy of what it changes: it holds the trigger again and sets the flag of its
modifier. That restores the source exactly, because the trigger was held before and because flags
agree with what is held at every moment (`Source.hold?_lift?`). So while nothing else runs, a lift
that the surface refuses leaves the inputs as it found them, and the next attempt reports the same
event: `Schedule.refused_lift_restores`.
-/
namespace InputActions

/-! ### Holding again what was lifted -/

theorem KeySource.hold_lift {s : KeySource} {key : String} (agrees : (Source.key s).Agrees)
    (held : s.isPressed key = true) : (s.lift key).hold key = s := by
  have pressed (other : String) : ((s.lift key).hold key).isPressed other = s.isPressed other := by
    rw [isPressed_hold, isPressed_lift]
    by_cases same : other = key
    · simp [same, held]
    · simp [same]
  have flags : ((s.lift key).hold key).modifiers = s.modifiers := by
    refine Modifiers.ext_get fun modifier => ?_
    rw [hold, get_flags, lift, get_flags, agrees modifier]
    split
    next own => rw [own, held]
    next => rfl
  have keys : ((s.lift key).hold key).pressed = s.pressed := Std.ExtTreeSet.ext_contains pressed
  calc (s.lift key).hold key
      = ⟨((s.lift key).hold key).pressed, ((s.lift key).hold key).modifiers⟩ := rfl
    _ = s := by rw [keys, flags]

theorem PointerSource.hold_lift {s : PointerSource} {button : UInt32}
    (held : s.isPressed button = true) : (s.lift button).hold button = s := by
  have pressed (other : UInt32) :
      ((s.lift button).hold button).isPressed other = s.isPressed other := by
    rw [isPressed_hold, isPressed_lift]
    by_cases same : other = button
    · simp [same, held]
    · simp [same]
  have buttons : ((s.lift button).hold button).pressed = s.pressed :=
    Std.ExtTreeSet.ext_contains pressed
  calc (s.lift button).hold button
      = ⟨s.kind, ((s.lift button).hold button).pressed, s.position⟩ := rfl
    _ = s := by rw [buttons]

/-- A trigger that was held and is lifted and held again leaves no trace on its source. -/
theorem Source.hold?_lift? {source lifted : Source} {trigger : Trigger} (agrees : source.Agrees)
    (held : source.held? trigger = some true) (lifts : source.lift? trigger = some lifted) :
    lifted.hold? trigger = some source := by
  cases source with
  | idle => cases lifts
  | key s =>
    cases trigger with
    | key value =>
      cases lifts
      rw [hold?, KeySource.hold_lift agrees (Option.some.inj held)]
    | button => cases lifts
  | pointer s =>
    cases trigger with
    | key => cases lifts
    | button number =>
      cases lifts
      rw [hold?, PointerSource.hold_lift (Option.some.inj held)]

/-- A source that is put back where it was leaves no trace of what took its place. -/
theorem Store.put_back {store : Store} {id : SourceId} {source : Source}
    (found : store[id]? = some source) (other : Source) :
    (show Store from store.insert id other).insert id source = store := by
  apply Std.ExtTreeMap.ext_getElem?
  intro name
  rw [getElem?_put, getElem?_put]
  split
  next same => rw [same, found]
  next => rfl

/-! ### Sections -/

/-- A lift of which the surface has been told. -/
theorem Slot.Turn.lifted {before after : World} {action : Action} {next : Slot}
    (h : (Slot.ready action).Turn before after next) {trigger : Trigger}
    (lifts : action.gesture.lifted? = some trigger)
    (told : after.host.journal ≠ before.host.journal) :
    ∃ source lifted wake wait verdict injection, next = .waiting wake wait ∧
      before.inputs.store[action.id]? = some source ∧ source.held? trigger = some true ∧
      source.lift? trigger = some lifted ∧
      after.inputs = { before.inputs with store := before.inputs.store.insert action.id lifted } ∧
      wait.lift? = some (action.id, trigger, verdict) ∧
      after.host.journal = before.host.journal ++ [injection] ∧
      injection.refusal = verdict.refusal := by
  cases h with
  | press pressed => exact nomatch (Gesture.lifted?_of_pressed pressed).symm.trans lifts
  | lift lifted found held lifts' inputs under journal refusal =>
    cases lifts.symm.trans lifted
    exact ⟨_, _, _, _, _, _, rfl, found, held, lifts', inputs, under, journal, refusal⟩
  | pass => exact absurd rfl told
  | deny => exact absurd rfl told
  | still _ other => cases lifts.symm.trans (other action rfl)

/-- What a refused lift comes to, if its source still is as the lift has left it. -/
theorem Slot.Turn.takesBack {before after : World} {wake : Nat} {wait : Wait} {next : Slot}
    (h : (Slot.waiting wake wait).Turn before after next) {id : SourceId} {trigger : Trigger}
    {verdict : Verdict} {error : HostError} {source restored : Source}
    (under : wait.lift? = some (id, trigger, verdict)) (refused : verdict.refusal = some error)
    (found : before.inputs.store[id]? = some source)
    (holds : source.hold? trigger = some restored) :
    next = .settled (.error (.host error)) ∧
      after.inputs = { before.inputs with store := before.inputs.store.insert id restored } := by
  cases h with
  | takeBack under' refused' found' holds' inputs =>
    cases under.symm.trans under'
    cases refused.symm.trans refused'
    cases found.symm.trans found'
    cases holds.symm.trans holds'
    exact ⟨rfl, inputs⟩
  | lose under' _ missing =>
    cases under.symm.trans under'
    -- What can be held again is a trigger of its source.
    rw [Store.held?_eq, found, Option.bind_some] at missing
    cases source <;> cases trigger <;> cases holds <;> cases missing
  | land under' accepted =>
    cases under.symm.trans under'
    cases refused.symm.trans accepted
  | arrive _ _ idle => cases under.symm.trans idle
  | still _ _ idle => cases under.symm.trans idle

/-- What a lift tells depends on the inputs, and on whether the surface counts a double click. -/
theorem Passage.told_lift {first again : Passage} {action : Action} {trigger : Trigger}
    (ready : first.slot = .ready action) (ready' : again.slot = .ready action)
    (lifts : action.gesture.lifted? = some trigger)
    (inputs : again.world.inputs = first.world.inputs)
    (clicks : again.world.host.isDoubleClick = first.world.host.isDoubleClick) :
    again.told.map (fun injection => (injection.source, injection.event)) =
      first.told.map (fun injection => (injection.source, injection.event)) := by
  unfold told after
  rw [ready, ready']
  unfold Slot.step Action.begin
  cases gesture : action.gesture with
  | keyUp value =>
    simp only [gesture, Action.beginKeyUp, inputs]
    split <;> simp [World.request, World.inject]
  | pointerUp button =>
    simp only [gesture, Action.beginPointerUp, inputs, clicks]
    split <;> simp [World.request, World.inject]
  | _ => rw [gesture] at lifts; cases lifts

/-! ### Histories -/

/-- A chain whose sources are registered begins without changing anything. -/
theorem World.start_perform_of_known {world : World} {chain : Chain}
    (known : ∀ entry ∈ sourcesOf chain, world.inputs.store.kind? entry.1 = some entry.2)
    (session : Session) (mode : Option CenterMode) :
    world.start session (.perform chain mode) =
      (world, .ofTicks ⟨session, mode.getD session.config.centerMode⟩ world.now chain) :=
  world.start_perform (Store.ensureAll_of_known known) session mode

namespace Schedule

variable {session : Session} {joins : Schedule → Request → Prop}
  {moves : Schedule → Schedule → Prop} {s : Schedule} {log : List Advance} {host : Host}

/-- A refused lift restores the inputs. Whatever has run on a fresh session, when the surface
refuses the event of a lift and no call has a section until the answer comes, the action ends with
the error of the surface, and the inputs are those that it began with, all of them. Performing the
action again then begins with these inputs, and reports the same event of the same source. -/
theorem refused_lift_restores (h : Chronicle joins moves ⟨session, .initial host, []⟩ s log) :
    ∀ early begins between ends late first last action trigger injection error,
      log = early ++ begins :: (between ++ ends :: late) →
      begins.passage? = some first → first.slot = .ready action →
      action.gesture.lifted? = some trigger →
      injection ∈ first.told → injection.refusal = some error →
      (∀ advance ∈ between, advance.activity.isCall = false) →
      ends.passage? = some last → last.spot = first.spot →
      last.next = .settled (.error (.host error)) ∧ last.after.inputs = first.world.inputs ∧
      (first.world.inputs.store.kind? action.id = some action.sourceKind →
        ∀ (world : World) mode, world.inputs = last.after.inputs →
          world.start session (.perform [[action]] mode) = (world,
            .ofTicks ⟨session, mode.getD session.config.centerMode⟩ world.now [[action]])) ∧
      ∀ again : Passage, again.slot = .ready action → again.world.inputs = last.after.inputs →
        again.world.host.isDoubleClick = first.world.host.isDoubleClick →
        again.told.map (fun injection => (injection.source, injection.event)) =
          [(injection.source, injection.event)] := by
  rintro early begins between ends late first last action trigger injection error rfl began ready
    lifts told refused quiet answers here
  obtain ⟨_, _, before, -⟩ := h.before
  obtain ⟨-, -, world, -⟩ := Activity.step_of_passage began session
  have agrees : first.world.inputs.store.Agrees := by
    rw [world]
    exact (before.reached (.fresh host)).agrees
  -- The lift: its trigger was held, and the surface was told once.
  have turn : (Slot.ready action).Turn first.world first.after first.next :=
    ready ▸ first.slot.step_turn first.context first.duration first.world
  have changed : first.after.host.journal ≠ first.world.host.journal := by
    intro same
    rw [Passage.told, same, List.drop_length] at told
    exact absurd told List.not_mem_nil
  obtain ⟨source, lifted, wake, wait, verdict, only, waits, found, held, lifting, inputs, under,
    journal, refusal⟩ := turn.lifted lifts changed
  have one : first.told = [only] := by rw [Passage.told, journal, List.drop_left]
  have same : injection = only := List.mem_singleton.mp (one ▸ told)
  subst same
  -- Nothing has changed when the answer comes.
  have none : trail between = [] := by
    refine List.filterMap_eq_nil_iff.mpr fun advance member => ?_
    have other := quiet advance member
    unfold Advance.passage?
    cases activity : advance.activity with
    | ticking | releasing => rw [activity] at other; cases other
    | _ => rfl
  have kept : Carries moves session first.spot between fun _ slot world =>
      slot = first.next ∧ world.inputs = first.after.inputs := {
    elapse := fun _ _ _ holds => holds
    others := fun member _ _ holds =>
      ⟨holds.1, (Activity.step_of_isCall (quiet _ member) session _).1.trans holds.2⟩
    own := fun member passes _ _ _ _ => by
      have listed := List.mem_filterMap.mpr ⟨_, member, passes⟩
      rw [show between.filterMap (·.passage?) = [] from none] at listed
      exact absurd listed List.not_mem_nil }
  obtain ⟨⟨stands, still⟩, -⟩ := h.carried began answers here (by rw [waits]; rfl)
    (by rw [none]; exact List.forall_mem_nil _) kept ⟨rfl, rfl⟩
  -- The answer: the trigger is held again.
  have turn : (Slot.waiting wake wait).Turn last.world last.after last.next :=
    waits ▸ stands ▸ last.slot.step_turn last.context last.duration last.world
  have put : last.world.inputs.store[action.id]? = some lifted := by
    rw [still, inputs, Store.getElem?_put, if_pos rfl]
  obtain ⟨fails, restored⟩ := turn.takesBack under (refusal ▸ refused) put
    (Source.hold?_lift? (agrees _ _ found) held lifting)
  have restored : last.after.inputs = first.world.inputs := by
    rw [restored, still, inputs]
    exact congrArg (fun store => { first.world.inputs with store := store })
      (Store.put_back found lifted)
  refine ⟨fails, restored, fun known world mode same => ?_, fun again ready' same clicks => ?_⟩
  · refine World.start_perform_of_known (fun entry listed => ?_) session mode
    rw [List.mem_singleton.mp listed, same, restored]
    exact known
  · rw [Passage.told_lift ready ready' lifts (same.trans restored) clicks, one]
    rfl

/-- The refused lift of the right shift key leaves the left one held, flag and all. -/
theorem shifts_restored :
    let log := shifts.annals 7
    Chronicle (fun _ _ => True) (fun _ _ => True)
        ⟨.ofConfig .standard,
          .initial ((Host.prompt ⟨100, 100⟩).adjust (.refuseInjection 1 (.injection "busy"))), []⟩
        (shifts.steps 7) log ∧
      ∃ begins ends first last, log[4]? = some begins ∧ log[5]? = some ends ∧
        begins.passage? = some first ∧ ends.passage? = some last ∧
        last.next = .settled (.error (.host (.injection "busy"))) ∧
        last.after.inputs = first.world.inputs := by
  intro log
  have begun : Chronicle (fun _ _ => True) (fun _ _ => True)
      ⟨.ofConfig .standard,
        .initial ((Host.prompt ⟨100, 100⟩).adjust (.refuseInjection 1 (.injection "busy"))), []⟩
      shifts [] :=
    Chronicle.begins.join 0 _ trivial
  have chronicle := begun.steps (fun _ _ => trivial) 7
  rw [List.nil_append] at chronicle
  refine ⟨chronicle, ?_⟩
  -- The key goes up in one section and hears of the refusal in the next.
  let lift : Action := ⟨⟨"keyboard"⟩, .key, none, .keyUp "\uE050"⟩
  have lifts : (log[4]?.bind fun begins => begins.passage?.map fun first =>
      (first.slot.action?, first.told.map (·.refusal), first.spot)) =
      some (some lift, [some (.injection "busy")], ⟨0, 0, 0⟩) := by
    decide +kernel
  have hears : (log[5]?.bind fun ends => ends.passage?.map (·.spot)) = some ⟨0, 0, 0⟩ := by
    decide +kernel
  obtain ⟨begins, foundBegins, lifts⟩ := Option.bind_eq_some_iff.mp lifts
  obtain ⟨first, began, lifts⟩ := Option.map_eq_some_iff.mp lifts
  simp only [Prod.mk.injEq] at lifts
  obtain ⟨ready, refusals, spot⟩ := lifts
  obtain ⟨ends, foundEnds, hears⟩ := Option.bind_eq_some_iff.mp hears
  obtain ⟨last, answers, spot'⟩ := Option.map_eq_some_iff.mp hears
  obtain ⟨injection, told, refused⟩ := List.mem_map.mp (refusals ▸ List.mem_cons_self)
  have split : log = log.take 4 ++ begins :: ([] ++ ends :: log.drop 6) :=
    eq_take_append (j := 0) foundBegins foundEnds
  obtain ⟨fails, restored, -⟩ := refused_lift_restores chronicle _ begins [] ends _ first last lift
    (.key "Shift") injection (.injection "busy") split began (Slot.eq_ready ready) rfl told refused
    (List.forall_mem_nil _) answers (spot'.trans spot.symm)
  exact ⟨begins, ends, first, last, foundBegins, foundEnds, began, answers, fails, restored⟩

end Schedule

end InputActions
