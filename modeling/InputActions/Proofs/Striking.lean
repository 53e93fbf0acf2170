import InputActions.Proofs.Flags
import InputActions.Proofs.Linking
import InputActions.Proofs.Physical

/-!
# What is told of a key

A key that goes down is told of once, and once more as a character after the surface has accepted
that; a key that goes up is told of once. Both are settled in the section that changes the keyboard:
it looks the key up with the shift flag from before, and shows the flags from after. The character
only repeats what the first event said, whatever has happened to the keyboard since. So a key event
shows the flags of its own keyboard and of no other: `Schedule.keys_exact`.
-/
namespace InputActions

/-! ### Sections -/

/-- Whether a key types a character while these flags are set. -/
def Modifiers.Types (flags : Modifiers) (printable : Bool) : Prop :=
  printable = true ∧ flags.ctrl = false ∧ flags.alt = false ∧ flags.metaKey = false

instance (flags : Modifiers) (printable : Bool) : Decidable (flags.Types printable) :=
  inferInstanceAs (Decidable (_ ∧ _))

/-- The same event, of another kind. -/
def KeyEvent.withKind (event : KeyEvent) (kind : KeyEventKind) : KeyEvent :=
  { event with kind := kind }

namespace Passage

variable {passage : Passage} {wake : Nat} {id : SourceId} {event : KeyEvent} {printable : Bool}
  {verdict : Verdict}

/-- A keydown that is accepted is told of once more if the key types a character. -/
theorem afterKeydown (waits : passage.slot = .waiting wake (.keydown id event printable verdict)) :
    if verdict.refusal = none ∧ event.modifiers.Types printable then
      ∃ injection wake verdict, passage.told = [injection] ∧ injection.source = id ∧
        injection.event = .key (event.withKind .keypress) ∧
        passage.next = .waiting wake (.keypress verdict)
    else passage.told = [] ∧ passage.next.isSettled = true := by
  obtain ⟨number, refusal⟩ := verdict
  unfold told next after
  rw [waits]
  cases refusal with
  | some error => exact ⟨List.drop_length, rfl⟩
  | none =>
    have types : (printable &&
        !(event.modifiers.ctrl || event.modifiers.alt || event.modifiers.metaKey)) =
          decide (event.modifiers.Types printable) := by
      rw [Bool.eq_iff_iff, decide_eq_true_iff]
      simp [Modifiers.Types, and_assoc]
    simp only [Slot.step, Wait.resume, Wait.afterKeydown, types, decide_eq_true_eq, true_and]
    split
    · exact ⟨_, _, _, List.drop_left, rfl, rfl, rfl⟩
    · exact ⟨List.drop_length, rfl⟩

/-- A character that was told of leaves nothing more to tell. -/
theorem afterKeypress (waits : passage.slot = .waiting wake (.keypress verdict)) :
    passage.told = [] ∧ passage.next.isSettled = true := by
  obtain ⟨number, refusal⟩ := verdict
  unfold told next after
  rw [waits]
  cases refusal <;> exact ⟨List.drop_length, rfl⟩

/-- A lift that was told of leaves nothing more to tell. -/
theorem afterKeyup {key : String} (waits : passage.slot = .waiting wake (.keyup id key verdict)) :
    passage.told = [] ∧ passage.next.isSettled = true := by
  obtain ⟨number, refusal⟩ := verdict
  unfold told next after
  rw [waits]
  cases refusal with
  | none => exact ⟨List.drop_length, rfl⟩
  | some error =>
    simp only [Slot.step, Wait.resume, Wait.refused]
    split <;> exact ⟨List.drop_length, rfl⟩

/-- An action that waits for the answer to a keydown has just pressed a key, and the keydown shows
the flags of its keyboard. -/
theorem keydown_of_next (ends : passage.next = .waiting wake (.keydown id event printable verdict)) :
    ∃ action keyboard, passage.slot = .ready action ∧ action.id = id ∧
      passage.after.inputs.store[id]? = some (.key keyboard) ∧
      event.modifiers = keyboard.modifiers := by
  have leaves := passage.slot.step_leaves passage.context passage.duration passage.world
  rw [← Passage.next, ends] at leaves
  generalize stands : passage.slot = slot at leaves
  cases leaves with
  | @keydown action =>
    have begun : Slot.ofOutcome (action.begin passage.context passage.duration passage.world).1
        (action.begin passage.context passage.duration passage.world).2 =
          .waiting wake (.keydown action.id event printable verdict) := by
      rw [← ends, next, stands]
      rfl
    unfold Action.begin at begun
    cases gesture : action.gesture <;> rw [gesture] at begun <;> dsimp only at begun
    case keyDown value =>
      cases known : passage.world.inputs.store.keySource action.id with
      | error fault =>
        simp [Action.beginKeyDown, Inputs.pressKey, known, bind, Except.bind, Slot.ofOutcome,
          Outcome.failed] at begun
      | ok keyboard =>
        obtain ⟨store, -, _, _, _, -, -, -, -, next⟩ :=
          keyDown stands gesture (Store.keySource_eq_ok known)
        cases ends.symm.trans next
        refine ⟨action, _, rfl, rfl, ?_, rfl⟩
        rw [store, Std.ExtTreeMap.getElem?_insert_self]
    case pause => split at begun <;> cases begun
    case keyUp =>
      unfold Action.beginKeyUp at begun
      split at begun <;> cases begun
    case pointerDown =>
      unfold Action.beginPointerDown at begun
      split at begun <;> cases begun
    case pointerUp =>
      unfold Action.beginPointerUp at begun
      split at begun <;> cases begun
    case pointerMove =>
      unfold Action.beginPointerMove at begun
      split at begun
      · cases begun
      · split at begun <;> cases begun
    case pointerCancel => cases begun

/-- Without a keyboard there is nothing to tell of a key. -/
private theorem silent_of_keySource_error {action : Action} {value : String}
    {fault : InvalidArgument} (begins : passage.slot = .ready action)
    (types : action.gesture = .keyDown value ∨ action.gesture = .keyUp value)
    (fails : passage.world.inputs.store.keySource action.id = .error fault) :
    passage.told = [] := by
  rcases types with gesture | gesture <;>
    simp [told, after, begins, Slot.step, Action.begin, gesture, Action.beginKeyDown,
      Action.beginKeyUp, Inputs.pressKey, Inputs.liftKey, fails, bind, Except.bind]

/-- The first section of an action tells of a key only with the flags that it leaves the keyboard. -/
private theorem tells_first {action : Action} {injection : Injection}
    (begins : passage.slot = .ready action) (told : passage.told = [injection])
    (key : injection.event = .key event) :
    action.id = injection.source ∧ ∃ keyboard,
      passage.after.inputs.store[action.id]? = some (.key keyboard) ∧
      event.modifiers = keyboard.modifiers := by
  obtain ⟨one, journal, faithful⟩ :=
    passage.slot.step_tells passage.context passage.duration passage.world
  have told_eq : passage.told = one.toList := by
    rw [Passage.told, after, journal, List.drop_left]
  obtain rfl : one = some injection := by
    rw [told] at told_eq
    cases one <;> simp_all
  have faithful := faithful injection rfl
  rw [begins] at faithful
  obtain ⟨source, tells⟩ := faithful
  refine ⟨source.symm, ?_⟩
  -- Only the gestures of keys are told of with a key event.
  have types : ∃ value, action.gesture = .keyDown value ∨ action.gesture = .keyUp value := by
    rw [key] at tells
    generalize action.gesture = gesture at tells
    cases tells with
    | keyDown => exact ⟨_, Or.inl rfl⟩
    | keyUp => exact ⟨_, Or.inr rfl⟩
  obtain ⟨value, types⟩ := types
  cases known : passage.world.inputs.store.keySource action.id with
  | error fault => simp [silent_of_keySource_error begins types known] at told
  | ok keyboard =>
    have found := Store.keySource_eq_ok known
    rcases types with presses | lifts
    · obtain ⟨store, -, _, _, _, told', -, event', -⟩ := keyDown begins presses found
      cases told.symm.trans told'
      cases key.symm.trans event'
      exact ⟨_, by rw [store, Std.ExtTreeMap.getElem?_insert_self], rfl⟩
    · cases held : keyboard.isPressed (Key.normalized value) with
      | false => simp [(keyUp_idle begins lifts found held).2.1] at told
      | true =>
        obtain ⟨store, _, _, _, told', -, event', -⟩ := keyUp begins lifts found held
        cases told.symm.trans told'
        cases key.symm.trans event'
        exact ⟨_, by rw [store, Std.ExtTreeMap.getElem?_insert_self], rfl⟩

private theorem tells_menu {click : MouseEvent} {opens : Bool} {injection : Injection}
    (waits : passage.slot = .waiting wake (.mousedown id click opens verdict))
    (listed : injection ∈ passage.told) : ∃ event, injection.event = .mouse event := by
  obtain ⟨number, refusal⟩ := verdict
  unfold told after at listed
  rw [waits] at listed
  cases refusal with
  | some error => simp [Slot.step, Wait.resume, World.acknowledge] at listed
  | none =>
    simp only [Slot.step, Wait.resume] at listed
    split at listed
    · obtain rfl : injection = _ := by
        simpa [World.request, World.inject, World.acknowledge] using listed
      exact ⟨_, rfl⟩
    · simp [World.acknowledge] at listed

/-- A key event comes from a keyboard that has just changed, or repeats one that does. -/
theorem tells_key {injection : Injection} (listed : injection ∈ passage.told)
    (key : injection.event = .key event) :
    (∃ action keyboard, passage.slot = .ready action ∧ action.id = injection.source ∧
      passage.after.inputs.store[action.id]? = some (.key keyboard) ∧
      event.modifiers = keyboard.modifiers) ∨
    ∃ wake keydown printable verdict,
      passage.slot = .waiting wake (.keydown injection.source keydown printable verdict) ∧
      event.modifiers = keydown.modifiers := by
  rcases passage.told_cases with ⟨none, -⟩ | ⟨wake, wait, one, told, ends, -, expects⟩
  · rw [none] at listed
    exact absurd listed List.not_mem_nil
  rw [told, List.mem_singleton] at listed
  subst listed
  have still : injection.landing? = none := by rw [Injection.landing?, key]
  have leaves := passage.slot.step_leaves passage.context passage.duration passage.world
  rw [← Passage.next, ends] at leaves
  cases stands : passage.slot with
  | ready action =>
    obtain ⟨source, keyboard, found, flags⟩ := tells_first stands told key
    exact Or.inl ⟨action, keyboard, rfl, source, found, flags⟩
  | settled result =>
    have settled : passage.slot.isSettled = true := by rw [stands]; rfl
    simp [(silent_of_settled settled).1] at told
  | waiting due wait =>
    rw [stands] at leaves
    -- The answer to a keydown is the only one that leads to a key event.
    cases leaves with
    | keypress =>
      have types := afterKeydown stands
      split at types
      · obtain ⟨_, _, _, told', source, event', -⟩ := types
        cases told.symm.trans told'
        cases key.symm.trans event'
        subst source
        exact Or.inr ⟨_, _, _, _, rfl, rfl⟩
      · simp [types.1] at told
    | contextmenu =>
      obtain ⟨_, mouse⟩ := tells_menu stands (told ▸ List.mem_cons_self)
      cases key.symm.trans mouse
    | measures => cases expects.verdict
    | sample => cases expects.verdict
    | step => cases still.symm.trans expects.landing
    | arrival => cases still.symm.trans expects.landing

end Passage

/-- On whose behalf the surface was told something, and what. -/
def Injection.said (injection : Injection) : SourceId × Event := (injection.source, injection.event)

/-- After a keydown the surface hears of a character, if the key types one and the surface has
answered and not refused, and of nothing else. -/
theorem Passage.Links.keydown {first : Passage} {later : List Passage} {wake : Nat} {id : SourceId}
    {event : KeyEvent} {printable : Bool} {verdict : Verdict}
    (chain : (first :: later).IsChain Links)
    (next : first.next = .waiting wake (.keydown id event printable verdict)) :
    (later.flatMap (·.told)).map (·.said) =
      if later ≠ [] ∧ verdict.refusal = none ∧ event.modifiers.Types printable then
        [(id, .key (event.withKind .keypress))]
      else [] := by
  cases later with
  | nil => rfl
  | cons second rest =>
    obtain ⟨link, chain⟩ := List.isChain_cons_cons.mp chain
    have types := afterKeydown ((show second.slot = first.next from link).trans next)
    simp only [ne_eq, reduceCtorEq, not_false_eq_true, true_and, List.flatMap_cons]
    split at types
    next accepted =>
      obtain ⟨injection, _, _, told, source, repeats, waits⟩ := types
      have none : rest.flatMap (·.told) = [] := by
        cases rest with
        | nil => rfl
        | cons third rest =>
          obtain ⟨link, chain⟩ := List.isChain_cons_cons.mp chain
          obtain ⟨none, settles⟩ :=
            afterKeypress ((show third.slot = second.next from link).trans waits)
          rw [List.flatMap_cons, none, silent chain settles, List.append_nil]
      rw [if_pos accepted, told, none, List.append_nil, List.map_singleton, Injection.said, source,
        repeats]
    next refused =>
      rw [if_neg refused, types.1, silent chain types.2]
      rfl

/-! ### Histories -/

namespace Schedule

variable {session : Session} {joins : Schedule → Request → Prop}
  {moves : Schedule → Schedule → Prop} {s : Schedule} {log : List Advance} {host : Host}

/-- Each section of an action leaves flags and keys together. -/
theorem Chronicle.agrees_after (h : Chronicle joins moves ⟨session, .initial host, []⟩ s log)
    {passage : Passage} (listed : passage ∈ trail log) : passage.after.inputs.store.Agrees := by
  obtain ⟨advance, member, passes⟩ := List.mem_filterMap.mp listed
  obtain ⟨early, late, rfl⟩ := List.append_of_mem member
  obtain ⟨left, right, before, -⟩ := h.before
  obtain ⟨-, -, world, -⟩ := Activity.step_of_passage passes session
  have turn := passage.slot.step_turn passage.context passage.duration passage.world
  exact turn.agrees (world ▸ (before.reached (.fresh host)).agrees)

/-- A press of a key, from its keydown to what follows the answer. -/
private theorem Chronicle.pressed (h : Chronicle joins moves ⟨session, .initial host, []⟩ s log)
    {first : Passage} (listed : first ∈ trail log) {action : Action} {keyboard : KeySource}
    {value : String} (begins : first.slot = .ready action)
    (found : first.world.inputs.store[action.id]? = some (.key keyboard))
    (presses : action.gesture = .keyDown value) :
    let next := keyboard.hold (Key.normalized value)
    first.after.inputs.store[action.id]? = some (.key next) ∧
      ∃ injection later, (trail log).filter (·.spot = first.spot) = first :: later ∧
        first.told = [injection] ∧
        injection.said = (action.id, .key (keyboard.keydown value)) ∧
        (later = [] → s.isFinished = false) ∧
        (later.flatMap (·.told)).map (·.said) =
          if later ≠ [] ∧ injection.refusal = none ∧
              next.modifiers.Types (Inputs.typed keyboard value).printable then
            [(action.id, .key ((keyboard.keydown value).withKind .keypress))]
          else [] := by
  intro next
  obtain ⟨store, -, injection, wake, verdict, told, source, event, refusal, waits⟩ :=
    Passage.keyDown begins presses found
  obtain ⟨later, sections_eq, chain, live⟩ := h.linked rfl listed begins
  refine ⟨by rw [store, Std.ExtTreeMap.getElem?_insert_self], injection, later, sections_eq, told,
    by rw [Injection.said, source, event], fun none => live none (by rw [waits]; rfl), ?_⟩
  rw [← refusal]
  exact Passage.Links.keydown chain waits

/-- A lift of a key is told of once, if the key is held. -/
private theorem Chronicle.lifted (h : Chronicle joins moves ⟨session, .initial host, []⟩ s log)
    {first : Passage} (listed : first ∈ trail log) {action : Action} {keyboard : KeySource}
    {value : String} (begins : first.slot = .ready action)
    (found : first.world.inputs.store[action.id]? = some (.key keyboard))
    (lifts : action.gesture = .keyUp value) :
    let next := keyboard.lift (Key.normalized value)
    let said := (((trail log).filter (·.spot = first.spot)).flatMap (·.told)).map (·.said)
    if keyboard.isPressed (Key.normalized value) then
      first.after.inputs.store[action.id]? = some (.key next) ∧
        said = [(action.id, .key (keyboard.keyup value))]
    else first.after.inputs = first.world.inputs ∧ said = [] := by
  intro next said
  obtain ⟨later, sections_eq, chain, -⟩ := h.linked rfl listed begins
  have said_eq : said = ((first.told ++ later.flatMap (·.told)).map (·.said)) := by
    rw [← List.flatMap_cons, ← sections_eq]
  split
  next held =>
    obtain ⟨store, injection, wake, verdict, told, source, event, waits⟩ :=
      Passage.keyUp begins lifts found held
    have none : later.flatMap (·.told) = [] := by
      cases later with
      | nil => rfl
      | cons second rest =>
        obtain ⟨link, chain⟩ := List.isChain_cons_cons.mp chain
        obtain ⟨none, settles⟩ :=
          Passage.afterKeyup ((show second.slot = first.next from link).trans waits)
        rw [List.flatMap_cons, none, Passage.Links.silent chain settles, List.append_nil]
    refine ⟨by rw [store, Std.ExtTreeMap.getElem?_insert_self], ?_⟩
    rw [said_eq, told, none, List.append_nil, List.map_singleton, Injection.said, source, event]
  next up =>
    obtain ⟨same, told, settles⟩ := Passage.keyUp_idle begins lifts found (by simpa using up)
    refine ⟨by rw [same], ?_⟩
    rw [said_eq, told, Passage.Links.silent chain (by rw [settles]; rfl)]
    rfl

/-- A key event shows the flags that its own keyboard had right after the change that it is about,
and these agree with the keys that were held on it. -/
private theorem Chronicle.flags (h : Chronicle joins moves ⟨session, .initial host, []⟩ s log)
    {passage : Passage} (listed : passage ∈ trail log) {injection : Injection}
    (told : injection ∈ passage.told) {event : KeyEvent} (key : injection.event = .key event) :
    ∃ first ∈ trail log, ∃ action keyboard, first.spot = passage.spot ∧
      first.slot = .ready action ∧ action.id = injection.source ∧
      first.after.inputs.store[action.id]? = some (.key keyboard) ∧
      event.modifiers = keyboard.modifiers ∧
      ∀ modifier : Modifier,
        keyboard.modifiers.get modifier = keyboard.isPressed modifier.key := by
  rcases Passage.tells_key told key with ⟨action, keyboard, begins, source, found, flags⟩ |
    ⟨wake, keydown, printable, verdict, waits, flags⟩
  · exact ⟨passage, listed, action, keyboard, rfl, begins, source, found, flags,
      h.agrees_after listed _ _ found⟩
  -- The keydown was told of by the section before.
  · obtain ⟨advance, member, passes⟩ := List.mem_filterMap.mp listed
    obtain ⟨early, late, rfl⟩ := List.append_of_mem member
    obtain ⟨first, earlier, here, left⟩ := h.awaited rfl passes waits
    obtain ⟨action, keyboard, begins, source, found, flags'⟩ := Passage.keydown_of_next left
    have listed' : first ∈ trail (early ++ advance :: late) := by
      rw [trail, List.filterMap_append]
      exact List.mem_append_left _ earlier
    exact ⟨first, listed', action, keyboard, here, begins, source, source.symm ▸ found,
      flags.trans flags', h.agrees_after listed' _ _ found⟩

/-- Key events are exact, whatever runs together on a fresh session and however the surface answers.
A keyDown on a keyboard tells of one keydown. It looks its value up with the shift flag from before,
shows the flags from after, and says whether the key was held. Once that has been answered and not
refused, a keypress follows that equals it but for its kind, if the key types a character and none
of the other flags is set, and else nothing; and the run does not end before. A keyUp tells of one
keyup if the key is held, and else of nothing. Whatever key event is told of, by these or any other
actions, its flags are those that its own keyboard had then, for the keys that it held itself. -/
theorem keys_exact (h : Chronicle joins moves ⟨session, .initial host, []⟩ s log) :
    (∀ first ∈ trail log, ∀ (action : Action) (keyboard : KeySource) (value : String),
      first.slot = .ready action →
      first.world.inputs.store[action.id]? = some (.key keyboard) →
      let sections := (trail log).filter (·.spot = first.spot)
      let key := Key.normalized value
      let data := Key.data (if keyboard.modifiers.shift then Key.shifted value else value)
      (action.gesture = .keyDown value →
        let next := keyboard.hold key
        let keydown : KeyEvent := ⟨.keydown, data.key, data.code, data.location,
          keyboard.isPressed key, next.modifiers⟩
        first.after.inputs.store[action.id]? = some (.key next) ∧
          ∃ injection later, sections = first :: later ∧ first.told = [injection] ∧
            injection.said = (action.id, .key keydown) ∧
            (later = [] → s.isFinished = false) ∧
            (later.flatMap (·.told)).map (·.said) =
              if later ≠ [] ∧ injection.refusal = none ∧
                  next.modifiers.Types data.printable then
                [(action.id, .key (keydown.withKind .keypress))]
              else []) ∧
      (action.gesture = .keyUp value →
        let next := keyboard.lift key
        let keyup : KeyEvent :=
          ⟨.keyup, data.key, data.code, data.location, false, next.modifiers⟩
        if keyboard.isPressed key then
          first.after.inputs.store[action.id]? = some (.key next) ∧
            (sections.flatMap (·.told)).map (·.said) = [(action.id, .key keyup)]
        else first.after.inputs = first.world.inputs ∧
          (sections.flatMap (·.told)).map (·.said) = [])) ∧
    ∀ passage ∈ trail log, ∀ injection ∈ passage.told, ∀ event, injection.event = .key event →
      ∃ first ∈ trail log, ∃ action keyboard, first.spot = passage.spot ∧
        first.slot = .ready action ∧ action.id = injection.source ∧
        first.after.inputs.store[action.id]? = some (.key keyboard) ∧
        event.modifiers = keyboard.modifiers ∧
        ∀ modifier : Modifier,
          keyboard.modifiers.get modifier = keyboard.isPressed modifier.key := by
  constructor
  · intro first listed action keyboard value begins found sections key data
    exact ⟨h.pressed listed begins found, h.lifted listed begins found⟩
  · intro passage listed injection told event key
    exact h.flags listed told key

/-- Shift goes down on one keyboard and Control on another; then an a is typed on the first. -/
def typesCapital : Schedule :=
  let act (name : String) (gesture : Gesture) : Action := ⟨⟨name⟩, .key, none, gesture⟩
  join ⟨.ofConfig .standard, .initial (.prompt ⟨100, 100⟩), []⟩ 0
    (.perform [[act "left" (.keyDown "\ue008"), act "right" (.keyDown "\ue009")],
      [act "left" (.keyDown "a")], [act "left" (.keyUp "a")]] none)

/-- The surface hears of a capital letter, which shows Shift and not the Control of the other
keyboard. -/
theorem typesCapital_exact :
    let log := typesCapital.annals 13
    let done := typesCapital.steps 13
    let shift : Modifiers := ⟨false, true, false, false⟩
    let keydown : KeyEvent := ⟨.keydown, "A", "KeyA", .standard, false, shift⟩
    Chronicle (fun _ _ => True) (fun _ _ => True)
        ⟨.ofConfig .standard, .initial (.prompt ⟨100, 100⟩), []⟩ done log ∧
      done.world.inputs.store.modifiers = ⟨false, true, true, false⟩ ∧
      ∃ first ∈ trail log, first.slot.action?.map (·.gesture) = some (.keyDown "a") ∧
        (((trail log).filter (·.spot = first.spot)).flatMap (·.told)).map (·.said) =
          [(⟨"left"⟩, .key keydown), (⟨"left"⟩, .key (keydown.withKind .keypress))] := by
  intro log done shift keydown
  have chronicle : Chronicle (fun _ _ => True) (fun _ _ => True)
      ⟨.ofConfig .standard, .initial (.prompt ⟨100, 100⟩), []⟩ done log :=
    Chronicle.of_join trivial (fun _ => trivial) 13
  have finished : done.isFinished = true := by decide +kernel
  refine ⟨chronicle, by decide +kernel, ?_⟩
  -- The letter goes down on a keyboard on which only Shift is held.
  have sections : (trail log)[4]?.map (fun first => (first.slot.action?,
      (first.world.inputs.store.keySource ⟨"left"⟩).toOption.map fun keyboard =>
        (keyboard.modifiers, keyboard.isPressed "a"), first.told.map (·.refusal))) =
      some (some ⟨⟨"left"⟩, .key, none, .keyDown "a"⟩, some (shift, false), [none]) := by
    decide +kernel
  obtain ⟨first, at_four, is⟩ := Option.map_eq_some_iff.mp sections
  simp only [Prod.mk.injEq] at is
  obtain ⟨meant, known, accepted⟩ := is
  obtain ⟨keyboard, known, state⟩ := Option.map_eq_some_iff.mp known
  obtain ⟨flags, up⟩ := Prod.mk.inj state
  have found : first.world.inputs.store[(⟨"left"⟩ : SourceId)]? = some (.key keyboard) := by
    cases ok : first.world.inputs.store.keySource ⟨"left"⟩ with
    | error fault => cases ok ▸ known
    | ok other =>
      rw [ok] at known
      cases known
      exact Store.keySource_eq_ok ok
  have begins := Slot.eq_ready meant
  have member : first ∈ trail log := List.mem_of_getElem? at_four
  obtain ⟨-, injection, later, sections_eq, told, said, live, rest⟩ :=
    ((keys_exact chronicle).1 first member _ keyboard "a" begins found).1 rfl
  refine ⟨first, member, by rw [meant]; rfl, ?_⟩
  have answered : later ≠ [] := fun none => nomatch finished.symm.trans (live none)
  have accepted : injection.refusal = none := by
    rw [told] at accepted
    exact List.singleton_inj.mp accepted
  have name : Key.normalized "a" = "a" := by decide +kernel
  have plain : Modifier.ofKey? "a" = none := by decide +kernel
  have next : (keyboard.hold "a").modifiers = shift := by
    rw [KeySource.hold, KeySource.flags, plain]
    exact flags
  have data : Key.data (if keyboard.modifiers.shift then Key.shifted "a" else "a") =
      ⟨"A", "KeyA", .standard, true⟩ := by
    rw [flags]
    decide +kernel
  rw [name, data, next, up] at said rest
  rw [if_pos ⟨answered, accepted, by decide⟩] at rest
  rw [sections_eq, List.flatMap_cons, told, List.map_append, List.map_singleton, said, rest]
  rfl

end Schedule

end InputActions
