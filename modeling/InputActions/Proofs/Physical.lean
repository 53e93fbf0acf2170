import InputActions.Proofs.Asking
import InputActions.Proofs.Pairing

/-!
# One value, one physical key

Shift changes what a key types, so a keydown and the keyup after it may show different characters.
They still name the same physical key, whatever shift does in between, because both tables of the
keyboard give the shifted character of a key the code of the plain one. The keyboard itself never
sees shift: it holds the key by its normalized value.
-/
namespace InputActions

namespace Key

/-- The name under which a key is held is held under itself. -/
theorem normalized_normalized (value : String) :
    normalized (normalized value) = normalized value := by
  have names : ∀ key ∈ specialKeys, normalized key.name = key.name := by
    decide +kernel
  rcases special_cases value with ⟨key, listed, name, -⟩ | plain
  · rw [name, names key listed]
  · rw [plain, plain]

end Key

/-! ### Sections -/

namespace KeySource

variable (keyboard : KeySource) (value : String)

/-- The event of a key that goes down. -/
def keydown : KeyEvent :=
  let key := Key.normalized value
  { KeyEvent.of .keydown (Inputs.typed keyboard value) (keyboard.hold key).modifiers with
    held := keyboard.isPressed key }

/-- The event of a key that goes up. -/
def keyup : KeyEvent :=
  .of .keyup (Inputs.typed keyboard value) (keyboard.lift (Key.normalized value)).modifiers

/-- Which key a value names, and whether it types anything, does not depend on shift. -/
theorem typed_data : (Inputs.typed keyboard value).code = (Key.data value).code ∧
    (Inputs.typed keyboard value).location = (Key.data value).location ∧
    (Inputs.typed keyboard value).printable = (Key.data value).printable := by
  unfold Inputs.typed
  split
  · exact Key.data_shifted value
  · exact ⟨rfl, rfl, rfl⟩

end KeySource

namespace Store

theorem keySource_of_getElem? {store : Store} {id : SourceId} {keyboard : KeySource}
    (found : store[id]? = some (.key keyboard)) : store.keySource id = .ok keyboard := by
  unfold keySource
  rw [found]

end Store

namespace Passage

variable {passage : Passage} {action : Action} {keyboard : KeySource} {value : String}

/-- A keyDown on a keyboard is always reported, and holds the key. -/
theorem keyDown (begins : passage.slot = .ready action) (presses : action.gesture = .keyDown value)
    (found : passage.world.inputs.store[action.id]? = some (.key keyboard)) :
    passage.after.inputs.store = passage.world.inputs.store.insert action.id
        (.key (keyboard.hold (Key.normalized value))) ∧
      passage.after.inputs.pending =
        passage.world.inputs.pending.push { action with gesture := .keyUp value } ∧
      ∃ injection wake verdict, passage.told = [injection] ∧ injection.source = action.id ∧
        injection.event = .key (keyboard.keydown value) ∧ verdict.refusal = injection.refusal ∧
        passage.next = .waiting wake (.keydown action.id (keyboard.keydown value)
          (Inputs.typed keyboard value).printable verdict) := by
  have owed (pending : Pending) : pending.record action =
      pending.push { action with gesture := .keyUp value } := by
    rw [Pending.record, Action.inverse?, presses]
  have pressed : passage.world.inputs.pressKey action value =
      .ok (keyboard.keydown value, (Inputs.typed keyboard value).printable,
        ⟨passage.world.inputs.store.insert action.id
          (.key (keyboard.hold (Key.normalized value))),
          passage.world.inputs.pending.record action⟩) := by
    unfold Inputs.pressKey
    rw [Store.keySource_of_getElem? found]
    rfl
  simp only [told, after, next, begins, Slot.step, Action.begin, presses, Action.beginKeyDown,
    pressed, World.request, World.inject, Slot.ofOutcome, List.drop_left, owed]
  exact ⟨trivial, trivial, _, _, _, rfl, rfl, rfl, rfl, rfl⟩

/-- A keyUp of a key that is held is reported, and lifts the key. -/
theorem keyUp (begins : passage.slot = .ready action) (lifts : action.gesture = .keyUp value)
    (found : passage.world.inputs.store[action.id]? = some (.key keyboard))
    (held : keyboard.isPressed (Key.normalized value) = true) :
    passage.after.inputs.store = passage.world.inputs.store.insert action.id
        (.key (keyboard.lift (Key.normalized value))) ∧
      ∃ injection wake verdict, passage.told = [injection] ∧ injection.source = action.id ∧
        injection.event = .key (keyboard.keyup value) ∧
        passage.next = .waiting wake (.keyup action.id (Key.normalized value) verdict) := by
  have lifted : passage.world.inputs.liftKey action value =
      .ok (some (keyboard.keyup value, { passage.world.inputs with
        store := passage.world.inputs.store.insert action.id
          (.key (keyboard.lift (Key.normalized value))) })) := by
    unfold Inputs.liftKey
    rw [Store.keySource_of_getElem? found]
    exact if_pos held
  simp only [told, after, next, begins, Slot.step, Action.begin, lifts, Action.beginKeyUp, lifted,
    World.request, World.inject, Slot.ofOutcome, List.drop_left]
  exact ⟨trivial, _, _, _, rfl, rfl, rfl, rfl⟩

/-- A keyUp of a key that is up does nothing. -/
theorem keyUp_idle (begins : passage.slot = .ready action) (lifts : action.gesture = .keyUp value)
    (found : passage.world.inputs.store[action.id]? = some (.key keyboard))
    (up : keyboard.isPressed (Key.normalized value) = false) :
    passage.after = passage.world ∧ passage.told = [] ∧ passage.next = .settled (.ok ()) := by
  have idle : passage.world.inputs.liftKey action value = .ok none := by
    unfold Inputs.liftKey
    rw [Store.keySource_of_getElem? found]
    exact if_neg (by simp [up])
  simp only [told, after, next, begins, Slot.step, Action.begin, lifts, Action.beginKeyUp, idle,
    List.drop_length]
  exact ⟨trivial, trivial, rfl⟩

end Passage

/-! ### Presses and lifts -/

namespace Key

/-- Going down and going up, a value names one physical key. Shift does not change which key that
is, nor whether it types anything, so it does not matter on which keyboards and in which worlds the
two sections take place, and the lift may as well be the one that the press owes. On either keyboard
the key that goes down or up is held by its normalized value. -/
theorem one_physical_key (value : String) :
    ((data (shifted value)).code = (data value).code ∧
      (data (shifted value)).location = (data value).location ∧
      (data (shifted value)).printable = (data value).printable) ∧
    normalized (normalized value) = normalized value ∧
    (∀ (first : Passage) (press : Action) (keyboard : KeySource), first.slot = .ready press →
      press.gesture = .keyDown value →
      first.world.inputs.store[press.id]? = some (.key keyboard) →
      ∃ down wake verdict, first.told.map (·.event) = [.key down] ∧ down.kind = .keydown ∧
        down.code = (data value).code ∧ down.location = (data value).location ∧
        first.next =
          .waiting wake (.keydown press.id down (data value).printable verdict) ∧
        first.after.inputs.store = first.world.inputs.store.insert press.id
          (.key (keyboard.hold (normalized value))) ∧
        first.after.inputs.pending =
          first.world.inputs.pending.push { press with gesture := .keyUp value }) ∧
    ∀ (last : Passage) (lift : Action) (keyboard : KeySource), last.slot = .ready lift →
      lift.gesture = .keyUp value →
      last.world.inputs.store[lift.id]? = some (.key keyboard) →
      if keyboard.isPressed (normalized value) then
        ∃ up, last.told.map (·.event) = [.key up] ∧ up.kind = .keyup ∧
          up.code = (data value).code ∧ up.location = (data value).location ∧
          last.after.inputs.store = last.world.inputs.store.insert lift.id
            (.key (keyboard.lift (normalized value)))
      else last.told = [] ∧ last.after.inputs = last.world.inputs := by
  refine ⟨data_shifted value, normalized_normalized value, ?_, ?_⟩
  · intro first press keyboard begins presses found
    obtain ⟨code, location, printable⟩ := keyboard.typed_data value
    obtain ⟨store, pending, injection, wake, verdict, told, -, event, -, next⟩ :=
      Passage.keyDown begins presses found
    refine ⟨keyboard.keydown value, wake, verdict, ?_, rfl, code, location, ?_, store, pending⟩
    · rw [told, List.map_singleton, event]
    · rw [next, printable]
  · intro last lift keyboard begins lifts found
    obtain ⟨code, location, -⟩ := keyboard.typed_data value
    split
    next held =>
      obtain ⟨store, injection, wake, verdict, told, -, event, -⟩ :=
        Passage.keyUp begins lifts found held
      refine ⟨keyboard.keyup value, ?_, rfl, code, location, store⟩
      rw [told, List.map_singleton, event]
    next up =>
      obtain ⟨same, told, -⟩ := Passage.keyUp_idle begins lifts found (by simpa using up)
      exact ⟨told, by rw [same]⟩

/-- The section of an action on this keyboard. -/
def strikes (keyboard : KeySource) (gesture : Gesture) : Passage :=
  let id : SourceId := ⟨"keyboard"⟩
  ⟨⟨0, 0, 0⟩, ⟨.ofConfig .standard, .inView⟩, 0, .ready ⟨id, .key, none, gesture⟩,
    ⟨0, ⟨(∅ : Store).insert id (.key keyboard), .empty⟩, .prompt ⟨100, 100⟩⟩⟩

/-- An a goes down while shift is up, and up while shift is down. -/
theorem small_and_capital_physical :
    let up := ((KeySource.fresh.hold "a").hold "Shift")
    ∃ press lift : KeyEvent,
      (strikes .fresh (.keyDown "a")).told.map (·.event) = [.key press] ∧
      (strikes up (.keyUp "a")).told.map (·.event) = [.key lift] ∧
      (Inputs.typed .fresh "a").key = "a" ∧ (Inputs.typed up "a").key = "A" ∧
      press.code = "KeyA" ∧ lift.code = "KeyA" ∧ press.location = lift.location := by
  intro up
  obtain ⟨-, -, presses, lifts⟩ := one_physical_key "a"
  have found (keyboard : KeySource) (gesture : Gesture) :
      (strikes keyboard gesture).world.inputs.store[(⟨"keyboard"⟩ : SourceId)]? =
        some (.key keyboard) := Std.ExtTreeMap.getElem?_insert_self
  obtain ⟨press, _, _, told, -, code, location, -⟩ :=
    presses (strikes .fresh (.keyDown "a")) _ .fresh rfl rfl (found _ _)
  have lifted := lifts (strikes up (.keyUp "a")) _ up rfl rfl (found _ _)
  rw [if_pos (by decide +kernel)] at lifted
  obtain ⟨lift, told', -, code', location', -⟩ := lifted
  have physical : (data "a").code = "KeyA" := by decide +kernel
  exact ⟨press, lift, told, told', by decide +kernel, by decide +kernel, code.trans physical,
    code'.trans physical, location.trans location'.symm⟩

end Key

end InputActions
