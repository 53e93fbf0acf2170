import InputActions.Proofs.Registering
import InputActions.Proofs.Standing

/-!
# Typed actions do not fail for their arguments

An action whose source is there under the kind it needs never fails with an invalid argument, and
neither does whatever it waits for: `Slot.Typed` is kept by every section (`Slot.step_typed`). The
sections of other activities keep it too, because they change no kind, unless they forget all
sources (`Activity.Typed.of_kinds`).
-/
namespace InputActions

/-! ### Sources that are there -/

/-- A name stands for a pointer of some kind. -/
def Store.IsPointer (store : Store) (id : SourceId) : Prop :=
  ∃ kind, store.kind? id = some (.pointer kind)

namespace Store

theorem keySource_ok {store : Store} {id : SourceId} (key : store.kind? id = some .key) :
    ∃ s, store[id]? = some (.key s) ∧ store.keySource id = .ok s := by
  obtain ⟨source, found, kind⟩ := Option.map_eq_some_iff.mp key
  cases source <;> cases kind
  refine ⟨_, found, ?_⟩
  unfold keySource
  rw [found]

theorem IsPointer.found {store : Store} {id : SourceId} (pointer : store.IsPointer id) :
    ∃ s, store[id]? = some (.pointer s) := by
  obtain ⟨_, known⟩ := pointer
  obtain ⟨source, found, kind⟩ := Option.map_eq_some_iff.mp known
  cases source <;> cases kind
  exact ⟨_, found⟩

/-- A pointer may be of an unsupported kind, but it is no wrong argument. -/
theorem IsPointer.mouse_error {store : Store} {id : SourceId} (pointer : store.IsPointer id)
    {error : ActionError} (h : store.mouse id = .error error) : error.isValidation = false := by
  obtain ⟨s, found⟩ := pointer.found
  unfold mouse at h
  rw [found] at h
  dsimp only at h
  split at h <;> cases h
  rfl

end Store

namespace Inputs

variable {inputs : Inputs} {error : ActionError}

theorem pressKey_ok {action : Action} (key : inputs.store.kind? action.id = some .key)
    (value : String) : ∃ result, inputs.pressKey action value = .ok result := by
  obtain ⟨s, -, ok⟩ := Store.keySource_ok key
  unfold pressKey
  rw [ok]
  exact ⟨_, rfl⟩

theorem holdKey_ok {id : SourceId} (key : inputs.store.kind? id = some .key) (value : String) :
    ∃ next, inputs.holdKey id value = .ok next := by
  obtain ⟨s, found, -⟩ := Store.keySource_ok key
  unfold holdKey
  rw [found]
  exact ⟨_, rfl⟩

theorem holdButton_ok {id : SourceId} (pointer : inputs.store.IsPointer id) (button : UInt32) :
    ∃ next, inputs.holdButton id button = .ok next := by
  obtain ⟨s, found⟩ := pointer.found
  unfold holdButton Store.press
  rw [found]
  exact ⟨_, rfl⟩

/-- What goes on without failing fails only at first. -/
private theorem error_of_bind {α β : Type} {first : Except ActionError α}
    {next : α → Except ActionError β} (fine : ∀ a, ∃ b, next a = .ok b)
    (h : (first >>= next) = .error error) : first = .error error := by
  cases first with
  | error _ =>
    cases h
    rfl
  | ok a =>
    obtain ⟨b, ok⟩ := fine a
    exact nomatch ok.symm.trans h

theorem pressButton_error {action : Action} {button : UInt32}
    (h : inputs.pressButton action button = .error error) :
    inputs.store.mouse action.id = .error error :=
  error_of_bind (fun s => by dsimp only; split <;> exact ⟨_, rfl⟩) h

theorem liftButton_error {action : Action} {button : UInt32}
    (h : inputs.liftButton action button = .error error) :
    inputs.store.mouse action.id = .error error :=
  error_of_bind (fun s => by dsimp only; split <;> exact ⟨_, rfl⟩) h

theorem moveEvent_error {id : SourceId} {target : Point}
    (h : inputs.moveEvent id target = .error error) : inputs.store.mouse id = .error error :=
  error_of_bind (fun s => by dsimp only; split <;> exact ⟨_, rfl⟩) h

theorem arrive_error {id : SourceId} {target : Point}
    (h : inputs.arrive id target = .error error) : inputs.store.mouse id = .error error :=
  error_of_bind (fun _ => ⟨_, rfl⟩) h

end Inputs

/-! ### Sections -/

/-- The source of the rest of an action is there under the kind it needs. -/
def Wait.Typed (store : Store) : Wait → Prop
  | .keyup id _ _ => store.kind? id = some .key
  | .mouseup id _ _ => store.IsPointer id
  | .center move _ _ => store.IsPointer move.id
  | .viewport move _ _ => store.IsPointer move.id
  | .sample move _ => store.IsPointer move.id
  | .step move _ _ _ => store.IsPointer move.id
  | .arrival id _ _ => store.IsPointer id
  | _ => True

/-- An action that can go on, or that did not fail for its arguments. -/
def Slot.Typed (store : Store) : Slot → Prop
  | .ready action => action.Typed store
  | .waiting _ wait => wait.Typed store
  | .settled result => ∀ error, result = .error error → error.isValidation = false

/-- How a section ends that a typed action may have. -/
def Outcome.Typed (store : Store) : Outcome → Prop
  | .settled result => ∀ error, result = .error error → error.isValidation = false
  | .waits _ wait => wait.Typed store

namespace Outcome

variable {store : Store} {error : ActionError}

theorem typed_done : Outcome.done.Typed store := nofun

theorem typed_failed (valid : error.isValidation = false) : (Outcome.failed error).Typed store := by
  rintro _ ⟨⟩
  exact valid

end Outcome

section
variable {world : World} {id : SourceId}

private theorem typed_moveToTarget (pointer : world.inputs.store.IsPointer id) (target : Point) :
    (world.moveToTarget id target).2.Typed world.inputs.store := by
  unfold World.moveToTarget
  split
  next fails => exact Outcome.typed_failed (pointer.mouse_error (Inputs.moveEvent_error fails))
  · exact Outcome.typed_done
  · exact pointer

private theorem typed_moveToSample {move : Move}
    (pointer : world.inputs.store.IsPointer move.id) (session : Session)
    (target position : Point) :
    (world.moveToSample session move target position).2.Typed world.inputs.store := by
  unfold World.moveToSample
  split
  next fails => exact Outcome.typed_failed (pointer.mouse_error (Inputs.moveEvent_error fails))
  · exact pointer
  · exact pointer

private theorem typed_keyDown {action : Action}
    (key : world.inputs.store.kind? action.id = some .key) (value : String) :
    (action.beginKeyDown value world).2.Typed world.inputs.store := by
  obtain ⟨result, ok⟩ := Inputs.pressKey_ok key value
  unfold Action.beginKeyDown
  rw [ok]
  trivial

private theorem typed_keyUp {action : Action}
    (key : world.inputs.store.kind? action.id = some .key) (value : String) :
    (action.beginKeyUp value world).2.Typed world.inputs.store := by
  unfold Action.beginKeyUp
  split
  next fails => exact absurd key (Inputs.kind?_of_liftKey_error fails)
  · exact Outcome.typed_done
  · exact key

private theorem typed_pointerDown {action : Action}
    (pointer : world.inputs.store.IsPointer action.id) (context : Context) (button : UInt32) :
    (action.beginPointerDown context button world).2.Typed world.inputs.store := by
  unfold Action.beginPointerDown
  split
  next fails => exact Outcome.typed_failed (pointer.mouse_error (Inputs.pressButton_error fails))
  · exact Outcome.typed_done
  · trivial

private theorem typed_pointerUp {action : Action}
    (pointer : world.inputs.store.IsPointer action.id) (button : UInt32) :
    (action.beginPointerUp button world).2.Typed world.inputs.store := by
  unfold Action.beginPointerUp
  split
  next fails => exact Outcome.typed_failed (pointer.mouse_error (Inputs.liftButton_error fails))
  · exact Outcome.typed_done
  · exact pointer

private theorem typed_pointerMove {action : Action}
    (pointer : world.inputs.store.IsPointer action.id) (duration : UInt64) (origin : Origin)
    (dx dy : Int64) :
    (action.beginPointerMove duration origin dx dy world).2.Typed world.inputs.store := by
  unfold Action.beginPointerMove
  split
  next fails => exact Outcome.typed_failed (pointer.mouse_error fails)
  · split <;> exact pointer

/-- The first section of a typed action. -/
theorem Action.begin_typed {action : Action} (typed : action.Typed world.inputs.store)
    (context : Context) (tickDuration : UInt64) :
    (action.begin context tickDuration world).2.Typed world.inputs.store := by
  obtain ⟨known, suits⟩ := typed
  have key (same : action.sourceKind = .key) : world.inputs.store.kind? action.id = some .key := by
    rw [known, same]
  have pointer (same : ∃ kind, action.sourceKind = .pointer kind) :
      world.inputs.store.IsPointer action.id := by
    obtain ⟨kind, same⟩ := same
    exact ⟨kind, by rw [known, same]⟩
  unfold begin
  -- The gesture tells which kind the source must have, and that is its kind.
  cases gesture : action.gesture <;> rw [gesture] at suits <;> dsimp only
  case pause =>
    split
    · exact Outcome.typed_done
    · trivial
  case keyDown => exact typed_keyDown (key suits) _
  case keyUp => exact typed_keyUp (key suits) _
  case pointerDown => exact typed_pointerDown (pointer suits) ..
  case pointerUp => exact typed_pointerUp (pointer suits) _
  case pointerMove => exact typed_pointerMove (pointer suits) ..
  case pointerCancel => exact Outcome.typed_failed rfl

private theorem typed_refused {error : HostError} {restored : Except InvalidArgument Inputs}
    {store : Store} (world : World) (ok : ∃ inputs, restored = .ok inputs) :
    (Wait.refused error restored world).2.Typed store := by
  obtain ⟨inputs, rfl⟩ := ok
  exact Outcome.typed_failed rfl

private theorem typed_setOut {move : Move} (pointer : world.inputs.store.IsPointer move.id)
    (context : Context) (base : Point) :
    (Wait.setOut context move base world).2.Typed world.inputs.store := by
  unfold Wait.setOut
  split
  · exact Outcome.typed_failed rfl
  · split
    · exact typed_moveToTarget pointer _
    · exact pointer

private theorem typed_takeSample {move : Move} (pointer : world.inputs.store.IsPointer move.id)
    (context : Context) (target : Point) :
    (Wait.takeSample context move target world).2.Typed world.inputs.store := by
  unfold Wait.takeSample
  dsimp only
  split
  · exact typed_moveToSample pointer ..
  · exact typed_moveToTarget pointer _

/-- Each later section of a typed action. -/
theorem Wait.resume_typed {wait : Wait} (typed : wait.Typed world.inputs.store)
    (context : Context) : (wait.resume context world).2.Typed world.inputs.store := by
  cases wait with
  | pause => exact Outcome.typed_done
  | keydown id event printable verdict =>
    dsimp only [resume]
    split
    · exact Outcome.typed_failed rfl
    · unfold afterKeydown
      dsimp only
      split
      · trivial
      · exact Outcome.typed_done
  | keypress verdict =>
    dsimp only [resume]
    split
    · exact Outcome.typed_failed rfl
    · exact Outcome.typed_done
  | keyup id key verdict =>
    dsimp only [resume]
    split
    · exact typed_refused _ (Inputs.holdKey_ok typed key)
    · exact Outcome.typed_done
  | mousedown id event opensMenu verdict =>
    dsimp only [resume]
    split
    · exact Outcome.typed_failed rfl
    · split
      · trivial
      · exact Outcome.typed_done
  | contextmenu verdict =>
    dsimp only [resume]
    split
    · exact Outcome.typed_failed rfl
    · exact Outcome.typed_done
  | mouseup id button verdict =>
    dsimp only [resume]
    split
    · exact typed_refused _ (Inputs.holdButton_ok typed button)
    · exact Outcome.typed_done
  | center move ref refusal =>
    dsimp only [resume]
    split
    · exact Outcome.typed_failed rfl
    · split
      · exact Outcome.typed_failed rfl
      · exact typed
  | viewport move base refusal =>
    dsimp only [resume]
    split
    · exact Outcome.typed_failed rfl
    · exact typed_setOut typed ..
  | sample move target => exact typed_takeSample typed ..
  | step move target position verdict =>
    dsimp only [resume]
    split
    · exact Outcome.typed_failed rfl
    · split
      next fails => exact Outcome.typed_failed (typed.mouse_error (Inputs.arrive_error fails))
      · exact typed
  | arrival id target verdict =>
    dsimp only [resume]
    split
    · exact Outcome.typed_failed rfl
    · split
      next fails => exact Outcome.typed_failed (typed.mouse_error (Inputs.arrive_error fails))
      · exact Outcome.typed_done

end

/-! ### Slots and activities -/

/-- Stores that have the same kinds, or more of them, type the same. -/
def Store.Keeps (store next : Store) : Prop :=
  ∀ id kind, store.kind? id = some kind → next.kind? id = some kind

theorem Action.Typed.of_kinds {store next : Store} (kinds : store.Keeps next) {action : Action}
    (h : action.Typed store) : action.Typed next :=
  ⟨kinds _ _ h.known, h.suits⟩

theorem Slot.Typed.of_kinds {store next : Store} (kinds : store.Keeps next) {slot : Slot}
    (h : slot.Typed store) : slot.Typed next := by
  have pointer {id : SourceId} : store.IsPointer id → next.IsPointer id :=
    fun ⟨kind, known⟩ => ⟨kind, kinds _ _ known⟩
  cases slot with
  | ready action => exact Action.Typed.of_kinds kinds h
  | settled => exact h
  | waiting wake wait =>
    cases wait <;> first | trivial | exact pointer h | exact kinds _ _ h

/-- A typed slot does not blame its arguments. -/
theorem Slot.Typed.error? {store : Store} {slot : Slot} (h : slot.Typed store)
    {error : ActionError} (fails : slot.error? = some error) : error.isValidation = false := by
  cases slot with
  | settled result =>
    cases result with
    | ok => cases fails
    | error => cases fails; exact h _ rfl
  | _ => cases fails

theorem Slot.step_keeps (slot : Slot) (context : Context) (duration : UInt64) (world : World) :
    world.inputs.store.Keeps (slot.step context duration world).1.inputs.store :=
  fun id _ known => ((slot.step_turn context duration world).kind? id).trans known

theorem Slot.step_typed {slot : Slot} {world : World} (h : slot.Typed world.inputs.store)
    (context : Context) (duration : UInt64) :
    (slot.step context duration world).2.Typed
      (slot.step context duration world).1.inputs.store := by
  refine Slot.Typed.of_kinds (slot.step_keeps context duration world) ?_
  have typed (world : World) (outcome : Outcome) {store : Store} (h : outcome.Typed store) :
      (Slot.ofOutcome world outcome).Typed store := by
    cases outcome <;> exact h
  cases slot with
  | ready action => exact typed _ _ (Action.begin_typed h ..)
  | waiting wake wait => exact typed _ _ (Wait.resume_typed h ..)
  | settled => exact h

/-- A chain all of whose actions are typed, or an answer that blames no argument. -/
def Activity.Typed (store : Store) : Activity → Prop
  | .ticking _ _ slots rest =>
    (∀ slot ∈ slots, slot.Typed store) ∧ ∀ tick ∈ rest, ∀ action ∈ tick, action.Typed store
  | .finished _ answer => ∀ error, answer = .result (.error error) → error.isValidation = false
  | _ => False

namespace Activity.Typed

variable {store next : Store} {activity : Activity}

theorem of_kinds (kinds : store.Keeps next) (h : activity.Typed store) : activity.Typed next := by
  cases activity with
  | ticking =>
    exact ⟨fun slot member => (h.1 slot member).of_kinds kinds,
      fun tick listed action member => (h.2 tick listed action member).of_kinds kinds⟩
  | finished => exact h
  | _ => exact h.elim

theorem ofTicks {chain : Chain} (typed : ∀ tick ∈ chain, ∀ action ∈ tick, action.Typed store)
    (context : Context) (now : Nat) : (Activity.ofTicks context now chain).Typed store := by
  cases chain with
  | nil => exact nofun
  | cons tick rest =>
    obtain ⟨first, later⟩ := List.forall_mem_cons.mp typed
    refine ⟨fun slot member => ?_, later⟩
    obtain ⟨action, listed, rfl⟩ := List.mem_map.mp member
    exact first action listed

theorem slots (h : activity.Typed store) : ∀ slot ∈ activity.slots, slot.Typed store := by
  cases activity with
  | ticking => exact h.1
  | finished => exact fun _ member => absurd member List.not_mem_nil
  | _ => exact h.elim

/-- A section of a typed chain leaves it typed. -/
theorem step (session : Session) {world : World} (h : activity.Typed world.inputs.store) :
    (activity.step session world).2.Typed (activity.step session world).1.inputs.store := by
  cases activity with
  | finished => exact h
  | ticking context duration slots rest =>
    obtain ⟨typed, later⟩ := h
    unfold Activity.step
    dsimp only
    split
    next ran =>
      obtain ⟨left, slot, right, rfl, -, -, rfl, rfl⟩ := Slot.stepFirst_eq_some ran
      have kinds := slot.step_keeps context duration world
      refine ⟨fun other member => ?_, fun tick listed action member =>
        (later tick listed action member).of_kinds kinds⟩
      rcases List.mem_append.mp member with before | here
      · exact (typed other (List.mem_append_left _ before)).of_kinds kinds
      · rcases List.mem_cons.mp here with rfl | after
        · exact Slot.step_typed (typed slot (by simp)) ..
        · exact (typed other (by simp [after])).of_kinds kinds
    next =>
      unfold afterTick
      split
      next error failed =>
        -- The answer is the error of a slot, which is typed.
        obtain ⟨slot, listed, fails⟩ := List.exists_of_findSome?_eq_some failed
        rintro _ ⟨⟩
        exact (typed slot listed).error? fails
      next => exact ofTicks later ..
  | _ => exact h.elim

end Activity.Typed

end InputActions
