import InputActions.Proofs.Latency
import InputActions.Proofs.Naming

/-!
# What an action has to do with its own source

An action reads and changes its own source and the entries that it owes for it. What it comes to is
the same for inputs that agree on its name (`Action.alone_agree`), and so for ticks and chains on
all of their names. Whatever runs leaves everything else as it is (`World.Touches`): the sources of
other names, the entries that were owed before, the kinds of sources and the surface.
-/
namespace InputActions

/-! ### Inputs that agree -/

/-- Two inputs have the same sources under certain names, and owe the same for them. -/
structure Inputs.AgreeOn (names : List SourceId) (a b : Inputs) : Prop where
  store : Store.AgreeOn names a.store b.store
  pending : a.pending.entries.filter (·.id ∈ names) = b.pending.entries.filter (·.id ∈ names)

namespace Inputs.AgreeOn

variable {names : List SourceId} {a b c : Inputs}

theorem refl (names : List SourceId) (a : Inputs) : a.AgreeOn names a := ⟨fun _ _ => rfl, rfl⟩

theorem symm (h : a.AgreeOn names b) : b.AgreeOn names a :=
  ⟨fun id own => (h.store id own).symm, h.pending.symm⟩

theorem trans (first : a.AgreeOn names b) (second : b.AgreeOn names c) : a.AgreeOn names c :=
  ⟨fun id own => (first.store id own).trans (second.store id own),
    first.pending.trans second.pending⟩

/-- The same change of one source keeps two inputs in agreement. -/
theorem put (h : a.AgreeOn names b) (id : SourceId) (source : Source) :
    AgreeOn names ⟨a.store.insert id source, a.pending⟩ ⟨b.store.insert id source, b.pending⟩ :=
  ⟨h.store.put id source, h.pending⟩

theorem record (h : a.AgreeOn names b) (action : Action) :
    AgreeOn names ⟨a.store, a.pending.record action⟩ ⟨b.store, b.pending.record action⟩ := by
  refine ⟨h.store, ?_⟩
  unfold Pending.record
  split
  · simp only [Pending.push, List.filter_append, h.pending]
  · exact h.pending

theorem place (h : a.AgreeOn names b) (id : SourceId) (position : Point) :
    (a.place id position).AgreeOn names (b.place id position) := by
  refine ⟨fun other own => ?_, h.pending⟩
  rw [Inputs.place, Inputs.place, Store.getElem?_setPosition, Store.getElem?_setPosition,
    h.store other own]

theorem placeAll (h : a.AgreeOn names b) (landings : List (SourceId × Point)) :
    (a.placeAll landings).AgreeOn names (b.placeAll landings) := by
  induction landings generalizing a b with
  | nil => exact h
  | cons landing landings ih =>
    rw [placeAll_cons, placeAll_cons]
    exact ih (h.place _ _)

end Inputs.AgreeOn

/-! ### Accounts that agree -/

/-- Two effects are the same but for what is reported: an error, or inputs that agree. -/
inductive Effect.AgreeOn (names : List SourceId) : Effect → Effect → Prop
  | ok {a b : Inputs} {new other} (inputs : a.AgreeOn names b) :
      AgreeOn names (.ok (a, new)) (.ok (b, other))
  | error {error} : AgreeOn names (.error error) (.error error)

/-- Two accounts are the same but for what is reported. -/
structure Account.AgreeOn (names : List SourceId) (a b : Account) : Prop where
  inputs : a.inputs.AgreeOn names b.inputs
  failure : a.failure = b.failure

section
variable {names : List SourceId} {context : Context} {scene : Scene}

theorem Account.AgreeOn.trans {a b c : Account} (first : a.AgreeOn names b)
    (second : b.AgreeOn names c) : a.AgreeOn names c :=
  ⟨first.inputs.trans second.inputs, first.failure.trans second.failure⟩

theorem Account.AgreeOn.after {a b : Account} (h : a.AgreeOn names b) {effect other : Effect}
    (effects : Effect.AgreeOn names effect other) :
    (a.after effect).AgreeOn names (b.after other) := by
  cases effects with
  | ok inputs => exact ⟨inputs, h.failure⟩
  | error =>
    refine ⟨h.inputs, ?_⟩
    dsimp only [Account.after]
    rw [h.failure]

/-- What an action comes to depends on its own source. The flags of all keyboards together show in
what it reports, and nowhere else. -/
theorem Action.alone_agree {action : Action} (own : action.id ∈ names) {a b : Inputs}
    (h : a.AgreeOn names b) :
    Effect.AgreeOn names (action.alone context scene a) (action.alone context scene b) := by
  unfold alone
  -- Each gesture looks up its own source and nothing else that it could fail or change by.
  cases action.gesture with
  | pause duration => exact .ok h
  | pointerCancel => exact .error
  | keyDown value =>
    dsimp only [Inputs.pressKey]
    rw [h.store.keySource own]
    cases b.store.keySource action.id with
    | error fault => exact .error
    | ok source => exact .ok ((h.put action.id _).record action)
  | keyUp value =>
    dsimp only [Inputs.liftKey]
    rw [h.store.keySource own]
    cases b.store.keySource action.id with
    | error fault => exact .error
    | ok source =>
      dsimp only [bind, Except.bind, pure, Except.pure]
      cases source.isPressed (Key.normalized value) with
      | true => exact .ok (h.put action.id _)
      | false => exact .ok h
  | pointerDown button =>
    dsimp only [Inputs.pressButton]
    rw [h.store.mouse own]
    cases b.store.mouse action.id with
    | error error => exact .error
    | ok source =>
      dsimp only [bind, Except.bind, pure, Except.pure]
      cases source.isPressed button with
      | true => exact .ok h
      | false => exact .ok ((h.put action.id _).record action)
  | pointerUp button =>
    dsimp only [Inputs.liftButton]
    rw [h.store.mouse own]
    cases b.store.mouse action.id with
    | error error => exact .error
    | ok source =>
      dsimp only [bind, Except.bind, pure, Except.pure]
      cases source.isPressed button with
      | true => exact .ok (h.put action.id _)
      | false => exact .ok h
  | pointerMove duration origin dx dy =>
    dsimp only
    rw [h.store.mouse own]
    cases b.store.mouse action.id with
    | error error => exact .error
    | ok source =>
      dsimp only
      cases scene.aim context.mode source.position origin dx dy with
      | error error => exact .error
      | ok target => exact .ok (h.place action.id target)

theorem Slot.effect_agree {slot : Slot} (own : ∀ action, slot = .ready action → action.id ∈ names)
    {a b : Inputs} (h : a.AgreeOn names b) :
    Effect.AgreeOn names (slot.effect context scene a) (slot.effect context scene b) := by
  cases begun : slot.isBegun with
  | false =>
    cases slot with
    | ready action => exact Action.alone_agree (own action rfl) h
    | _ => cases begun
  | true =>
    rw [effect_of_begun begun, effect_of_begun begun]
    cases slot.lands context scene with
    | error error => exact .error
    | ok landings => exact .ok (h.placeAll landings)

theorem Slot.inTurn_agree {slots : List Slot}
    (own : ∀ slot ∈ slots, ∀ action, slot = .ready action → action.id ∈ names) {a b : Account}
    (h : a.AgreeOn names b) :
    (Slot.inTurn context scene slots a).AgreeOn names (Slot.inTurn context scene slots b) := by
  induction slots generalizing a b with
  | nil => exact h
  | cons slot slots ih =>
    obtain ⟨first, rest⟩ := List.forall_mem_cons.mp own
    exact ih rest (h.after (Slot.effect_agree first h.inputs))

theorem Tick.inTurn_agree {tick : Tick} (own : ∀ action ∈ tick, action.id ∈ names) {a b : Account}
    (h : a.AgreeOn names b) :
    (Tick.inTurn context scene tick a).AgreeOn names (Tick.inTurn context scene tick b) := by
  rw [← Slot.inTurn_ready, ← Slot.inTurn_ready]
  refine Slot.inTurn_agree (fun slot member action first => ?_) h
  obtain ⟨other, listed, rfl⟩ := List.mem_map.mp member
  cases first
  exact own action listed

theorem Chain.inTurn_agree {chain : Chain}
    (own : ∀ tick ∈ chain, ∀ action ∈ tick, action.id ∈ names) {a b : Account}
    (h : a.AgreeOn names b) :
    (chain.inTurn context scene a).AgreeOn names (chain.inTurn context scene b) := by
  induction chain generalizing a b with
  | nil => exact h
  | cons tick rest ih =>
    obtain ⟨first, later⟩ := List.forall_mem_cons.mp own
    unfold inTurn
    rw [h.failure]
    split
    · exact h
    · exact ih later (Tick.inTurn_agree first h)

end

/-! ### What runs leaves alone -/

/-- A stretch in which only sources of certain names may have changed, more may be owed for them,
every source has kept its kind, and the surface is the same. -/
structure World.Touches (names : List SourceId) (before after : World) : Prop where
  store : ∀ id, id ∉ names → after.inputs.store[id]? = before.inputs.store[id]?
  pending : ∃ more, after.inputs.pending.entries = before.inputs.pending.entries ++ more ∧
    ∀ entry ∈ more, entry.id ∈ names
  kinds : ∀ id kind, before.inputs.store.kind? id = some kind →
    after.inputs.store.kind? id = some kind
  surface : after.host.surface = before.host.surface

namespace World.Touches

variable {names others : List SourceId} {before middle after : World}

theorem of_same (inputs : after.inputs = before.inputs)
    (surface : after.host.surface = before.host.surface) : before.Touches names after := by
  refine ⟨fun _ _ => by rw [inputs], ⟨[], ?_, List.forall_mem_nil _⟩,
    fun _ _ known => by rw [inputs]; exact known, surface⟩
  rw [inputs, List.append_nil]

/-- A stretch in which one of the sources changes. -/
theorem of_put {id : SourceId} (own : id ∈ names) {source : Source}
    (store : after.inputs.store = before.inputs.store.insert id source)
    (pending : ∃ more, after.inputs.pending.entries = before.inputs.pending.entries ++ more ∧
      ∀ entry ∈ more, entry.id ∈ names)
    (kinds : ∀ id kind, before.inputs.store.kind? id = some kind →
      after.inputs.store.kind? id = some kind)
    (surface : after.host.surface = before.host.surface) : before.Touches names after := by
  refine ⟨fun other foreign => ?_, pending, kinds, surface⟩
  rw [store, Store.getElem?_put, if_neg]
  rintro rfl
  exact foreign own

theorem trans (first : before.Touches names middle) (second : middle.Touches names after) :
    before.Touches names after where
  store id foreign := (second.store id foreign).trans (first.store id foreign)
  pending := by
    obtain ⟨early, owed, own⟩ := first.pending
    obtain ⟨late, owed', own'⟩ := second.pending
    refine ⟨early ++ late, ?_, List.forall_mem_append.mpr ⟨own, own'⟩⟩
    rw [owed', owed, List.append_assoc]
  kinds id kind known := second.kinds id kind (first.kinds id kind known)
  surface := second.surface.trans first.surface

theorem mono (h : before.Touches names after) (more : ∀ id ∈ names, id ∈ others) :
    before.Touches others after where
  store id foreign := h.store id fun own => foreign (more id own)
  pending := by
    obtain ⟨added, owed, own⟩ := h.pending
    exact ⟨added, owed, fun entry member => more _ (own entry member)⟩
  kinds := h.kinds
  surface := h.surface

/-- Whoever has no name in common with what ran finds everything as it was. -/
theorem agreeOn (h : before.Touches others after) (apart : ∀ id ∈ names, id ∉ others) :
    after.inputs.AgreeOn names before.inputs := by
  refine ⟨fun id own => h.store id (apart id own), ?_⟩
  obtain ⟨more, owed, own⟩ := h.pending
  have none : more.filter (·.id ∈ names) = [] := by
    rw [List.filter_eq_nil_iff]
    intro entry member listed
    exact apart entry.id (of_decide_eq_true listed) (own entry member)
  rw [owed, List.filter_append, none, List.append_nil]

end World.Touches

/-! ### Sections -/

/-- Where a pointer is put when an answer comes is where its action moves it. -/
theorem Wait.mover?_of_landing? {wait : Wait} {id : SourceId} {target : Point} {verdict : Verdict}
    (h : wait.landing? = some (id, target, verdict)) : wait.mover? = some id := by
  cases wait with
  | step | arrival =>
    cases h
    rfl
  | _ => cases h

/-- The action of a slot is for a source of one of these names. -/
structure Slot.Within (names : List SourceId) (slot : Slot) : Prop where
  ready : ∀ action, slot = .ready action → action.id ∈ names
  lift : ∀ id trigger verdict, slot.lift? = some (id, trigger, verdict) → id ∈ names
  mover : ∀ id, slot.mover? = some id → id ∈ names

namespace Slot

variable {names : List SourceId} {slot next : Slot} {world after : World}

theorem within_ready {action : Action} (own : action.id ∈ names) : (ready action).Within names where
  ready other same := by
    cases same
    exact own
  lift _ _ _ lifts := by cases lifts
  mover id moves := by
    have moves : action.mover? = some id := moves
    have same : action.id = id := by
      unfold Action.mover? at moves
      split at moves
      · exact Option.some.inj moves
      · cases moves
    exact same ▸ own

/-- An action goes on with its own source. -/
theorem Within.step (h : slot.Within names) {context : Context} {scene : Scene}
    (shows : world.host.Shows scene) (awaits : slot.Awaits scene world.inputs)
    (duration : UInt64) : (slot.step context duration world).2.Within names := by
  have serves : slot.Serves context scene world _ _ := slot.step_serves shows duration awaits
  have turn := slot.step_turn context duration world
  have begun := slot.isBegun_step context duration world
  obtain ⟨mover, -, -⟩ := serves
  generalize (slot.step context duration world).1 = after at turn
  generalize (slot.step context duration world).2 = next at turn mover begun ⊢
  constructor
  · rintro action rfl
    cases begun
  -- A lift to be taken back is one that the action itself has made.
  · intro id trigger verdict lifts
    cases turn with
    | press _ _ _ _ _ free => cases free.symm.trans lifts
    | lift _ _ _ _ _ under =>
      cases under.symm.trans lifts
      exact h.ready _ rfl
    | arrive _ _ _ free => cases free.symm.trans lifts
    | still _ _ _ free => cases free.symm.trans lifts
    | _ => cases lifts
  · intro id moves
    rcases mover with same | none
    · exact h.mover id (same ▸ moves)
    · cases none.symm.trans moves

/-- A section changes the source of its action and what is owed for it, and nothing else. -/
theorem Turn.touches (turn : slot.Turn world after next) (h : slot.Within names)
    (surface : after.host.surface = world.host.surface) : world.Touches names after := by
  have kinds (id : SourceId) (kind : SourceKind) (known : world.inputs.store.kind? id = some kind) :
      after.inputs.store.kind? id = some kind := by
    rw [turn.kind?, known]
  -- But for a press, a section owes nothing more than before.
  have put {id : SourceId} (own : id ∈ names) {source : Source}
      (inputs : after.inputs = ⟨world.inputs.store.insert id source, world.inputs.pending⟩) :
      world.Touches names after := by
    have pending : after.inputs.pending.entries = world.inputs.pending.entries ++ [] := by
      rw [inputs, List.append_nil]
    exact .of_put own (congrArg Inputs.store inputs)
      ⟨[], pending, List.forall_mem_nil _⟩ kinds surface
  cases turn with
  | @press action trigger source held _ _ _ pressed accepts found holds inputs =>
    have own := h.ready action rfl
    obtain ⟨inverse, undone, same, -⟩ := Action.inverse?_of_pressed pressed
    have pending : after.inputs.pending.entries = world.inputs.pending.entries ++ [inverse] := by
      rw [inputs, Pending.record, undone]
      rfl
    refine .of_put own (congrArg Inputs.store inputs) ⟨[inverse], pending, ?_⟩ kinds surface
    intro entry member
    rw [List.mem_singleton.mp member, same]
    exact own
  | lift _ _ _ _ inputs => exact put (h.ready _ rfl) inputs
  | takeBack under _ _ _ inputs => exact put (h.lift _ _ _ under) inputs
  | arrive _ inputs _ _ lands =>
    obtain ⟨verdict, lands, -⟩ := lands
    exact put (h.mover _ (Wait.mover?_of_landing? lands)) inputs
  | pass => exact .of_same rfl surface
  | deny => exact .of_same rfl surface
  | lose _ _ _ inputs => exact .of_same inputs surface
  | land _ _ inputs => exact .of_same inputs surface
  | still inputs => exact .of_same inputs surface

end Slot

end InputActions
