import InputActions.Payload
import InputActions.Session.Inputs

/-!
# What is held

Keys and buttons are treated alike: both are triggers of a source, which can hold them, lift them,
or be of a kind that knows nothing of them. The lemmas say how the store answers for every trigger
of every source after one of them was held or lifted, and that registering sources presses nothing.
-/
namespace InputActions

/-- The trigger that a gesture presses. -/
def Gesture.pressed? : Gesture → Option Trigger
  | .keyDown value => some (.key (Key.normalized value))
  | .pointerDown button => some (.button button)
  | _ => none

/-- The trigger that a gesture lifts. -/
def Gesture.lifted? : Gesture → Option Trigger
  | .keyUp value => some (.key (Key.normalized value))
  | .pointerUp button => some (.button button)
  | _ => none

/-- Whether an action lifts this trigger of this source. -/
def Action.undoes (id : SourceId) (trigger : Trigger) (action : Action) : Bool :=
  action.id = id && action.gesture.lifted? = some trigger

theorem Action.undoes_iff {id : SourceId} {trigger : Trigger} {action : Action} :
    action.undoes id trigger = true ↔
      action.id = id ∧ action.gesture.lifted? = some trigger := by
  simp [undoes]

theorem Action.inverse?_of_pressed {action : Action} {trigger : Trigger}
    (h : action.gesture.pressed? = some trigger) :
    ∃ inverse, action.inverse? = some inverse ∧ inverse.id = action.id ∧
      inverse.gesture.lifted? = some trigger := by
  obtain ⟨id, type, pointerKind, gesture⟩ := action
  cases gesture <;> simp_all [Gesture.pressed?, Gesture.lifted?, inverse?]

private theorem compare_beq_eq {α : Type} [DecidableEq α] [Ord α] [Std.LawfulEqOrd α] (a b : α) :
    (compare a b == .eq) = decide (b = a) := by
  rw [Bool.eq_iff_iff, beq_iff_eq, Std.LawfulEqCmp.compare_eq_iff_eq, decide_eq_true_iff, eq_comm]

theorem KeySource.isPressed_hold (s : KeySource) (key other : String) :
    (s.hold key).isPressed other = (decide (other = key) || s.isPressed other) := by
  rw [isPressed, hold, Std.ExtTreeSet.contains_insert, compare_beq_eq, isPressed]

theorem KeySource.isPressed_lift (s : KeySource) (key other : String) :
    (s.lift key).isPressed other = (decide (other ≠ key) && s.isPressed other) := by
  rw [isPressed, lift, Std.ExtTreeSet.contains_erase, bne, compare_beq_eq, isPressed, decide_not]

theorem PointerSource.isPressed_hold (s : PointerSource) (button other : UInt32) :
    (s.hold button).isPressed other = (decide (other = button) || s.isPressed other) := by
  rw [isPressed, hold, Std.ExtTreeSet.contains_insert, compare_beq_eq, isPressed]

theorem PointerSource.isPressed_lift (s : PointerSource) (button other : UInt32) :
    (s.lift button).isPressed other = (decide (other ≠ button) && s.isPressed other) := by
  rw [isPressed, lift, Std.ExtTreeSet.contains_erase, bne, compare_beq_eq, isPressed, decide_not]

namespace Source

/-- The source with a trigger held, if it is of a kind that can hold it. -/
def hold? : Source → Trigger → Option Source
  | .key s, .key value => some (.key (s.hold value))
  | .pointer s, .button number => some (.pointer (s.hold number))
  | _, _ => none

/-- The source with a trigger lifted, if it is of a kind that can hold it. -/
def lift? : Source → Trigger → Option Source
  | .key s, .key value => some (.key (s.lift value))
  | .pointer s, .button number => some (.pointer (s.lift number))
  | _, _ => none

/-- Whether the source holds a trigger, if it is of a kind that can hold it. -/
def held? : Source → Trigger → Option Bool
  | .key s, .key value => some (s.isPressed value)
  | .pointer s, .button number => some (s.isPressed number)
  | _, _ => none

theorem kind_hold? {source next : Source} {trigger : Trigger}
    (h : source.hold? trigger = some next) : next.kind = source.kind := by
  cases source <;> cases trigger <;> simp [hold?] at h <;> subst h <;> rfl

theorem kind_lift? {source next : Source} {trigger : Trigger}
    (h : source.lift? trigger = some next) : next.kind = source.kind := by
  cases source <;> cases trigger <;> simp [lift?] at h <;> subst h <;> rfl

theorem held?_hold? {source next : Source} {trigger : Trigger}
    (h : source.hold? trigger = some next) (other : Trigger) :
    next.held? other = if other = trigger then some true else source.held? other := by
  -- A key of a keyboard or a button of a pointer: no other source holds anything.
  cases source <;> cases trigger <;> simp only [hold?, Option.some.injEq, reduceCtorEq] at h
  all_goals
    subst h
    cases other <;> simp only [held?, reduceCtorEq, ite_false, KeySource.isPressed_hold,
      PointerSource.isPressed_hold, Trigger.key.injEq, Trigger.button.injEq]
    split <;> simp_all

theorem held?_lift? {source next : Source} {trigger : Trigger}
    (h : source.lift? trigger = some next) (other : Trigger) :
    next.held? other = if other = trigger then some false else source.held? other := by
  cases source <;> cases trigger <;> simp only [lift?, Option.some.injEq, reduceCtorEq] at h
  all_goals
    subst h
    cases other <;> simp only [held?, reduceCtorEq, ite_false, KeySource.isPressed_lift,
      PointerSource.isPressed_lift, Trigger.key.injEq, Trigger.button.injEq]
    split <;> simp_all

/-- A fresh source holds nothing. -/
theorem held?_fresh (kind : SourceKind) (trigger : Trigger) :
    (fresh kind).held? trigger ≠ some true := by
  cases kind <;> cases trigger <;>
    simp [fresh, held?, KeySource.fresh, KeySource.isPressed, PointerSource.fresh,
      PointerSource.isPressed]

end Source

namespace Store

theorem getElem?_put (store : Store) (id other : SourceId) (source : Source) :
    (store.insert id source)[other]? = if other = id then some source else store[other]? := by
  rw [Std.ExtTreeMap.getElem?_insert]
  simp only [Std.LawfulEqCmp.compare_eq_iff_eq, eq_comm (a := id)]

theorem held?_eq (store : Store) (id : SourceId) (trigger : Trigger) :
    store.held? id trigger = store[id]?.bind (·.held? trigger) := by
  unfold held?
  cases store[id]? with
  | none => rfl
  | some source => cases source <;> cases trigger <;> rfl

theorem held?_put (store : Store) (id other : SourceId) (source : Source) (trigger : Trigger) :
    held? (store.insert id source) other trigger =
      if other = id then source.held? trigger else store.held? other trigger := by
  rw [held?_eq, held?_eq, getElem?_put]
  split <;> rfl

theorem kind?_put (store : Store) (id other : SourceId) (source : Source) :
    kind? (store.insert id source) other =
      if other = id then some source.kind else store.kind? other := by
  rw [kind?, kind?, getElem?_put]
  split <;> rfl

/-- A source that gives way to one of the same kind leaves all kinds as they are. -/
theorem kind?_put_of_kind {store : Store} {id : SourceId} {source next : Source}
    (found : store[id]? = some source) (same : next.kind = source.kind) (other : SourceId) :
    kind? (store.insert id next) other = store.kind? other := by
  rw [kind?_put]
  split
  next equal => rw [equal, kind?, found, same, Option.map_some]
  · rfl

/-- Whether a trigger can be pressed and lifted on the source of a name: keys on keyboards and
buttons on mice. -/
def Accepts (store : Store) (id : SourceId) : Trigger → Prop
  | .key _ => store.kind? id = some .key
  | .button _ => store.kind? id = some (.pointer .mouse)

/-- A source that accepts a trigger is there, and says whether it holds it. -/
theorem Accepts.found {store : Store} {id : SourceId} {trigger : Trigger}
    (h : store.Accepts id trigger) :
    ∃ source held next, store[id]? = some source ∧ source.held? trigger = some held ∧
      source.hold? trigger = some next := by
  cases trigger <;> simp only [Accepts, kind?, Option.map_eq_some_iff] at h
  all_goals
    obtain ⟨source, found, kind⟩ := h
    cases source <;> simp only [Source.kind, reduceCtorEq] at kind
    exact ⟨_, _, _, found, rfl, rfl⟩

theorem Accepts.of_kinds {store next : Store} {id : SourceId} {trigger : Trigger}
    (h : store.Accepts id trigger)
    (kinds : ∀ id kind, store.kind? id = some kind → next.kind? id = some kind) :
    next.Accepts id trigger := by
  cases trigger <;> exact kinds id _ h

/-- Registering a name that is there changes nothing; one that is missing gets a fresh source. -/
theorem ensure_cases {store next : Store} {id : SourceId} {kind : SourceKind}
    (h : store.ensure id kind = .ok next) :
    next = store ∨ store[id]? = none ∧ next = store.insert id (.fresh kind) := by
  unfold ensure at h
  cases hc : store.check id kind with
  | error fault => simp [hc, bind, Except.bind] at h
  | ok _ =>
    simp only [hc, bind, Except.bind, pure, Except.pure, Except.ok.injEq] at h
    split at h
    · exact Or.inl h.symm
    next missing =>
      refine Or.inr ⟨?_, h.symm⟩
      rwa [Std.ExtTreeMap.contains_eq_isSome_getElem?, Bool.not_eq_true,
        Option.isSome_eq_false_iff, Option.isNone_iff_eq_none] at missing

/-- Every source stays, and whatever is new is fresh. -/
structure Grows (store next : Store) : Prop where
  keeps : ∀ {id : SourceId} {source : Source}, store[id]? = some source → next[id]? = some source
  adds : ∀ {id : SourceId} {source : Source}, next[id]? = some source →
    store[id]? = some source ∨ ∃ kind, source = .fresh kind

namespace Grows

theorem refl (store : Store) : store.Grows store := ⟨id, Or.inl⟩

theorem trans {store middle next : Store} (first : store.Grows middle)
    (second : middle.Grows next) : store.Grows next where
  keeps found := second.keeps (first.keeps found)
  adds found := by
    rcases second.adds found with old | fresh
    · exact first.adds old
    · exact Or.inr fresh

theorem ensure {store next : Store} {id : SourceId} {kind : SourceKind}
    (h : store.ensure id kind = .ok next) : store.Grows next := by
  rcases ensure_cases h with rfl | ⟨absent, rfl⟩
  · exact refl _
  · constructor
    · intro other source found
      rw [getElem?_put]
      split
      -- The name of the new source was free, so no source is replaced.
      next equal => rw [equal, absent] at found; cases found
      · exact found
    · intro other source found
      rw [getElem?_put] at found
      split at found
      · exact Or.inr ⟨kind, (Option.some.inj found).symm⟩
      · exact Or.inl found

theorem ensureAll (store : Store) (sources : List (SourceId × SourceKind)) :
    store.Grows (store.ensureAll sources).2 := by
  induction sources generalizing store with
  | nil => exact refl store
  | cons entry sources ih =>
    unfold Store.ensureAll
    split
    -- What was registered before a conflict stays registered.
    · exact refl store
    next next ensured => exact (ensure ensured).trans (ih next)

theorem kind? {store next : Store} (h : store.Grows next) {id : SourceId} {kind : SourceKind}
    (known : store.kind? id = some kind) : next.kind? id = some kind := by
  obtain ⟨source, found, same⟩ := Option.map_eq_some_iff.mp known
  rw [Store.kind?, h.keeps found, Option.map_some, same]

/-- Registering sources presses and lifts nothing. -/
theorem held?_iff {store next : Store} (h : store.Grows next) (id : SourceId)
    (trigger : Trigger) :
    next.held? id trigger = some true ↔ store.held? id trigger = some true := by
  rw [held?_eq, held?_eq, Option.bind_eq_some_iff, Option.bind_eq_some_iff]
  constructor
  · rintro ⟨source, found, held⟩
    rcases h.adds found with old | ⟨kind, rfl⟩
    · exact ⟨source, old, held⟩
    -- A fresh source holds nothing, so what is held was held before.
    · exact absurd held (Source.held?_fresh kind trigger)
  · rintro ⟨source, found, held⟩
    exact ⟨source, h.keeps found, held⟩

end Grows

end Store

/-- Whether a trigger of a source is held. -/
def Inputs.Holds (inputs : Inputs) (id : SourceId) (trigger : Trigger) : Prop :=
  inputs.store.held? id trigger = some true

instance (inputs : Inputs) (id : SourceId) (trigger : Trigger) :
    Decidable (inputs.Holds id trigger) :=
  inferInstanceAs (Decidable (_ = _))

namespace Inputs

/-- A source that is there answers for its triggers. -/
theorem holds_iff {inputs : Inputs} {id : SourceId} {source : Source}
    (found : inputs.store[id]? = some source) (trigger : Trigger) :
    inputs.Holds id trigger ↔ source.held? trigger = some true := by
  rw [Holds, Store.held?_eq, found, Option.bind_some]

section
variable {inputs : Inputs} {source next : Source} {other : SourceId} {lifted : Trigger}

theorem holds_hold (found : inputs.store[other]? = some source)
    (holds : source.hold? lifted = some next) (pending : Pending) (id : SourceId)
    (trigger : Trigger) : Holds ⟨inputs.store.insert other next, pending⟩ id trigger ↔
      (id = other ∧ trigger = lifted) ∨ inputs.Holds id trigger := by
  unfold Holds
  rw [Store.held?_put]
  by_cases same : id = other
  -- The source itself answers for its own triggers, and the others are as before.
  · subst same
    rw [if_pos rfl, Source.held?_hold? holds, Store.held?_eq, found, Option.bind_some]
    split <;> simp_all
  · rw [if_neg same]
    simp [same]

theorem holds_lift (found : inputs.store[other]? = some source)
    (lifts : source.lift? lifted = some next) (pending : Pending) (id : SourceId)
    (trigger : Trigger) : Holds ⟨inputs.store.insert other next, pending⟩ id trigger ↔
      ¬ (id = other ∧ trigger = lifted) ∧ inputs.Holds id trigger := by
  unfold Holds
  rw [Store.held?_put]
  by_cases same : id = other
  · subst same
    rw [if_pos rfl, Source.held?_lift? lifts, Store.held?_eq, found, Option.bind_some]
    split <;> simp_all
  · rw [if_neg same]
    simp [same]

end

/-- Moving a pointer holds and lifts nothing. -/
theorem holds_position {inputs : Inputs} {s : PointerSource} {other : SourceId}
    (found : inputs.store[other]? = some (.pointer s)) (target : Point) (id : SourceId)
    (trigger : Trigger) :
    Holds { inputs with
      store := inputs.store.insert other (.pointer { s with position := target }) } id trigger ↔
      inputs.Holds id trigger := by
  unfold Holds
  rw [Store.held?_put]
  split
  next same =>
    rw [same, Store.held?_eq, found]
    cases trigger <;> rfl
  · rfl

end Inputs

end InputActions
