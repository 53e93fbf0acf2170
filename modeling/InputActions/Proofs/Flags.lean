import InputActions.Proofs.Interleaving

/-!
# Modifier flags

A keyboard keeps its modifier flags next to the keys it holds. The two never drift apart: a flag is
set exactly while the key of its modifier is held. Only holding and lifting touch either, and both
touch them together.
-/
namespace InputActions

/-- The normalized value of a modifier's key. -/
def Modifier.key : Modifier → String
  | .alt => "Alt"
  | .shift => "Shift"
  | .ctrl => "Control"
  | .metaKey => "Meta"

theorem Modifier.ofKey?_eq_some_iff (key : String) (modifier : Modifier) :
    ofKey? key = some modifier ↔ modifier.key = key := by
  constructor
  · intro h
    unfold ofKey? at h
    split at h <;> cases h <;> rfl
  · rintro rfl
    cases modifier <;> rfl

theorem KeySource.get_flags (s : KeySource) (key : String) (value : Bool) (modifier : Modifier) :
    (s.flags key value).get modifier =
      if modifier.key = key then value else s.modifiers.get modifier := by
  unfold flags
  split
  next other found =>
    rw [Modifiers.get_set]
    by_cases same : modifier = other
    · rw [if_pos same, if_pos ((Modifier.ofKey?_eq_some_iff key modifier).mp (same ▸ found))]
    -- A key has at most one modifier, so another modifier has another key.
    · have different : modifier.key ≠ key := fun h => by
        have found' := (Modifier.ofKey?_eq_some_iff key modifier).mpr h
        exact same (Option.some.inj (found'.symm.trans found))
      rw [if_neg same, if_neg different]
  next missing =>
    have different : modifier.key ≠ key := fun h => by
      have found := (Modifier.ofKey?_eq_some_iff key modifier).mpr h
      exact nomatch found.symm.trans missing
    rw [if_neg different]

/-- Whether a flag is set exactly while its key is held, if the source is a keyboard. -/
def Source.Agrees : Source → Prop
  | .key s => ∀ modifier : Modifier, s.modifiers.get modifier = s.isPressed modifier.key
  | _ => True

theorem Source.agrees_fresh (kind : SourceKind) : (fresh kind).Agrees := by
  cases kind with
  | key =>
    intro modifier
    rw [KeySource.fresh, Modifiers.get_none, KeySource.isPressed, Std.ExtTreeSet.contains_empty]
  | _ => trivial

theorem Source.Agrees.hold? {source next : Source} {trigger : Trigger} (h : source.Agrees)
    (holds : source.hold? trigger = some next) : next.Agrees := by
  cases source <;> cases trigger <;> cases holds
  -- The flag of the key and the key itself change together, if the key has a flag.
  · intro modifier
    rw [KeySource.isPressed_hold, KeySource.hold, KeySource.get_flags, h modifier]
    split <;> simp_all
  · trivial

theorem Source.Agrees.lift? {source next : Source} {trigger : Trigger} (h : source.Agrees)
    (lifts : source.lift? trigger = some next) : next.Agrees := by
  cases source <;> cases trigger <;> cases lifts
  · intro modifier
    rw [KeySource.isPressed_lift, KeySource.lift, KeySource.get_flags, h modifier]
    split <;> simp_all
  · trivial

/-- Whether all sources agree with their flags. -/
def Store.Agrees (store : Store) : Prop :=
  ∀ (id : SourceId) (source : Source), store[id]? = some source → source.Agrees

namespace Store.Agrees

variable {store next : Store} {source : Source}

theorem empty : Agrees ∅ := fun id source found => by
  rw [Std.ExtTreeMap.getElem?_empty] at found
  cases found

theorem put (h : store.Agrees) (id : SourceId) (new : source.Agrees) :
    Agrees (store.insert id source) := by
  intro other placed found
  rw [getElem?_put] at found
  split at found
  · exact Option.some.inj found ▸ new
  · exact h other placed found

theorem grows (h : store.Agrees) (grown : store.Grows next) : next.Agrees := by
  intro id source found
  rcases grown.adds found with old | ⟨kind, rfl⟩
  · exact h id source old
  -- A fresh keyboard has neither keys nor flags.
  · exact Source.agrees_fresh kind

end Store.Agrees

/-- A section keeps flags and keys together. -/
theorem Slot.Turn.agrees {before after : World} {slot next : Slot}
    (h : slot.Turn before after next) (agrees : before.inputs.store.Agrees) :
    after.inputs.store.Agrees := by
  cases h with
  | press _ _ found holds inputs =>
    rw [inputs]
    exact agrees.put _ ((agrees _ _ found).hold? holds)
  | lift _ found _ lifts inputs =>
    rw [inputs]
    exact agrees.put _ ((agrees _ _ found).lift? lifts)
  | pass => exact agrees
  | deny => exact agrees
  | takeBack _ _ found holds inputs =>
    rw [inputs]
    exact agrees.put _ ((agrees _ _ found).hold? holds)
  | lose _ _ _ inputs => rwa [inputs]
  | land _ _ inputs => rwa [inputs]
  | @arrive _ _ _ s target _ _ found inputs =>
    have new : (Source.pointer { s with position := target }).Agrees := trivial
    rw [inputs]
    exact agrees.put _ new
  | still inputs => rwa [inputs]

theorem Activity.Turn.agrees {before after : World} {activity next : Activity}
    (h : activity.Turn before after next) (agrees : before.inputs.store.Agrees) :
    after.inputs.store.Agrees := by
  cases h with
  | start grows => exact agrees.grows grows
  | reset => exact .empty
  | slot turn => exact turn.agrees agrees
  | replay turn => exact turn.agrees agrees
  | replayed turn => exact turn.agrees agrees
  | interrupted turn => exact turn.agrees agrees
  | _ => exact agrees

namespace Schedule

theorem Moves.agrees {s next : Schedule} (h : s.Moves next)
    (agrees : s.world.inputs.store.Agrees) : next.world.inputs.store.Agrees := by
  cases h with
  | @advance session world left activity right ready =>
    exact (activity.step_turn session ready).agrees agrees
  | elapse => exact agrees

/-- Flags and keys agree at every moment. -/
theorem Reached.agrees {session : Session} {joins : Schedule → Request → Prop}
    {moves : Schedule → Schedule → Prop} {s : Schedule} (h : Reached session joins moves s) :
    s.world.inputs.store.Agrees := by
  induction h with
  | fresh host => exact .empty
  | join start request _ _ ih => exact ih
  | move _ moved _ ih => exact moved.agrees ih

/-- Flags and held keys never drift apart: at every moment the flag of a modifier is set on a
keyboard exactly while the keyboard holds the key of that modifier, the only key that has it. -/
theorem flag_iff_held {session : Session} {joins : Schedule → Request → Prop}
    {moves : Schedule → Schedule → Prop} {s : Schedule} (h : Reached session joins moves s)
    {id : SourceId} {keyboard : KeySource}
    (found : s.world.inputs.store[id]? = some (.key keyboard)) (modifier : Modifier) :
    (keyboard.modifiers.get modifier = true ↔ keyboard.isPressed modifier.key = true) ∧
      (keyboard.modifiers.get modifier = true ↔
        ∃ key, Modifier.ofKey? key = some modifier ∧ keyboard.isPressed key = true) := by
  have agrees : keyboard.modifiers.get modifier = keyboard.isPressed modifier.key :=
    h.agrees id _ found modifier
  refine ⟨by rw [agrees], ?_⟩
  rw [agrees]
  constructor
  · intro held
    exact ⟨modifier.key, (Modifier.ofKey?_eq_some_iff _ _).mpr rfl, held⟩
  · rintro ⟨key, modifies, held⟩
    rwa [(Modifier.ofKey?_eq_some_iff key modifier).mp modifies]

/-- The left shift key goes down and the right one goes up, on a surface that refuses the second
event. -/
def shifts : Schedule :=
  join ⟨.ofConfig .standard,
      .initial ((Host.prompt ⟨100, 100⟩).adjust (.refuseInjection 1 (.injection "busy"))), []⟩ 0
    (.perform [[⟨⟨"keyboard"⟩, .key, none, .keyDown "\uE008"⟩],
      [⟨⟨"keyboard"⟩, .key, none, .keyUp "\uE050"⟩]] none)

/-- Either key is the shift key: it is up while the surface has not answered, and when the answer
is a refusal, the key is held again and so is its flag. -/
theorem shifts_flag :
    (∃ keyboard : KeySource,
      (shifts.steps 5).world.inputs.store[(⟨"keyboard"⟩ : SourceId)]? = some (.key keyboard) ∧
        keyboard.isPressed "Shift" = false ∧ keyboard.modifiers.get .shift = false) ∧
    ∃ keyboard : KeySource,
      (shifts.steps 6).world.inputs.store[(⟨"keyboard"⟩ : SourceId)]? = some (.key keyboard) ∧
        keyboard.isPressed "Shift" = true ∧ keyboard.modifiers.get .shift = true := by
  have begins : Reached (.ofConfig .standard) (fun _ _ => True) (fun _ _ => True) shifts :=
    .join 0 _ (.fresh _) trivial
  have flag (n : Nat) (held : Bool)
      (answers : (shifts.steps n).world.inputs.store.held? ⟨"keyboard"⟩ (.key "Shift") =
        some held) : ∃ keyboard : KeySource,
      (shifts.steps n).world.inputs.store[(⟨"keyboard"⟩ : SourceId)]? = some (.key keyboard) ∧
        keyboard.isPressed "Shift" = held ∧ keyboard.modifiers.get .shift = held := by
    rw [Store.held?_eq] at answers
    obtain ⟨source, found, held⟩ := Option.bind_eq_some_iff.mp answers
    cases source <;> cases held
    have iff := (flag_iff_held (begins.steps (fun _ _ => trivial) n) found .shift).1
    exact ⟨_, found, rfl, Bool.eq_iff_iff.mpr iff⟩
  exact ⟨flag 5 false (by decide +kernel), flag 6 true (by decide +kernel)⟩

end Schedule

end InputActions
