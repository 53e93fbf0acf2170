import InputActions.Proofs.Asking
import InputActions.Proofs.Forgetting
import Mathlib.Combinatorics.Colex

/-!
# Mouse events tell the truth

A mouse event is put together from the states of several sources. `Schedule.mouse_tells_truth` says
that it agrees with the store at the instant at which it is injected, in every history of a session,
and that the menu that a click opens repeats the click once the surface has accepted it.
-/
namespace InputActions

/-! ### Flags and buttons -/

/-- A flag is set for all keyboards together exactly if it is set for one of them, in whichever
order they come. -/
theorem Store.get_modifiers (store : Store) (modifier : Modifier) :
    store.modifiers.get modifier = true ↔
      ∃ (id : SourceId) (keys : KeySource), store[id]? = some (.key keys) ∧
        keys.modifiers.get modifier = true := by
  -- The fold has to start from any flags, since the induction hypothesis is about its rest.
  have gathered {add : Modifiers → SourceId × Source → Modifiers}
      (adds : ∀ flags entry, (add flags entry).get modifier = true ↔ flags.get modifier = true ∨
        ∃ keys, entry.2 = .key keys ∧ keys.modifiers.get modifier = true)
      (entries : List (SourceId × Source)) (flags : Modifiers) :
      (entries.foldl add flags).get modifier = true ↔ flags.get modifier = true ∨
        ∃ id keys, (id, Source.key keys) ∈ entries ∧ keys.modifiers.get modifier = true := by
    induction entries generalizing flags with
    | nil => simp
    | cons entry entries ih =>
      obtain ⟨id, source⟩ := entry
      rw [List.foldl_cons, ih, adds]
      cases source with
      | key keys => simp [or_assoc, or_and_right, exists_or]
      | _ => simp
  refine (gathered (fun flags entry => ?_) store.toList .none).trans ?_
  · obtain ⟨id, source⟩ := entry
    cases source with
    | key keys => simp [Source.key?, Modifiers.get_union]
    | _ => simp [Source.key?]
  · simp [Std.ExtTreeMap.mem_toList_iff_getElem?_eq_some]

namespace PointerSource

variable (s : PointerSource)

theorem testBit_buttonMask (b : Nat) :
    s.buttonMask.testBit b = (decide (b < 32) && s.isPressed (.ofNat b)) := by
  have gathered (buttons : List UInt32) (mask : Nat) :
      (buttons.foldl (fun mask button => mask ||| Nat.pow 2 button.toNat) mask).testBit b =
        (mask.testBit b || buttons.any fun button => button.toNat = b) := by
    induction buttons generalizing mask with
    | nil => simp
    | cons button buttons ih =>
      have bit : (Nat.pow 2 button.toNat).testBit b = decide (button.toNat = b) :=
        Nat.testBit_two_pow
      rw [List.foldl_cons, ih, Nat.testBit_or, bit, List.any_cons, Bool.or_assoc]
  rw [buttonMask, gathered, Nat.zero_testBit, Bool.false_or, Bool.eq_iff_iff, isPressed]
  simp only [List.any_eq_true, List.mem_filter, Std.ExtTreeSet.mem_toList, decide_eq_true_eq,
    Bool.and_eq_true, Std.ExtTreeSet.contains_iff_mem]
  constructor
  · rintro ⟨button, ⟨held, small⟩, rfl⟩
    exact ⟨UInt32.lt_iff_toNat_lt.mp small, by rwa [UInt32.ofNat_toNat]⟩
  · rintro ⟨small, held⟩
    have number : (UInt32.ofNat b).toNat = b :=
      UInt32.toNat_ofNat_of_lt (Nat.lt_trans small (by decide))
    exact ⟨.ofNat b, ⟨held, UInt32.lt_iff_toNat_lt.mpr (by rwa [number])⟩, number⟩

/-- The mask of a mouse adds up the bits of the buttons below 32 that are held. -/
theorem buttonMask_eq_sum :
    s.buttonMask =
      ∑ b ∈ Finset.range 32, if s.isPressed (.ofNat b) then 2 ^ b else 0 := by
  have bits : s.buttonMask.bitIndices.toFinset =
      (Finset.range 32).filter fun b => s.isPressed (.ofNat b) = true := by
    ext b
    simp [testBit_buttonMask]
  rw [← Finset.sum_filter, ← bits, Finset.sum_toFinset_bitIndices_two_pow]

end PointerSource

/-- A mouse event that is true of the sources in a store: its flags are those that some keyboard
has, its buttons those that its own mouse holds, and a press or lift happens where the mouse is. -/
structure MouseEvent.Shows (event : MouseEvent) (store : Store) (id : SourceId) : Prop where
  flags : ∀ modifier, event.modifiers.get modifier = true ↔
    ∃ (name : SourceId) (keys : KeySource), store[name]? = some (.key keys) ∧
      keys.modifiers.get modifier = true
  mouse : ∃ source, store[id]? = some (.pointer source) ∧
    event.buttons = ∑ b ∈ Finset.range 32, (if source.isPressed (.ofNat b) then 2 ^ b else 0) ∧
    (event.kind = .mousedown ∨ event.kind = .mouseup → event.position = source.position)

theorem MouseEvent.Reflects.shows {event : MouseEvent} {store : Store} {id : SourceId}
    (h : event.Reflects store id) : event.Shows store id where
  flags modifier := by rw [h.modifiers, Store.get_modifiers]
  mouse := by
    obtain ⟨source, found, mask, position⟩ := h.source
    refine ⟨source, (Store.mouse_eq_ok found).1, ?_, ?_⟩
    · rw [mask, PointerSource.buttonMask_eq_sum]
    · rintro (down | up)
      · exact position (by rw [down]; nofun)
      · exact position (by rw [up]; nofun)

/-! ### Menus -/

/-- A menu that opens with a section repeats a click. An earlier section of the same action told the
surface of the click, which the menu equals but for the kind of event, and the surface accepted it.
The answer to the click is noted in the section that opens the menu. -/
def Advance.RepeatsClick (advance : Advance) (session : Session) (early : List Advance)
    (id : SourceId) (menu : MouseEvent) : Prop :=
  ∃ passage click press, advance.passage? = some passage ∧
    click ∈ Schedule.trail early ∧ click.spot = passage.spot ∧ click.told = [press] ∧
    press.source = id ∧ press.event = .mouse { menu with kind := .mousedown } ∧
    press.refusal = none ∧
    (advance.after session).host.answered =
      advance.world.host.answered ++ [click.world.host.tally.injections]

namespace Schedule

variable {session : Session} {joins : Schedule → Request → Prop}
  {moves : Schedule → Schedule → Prop} {start s : Schedule} {log early late : List Advance}
  {advance : Advance}

/-- A menu only opens when a click of its action has been accepted, and shows the same. -/
theorem Chronicle.repeatsClick (h : Chronicle joins moves start s (early ++ advance :: late))
    (idle : start.activities = []) {passage : Passage} (passes : advance.passage? = some passage)
    {wake : Nat} {id : SourceId} {click : MouseEvent} {opens : Bool} {verdict : Verdict}
    (clicked : passage.slot = .waiting wake (.mousedown id click opens verdict))
    (accepted : verdict.refusal = none) :
    advance.RepeatsClick session early id { click with kind := .contextmenu } := by
  obtain ⟨earlier, member, here, left⟩ := h.awaited idle passes clicked
  obtain ⟨press, told, expects⟩ := Passage.told_of_verdict? left rfl
  obtain ⟨source, event, down⟩ := expects.click id click rfl
  have verdict_eq := Option.some.inj expects.verdict
  refine ⟨passage, earlier, press, passes, member, here, told, source, ?_, ?_, ?_⟩
  · rw [event, ← down]
  · rw [← accepted, verdict_eq]
  · obtain ⟨-, host, world, -⟩ := Activity.step_of_passage passes session
    rw [Advance.after, host, passage.answered_after, clicked, ← world, verdict_eq]
    rfl

/-- Mouse events tell the truth. In every history of a session, whatever runs together, the journal
consists of what the sections told. A press, lift or move that a section tells agrees with the store
as it is then: its flags are those of all keyboards together, its buttons are those that its own
mouse holds after the press or lift, and a press or lift happens where the mouse is. A menu equals
the click of its action, and opens only after the surface has accepted that. -/
theorem mouse_tells_truth (h : Chronicle joins moves start s log)
    (idle : start.activities = []) :
    s.world.host.journal = start.world.host.journal ++ log.flatMap (·.told start.session) ∧
      ∀ early advance late, log = early ++ advance :: late →
        ∀ injection ∈ advance.told start.session, ∀ event, injection.event = .mouse event →
          if event.kind = .contextmenu then
            advance.RepeatsClick start.session early injection.source event
          else event.Shows (advance.after start.session).inputs.store injection.source := by
  refine ⟨h.journal, ?_⟩
  rintro early advance late rfl injection told event mouse
  -- Only a section of an action tells the surface anything.
  cases passes : advance.passage? with
  | none =>
    rw [Advance.told_of_none passes] at told
    exact absurd told List.not_mem_nil
  | some passage =>
    rw [Advance.told_of_passage passes] at told
    cases Passage.tells told with
    | key key => cases key.symm.trans mouse
    | mouse told kind reflects =>
      cases told.symm.trans mouse
      obtain ⟨store, -⟩ := Activity.step_of_passage passes start.session
      rw [if_neg kind, Advance.after, store]
      exact reflects.shows
    | menu clicked accepted told =>
      cases told.symm.trans mouse
      rw [if_pos rfl]
      exact h.repeatsClick idle passes clicked accepted

/-- The secondary button goes down together with Shift. Another call presses Control while the
surface has yet to answer the click. -/
def opensMenu : Schedule :=
  let press (name value : String) : Action := ⟨⟨name⟩, .key, none, .keyDown value⟩
  let click : Action := ⟨⟨"m"⟩, .pointer, none, .pointerDown Action.secondaryButton⟩
  let fresh : Schedule := ⟨.ofConfig .standard, .initial slow, []⟩
  (fresh.join 0 (.perform [[press "left" "\ue008", click]] none)).join 2
    (.perform [[press "right" "\ue009"]] none)

/-- The menu repeats the click: it shows Shift, and not the Control that is down when it opens. -/
theorem opensMenu_tells_truth :
    let log := opensMenu.annals 15
    let done := opensMenu.steps 15
    let shift : Modifiers := ⟨false, true, false, false⟩
    let menu : MouseEvent := ⟨.contextmenu, .origin, Action.secondaryButton, 4, 1, shift⟩
    Chronicle (fun _ _ => True) (fun _ _ => True)
        ⟨.ofConfig .standard, .initial slow, []⟩ done log ∧
      done.world.inputs.store.modifiers = ⟨false, true, true, false⟩ ∧
      ∃ early advance late, log = early ++ advance :: late ∧
        advance.told (.ofConfig .standard) = [⟨5, ⟨"m"⟩, .mouse menu, none⟩] ∧
        advance.RepeatsClick (.ofConfig .standard) early ⟨"m"⟩ menu := by
  intro log done shift menu
  have begun : Chronicle (fun _ _ => True) (fun _ _ => True)
      ⟨.ofConfig .standard, .initial slow, []⟩ opensMenu [] :=
    (Chronicle.begins.join 0 _ trivial).join 2 _ trivial
  have chronicle := begun.steps (fun _ _ => trivial) 15
  rw [List.nil_append] at chronicle
  refine ⟨chronicle, by decide +kernel, ?_⟩
  have opens : log[6]?.map (·.told (.ofConfig .standard)) =
      some [⟨5, ⟨"m"⟩, .mouse menu, none⟩] := by
    decide +kernel
  obtain ⟨advance, found, told⟩ := Option.map_eq_some_iff.mp opens
  obtain ⟨early, late, split⟩ := List.append_of_mem (List.mem_of_getElem? found)
  refine ⟨early, advance, late, split, told, ?_⟩
  exact (mouse_tells_truth chronicle rfl).2 early advance late split ⟨5, ⟨"m"⟩, .mouse menu, none⟩
    (by rw [told]; exact List.mem_cons_self) menu rfl

end Schedule

end InputActions
