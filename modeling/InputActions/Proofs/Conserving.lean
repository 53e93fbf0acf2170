import InputActions.Proofs.Chronicle
import InputActions.Proofs.Forgetting

/-!
# Pending entries are conserved

Entries come into being in one way only: a press that takes effect appends its inverse
(`Slot.step_pending`). From then on each is in the pending list or in the hands of a release, until
a release has replayed it. `Schedule.pending_conserved` accounts for all of them, whatever releases
take, fail to replay and put back in the meantime.
-/
namespace InputActions

/-! ### Sections -/

/-- The entry that an action owes from its first section on: the inverse of a press that takes
effect. A key that is down goes down once more; a button that is down stays as it is. -/
def Action.owed? (action : Action) (store : Store) : Option Action :=
  match action.gesture with
  | .keyDown _ => if store.kind? action.id = some .key then action.inverse? else none
  | .pointerDown button =>
    match store.mouse action.id with
    | .ok source => if source.isPressed button then none else action.inverse?
    | .error _ => none
  | _ => none

/-- The entry that a section of a slot appends. -/
def Slot.owed? (slot : Slot) (store : Store) : Option Action :=
  slot.action?.bind (·.owed? store)

/-- A key press owes its entry exactly if there is a keyboard to press it on. -/
private theorem owed_pressKey (inputs : Inputs) {action : Action} {value : String}
    (gesture : action.gesture = .keyDown value) :
    match inputs.pressKey action value with
    | .ok (_, _, next) =>
      next.pending.entries = inputs.pending.entries ++ (action.owed? inputs.store).toList
    | .error _ => action.owed? inputs.store = none := by
  unfold Inputs.pressKey
  cases found : inputs.store.keySource action.id with
  | error fault =>
    have other := Store.kind?_of_keySource_error found
    simp [Action.owed?, gesture, other, bind, Except.bind]
  | ok source =>
    have key : inputs.store.kind? action.id = some .key := by
      rw [Store.kind?, Store.keySource_eq_ok found]
      rfl
    simp [Action.owed?, gesture, key, Action.inverse?, Pending.record, Pending.push, bind,
      Except.bind, pure, Except.pure]

/-- A button press owes its entry exactly if there is a mouse whose button is up. -/
private theorem owed_pressButton (inputs : Inputs) {action : Action} {button : UInt32}
    (gesture : action.gesture = .pointerDown button) :
    match inputs.pressButton action button with
    | .ok (some (_, next)) =>
      next.pending.entries = inputs.pending.entries ++ (action.owed? inputs.store).toList
    | _ => action.owed? inputs.store = none := by
  unfold Inputs.pressButton
  cases found : inputs.store.mouse action.id with
  | error error => simp [Action.owed?, gesture, found, bind, Except.bind]
  | ok source =>
    cases down : source.isPressed button <;>
      simp [Action.owed?, gesture, found, down, Action.inverse?, Pending.record, Pending.push,
        bind, Except.bind, pure, Except.pure]

private theorem pending_keyDown (action : Action) {value : String} (world : World)
    (gesture : action.gesture = .keyDown value) :
    (action.beginKeyDown value world).1.inputs.pending.entries =
      world.inputs.pending.entries ++ (action.owed? world.inputs.store).toList := by
  have owed := owed_pressKey world.inputs gesture
  unfold Action.beginKeyDown
  split
  next failed =>
    rw [failed] at owed
    simp [owed]
  next pressed =>
    rw [pressed] at owed
    exact owed

private theorem pending_pointerDown (action : Action) (context : Context) {button : UInt32}
    (world : World) (gesture : action.gesture = .pointerDown button) :
    (action.beginPointerDown context button world).1.inputs.pending.entries =
      world.inputs.pending.entries ++ (action.owed? world.inputs.store).toList := by
  have owed := owed_pressButton world.inputs gesture
  unfold Action.beginPointerDown
  split
  next failed =>
    rw [failed] at owed
    simp [owed]
  next down =>
    rw [down] at owed
    simp [owed]
  next pressed =>
    rw [pressed] at owed
    -- Forgetting the last click, where it happens, leaves the inputs alone.
    dsimp only [World.request, World.inject]
    split <;> exact owed

/-- Only the first section of a press touches the pending list. -/
theorem Slot.Turn.pending_eq {before after : World} {slot next : Slot}
    (h : slot.Turn before after next)
    (idle : ∀ action, slot = .ready action → action.gesture.pressed? = none) :
    after.inputs.pending = before.inputs.pending := by
  cases h with
  | press pressed => cases (idle _ rfl).symm.trans pressed
  | lift _ _ _ _ inputs => rw [inputs]
  | pass => rfl
  | deny => rfl
  | takeBack _ _ _ _ inputs => rw [inputs]
  | lose _ _ _ inputs => rw [inputs]
  | land _ _ inputs => rw [inputs]
  | arrive _ inputs => rw [inputs]
  | still inputs => rw [inputs]

/-- A section appends what its action owes, and nothing else happens to the pending list. -/
theorem Slot.step_pending (slot : Slot) (context : Context) (duration : UInt64) (world : World) :
    (slot.step context duration world).1.inputs.pending.entries =
      world.inputs.pending.entries ++ (slot.owed? world.inputs.store).toList := by
  have turn := slot.step_turn context duration world
  cases slot with
  | settled result => exact (List.append_nil _).symm
  | waiting wake wait =>
    rw [turn.pending_eq nofun]
    exact (List.append_nil _).symm
  | ready action =>
    have owes : (Slot.ready action).owed? world.inputs.store =
        action.owed? world.inputs.store := rfl
    rw [owes]
    cases gesture : action.gesture with
    | keyDown value =>
      have owed := pending_keyDown action world gesture
      simpa only [step, Action.begin, gesture] using owed
    | pointerDown button =>
      have owed := pending_pointerDown action context world gesture
      simpa only [step, Action.begin, gesture] using owed
    | _ =>
      have none : action.owed? world.inputs.store = none := by simp only [Action.owed?, gesture]
      rw [none, Option.toList_none, List.append_nil, turn.pending_eq]
      rintro _ ⟨⟩
      rw [gesture]
      rfl

/-! ### Where entries are -/

namespace Advance

/-- The entry that a section of a call appends. -/
def owed? (advance : Advance) : Option Action :=
  advance.passage?.bind fun passage => passage.slot.owed? passage.world.inputs.store

/-- The entries that a release takes when it begins. -/
def taken (advance : Advance) : List Action :=
  match advance.activity with
  | .planned _ .release => advance.world.inputs.pending.entries
  | _ => []

/-- The entry whose replay returns ok with this section. -/
def replayed? (advance : Advance) : Option Action :=
  match advance.activity with
  | .releasing context entry slot _ =>
    match (slot.step context 0 advance.world).2 with
    | .settled (.ok ()) => some entry
    | _ => none
  | _ => none

/-- The entries that a release puts back when it fails with this section. -/
def returned (advance : Advance) : List Action :=
  match advance.activity with
  | .releasing context entry slot rest =>
    match (slot.step context 0 advance.world).2 with
    | .settled (.error _) => entry :: rest
    | _ => []
  | _ => []

variable {advance : Advance} (session : Session)

/-- What a section does to the pending list: a release takes it whole and puts back in front what it
could not replay, a press appends its entry, and everything else stays. -/
theorem flow (ready : advance.activity.isReady advance.world.now = true)
    (kept : advance.activity.isReset = false) :
    ∃ others, advance.world.inputs.pending.entries = advance.taken ++ others ∧
      (advance.after session).inputs.pending.entries =
        advance.returned ++ others ++ advance.owed?.toList := by
  obtain ⟨call, activity, world⟩ := advance
  have turn := activity.step_turn session ready
  cases activity with
  | planned instant request =>
    cases request with
    | release => exact ⟨[], (List.append_nil _).symm, rfl⟩
    | reset => cases kept
    | _ =>
      -- Any other request begins without touching what is owed.
      refine ⟨_, rfl, ?_⟩
      cases turn with
      | start grows pending =>
        rw [after, pending]
        exact (List.append_nil _).symm
  | ticking context duration slots rest =>
    refine ⟨_, rfl, ?_⟩
    rcases Activity.passage?_ticking context duration slots rest call world with
      ⟨left, slot, right, rfl, stepped, passed⟩ | ⟨idle, none⟩
    · simp only [after, owed?, passage?, Activity.step, stepped, passed]
      exact slot.step_pending context duration world
    · simp [after, owed?, passage?, Activity.step, idle, none, returned]
  | releasing context entry slot rest =>
    refine ⟨_, rfl, ?_⟩
    have owed := slot.step_pending context 0 world
    simp only [after, owed?, passage?, returned, Activity.step, Activity.passage?]
    generalize (slot.step context 0 world).1 = next at owed ⊢
    cases (slot.step context 0 world).2 with
    | settled result =>
      cases result with
      | ok => exact owed
      | error error =>
        -- The entries go back in front of all that is owed by then.
        have back := congrArg ((entry :: rest) ++ ·) owed
        simpa [Activity.afterEntry, World.withPending, Pending.restore] using back
    | _ => exact owed
  | _ => exact ⟨_, rfl, (List.append_nil _).symm⟩

/-- Nothing but a release has anything in hand. -/
private theorem hand_of_turn {before after : World} {activity next : Activity}
    (h : activity.Turn before after next) (begun : activity.hand = [])
    (other : ∀ instant, activity ≠ .planned instant .release) : next.hand = [] := by
  cases h with
  | start _ _ _ fresh => exact Activity.hand_of_isFresh fresh
  | take => exact absurd rfl (other _)
  | complete _ fresh => exact Activity.hand_of_isFresh fresh
  | replay => cases begun
  | replayed => cases begun
  | _ => rfl

/-- What a release took it has replayed, put back or still in hand. -/
theorem hands (ready : advance.activity.isReady advance.world.now = true) :
    advance.taken ++ advance.activity.hand =
      advance.replayed?.toList ++ advance.returned ++ (advance.next session).hand := by
  obtain ⟨call, activity, world⟩ := advance
  have turn := activity.step_turn session ready
  cases activity with
  | releasing context entry slot rest =>
    simp only [taken, replayed?, returned, next, Activity.step]
    cases (slot.step context 0 world).2 with
    | settled result =>
      cases result with
      | ok => exact congrArg (entry :: ·) (Activity.hand_ofEntries context _ rest).symm
      | error error => exact (List.append_nil _).symm
    | _ => rfl
  | planned instant request =>
    cases request with
    | release => exact (List.append_nil _).trans (Activity.hand_ofEntries _ _ _).symm
    | _ => exact (hand_of_turn turn rfl (by rintro _ ⟨⟩)).symm
  | _ => exact (hand_of_turn turn rfl (by rintro _ ⟨⟩)).symm

end Advance

/-! ### Histories -/

namespace Schedule

variable {session : Session} {moves : Schedule → Schedule → Prop} {start s : Schedule}
  {log : List Advance}

/-- The entries that presses have appended. -/
def owed (log : List Advance) : List Action := log.filterMap (·.owed?)

/-- The entries whose replay returned ok in some release. -/
def replayed (log : List Advance) : List Action := log.filterMap (·.replayed?)

theorem Chronicle.not_resets (h : Chronicle Remembers moves start s log) (kept : ¬ start.Resets) :
    ¬ s.Resets := by
  induction h with
  | begins => exact kept
  | join _ instant _ allowed ih => exact Remembers.not_resets allowed ih instant
  | elapse _ later _ ih => exact Moves.not_resets (.elapse later) ih
  | advance _ ready _ ih => exact Moves.not_resets (.advance ready) ih

theorem isReset_of_not_resets {world : World} {left right : List Activity} {activity : Activity}
    (kept : ¬ Resets ⟨session, world, left ++ activity :: right⟩) : activity.isReset = false := by
  simpa using fun resets => kept ⟨activity, by simp, resets⟩

/-- At every moment, what was appended is pending, in hand, or has been replayed. -/
theorem Chronicle.balance (h : Chronicle Remembers moves start s log)
    (idle : start.activities = []) (empty : start.world.inputs.pending = .empty) :
    (owed log).Perm
      (s.world.inputs.pending.entries ++ s.activities.flatMap (·.hand) ++ replayed log) := by
  have kept : ¬ start.Resets := not_resets_of_idle idle
  induction h with
  | begins => simp [owed, replayed, idle, empty, Pending.empty]
  | join before instant request _ ih => simpa [Schedule.join, Activity.hand] using ih
  | elapse _ _ _ ih => exact ih
  | @advance session world left activity right log before ready _ ih =>
    let advance : Advance := ⟨left.length, activity, world⟩
    obtain ⟨others, held, flows⟩ := advance.flow session ready
      (isReset_of_not_resets (before.not_resets kept))
    have hands := advance.hands session ready
    rw [owed, replayed, filterMap_concat, filterMap_concat]
    rw [List.perm_iff_count] at ih ⊢
    intro entry
    have counted := ih entry
    have held := congrArg (List.count entry) held
    have flows := congrArg (List.count entry) flows
    have hands := congrArg (List.count entry) hands
    simp only [owed, replayed, List.flatMap_append, List.flatMap_cons, List.count_append,
      Advance.after, Advance.next, advance] at counted held flows hands ⊢
    omega

/-- At every moment, what a release took it has replayed, put back or still in hand. -/
theorem Chronicle.release_balance {joins : Schedule → Request → Prop}
    (h : Chronicle joins moves start s log) (idle : start.activities = []) (call : Nat) :
    let own := log.filter (·.call = call)
    (own.flatMap (·.taken)).Perm (replayed own ++ own.flatMap (·.returned) ++ s.hand call) := by
  induction h with
  | begins => simp [replayed, Schedule.hand, idle]
  | join before instant request _ ih =>
    rw [hand_join]
    exact ih
  | elapse _ _ _ ih => exact ih
  | @advance session world left activity right log before ready _ ih =>
    let advance : Advance := ⟨left.length, activity, world⟩
    have hands := advance.hands session ready
    intro own
    by_cases here : left.length = call
    · have own_eq : own = log.filter (·.call = call) ++ [advance] := by
        simp [own, advance, here]
      have was : hand ⟨session, world, left ++ activity :: right⟩ call = activity.hand :=
        hand_of_getElem? (by simp [← here])
      have is : hand ⟨session, (activity.step session world).1,
          left ++ (activity.step session world).2 :: right⟩ call = (advance.next session).hand :=
        hand_of_getElem? (by simp [← here, advance, Advance.next])
      rw [was] at ih
      rw [is, own_eq, replayed, filterMap_concat]
      rw [List.perm_iff_count] at ih ⊢
      intro entry
      have counted := ih entry
      have hands := congrArg (List.count entry) hands
      simp only [replayed, List.flatMap_append, List.flatMap_singleton, List.count_append,
        advance] at counted hands ⊢
      omega
    · have own_eq : own = log.filter (·.call = call) := by simp [own, here]
      have same : hand ⟨session, (activity.step session world).1,
          left ++ (activity.step session world).2 :: right⟩ call =
            hand ⟨session, world, left ++ activity :: right⟩ call := by
        simp only [hand, getElem?_replaced here activity]
      rw [own_eq, same]
      exact ih

/-- Pending entries are conserved. On a fresh session that is never reset, whatever runs together
and however the surface answers, a section changes the pending list as `Advance.flow` says: a press
that takes effect appends its inverse, and releases take the list and put back what they could not
replay. What a release took it has replayed, put back or still in hand. So once everything has
settled, the entries that were appended are those that are pending and those that some release has
replayed, each as often as it was appended. -/
theorem pending_conserved {host : Host}
    (h : Chronicle Remembers moves ⟨session, .initial host, []⟩ s log) :
    (∀ advance ∈ log, ∃ others, advance.world.inputs.pending.entries = advance.taken ++ others ∧
      (advance.after session).inputs.pending.entries =
        advance.returned ++ others ++ advance.owed?.toList) ∧
    (∀ call, let own := log.filter (·.call = call)
      (own.flatMap (·.taken)).Perm (replayed own ++ own.flatMap (·.returned) ++ s.hand call)) ∧
    (s.isFinished = true → (owed log).Perm (s.world.inputs.pending.entries ++ replayed log)) := by
  have kept : ¬ Resets ⟨session, .initial host, []⟩ := not_resets_of_idle rfl
  refine ⟨fun advance member => ?_, h.release_balance rfl, fun finished => ?_⟩
  · obtain ⟨early, late, rfl⟩ := List.append_of_mem member
    obtain ⟨left, right, before, -, ready⟩ := h.before
    exact advance.flow session ready (isReset_of_not_resets (before.not_resets kept))
  · have none : s.activities.flatMap (·.hand) = [] := by
      refine List.flatMap_eq_nil_iff.mpr fun activity listed => ?_
      have answered := List.all_eq_true.mp finished activity listed
      cases activity <;> first | rfl | exact absurd answered Bool.false_ne_true
    have balance := h.balance rfl rfl
    rwa [none, List.append_nil] at balance

/-- A surface that takes five milliseconds for each event, and refuses the third. -/
def balks : Host :=
  { Host.prompt ⟨100, 100⟩ with
    injectionDelay := fun _ _ => 5
    injectionRefusal := fun tally _ =>
      if tally.injections = 2 then some (.injection "busy") else none }

/-- A press of buttons of a mouse. -/
def clicking (buttons : List UInt32) : Request :=
  .perform [buttons.map fun button => ⟨⟨"m"⟩, .pointer, none, .pointerDown button⟩] none

/-- Two buttons are pressed. A release fails to lift the first of them; in the meantime a third
button is pressed and another release lifts that one. A last release lifts the two. -/
def contends : Schedule :=
  let fresh : Schedule := ⟨.ofConfig .standard, .initial balks, []⟩
  ((((fresh.join 0 (clicking [0, 1])).join 6 .release).join 7 (clicking [3])).join 8 .release).join
    20 .release

/-- The third button is replayed by the release that took it, and the other two by the last one,
after the first had put them back. -/
theorem contends_conserved :
    let log := contends.annals 31
    let done := contends.steps 31
    Chronicle Remembers (fun _ _ => True) ⟨.ofConfig .standard, .initial balks, []⟩ done log ∧
      done.isFinished = true ∧
      (owed log).Perm (done.world.inputs.pending.entries ++ replayed log) ∧
      (replayed log).map (·.gesture) = [.pointerUp 3, .pointerUp 0, .pointerUp 1] := by
  intro log done
  have begun : Chronicle Remembers (fun _ _ => True) ⟨.ofConfig .standard, .initial balks, []⟩
      contends [] :=
    ((((Chronicle.begins.join 0 _ rfl).join 6 _ rfl).join 7 _ rfl).join 8 _ rfl).join 20 _ rfl
  have chronicle := begun.steps (fun _ _ => trivial) 31
  rw [List.nil_append] at chronicle
  have finished : done.isFinished = true := by decide +kernel
  exact ⟨chronicle, finished, (pending_conserved chronicle).2.2 finished, by decide +kernel⟩

end Schedule

end InputActions
