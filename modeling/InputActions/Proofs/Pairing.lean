import InputActions.Proofs.Accord

/-!
# What stays pressed on the surface

A session knows keys by their normalized values and buttons by the numbers that were asked for; the
surface sees the codes of physical keys, and the secondary button for a click with the control key
on a Mac. So a press and the lift that undoes it may name different keys or buttons, and only then
can the last event about a key or a button be a press after everything was released
(`Schedule.released_unless_renamed`).
-/
namespace InputActions

/-! ### Codes -/

namespace Key

/-- A value that shift changes is a small letter, or the plain character of a printable key. -/
private theorem shifted_cases (value : String) : shifted value = value ∨
    (∃ c : Char, c.isLower = true ∧ value = String.singleton c ∧
      shifted value = String.singleton c.toUpper) ∨
    ∃ key ∈ printableKeys, value = String.singleton key.plain ∧
      shifted value = String.singleton key.shifted := by
  unfold shifted
  split
  · exact Or.inl rfl
  next c single =>
    have whole : value = String.singleton c := by
      unfold single? at single
      split at single <;> cases single
      next list => exact String.toList_injective (by simp [list])
    split
    next lower => exact Or.inr (Or.inl ⟨c, lower, whole, rfl⟩)
    · split
      next key found =>
        have plain : key.plain = c := by simpa using List.find?_some found
        exact Or.inr (Or.inr ⟨key, List.mem_of_find?_eq_some found, plain ▸ whole, rfl⟩)
      · exact Or.inl rfl

/-- Shift changes what a key types, and neither which key it is nor whether it types anything. -/
theorem data_shifted (value : String) : (data (shifted value)).code = (data value).code ∧
    (data (shifted value)).location = (data value).location ∧
    (data (shifted value)).printable = (data value).printable := by
  have letters : ∀ n ∈ List.range' 97 26,
      let upper := data (String.singleton (Char.ofNat n).toUpper)
      let lower := data (String.singleton (Char.ofNat n))
      upper.code = lower.code ∧ upper.location = lower.location ∧
        upper.printable = lower.printable := by
    decide +kernel
  have others : ∀ key ∈ printableKeys,
      let upper := data (String.singleton key.shifted)
      let lower := data (String.singleton key.plain)
      upper.code = lower.code ∧ upper.location = lower.location ∧
        upper.printable = lower.printable := by
    decide +kernel
  rcases shifted_cases value with same | ⟨c, lower, rfl, upper⟩ | ⟨key, listed, rfl, upper⟩
  · rw [same]
    exact ⟨rfl, rfl, rfl⟩
  · have bounds : 97 ≤ c.toNat ∧ c.toNat ≤ 122 := by
      unfold Char.isLower at lower
      simpa [UInt32.le_iff_toNat_le, ← Char.toNat_val] using lower
    have letter := letters c.toNat (List.mem_range'_1.mpr ⟨bounds.1, by omega⟩)
    rw [Char.ofNat_toNat] at letter
    rw [upper]
    exact letter
  · rw [upper]
    exact others key listed

/-- Whether every value that is held under the same name as one with this code has it too. The codes
of keys that stand twice on a keyboard are not of this sort. -/
def Single (code : String) : Prop :=
  ∀ value other, normalized value = normalized other → (data value).code = code →
    (data other).code = code

theorem special_cases (value : String) : (∃ key ∈ specialKeys,
    normalized value = key.name ∧ (data value).code = key.code) ∨ normalized value = value := by
  unfold normalized data
  cases found : special? value with
  | some key =>
    obtain ⟨c, -, find⟩ := Option.bind_eq_some_iff.mp found
    exact Or.inl ⟨key, List.mem_of_find?_eq_some find, rfl, rfl⟩
  | none => exact Or.inr rfl

/-- The table of special keys alone decides whether a code is the only one of its name. -/
theorem single_iff (code : String) : Single code ↔ ∀ key ∈ specialKeys,
    (key.code = code → ∀ other ∈ specialKeys, key.name = other.name → other.code = code) ∧
      (key.code = code ↔ (data key.name).code = code) := by
  have rows : ∀ key ∈ specialKeys,
      normalized (String.singleton key.character) = key.name ∧
        (data (String.singleton key.character)).code = key.code ∧
        normalized key.name = key.name := by
    decide +kernel
  constructor
  · intro single key listed
    obtain ⟨name, physical, same⟩ := rows key listed
    refine ⟨fun has other listed' equal => ?_, fun has => ?_, fun has => ?_⟩
    · obtain ⟨name', physical', -⟩ := rows other listed'
      exact physical' ▸ single _ _ (name.trans (equal.trans name'.symm)) (physical.trans has)
    · exact single _ _ (name.trans same.symm) (physical.trans has)
    · exact physical ▸ single _ _ (same.trans name.symm) has
  · intro table value other equal has
    -- Each of the two values is that of a special key, or stands for itself.
    rcases special_cases value with ⟨key, listed, name, physical⟩ | plain <;>
      rcases special_cases other with ⟨key', listed', name', physical'⟩ | plain'
    · rw [physical'] at *
      exact (table key listed).1 (physical.symm.trans has) key' listed'
        (name.symm.trans (equal.trans name'))
    · have other_eq : other = key.name := plain'.symm.trans (equal.symm.trans name)
      rw [other_eq]
      exact (table key listed).2.mp (physical.symm.trans has)
    · have value_eq : value = key'.name := plain.symm.trans (equal.trans name')
      rw [physical']
      exact (table key' listed').2.mpr (value_eq ▸ has)
    · rw [← plain', ← equal, plain]
      exact has

instance (code : String) : Decidable (Single code) := decidable_of_iff' _ (single_iff code)

example : Single "KeyA" ∧ ¬ Single "ShiftRight" ∧ ¬ Single "Digit1" := by decide +kernel

end Key

/-- An event that names a value names the physical key of that value. -/
theorem KeyEvent.Names.code {event : KeyEvent} {value : String} (h : event.Names value) :
    event.code = (Key.data value).code := by
  obtain ⟨shift, data, rfl, -, code, -⟩ := h
  rw [code]
  split
  · exact (Key.data_shifted value).1
  · rfl

/-! ### The last event -/

namespace Event

/-- The physical key that went down or up. -/
def code? : Event → Option String
  | .key event => if event.kind = .keypress then none else some event.code
  | .mouse _ => none

/-- The button that went down or up. -/
def button? : Event → Option UInt32
  | .key _ => none
  | .mouse event =>
    if event.kind = .mousedown || event.kind = .mouseup then some event.button else none

theorem presses_of_lifts {event : Event} (lifts : event.lifts = true) : ¬ event.presses = true := by
  cases event <;> simp_all [presses, Event.lifts]

end Event

namespace Notice

/-- Whether one event of a history is the last that satisfies a condition, some others coming
later. -/
def IsLast (condition : Event → Prop) (last : Notice) (late log : List Notice) : Prop :=
  ∃ early, log = early ++ last :: late ∧ condition last.injection.event ∧
    ∀ notice ∈ late, ¬ condition notice.injection.event

/-- Whether an event lifts what another one pressed. -/
def Undoes (lift press : Notice) : Prop :=
  ∃ lifter action trigger, lift.action = some lifter ∧ press.action = some action ∧
    lifter.id = action.id ∧ lifter.gesture.lifted? = some trigger ∧
    action.gesture.pressed? = some trigger

variable {id : SourceId} {trigger : Trigger} {early late log : List Notice}

/-- A press that is not down any more was lifted later. -/
theorem exists_lift {press : Notice} (up : isDown (early ++ press :: late) id trigger = false)
    (accepted : press.accepted = true) (about : press.about id trigger = true)
    (presses : press.injection.event.presses = true) :
    ∃ lift ∈ late, lift.about id trigger = true ∧ lift.injection.event.presses = false := by
  by_contra none
  let kept := late.filter fun notice => notice.accepted && notice.about id trigger
  obtain ⟨last, found⟩ : ∃ last, (press :: kept).getLast? = some last :=
    ⟨_, List.getLast?_eq_some_getLast (List.cons_ne_nil press kept)⟩
  -- Every event about the trigger from the press on is a press, so the last one is.
  have down : last.injection.event.presses = true := by
    rcases List.mem_cons.mp (List.mem_of_getLast? found) with rfl | later
    · exact presses
    · obtain ⟨member, is⟩ := List.mem_filter.mp later
      by_contra lifts
      exact none ⟨last, member, (Bool.and_eq_true _ _ ▸ is).2, by simpa using lifts⟩
  have whole : isDown (early ++ press :: late) id trigger = last.injection.event.presses := by
    have first : (press.accepted && press.about id trigger) = true := by
      rw [accepted, about, Bool.and_self]
    simp only [isDown, List.filter_append, List.filter_cons, first, if_true, List.getLast?_append]
    rw [found]
    rfl
  rw [whole, down] at up
  cases up

theorem gesture_of_about {notice : Notice} (about : notice.about id trigger = true) :
    notice.injection.source = id ∧
      ∃ action, notice.action = some action ∧ action.gesture.trigger? = some trigger := by
  simpa [Notice.about, Option.bind_eq_some_iff] using about

/-- A notice about a trigger that is not a press is a lift of it. -/
theorem undoes_of_about {platform : Platform} {press lift : Notice} {action : Action}
    (meant : press.action = some action) (pressed : action.gesture.pressed? = some trigger)
    (faithful : lift.Faithful platform) (about : lift.about action.id trigger = true)
    (lifts : lift.injection.event.presses = false) : lift.Undoes press := by
  obtain ⟨source, lifter, is, trigger'⟩ := gesture_of_about about
  rw [Faithful, is] at faithful
  obtain ⟨named, tells⟩ := faithful
  refine ⟨lifter, action, trigger, is, meant, named.symm.trans source, ?_, pressed⟩
  have none : lifter.gesture.pressed? = none := by
    by_contra some
    cases lifts.symm.trans (tells.presses_iff.mpr some)
  rwa [Gesture.trigger?, none, Option.none_or] at trigger'

theorem exists_isLast {condition : Event → Prop} [DecidablePred condition] {held : Bool}
    (h : ((log.filter fun notice => condition notice.injection.event).getLast?.map
      (·.injection.event.presses)) = some held) :
    ∃ last late, IsLast condition last late log ∧ last.injection.event.presses = held := by
  obtain ⟨last, found, rfl⟩ := Option.map_eq_some_iff.mp h
  obtain ⟨before, split⟩ := List.getLast?_eq_some_iff.mp found
  obtain ⟨early, late, rfl, -, rest⟩ := List.filter_eq_append_iff.mp split
  obtain ⟨skipped, after, rfl, none, holds, ends⟩ := List.filter_eq_cons_iff.mp rest
  refine ⟨last, after, ⟨early ++ skipped, by simp, of_decide_eq_true holds, ?_⟩, rfl⟩
  exact fun notice member => by simpa using List.filter_eq_nil_iff.mp ends notice member

/-- What the surface sees of a press and of a lift that undoes it: two keys held under one name, or
the same button unless the press was a click with the control key on a Mac. -/
theorem Undoes.events {platform : Platform} {lift press : Notice} (h : lift.Undoes press)
    (lifts : lift.Faithful platform) (presses : press.Faithful platform) :
    (∃ pressed lifted value other, press.injection.event = .key pressed ∧
      lift.injection.event = .key lifted ∧ lifted.kind = .keyup ∧ pressed.Names value ∧
      lifted.Names other ∧ Key.normalized value = Key.normalized other) ∨
    ∃ pressed lifted, press.injection.event = .mouse pressed ∧
      lift.injection.event = .mouse lifted ∧ lifted.kind = .mouseup ∧
      pressed.button = if pressed.modifiers.ctrl && platform = .mac then Action.secondaryButton
        else lifted.button := by
  obtain ⟨lifter, action, trigger, isLift, isPress, -, lifted, pressed⟩ := h
  rw [Faithful, isLift] at lifts
  rw [Faithful, isPress] at presses
  obtain ⟨-, lifts⟩ := lifts
  obtain ⟨-, presses⟩ := presses
  generalize lifter.gesture = lifterGesture at lifts lifted
  generalize action.gesture = gesture at presses pressed
  generalize press.injection.event = event at presses
  generalize lift.injection.event = event' at lifts
  cases presses with
  | keyDown _ names =>
    cases pressed
    cases lifts with
    | keyUp kind names' =>
      refine Or.inl ⟨_, _, _, _, rfl, rfl, kind, names, names', ?_⟩
      simpa [Gesture.lifted?, eq_comm] using lifted
    | _ => cases lifted
  | pointerDown _ named =>
    cases pressed
    cases lifts with
    | pointerUp kind named' =>
      refine Or.inr ⟨_, _, rfl, rfl, kind, ?_⟩
      cases lifted
      rw [named, named']
    | _ => cases lifted
  | _ => cases pressed

section
variable {platform : Platform} {last : Notice}
  (faithful : ∀ notice ∈ log, notice.Faithful platform)
  (accepted : ∀ notice ∈ log, notice.accepted = true)
  (up : ∀ id trigger, isDown log id trigger = false)
include faithful accepted up

/-- If nothing is down, every press is undone later. -/
theorem exists_undoes (whole : log = early ++ last :: late)
    (presses : last.injection.event.presses = true) : ∃ lift ∈ late, lift.Undoes last := by
  have told := faithful last (by simp [whole])
  cases meant : last.action with
  | none =>
    rw [Faithful, meant] at told
    cases told.1.symm.trans presses
  | some action =>
    rw [Faithful, meant] at told
    obtain ⟨trigger, pressed⟩ := Option.ne_none_iff_exists'.mp (told.2.presses_iff.mp presses)
    have about : last.about action.id trigger = true := by
      simp [Notice.about, meant, told.1, Gesture.trigger?_of_pressed pressed]
    obtain ⟨lift, later, same, lifts⟩ := exists_lift (whole ▸ up action.id trigger)
      (accepted last (by simp [whole])) about presses
    exact ⟨lift, later, undoes_of_about meant pressed (faithful lift (by simp [whole, later])) same
      lifts⟩

/-- If nothing is down, the last event of a key is its lift, or the press was undone by a lift of
another physical key of the same name. -/
theorem IsLast.key {code : String} (h : IsLast (·.code? = some code) last late log) :
    last.injection.event.lifts = true ∨
      (∃ lift ∈ late, lift.Undoes last) ∧ ¬ Key.Single code := by
  obtain ⟨early, whole, has, after⟩ := h
  cases event : last.injection.event with
  | mouse event' =>
    rw [event] at has
    cases has
  | key pressed =>
    rw [event, Event.code?] at has
    split at has
    · cases has
    next other =>
      cases kind : pressed.kind with
      | keypress => exact absurd kind other
      | keyup => exact Or.inl (by simp [Event.lifts, kind])
      | keydown =>
        have presses : last.injection.event.presses = true := by simp [event, Event.presses, kind]
        obtain ⟨lift, later, undoes⟩ := exists_undoes faithful accepted up whole presses
        refine Or.inr ⟨⟨lift, later, undoes⟩, fun single => after lift later ?_⟩
        -- With one code for all values of the name, the lift would have named this key.
        rcases undoes.events (faithful lift (by simp [whole, later]))
          (faithful last (by simp [whole])) with
          ⟨_, lifted, value, other, same, told, up, names, names', normalized⟩ | ⟨_, _, same, -⟩
        · cases event.symm.trans same
          have shown : lifted.kind ≠ .keypress := by simp [up]
          rw [names.code, Option.some.injEq] at has
          rw [told, Event.code?, if_neg shown, names'.code, single value other normalized has]
        · cases event.symm.trans same

/-- If nothing is down, the last event of a button is its lift, or the press was a click with the
control key on a Mac, and the button that was asked for was lifted. -/
theorem IsLast.button {button : UInt32} (h : IsLast (·.button? = some button) last late log) :
    last.injection.event.lifts = true ∨
      (∃ lift ∈ late, lift.Undoes last) ∧ platform = .mac ∧ button = Action.secondaryButton ∧
        ∃ event, last.injection.event = .mouse event ∧ event.modifiers.ctrl = true := by
  obtain ⟨early, whole, has, after⟩ := h
  cases event : last.injection.event with
  | key event' =>
    rw [event] at has
    cases has
  | mouse pressed =>
    rw [event, Event.button?] at has
    split at has
    next both =>
      simp only [Option.some.injEq] at has
      cases kind : pressed.kind with
      | mousemove => simp [kind] at both
      | contextmenu => simp [kind] at both
      | mouseup => exact Or.inl (by simp [Event.lifts, kind])
      | mousedown =>
        have presses : last.injection.event.presses = true := by simp [event, Event.presses, kind]
        obtain ⟨lift, later, undoes⟩ := exists_undoes faithful accepted up whole presses
        rcases undoes.events (faithful lift (by simp [whole, later]))
          (faithful last (by simp [whole])) with ⟨_, _, _, _, same, -⟩ |
          ⟨_, lifted, same, told, up, named⟩
        · cases event.symm.trans same
        · cases event.symm.trans same
          split at named
          next remapped =>
            simp only [Bool.and_eq_true, decide_eq_true_eq] at remapped
            exact Or.inr ⟨⟨lift, later, undoes⟩, remapped.2, has.symm.trans named, pressed, rfl,
              remapped.1⟩
          -- Otherwise the lift names the same button, and would be the last event of it.
          · have seen : lift.injection.event.button? = some lifted.button := by
              simp [told, Event.button?, up]
            exact absurd (seen.trans (by rw [← named, has])) (after lift later)
    · cases has

end

end Notice

/-! ### Releases -/

/-- The last section of a release that answers ok tells the surface nothing. -/
theorem Activity.Alone.silent_of_ok {activity : Activity} {world : World} {time : Nat}
    (h : activity.Alone world) (session : Session) (release : activity.isRelease = true)
    (answered : (activity.step session world).2 = .finished time (.result (.ok ()))) :
    activity.notices session world = [] := by
  apply notices_of_silent
  cases activity with
  | planned start request =>
    cases request with
    | release => rfl
    | _ => cases release
  | releasing context entry slot rest =>
    obtain ⟨trigger, replay⟩ := h.replay
    unfold Activity.step at answered ⊢
    dsimp only at answered ⊢
    generalize (slot.step context 0 world).1 = after at replay answered ⊢
    generalize (slot.step context 0 world).2 = next at replay answered ⊢
    cases replay with
    | lift => cases answered
    | pass => rfl
    | land _ _ _ journal => exact journal
    | takeBack => cases answered
  | _ => cases release

namespace Schedule

variable {session : Session} {host : Host} {moves : Schedule → Schedule → Prop}
  {start s : Schedule} {log : List Notice}

theorem Unfolds.mono {joins joins' : Schedule → Request → Prop}
    {moves' : Schedule → Schedule → Prop} (h : Unfolds joins moves start s log)
    (join : ∀ s request, joins s request → joins' s request)
    (move : ∀ s next, moves s next → moves' s next) : Unfolds joins' moves' start s log := by
  induction h with
  | begins => exact .begins
  | join _ instant request allowed ih => exact ih.join instant request (join _ _ allowed)
  | elapse _ later allowed ih => exact ih.elapse later (move _ _ allowed)
  | advance _ ready allowed ih => exact ih.advance ready (move _ _ allowed)

/-- While a call is in progress, nothing else is. -/
theorem Sequential.others {world : World} {left right : List Activity} {activity : Activity}
    (h : Sequential ⟨session, world, left ++ activity :: right⟩)
    (isCall : activity.isCall = true) : ∀ other ∈ left ++ right, other.isCall = false := by
  obtain ⟨call, only, -⟩ := h
  rw [List.filter_append, List.filter_cons_of_pos isCall] at only
  cases callIs : call.isCall with
  | false => simp [callIs] at only
  | true =>
    obtain ⟨before, -, after⟩ : left.filter (·.isCall) = [] ∧ activity = call ∧
        right.filter (·.isCall) = [] := by
      simpa [callIs, List.append_eq_cons_iff] using only
    intro other listed
    rcases List.mem_append.mp listed with earlier | later
    · simpa using List.filter_eq_nil_iff.mp before other earlier
    · simpa using List.filter_eq_nil_iff.mp after other later

/-- A call may join while no other is in progress, unless it forgets what is held. -/
def Singly (s : Schedule) (request : Request) : Prop := s.OneByOne request ∧ s.Remembers request

/-- A release that answers ok leaves no trigger that the surface saw pressed last. -/
theorem Unfolds.up_of_ok {world : World} {left right : List Activity} {activity : Activity}
    {time : Nat}
    (h : Unfolds Singly moves ⟨session, .initial host, []⟩
      ⟨session, world, left ++ activity :: right⟩ log)
    (accepted : ∀ notice ∈ log, notice.accepted = true) (release : activity.isRelease = true)
    (ready : activity.isReady world.now = true)
    (answered : (activity.step session world).2 = .finished time (.result (.ok ())))
    (id : SourceId) (trigger : Trigger) : Notice.isDown log id trigger = false := by
  have sequential := Sequential.reached
    ((h.mono (fun _ _ both => both.1) fun _ _ allowed => allowed).reached (.fresh host))
  have isCall : activity.isCall = true := by
    cases activity with
    | planned start request =>
      cases request <;> first | rfl | cases release
    | releasing => rfl
    | _ => cases release
  have alone := sequential.alone (by simp) isCall
  have none := alone.silent_of_ok session release answered
  obtain ⟨-, up⟩ := alone.of_ok session ready release answered
  -- The answer leaves nothing under way, so what the surface saw is what is held.
  have remembers : Unfolds Remembers (fun _ _ => True) ⟨session, .initial host, []⟩
      ⟨session, (activity.step session world).1,
        left ++ (activity.step session world).2 :: right⟩ log := by
    have next := (h.mono (fun _ _ both => both.2) fun _ _ _ => trivial).advance ready trivial
    rwa [none, List.append_nil] at next
  by_contra down
  rcases remembers.held_of_isDown (fun notice member _ => accepted notice member)
    (by simpa using down) with held | refused
  · exact up id trigger (held_eq_true_iff.mp held)
  · have idle : (left ++ (activity.step session world).2 :: right).flatMap (·.slots) = [] := by
      rw [answered]
      refine List.flatMap_eq_nil_iff.mpr fun other listed => ?_
      simp only [List.mem_append, List.mem_cons] at listed
      have others := sequential.others isCall
      rcases listed with before | rfl | after
      · exact Activity.slots_of_isCall (others other (List.mem_append_left _ before))
      · rfl
      · exact Activity.slots_of_isCall (others other (List.mem_append_right _ after))
    rw [standing, idle] at refused
    exact absurd refused (Nat.lt_irrefl 0)

/-- After calls that were made one at a time, of which no event was refused, and a release that
answers ok, the last event of a key is a keyup and the last event of a button is a mouseup, with two
exceptions. A key may have been pressed under the name of another physical key, whose keyup undid
the press; and a click with the control key on a Mac presses the secondary button, while the lift
names the button that was asked for. -/
theorem released_unless_renamed {activity : Activity} {time : Nat}
    (h : Unfolds Singly moves ⟨session, .initial host, []⟩ s log)
    (accepted : ∀ notice ∈ log, notice.accepted = true) (listed : activity ∈ s.activities)
    (release : activity.isRelease = true) (ready : activity.isReady s.world.now = true)
    (answered : (activity.step s.session s.world).2 = .finished time (.result (.ok ()))) :
    s.world.host.journal = host.journal ++ log.map (·.injection) ∧
      (∀ code last late, Notice.IsLast (·.code? = some code) last late log →
        last.injection.event.lifts = true ∨
          (∃ lift ∈ late, lift.Undoes last) ∧ ¬ Key.Single code) ∧
      ∀ button last late, Notice.IsLast (·.button? = some button) last late log →
        last.injection.event.lifts = true ∨
          (∃ lift ∈ late, lift.Undoes last) ∧ session.config.platform = .mac ∧
            button = Action.secondaryButton ∧
            ∃ event, last.injection.event = .mouse event ∧ event.modifiers.ctrl = true := by
  obtain ⟨⟨same, -⟩, faithful⟩ := h.faithful fun _ member => absurd member List.not_mem_nil
  obtain ⟨_, world, activities⟩ := s
  cases same
  obtain ⟨left, right, rfl⟩ := List.append_of_mem listed
  have up := h.up_of_ok accepted release ready answered
  exact ⟨h.journal, fun code last late is => is.key faithful accepted up,
    fun button last late is => is.button faithful accepted up⟩

/-- Presses of the right shift key and of the left button with the control key held, each lifted
under the name that a session holds it by. -/
def renamed : Chain :=
  let key (gesture : Gesture) : Tick := [⟨⟨"k"⟩, .key, none, gesture⟩]
  let mouse (gesture : Gesture) : Tick := [⟨⟨"m"⟩, .pointer, none, gesture⟩]
  [key (.keyDown "\ue050"), key (.keyUp "\ue008"), key (.keyDown "\ue009"),
    mouse (.pointerDown 0), mouse (.pointerUp 0)]

/-- A session on a Mac. -/
def macSession : Session := .ofConfig { Config.standard with platform := .mac }

/-- The chain on a surface that answers at once and refuses nothing, and the release after it. -/
def renames : Schedule :=
  join ⟨macSession, .initial (.prompt ⟨100, 100⟩), []⟩ 0 (.perform renamed none)

def renamesReleased : Schedule := (renames.steps 17).join 0 .release

theorem unfolds_renamesReleased :
    Unfolds Singly (fun _ _ => True) ⟨macSession, .initial (.prompt ⟨100, 100⟩), []⟩
      (renamesReleased.steps 4) (renames.record 17 ++ renamesReleased.record 4) := by
  have free : ∀ s next : Schedule, True := fun _ _ => trivial
  have fresh : Unfolds Singly (fun _ _ => True)
      ⟨macSession, .initial (.prompt ⟨100, 100⟩), []⟩ _ [] := .begins
  have begun := (fresh.join 0 (.perform renamed none)
    ⟨fun _ _ member => absurd member List.not_mem_nil, rfl⟩).steps free 17
  have calls : (renames.steps 17).activities.all (fun activity => !activity.isCall) = true := by
    decide +kernel
  have alone : (renames.steps 17).OneByOne .release := fun _ activity member => by
    simpa using List.all_eq_true.mp calls activity member
  rw [List.nil_append] at begun
  exact (begun.join 0 .release ⟨alone, rfl⟩).steps free 4

private theorem renames_pressed :
    let log := renames.record 17 ++ renamesReleased.record 4
    (∀ notice ∈ log, notice.accepted = true) ∧
      (∃ activity ∈ (renamesReleased.steps 4).activities,
        (renamesReleased.steps 4).answersOk activity = true) ∧
      (∃ last late, Notice.IsLast (·.code? = some "ShiftRight") last late log ∧
        last.injection.event.presses = true) ∧
      ∃ last late, Notice.IsLast (·.button? = some Action.secondaryButton) last late log ∧
        last.injection.event.presses = true := by
  intro log
  have accepted : log.all (·.accepted) = true := by decide +kernel
  have answers : (renamesReleased.steps 4).activities.any
    (renamesReleased.steps 4).answersOk = true := by decide +kernel
  have key : ((log.filter fun notice =>
    notice.injection.event.code? = some "ShiftRight").getLast?.map
    (·.injection.event.presses)) = some true := by decide +kernel
  have button : ((log.filter fun notice =>
    notice.injection.event.button? = some Action.secondaryButton).getLast?.map
    (·.injection.event.presses)) = some true := by decide +kernel
  exact ⟨List.all_eq_true.mp accepted, List.any_eq_true.mp answers, Notice.exists_isLast key,
    Notice.exists_isLast button⟩

/-- Nothing was refused and the release is about to answer ok, and still the last event of the right
shift key is a press, and so is the last one of the secondary button. -/
theorem renames_leave_pressed :
    let log := renames.record 17 ++ renamesReleased.record 4
    Unfolds Singly (fun _ _ => True)
        ⟨macSession, .initial (.prompt ⟨100, 100⟩), []⟩ (renamesReleased.steps 4) log ∧
      (∀ notice ∈ log, notice.accepted = true) ∧
      (∃ activity ∈ (renamesReleased.steps 4).activities,
        (renamesReleased.steps 4).answersOk activity = true) ∧
      (∃ last late, Notice.IsLast (·.code? = some "ShiftRight") last late log ∧
        ¬ last.injection.event.lifts = true) ∧
      ∃ last late, Notice.IsLast (·.button? = some Action.secondaryButton) last late log ∧
        ¬ last.injection.event.lifts = true := by
  intro log
  obtain ⟨accepted, answers, ⟨key, late, keyLast, keyDown⟩, button, late', buttonLast,
    buttonDown⟩ := renames_pressed
  exact ⟨unfolds_renamesReleased, accepted, answers,
    ⟨key, late, keyLast, fun lifts => Event.presses_of_lifts lifts keyDown⟩,
    button, late', buttonLast, fun lifts => Event.presses_of_lifts lifts buttonDown⟩

/-- Both presses were undone, by the left shift key and by the left button. -/
theorem renames_undone :
    let log := renames.record 17 ++ renamesReleased.record 4
    (∃ last late, Notice.IsLast (·.code? = some "ShiftRight") last late log ∧
      ∃ lift ∈ late, lift.Undoes last) ∧
      ∃ last late, Notice.IsLast (·.button? = some Action.secondaryButton) last late log ∧
        ∃ lift ∈ late, lift.Undoes last := by
  intro log
  obtain ⟨accepted, ⟨activity, listed, answers⟩, ⟨key, late, keyLast, keyDown⟩, button, late',
    buttonLast, buttonDown⟩ := renames_pressed
  simp only [answersOk, Bool.and_eq_true] at answers
  obtain ⟨⟨release, ready⟩, answer⟩ := answers
  split at answer
  next answered =>
    obtain ⟨-, keys, buttons⟩ :=
      released_unless_renamed unfolds_renamesReleased accepted listed release ready answered
    refine ⟨⟨key, late, keyLast, ?_⟩, button, late', buttonLast, ?_⟩
    · rcases keys _ _ _ keyLast with lifts | ⟨undone, -⟩
      · exact absurd keyDown (Event.presses_of_lifts lifts)
      · exact undone
    · rcases buttons _ _ _ buttonLast with lifts | ⟨undone, -⟩
      · exact absurd buttonDown (Event.presses_of_lifts lifts)
      · exact undone
  · cases answer

end Schedule

end InputActions
