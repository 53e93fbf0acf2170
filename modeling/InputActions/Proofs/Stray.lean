import InputActions.Proofs.Release
import InputActions.Proofs.Surface

/-!
# Held and not owed

Calls that run together can leave a trigger held that nothing owes. A lift takes effect at once; if
a release drops the entry of the trigger meanwhile, because it finds it up, and the surface then
refuses the lift, the trigger is held again and its entry is gone. `Schedule.Strayed` is the history
of such a trigger, and `Schedule.owes_iff` says that nothing else leads there: as long
as no refused lift is taken back with nothing left to cover it, whatever is held at the end is owed,
and one more release brings the inputs to rest.
-/
namespace InputActions

/-! ### A release on its own -/

namespace Activity

/-- No lift that was refused is under way. -/
def Accepted (activity : Activity) : Prop :=
  ∀ slot ∈ activity.slots, ∀ source trigger verdict,
    slot.lift? = some (source, trigger, verdict) → verdict.refusal = none

theorem accepted_ofEntries (context : Context) (now : Nat) (entries : List Action) :
    (ofEntries context now entries).Accepted := by
  intro slot member source trigger verdict under
  cases entries with
  | nil => exact absurd member List.not_mem_nil
  | cons entry rest =>
    cases List.mem_singleton.mp member
    cases under

private theorem ofEntries_goes_on (context : Context) (now : Nat) (entries : List Action) :
    (ofEntries context now entries).isRelease = true ∨
      ∃ time, ofEntries context now entries = .finished time (.result (.ok ())) := by
  cases entries with
  | nil => exact Or.inr ⟨now, rfl⟩
  | cons entry rest => exact Or.inl rfl

/-- A release on a surface that refuses nothing goes on or answers ok. -/
private theorem Alone.goes_on {activity : Activity} {world : World} (h : activity.Alone world)
    (session : Session) (release : activity.isRelease = true) (accepted : activity.Accepted)
    (willing : ∀ tally now, world.host.injectionRefusal tally now = none) :
    (activity.step session world).2.Accepted ∧
      ((activity.step session world).2.isRelease = true ∨
        ∃ time, (activity.step session world).2 = .finished time (.result (.ok ()))) ∧
      (activity.step session world).1.host.surface = world.host.surface := by
  cases activity with
  | planned start request =>
    cases request with
    | release => exact ⟨accepted_ofEntries _ _ _, ofEntries_goes_on .., rfl⟩
    | _ => cases release
  | releasing context entry slot rest =>
    obtain ⟨trigger, replay⟩ := h.replay
    have surface := slot.step_surface context 0 world
    unfold Activity.step
    dsimp only
    generalize (slot.step context 0 world).1 = after at replay surface ⊢
    generalize (slot.step context 0 world).2 = next at replay surface ⊢
    cases replay with
    | @lift _ wake wait verdict injection _ _ _ under _ _ asked =>
      refine ⟨?_, Or.inl rfl, surface⟩
      intro slot member source lifted other under'
      cases List.mem_singleton.mp member
      cases under.symm.trans under'
      rw [asked, willing]
    | pass => exact ⟨accepted_ofEntries _ _ _, ofEntries_goes_on .., surface⟩
    | land => exact ⟨accepted_ofEntries _ _ _, ofEntries_goes_on .., surface⟩
    | takeBack under refused =>
      -- The lift under way was accepted, so there is nothing to take back.
      have none := accepted _ List.mem_cons_self _ _ _ under
      cases refused.symm.trans none
  | _ => cases release

end Activity

/-- What a release keeps while it runs on its own on a surface that refuses nothing. -/
private def Schedule.Releasing (schedule : Schedule) : Prop :=
  ∃ activity, schedule.activities = [activity] ∧ activity.Alone schedule.world ∧
    schedule.world.inputs.store.Agrees ∧
    (∀ tally now, schedule.world.host.injectionRefusal tally now = none) ∧
    (activity.isRelease = true ∧ activity.Accepted ∨
      ∃ time, activity = .finished time (.result (.ok ())) ∧ schedule.world.inputs.AtRest)

private theorem Schedule.Releasing.move {s next : Schedule} (h : s.Releasing)
    (moved : s.Moves next) : next.Releasing := by
  obtain ⟨activity, only, alone, agrees, willing, phase⟩ := h
  cases moved with
  | elapse =>
    exact ⟨activity, only, alone.of_same rfl rfl, agrees, willing, phase⟩
  | @advance session world left running right ready =>
    obtain ⟨rfl, rfl, rfl⟩ : left = [] ∧ running = activity ∧ right = [] := by
      simpa [List.append_eq_cons_iff] using only
    rcases phase with ⟨release, accepted⟩ | ⟨time, rfl, rest⟩
    -- The section either leaves the release with more to do, or answers ok.
    · obtain ⟨accepted', goesOn, surface⟩ := alone.goes_on session release accepted willing
      refine ⟨_, rfl, alone.step session ready, (running.step_turn session ready).agrees agrees,
        ?_, ?_⟩
      · rw [Host.injectionRefusal_eq surface]
        exact willing
      · rcases goesOn with release' | ⟨time, answered⟩
        · exact Or.inl ⟨release', accepted'⟩
        · obtain ⟨empty, up⟩ := alone.of_ok session ready release answered
          have agrees' := (running.step_turn session ready).agrees agrees
          exact Or.inr ⟨time, answered, Inputs.atRest agrees' up empty⟩
    · cases ready

/-- A release on its own brings the inputs to rest if the surface refuses nothing. -/
theorem Activity.Alone.ask_release {world : World} (session : Session)
    (h : (Activity.planned world.now .release).Alone world) (agrees : world.inputs.store.Agrees)
    (willing : ∀ tally now, world.host.injectionRefusal tally now = none) :
    (world.ask session .release).2 = .result (.ok ()) ∧
      (world.ask session .release).1.inputs.AtRest := by
  have begins : Schedule.Releasing ⟨session, world, [.planned world.now .release]⟩ :=
    ⟨_, rfl, h, agrees, willing, Or.inl ⟨rfl, fun _ member => absurd member List.not_mem_nil⟩⟩
  have ends := Schedule.run_invariant Schedule.Releasing.move begins
  have finished := Schedule.run_finished ⟨session, world, [.planned world.now .release]⟩
  obtain ⟨activity, only, -, -, -, ⟨release, -⟩ | ⟨time, rfl, rest⟩⟩ := ends
  · rw [Schedule.isFinished, only, List.all_cons, Bool.and_eq_true] at finished
    cases activity <;> first | exact absurd finished.1 Bool.false_ne_true | cases release
  · rw [World.ask_of_run only]
    exact ⟨rfl, rest⟩

/-! ### Strays -/

namespace Schedule

/-- A request may join unless it forgets what is held. -/
def Remembers (_ : Schedule) (request : Request) : Prop := request.isReset = false

/-- Any request may join and any section may run, but nothing is forgotten. -/
abbrev Remembered (session : Session) : Schedule → Prop :=
  Reached session Remembers fun _ _ => True

/-- No release drops an entry of a trigger that is up while a refused lift of it is under way. -/
def Tidy (s next : Schedule) : Prop :=
  ∀ id trigger, ¬ s.world.inputs.Holds id trigger →
    (next.standing id trigger).left < (s.standing id trigger).left →
      (s.standing id trigger).refused = 0

/-- Whether everything that is held has an entry that lifts it. -/
def Owes (schedule : Schedule) : Prop :=
  ∀ id trigger, schedule.world.inputs.Holds id trigger →
    ∃ entry ∈ schedule.world.inputs.pending.entries, entry.undoes id trigger = true

/-- The history of a trigger that is held and not owed: a refused lift of it was taken back when no
entry for it was left, and it has been held without one since. -/
inductive Strayed (session : Session) (id : SourceId) (trigger : Trigger) : Schedule → Prop
  | takenBack {s next} (reached : Remembered session s) (moved : s.Moves next)
      (dropped : (s.standing id trigger).left = 0)
      (back : (next.standing id trigger).refused < (s.standing id trigger).refused)
      (held : next.world.inputs.Holds id trigger) : Strayed session id trigger next
  | stays {s next} (strayed : Strayed session id trigger s) (moved : s.Moves next)
      (held : next.world.inputs.Holds id trigger)
      (left : (next.standing id trigger).left = (s.standing id trigger).left) :
      Strayed session id trigger next
  | join {s} (strayed : Strayed session id trigger s) (start : Nat) (request : Request) :
      Strayed session id trigger (s.join start request)

theorem standing_join (s : Schedule) (start : Nat) (request : Request) (id : SourceId)
    (trigger : Trigger) : (s.join start request).standing id trigger = s.standing id trigger := by
  have slots : (s.join start request).activities.flatMap (·.slots) =
      s.activities.flatMap (·.slots) := by
    simp [Schedule.join, Activity.slots]
  have owed : (s.join start request).activities.flatMap (·.owed) =
      s.activities.flatMap (·.owed) := by
    simp [Schedule.join, Activity.owed]
  rw [standing, slots, owed]
  rfl

theorem not_holds_fresh (id : SourceId) (trigger : Trigger) : ¬ Inputs.fresh.Holds id trigger := by
  rw [Inputs.Holds, Store.held?_eq, Inputs.fresh, Std.ExtTreeMap.getElem?_empty]
  intro held
  cases held

theorem Remembers.not_resets {s : Schedule} {request : Request} (allowed : s.Remembers request)
    (kept : ¬ s.Resets) (start : Nat) : ¬ (s.join start request).Resets := by
  rintro ⟨activity, listed, resets⟩
  rcases List.mem_append.mp listed with old | new
  · exact kept ⟨activity, old, resets⟩
  · cases List.mem_singleton.mp new
    exact Bool.false_ne_true (allowed.symm.trans resets)

theorem Reached.orderly {session : Session} {moves : Schedule → Schedule → Prop} {s : Schedule}
    (h : Reached session Remembers moves s) : s.Orderly ∧ ¬ s.Resets := by
  induction h with
  | fresh host =>
    exact ⟨⟨fun _ member => absurd member List.not_mem_nil,
      fun _ member => absurd member List.not_mem_nil⟩, not_resets_of_idle rfl⟩
  | join start request _ kept ih =>
    exact ⟨ih.1.join start request, Remembers.not_resets kept ih.2 start⟩
  | move _ moved _ ih => exact ⟨ih.1.move ih.2 moved, moved.not_resets ih.2⟩

/-- A trigger is held with nothing left of it exactly if it strayed. -/
theorem strayed_iff {session : Session} {s : Schedule} (reached : Remembered session s)
    (id : SourceId) (trigger : Trigger) :
    Strayed session id trigger s ↔
      s.world.inputs.Holds id trigger ∧ (s.standing id trigger).left = 0 := by
  constructor
  -- Along the history the trigger stays held, and nothing is added to what is left of it.
  · intro strayed
    clear reached
    induction strayed with
    | @takenBack s next before moved dropped back held =>
      refine ⟨held, ?_⟩
      obtain ⟨orderly, kept⟩ := before.orderly
      obtain ⟨others, step⟩ := moved.standing orderly kept id trigger
      cases step with
      | change change => cases change <;> omega
      | replay => omega
      | pass => omega
    | stays _ moved held left ih => exact ⟨held, left.trans ih.2⟩
    | join _ start request ih => exact ⟨ih.1, by rw [standing_join]; exact ih.2⟩
  -- Back from the moment: the last move either took a lift back, or changed neither.
  · rintro ⟨held, left⟩
    induction reached with
    | fresh host => exact absurd held (not_holds_fresh id trigger)
    | join start request _ kept ih =>
      rw [standing_join] at left
      exact (ih held left).join start request
    | @move s next before moved _ ih =>
      obtain ⟨orderly, kept⟩ := Reached.orderly before
      obtain ⟨others, step⟩ := moved.standing orderly kept id trigger
      have down : (next.standing id trigger).held = true := decide_eq_true held
      cases step with
      | change change =>
        cases change with
        | same held' _ left' =>
          have was : s.world.inputs.Holds id trigger := of_decide_eq_true (held'.symm.trans down)
          exact (ih was (left'.symm.trans left)).stays moved held left'
        | press _ _ left' => omega
        | lift _ up => cases up.symm.trans down
        | refuse _ up => cases up.symm.trans down
        | takeBack _ refused left' =>
          exact .takenBack before moved (left'.symm.trans left) (by omega) held
        | lose up => cases up.symm.trans down
      | replay _ up => cases up.symm.trans down
      | pass _ up => cases up.symm.trans down

/-- A schedule that is finished has nothing in hand. -/
theorem standing_of_finished {s : Schedule} (finished : s.isFinished = true) (id : SourceId)
    (trigger : Trigger) :
    s.standing id trigger = s.world.standing [] [] id trigger := by
  have ended : ∀ activity ∈ s.activities, activity.slots = [] ∧ activity.owed = [] := by
    intro activity listed
    have answered := List.all_eq_true.mp finished activity listed
    cases activity <;> first | exact ⟨rfl, rfl⟩ | exact absurd answered Bool.false_ne_true
  have slots : s.activities.flatMap (·.slots) = [] :=
    List.flatMap_eq_nil_iff.mpr fun activity listed => (ended activity listed).1
  have owed : s.activities.flatMap (·.owed) = [] :=
    List.flatMap_eq_nil_iff.mpr fun activity listed => (ended activity listed).2
  rw [standing, slots, owed]

/-- Once everything is finished, what is held is owed exactly if nothing strayed. -/
theorem owes_iff {session : Session} {s : Schedule} (reached : Remembered session s)
    (finished : s.isFinished = true) :
    s.Owes ↔ ∀ id trigger, ¬ Strayed session id trigger s := by
  have count : ∀ id trigger, (s.standing id trigger).left = 0 ↔
      ∀ entry ∈ s.world.inputs.pending.entries, ¬ entry.undoes id trigger = true := by
    intro id trigger
    rw [standing_of_finished finished]
    exact List.countP_eq_zero
  constructor
  · intro owes id trigger strayed
    obtain ⟨held, left⟩ := (strayed_iff reached id trigger).mp strayed
    obtain ⟨entry, member, undoes⟩ := owes id trigger held
    exact (count id trigger).mp left entry member undoes
  · intro free id trigger held
    apply Classical.byContradiction
    intro missing
    have left : (s.standing id trigger).left = 0 := by
      refine (count id trigger).mpr fun entry member undoes => missing ⟨entry, member, undoes⟩
    exact free id trigger ((strayed_iff reached id trigger).mpr ⟨held, left⟩)

/-- While releases are tidy, whatever is held is owed. -/
theorem covered_of_tidy {session : Session} {s : Schedule}
    (reached : Reached session Remembers Tidy s) (id : SourceId) (trigger : Trigger) :
    (s.standing id trigger).Covered := by
  induction reached with
  | fresh host =>
    have up := decide_eq_false (not_holds_fresh id trigger)
    exact Nat.le_of_eq (congrArg Bool.toNat up)
  | join start request _ _ ih => rwa [standing_join]
  | @move s next before moved tidy ih =>
    obtain ⟨orderly, kept⟩ := Reached.orderly before
    obtain ⟨others, step⟩ := moved.standing orderly kept id trigger
    exact step.covered ih fun up => tidy id trigger (of_decide_eq_false up)

/-- A release may begin on its own once everything is finished and owed. -/
theorem Owes.alone {session : Session} {s : Schedule} (h : s.Owes)
    (reached : Remembered session s) (start : Nat) :
    (Activity.planned start .release).Alone s.world where
  pending := (Reached.orderly reached).1.pending
  orderly := trivial
  covered id trigger := by
    by_cases held : s.world.inputs.Holds id trigger
    · have some := List.countP_pos_iff.mpr (h id trigger held)
      rw [Standing.Covered, World.standing, decide_eq_true held]
      exact Nat.le_trans some (Nat.le_add_right _ _)
    · rw [Standing.Covered, World.standing, decide_eq_false held]
      exact Nat.zero_le _
  taken := trivial

/-- Once all calls have settled, whatever is held is owed, unless it strayed: a refused lift was
taken back when nothing was left of its trigger. No trigger strays as long as no release drops an
entry while such a lift is under way; and if everything is owed, a further release that is not
refused leaves nothing held. -/
theorem held_is_owed_unless_strayed {session : Session} {s : Schedule}
    (reached : Remembered session s) (finished : s.isFinished = true) :
    (s.Owes ↔ ∀ id trigger, ¬ Strayed session id trigger s) ∧
      (Reached session Remembers Tidy s → s.Owes) ∧
      (s.Owes → (∀ tally now, s.world.host.injectionRefusal tally now = none) →
        (s.world.ask session .release).2 = .result (.ok ()) ∧
          (s.world.ask session .release).1.inputs.AtRest) := by
  refine ⟨owes_iff reached finished, fun tidy => ?_, fun owes willing => ?_⟩
  · rw [owes_iff reached finished]
    intro id trigger strayed
    obtain ⟨held, left⟩ := (strayed_iff reached id trigger).mp strayed
    have covered := covered_of_tidy tidy id trigger
    have down : (s.standing id trigger).held = true := decide_eq_true held
    rw [Standing.Covered, down, left] at covered
    exact absurd covered (by simp)
  · exact (owes.alone reached s.world.now).ask_release session reached.agrees willing

/-- A surface that answers after five milliseconds and refuses its second event. -/
def refusesSecond : Host :=
  { Host.prompt ⟨100, 100⟩ with
    injectionDelay := fun _ _ => 5
    injectionRefusal := fun tally _ =>
      if tally.injections = 1 then some (.injection "refused") else none }

/-- The gesture of a mouse, as a chain. -/
def performs (gesture : Gesture) : Request :=
  .perform [[⟨⟨"mouse"⟩, .pointer, none, gesture⟩]] none

/-- A button is pressed; while its lift awaits the refusal, everything is released. -/
def races : Schedule :=
  let begun := join ⟨.ofConfig .standard, .initial refusesSecond, []⟩ 0
    (performs (.pointerDown 0))
  (((begun.steps 5).join 5 (performs (.pointerUp 0))).join 7 .release).steps 9

theorem remembered_races : Remembered (.ofConfig .standard) races := by
  have free : ∀ s next : Schedule, True := fun _ _ => trivial
  have begun : Remembered (.ofConfig .standard)
      (join ⟨.ofConfig .standard, .initial refusesSecond, []⟩ 0 (performs (.pointerDown 0))) :=
    .join 0 _ (.fresh refusesSecond) rfl
  have lifted := (begun.steps free 5).join 5 (performs (.pointerUp 0)) rfl
  exact (lifted.join 7 .release rfl).steps free 9

/-- The button strays: it is held at the end, nothing is owed, and a further release does nothing
about it. -/
theorem races_strays :
    races.world.inputs.Holds ⟨"mouse"⟩ (.button 0) ∧
      (∃ id trigger, Strayed (.ofConfig .standard) id trigger races) ∧
      races.world.ask races.session .release = (races.world, .result (.ok ())) := by
  have finished : races.isFinished = true := by decide +kernel
  have held : races.world.inputs.Holds ⟨"mouse"⟩ (.button 0) := by decide +kernel
  have empty : races.world.inputs.pending = .empty := by decide +kernel
  refine ⟨held, ?_, World.ask_release_of_empty empty _⟩
  apply Classical.byContradiction
  intro none
  have owes := (held_is_owed_unless_strayed remembered_races finished).1.mpr
    fun id trigger strayed => none ⟨id, trigger, strayed⟩
  obtain ⟨entry, member, -⟩ := owes ⟨"mouse"⟩ (.button 0) held
  rw [empty] at member
  exact absurd member List.not_mem_nil

end Schedule

end InputActions
