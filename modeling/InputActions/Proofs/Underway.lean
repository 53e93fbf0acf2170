import InputActions.Proofs.InTurn

/-!
# Actions under way

An action that has begun still comes to something: a move to its target, or to the error that its
questions about geometry will lead to, and everything else to its result. So a tick in progress
stands for an account as well (`Slot.inTurn`): the one that its actions, begun or not, come to in
their order. `Slot.Carries` says that a section of an action leaves this account as it is, wherever
the pointers are that the actions before it are moving.
-/
namespace InputActions

/-! ### Moves in progress -/

/-- The pointer that an action moves. -/
def Action.mover? (action : Action) : Option SourceId :=
  match action.gesture with
  | .pointerMove .. => some action.id
  | _ => none

/-- The pointer whose move waits. -/
def Wait.mover? : Wait → Option SourceId
  | .center move .. => some move.id
  | .viewport move .. => some move.id
  | .sample move _ => some move.id
  | .step move .. => some move.id
  | .arrival id .. => some id
  | _ => none

/-- Where pointers will be put by an action that waits, if its wait leads there. -/
def Wait.lands (context : Context) (scene : Scene) :
    Wait → Except ActionError (List (SourceId × Point))
  | .center move ref _ =>
    (scene.aim context.mode move.start (.element ref) move.dx move.dy).map fun target =>
      [(move.id, target)]
  | .viewport move base _ =>
    (scene.reach base move.dx move.dy).map fun target => [(move.id, target)]
  | .sample move target => .ok [(move.id, target)]
  | .step move target _ _ => .ok [(move.id, target)]
  | .arrival id target _ => .ok [(id, target)]
  | _ => .ok []

/-- An action that waits puts no pointer anywhere but its own. -/
theorem Wait.mover?_of_lands {context : Context} {scene : Scene} {wait : Wait}
    {landings : List (SourceId × Point)} (h : wait.lands context scene = .ok landings) :
    ∀ landing ∈ landings, wait.mover? = some landing.1 := by
  intro landing member
  cases wait with
  | center move ref refusal =>
    unfold lands at h
    cases aimed : scene.aim context.mode move.start (.element ref) move.dx move.dy with
    | error error => simp [aimed, Except.map] at h
    | ok target =>
      simp only [aimed, Except.map, Except.ok.injEq] at h
      subst h
      rw [List.mem_singleton.mp member]
      rfl
  | viewport move base refusal =>
    unfold lands at h
    cases reached : scene.reach base move.dx move.dy with
    | error error => simp [reached, Except.map] at h
    | ok target =>
      simp only [reached, Except.map, Except.ok.injEq] at h
      subst h
      rw [List.mem_singleton.mp member]
      rfl
  | sample | step | arrival =>
    cases h
    rw [List.mem_singleton.mp member]
    rfl
  | _ =>
    cases h
    exact absurd member List.not_mem_nil

namespace Inputs

/-- The inputs with some pointers put somewhere, one after the other. -/
def placeAll (inputs : Inputs) (landings : List (SourceId × Point)) : Inputs :=
  landings.foldl (fun inputs landing => inputs.place landing.1 landing.2) inputs

@[simp] theorem placeAll_nil (inputs : Inputs) : inputs.placeAll [] = inputs := rfl

@[simp] theorem placeAll_cons (inputs : Inputs) (landing : SourceId × Point)
    (landings : List (SourceId × Point)) :
    inputs.placeAll (landing :: landings) =
      (inputs.place landing.1 landing.2).placeAll landings := rfl

theorem placeAll_append (inputs : Inputs) (first second : List (SourceId × Point)) :
    inputs.placeAll (first ++ second) = (inputs.placeAll first).placeAll second :=
  List.foldl_append

/-- It does not matter when a pointer is put somewhere that no other landing is about. -/
theorem placeAll_place (inputs : Inputs) {id : SourceId} (position : Point)
    {landings : List (SourceId × Point)} (apart : ∀ landing ∈ landings, landing.1 ≠ id) :
    (inputs.place id position).placeAll landings =
      (inputs.placeAll landings).place id position := by
  -- The first landing is about another pointer, so the two may be swapped.
  induction landings generalizing inputs with
  | nil => rfl
  | cons landing landings ih =>
    have first := apart landing List.mem_cons_self
    rw [placeAll_cons, place_comm _ first.symm, placeAll_cons]
    exact ih _ fun other member => apart other (List.mem_cons_of_mem _ member)

theorem placeAll_comm (inputs : Inputs) {first second : List (SourceId × Point)}
    (apart : ∀ one ∈ first, ∀ other ∈ second, other.1 ≠ one.1) :
    (inputs.placeAll first).placeAll second = (inputs.placeAll second).placeAll first := by
  induction first generalizing inputs with
  | nil => rfl
  | cons one first ih =>
    rw [placeAll_cons, ih _ fun another member => apart another (List.mem_cons_of_mem _ member),
      placeAll_place _ _ (apart one List.mem_cons_self), placeAll_cons]

end Inputs

/-! ### Actions and positions -/

/-- An effect with a pointer put somewhere in the inputs that it leaves. -/
def Effect.place (effect : Effect) (id : SourceId) (position : Point) : Effect :=
  effect.map fun (inputs, reports) => (inputs.place id position, reports)

private theorem reports_moved (event : MouseEvent) (id other name : SourceId) (position : Point) :
    (Event.mouse (event.moved id position other)).reports name =
      (Event.mouse event).reports name := by
  unfold MouseEvent.moved
  split <;> rfl

private theorem pressing_moved (event : MouseEvent) (context : Context) (scene : Scene)
    (id other : SourceId) (position : Point) :
    (event.moved id position other).pressing context scene =
      (event.pressing context scene).moved id position other := by
  unfold MouseEvent.moved MouseEvent.pressing
  split
  · dsimp only
    split
    · rfl
    · split <;> rfl
  · rfl

private theorem lifting_moved (event : MouseEvent) (scene : Scene) (id other : SourceId)
    (position : Point) :
    (event.moved id position other).lifting scene =
      (event.lifting scene).moved id position other := by
  unfold MouseEvent.moved MouseEvent.lifting
  split <;> rfl

/-- What an action comes to does not depend on where the pointers are that it does not move. -/
theorem Action.alone_place (action : Action) (context : Context) (scene : Scene) (inputs : Inputs)
    {id : SourceId} (position : Point) (apart : action.mover? ≠ some id) :
    action.alone context scene (inputs.place id position) =
      (action.alone context scene inputs).place id position := by
  unfold alone
  cases gesture : action.gesture with
  | pause duration => rfl
  | pointerCancel => rfl
  | keyDown value =>
    dsimp only
    rw [Inputs.pressKey_place]
    cases inputs.pressKey action value <;> rfl
  | keyUp value =>
    dsimp only
    rw [Inputs.liftKey_place]
    cases inputs.liftKey action value with
    | error fault => rfl
    | ok lifted => cases lifted <;> rfl
  | pointerDown button =>
    dsimp only
    rw [Inputs.pressButton_place]
    cases inputs.pressButton action button with
    | error error => rfl
    | ok pressed =>
      cases pressed with
      | none => rfl
      | some pressed =>
        simp only [Except.map, Option.map_some, pressing_moved, reports_moved]
        rfl
  | pointerUp button =>
    dsimp only
    rw [Inputs.liftButton_place]
    cases inputs.liftButton action button with
    | error error => rfl
    | ok lifted =>
      cases lifted with
      | none => rfl
      | some lifted =>
        simp only [Except.map, Option.map_some, lifting_moved, reports_moved]
        rfl
  | pointerMove duration origin dx dy =>
    have other : action.id ≠ id := by
      intro same
      exact apart (by rw [mover?, gesture, same])
    dsimp only
    rw [Inputs.place, Store.mouse_setPosition]
    cases inputs.store.mouse action.id with
    | error error => rfl
    | ok source =>
      -- A move sets out from where its own pointer is, and that one has not been moved.
      have still : source.moved id position action.id = source := if_neg other
      simp only [Except.map, still]
      cases scene.aim context.mode source.position origin dx dy with
      | error error => rfl
      | ok target =>
        have swapped := Inputs.place_comm inputs other.symm position target
        exact congrArg (fun next => Except.ok (next, [])) swapped

theorem Action.alone_placeAll (action : Action) (context : Context) (scene : Scene)
    (inputs : Inputs) {landings : List (SourceId × Point)}
    (apart : ∀ landing ∈ landings, action.mover? ≠ some landing.1) :
    action.alone context scene (inputs.placeAll landings) =
      (action.alone context scene inputs).map
        fun (next, reports) => (next.placeAll landings, reports) := by
  induction landings generalizing inputs with
  | nil =>
    rw [Inputs.placeAll_nil]
    cases action.alone context scene inputs <;> rfl
  | cons landing landings ih =>
    rw [Inputs.placeAll_cons, ih _ fun other member => apart other (List.mem_cons_of_mem _ member),
      action.alone_place context scene inputs _ (apart landing List.mem_cons_self)]
    cases action.alone context scene inputs <;> rfl

/-! ### Ticks in progress -/

namespace Slot

/-- The pointer that the action of a slot moves, or may still move. -/
def mover? : Slot → Option SourceId
  | .ready action => action.mover?
  | .waiting _ wait => wait.mover?
  | .settled _ => none

/-- Where pointers will be put by an action that has begun. -/
def lands (context : Context) (scene : Scene) : Slot → Except ActionError (List (SourceId × Point))
  | .ready _ => .ok []
  | .waiting _ wait => wait.lands context scene
  | .settled result => result.map fun _ => []

/-- Whether the action of a slot has had a section. -/
def isBegun : Slot → Bool
  | .ready _ => false
  | _ => true

theorem isBegun_of_idle {slot : Slot} {now : Nat} (idle : slot.isReady now = false) :
    slot.isBegun = true := by
  cases slot with
  | ready action => cases idle
  | _ => rfl

/-- Whoever has had a section has begun. -/
theorem isBegun_step (slot : Slot) (context : Context) (duration : UInt64) (world : World) :
    (slot.step context duration world).2.isBegun = true := by
  have ofOutcome (world : World) (outcome : Outcome) :
      (ofOutcome world outcome).isBegun = true := by
    cases outcome <;> rfl
  cases slot with
  | settled => rfl
  | _ => exact ofOutcome _ _

/-- What the action of a slot still comes to. -/
def effect (context : Context) (scene : Scene) (inputs : Inputs) : Slot → Effect
  | .ready action => action.alone context scene inputs
  | slot => (slot.lands context scene).map fun landings => (inputs.placeAll landings, [])

/-- The account of a tick in progress, once all of its actions have settled. -/
def inTurn (context : Context) (scene : Scene) (slots : List Slot) (account : Account) : Account :=
  slots.foldl (fun account slot => account.after (slot.effect context scene account.inputs)) account

variable {context : Context} {scene : Scene}

theorem inTurn_append (left right : List Slot) (account : Account) :
    inTurn context scene (left ++ right) account =
      inTurn context scene right (inTurn context scene left account) :=
  List.foldl_append

/-- A tick that is still to begin stands for its actions, one after the other. -/
theorem inTurn_ready (tick : Tick) (account : Account) :
    inTurn context scene (tick.map .ready) account = Tick.inTurn context scene tick account := by
  rw [inTurn, List.foldl_map]
  rfl

theorem effect_of_begun {slot : Slot} (begun : slot.isBegun = true) (inputs : Inputs) :
    slot.effect context scene inputs =
      (slot.lands context scene).map fun landings => (inputs.placeAll landings, []) := by
  cases slot with
  | ready action => cases begun
  | _ => rfl

theorem mover?_of_lands {slot : Slot} {landings : List (SourceId × Point)}
    (h : slot.lands context scene = .ok landings) :
    ∀ landing ∈ landings, slot.mover? = some landing.1 := by
  intro landing member
  cases slot with
  | ready action =>
    cases h
    exact absurd member List.not_mem_nil
  | waiting wake wait => exact Wait.mover?_of_lands h landing member
  | settled result =>
    cases result with
    | error error => cases h
    | ok =>
      cases h
      exact absurd member List.not_mem_nil

/-- Actions that have begun report nothing more: they put some pointers somewhere, and they may
fail. Neither depends on the inputs. -/
theorem inTurn_begun {slots : List Slot} (begun : ∀ slot ∈ slots, slot.isBegun = true) :
    ∃ landings failed, (∀ landing ∈ landings, landing.1 ∈ slots.filterMap mover?) ∧
      ∀ inputs reports failure, inTurn context scene slots ⟨inputs, reports, failure⟩ =
        ⟨inputs.placeAll landings, reports, failure.or failed⟩ := by
  -- Landings add up along the tick, and the first error counts.
  induction slots with
  | nil =>
    refine ⟨[], none, fun _ member => absurd member List.not_mem_nil, ?_⟩
    intro inputs reports failure
    rw [Option.or_none]
    rfl
  | cons slot slots ih =>
    obtain ⟨later, failed, own, comes⟩ := ih fun other member =>
      begun other (List.mem_cons_of_mem _ member)
    have effects : ∀ inputs, slot.effect context scene inputs =
        (slot.lands context scene).map fun landings => (inputs.placeAll landings, []) :=
      effect_of_begun (begun slot List.mem_cons_self)
    have rest : ∀ id ∈ slots.filterMap mover?, id ∈ (slot :: slots).filterMap mover? :=
      ((List.sublist_cons_self slot slots).filterMap mover?).subset
    cases landed : slot.lands context scene with
    | error error =>
      refine ⟨later, (some error).or failed, fun landing member => rest _ (own landing member), ?_⟩
      intro inputs reports failure
      rw [← Option.or_assoc, ← comes, inTurn, List.foldl_cons]
      simp only [effects, landed]
      rfl
    | ok landings =>
      refine ⟨landings ++ later, failed, ?_, ?_⟩
      · intro landing member
        rcases List.mem_append.mp member with first | second
        · exact List.mem_filterMap.mpr
            ⟨slot, List.mem_cons_self, mover?_of_lands landed landing first⟩
        · exact rest _ (own landing second)
      · intro inputs reports failure
        rw [Inputs.placeAll_append, ← comes, inTurn, List.foldl_cons]
        simp only [effects, landed, Account.after, Except.map, List.append_nil]
        rfl

/-! ### Sections -/

/-- The account after the action of a slot is the same before and after a section of it, which
reports something new. This holds wherever other pointers are put before. -/
def Carries (context : Context) (scene : Scene) (slot next : Slot) (before after : Inputs)
    (new : List (SourceId × Event)) : Prop :=
  ∀ landings, (∀ landing ∈ landings, slot.mover? ≠ some landing.1) → ∀ reports failure,
    Account.after ⟨before.placeAll landings, reports, failure⟩
        (slot.effect context scene (before.placeAll landings)) =
      Account.after ⟨after.placeAll landings, reports ++ new, failure⟩
        (next.effect context scene (after.placeAll landings))

namespace Carries

variable {slot next : Slot} {action : Action} {before after : Inputs}
  {new : List (SourceId × Event)}

/-- All that an action comes to happens in its first section. -/
theorem acts (alone : action.alone context scene before = .ok (after, new))
    (begun : next.isBegun = true) (still : next.lands context scene = .ok []) :
    (Slot.ready action).Carries context scene next before after new := by
  intro landings apart reports failure
  rw [effect_of_begun begun, still, effect, action.alone_placeAll context scene before apart, alone]
  simp only [Except.map, Account.after, Inputs.placeAll_nil, List.append_nil]

/-- An action sets out for what it comes to, or fails at once. -/
theorem setsOut
    (alone : action.alone context scene before =
      (next.lands context scene).map fun landings => (before.placeAll landings, []))
    (begun : next.isBegun = true) (mover : next.mover? = action.mover? ∨ next.mover? = none) :
    (Slot.ready action).Carries context scene next before before [] := by
  intro landings apart reports failure
  rw [effect_of_begun begun, effect, action.alone_placeAll context scene before apart, alone,
    List.append_nil]
  cases landed : next.lands context scene with
  | error error => rfl
  | ok own =>
    -- What the action moves was moved by none of those before it.
    have swapped : (before.placeAll own).placeAll landings =
        (before.placeAll landings).placeAll own := by
      apply Inputs.placeAll_comm
      intro one member other listed same
      have moves := mover?_of_lands landed one member
      rcases mover with mover | none
      · exact apart other listed (by rw [mover?, ← mover, moves, same])
      · cases none.symm.trans moves
    simp only [Except.map, swapped]

/-- An action waits on for the same. -/
theorem stays (before : Inputs) (began : slot.isBegun = true) (begun : next.isBegun = true)
    (same : next.lands context scene = slot.lands context scene) :
    slot.Carries context scene next before before [] := by
  intro landings apart reports failure
  rw [effect_of_begun began, effect_of_begun begun, same, List.append_nil]

/-- A move comes to a sample on its way, or to its target. -/
theorem lands {id : SourceId} {position target : Point} (before : Inputs)
    (began : slot.isBegun = true) (begun : next.isBegun = true)
    (landing : slot.lands context scene = .ok [(id, target)])
    (goes : next.lands context scene = .ok [(id, target)] ∨
      next.lands context scene = .ok [] ∧ position = target) :
    slot.Carries context scene next before (before.place id position) [] := by
  intro landings apart reports failure
  have own := mover?_of_lands landing (id, target) (List.mem_singleton.mpr rfl)
  have others : ∀ landing ∈ landings, landing.1 ≠ id := by
    intro other listed same
    exact apart other listed (by rw [own, same])
  rw [effect_of_begun began, effect_of_begun begun, landing, List.append_nil,
    Inputs.placeAll_place _ _ others]
  -- A sample is overwritten by the target that is still to come, and an arrival is that target.
  rcases goes with onward | ⟨arrived, here⟩
  · simp only [onward, Except.map, Account.after, Inputs.placeAll_cons, Inputs.placeAll_nil,
      Inputs.place_place]
  · simp only [arrived, here, Except.map, Account.after, Inputs.placeAll_cons, Inputs.placeAll_nil]

end Carries

/-- What runs in the midst of a tick leaves the account of the tick as it is, if the actions before
it have begun and move other pointers. -/
theorem Carries.inTurn {slot next : Slot} {before after : Inputs} {new : List (SourceId × Event)}
    (h : slot.Carries context scene next before after new) {left : List Slot}
    (begun : ∀ other ∈ left, other.isBegun = true)
    (apart : ∀ id ∈ left.filterMap mover?, slot.mover? ≠ some id) (right : List Slot)
    (reports : List (SourceId × Event)) :
    inTurn context scene (left ++ slot :: right) ⟨before, reports, none⟩ =
      inTurn context scene (left ++ next :: right) ⟨after, reports ++ new, none⟩ := by
  obtain ⟨landings, failed, own, comes⟩ := inTurn_begun begun
  have same := h landings (fun landing member => apart _ (own landing member)) reports
  rw [inTurn_append, inTurn_append, comes, comes]
  exact congrArg (Slot.inTurn context scene right) (same _)

end Slot

end InputActions
