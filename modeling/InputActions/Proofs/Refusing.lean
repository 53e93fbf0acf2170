import InputActions.Proofs.Typing

/-!
# A payload that is refused changes nothing

Whether the arguments of a dispatch are at fault is settled in its first section, before it
changes anything: a payload is refused as a whole, and the chain of one that was accepted is typed
for as long as it runs, whatever other calls do in between. `Schedule.Logs` is the history of one
call among others, and `Schedule.refused_changes_nothing` says that a dispatch whose answer blames
its arguments has had this one section, which left the world as it was.

Forgetting all sources would take their kinds away from a chain that is under way, so it is done
between calls only (`Schedule.ForgetsAtRest`).
-/
namespace InputActions

/-- The answer to a payload that is refused is its error. -/
theorem World.start_refused {world next : World} {payload : Json} {error : ActionError}
    (read : world.parse payload = (.error error, next)) (session : Session)
    (mode : Option CenterMode) : world.start session (.dispatch payload mode) =
      (next, .finished next.now (.result (.error error))) := by
  simp only [start, read]

/-- Whether a call is under way. -/
def Activity.isUnderway : Activity → Bool
  | .ticking .. => true
  | .releasing .. => true
  | _ => false

/-- Whether an activity is a dispatch that can still be made, was refused without a change, or was
accepted and is typed, given its sections so far. -/
inductive Activity.Heeds (payload : Json) (mode : Option CenterMode) (store : Store) :
    Activity → List (World × World) → Prop
  | planned {start} : Heeds payload mode store (.planned start (.dispatch payload mode)) []
  | refused {world time error} (refuses : world.parse payload = (.error error, world)) :
      Heeds payload mode store (.finished time (.result (.error error))) [(world, world)]
  | accepted {activity before chain after} (later : List (World × World))
      (accepts : before.parse payload = (.ok chain, after)) (typed : activity.Typed store) :
      Heeds payload mode store activity (later ++ [(before, after)])

namespace Activity.Heeds

variable {payload : Json} {mode : Option CenterMode} {store next : Store} {activity : Activity}
  {log : List (World × World)}

theorem of_kinds (h : activity.Heeds payload mode store log)
    (kinds : activity.isUnderway = true → store.Keeps next) :
    activity.Heeds payload mode next log := by
  cases h with
  | planned => exact .planned
  | refused refuses => exact .refused refuses
  | accepted later accepts typed =>
    refine .accepted later accepts ?_
    cases activity with
    | ticking => exact typed.of_kinds (kinds rfl)
    | finished => exact typed
    | _ => exact typed.elim

/-- A section of the dispatch. -/
theorem step {world : World} (h : activity.Heeds payload mode world.inputs.store log)
    (session : Session) (ready : activity.isReady world.now = true) :
    (activity.step session world).2.Heeds payload mode
      (activity.step session world).1.inputs.store
      ((world, (activity.step session world).1) :: log) := by
  cases h with
  | planned =>
    dsimp only [Activity.step]
    cases read : world.parse payload with
    | mk result after =>
      cases result with
      | error error =>
        rw [World.start_refused read]
        cases World.parse_error read
        exact .refused read
      | ok chain =>
        simp only [World.start, read, (World.perform_parsed read _).2]
        refine .accepted [] read (.ofTicks (fun tick listed action member => ?_) ..)
        exact World.parse_ok read action (List.mem_flatten_of_mem listed member)
  | refused => cases ready
  | accepted later accepts typed =>
    exact .accepted ((world, _) :: later) accepts (typed.step session)

end Activity.Heeds

namespace Schedule

/-- Nothing is forgotten in a move while a call is under way. -/
def ForgetsAtRest (s next : Schedule) : Prop :=
  ∀ (i start : Nat), s.activities[i]? = some (.planned start .reset) →
    next.activities[i]? ≠ s.activities[i]? → ∀ activity ∈ s.activities, activity.isUnderway = false

/-- The moments of a session from the time that a request joins it at some place, with the worlds
before and after each section of that request, latest first. -/
inductive Logs (session : Session) (joins : Schedule → Request → Prop)
    (moves : Schedule → Schedule → Prop) (i : Nat) (request : Request) :
    Schedule → List (World × World) → Prop
  | asked {s} (start : Nat) (reached : Reached session joins moves s) (allowed : joins s request)
      (place : s.activities.length = i) :
      Logs session joins moves i request (s.join start request) []
  | join {s log} (before : Logs session joins moves i request s log) (start : Nat)
      (other : Request) (allowed : joins s other) :
      Logs session joins moves i request (s.join start other) log
  | elapse {world activities now log}
      (before : Logs session joins moves i request ⟨session, world, activities⟩ log)
      (later : world.now ≤ now)
      (allowed : moves ⟨session, world, activities⟩
        ⟨session, { world with now := now }, activities⟩) :
      Logs session joins moves i request ⟨session, { world with now := now }, activities⟩ log
  /-- Another activity has a section. -/
  | elsewhere {world left activity right log}
      (before : Logs session joins moves i request ⟨session, world, left ++ activity :: right⟩ log)
      (apart : left.length ≠ i) (ready : activity.isReady world.now = true)
      (allowed : moves ⟨session, world, left ++ activity :: right⟩
        ⟨session, (activity.step session world).1,
          left ++ (activity.step session world).2 :: right⟩) :
      Logs session joins moves i request
        ⟨session, (activity.step session world).1,
          left ++ (activity.step session world).2 :: right⟩ log
  /-- The request has a section. -/
  | here {world left activity right log}
      (before : Logs session joins moves i request ⟨session, world, left ++ activity :: right⟩ log)
      (place : left.length = i) (ready : activity.isReady world.now = true)
      (allowed : moves ⟨session, world, left ++ activity :: right⟩
        ⟨session, (activity.step session world).1,
          left ++ (activity.step session world).2 :: right⟩) :
      Logs session joins moves i request
        ⟨session, (activity.step session world).1,
          left ++ (activity.step session world).2 :: right⟩
        ((world, (activity.step session world).1) :: log)

namespace Logs

variable {session : Session} {joins : Schedule → Request → Prop}
  {moves : Schedule → Schedule → Prop} {i : Nat} {request : Request} {s next : Schedule}
  {log : List (World × World)}

theorem session_eq (h : Logs session joins moves i request s log) : s.session = session := by
  induction h with
  | asked _ reached => exact reached.session_eq
  | join _ _ _ _ ih => exact ih
  | _ => rfl

/-- Every move that is allowed goes on with the history. -/
theorem move (h : Logs session joins moves i request s log) (moved : s.Moves next)
    (allowed : moves s next) : ∃ more, Logs session joins moves i request next (more ++ log) := by
  have same := h.session_eq
  cases moved with
  | elapse later =>
    cases same
    exact ⟨[], h.elapse later allowed⟩
  | @advance _ world left activity right ready =>
    cases same
    by_cases place : left.length = i
    · exact ⟨[_], h.here place ready allowed⟩
    · exact ⟨[], h.elsewhere place ready allowed⟩

private theorem getElem?_middle {left right : List Activity} {activity : Activity}
    (place : left.length = i) : (left ++ activity :: right)[i]? = some activity := by
  rw [← place]
  exact Schedule.getElem?_place

/-- At every moment the dispatch is where its history says. -/
theorem heeds {payload : Json} {mode : Option CenterMode}
    (h : Logs session joins ForgetsAtRest i (.dispatch payload mode) s log) :
    ∃ activity, s.activities[i]? = some activity ∧
      activity.Heeds payload mode s.world.inputs.store log := by
  induction h with
  | asked start _ _ place => exact ⟨_, getElem?_middle place, .planned⟩
  | join _ start other _ ih =>
    obtain ⟨activity, found, heeds⟩ := ih
    have inside := (List.getElem?_eq_some_iff.mp found).1
    exact ⟨activity, (List.getElem?_append_left inside).trans found, heeds⟩
  | elapse _ _ _ ih => exact ih
  | @elsewhere world left other right log _ apart ready allowed ih =>
    obtain ⟨activity, found, heeds⟩ := ih
    refine ⟨activity, (getElem?_replaced apart _ _ _).trans found,
      heeds.of_kinds fun underway => ?_⟩
    -- While the dispatch is under way nothing is forgotten, so all kinds stay.
    have kept : other.isReset = false := by
      by_contra resets
      obtain ⟨start, rfl⟩ : ∃ start, other = .planned start .reset := by
        cases other with
        | planned start request =>
          cases request <;> first | exact ⟨start, rfl⟩ | exact absurd rfl resets
        | _ => exact absurd rfl resets
      have rest := allowed left.length start (getElem?_middle rfl)
        (by rw [getElem?_middle rfl, getElem?_middle rfl]; exact nofun)
        activity (List.mem_of_getElem? found)
      exact nomatch underway.symm.trans rest
    exact fun id kind known => (other.step_turn session ready).kind? kept known
  | @here world left other right log _ place ready _ ih =>
    obtain ⟨activity, found, heeds⟩ := ih
    cases (getElem?_middle place).symm.trans found
    exact ⟨_, getElem?_middle place, heeds.step session ready⟩

end Logs

/-- A validation error means that nothing happened. If the answer to a dispatch blames its
arguments, the dispatch had one section, which left the world as it was. If its payload was
accepted, registering the sources of the chain afterwards changed nothing, and at no moment has an
action of the chain, or the dispatch, failed for its arguments. The history goes on with every move
of the schedule that forgets nothing while a call is under way. -/
theorem refused_changes_nothing {session : Session} {joins : Schedule → Request → Prop} {i : Nat}
    {payload : Json} {mode : Option CenterMode} {s : Schedule} {log : List (World × World)}
    (h : Logs session joins ForgetsAtRest i (.dispatch payload mode) s log) :
    (∀ time error, s.activities[i]? = some (.finished time (.result (.error error))) →
      error.isValidation = true → ∃ world, log = [(world, world)]) ∧
    (∀ later before after chain next, log = later ++ [(before, after)] →
      before.parse payload = (.ok chain, next) →
      after = next ∧
      next.inputs.store.ensureAll (World.sourcesOf chain) = (.ok (), next.inputs.store) ∧
      ∃ activity, s.activities[i]? = some activity ∧
        (∀ slot ∈ activity.slots, ∀ error, slot.error? = some error →
          error.isValidation = false) ∧
        ∀ time error, activity = .finished time (.result (.error error)) →
          error.isValidation = false) ∧
    ∀ next, s.Moves next → ForgetsAtRest s next → ∃ more,
      Logs session joins ForgetsAtRest i (.dispatch payload mode) next (more ++ log) := by
  obtain ⟨activity, found, heeds⟩ := h.heeds
  refine ⟨fun time error answered blames => ?_, ?_, fun next => h.move⟩
  · cases found.symm.trans answered
    cases heeds with
    | refused => exact ⟨_, rfl⟩
    | accepted _ _ typed => exact nomatch blames.symm.trans (typed error rfl)
  · intro later before after chain next split accepts
    cases heeds with
    | planned => exact absurd split (by simp)
    | refused refuses =>
      cases later with
      | nil =>
        cases split
        cases refuses.symm.trans accepts
      | cons => simp at split
    | accepted _ accepts' typed =>
      obtain ⟨rfl, ⟨⟩⟩ := List.append_inj' split rfl
      cases accepts'.symm.trans accepts
      refine ⟨rfl, Store.ensureAll_sourcesOf (World.parse_ok accepts), activity, found, ?_, ?_⟩
      · exact fun slot member error fails => (typed.slots slot member).error? fails
      · rintro time error rfl
        exact typed error rfl

/-- A keyboard, and a mistake after it: a key value of two letters. -/
def misspelt : Json :=
  .arr [
    .obj [("type", .str "key"), ("id", .str "left"), ("actions", .arr [
      .obj [("type", .str "keyDown"), ("value", .str "a")]])],
    .obj [("type", .str "key"), ("id", .str "right"), ("actions", .arr [
      .obj [("type", .str "keyDown"), ("value", .str "ab")]])]]

/-- The payload is refused as a whole: not even the keyboard without a mistake is registered. -/
theorem misspelt_refused : ∃ s log time error,
    Logs (.ofConfig .standard) (fun _ _ => True) ForgetsAtRest 0 (.dispatch misspelt none) s log ∧
      s.activities[0]? = some (.finished time (.result (.error error))) ∧
      error.isValidation = true ∧ ∃ world, log = [(world, world)] := by
  have refuses : ((World.initial (.prompt ⟨100, 100⟩)).parse misspelt).1.mapError
      ActionError.isValidation = .error true := by decide +kernel
  have asked : Logs (.ofConfig .standard) (fun _ _ => True) ForgetsAtRest 0
      (.dispatch misspelt none) ⟨.ofConfig .standard, .initial (.prompt ⟨100, 100⟩),
        [.planned 0 (.dispatch misspelt none)]⟩ [] :=
    .asked 0 (.fresh _) trivial rfl
  generalize World.initial (.prompt ⟨100, 100⟩) = world at refuses asked
  cases read : world.parse misspelt with
  | mk result next =>
    rw [read] at refuses
    cases result with
    | ok => cases refuses
    | error error =>
      have blames : error.isValidation = true := Except.error.inj refuses
      have ready : Activity.isReady world.now (.planned 0 (.dispatch misspelt none)) = true := by
        simp [Activity.isReady]
      have ran := @Logs.here _ _ _ _ _ _ [] _ [] _ asked rfl ready
        fun i start resets => by cases i <;> cases resets
      have stepped : Activity.step (.planned 0 (.dispatch misspelt none)) (.ofConfig .standard)
          world = (next, .finished next.now (.result (.error error))) :=
        World.start_refused read ..
      rw [stepped] at ran
      exact ⟨_, _, _, error, ran, rfl, blames,
        (refused_changes_nothing ran).1 _ error rfl blames⟩

end Schedule

end InputActions
