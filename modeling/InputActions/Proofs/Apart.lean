import InputActions.Proofs.Framing
import Mathlib.Logic.Relation

/-!
# Calls on different sources

Calls that use different names do not notice each other. While they run together in any order, each
is on its way to the account that it comes to on its own (`Activity.Keeps`): its own sections lead
there, and the sections of the others leave its sources alone. `Schedule.apart_as_alone` says so for
two calls.
-/
namespace InputActions

/-! ### Requests -/

namespace Request

/-- What a request comes to when its sources are registered and its actions applied one after the
other. -/
def account (request : Request) (session : Session) (scene : Scene) (world : World) : Account :=
  let (read, store) := request.prepare world
  let next := world.withStore store
  match read with
  | .error error => { next.account with failure := some error }
  | .ok chain => chain.inTurn (request.context session) scene next.account

/-- A request that runs a chain no tick of which moves a pointer twice. -/
structure MovesApart (request : Request) (world : World) : Prop where
  performs : request.performs = true
  apart : ∀ chain, (request.prepare world).1 = .ok chain → ∀ tick ∈ chain, Tick.MovesApart tick

variable {request : Request} {world other : World} {session : Session} {scene : Scene}

/-- Worlds that agree on the names of a request have the same chain for it. -/
theorem MovesApart.of_agree (h : request.MovesApart world)
    (agree : other.inputs.AgreeOn request.names world.inputs) : request.MovesApart other := by
  refine ⟨h.performs, fun chain read => h.apart chain ?_⟩
  rw [← (prepare_agree agree.store).1]
  exact read

/-- What a request comes to depends on its own sources. -/
theorem account_agree (agree : other.inputs.AgreeOn request.names world.inputs) :
    (request.account session scene other).AgreeOn request.names
      (request.account session scene world) := by
  obtain ⟨same, stores⟩ := prepare_agree agree.store
  unfold account
  dsimp only
  rw [same]
  cases read : (request.prepare world).1 with
  | error error => exact ⟨⟨stores, agree.pending⟩, rfl⟩
  | ok chain => exact Chain.inTurn_agree (prepare_names read) ⟨⟨stores, agree.pending⟩, rfl⟩

end Request

/-- What is under way in a call is for sources of these names. -/
def Activity.Within (names : List SourceId) : Activity → Prop
  | .ticking _ _ slots rest =>
    (∀ slot ∈ slots, slot.Within names) ∧ ∀ tick ∈ rest, ∀ action ∈ tick, action.id ∈ names
  | .finished .. => True
  | _ => False

theorem Activity.within_ofTicks {names : List SourceId} {ticks : Chain}
    (own : ∀ tick ∈ ticks, ∀ action ∈ tick, action.id ∈ names) (context : Context) (now : Nat) :
    (ofTicks context now ticks).Within names := by
  cases ticks with
  | nil => trivial
  | cons tick rest =>
    obtain ⟨first, later⟩ := List.forall_mem_cons.mp own
    refine ⟨fun slot member => ?_, later⟩
    obtain ⟨action, listed, rfl⟩ := List.mem_map.mp member
    exact Slot.within_ready (first action listed)

namespace World

variable {request : Request} {world : World}

/-- A request that begins is on the way to its account. -/
theorem start_leadsTo (runs : request.MovesApart world) {scene : Scene}
    (shows : world.host.Shows scene) (session : Session) :
    (world.start session request).2.LeadsTo (request.context session) scene
        (request.account session scene world) (world.start session request).1 ∧
      (world.start session request).2.Within request.names := by
  rw [start_prepare runs.performs, Request.account]
  dsimp only
  cases read : (request.prepare world).1 with
  | error error => exact ⟨.finished rfl rfl, trivial⟩
  | ok chain =>
    have shows : (world.withStore (request.prepare world).2).host.Shows scene := shows
    exact ⟨.ofTicks shows (runs.apart chain read) rfl _,
      Activity.within_ofTicks (Request.prepare_names read) _ _⟩

/-- A request that begins registers names of its own at most. -/
theorem start_touches (performs : request.performs = true) (session : Session) :
    world.Touches request.names (world.start session request).1 := by
  have turn : (Activity.planned world.now request).Turn world _ _ :=
    Activity.step_turn session (decide_eq_true (Nat.le_refl _))
  have kept : (Activity.planned world.now request).isReset = false := by
    cases request with
    | reset => cases performs
    | _ => rfl
  have kinds (id : SourceId) (kind : SourceKind) (known : world.inputs.store.kind? id = some kind) :
      (world.start session request).1.inputs.store.kind? id = some kind := turn.kind? kept known
  rw [start_prepare performs] at kinds ⊢
  exact ⟨fun id foreign => Request.getElem?_prepare foreign,
    ⟨[], (List.append_nil _).symm, List.forall_mem_nil _⟩, kinds, rfl⟩

end World

/-! ### Calls -/

namespace Activity

section
variable {names others : List SourceId} {context : Context} {scene : Scene} {account : Account}
  {world after : World} {activity : Activity}

/-- A call goes on with its own sources. -/
theorem LeadsTo.step_within (h : activity.LeadsTo context scene account world)
    (within : activity.Within names) (session : Session)
    (ready : activity.isReady world.now = true) :
    world.Touches names (activity.step session world).1 ∧
      (activity.step session world).2.Within names := by
  cases h with
  | finished => cases ready
  | @ticking duration slots rest shows awaits apart later comes =>
    obtain ⟨own, rest_own⟩ := within
    unfold Activity.step
    dsimp only
    split
    next ran =>
      obtain ⟨left, slot, right, rfl, -, -, rfl, rfl⟩ := Slot.stepFirst_eq_some ran
      have member : slot ∈ left ++ slot :: right := by simp
      have mine := own slot member
      have surface := slot.step_surface context duration world
      refine ⟨(slot.step_turn context duration world).touches mine surface, ?_, rest_own⟩
      intro other listed
      rcases List.mem_append.mp listed with before | ran
      · exact own other (List.mem_append_left _ before)
      · rcases List.mem_cons.mp ran with rfl | behind
        · exact mine.step shows (awaits slot member) duration
        · exact own other (List.mem_append_right left (List.mem_cons_of_mem slot behind))
    · refine ⟨.of_same rfl rfl, ?_⟩
      unfold Activity.afterTick
      split
      · trivial
      · exact within_ofTicks rest_own _ _

/-- What another call does with its sources leaves a call on the way to the same. -/
theorem LeadsTo.beside (h : activity.LeadsTo context scene account world)
    (within : activity.Within names) (touches : world.Touches others after)
    (apart : ∀ id ∈ names, id ∉ others) :
    ∃ next, activity.LeadsTo context scene next after ∧ next.AgreeOn names account := by
  have agree : after.inputs.AgreeOn names world.inputs := touches.agreeOn apart
  cases h with
  | @finished time answer failure comes answers =>
    subst comes
    exact ⟨⟨after.inputs, after.host.reports, failure⟩, .finished rfl answers, agree, rfl⟩
  | @ticking duration slots rest shows awaits moves later comes =>
    subst comes
    obtain ⟨own, rest_own⟩ := within
    have shows := shows.of_surface touches.surface
    have awaits : ∀ slot ∈ slots, slot.Awaits scene after.inputs := fun slot member =>
      (awaits slot member).of_mice fun id mouse => touches.kinds id _ mouse
    refine ⟨_, .ticking shows awaits moves later rfl, ?_⟩
    have start : after.account.AgreeOn names world.account := ⟨agree, rfl⟩
    have slots_agree : (Slot.inTurn context scene slots after.account).AgreeOn names
        (Slot.inTurn context scene slots world.account) :=
      Slot.inTurn_agree (fun slot member => (own slot member).ready) start
    exact Chain.inTurn_agree rest_own slots_agree

end

/-- A call that runs beside others is still to begin, with its sources as they were, or on the way
to what it comes to on its own. -/
inductive Keeps (session : Session) (scene : Scene) (start : World) (request : Request)
    (world : World) : Activity → Prop
  | planned {instant} (agree : world.inputs.AgreeOn request.names start.inputs) :
      Keeps session scene start request world (.planned instant request)
  | begun {activity account} (within : activity.Within request.names)
      (leads : activity.LeadsTo (request.context session) scene account world)
      (comes : account.AgreeOn request.names (request.account session scene start)) :
      Keeps session scene start request world activity

namespace Keeps

variable {names : List SourceId} {session : Session} {scene : Scene} {start world after : World}
  {request : Request} {activity : Activity}

theorem step (h : activity.Keeps session scene start request world)
    (runs : request.MovesApart start) (shows : world.host.Shows scene)
    (ready : activity.isReady world.now = true) :
    (activity.step session world).2.Keeps session scene start request
        (activity.step session world).1 ∧
      world.Touches request.names (activity.step session world).1 := by
  cases h with
  | planned agree =>
    obtain ⟨leads, within⟩ := World.start_leadsTo (runs.of_agree agree) shows session
    exact ⟨.begun within leads (Request.account_agree agree),
      World.start_touches runs.performs session⟩
  | begun within leads comes =>
    obtain ⟨touches, within⟩ := leads.step_within within session ready
    exact ⟨.begun within (leads.step session ready) comes, touches⟩

theorem beside (h : activity.Keeps session scene start request world)
    (touches : world.Touches names after) (apart : ∀ id ∈ request.names, id ∉ names) :
    activity.Keeps session scene start request after := by
  cases h with
  | planned agree => exact .planned ((touches.agreeOn apart).trans agree)
  | begun within leads comes =>
    obtain ⟨next, leads, agree⟩ := leads.beside within touches apart
    exact .begun within leads (agree.trans comes)

/-- A call that is finished has the answer, the sources and the entries that it has on its own. -/
theorem answer (h : activity.Keeps session scene start request world)
    (finished : activity.isFinished = true) :
    (∃ time, activity = .finished time (.result (request.account session scene start).result)) ∧
      world.inputs.AgreeOn request.names (request.account session scene start).inputs := by
  cases h with
  | planned => cases finished
  | begun within leads comes =>
    cases leads with
    | ticking => cases finished
    | @finished time answer failure same answers =>
      subst same
      have result : Account.result ⟨world.inputs, world.host.reports, failure⟩ =
          (request.account session scene start).result := by
        rw [Account.result, Account.result, comes.failure]
      exact ⟨⟨time, by rw [answers, result]⟩, comes.inputs⟩

end Keeps

end Activity

/-! ### Calls side by side -/

namespace Schedule

/-- The calls of a schedule make these requests. Each keeps to what it comes to on its own, and they
have changed their sources at most. -/
structure Apart (session : Session) (scene : Scene) (start : World) (requests : List Request)
    (s : Schedule) : Prop where
  session_eq : s.session = session
  length : s.activities.length = requests.length
  calls : ∀ (i : Nat) (request : Request) (activity : Activity), requests[i]? = some request →
    s.activities[i]? = some activity → activity.Keeps session scene start request s.world
  touches : start.Touches (requests.flatMap (·.names)) s.world

variable {session : Session} {scene : Scene} {start : World} {requests : List Request}
  {s next : Schedule}

/-- Calls that are still to begin. -/
theorem Apart.of_planned (plans : List (Nat × Request)) :
    Apart session scene start (plans.map (·.2))
      ⟨session, start, plans.map fun plan => .planned plan.1 plan.2⟩ where
  session_eq := rfl
  length := by simp
  calls i request activity asked stands := by
    obtain ⟨plan, found, rfl⟩ := Option.map_eq_some_iff.mp (List.getElem?_map.symm.trans asked)
    rw [List.getElem?_map, found] at stands
    cases stands
    exact .planned (.refl _ _)
  touches := .of_same rfl rfl

/-- Requests in different places have no name in common. -/
private theorem names_apart
    (apart : requests.Pairwise fun one other => ∀ id ∈ one.names, id ∉ other.names) {i j : Nat}
    (distinct : i ≠ j) {one other : Request} (here : requests[i]? = some one)
    (there : requests[j]? = some other) : ∀ id ∈ one.names, id ∉ other.names := by
  obtain ⟨inside, rfl⟩ := List.getElem?_eq_some_iff.mp here
  obtain ⟨inside', rfl⟩ := List.getElem?_eq_some_iff.mp there
  have ordered := List.pairwise_iff_getElem.mp apart
  rcases Nat.lt_or_gt_of_ne distinct with before | behind
  · exact ordered i j inside inside' before
  · exact fun id own foreign => ordered j i inside' inside behind id foreign own

/-- Whichever call moves, all of them keep to their own. -/
theorem Apart.moves (h : s.Apart session scene start requests) (moved : s.Moves next)
    (runs : ∀ request ∈ requests, request.MovesApart start)
    (apart : requests.Pairwise fun one other => ∀ id ∈ one.names, id ∉ other.names)
    (shows : start.host.Shows scene) : next.Apart session scene start requests := by
  obtain ⟨same, length, calls, touches⟩ := h
  cases moved with
  | elapse =>
    -- The passing of time is a stretch in which nothing is touched.
    have still {world : World} (now : Nat) : world.Touches [] { world with now := now } :=
      .of_same rfl rfl
    refine ⟨same, length, fun i request activity asked stands => ?_, ?_⟩
    · exact (calls i request activity asked stands).beside (still _)
        fun _ _ => List.not_mem_nil
    · exact touches.trans ((still _).mono fun _ own => absurd own List.not_mem_nil)
  | @advance held world left activity right ready =>
    subst same
    obtain ⟨request, asked⟩ : ∃ request, requests[left.length]? = some request := by
      have inside : left.length < requests.length := by
        rw [← length]
        simp
      exact ⟨_, List.getElem?_eq_getElem inside⟩
    have listed := List.mem_of_getElem? asked
    have keeps := calls left.length request activity asked (by simp)
    obtain ⟨keeps, touched⟩ :=
      keeps.step (runs request listed) (shows.of_surface touches.surface) ready
    -- The call that moved has had its step, and the others have seen it touch foreign names.
    refine ⟨rfl, by simpa using length, fun i other run there stands => ?_, ?_⟩
    · by_cases here : left.length = i
      · subst here
        cases asked.symm.trans there
        have ran : run = (activity.step held world).2 := by simpa [eq_comm] using stands
        subst ran
        exact keeps
      · rw [getElem?_replaced here activity] at stands
        have others := names_apart apart (Ne.symm here) there asked
        exact (calls i other run there stands).beside touched others
    · exact touches.trans (touched.mono fun id own => List.mem_flatMap.mpr ⟨request, listed, own⟩)

/-- Calls that have begun apart stay apart. -/
theorem Apart.run (h : s.Apart session scene start requests)
    (moved : Relation.ReflTransGen Moves s next)
    (runs : ∀ request ∈ requests, request.MovesApart start)
    (apart : requests.Pairwise fun one other => ∀ id ∈ one.names, id ∉ other.names)
    (shows : start.host.Shows scene) : next.Apart session scene start requests := by
  induction moved with
  | refl => exact h
  | tail _ moved ih => exact ih.moves moved runs apart shows

/-- A call that is finished has its own answer, and what it has made of its sources. -/
theorem Apart.answer (h : s.Apart session scene start requests) (finished : s.isFinished = true)
    {i : Nat} {request : Request} (asked : requests[i]? = some request) :
    (∃ time, s.activities[i]? =
        some (.finished time (.result (request.account session scene start).result))) ∧
      s.world.inputs.AgreeOn request.names (request.account session scene start).inputs := by
  obtain ⟨inside, -⟩ := List.getElem?_eq_some_iff.mp asked
  rw [← h.length] at inside
  have stands := List.getElem?_eq_getElem inside
  have ended := List.all_eq_true.mp finished _ (List.getElem_mem inside)
  obtain ⟨⟨time, answered⟩, agree⟩ := (h.calls i request _ asked stands).answer ended
  exact ⟨⟨time, by rw [stands, answered]⟩, agree⟩

/-- Any number of steps is a number of moves. -/
theorem reaches_steps (s : Schedule) (n : Nat) : Relation.ReflTransGen Moves s (s.steps n) := by
  induction n generalizing s with
  | zero => exact .refl
  | succ n ih =>
    rw [steps]
    rcases step_moves s with same | moved
    · rw [same]
      exact ih s
    · exact .head moved (ih s.step)

theorem reaches_run (s : Schedule) : Relation.ReflTransGen Moves s s.run := by
  obtain ⟨n, ran⟩ := s.exists_run_eq
  rw [ran]
  exact s.reaches_steps n

end Schedule

namespace World

variable {request : Request} {world : World} {scene : Scene}

/-- What a call comes to on its own. -/
theorem ask_alone (runs : request.MovesApart world) (shows : world.host.Shows scene)
    (session : Session) :
    let ended := world.ask session request
    ended.2 = .result (request.account session scene world).result ∧
      ended.1.inputs.AgreeOn request.names (request.account session scene world).inputs ∧
      world.Touches request.names ended.1 := by
  intro ended
  let begun : Schedule := ⟨session, world, [.planned world.now request]⟩
  have planned : begun.Apart session scene world [request] := .of_planned [(world.now, request)]
  have kept := planned.run begun.reaches_run (List.forall_mem_singleton.mpr runs)
    (List.pairwise_singleton _ _) shows
  have asked : [request][0]? = some request := rfl
  obtain ⟨⟨time, answered⟩, agree⟩ := kept.answer begun.run_finished asked
  have only : begun.run.activities =
      [.finished time (.result (request.account session scene world).result)] := by
    obtain ⟨activity, single⟩ := List.length_eq_one_iff.mp kept.length
    rw [single] at answered ⊢
    cases answered
    rfl
  have same : ended = (begun.run.world, .result (request.account session scene world).result) :=
    ask_of_run only
  rw [same]
  refine ⟨rfl, agree, ?_⟩
  simpa using kept.touches

end World

/-! ### Two calls -/

/-- The last list has the items of the two others, each of them in its order. -/
inductive Merges {α : Type} : List α → List α → List α → Prop
  | nil : Merges [] [] []
  | left {items others merged} (item : α) (rest : Merges items others merged) :
      Merges (item :: items) others (item :: merged)
  | right {items others merged} (other : α) (rest : Merges items others merged) :
      Merges items (other :: others) (other :: merged)

/-- What is of one kind or of the other is merged from its kinds. -/
theorem Merges.of_filter {α : Type} {one other : α → Bool} {merged : List α}
    (either : ∀ item ∈ merged, one item = !other item) :
    Merges (merged.filter one) (merged.filter other) merged := by
  induction merged with
  | nil => exact .nil
  | cons item merged ih =>
    obtain ⟨first, rest⟩ := List.forall_mem_cons.mp either
    cases kind : other item with
    | false =>
      rw [List.filter_cons_of_pos (by simp [first, kind]), List.filter_cons_of_neg (by simp [kind])]
      exact .left item (ih rest)
    | true =>
      rw [List.filter_cons_of_neg (by simp [first, kind]), List.filter_cons_of_pos kind]
      exact .right item (ih rest)

/-- What more is owed for certain names, when it agrees with what is owed for them alone. -/
private theorem filter_owed {names : List SourceId} {before owed merged : List Action}
    (own : ∀ entry ∈ owed, entry.id ∈ names)
    (agree : (before ++ merged).filter (·.id ∈ names) = (before ++ owed).filter (·.id ∈ names)) :
    merged.filter (·.id ∈ names) = owed := by
  rw [List.filter_append, List.filter_append, List.append_cancel_left_eq] at agree
  rw [agree, List.filter_eq_self]
  exact fun entry member => decide_eq_true (own entry member)

namespace Schedule

section
variable {session : Session} {world : World} {scene : Scene} {first second : Request}
  {s : Schedule}

/-- Two calls side by side owe what each of them owes alone. -/
private theorem Apart.merges (h : s.Apart session scene world [first, second])
    (finished : s.isFinished = true) (shows : world.host.Shows scene)
    (one : first.MovesApart world) (other : second.MovesApart world)
    (apart : ∀ id ∈ first.names, id ∉ second.names) :
    ∃ owed more merged,
      (world.ask session first).1.inputs.pending.entries =
        world.inputs.pending.entries ++ owed ∧
      (world.ask session second).1.inputs.pending.entries =
        world.inputs.pending.entries ++ more ∧
      s.world.inputs.pending.entries = world.inputs.pending.entries ++ merged ∧
      Merges owed more merged := by
  obtain ⟨-, agree, touches⟩ := World.ask_alone one shows session
  obtain ⟨-, agree', touches'⟩ := World.ask_alone other shows session
  obtain ⟨owed, owes, own⟩ := touches.pending
  obtain ⟨more, owes', own'⟩ := touches'.pending
  obtain ⟨merged, both, named⟩ := h.touches.pending
  refine ⟨owed, more, merged, owes, owes', both, ?_⟩
  have here : [first, second][0]? = some first := rfl
  have there : [first, second][1]? = some second := rfl
  -- Filtered by the names of a call, the entries are those that it owes alone.
  have mine : merged.filter (·.id ∈ first.names) = owed := by
    have same := ((h.answer finished here).2.trans agree.symm).pending
    rw [both, owes] at same
    exact filter_owed own same
  have others : merged.filter (·.id ∈ second.names) = more := by
    have same := ((h.answer finished there).2.trans agree'.symm).pending
    rw [both, owes'] at same
    exact filter_owed own' same
  rw [← mine, ← others]
  apply Merges.of_filter
  intro entry member
  have either : entry.id ∈ first.names ∨ entry.id ∈ second.names := by
    simpa using named entry member
  rcases either with left | right
  · simp [left, apart _ left]
  · have foreign : entry.id ∉ first.names := fun left => apart _ left right
    simp [foreign, right]

/-- Two calls side by side leave the sources that they leave one after the other. -/
private theorem Apart.store_eq (h : s.Apart session scene world [first, second])
    (finished : s.isFinished = true) (shows : world.host.Shows scene)
    (one : first.MovesApart world) (other : second.MovesApart world)
    (apart : ∀ id ∈ first.names, id ∉ second.names) :
    s.world.inputs.store =
      ((world.ask session first).1.ask session second).1.inputs.store := by
  obtain ⟨-, agree, touches⟩ := World.ask_alone one shows session
  generalize (world.ask session first).1 = middle at agree touches ⊢
  -- The second call finds its own sources as they were before the first.
  have found : middle.inputs.AgreeOn second.names world.inputs :=
    touches.agreeOn fun id own foreign => apart id foreign own
  obtain ⟨-, agree', touches'⟩ :=
    World.ask_alone (other.of_agree found) (shows.of_surface touches.surface) session
  have here : [first, second][0]? = some first := rfl
  have there : [first, second][1]? = some second := rfl
  -- A name belongs to the first call, to the second, or to neither.
  apply Std.ExtTreeMap.ext_getElem?
  intro id
  by_cases mine : id ∈ first.names
  · have left := (h.answer finished here).2.trans agree.symm
    rw [left.store id mine, touches'.store id (apart id mine)]
  · by_cases yours : id ∈ second.names
    · have comes : (second.account session scene middle).AgreeOn second.names
          (second.account session scene world) := Request.account_agree found
      have right := (h.answer finished there).2.trans (agree'.trans comes.inputs).symm
      rw [right.store id yours]
    · rw [h.touches.store id (by simp [mine, yours]), touches'.store id yours,
        touches.store id mine]

private theorem Apart.answers (h : s.Apart session scene world [first, second])
    (finished : s.isFinished = true) :
    ∃ time later, s.activities =
      [.finished time (.result (first.account session scene world).result),
        .finished later (.result (second.account session scene world).result)] := by
  have here : [first, second][0]? = some first := rfl
  have there : [first, second][1]? = some second := rfl
  obtain ⟨⟨time, left⟩, -⟩ := h.answer finished here
  obtain ⟨⟨later, right⟩, -⟩ := h.answer finished there
  obtain ⟨a, b, both⟩ := List.length_eq_two.mp h.length
  rw [both] at left right ⊢
  cases left
  cases right
  exact ⟨time, later, rfl⟩

/-- Two calls on different sources do not interfere, whenever they begin, in whatever order their
sections run, and however much time passes between them. From every moment they can come to an end.
When they have, each of them has the answer that it has alone, the sources are those that the first
call and then the second leave, and what is owed more is what each of them owes alone, merged. -/
theorem apart_as_alone {early late : Nat}
    (shows : world.host.Shows scene) (one : first.MovesApart world)
    (other : second.MovesApart world) (apart : ∀ id ∈ first.names, id ∉ second.names)
    (h : Relation.ReflTransGen Moves
      ⟨session, world, [.planned early first, .planned late second]⟩ s) :
    (Relation.ReflTransGen Moves s s.run ∧ s.run.isFinished = true) ∧
      (s.isFinished = true →
        let alone := world.ask session first
        let beside := world.ask session second
        (∃ time later, s.activities = [.finished time alone.2, .finished later beside.2]) ∧
          s.world.inputs.store = (alone.1.ask session second).1.inputs.store ∧
          ∃ owed more merged,
            alone.1.inputs.pending.entries = world.inputs.pending.entries ++ owed ∧
            beside.1.inputs.pending.entries = world.inputs.pending.entries ++ more ∧
            s.world.inputs.pending.entries = world.inputs.pending.entries ++ merged ∧
            Merges owed more merged) := by
  have planned : Apart session scene world [first, second]
      ⟨session, world, [.planned early first, .planned late second]⟩ :=
    .of_planned [(early, first), (late, second)]
  have kept := planned.run h (by simp [one, other]) (by simpa using apart) shows
  refine ⟨⟨s.reaches_run, s.run_finished⟩, fun finished => ?_⟩
  refine ⟨?_, kept.store_eq finished shows one other apart,
    kept.merges finished shows one other apart⟩
  obtain ⟨left, -⟩ := World.ask_alone one shows session
  obtain ⟨right, -⟩ := World.ask_alone other shows session
  rw [left, right]
  exact kept.answers finished

end

end Schedule

/-- A payload in which a mouse moves to the right and presses its button. -/
def clicker : Request := .dispatch (.arr [.obj [("type", .str "pointer"), ("id", .str "mouse"),
    ("actions", .arr [
      .obj [("type", .str "pointerMove"), ("x", .int 30), ("duration", .int 20)],
      .obj [("type", .str "pointerDown"), ("button", .int 0)]])]]) none

/-- A chain that presses a key which sets a flag, waits, and presses another key. -/
def typist : Request := .perform
  [[⟨⟨"keyboard"⟩, .key, none, .keyDown "\uE008"⟩], [⟨⟨"keyboard"⟩, .key, none, .pause (some 40)⟩],
    [⟨⟨"keyboard"⟩, .key, none, .keyDown "a"⟩]] none

/-- The payload is dispatched while the keys are pressed. -/
def together : Schedule :=
  ⟨.ofConfig .standard, .initial lags, [.planned 3 typist, .planned 1 clicker]⟩

/-- The button goes down between the two keys, and what is owed for it stands between theirs. -/
theorem together_as_alone :
    let alone := (World.initial lags).ask (.ofConfig .standard) typist
    let beside := (World.initial lags).ask (.ofConfig .standard) clicker
    let s := together.steps 29
    (∃ time later, s.activities = [.finished time alone.2, .finished later beside.2]) ∧
      s.world.inputs.store = (alone.1.ask (.ofConfig .standard) clicker).1.inputs.store ∧
      s.world.inputs.pending.entries.map (·.id.text) = ["keyboard", "mouse", "keyboard"] ∧
      Merges alone.1.inputs.pending.entries beside.1.inputs.pending.entries
        s.world.inputs.pending.entries := by
  intro alone beside s
  have shows : (World.initial lags).host.Shows
      ⟨⟨100, 100⟩, none, fun _ => none, fun _ => false, false⟩ :=
    ⟨rfl, fun _ _ => rfl, rfl, rfl, rfl, fun _ _ => rfl⟩
  have types : typist.MovesApart (.initial lags) := by
    refine ⟨rfl, fun chain runs => ?_⟩
    cases runs
    unfold Tick.MovesApart
    decide
  have clicks : clicker.MovesApart (.initial lags) := by
    refine ⟨rfl, fun chain runs => ?_⟩
    have read : (clicker.prepare (.initial lags)).1 =
        .ok [[⟨⟨"mouse"⟩, .pointer, some .mouse, .pointerMove (some 20) .viewport 30 0⟩],
          [⟨⟨"mouse"⟩, .pointer, some .mouse, .pointerDown 0⟩]] := by decide +kernel
    cases runs.symm.trans read
    unfold Tick.MovesApart
    decide
  have apart : ∀ id ∈ typist.names, id ∉ clicker.names := by decide +kernel
  obtain ⟨-, ends⟩ := Schedule.apart_as_alone shows types clicks apart (together.reaches_steps 29)
  have finished : s.isFinished = true := by decide +kernel
  obtain ⟨answers, store, owed, more, merged, owes, owes', both, merges⟩ := ends finished
  refine ⟨answers, store, by decide +kernel, ?_⟩
  -- Nothing is owed at first.
  have none : (World.initial lags).inputs.pending.entries = [] := rfl
  rw [none, List.nil_append] at owes owes' both
  rw [owes, owes', both]
  exact merges

end InputActions
