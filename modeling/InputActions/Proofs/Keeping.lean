import InputActions.Proofs.Chronicle
import InputActions.Proofs.Conflicting
import InputActions.Proofs.Forgetting
import InputActions.Proofs.Naming
import InputActions.Proofs.Typing

/-!
# Sources stay what they are

From one reset to the next a source that is known stays known under its kind, and only two things
change what is known of a name: the request that registers it, and the sections of an action for it
(`Advance.Handles`). Whoever gives a known name another kind is refused at once, and no section of
that call ever tells the surface anything: `Schedule.sources_stay`.
-/
namespace InputActions

/-! ### Sections of actions -/

/-- A wait of an action for the source of this name. -/
def Wait.For (id : SourceId) : Wait → Prop
  | .pause => True
  | .keydown own .. => own = id
  | .keypress _ => True
  | .keyup own .. => own = id
  | .mousedown own .. => own = id
  | .contextmenu _ => True
  | .mouseup own .. => own = id
  | .center move .. => move.id = id
  | .viewport move .. => move.id = id
  | .sample move _ => move.id = id
  | .step move .. => move.id = id
  | .arrival own .. => own = id

/-- Where an action for the source of this name can be. -/
def Slot.For (id : SourceId) : Slot → Prop
  | .ready action => action.id = id
  | .waiting _ wait => wait.For id
  | .settled _ => True

theorem Wait.for_of_lift? {wait : Wait} {id own : SourceId} {trigger : Trigger} {verdict : Verdict}
    (h : wait.For id) (under : wait.lift? = some (own, trigger, verdict)) : own = id := by
  cases wait with
  | keyup => cases under; exact h
  | mouseup => cases under; exact h
  | _ => cases under

theorem Wait.for_of_landing? {wait : Wait} {id own : SourceId} {target : Point} {verdict : Verdict}
    (h : wait.For id) (lands : wait.landing? = some (own, target, verdict)) : own = id := by
  cases wait with
  | step => cases lands; exact h
  | arrival => cases lands; exact h
  | _ => cases lands

/-- The move that an action has under way. -/
def Wait.move? : Wait → Option Move
  | .center move .. => some move
  | .viewport move .. => some move
  | .sample move _ => some move
  | .step move .. => some move
  | _ => none

theorem Wait.for_of_move? {wait : Wait} {id : SourceId} {move : Move} (h : wait.For id)
    (moves : wait.move? = some move) : move.id = id := by
  cases wait with
  | center => cases moves; exact h
  | viewport => cases moves; exact h
  | sample => cases moves; exact h
  | step => cases moves; exact h
  | _ => cases moves

/-- What a section can leave in this world: the result of its action, or a wait. -/
inductive Slot.Leaves (world : World) : Slot → Slot → Prop
  | settled {slot result} : Leaves world slot (.settled result)
  | pause {action wake} : Leaves world (.ready action) (.waiting wake .pause)
  | keydown {action wake event printable verdict} :
      Leaves world (.ready action) (.waiting wake (.keydown action.id event printable verdict))
  | keyup {action wake key verdict} :
      Leaves world (.ready action) (.waiting wake (.keyup action.id key verdict))
  | mousedown {action wake event opensMenu verdict} :
      Leaves world (.ready action) (.waiting wake (.mousedown action.id event opensMenu verdict))
  | mouseup {action wake button verdict} :
      Leaves world (.ready action) (.waiting wake (.mouseup action.id button verdict))
  /-- A move asks for the centre of an element. -/
  | center {action wake move ref} (own : move.id = action.id) :
      Leaves world (.ready action) (.waiting wake (.center move ref (world.askCenter ref).2.1))
  /-- A move asks for the viewport, if it is measured from a place that is known. -/
  | viewport {action wake move base} (own : move.id = action.id) :
      Leaves world (.ready action) (.waiting wake (.viewport move base world.askViewport.2.1))
  | keypress {due id event printable heard wake verdict} :
      Leaves world (.waiting due (.keydown id event printable heard))
        (.waiting wake (.keypress verdict))
  | contextmenu {due id event opensMenu heard wake verdict} :
      Leaves world (.waiting due (.mousedown id event opensMenu heard))
        (.waiting wake (.contextmenu verdict))
  /-- A move knows the centre, and asks for the viewport. -/
  | measures {due move ref refusal wake base} :
      Leaves world (.waiting due (.center move ref refusal))
        (.waiting wake (.viewport move base world.askViewport.2.1))
  | sample {due wait move wake target} (moves : wait.move? = some move) :
      Leaves world (.waiting due wait) (.waiting wake (.sample move target))
  | step {due wait move wake target position verdict} (moves : wait.move? = some move) :
      Leaves world (.waiting due wait) (.waiting wake (.step move target position verdict))
  | arrival {due wait move wake target verdict} (moves : wait.move? = some move) :
      Leaves world (.waiting due wait) (.waiting wake (.arrival move.id target verdict))

section
variable {due : Nat} {wait : Wait} {move : Move} (moves : wait.move? = some move)
  (before world : World)
include moves

private theorem leaves_moveToTarget (target : Point) :
    (Slot.waiting due wait).Leaves before (.ofOutcome (world.moveToTarget move.id target).1
      (world.moveToTarget move.id target).2) := by
  unfold World.moveToTarget
  split
  · exact .settled
  · exact .settled
  · exact .arrival moves

private theorem leaves_moveToSample (session : Session) (target position : Point) :
    (Slot.waiting due wait).Leaves before
      (.ofOutcome (world.moveToSample session move target position).1
        (world.moveToSample session move target position).2) := by
  unfold World.moveToSample
  split
  · exact .settled
  · exact .sample moves
  · exact .step moves

end

/-- The first section of an action. -/
theorem Action.begin_leaves (action : Action) (context : Context) (duration : UInt64)
    (world : World) :
    (Slot.ready action).Leaves world (.ofOutcome (action.begin context duration world).1
      (action.begin context duration world).2) := by
  unfold begin
  cases action.gesture with
  | pause time =>
    dsimp only
    split
    · exact .settled
    · exact .pause
  | keyDown value =>
    dsimp only [beginKeyDown]
    split
    · exact .settled
    · exact .keydown
  | keyUp value =>
    dsimp only [beginKeyUp]
    split
    · exact .settled
    · exact .settled
    · exact .keyup
  | pointerDown button =>
    dsimp only [beginPointerDown]
    split
    · exact .settled
    · exact .settled
    · exact .mousedown
  | pointerUp button =>
    dsimp only [beginPointerUp]
    split
    · exact .settled
    · exact .settled
    · exact .mouseup
  | pointerMove time origin dx dy =>
    dsimp only [beginPointerMove]
    split
    · exact .settled
    · cases origin with
      | viewport => exact .viewport rfl
      | pointer => exact .viewport rfl
      | element ref => exact .center rfl
  | pointerCancel => exact .settled

/-- A later section of an action. -/
theorem Wait.resume_leaves (wait : Wait) (due : Nat) (context : Context) (world : World) :
    (Slot.waiting due wait).Leaves world (.ofOutcome (wait.resume context world).1
      (wait.resume context world).2) := by
  cases wait with
  | pause => exact .settled
  | keydown id event printable verdict =>
    dsimp only [resume]
    split
    · exact .settled
    · dsimp only [afterKeydown]
      split
      · exact .keypress
      · exact .settled
  | keyup _ _ verdict | mouseup _ _ verdict =>
    dsimp only [resume]
    split
    · dsimp only [refused]
      split <;> exact .settled
    · exact .settled
  | mousedown id event opensMenu verdict =>
    dsimp only [resume]
    split
    · exact .settled
    · split
      · exact .contextmenu
      · exact .settled
  | keypress verdict | contextmenu verdict =>
    dsimp only [resume]
    split <;> exact .settled
  | center move ref refusal =>
    dsimp only [resume]
    split
    · exact .settled
    · split
      · exact .settled
      · exact .measures
  | viewport move base refusal =>
    dsimp only [resume]
    split
    · exact .settled
    · dsimp only [setOut]
      split
      · exact .settled
      · split
        · exact leaves_moveToTarget rfl world world _
        · exact .sample rfl
  | sample move target =>
    dsimp only [resume, takeSample]
    split
    · exact leaves_moveToSample rfl world world context.session target _
    · exact leaves_moveToTarget rfl world world target
  | step move target position verdict =>
    dsimp only [resume]
    split
    · exact .settled
    · split
      · exact .settled
      · exact .sample rfl
  | arrival id target verdict =>
    dsimp only [resume]
    split
    · exact .settled
    · split <;> exact .settled

namespace Slot

variable {slot : Slot} {id : SourceId}

theorem step_leaves (slot : Slot) (context : Context) (duration : UInt64) (world : World) :
    slot.Leaves world (slot.step context duration world).2 := by
  cases slot with
  | ready action => exact action.begin_leaves context duration world
  | waiting due wait => exact wait.resume_leaves due context world
  | settled result => exact .settled

/-- An action goes on with the source that it began with. -/
theorem step_for (h : slot.For id) (context : Context) (duration : UInt64) (world : World) :
    (slot.step context duration world).2.For id := by
  have leaves := slot.step_leaves context duration world
  generalize (slot.step context duration world).2 = next at leaves ⊢
  cases leaves with
  | settled => trivial
  | pause => trivial
  | keypress => trivial
  | contextmenu => trivial
  | keydown => exact h
  | keyup => exact h
  | mousedown => exact h
  | mouseup => exact h
  | center own => exact own.trans h
  | viewport own => exact own.trans h
  | measures => exact h
  | sample moves => exact Wait.for_of_move? h moves
  | step moves => exact Wait.for_of_move? h moves
  | arrival moves => exact Wait.for_of_move? h moves

/-- A section of an action leaves the sources of all other names as they are. -/
theorem step_others (h : slot.For id) (context : Context) (duration : UInt64) (world : World)
    {other : SourceId} (apart : other ≠ id) :
    (slot.step context duration world).1.inputs.store[other]? = world.inputs.store[other]? := by
  have turn := slot.step_turn context duration world
  have put {own : SourceId} {source : Source} {store : Store} (same : own = id)
      (puts : (slot.step context duration world).1.inputs.store = store.insert own source) :
      (slot.step context duration world).1.inputs.store[other]? = store[other]? := by
    rw [puts, Store.getElem?_put, if_neg (same ▸ apart)]
  generalize (slot.step context duration world).1 = after at turn put ⊢
  generalize (slot.step context duration world).2 = next at turn
  cases turn with
  | press _ _ _ _ inputs => exact put h (congrArg Inputs.store inputs)
  | lift _ _ _ _ inputs => exact put h (congrArg Inputs.store inputs)
  | takeBack under _ _ _ inputs =>
    exact put (Wait.for_of_lift? h under) (congrArg Inputs.store inputs)
  | arrive _ inputs _ _ lands =>
    obtain ⟨verdict, lands, -⟩ := lands
    exact put (Wait.for_of_landing? h lands) (congrArg Inputs.store inputs)
  | pass => rfl
  | deny => rfl
  | lose _ _ _ inputs => rw [inputs]
  | land _ _ inputs => rw [inputs]
  | still inputs => rw [inputs]

end Slot

/-- All sections of an action are for its source. -/
theorem Action.Course.own {action : Action} {context : Context} {duration : UInt64}
    {past : List Passage} {slot : Slot} (h : action.Course context duration past slot) :
    slot.For action.id := by
  induction h with
  | begins => exact rfl
  | goesOn _ _ world ih => exact Slot.step_for ih context duration world

/-! ### Requests -/

/-- A sequence of a payload gives a name to a source of some kind, whatever else is in it. -/
def Payload.Uses (payload : Json) (id : SourceId) (kind : SourceKind) : Prop :=
  ∃ values fields type pointer, sequenceArray payload = .ok values ∧ .obj fields ∈ values ∧
    Json.Member fields "id" (.str id.text) ∧ Grammar.Source fields type kind pointer

/-- What a request uses: its sources with their kinds. -/
def Request.Uses (id : SourceId) (kind : SourceKind) : Request → Prop
  | .dispatch payload _ => Payload.Uses payload id kind
  | .parse payload => Payload.Uses payload id kind
  | .perform chain _ => (id, kind) ∈ World.sourcesOf chain
  | _ => False

/-- The names that a request may register. -/
def Request.registers : Request → List SourceId
  | .dispatch payload _ => Payload.names payload
  | .parse payload => Payload.names payload
  | .perform chain _ => chain.flatten.map (·.id)
  | _ => []

/-- Whether an answer says that a request was not accepted. -/
def Answer.refuses : Answer → Bool
  | .result (.error _) => true
  | .chain (.error _) => true
  | _ => false

/-- The fields of a sequence say one kind of its source only. -/
theorem Grammar.Source.kind_unique {fields : Grammar.Fields} {type type' : SourceType}
    {kind kind' : SourceKind} {pointer pointer' : Option PointerKind}
    (h : Grammar.Source fields type kind pointer)
    (h' : Grammar.Source fields type' kind' pointer') : kind = kind' := by
  obtain ⟨typed, kinded, -⟩ := Payload.source_iff.mpr h
  obtain ⟨typed', kinded', -⟩ := Payload.source_iff.mpr h'
  cases typed.symm.trans typed'
  exact Except.ok.inj (kinded.symm.trans kinded')

/-- A payload that uses a known name with another kind cannot be read. -/
theorem Payload.Uses.refused {payload : Json} {id : SourceId} {kind other : SourceKind}
    {store : Store} (uses : Payload.Uses payload id other) (known : store.kind? id = some kind)
    (differs : other ≠ kind) : ∃ error, Payload.validate store payload = .error error := by
  cases accepted : Payload.validate store payload with
  | error error => exact ⟨error, rfl⟩
  | ok validated =>
    obtain ⟨values, fields, type, pointer, listed, member, named, source⟩ := uses
    obtain ⟨read, denoted, agree, -⟩ := Payload.validate_iff.mp accepted
    obtain ⟨values', listed', each⟩ := Payload.payload_iff.mp denoted
    cases listed.symm.trans listed'
    -- The sequence is among those that were read, and so agrees with the store.
    have each : List.Forall₂ (flip Grammar.Sequence) read values := .flip each
    obtain ⟨sequence, isRead, denotes⟩ := Grammar.exists_of_mem each member
    have agrees := agree.store sequence isRead kind
    cases denotes with
    | mk source' named' =>
      have same : Json.str id.text = .str _ :=
        Option.some.inj ((Json.lookup_eq_some_iff.mpr named).symm.trans
          (Json.lookup_eq_some_iff.mpr named'))
      cases same
      exact absurd ((agrees known).trans (source'.kind_unique source)).symm differs

/-- Whatever begins keeps the sources that are there, unless it is a reset. -/
theorem Activity.Turn.grows_of_planned {before after : World} {next : Activity} {instant : Nat}
    {request : Request} (h : (Activity.planned instant request).Turn before after next)
    (kept : request.isReset = false) : before.inputs.store.Grows after.inputs.store := by
  cases h with
  | start grows => exact grows
  | take => exact .refl _
  | reset => cases kept

namespace World

variable {world : World} {request : Request} {id : SourceId} {kind other : SourceKind}

/-- A request that uses a known name with another kind is refused at once. -/
theorem start_uses (uses : request.Uses id other)
    (known : world.inputs.store.kind? id = some kind) (differs : other ≠ kind)
    (session : Session) : ∃ answer, answer.refuses = true ∧
      (world.start session request).2 = .finished world.now answer := by
  have reads {payload : Json} (uses : Payload.Uses payload id other) :
      ∃ error, world.parse payload = (.error error, world) := by
    obtain ⟨error, refused⟩ := uses.refused known differs
    exact ⟨error, by rw [parse, refused]⟩
  cases request with
  | dispatch payload mode =>
    obtain ⟨error, refused⟩ := reads uses
    have answered : world.start session (.dispatch payload mode) =
        (world, .finished world.now (.result (.error error))) := by simp only [start, refused]
    rw [answered]
    exact ⟨_, rfl, rfl⟩
  | parse payload =>
    obtain ⟨error, refused⟩ := reads uses
    have answered : world.start session (.parse payload) =
        (world, .finished world.now (.chain (.error error))) := by simp only [start, refused]
    rw [answered]
    exact ⟨_, rfl, rfl⟩
  | perform chain mode =>
    have conflicts : (world.inputs.store.ensureAll (sourcesOf chain)).1.toOption = none := by
      cases registered : (world.inputs.store.ensureAll (sourcesOf chain)).1 with
      | error fault => rfl
      | ok =>
        -- Registered, the name would have both kinds.
        have wanted := Store.known_of_ensureAll_ok registered _ uses
        have kept := (Store.Grows.ensureAll world.inputs.store (sourcesOf chain)).kind? known
        exact absurd (Option.some.inj (wanted.symm.trans kept)) differs
    obtain ⟨fault, store, refused⟩ := Store.exists_error conflicts
    have answered : world.start session (.perform chain mode) = (world.withStore store,
        .finished world.now (.result (.error (.invalidArgument fault)))) :=
      start_perform_error_iff.mpr ⟨fault, store, refused, rfl, rfl, rfl⟩
    rw [answered]
    exact ⟨_, rfl, rfl⟩
  | _ => exact uses.elim

/-- A request changes what is known of a name only if it registers it, and the name was missing. -/
theorem start_others (session : Session) (kept : request.isReset = false)
    (changed : (world.start session request).1.inputs.store[id]? ≠ world.inputs.store[id]?) :
    id ∈ request.registers ∧ world.inputs.store[id]? = none := by
  constructor
  · by_contra foreign
    apply changed
    cases request with
    | dispatch payload mode =>
      rw [start_prepare rfl]
      exact Request.getElem?_prepare foreign
    | perform chain mode =>
      rw [start_prepare rfl]
      exact Request.getElem?_prepare foreign
    | parse payload => exact world.getElem?_parse foreign
    | reset => cases kept
    | _ => rfl
  · cases found : world.inputs.store[id]? with
    | none => rfl
    | some source =>
      have ready : (Activity.planned world.now request).isReady world.now = true :=
        decide_eq_true (Nat.le_refl _)
      have grows := (Activity.step_turn session ready).grows_of_planned kept
      exact absurd ((grows.keeps found).trans found.symm) changed

end World

/-! ### Histories -/

/-- The sections that may change what is known of a name: those of the actions for it, each with its
action and what it has done so far, and those of requests that register it while it is missing. -/
inductive Advance.Handles (past : List Advance) (id : SourceId) (advance : Advance) : Prop
  | action {passage : Passage} {action : Action} (passes : advance.passage? = some passage)
      (course : action.Course passage.context passage.duration
        ((Schedule.trail past).filter (·.spot = passage.spot)) passage.slot)
      (own : action.id = id)
  | registers {instant : Nat} {request : Request}
      (begins : advance.activity = .planned instant request) (named : id ∈ request.registers)
      (missing : advance.world.inputs.store[id]? = none)

/-- A section in which no action takes part leaves the sources as they are, unless it begins a
request. -/
theorem Activity.store_of_passage? {activity : Activity} {call : Nat} {world : World}
    (none : activity.passage? call world = none) (begun : activity.isPlanned = false)
    (session : Session) : (activity.step session world).1.inputs.store = world.inputs.store := by
  cases activity with
  | planned => cases begun
  | ticking context duration slots rest =>
    rcases passage?_ticking context duration slots rest call world with
      ⟨_, _, _, rfl, -, found⟩ | ⟨idle, -⟩
    · cases none.symm.trans found
    · simp only [step, idle]
  | releasing => cases none
  | _ => rfl

namespace Schedule

variable {session : Session} {joins : Schedule → Request → Prop}
  {moves : Schedule → Schedule → Prop} {start s : Schedule} {log : List Advance}

/-- What is known stays known under its kind until the next reset. -/
theorem Chronicle.keeps (h : Chronicle joins moves start s log)
    (kept : ∀ advance ∈ log, advance.activity.isReset = false) :
    start.world.inputs.store.Keeps s.world.inputs.store := by
  induction h with
  | begins => exact fun _ _ known => known
  | join _ _ _ _ ih => exact ih kept
  | elapse _ _ _ ih => exact ih kept
  | @advance session world left activity right _ _ ready _ ih =>
    obtain ⟨before, last⟩ := List.forall_mem_append.mp kept
    have turn := activity.step_turn session ready
    intro id kind known
    exact turn.kind? (last _ List.mem_cons_self) (ih before id kind known)

/-- A call that has its answer keeps it, and has no section any more. -/
theorem Chronicle.answered (h : Chronicle joins moves start s log) {call time : Nat}
    {answer : Answer} (found : start.activities[call]? = some (.finished time answer)) :
    s.activities[call]? = some (.finished time answer) ∧ ∀ advance ∈ log, advance.call ≠ call := by
  induction h with
  | begins => exact ⟨found, List.forall_mem_nil _⟩
  | join _ instant request _ ih =>
    obtain ⟨found, past⟩ := ih
    have inside := (List.getElem?_eq_some_iff.mp found).1
    exact ⟨(List.getElem?_append_left inside).trans found, past⟩
  | elapse _ _ _ ih => exact ih
  | @advance session world left activity right log _ ready _ ih =>
    obtain ⟨found, past⟩ := ih
    -- Whoever has the section is ready, and what is finished is not.
    have apart : left.length ≠ call := by
      rintro rfl
      cases getElem?_place.symm.trans found
      cases ready
    rw [getElem?_replaced apart activity]
    exact ⟨found, List.forall_mem_append.mpr ⟨past, List.forall_mem_singleton.mpr apart⟩⟩

/-- A call that has yet to begin has had no section. -/
theorem Chronicle.unbegun (h : Chronicle joins moves start s log) :
    (∀ advance ∈ log, advance.call < s.activities.length) ∧
      ∀ call instant request, s.activities[call]? = some (.planned instant request) →
        ∀ advance ∈ log, advance.call ≠ call := by
  induction h with
  | begins => exact ⟨List.forall_mem_nil _, fun _ _ _ _ => List.forall_mem_nil _⟩
  | @join s log before instant request _ ih =>
    obtain ⟨listed, planned⟩ := ih
    have length : (s.join instant request).activities.length = s.activities.length + 1 := by
      simp [Schedule.join]
    refine ⟨fun advance member => ?_, fun call start other found => ?_⟩
    · rw [length]
      exact Nat.lt_succ_of_lt (listed advance member)
    · rcases Nat.lt_or_ge call s.activities.length with old | new
      · rw [Schedule.join, List.getElem?_append_left old] at found
        exact planned call start other found
      · exact fun advance member => Nat.ne_of_lt (Nat.lt_of_lt_of_le (listed advance member) new)
  | elapse _ _ _ ih => exact ih
  | @advance session world left activity right log _ ready _ ih =>
    obtain ⟨listed, planned⟩ := ih
    have length : (left ++ (activity.step session world).2 :: right).length =
        (left ++ activity :: right).length := by simp
    refine ⟨fun advance member => ?_, fun call start other found => ?_⟩
    · rw [length]
      rcases List.mem_append.mp member with old | new
      · exact listed advance old
      · rw [List.mem_singleton.mp new]
        simp
    -- What has run has begun, so the call is another one.
    · have apart : left.length ≠ call := by
        rintro rfl
        have ran := Option.some.inj (getElem?_place.symm.trans found)
        have begun := activity.isPlanned_step session ready
        rw [ran] at begun
        cases begun
      rw [getElem?_replaced apart activity] at found
      exact List.forall_mem_append.mpr
        ⟨planned call start other found, List.forall_mem_singleton.mpr apart⟩

/-- What is known of a name changes with the sections of actions for it, and when it is
registered. -/
theorem Chronicle.handles {early late : List Advance} {advance : Advance}
    (h : Chronicle joins moves start s (early ++ advance :: late)) (idle : start.activities = [])
    (kept : advance.activity.isReset = false) {id : SourceId}
    (changed : (advance.after session).inputs.store[id]? ≠ advance.world.inputs.store[id]?) :
    advance.Handles early id := by
  cases passes : advance.passage? with
  | some passage =>
    obtain ⟨store, -, world, -⟩ := Activity.step_of_passage passes session
    obtain ⟨action, course⟩ := h.course idle passes
    refine .action passes course ?_
    by_contra apart
    apply changed
    rw [Advance.after, store, ← world]
    exact Slot.step_others course.own passage.context passage.duration passage.world
      (Ne.symm apart)
  | none =>
    obtain ⟨call, activity, world⟩ := advance
    cases activity with
    | planned instant request =>
      obtain ⟨named, missing⟩ := World.start_others session kept changed
      exact .registers rfl named missing
    | _ =>
      have same := Activity.store_of_passage? passes rfl session
      exact absurd (congrArg (fun store : Store => store[id]?) same) changed

/-- A call that is answered as soon as it begins has no other section. -/
theorem Chronicle.only {early late : List Advance} {advance : Advance} {instant time : Nat}
    {request : Request} {answer : Answer}
    (h : Chronicle joins moves start s (early ++ advance :: late))
    (begins : advance.activity = .planned instant request)
    (next : advance.next start.session = .finished time answer) :
    s.activities[advance.call]? = some (.finished time answer) ∧
      ∀ other ∈ early ++ advance :: late, other.call = advance.call → other = advance := by
  obtain ⟨left, right, before, here, -, rest⟩ := h.split
  have earlier := before.unbegun.2 advance.call instant request
    (by rw [← here, getElem?_place, begins])
  have found : (left ++ advance.next start.session :: right)[advance.call]? =
      some (.finished time answer) := by
    rw [← here, getElem?_place, next]
  obtain ⟨kept, later⟩ := rest.answered found
  refine ⟨kept, fun other member same => ?_⟩
  rcases List.mem_append.mp member with old | new
  · exact absurd same (earlier other old)
  · rcases List.mem_cons.mp new with is | new
    · exact is
    · exact absurd same (later other new)

/-- Sources stay what they are. Whatever runs together on a fresh session and however the surface
answers, from any section on until the next reset each name that is known stays known under its
kind. Only the sections of actions for a name, and the request that registers it, change what is
known of it. A request that uses a known name with another kind is refused at once, and its call
has no other section, so that it tells the surface nothing. -/
theorem sources_stay {host : Host}
    (h : Chronicle joins moves ⟨session, .initial host, []⟩ s log) :
    ∀ early advance late, log = early ++ advance :: late →
      ((∀ later ∈ advance :: late, later.activity.isReset = false) →
        advance.world.inputs.store.Keeps s.world.inputs.store) ∧
      (advance.activity.isReset = false → ∀ id : SourceId,
        (advance.after session).inputs.store[id]? ≠ advance.world.inputs.store[id]? →
          advance.Handles early id) ∧
      ∀ instant request id kind other, advance.activity = .planned instant request →
        advance.world.inputs.store.kind? id = some kind → request.Uses id other → other ≠ kind →
        (∃ answer, answer.refuses = true ∧
          s.activities[advance.call]? = some (.finished advance.world.now answer)) ∧
        (∀ other ∈ log, other.call = advance.call → other = advance) ∧
        advance.told session = [] := by
  rintro early advance late rfl
  refine ⟨fun kept => ?_, fun kept id changed => h.handles rfl kept changed, ?_⟩
  · obtain ⟨left, right, -, -, ready, rest⟩ := h.split
    obtain ⟨own, kept⟩ := List.forall_mem_cons.mp kept
    have turn := advance.activity.step_turn session ready
    exact fun id kind known => rest.keeps kept id kind (turn.kind? own known)
  · intro instant request id kind other begins known uses differs
    obtain ⟨answer, refuses, answered⟩ := World.start_uses uses known differs session
    have next : advance.next session = .finished advance.world.now answer := by
      rw [Advance.next, begins]
      exact answered
    obtain ⟨kept, only⟩ := h.only begins next
    refine ⟨⟨answer, refuses, kept⟩, only, Advance.told_of_none ?_ session⟩
    rw [Advance.passage?, begins]
    rfl

/-- A key press on the mouse, which is being clicked on a slow surface. -/
def mistaken : Request := .perform [[⟨⟨"m"⟩, .key, none, .keyDown "a"⟩]] none

def mistakes : Schedule :=
  let fresh : Schedule := ⟨.ofConfig .standard, .initial slow, []⟩
  (fresh.join 0 (.perform [[⟨⟨"m"⟩, .pointer, none, .pointerDown 0⟩]] none)).join 2 mistaken

/-- Whether a section begins the mistaken press when the mouse is known. -/
private def isMistake (advance : Advance) : Bool :=
  match advance.activity with
  | .planned _ (.perform chain _) =>
    decide ((⟨"m"⟩, .key) ∈ World.sourcesOf chain) &&
      decide (advance.world.inputs.store.kind? ⟨"m"⟩ = some (.pointer .mouse))
  | _ => false

/-- The press is refused although the click still waits, and the mouse stays a mouse. -/
theorem mistakes_refused :
    let log := mistakes.annals 6
    let done := mistakes.steps 6
    Chronicle (fun _ _ => True) (fun _ _ => True) ⟨.ofConfig .standard, .initial slow, []⟩ done log ∧
      ∃ advance ∈ log, (∃ answer, answer.refuses = true ∧
          done.activities[advance.call]? = some (.finished advance.world.now answer)) ∧
        advance.told (.ofConfig .standard) = [] ∧
        advance.world.inputs.store.Keeps done.world.inputs.store := by
  intro log done
  have begun : Chronicle (fun _ _ => True) (fun _ _ => True)
      ⟨.ofConfig .standard, .initial slow, []⟩ mistakes [] :=
    (Chronicle.begins.join 0 _ trivial).join 2 _ trivial
  have chronicle := begun.steps (fun _ _ => trivial) 6
  rw [List.nil_append] at chronicle
  have occurs : log.any isMistake = true := by decide +kernel
  have kept : log.all (fun advance => !advance.activity.isReset) = true := by decide +kernel
  obtain ⟨advance, member, is⟩ := List.any_eq_true.mp occurs
  obtain ⟨early, late, split⟩ := List.append_of_mem member
  obtain ⟨keeps, -, refuses⟩ := sources_stay chronicle early advance late split
  refine ⟨chronicle, advance, member, ?_⟩
  unfold isMistake at is
  split at is
  next instant chain mode begins =>
    rw [Bool.and_eq_true, decide_eq_true_iff, decide_eq_true_iff] at is
    obtain ⟨answered, -, told⟩ := refuses instant (.perform chain mode) ⟨"m"⟩ (.pointer .mouse) .key
      begins is.2 is.1 nofun
    refine ⟨answered, told, keeps fun later listed => ?_⟩
    have listed : later ∈ log := split ▸ List.mem_append_right early listed
    simpa using List.all_eq_true.mp kept later listed
  · cases is

end Schedule

end InputActions
