import InputActions.Proofs.Inside
import InputActions.Proofs.Standing
import InputActions.Proofs.Surface

/-!
# Sessions whose viewport stays as it is

While nobody resizes the viewport, the pointers of a session stay inside it at every moment, and
the surface sees no mouse event outside (`Schedule.mouse_stays_inside`). Sections do not touch the
viewport, and a section that runs on its own keeps everything inside, so any order of sections does.
-/
namespace InputActions

/-! ### Activities -/

/-- A section of an activity that has begun is one of a slot, or changes nothing. Either way what
is under way afterwards was so before, or has just had that section. -/
theorem Activity.step_cases {activity : Activity} (session : Session) {world : World}
    (ready : activity.isReady world.now = true) (begun : activity.isPlanned = false) :
    ((activity.step session world).1 = world ∧
      ∀ next ∈ (activity.step session world).2.slots, ∃ action, next = .ready action) ∨
    ∃ slot ∈ activity.slots, ∃ context duration,
      (activity.step session world).1.inputs.store =
        (slot.step context duration world).1.inputs.store ∧
      (activity.step session world).1.host = (slot.step context duration world).1.host ∧
      ∀ next ∈ (activity.step session world).2.slots, next ∈ activity.slots ∨
        next = (slot.step context duration world).2 ∨ ∃ action, next = .ready action := by
  cases activity with
  | planned => cases begun
  | sleeping wake => exact Or.inl ⟨rfl, by simp [step, slots]⟩
  | finished time answer => exact Or.inl ⟨rfl, by simp [step, slots]⟩
  | ticking context duration slots rest =>
    unfold step
    dsimp only
    split
    next ran =>
      obtain ⟨left, slot, right, rfl, -, -, rfl, rfl⟩ := Slot.stepFirst_eq_some ran
      refine Or.inr ⟨slot, by simp [Activity.slots], context, duration, rfl, rfl, ?_⟩
      intro next member
      simp only [Activity.slots, List.mem_append, List.mem_cons] at member ⊢
      rcases member with before | rfl | after
      · exact Or.inl (Or.inl before)
      · exact Or.inr (Or.inl rfl)
      · exact Or.inl (Or.inr (Or.inr after))
    -- The tick is over, and the next one has actions that are ready and nothing else.
    next =>
      refine Or.inl ⟨rfl, ?_⟩
      unfold afterTick
      split
      · exact fun _ member => absurd member List.not_mem_nil
      · cases rest <;> simp +contextual [ofTicks, Activity.slots, eq_comm]
  | releasing context entry slot rest =>
    refine Or.inr ⟨slot, List.mem_singleton.mpr rfl, context, 0, ?_⟩
    unfold step
    dsimp only
    generalize (slot.step context 0 world).1 = after
    generalize (slot.step context 0 world).2 = next
    unfold afterEntry
    split
    · refine ⟨rfl, rfl, ?_⟩
      cases rest <;> simp [ofEntries, Activity.slots]
    · exact ⟨rfl, rfl, fun _ member => absurd member List.not_mem_nil⟩
    · exact ⟨rfl, rfl, fun other member => Or.inr (Or.inl (List.mem_singleton.mp member))⟩

/-- Beginning a request changes no more than the inputs, unless it changes the surface. -/
theorem World.start_inputs (world : World) (session : Session) {request : Request}
    (other : ∀ change, request ≠ .adjust change) :
    ∃ inputs, (world.start session request).1 = { world with inputs := inputs } := by
  have perform (world : World) (context : Context) (chain : Chain) :
      ∃ inputs, (world.perform context chain).1 = { world with inputs := inputs } := by
    unfold World.perform
    dsimp only
    split <;> exact ⟨_, rfl⟩
  have parse (payload : Json) :
      ∃ inputs, (world.parse payload).2 = { world with inputs := inputs } := by
    unfold World.parse
    split
    · exact ⟨world.inputs, rfl⟩
    · dsimp only
      split <;> exact ⟨_, rfl⟩
  cases request with
  | dispatch payload mode =>
    obtain ⟨parsed, read⟩ := parse payload
    unfold start
    dsimp only
    split
    · exact ⟨parsed, read⟩
    · obtain ⟨performed, registered⟩ := perform (world.parse payload).2
        ⟨session, mode.getD session.config.centerMode⟩ ‹_›
      exact ⟨performed, registered.trans (by rw [read])⟩
  | perform chain mode => exact perform ..
  | parse payload => exact parse payload
  | adjust change => exact absurd rfl (other change)
  | release | reset => exact ⟨_, rfl⟩
  | wait | recorded => exact ⟨world.inputs, rfl⟩

/-- A request that begins leaves the surface as it is, unless that is what it is for. -/
theorem World.host_start (world : World) (session : Session) {request : Request}
    (other : ∀ change, request ≠ .adjust change) :
    (world.start session request).1.host = world.host := by
  obtain ⟨inputs, same⟩ := world.start_inputs session other
  rw [same]

/-- Beginning a request takes no time. -/
theorem World.now_start (world : World) (session : Session) (request : Request) :
    (world.start session request).1.now = world.now := by
  by_cases adjusts : ∃ change, request = .adjust change
  · obtain ⟨change, rfl⟩ := adjusts
    rfl
  · obtain ⟨inputs, same⟩ := world.start_inputs session fun change is => adjusts ⟨change, is⟩
    rw [same]

/-- Whether a request resizes the viewport. -/
def Request.resizes : Request → Bool
  | .adjust (.viewport _) => true
  | _ => false

/-- Whether an activity is about to resize the viewport. -/
def Activity.resizes : Activity → Bool
  | .planned _ request => request.resizes
  | _ => false

theorem Activity.step_viewport {activity : Activity} (session : Session) {world : World}
    (ready : activity.isReady world.now = true) (fixed : activity.resizes = false) :
    (activity.step session world).1.host.viewport = world.host.viewport := by
  cases begun : activity.isPlanned with
  | true =>
    cases activity with
    | planned start request =>
      cases request with
      | adjust change => cases change <;> first | rfl | cases fixed
      | _ => exact congrArg Host.viewport (world.host_start session nofun)
    | _ => cases begun
  | false =>
    rcases activity.step_cases session ready begun with ⟨same, -⟩ | ⟨slot, -, context, duration, h⟩
    · rw [same]
    · rw [h.2.1]
      exact Host.viewport_eq (slot.step_surface context duration world)

/-- A section of any activity keeps everything inside. -/
theorem Activity.step_inside {view : Viewport} (sized : view.IsExact) {activity : Activity}
    (session : Session) {world : World} (ready : activity.isReady world.now = true)
    (store : world.inputs.store.Inside view) (shows : world.host.viewport = view)
    (inside : ∀ slot ∈ activity.slots, slot.Inside view) :
    (activity.step session world).1.inputs.store.Inside view ∧
      world.Shows view (activity.step session world).1 ∧
      ∀ slot ∈ (activity.step session world).2.slots, slot.Inside view := by
  cases begun : activity.isPlanned with
  | true =>
    cases activity with
    | planned start request =>
      -- A request that begins registers, takes or forgets, and has only actions to begin.
      have turn := Activity.step_turn session ready
      generalize (Activity.step (.planned start request) session world).1 = after at turn ⊢
      generalize (Activity.step (.planned start request) session world).2 = next at turn ⊢
      cases turn with
      | start grows pending journal fresh =>
        refine ⟨store.grows sized grows, .of_same journal, fun slot member => ?_⟩
        cases next with
        | ticking context duration slots rest =>
          obtain ⟨action, rfl⟩ := fresh slot member
          trivial
        | releasing => exact fresh.elim
        | _ => cases member
      | take =>
        refine ⟨store, .of_same rfl, fun slot member => ?_⟩
        cases owed : world.inputs.pending.entries with
        | nil =>
          rw [owed] at member
          cases member
        | cons entry rest =>
          rw [owed] at member
          cases List.mem_singleton.mp member
          trivial
      | reset => exact ⟨.empty, .of_same rfl, fun _ member => absurd member List.not_mem_nil⟩
    | _ => cases begun
  | false =>
    rcases activity.step_cases session ready begun with
      ⟨same, fresh⟩ | ⟨slot, member, context, duration, stored, host, next⟩
    · rw [same]
      refine ⟨store, .of_same rfl, fun slot member => ?_⟩
      obtain ⟨action, rfl⟩ := fresh slot member
      trivial
    · obtain ⟨store', ⟨added, journal, shown⟩, after⟩ :=
        Slot.step_inside sized store shows (inside slot member) context duration
      refine ⟨stored ▸ store', ⟨added, host ▸ journal, shown⟩, fun other member => ?_⟩
      rcases next other member with old | rfl | ⟨action, rfl⟩
      · exact inside other old
      · exact after
      · trivial

/-! ### Moments of a session -/

namespace Schedule

/-- Whether every pointer and every point that will be used is inside the viewport. -/
structure Inside (view : Viewport) (schedule : Schedule) : Prop where
  shows : schedule.world.host.viewport = view
  store : schedule.world.inputs.store.Inside view
  slots : ∀ activity ∈ schedule.activities, ∀ slot ∈ activity.slots, slot.Inside view

/-- Whether nothing is about to resize the viewport. -/
def IsFixed (schedule : Schedule) : Prop :=
  ∀ activity ∈ schedule.activities, activity.resizes = false

variable {s next : Schedule} {view : Viewport}

theorem Moves.viewport (h : s.Moves next) (fixed : s.IsFixed) :
    next.world.host.viewport = s.world.host.viewport := by
  cases h with
  | advance ready => exact Activity.step_viewport _ ready (fixed _ (by simp))
  | elapse => rfl

theorem Moves.isFixed (h : s.Moves next) (fixed : s.IsFixed) : next.IsFixed := by
  cases h with
  | elapse => exact fixed
  | @advance session world left activity right ready =>
    intro other member
    simp only [List.mem_append, List.mem_cons] at member
    rcases member with before | rfl | after
    · exact fixed other (by simp [before])
    -- What has run has begun, and only what is planned can be about to resize.
    · have begun := activity.isPlanned_step session ready
      cases next : (activity.step session world).2 <;> rw [next] at begun <;>
        first | rfl | cases begun
    · exact fixed other (by simp [after])

/-- Every move keeps everything inside, and shows the surface nothing outside. -/
theorem Inside.move (h : s.Inside view) (sized : view.IsExact) (fixed : s.IsFixed)
    (moved : s.Moves next) : next.Inside view ∧ s.world.Shows view next.world := by
  have viewport := (moved.viewport fixed).trans h.shows
  cases moved with
  | elapse => exact ⟨⟨h.shows, h.store, h.slots⟩, .of_same rfl⟩
  | @advance session world left activity right ready =>
    obtain ⟨store, shows, slots⟩ := Activity.step_inside sized session ready h.store h.shows
      (h.slots activity (by simp))
    refine ⟨⟨viewport, store, fun other member => ?_⟩, shows⟩
    simp only [List.mem_append, List.mem_cons] at member
    rcases member with before | rfl | after
    · exact h.slots other (by simp [before])
    · exact slots
    · exact h.slots other (by simp [after])

namespace Reached

variable {session : Session} {joins : Schedule → Request → Prop}
  {moves : Schedule → Schedule → Prop}

theorem isFixed (h : Reached session joins moves s)
    (fixed : ∀ s request, joins s request → request.resizes = false) : s.IsFixed := by
  induction h with
  | fresh host => exact fun _ member => absurd member List.not_mem_nil
  | join start request _ allowed ih =>
    intro activity member
    rcases List.mem_append.mp member with old | new
    · exact ih activity old
    · rw [List.mem_singleton.mp new]
      exact fixed _ request allowed
  | move _ moved _ ih => exact moved.isFixed ih

/-- At every moment everything is inside. -/
theorem inside (h : Reached session joins moves s)
    (fixed : ∀ s request, joins s request → request.resizes = false)
    (sized : s.world.host.viewport.IsExact) : s.Inside s.world.host.viewport := by
  induction h with
  | fresh host => exact ⟨rfl, .empty, fun _ member => absurd member List.not_mem_nil⟩
  | join start request _ _ ih =>
    have inside := ih sized
    refine ⟨rfl, inside.store, fun activity member slot listed => ?_⟩
    rcases List.mem_append.mp member with old | new
    · exact inside.slots activity old slot listed
    · rw [List.mem_singleton.mp new] at listed
      cases listed
  | move reached moved _ ih =>
    -- The viewport is the one it was, so it is as exact as it was.
    have same := moved.viewport (reached.isFixed fixed)
    rw [same] at sized ⊢
    exact ((ih sized).move sized (reached.isFixed fixed) moved).1

end Reached

/-- No mouse event is outside the viewport, if its sizes are floating point numbers and nobody
resizes it: at every moment of a session all pointers are inside, whatever happens next, the surface
sees only mouse events inside, and a sample that is due takes the differences of its coordinates as
they are. -/
theorem mouse_stays_inside {session : Session} {joins : Schedule → Request → Prop}
    {moves : Schedule → Schedule → Prop} (h : Reached session joins moves s)
    (fixed : ∀ s request, joins s request → request.resizes = false)
    (sized : s.world.host.viewport.IsExact) :
    (∀ (id : SourceId) (pointer : PointerSource),
      s.world.inputs.store[id]? = some (.pointer pointer) →
        s.world.host.viewport.Admits pointer.position) ∧
    (∀ next, s.Moves next → next.world.host.viewport = s.world.host.viewport ∧
      ∃ added, next.world.host.journal = s.world.host.journal ++ added ∧
        ∀ injection ∈ added, ∀ event, injection.event = .mouse event →
          s.world.host.viewport.Admits event.position) ∧
    ∀ activity ∈ s.activities, ∀ wake move target,
      Slot.waiting wake (.sample move target) ∈ activity.slots →
        (target.x - move.start.x).toInt = target.x.toInt - move.start.x.toInt ∧
        (target.y - move.start.y).toInt = target.y.toInt - move.start.y.toInt := by
  have inside := h.inside fixed sized
  refine ⟨fun id pointer found => inside.store id _ found, fun next moved => ?_, ?_⟩
  · obtain ⟨-, added, journal, shown⟩ := inside.move sized (h.isFixed fixed) moved
    refine ⟨moved.viewport (h.isFixed fixed), added, journal, fun injection member event same => ?_⟩
    have shows := shown injection member
    rw [same] at shows
    exact shows
  · intro activity member wake move target listed
    obtain ⟨start, target⟩ := inside.slots activity member _ listed
    exact ⟨Coordinate.toInt_sub target.1.1 start.1.1, Coordinate.toInt_sub target.2.1 start.2.1⟩

/-- A fresh session on a surface that answers at once, asked to move the mouse in forty
milliseconds. -/
def glides : Schedule :=
  join ⟨.ofConfig .standard, .initial (.prompt ⟨100, 100⟩), []⟩ 0
    (.perform [[⟨⟨"mouse"⟩, .pointer, none, .pointerMove (some 40) .viewport 30 40⟩]] none)

/-- After the first sample the mouse is on its way, inside the viewport. -/
theorem glides_inside : ∃ pointer : PointerSource,
    (glides.steps 6).world.inputs.store[(⟨"mouse"⟩ : SourceId)]? = some (.pointer pointer) ∧
      pointer.position = ⟨12, 17⟩ ∧ (Viewport.mk 100 100).Admits pointer.position := by
  have begins : Reached (.ofConfig .standard) (fun _ request => request.resizes = false)
      (fun _ _ => True) glides := .join 0 _ (.fresh _) rfl
  have reached := begins.steps (fun _ _ => trivial) 6
  have shows : (glides.steps 6).world.host.viewport = ⟨100, 100⟩ := by decide +kernel
  have sized : (glides.steps 6).world.host.viewport.IsExact := by
    rw [shows]
    exact ⟨by decide, by decide⟩
  have placed : ((glides.steps 6).world.inputs.store[(⟨"mouse"⟩ : SourceId)]?.bind
      Source.pointer?).map (·.position) = some ⟨12, 17⟩ := by decide +kernel
  obtain ⟨pointer, known, position⟩ := Option.map_eq_some_iff.mp placed
  obtain ⟨source, found, is⟩ := Option.bind_eq_some_iff.mp known
  cases source <;> cases is
  have admits := (mouse_stays_inside reached (fun _ _ allowed => allowed) sized).1 _ _ found
  exact ⟨pointer, found, position, shows ▸ admits⟩

end Schedule

end InputActions
