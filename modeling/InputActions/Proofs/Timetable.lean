import InputActions.Proofs.Cadence
import InputActions.Proofs.Linking

/-!
# How long actions take

If the surface answers at once and nobody keeps an action waiting, the time that an action takes
depends on the action and on the tick alone: `Action.time`. A pause takes its own time, a move one
interval for every time that its loop waits, and everything else no time at all. No wait is longer
than `longestWait`, so a longer pause or interval counts as that.

Each section either brings its action nearer to its end by the wait that it begins, or ends it on
time (`Slot.Timed.step`).
-/
namespace InputActions

/-! ### Times -/

/-- From one sample of a move to the next. -/
def Session.spacing (session : Session) : Nat :=
  min session.config.sampleInterval.toNat longestWait

theorem Session.spacing_pos (session : Session) : 0 < session.spacing :=
  lt_min (Nat.pos_of_ne_zero fun zero => session.interval_ne_zero (UInt64.toNat_inj.mp zero))
    (by decide)

namespace Motion

/-- How often a move waits for a sample from here on, so many milliseconds after it has begun. -/
def waitsFrom (session : Session) (duration : UInt64) (elapsed : Nat) : Nat :=
  if _h : continues session.config.sampleInterval duration elapsed then
    waitsFrom session duration (elapsed + session.spacing) + 1
  else 0
termination_by duration.toNat - elapsed
decreasing_by
  have inside := elapsed_lt_of_continues _h
  have positive := session.spacing_pos
  omega

/-- How often a move waits for a sample. The first wait comes before the first comparison. -/
def waits (session : Session) (duration : UInt64) : Nat :=
  if duration = 0 then 0 else waitsFrom session duration session.spacing + 1

theorem waitsFrom_of_continues {session : Session} {duration : UInt64} {elapsed : Nat}
    (h : continues session.config.sampleInterval duration elapsed = true) :
    waitsFrom session duration elapsed =
      waitsFrom session duration (elapsed + session.spacing) + 1 := by
  rw [waitsFrom, dif_pos h]

theorem waitsFrom_of_not_continues {session : Session} {duration : UInt64} {elapsed : Nat}
    (h : ¬ continues session.config.sampleInterval duration elapsed = true) :
    waitsFrom session duration elapsed = 0 := by
  rw [waitsFrom, dif_neg h]

end Motion

namespace Action

/-- How often an action of a tick waits for a sample. -/
def waits (session : Session) (tickDuration : UInt64) (action : Action) : Nat :=
  match action.gesture with
  | .pointerMove duration .. => Motion.waits session (effective duration tickDuration)
  | _ => 0

/-- How long an action of a tick takes. -/
def time (session : Session) (tickDuration : UInt64) (action : Action) : Nat :=
  match action.gesture with
  | .pause duration => min (effective duration tickDuration).toNat longestWait
  | _ => action.waits session tickDuration * session.spacing

/-- Whether an action is no move that takes time. -/
def Still (tickDuration : UInt64) (action : Action) : Prop :=
  ∀ duration origin dx dy, action.gesture = .pointerMove duration origin dx dy →
    effective duration tickDuration = 0

end Action

/-- How long a tick takes: as long as its slowest action. -/
def Tick.time (session : Session) (tick : Tick) : Nat :=
  (tick.map (·.time session tick.duration)).foldr max 0

/-- How long a chain takes. -/
def Chain.time (session : Session) (ticks : Chain) : Nat := (ticks.map (·.time session)).sum

theorem Action.time_le {session : Session} {tick : Tick} {action : Action}
    (listed : action ∈ tick) : action.time session tick.duration ≤ tick.time session :=
  List.le_max_of_le (List.mem_map.mpr ⟨action, listed, rfl⟩) le_rfl

theorem Tick.time_le {session : Session} {tick : Tick} {bound : Nat}
    (bounds : ∀ action ∈ tick, action.time session tick.duration ≤ bound) :
    tick.time session ≤ bound :=
  List.max_le_of_forall_le _ _ fun time listed => by
    obtain ⟨action, member, rfl⟩ := List.mem_map.mp listed
    exact bounds action member

/-! ### Ticks without gliding moves -/

/-- The duration of a tick is the longest that an action asks for. -/
theorem Tick.duration_spec (tick : Tick) :
    (∀ action ∈ tick, ∀ duration, action.duration? = some duration →
        duration.toNat ≤ tick.duration.toNat) ∧
      (tick.duration = 0 ∨ ∃ action ∈ tick, action.duration? = some tick.duration) := by
  -- The fold keeps the longest duration so far, and that is one of those it has seen.
  have gathered (times : List UInt64) (longest : UInt64) :
      (∀ time ∈ longest :: times, time.toNat ≤ (times.foldl max longest).toNat) ∧
        times.foldl max longest ∈ longest :: times := by
    induction times generalizing longest with
    | nil => simp
    | cons time times ih =>
      obtain ⟨bounds, member⟩ := ih (max longest time)
      obtain ⟨most, rest⟩ := List.forall_mem_cons.mp bounds
      rw [UInt64.toNat_max] at most
      have either : max longest time = longest ∨ max longest time = time := by
        simp only [← UInt64.toNat_inj, UInt64.toNat_max]
        omega
      refine ⟨List.forall_mem_cons.mpr ⟨by rw [List.foldl_cons]; omega,
        List.forall_mem_cons.mpr ⟨by rw [List.foldl_cons]; omega, rest⟩⟩, ?_⟩
      rw [List.foldl_cons]
      rcases List.mem_cons.mp member with same | later
      · rw [same]
        rcases either with first | second
        · rw [first]
          exact List.mem_cons_self
        · rw [second]
          exact List.mem_cons_of_mem _ List.mem_cons_self
      · simp [later]
  obtain ⟨bounds, member⟩ := gathered (tick.filterMap Action.duration?) 0
  refine ⟨fun action listed duration asks => bounds duration (List.mem_cons_of_mem _
    (List.mem_filterMap.mpr ⟨action, listed, asks⟩)), ?_⟩
  rcases List.mem_cons.mp member with none | some
  · exact Or.inl none
  · exact Or.inr (List.mem_filterMap.mp some)

/-- Only pauses and moves take time. -/
theorem Action.time_of_still {session : Session} {tickDuration : UInt64} {action : Action}
    (still : action.Still tickDuration) (other : ∀ duration, action.gesture ≠ .pause duration) :
    action.time session tickDuration = 0 := by
  unfold time waits
  cases gesture : action.gesture with
  | pause duration => exact absurd gesture (other duration)
  | pointerMove duration origin dx dy =>
    dsimp only
    rw [still duration origin dx dy gesture, Motion.waits, if_pos rfl, Nat.zero_mul]
  | _ => exact Nat.zero_mul _

/-- A tick in which no move takes time takes the time of its longest pause. -/
theorem Tick.time_of_still {session : Session} {tick : Tick}
    (still : ∀ action ∈ tick, action.Still tick.duration) :
    tick.time session = min tick.duration.toNat longestWait := by
  obtain ⟨bounds, longest⟩ := tick.duration_spec
  -- No pause is longer than the duration of the tick, and one of them is as long.
  apply le_antisymm
  · refine Tick.time_le fun action listed => ?_
    by_cases pauses : ∃ duration, action.gesture = .pause duration
    · obtain ⟨duration, gesture⟩ := pauses
      rw [Action.time, gesture]
      cases duration with
      | none => exact le_rfl
      | some duration =>
        have less := bounds action listed duration (by rw [Action.duration?, gesture])
        exact min_le_min_right _ less
    · rw [Action.time_of_still (still action listed) (not_exists.mp pauses)]
      exact Nat.zero_le _
  · rcases longest with none | ⟨action, listed, asks⟩
    · rw [none]
      exact (min_le_left _ _).trans (Nat.zero_le _)
    · refine le_trans ?_ (Action.time_le listed)
      unfold Action.duration? at asks
      unfold Action.time
      cases gesture : action.gesture with
      | pause duration =>
        rw [gesture] at asks
        dsimp only at asks ⊢
        rw [asks]
        exact le_rfl
      | pointerMove duration origin dx dy =>
        -- The longest time is that of a move, which takes none.
        rw [gesture] at asks
        dsimp only at asks
        split at asks
        · have none := still action listed duration origin dx dy gesture
          rw [asks] at none
          rw [show tick.duration = 0 from none]
          exact (min_le_left _ _).trans (Nat.zero_le _)
        · cases asks
      | _ =>
        rw [gesture] at asks
        cases asks

/-- A chain in which no move takes time takes the times of its longest pauses. -/
theorem Chain.time_of_still {session : Session} {ticks : Chain}
    (still : ∀ tick ∈ ticks, ∀ action ∈ tick, action.Still tick.duration) :
    ticks.time session = (ticks.map fun tick => min tick.duration.toNat longestWait).sum :=
  congrArg List.sum (List.map_congr_left fun tick listed => Tick.time_of_still (still tick listed))

/-! ### Sections -/

/-- What an action waits for when it has so many waits for samples still to begin, and its wait is
over at this instant. -/
inductive Wait.Timed (session : Session) (wake : Nat) : Nat → Wait → Prop
  /-- No move is on its way, or it is about to arrive. -/
  | brief {wait} (still : wait.move? = none) : Timed session wake 0 wait
  | center {move ref refusal} (begun : move.started = wake) :
      Timed session wake (Motion.waits session move.duration) (.center move ref refusal)
  | viewport {move base refusal} (begun : move.started = wake) :
      Timed session wake (Motion.waits session move.duration) (.viewport move base refusal)
  | sample {move target} (begun : move.started ≤ wake) :
      Timed session wake (Motion.waitsFrom session move.duration (wake - move.started))
        (.sample move target)
  | step {move target position verdict} (begun : move.started ≤ wake) :
      Timed session wake
        (Motion.waitsFrom session move.duration (wake - move.started + session.spacing) + 1)
        (.step move target position verdict)

/-- Where a section leaves an action that is to end at a given instant, after so many more waits
for samples. -/
inductive Slot.Timed (session : Session) (finish now : Nat) : Nat → Slot → Prop
  | waits {wake left wait} (timed : wait.Timed session wake left)
      (ends : wake + left * session.spacing = finish) (ahead : now ≤ wake) :
      Timed session finish now left (.waiting wake wait)
  | fails {left error} : Timed session finish now left (.settled (.error error))
  | ends (onTime : now = finish) : Timed session finish now 0 (.settled (.ok ()))

/-- What a section leads to, with so many waits to begin, the one that it begins included. -/
def Session.Leads (session : Session) (finish left : Nat) (result : World × Outcome) : Prop :=
  let next := Slot.ofOutcome result.1 result.2
  ∃ rest, left = rest + next.awaitsSample.toNat ∧ next.Timed session finish result.1.now rest

namespace Session

variable {session : Session} {finish : Nat} {world : World} {move : Move}

theorem leads_failed {left : Nat} (error : ActionError) :
    session.Leads finish left (world, .failed error) :=
  ⟨left, rfl, .fails⟩

theorem leads_done (onTime : world.now = finish) : session.Leads finish 0 (world, .done) :=
  ⟨0, rfl, .ends onTime⟩

theorem leads_request {left : Nat} {id : SourceId} {event : Event} {wait : Verdict → Wait}
    (onTime : world.now + left * session.spacing = finish) (prompt : world.host.IsPrompt)
    (timed : ∀ verdict, (wait verdict).Timed session world.now left)
    (other : ∀ wake verdict, (Slot.waiting wake (wait verdict)).awaitsSample = false) :
    session.Leads finish left (world.request id event wait) := by
  have atOnce : world.host.injectionDelay world.host.tally world.now = 0 := (prompt _ _).1
  simp only [Leads, World.request, World.inject, Slot.ofOutcome, other, World.wake, atOnce]
  exact ⟨left, rfl, .waits (timed _) onTime le_rfl⟩

theorem leads_requestViewport (begun : move.started = world.now)
    (onTime : world.now + Motion.waits session move.duration * session.spacing = finish)
    (prompt : world.host.IsPrompt) (base : Point) :
    session.Leads finish (Motion.waits session move.duration)
      (world.requestViewport move base) := by
  have atOnce : world.host.geometryDelay world.host.tally world.now = 0 := (prompt _ _).2
  simp only [Leads, World.requestViewport, World.askViewport, Slot.ofOutcome, World.wake, atOnce]
  exact ⟨_, rfl, .waits (.viewport begun) onTime le_rfl⟩

theorem leads_requestCenter (begun : move.started = world.now)
    (onTime : world.now + Motion.waits session move.duration * session.spacing = finish)
    (prompt : world.host.IsPrompt) (ref : ElementRef) :
    session.Leads finish (Motion.waits session move.duration)
      (world.requestCenter move ref) := by
  have atOnce : world.host.geometryDelay world.host.tally world.now = 0 := (prompt _ _).2
  simp only [Leads, World.requestCenter, World.askCenter, Slot.ofOutcome, World.wake, atOnce]
  exact ⟨_, rfl, .waits (.center begun) onTime le_rfl⟩

theorem leads_moveToTarget (onTime : world.now = finish) (prompt : world.host.IsPrompt)
    (id : SourceId) (target : Point) : session.Leads finish 0 (world.moveToTarget id target) := by
  unfold World.moveToTarget
  split
  · exact leads_failed _
  · exact leads_done onTime
  · exact leads_request (by simpa using onTime) prompt (fun _ => .brief rfl) fun _ _ => rfl

section
variable (begun : move.started ≤ world.now)
  (onTime : world.now + (Motion.waitsFrom session move.duration
    (world.now - move.started + session.spacing) + 1) * session.spacing = finish)
include begun onTime

theorem leads_awaitSample (target : Point) :
    session.Leads finish (Motion.waitsFrom session move.duration
      (world.now - move.started + session.spacing) + 1)
      (world.awaitSample session move target) := by
  have wake : world.wake session.config.sampleInterval.toNat = world.now + session.spacing := rfl
  have elapsed : world.now + session.spacing - move.started =
      world.now - move.started + session.spacing := by omega
  refine ⟨_, rfl, ?_⟩
  simp only [World.awaitSample, Slot.ofOutcome, wake]
  rw [← elapsed] at onTime ⊢
  refine .waits (.sample (begun.trans (Nat.le_add_right _ _))) ?_ (Nat.le_add_right _ _)
  rw [← onTime]
  ring

theorem leads_moveToSample (prompt : world.host.IsPrompt) (target position : Point) :
    session.Leads finish (Motion.waitsFrom session move.duration
      (world.now - move.started + session.spacing) + 1)
      (world.moveToSample session move target position) := by
  unfold World.moveToSample
  split
  · exact leads_failed _
  · exact leads_awaitSample begun onTime target
  · exact leads_request onTime prompt (fun _ => .step begun) fun _ _ => rfl

end

theorem leads_takeSample {context : Context} (serves : context.session = session)
    (begun : move.started ≤ world.now)
    (onTime : world.now + Motion.waitsFrom session move.duration (world.now - move.started) *
      session.spacing = finish)
    (prompt : world.host.IsPrompt) (target : Point) :
    session.Leads finish
      (Motion.waitsFrom session move.duration (world.now - move.started))
      (Wait.takeSample context move target world) := by
  unfold Wait.takeSample
  rw [serves]
  dsimp only
  split
  next continues =>
    rw [Motion.waitsFrom_of_continues continues] at onTime ⊢
    exact leads_moveToSample begun onTime prompt _ _
  next stops =>
    rw [Motion.waitsFrom_of_not_continues stops] at onTime ⊢
    exact leads_moveToTarget (by simpa using onTime) prompt _ _

theorem leads_setOut {context : Context} (serves : context.session = session)
    (begun : move.started = world.now)
    (onTime : world.now + Motion.waits session move.duration * session.spacing = finish)
    (prompt : world.host.IsPrompt) (base : Point) :
    session.Leads finish (Motion.waits session move.duration)
      (Wait.setOut context move base world) := by
  unfold Wait.setOut
  rw [serves]
  split
  · exact leads_failed _
  · split
    next instant =>
      rw [Motion.waits, if_pos instant] at onTime ⊢
      exact leads_moveToTarget (by simpa using onTime) prompt _ _
    next long =>
      have first : Motion.waits session move.duration = Motion.waitsFrom session move.duration
          (world.now - move.started + session.spacing) + 1 := by
        rw [Motion.waits, if_neg long, begun, Nat.sub_self, Nat.zero_add]
      rw [first] at onTime ⊢
      exact leads_awaitSample begun.le onTime _

theorem leads_refused {error : HostError} (restored : Except InvalidArgument Inputs) (left : Nat) :
    session.Leads finish left (Wait.refused error restored world) := by
  unfold Wait.refused
  split <;> exact leads_failed _

end Session

/-- A wait that ends on time leads on to the end. -/
theorem Wait.Timed.leads {session : Session} {finish left : Nat} {world : World} {wait : Wait}
    {context : Context} (h : wait.Timed session world.now left)
    (onTime : world.now + left * session.spacing = finish) (serves : context.session = session)
    (prompt : world.host.IsPrompt) : session.Leads finish left (wait.resume context world) := by
  cases h with
  | @center move ref refusal begun =>
    simp only [resume]
    split
    · exact Session.leads_failed _
    · split
      · exact Session.leads_failed _
      · exact Session.leads_requestViewport begun onTime prompt _
  | @viewport move base refusal begun =>
    simp only [resume]
    split
    · exact Session.leads_failed _
    · exact Session.leads_setOut serves begun onTime prompt base
  | @sample move target begun => exact Session.leads_takeSample serves begun onTime prompt target
  | @step move target position verdict begun =>
    simp only [resume]
    split
    · exact Session.leads_failed _
    · split
      · exact Session.leads_failed _
      · rw [serves]
        exact Session.leads_awaitSample begun onTime target
  | @brief wait still =>
    have now : world.now = finish := by simpa using onTime
    cases wait with
    | pause => exact Session.leads_done now
    | keydown id event printable verdict =>
      simp only [resume]
      split
      · exact Session.leads_failed _
      · unfold afterKeydown
        dsimp only
        split
        · exact Session.leads_request onTime prompt (fun _ => .brief rfl) fun _ _ => rfl
        · exact Session.leads_done now
    | mousedown id event opensMenu verdict =>
      simp only [resume]
      split
      · exact Session.leads_failed _
      · split
        · exact Session.leads_request onTime prompt (fun _ => .brief rfl) fun _ _ => rfl
        · exact Session.leads_done now
    | keypress | contextmenu =>
      simp only [resume]
      split
      · exact Session.leads_failed _
      · exact Session.leads_done now
    | keyup | mouseup =>
      simp only [resume]
      split
      · exact Session.leads_refused _ _
      · exact Session.leads_done now
    | arrival =>
      simp only [resume]
      split
      · exact Session.leads_failed _
      · split
        · exact Session.leads_failed _
        · exact Session.leads_done now
    | _ => cases still

/-- An action that begins on time ends when its time has passed. -/
theorem Action.begin_leads (action : Action) {session : Session} {context : Context}
    (tickDuration : UInt64) {world : World} (prompt : world.host.IsPrompt) :
    session.Leads (world.now + action.time session tickDuration)
      (action.waits session tickDuration) (action.begin context tickDuration world) := by
  unfold begin time waits
  cases action.gesture with
  | pause duration =>
    dsimp only
    split
    next none => exact Session.leads_done (by simp [none])
    next some => exact ⟨0, rfl, .waits (.brief rfl) (by simp [World.wake]) (Nat.le_add_right _ _)⟩
  | pointerMove duration origin dx dy =>
    simp only [beginPointerMove]
    split
    · exact Session.leads_failed _
    next source found =>
      let move : Move :=
        ⟨action.id, world.now, source.position, dx, dy, effective duration tickDuration⟩
      have begun : move.started = world.now := rfl
      cases origin with
      | viewport | pointer => exact Session.leads_requestViewport begun rfl prompt _
      | element ref => exact Session.leads_requestCenter begun rfl prompt ref
  | pointerCancel => exact Session.leads_failed _
  | keyDown value =>
    simp only [beginKeyDown]
    split
    · exact Session.leads_failed _
    · exact Session.leads_request rfl prompt (fun _ => .brief rfl) fun _ _ => rfl
  | keyUp value =>
    simp only [beginKeyUp]
    split
    · exact Session.leads_failed _
    · exact Session.leads_done (by simp)
    · exact Session.leads_request rfl prompt (fun _ => .brief rfl) fun _ _ => rfl
  | pointerDown button =>
    simp only [beginPointerDown]
    split
    · exact Session.leads_failed _
    · exact Session.leads_done (by simp)
    next event inputs pressed =>
      have reset : (World.resetClick { world with inputs := inputs }).host.IsPrompt :=
        prompt.of_surface (World.surface_resetClick { world with inputs := inputs })
      split
      · exact Session.leads_request rfl reset (fun _ => .brief rfl) fun _ _ => rfl
      · exact Session.leads_request rfl prompt (fun _ => .brief rfl) fun _ _ => rfl
  | pointerUp button =>
    simp only [beginPointerUp]
    split
    · exact Session.leads_failed _
    · exact Session.leads_done (by simp)
    · exact Session.leads_request rfl prompt (fun _ => .brief rfl) fun _ _ => rfl

/-- Whether the next section of an action is due: it is the first, or its wait is over just now. -/
def Slot.IsDue (now : Nat) : Slot → Prop
  | .ready _ => True
  | .waiting wake _ => wake = now
  | .settled _ => False

/-- A section that nobody has kept waiting, and for which the surface answers at once. -/
structure Passage.OnTime (session : Session) (passage : Passage) : Prop where
  serves : passage.context.session = session
  prompt : passage.world.host.IsPrompt
  due : passage.slot.IsDue passage.world.now

/-- A section leaves its action with the time that is left to it. -/
private theorem Passage.timed_of_leads {session : Session} {passage : Passage} {finish left : Nat}
    {result : World × Outcome} (leads : session.Leads finish left result)
    (next : passage.next = .ofOutcome result.1 result.2)
    (now : result.1.now = passage.world.now) :
    ∃ rest, left = rest + passage.next.awaitsSample.toNat ∧
      passage.next.Timed session finish passage.world.now rest := by
  obtain ⟨rest, count, timed⟩ := leads
  rw [now] at timed
  exact ⟨rest, next ▸ count, next ▸ timed⟩

namespace Passage.OnTime

variable {session : Session} {passage : Passage} (h : passage.OnTime session)
include h

/-- An action that begins on time is to end when its time has passed. -/
theorem timed_begin {action : Action} (begins : passage.slot = .ready action) :
    ∃ rest, action.waits session passage.duration = rest + passage.next.awaitsSample.toNat ∧
      passage.next.Timed session (passage.world.now + action.time session passage.duration)
        passage.world.now rest :=
  timed_of_leads (action.begin_leads passage.duration h.prompt)
    (by rw [Passage.next, begins]; rfl) (action.begin_progress passage.context _ _).1

/-- An action that goes on in time is to end when it was to end before. -/
theorem timed_step {finish earlier left : Nat}
    (timed : passage.slot.Timed session finish earlier left) :
    ∃ rest, left = rest + passage.next.awaitsSample.toNat ∧
      passage.next.Timed session finish passage.world.now rest := by
  have due := h.due
  generalize stands : passage.slot = slot at timed due
  cases timed with
  | fails => exact due.elim
  | ends => exact due.elim
  | @waits wake left wait timed ends ahead =>
    obtain rfl : wake = passage.world.now := due
    exact timed_of_leads (timed.leads ends h.serves h.prompt)
      (by rw [Passage.next, stands]; rfl) (wait.resume_progress passage.context (le_refl _)).1

end Passage.OnTime

/-- The waits of an action so far and those still to come are as many as its loop has. -/
theorem Action.Course.timed {session : Session} {action : Action} {context : Context}
    {duration : UInt64} {past : List Passage} {slot : Slot}
    (h : action.Course context duration past slot)
    (onTime : ∀ passage ∈ past, passage.OnTime session) :
    past = [] ∨ ∃ first ∈ past.head?, ∃ earlier left,
      slot.Timed session (first.world.now + action.time session duration) earlier left ∧
      Passage.waits past + left = action.waits session duration := by
  induction h with
  | begins => exact Or.inl rfl
  | @goesOn past slot before spot world ih =>
    obtain ⟨others, own⟩ := List.forall_mem_append.mp onTime
    have own := own _ List.mem_cons_self
    refine Or.inr ?_
    -- The first section fixes when the action is to end; the others keep to it.
    rcases ih others with rfl | ⟨first, begins, earlier, left, timed, count⟩
    · obtain ⟨-, begins, -⟩ := before.linked
      obtain ⟨rest, count, timed⟩ := own.timed_begin begins
      refine ⟨_, rfl, world.now, rest, timed, ?_⟩
      have none : Passage.waits [] = 0 := rfl
      rw [Passage.waits_concat, count, none]
      omega
    · obtain ⟨rest, same, timed⟩ := own.timed_step timed
      refine ⟨first, ?_, world.now, rest, timed, ?_⟩
      · rw [List.head?_append, begins]
        rfl
      · rw [Passage.waits_concat, ← count, same]
        omega

/-- An action that has succeeded has waited as often as its loop does. -/
theorem Action.Course.waits_eq {session : Session} {action : Action} {context : Context}
    {duration : UInt64} {past : List Passage} {slot : Slot}
    (h : action.Course context duration past slot)
    (onTime : ∀ passage ∈ past, passage.OnTime session) {last : Passage} (listed : last ∈ past)
    (ends : last.next = .settled (.ok ())) :
    Passage.waits past = action.waits session duration := by
  rcases h.timed onTime with rfl | ⟨first, -, earlier, left, timed, count⟩
  · cases listed
  · rw [h.settled listed ends] at timed
    cases timed
    exact count

/-! ### When events are recorded -/

/-- A stretch that adds only events of its own time to the journal. -/
private def Stamps (before after : World) : Prop :=
  ∃ told, after.host.journal = before.host.journal ++ told ∧
    ∀ injection ∈ told, injection.time = before.now

section
variable {before world : World} (same : world.host.journal = before.host.journal)
include same

private theorem stamps_nothing : Stamps before world :=
  ⟨[], by simpa using same, List.forall_mem_nil _⟩

variable (now : world.now = before.now)
include now

private theorem stamps_request {id : SourceId} {event : Event} {wait : Verdict → Wait} :
    Stamps before (world.request id event wait).1 :=
  ⟨[_], congrArg (· ++ _) same, List.forall_mem_singleton.mpr now⟩

private theorem stamps_moveToTarget (id : SourceId) (target : Point) :
    Stamps before (world.moveToTarget id target).1 := by
  unfold World.moveToTarget
  split
  · exact stamps_nothing same
  · exact stamps_nothing same
  · exact stamps_request same now

private theorem stamps_moveToSample (session : Session) (move : Move) (target position : Point) :
    Stamps before (world.moveToSample session move target position).1 := by
  unfold World.moveToSample
  split
  · exact stamps_nothing same
  · exact stamps_nothing same
  · exact stamps_request same now

end

private theorem Action.begin_stamps (action : Action) (context : Context) (tickDuration : UInt64)
    (world : World) : Stamps world (action.begin context tickDuration world).1 := by
  unfold begin
  cases action.gesture with
  | pause duration =>
    dsimp only
    split <;> exact stamps_nothing rfl
  | keyDown value =>
    simp only [beginKeyDown]
    split
    · exact stamps_nothing rfl
    · exact stamps_request rfl rfl
  | keyUp value =>
    simp only [beginKeyUp]
    split
    · exact stamps_nothing rfl
    · exact stamps_nothing rfl
    · exact stamps_request rfl rfl
  | pointerDown button =>
    simp only [beginPointerDown]
    split
    · exact stamps_nothing rfl
    · exact stamps_nothing rfl
    · refine stamps_request (World.journal_resetClick ..) ?_
      split <;> rfl
  | pointerUp button =>
    simp only [beginPointerUp]
    split
    · exact stamps_nothing rfl
    · exact stamps_nothing rfl
    · exact stamps_request rfl rfl
  | pointerMove duration origin dx dy =>
    simp only [beginPointerMove]
    split
    · exact stamps_nothing rfl
    · split <;> exact stamps_nothing rfl
  | pointerCancel => exact stamps_nothing rfl

private theorem Wait.resume_stamps (wait : Wait) (context : Context) (world : World) :
    Stamps world (wait.resume context world).1 := by
  cases wait with
  | pause => exact stamps_nothing rfl
  | keydown id event printable verdict =>
    simp only [resume]
    split
    · exact stamps_nothing rfl
    · unfold afterKeydown
      dsimp only
      split
      · exact stamps_request rfl rfl
      · exact stamps_nothing rfl
  | mousedown id event opensMenu verdict =>
    simp only [resume]
    split
    · exact stamps_nothing rfl
    · split
      · exact stamps_request rfl rfl
      · exact stamps_nothing rfl
  | keypress | contextmenu =>
    simp only [resume]
    split <;> exact stamps_nothing rfl
  | keyup | mouseup =>
    simp only [resume]
    split
    · unfold refused
      split <;> exact stamps_nothing rfl
    · exact stamps_nothing rfl
  | center move ref refusal =>
    simp only [resume]
    split
    · exact stamps_nothing rfl
    · split <;> exact stamps_nothing rfl
  | viewport move base refusal =>
    simp only [resume]
    split
    · exact stamps_nothing rfl
    · unfold setOut
      split
      · exact stamps_nothing rfl
      · split
        · exact stamps_moveToTarget rfl rfl _ _
        · exact stamps_nothing rfl
  | sample move target =>
    simp only [resume, takeSample]
    split
    · exact stamps_moveToSample rfl rfl _ _ _ _
    · exact stamps_moveToTarget rfl rfl _ _
  | step | arrival =>
    simp only [resume]
    split
    · exact stamps_nothing rfl
    · split <;> exact stamps_nothing rfl

/-- An event is recorded at the time of the section that tells of it. -/
theorem Passage.time_of_told {passage : Passage} {injection : Injection}
    (listed : injection ∈ passage.told) : injection.time = passage.world.now := by
  have stamps : Stamps passage.world passage.after := by
    unfold after
    cases passage.slot with
    | ready action => exact action.begin_stamps ..
    | waiting wake wait => exact wait.resume_stamps ..
    | settled => exact stamps_nothing rfl
  obtain ⟨told, journal, stamped⟩ := stamps
  rw [Passage.told, journal, List.drop_left] at listed
  exact stamped injection listed

end InputActions
