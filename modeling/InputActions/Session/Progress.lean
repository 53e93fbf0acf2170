import InputActions.Session.Wait

/-!
# Actions come to an end

A bound on the sections that an action still has before it, given the instant at which its wait is
over. A key or button has at most two answers to wait for. A move that is being sampled has at most
two sections for each millisecond until its time is up, because a sample interval is never zero;
time that passes while an answer is awaited only lowers the bound.

The main statements say that every section of an action lowers it: `Wait.resume_progress` and
`Action.begin_progress`.
-/

namespace InputActions

/-- Milliseconds from an instant until the time of a move is up. -/
def Move.remaining (move : Move) (instant : Nat) : Nat :=
  move.started + move.duration.toNat - instant

/-- How many sections may follow a wait that is over at this instant. -/
def Wait.bound (instant : Nat) : Wait → Nat
  | .pause => 1
  | .keydown .. => 2
  | .keypress _ => 1
  | .keyup .. => 1
  | .mousedown .. => 2
  | .contextmenu _ => 1
  | .mouseup .. => 1
  | .center move .. => 2 * move.remaining instant + 5
  | .viewport move .. => 2 * move.remaining instant + 4
  | .sample move _ => 2 * move.remaining instant + 2
  | .step move .. => max (2 * move.remaining instant + 1) 3
  | .arrival .. => 1

/-- How many sections an action may have. -/
def Action.bound (tickDuration : UInt64) (action : Action) : Nat :=
  match action.gesture with
  | .pause _ => 2
  | .keyDown _ => 3
  | .keyUp _ => 2
  | .pointerDown _ => 3
  | .pointerUp _ => 2
  | .pointerMove duration .. => 2 * (effective duration tickDuration).toNat + 6
  | .pointerCancel => 1

/-- A section that ran at this instant and leaves fewer sections than `bound`. -/
def Progress (instant bound : Nat) (result : World × Outcome) : Prop :=
  result.1.now = instant ∧
    match result.2 with
    | .settled _ => True
    | .waits ms wait => wait.bound (result.1.wake ms) < bound

namespace Progress

variable {instant bound : Nat} {world : World}

theorem settled (result : Except ActionError Unit) (h : world.now = instant) :
    Progress instant bound (world, .settled result) :=
  ⟨h, trivial⟩

theorem done (h : world.now = instant) : Progress instant bound (world, .done) := settled _ h

theorem failed (error : ActionError) (h : world.now = instant) :
    Progress instant bound (world, .failed error) :=
  settled _ h

theorem request {id : SourceId} {event : Event} {wait : Verdict → Wait} (h : world.now = instant)
    (hbound : ∀ verdict later, instant ≤ later → (wait verdict).bound later < bound) :
    Progress instant bound (world.request id event wait) :=
  ⟨h, hbound _ _ (h ▸ Nat.le_add_right _ _)⟩

theorem requestViewport {move : Move} {base : Point} (h : world.now = instant)
    (hbound : 2 * move.remaining instant + 4 < bound) :
    Progress instant bound (world.requestViewport move base) := by
  refine ⟨h, Nat.lt_of_le_of_lt ?_ hbound⟩
  simp only [World.requestViewport, World.askViewport, World.wake, Wait.bound, Move.remaining]
  omega

theorem requestCenter {move : Move} {ref : ElementRef} (h : world.now = instant)
    (hbound : 2 * move.remaining instant + 5 < bound) :
    Progress instant bound (world.requestCenter move ref) := by
  refine ⟨h, Nat.lt_of_le_of_lt ?_ hbound⟩
  simp only [World.requestCenter, World.askCenter, World.wake, Wait.bound, Move.remaining]
  omega

theorem moveToTarget {id : SourceId} {target : Point} (h : world.now = instant)
    (hbound : 1 < bound) : Progress instant bound (world.moveToTarget id target) := by
  unfold World.moveToTarget
  split
  · exact failed _ h
  · exact done h
  · exact request h fun _ _ _ => hbound

/-- The next sample is later than now by at least a millisecond. -/
theorem awaitSample {session : Session} {move : Move} {target : Point} (h : world.now = instant)
    (hbound : 2 * move.remaining (instant + 1) + 2 < bound) :
    Progress instant bound (world.awaitSample session move target) := by
  refine ⟨h, Nat.lt_of_le_of_lt ?_ hbound⟩
  have positive : 0 < session.config.sampleInterval.toNat :=
    Nat.pos_of_ne_zero fun zero => session.interval_ne_zero (UInt64.toNat_inj.1 zero)
  have later : instant + 1 ≤ world.wake session.config.sampleInterval.toNat := by
    simp only [World.wake, longestWait, h]
    omega
  simp only [World.awaitSample, Wait.bound, Move.remaining] at *
  omega

theorem moveToSample {session : Session} {move : Move} {target position : Point}
    (h : world.now = instant) (hremaining : 0 < move.remaining instant)
    (hbound : 2 * move.remaining instant + 1 < bound) :
    Progress instant bound (world.moveToSample session move target position) := by
  unfold World.moveToSample
  split
  · exact failed _ h
  · refine awaitSample h ?_
    simp only [Move.remaining] at *
    omega
  · refine request h fun _ later hlater => ?_
    simp only [Wait.bound, Move.remaining] at *
    omega

theorem refused {error : HostError} {restored : Except InvalidArgument Inputs}
    (h : world.now = instant) : Progress instant bound (Wait.refused error restored world) := by
  unfold Wait.refused
  split
  · exact failed _ h
  · exact failed _ h

end Progress

/-- Every section after a wait leaves fewer sections than the wait did. -/
theorem Wait.resume_progress (wait : Wait) (context : Context) {world : World} {instant : Nat}
    (due : instant ≤ world.now) :
    Progress world.now (wait.bound instant) (wait.resume context world) := by
  cases wait with
  | pause => exact Progress.done rfl
  | keydown id event printable verdict =>
    simp only [resume]
    split
    · exact Progress.failed _ rfl
    · simp only [afterKeydown]
      split
      · exact Progress.request rfl fun _ _ _ => by simp [Wait.bound]
      · exact Progress.done rfl
  | keypress verdict =>
    simp only [resume]
    split
    · exact Progress.failed _ rfl
    · exact Progress.done rfl
  | keyup id key verdict =>
    simp only [resume]
    split
    · exact Progress.refused rfl
    · exact Progress.done rfl
  | mousedown id event opensMenu verdict =>
    simp only [resume]
    split
    · exact Progress.failed _ rfl
    · split
      · exact Progress.request rfl fun _ _ _ => by simp [Wait.bound]
      · exact Progress.done rfl
  | contextmenu verdict =>
    simp only [resume]
    split
    · exact Progress.failed _ rfl
    · exact Progress.done rfl
  | mouseup id button verdict =>
    simp only [resume]
    split
    · exact Progress.refused rfl
    · exact Progress.done rfl
  | center move ref refusal =>
    simp only [resume]
    split
    · exact Progress.failed _ rfl
    · split
      · exact Progress.failed _ rfl
      · refine Progress.requestViewport rfl ?_
        simp only [Wait.bound, Move.remaining]
        omega
  | viewport move base refusal =>
    simp only [resume]
    split
    · exact Progress.failed _ rfl
    · unfold setOut
      split
      · exact Progress.failed _ rfl
      · split
        · exact Progress.moveToTarget rfl (by simp only [Wait.bound]; omega)
        · refine Progress.awaitSample rfl ?_
          simp only [Wait.bound, Move.remaining]
          omega
  | sample move target =>
    simp only [resume, takeSample]
    split
    · rename_i continues
      have elapsed := Motion.elapsed_lt_of_continues continues
      refine Progress.moveToSample rfl ?_ ?_ <;> simp only [Wait.bound, Move.remaining] <;> omega
    · exact Progress.moveToTarget rfl (by simp only [Wait.bound]; omega)
  | step move target position verdict =>
    simp only [resume]
    split
    · exact Progress.failed _ rfl
    · split
      · exact Progress.failed _ rfl
      · refine Progress.awaitSample rfl ?_
        simp only [Wait.bound, Move.remaining]
        omega
  | arrival id target verdict =>
    simp only [resume]
    split
    · exact Progress.failed _ rfl
    · split
      · exact Progress.failed _ rfl
      · exact Progress.done rfl

/-- The first section of an action leaves fewer sections than the action may have. -/
theorem Action.begin_progress (action : Action) (context : Context) (tickDuration : UInt64)
    (world : World) :
    Progress world.now (action.bound tickDuration) (action.begin context tickDuration world) := by
  unfold begin bound
  cases action.gesture with
  | pause duration =>
    simp only
    split
    · exact Progress.done rfl
    · exact ⟨rfl, by simp [Wait.bound]⟩
  | keyDown value =>
    simp only [beginKeyDown]
    split
    · exact Progress.failed _ rfl
    · exact Progress.request rfl fun _ _ _ => by simp [Wait.bound]
  | keyUp value =>
    simp only [beginKeyUp]
    split
    · exact Progress.failed _ rfl
    · exact Progress.done rfl
    · exact Progress.request rfl fun _ _ _ => by simp [Wait.bound]
  | pointerDown button =>
    simp only [beginPointerDown]
    split
    · exact Progress.failed _ rfl
    · exact Progress.done rfl
    · refine Progress.request ?_ fun _ _ _ => by simp [Wait.bound]
      split <;> rfl
  | pointerUp button =>
    simp only [beginPointerUp]
    split
    · exact Progress.failed _ rfl
    · exact Progress.done rfl
    · exact Progress.request rfl fun _ _ _ => by simp [Wait.bound]
  | pointerMove duration origin dx dy =>
    simp only [beginPointerMove]
    split
    · exact Progress.failed _ rfl
    · split
      · refine Progress.requestViewport rfl ?_
        simp only [Move.remaining]
        omega
      · refine Progress.requestViewport rfl ?_
        simp only [Move.remaining]
        omega
      · refine Progress.requestCenter rfl ?_
        simp only [Move.remaining]
        omega
  | pointerCancel => exact Progress.failed _ rfl

end InputActions
