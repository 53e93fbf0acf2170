import InputActions.Session.Activity

/-!
# Running activities together

Activities share one world and one clock. At each instant the first activity that is ready runs its
next section, and so on until none is ready; then the clock moves to the first instant at which one
will be. An activity that is ready stays the first one until it has to wait or is finished, so at
each instant every activity runs at most once, in the order of the list, for as long as it can.

A run ends: beginning an activity leaves fewer planned ones, every other section lowers what is left
of those that have begun, and moving the clock makes one of them ready (`Schedule.step_lowers`).
`Schedule.run` is the state in which all have finished (`Schedule.run_finished`), and it is reached
by steps alone (`Schedule.exists_run_eq`).
-/

namespace InputActions

/-- Activities in progress, and the world they act on. -/
structure Schedule where
  session : Session
  world : World
  activities : List Activity

namespace Schedule

/-- Runs one section of the first activity that is ready. -/
def stepFirst (session : Session) (world : World) :
    List Activity → Option (World × List Activity)
  | [] => none
  | activity :: activities =>
    if activity.isReady world.now then
      let (world, next) := activity.step session world
      some (world, next :: activities)
    else
      (stepFirst session world activities).map fun (world, rest) => (world, activity :: rest)

/-- The first instant for which an activity waits. -/
def nextInstant? (activities : List Activity) : Option Nat :=
  (activities.filterMap (·.wake?)).min?

/-- One section of an activity, or a move of the clock. -/
def step (schedule : Schedule) : Schedule :=
  match stepFirst schedule.session schedule.world schedule.activities with
  | some (world, activities) => { schedule with world := world, activities := activities }
  | none =>
    match nextInstant? schedule.activities with
    | some instant =>
      { schedule with world := { schedule.world with now := max schedule.world.now instant } }
    | none => schedule

/-- Whether every activity has its answer. -/
def isFinished (schedule : Schedule) : Bool := schedule.activities.all (·.isFinished)

/-- How many activities have not begun. -/
def planned (schedule : Schedule) : Nat := schedule.activities.countP (·.isPlanned)

/-- How many sections are left to those that have begun. -/
def bound (schedule : Schedule) : Nat := total Activity.bound schedule.activities

/-- Whether some activity can run now. -/
def isReady (schedule : Schedule) : Bool :=
  schedule.activities.any (·.isReady schedule.world.now)

end Schedule

/-! ### A section of a slot -/

theorem Slot.step_bound {slot : Slot} (context : Context) (duration : UInt64) {world : World}
    (ready : slot.isReady world.now = true) :
    (slot.step context duration world).1.now = world.now ∧
      (slot.step context duration world).2.bound duration < slot.bound duration := by
  cases slot with
  | settled result => simp [isReady] at ready
  | ready action =>
    have progress := action.begin_progress context duration world
    simp only [Progress, step] at progress ⊢
    refine ⟨progress.1, ?_⟩
    cases h : (action.begin context duration world).2 with
    | settled result => simp [ofOutcome, bound]
    | waits ms wait =>
      simp only [h] at progress
      simpa [ofOutcome, bound] using progress.2
  | waiting wake wait =>
    have due : wake ≤ world.now := by simpa [isReady] using ready
    have progress := wait.resume_progress context due
    simp only [Progress, step] at progress ⊢
    refine ⟨progress.1, ?_⟩
    cases h : (wait.resume context world).2 with
    | settled result => simp [ofOutcome, bound]
    | waits ms wait =>
      simp only [h] at progress
      simpa [ofOutcome, bound] using progress.2

theorem Slot.stepFirst_bound {slots rest : List Slot} {context : Context} {duration : UInt64}
    {world next : World} (h : stepFirst slots context duration world = some (next, rest)) :
    next.now = world.now ∧
      total (·.bound duration) rest < total (·.bound duration) slots := by
  induction slots generalizing rest with
  | nil => simp [stepFirst] at h
  | cons slot slots ih =>
    unfold stepFirst at h
    split at h
    · rename_i ready
      have lowered := step_bound context duration ready
      simp only [Option.some.injEq, Prod.mk.injEq] at h
      obtain ⟨rfl, rfl⟩ := h
      refine ⟨lowered.1, ?_⟩
      simpa using lowered.2
    · simp only [Option.map_eq_some_iff, Prod.mk.injEq, Prod.exists] at h
      obtain ⟨_, _, found, rfl, rfl⟩ := h
      have lowered := ih found
      refine ⟨lowered.1, ?_⟩
      simpa using lowered.2

theorem Slot.stepFirst_eq_none {slots : List Slot} {context : Context} {duration : UInt64}
    {world : World} (h : stepFirst slots context duration world = none) :
    slots.any (·.isReady world.now) = false := by
  induction slots with
  | nil => rfl
  | cons slot slots ih =>
    unfold stepFirst at h
    split at h
    · simp at h
    · rename_i ready
      simp only [Option.map_eq_none_iff] at h
      simp [ih h, ready]

/-! ### A section of an activity -/

theorem Activity.isPlanned_ofTicks (context : Context) (now : Nat) (ticks : List Tick) :
    (ofTicks context now ticks).isPlanned = false := by
  cases ticks <;> rfl

theorem Activity.isPlanned_ofEntries (context : Context) (now : Nat) (entries : List Action) :
    (ofEntries context now entries).isPlanned = false := by
  cases entries <;> rfl

theorem World.isPlanned_perform (world : World) (context : Context) (chain : Chain) :
    (world.perform context chain).2.isPlanned = false := by
  unfold perform
  simp only
  split
  · rfl
  · exact Activity.isPlanned_ofTicks ..

theorem World.isPlanned_start (world : World) (session : Session) (request : Request) :
    (world.start session request).2.isPlanned = false := by
  cases request with
  | dispatch payload mode =>
    simp only [start]
    split
    · rfl
    · exact isPlanned_perform ..
  | perform chain mode => exact isPlanned_perform ..
  | release => exact Activity.isPlanned_ofEntries ..
  | _ => rfl

theorem Activity.bound_ofTicks (context : Context) (now : Nat) (ticks : List Tick) :
    (ofTicks context now ticks).bound ≤ total tickBound ticks := by
  cases ticks with
  | nil => simp [ofTicks, bound]
  | cons tick rest =>
    simp only [ofTicks, bound, total_map, total_cons, tickBound]
    have same : total ((·.bound tick.duration) ∘ Slot.ready) tick =
        total (fun action => action.bound tick.duration + 1) tick := rfl
    omega

theorem Activity.bound_ofEntries (context : Context) (now : Nat) (entries : List Action) :
    (ofEntries context now entries).bound ≤
      total (fun entry => entry.bound 0 + 2) entries := by
  cases entries with
  | nil => simp [ofEntries, bound]
  | cons entry rest =>
    simp only [ofEntries, bound, Slot.bound, total_cons]
    omega

theorem Activity.step_bound {activity : Activity} (session : Session) {world : World}
    (begun : activity.isPlanned = false) (ready : activity.isReady world.now = true) :
    (activity.step session world).2.isPlanned = false ∧
      (activity.step session world).2.bound < activity.bound := by
  cases activity with
  | planned start request => simp [isPlanned] at begun
  | finished time answer => simp [isReady] at ready
  | sleeping wake => exact ⟨rfl, by simp [step, bound]⟩
  | ticking context duration slots rest =>
    simp only [step]
    split
    · rename_i next slots' found
      have lowered := (Slot.stepFirst_bound found).2
      refine ⟨rfl, ?_⟩
      simp only [bound]
      omega
    · unfold afterTick
      split
      · exact ⟨rfl, by simp [bound]⟩
      · refine ⟨isPlanned_ofTicks .., ?_⟩
        have lowered := bound_ofTicks context world.now rest
        have whole : (ticking context duration slots rest).bound =
            total (·.bound duration) slots + total tickBound rest + 1 := rfl
        dsimp only
        omega
  | releasing context entry slot rest =>
    simp only [isReady, Bool.or_eq_true] at ready
    have whole : (releasing context entry slot rest).bound =
        slot.bound 0 + total (fun entry => entry.bound 0 + 2) rest + 1 := rfl
    have lowered := bound_ofEntries context (slot.step context 0 world).1.now rest
    simp only [step, afterEntry]
    split
    · refine ⟨isPlanned_ofEntries .., ?_⟩
      dsimp only
      omega
    · exact ⟨rfl, by simp [bound]⟩
    · rename_i settled failed
      refine ⟨rfl, ?_⟩
      rcases ready with ready | ready
      · have lower := (Slot.step_bound context 0 ready).2
        have rest' : (releasing context entry (slot.step context 0 world).2 rest).bound =
            (slot.step context 0 world).2.bound 0 +
              total (fun entry => entry.bound 0 + 2) rest + 1 := rfl
        dsimp only
        omega
      · cases slot with
        | settled result =>
          cases result with
          | ok value => exact absurd rfl settled
          | error error => exact absurd rfl (failed error)
        | _ => simp [Slot.isSettled] at ready

/-! ### A step of a schedule -/

namespace Schedule

theorem stepFirst_lowers {session : Session} {world next : World}
    {activities rest : List Activity}
    (h : stepFirst session world activities = some (next, rest)) :
    rest.countP (·.isPlanned) < activities.countP (·.isPlanned) ∨
      rest.countP (·.isPlanned) = activities.countP (·.isPlanned) ∧
        total Activity.bound rest < total Activity.bound activities := by
  induction activities generalizing rest with
  | nil => simp [stepFirst] at h
  | cons activity activities ih =>
    unfold stepFirst at h
    split at h
    · rename_i ready
      simp only [Option.some.injEq, Prod.mk.injEq] at h
      obtain ⟨rfl, rfl⟩ := h
      cases begun : activity.isPlanned with
      | true =>
        left
        have started : (activity.step session world).2.isPlanned = false := by
          cases activity with
          | planned start request => exact World.isPlanned_start ..
          | _ => simp [Activity.isPlanned] at begun
        simp [begun, started]
      | false =>
        right
        have lowered := Activity.step_bound session begun ready
        simp [begun, lowered.1, lowered.2]
    · simp only [Option.map_eq_some_iff, Prod.mk.injEq, Prod.exists] at h
      obtain ⟨_, _, found, rfl, rfl⟩ := h
      rcases ih found with fewer | ⟨same, lower⟩
      · left
        simpa [List.countP_cons] using fewer
      · right
        exact ⟨by simp [List.countP_cons, same], by simpa using lower⟩

theorem stepFirst_eq_none_iff (session : Session) (world : World) (activities : List Activity) :
    stepFirst session world activities = none ↔
      activities.any (·.isReady world.now) = false := by
  induction activities with
  | nil => simp [stepFirst]
  | cons activity activities ih =>
    unfold stepFirst
    split
    · rename_i ready
      simp [ready]
    · rename_i ready
      simp only [Option.map_eq_none_iff, ih, List.any_cons, ready, Bool.false_or]

end Schedule

/-- A slot that is neither ready nor settled knows when it will be ready. -/
theorem Slot.wake?_isSome {slot : Slot} {now : Nat} (ready : slot.isReady now = false)
    (live : slot.isSettled = false) : slot.wake?.isSome = true := by
  cases slot <;> simp_all [isReady, isSettled, wake?]

theorem Slot.isReady_of_wake? {slot : Slot} {now instant : Nat} (h : slot.wake? = some instant)
    (due : instant ≤ now) : slot.isReady now = true := by
  cases slot <;> simp_all [isReady, wake?]

/-- An activity that is neither ready nor finished knows when it will be ready. -/
theorem Activity.wake?_isSome {activity : Activity} {now : Nat}
    (ready : activity.isReady now = false) (live : activity.isFinished = false) :
    activity.wake?.isSome = true := by
  cases activity with
  | planned start request => rfl
  | sleeping wake => rfl
  | finished time answer => simp [isFinished] at live
  | releasing context entry slot rest =>
    simp only [isReady, Bool.or_eq_false_iff] at ready
    exact Slot.wake?_isSome ready.1 ready.2
  | ticking context duration slots rest =>
    simp only [isReady, Bool.or_eq_false_iff, List.any_eq_false, List.all_eq_false] at ready
    obtain ⟨idle, slot, member, unsettled⟩ := ready
    have found := Slot.wake?_isSome (by simpa using idle slot member) (by simpa using unsettled)
    obtain ⟨instant, wakes⟩ := Option.isSome_iff_exists.1 found
    have listed : instant ∈ slots.filterMap (·.wake?) :=
      List.mem_filterMap.2 ⟨slot, member, wakes⟩
    simp only [wake?, List.isSome_min?_iff]
    exact List.ne_nil_of_mem listed

theorem Activity.isReady_of_wake? {activity : Activity} {now instant : Nat}
    (h : activity.wake? = some instant) (due : instant ≤ now) : activity.isReady now = true := by
  cases activity with
  | planned start request => simp_all [isReady, wake?]
  | sleeping wake => simp_all [isReady, wake?]
  | finished time answer => simp [wake?] at h
  | releasing context entry slot rest =>
    simp only [isReady, Bool.or_eq_true]
    exact Or.inl (Slot.isReady_of_wake? h due)
  | ticking context duration slots rest =>
    have listed := List.min?_mem h
    obtain ⟨slot, member, wakes⟩ := List.mem_filterMap.1 listed
    simp only [isReady, Bool.or_eq_true, List.any_eq_true]
    exact Or.inl ⟨slot, member, Slot.isReady_of_wake? wakes due⟩

namespace Schedule

theorem isReady_of_nextInstant? {activities : List Activity} {now instant : Nat}
    (h : nextInstant? activities = some instant) (due : instant ≤ now) :
    activities.any (·.isReady now) = true := by
  obtain ⟨activity, member, wakes⟩ := List.mem_filterMap.1 (List.min?_mem h)
  exact List.any_eq_true.2 ⟨activity, member, Activity.isReady_of_wake? wakes due⟩

theorem nextInstant?_isSome {activities : List Activity} {now : Nat}
    (ready : activities.any (·.isReady now) = false)
    (live : activities.all (·.isFinished) = false) :
    (nextInstant? activities).isSome = true := by
  obtain ⟨activity, member, unfinished⟩ := List.all_eq_false.1 live
  have idle := List.any_eq_false.1 ready activity member
  have found := Activity.wake?_isSome (by simpa using idle) (by simpa using unfinished)
  obtain ⟨instant, wakes⟩ := Option.isSome_iff_exists.1 found
  simp only [nextInstant?, List.isSome_min?_iff]
  exact List.ne_nil_of_mem (List.mem_filterMap.2 ⟨activity, member, wakes⟩)

/-- A step of a schedule that is not finished lowers what is left to do: activities to begin, then
sections, and with the same of both it moves the clock until an activity is ready. -/
theorem step_lowers {schedule : Schedule} (live : schedule.isFinished = false) :
    schedule.step.planned < schedule.planned ∨
      schedule.step.planned = schedule.planned ∧
        (schedule.step.bound < schedule.bound ∨
          schedule.step.bound = schedule.bound ∧
            schedule.isReady = false ∧ schedule.step.isReady = true) := by
  unfold step
  split
  · rename_i next rest found
    rcases stepFirst_lowers found with fewer | ⟨same, lower⟩
    · exact Or.inl fewer
    · exact Or.inr ⟨same, Or.inl lower⟩
  · rename_i idle
    have idle := (stepFirst_eq_none_iff ..).1 idle
    obtain ⟨instant, next⟩ := Option.isSome_iff_exists.1 (nextInstant?_isSome idle live)
    simp only [next]
    exact Or.inr ⟨rfl, Or.inr ⟨rfl, idle, isReady_of_nextInstant? next (Nat.le_max_right _ _)⟩⟩

/-- Steps until every activity has its answer. -/
def run (schedule : Schedule) : Schedule :=
  if _h : schedule.isFinished then schedule else run schedule.step
termination_by (schedule.planned, schedule.bound, if schedule.isReady then 0 else 1)
decreasing_by
  rcases step_lowers (by simpa using _h) with fewer | ⟨same, lower | ⟨same', idle, ready⟩⟩
  · exact Prod.Lex.left _ _ fewer
  · rw [same]
    exact Prod.Lex.right _ (Prod.Lex.left _ _ lower)
  · rw [same, same']
    exact Prod.Lex.right _ (Prod.Lex.right _ (by simp [idle, ready]))

/-- Any number of steps. -/
def steps : Nat → Schedule → Schedule
  | 0, schedule => schedule
  | n + 1, schedule => steps n schedule.step

theorem run_finished (schedule : Schedule) : schedule.run.isFinished = true := by
  fun_induction run schedule with
  | case1 schedule h => exact h
  | case2 schedule h ih => exact ih

theorem exists_run_eq (schedule : Schedule) : ∃ n, schedule.run = steps n schedule := by
  fun_induction run schedule with
  | case1 schedule h => exact ⟨0, rfl⟩
  | case2 schedule h ih =>
    obtain ⟨n, reached⟩ := ih
    exact ⟨n + 1, reached⟩

end Schedule

end InputActions
