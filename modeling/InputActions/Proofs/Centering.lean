import InputActions.CommandLine.Run
import InputActions.Proofs.Staying

/-!
# The choice of centres

Whether a move is measured from the centre of the visible part of an element or from that of the
whole element is looked at by one section only, which reads what the surface has answered. Where
both centres of every element are the same point, two runs that differ in this choice alone go
through the same worlds at the same times and give the same answers (`World.ask_alike`).

A script gives every element one point, so what a replay prints and how it ends do not show which
choice was made (`CommandLine.replay_hides_center`).
-/
namespace InputActions

/-! ### Surfaces with one centre -/

/-- Whether every element has one centre only. -/
def Host.IsCentered (host : Host) : Prop :=
  ∀ ref centers, host.elements ref = some centers → centers.inView = centers.legacy

namespace Host

/-- These are the surfaces whose answers do not show which centre was asked for. -/
theorem isCentered_iff {host : Host} :
    host.IsCentered ↔ ∀ ref (a b : CenterMode), host.center ref a = host.center ref b := by
  constructor
  · intro h ref a b
    unfold center
    split
    next centers found =>
      have one := h ref centers found
      cases a <;> cases b <;> simp [Centers.point, one]
    · rfl
  · intro same ref centers found
    have answers := same ref .inView .legacy
    simpa only [center, found, Except.ok.injEq, Centers.point] using answers

theorem IsCentered.of_surface {host next : Host} (h : host.IsCentered)
    (same : next.surface = host.surface) : next.IsCentered := fun ref centers found => by
  have elements : next.elements = host.elements := (congrArg Host.elements same :)
  exact h ref centers (elements ▸ found)

theorem IsCentered.addElement {host : Host} (h : host.IsCentered) (ref : ElementRef)
    (point : Point) : (host.addElement ref ⟨point, point⟩).IsCentered := by
  intro other centers found
  simp only [Host.addElement] at found
  split at found
  · cases found
    rfl
  · exact h other centers found

end Host

/-! ### Calls that differ in the choice -/

/-- Two configurations that differ in the choice of centres, if at all. -/
structure Config.Alike (a b : Config) : Prop where
  interval : a.sampleInterval = b.sampleInterval
  platform : a.platform = b.platform

theorem Config.Alike.normalized {a b : Config} (h : a.Alike b) :
    a.normalized.Alike b.normalized := by
  unfold Config.normalized
  rw [h.interval]
  split
  · exact ⟨rfl, h.platform⟩
  · exact h

/-- Two calls on sessions that differ in the choice of centres; either makes its own. -/
def Context.Alike (a b : Context) : Prop := a.session.config.Alike b.session.config

/-- Two requests for the same thing, with whatever choice of centres. Neither changes the
surface. -/
inductive Request.Alike : Request → Request → Prop
  | dispatch (payload : Json) (a b : Option CenterMode) :
      Alike (.dispatch payload a) (.dispatch payload b)
  | perform (chain : Chain) (a b : Option CenterMode) : Alike (.perform chain a) (.perform chain b)
  | same {request : Request} (still : ∀ change, request ≠ .adjust change) : Alike request request

/-- Two activities at the same point, of calls that differ in the choice of centres. -/
inductive Activity.Alike : Activity → Activity → Prop
  | planned {a b : Request} (start : Nat) (requests : a.Alike b) :
      Alike (.planned start a) (.planned start b)
  | ticking {a b : Context} (calls : a.Alike b) (duration : UInt64) (slots : List Slot)
      (rest : List Tick) : Alike (.ticking a duration slots rest) (.ticking b duration slots rest)
  | releasing {a b : Context} (calls : a.Alike b) (entry : Action) (slot : Slot)
      (rest : List Action) : Alike (.releasing a entry slot rest) (.releasing b entry slot rest)
  | sleeping (wake : Nat) : Alike (.sleeping wake) (.sleeping wake)
  | finished (time : Nat) (answer : Answer) : Alike (.finished time answer) (.finished time answer)

/-! ### Sections of actions -/

section
variable {a b : Context}

theorem World.awaitSample_alike (calls : a.Alike b) (world : World) (move : Move)
    (target : Point) :
    world.awaitSample a.session move target = world.awaitSample b.session move target := by
  unfold World.awaitSample
  rw [calls.interval]

theorem World.moveToSample_alike (calls : a.Alike b) (world : World) (move : Move)
    (target position : Point) :
    world.moveToSample a.session move target position =
      world.moveToSample b.session move target position := by
  unfold World.moveToSample
  rw [world.awaitSample_alike calls]

theorem Action.begin_alike (calls : a.Alike b) (action : Action) (duration : UInt64)
    (world : World) : action.begin a duration world = action.begin b duration world := by
  unfold Action.begin
  cases action.gesture with
  | pointerDown button =>
    dsimp only [beginPointerDown]
    rw [calls.platform]
  | _ => rfl

theorem Wait.resume_alike (calls : a.Alike b) {world : World} (centered : world.host.IsCentered)
    (wait : Wait) : wait.resume a world = wait.resume b world := by
  cases wait with
  -- The choice is read here and nowhere else; the other sections look at the interval.
  | center move ref refusal =>
    dsimp only [resume]
    rw [Host.isCentered_iff.mp centered ref a.mode b.mode]
  | viewport move base refusal =>
    dsimp only [resume, setOut]
    simp only [World.awaitSample_alike calls]
  | sample move target =>
    dsimp only [resume, takeSample]
    rw [World.moveToSample_alike calls, calls.interval]
  | step move target position verdict =>
    dsimp only [resume]
    simp only [World.awaitSample_alike calls]
  | _ => rfl

theorem Slot.step_alike (calls : a.Alike b) {world : World} (centered : world.host.IsCentered)
    (slot : Slot) (duration : UInt64) :
    slot.step a duration world = slot.step b duration world := by
  cases slot with
  | ready action =>
    dsimp only [step]
    rw [action.begin_alike calls]
  | waiting wake wait =>
    dsimp only [step]
    rw [wait.resume_alike calls centered]
  | settled result => rfl

theorem Slot.stepFirst_alike (calls : a.Alike b) {world : World}
    (centered : world.host.IsCentered) (slots : List Slot) (duration : UInt64) :
    Slot.stepFirst slots a duration world = Slot.stepFirst slots b duration world := by
  induction slots with
  | nil => rfl
  | cons slot slots ih =>
    unfold Slot.stepFirst
    rw [slot.step_alike calls centered, ih]

end

/-! ### Sections of activities -/

namespace Activity

section
variable {a b : Context}

theorem ofTicks_alike (calls : a.Alike b) (now : Nat) (ticks : List Tick) :
    (ofTicks a now ticks).Alike (ofTicks b now ticks) := by
  cases ticks with
  | nil => exact .finished ..
  | cons tick rest => exact .ticking calls ..

theorem ofEntries_alike (calls : a.Alike b) (now : Nat) (entries : List Action) :
    (ofEntries a now entries).Alike (ofEntries b now entries) := by
  cases entries with
  | nil => exact .finished ..
  | cons entry rest => exact .releasing calls ..

theorem afterTick_alike (calls : a.Alike b) (slots : List Slot) (rest : List Tick) (now : Nat) :
    (afterTick a slots rest now).Alike (afterTick b slots rest now) := by
  unfold afterTick
  split
  · exact .finished ..
  · exact ofTicks_alike calls ..

end

namespace Alike

variable {x y : Activity}

theorem isReady_eq (h : x.Alike y) (now : Nat) : x.isReady now = y.isReady now := by
  cases h <;> rfl

theorem wake?_eq (h : x.Alike y) : x.wake? = y.wake? := by
  cases h <;> rfl

theorem isFinished_eq (h : x.Alike y) : x.isFinished = y.isFinished := by
  cases h <;> rfl

theorem eq_of_isFinished (h : x.Alike y) (finished : x.isFinished = true) : x = y := by
  cases h with
  | finished => rfl
  | _ => cases finished

end Alike

end Activity

namespace World

variable {a b : Session}

theorem perform_alike (sessions : a.config.Alike b.config) (world : World) (chain : Chain)
    (m n : CenterMode) :
    (world.perform ⟨a, m⟩ chain).1 = (world.perform ⟨b, n⟩ chain).1 ∧
      (world.perform ⟨a, m⟩ chain).2.Alike (world.perform ⟨b, n⟩ chain).2 := by
  have calls : Context.Alike ⟨a, m⟩ ⟨b, n⟩ := sessions
  dsimp only [perform]
  split
  · exact ⟨rfl, .finished ..⟩
  · exact ⟨rfl, Activity.ofTicks_alike calls ..⟩

theorem dispatch_alike (sessions : a.config.Alike b.config) (world : World) (payload : Json)
    (m n : Option CenterMode) :
    (world.start a (.dispatch payload m)).1 = (world.start b (.dispatch payload n)).1 ∧
      (world.start a (.dispatch payload m)).2.Alike (world.start b (.dispatch payload n)).2 := by
  dsimp only [start]
  split
  · exact ⟨rfl, .finished ..⟩
  · exact perform_alike sessions ..

theorem start_alike (sessions : a.config.Alike b.config) (world : World) {r s : Request}
    (requests : r.Alike s) :
    (world.start a r).1 = (world.start b s).1 ∧ (world.start a r).2.Alike (world.start b s).2 := by
  have calls : Context.Alike ⟨a, a.config.centerMode⟩ ⟨b, b.config.centerMode⟩ := sessions
  cases requests with
  | dispatch payload m n => exact dispatch_alike sessions ..
  | perform chain m n => exact perform_alike sessions ..
  | same still =>
    cases r with
    -- A request without a choice of its own makes that of its session.
    | dispatch payload mode => exact dispatch_alike sessions ..
    | perform chain mode => exact perform_alike sessions ..
    | release => exact ⟨rfl, Activity.ofEntries_alike calls ..⟩
    | wait ms => exact ⟨rfl, .sleeping _⟩
    | adjust change => exact absurd rfl (still change)
    | _ => exact ⟨rfl, .finished ..⟩

end World

namespace Activity

variable {x y : Activity} {world : World}

/-- Two activities at the same point leave the same world, and are at the same point again. -/
theorem step_alike {a b : Session} (sessions : a.config.Alike b.config) (h : x.Alike y)
    (centered : world.host.IsCentered) :
    (x.step a world).1 = (y.step b world).1 ∧ (x.step a world).2.Alike (y.step b world).2 := by
  cases h with
  | planned start requests => exact world.start_alike sessions requests
  | ticking calls duration slots rest =>
    dsimp only [step]
    rw [Slot.stepFirst_alike calls centered]
    split
    · exact ⟨rfl, .ticking calls ..⟩
    · exact ⟨rfl, afterTick_alike calls ..⟩
  | releasing calls entry slot rest =>
    dsimp only [step, afterEntry]
    rw [slot.step_alike calls centered]
    split
    · exact ⟨rfl, ofEntries_alike calls ..⟩
    · exact ⟨rfl, .finished ..⟩
    · exact ⟨rfl, .releasing calls ..⟩
  | sleeping wake => exact ⟨rfl, .finished ..⟩
  | finished time answer => exact ⟨rfl, .finished ..⟩

theorem step_isCentered (session : Session) (h : x.Alike y) (ready : x.isReady world.now = true)
    (centered : world.host.IsCentered) : (x.step session world).1.host.IsCentered := by
  cases begun : x.isPlanned with
  | true =>
    -- Only a request that changes the surface could give an element two centres.
    cases h with
    | planned start requests =>
      refine Eq.mpr (congrArg Host.IsCentered (world.host_start session ?_)) centered
      cases requests with
      | same still => exact still
      | _ => exact nofun
    | _ => cases begun
  | false =>
    rcases x.step_cases session ready begun with
      ⟨same, -⟩ | ⟨slot, -, context, duration, -, same, -⟩
    · rwa [same]
    · rw [same]
      exact centered.of_surface (slot.step_surface context duration world)

end Activity

/-! ### Runs -/

/-- Two schedules at the same point: they act on the same world, whose elements have one centre
each, and their activities are at the same points. -/
structure Schedule.Alike (s t : Schedule) : Prop where
  sessions : s.session.config.Alike t.session.config
  world : s.world = t.world
  centered : s.world.host.IsCentered
  activities : List.Forall₂ Activity.Alike s.activities t.activities

namespace Schedule

variable {xs ys : List Activity} {s t : Schedule}

/-- What is the same of two activities at the same point is the same of two lists of them. -/
theorem map_alike {α : Type} {f : Activity → α} (agrees : ∀ {x y}, x.Alike y → f x = f y)
    (alike : List.Forall₂ Activity.Alike xs ys) : xs.map f = ys.map f := by
  rw [← List.forall₂_eq_eq_eq, List.forall₂_map_left_iff, List.forall₂_map_right_iff]
  exact alike.imp fun _ _ => agrees

theorem nextInstant?_alike (alike : List.Forall₂ Activity.Alike xs ys) :
    nextInstant? xs = nextInstant? ys := by
  have wakes := congrArg (fun wakes => (wakes.filterMap id).min?)
    (map_alike Activity.Alike.wake?_eq alike)
  simpa only [nextInstant?, List.filterMap_map, Function.id_comp] using wakes

/-- Nothing of the calls is left once all activities are finished. -/
theorem eq_of_finished_alike (alike : List.Forall₂ Activity.Alike xs ys)
    (finished : ∀ x ∈ xs, x.isFinished = true) : xs = ys := by
  induction alike with
  | nil => rfl
  | cons first rest ih =>
    obtain ⟨own, others⟩ := List.forall_mem_cons.mp finished
    rw [first.eq_of_isFinished own, ih others]

/-- Either nobody has a turn, or the same activity has it in both. -/
theorem stepFirst_alike {a b : Session} (sessions : a.config.Alike b.config) {world : World}
    (centered : world.host.IsCentered) (alike : List.Forall₂ Activity.Alike xs ys) :
    stepFirst a world xs = none ∧ stepFirst b world ys = none ∨
      ∃ after xs' ys', stepFirst a world xs = some (after, xs') ∧
        stepFirst b world ys = some (after, ys') ∧ after.host.IsCentered ∧
        List.Forall₂ Activity.Alike xs' ys' := by
  induction alike with
  | nil => exact Or.inl ⟨rfl, rfl⟩
  | @cons x y xs ys first rest ih =>
    unfold stepFirst
    -- Activities at the same point are due together, so the turn is at the same place in both.
    rw [← first.isReady_eq]
    cases ready : x.isReady world.now with
    | true =>
      obtain ⟨same, next⟩ := Activity.step_alike sessions first centered
      have kept := Activity.step_isCentered a first ready centered
      refine Or.inr ⟨(x.step a world).1, (x.step a world).2 :: xs, (y.step b world).2 :: ys, rfl,
        ?_, kept, .cons next rest⟩
      rw [same]
      rfl
    | false =>
      rcases ih with ⟨left, right⟩ | ⟨after, xs', ys', left, right, kept, alike⟩
      · rw [left, right]
        exact Or.inl ⟨rfl, rfl⟩
      · rw [left, right]
        exact Or.inr ⟨after, x :: xs', y :: ys', rfl, rfl, kept, .cons first alike⟩

namespace Alike

theorem isFinished_eq (h : s.Alike t) : s.isFinished = t.isFinished := by
  have ends := congrArg (fun ends => ends.all id)
    (map_alike Activity.Alike.isFinished_eq h.activities)
  simpa only [isFinished, List.all_map, Function.id_comp] using ends

theorem step (h : s.Alike t) : s.step.Alike t.step := by
  obtain ⟨sessions, world, centered, activities⟩ := h
  unfold Schedule.step
  rw [← world, ← nextInstant?_alike activities]
  rcases stepFirst_alike sessions centered activities with
    ⟨left, right⟩ | ⟨after, xs, ys, left, right, kept, alike⟩
  · rw [left, right]
    dsimp only
    -- Nobody has a turn: time passes up to the next instant, if there is one.
    split
    · exact ⟨sessions, rfl, centered, activities⟩
    · exact ⟨sessions, world, centered, activities⟩
  · rw [left, right]
    exact ⟨sessions, rfl, kept, alike⟩

/-- Runs from the same point end at the same point, after the same number of steps. -/
theorem run (h : s.Alike t) : s.run.Alike t.run := by
  -- The recursion is that of the first run; the second is live exactly as long.
  fun_induction Schedule.run s generalizing t with
  | case1 s ended => rwa [run_of_finished (h.isFinished_eq.symm.trans ended)]
  | case2 s live ih =>
    rw [run_of_live (h.isFinished_eq.symm.trans (Bool.eq_false_of_not_eq_true live))]
    exact ih h.step

end Alike

end Schedule

namespace World

/-- A request leads to the world at the end of its run. -/
theorem ask_world (world : World) (session : Session) (request : Request) :
    (world.ask session request).1 =
      (Schedule.run ⟨session, world, [.planned world.now request]⟩).world := by
  unfold ask Step.perform
  dsimp only [Step.plan]
  split <;> simp_all

/-- Two requests for the same thing lead to the same world and the same answer. -/
theorem ask_alike {a b : Session} (sessions : a.config.Alike b.config) {world : World}
    (centered : world.host.IsCentered) {r s : Request} (requests : r.Alike s) :
    world.ask a r = world.ask b s ∧ (world.ask a r).1.host.IsCentered := by
  have start : (Schedule.mk a world [.planned world.now r]).Alike
      ⟨b, world, [.planned world.now s]⟩ :=
    ⟨sessions, rfl, centered, .cons (.planned _ requests) .nil⟩
  have ends := start.run
  have finished := List.all_eq_true.mp (Schedule.run_finished ⟨a, world, [.planned world.now r]⟩)
  have answers := Schedule.eq_of_finished_alike ends.activities finished
  refine ⟨?_, ?_⟩
  · unfold ask Step.perform
    dsimp only [Step.plan]
    rw [ends.world, answers]
    -- The report of a request is read off the activities, whatever was asked for.
    generalize (Schedule.run ⟨b, world, [.planned world.now s]⟩).activities = activities
    rcases activities with _ | ⟨_ | _ | _ | _ | _, _⟩ <;> rfl
  · rw [ask_world]
    exact ends.centered

end World

/-! ### Replays -/

namespace Replay

theorem isCentered_surface (viewport : Viewport) (elements : List (ElementRef × Point)) :
    (surface viewport elements).IsCentered := by
  refine List.foldlRecOn elements _ (motive := Host.IsCentered) ?_ ?_
  · exact nofun
  · exact fun _ centered element _ => centered.addElement element.1 element.2

section
variable {a b : Session} {world : World}

theorem ask_alike (sessions : a.config.Alike b.config) (centered : world.host.IsCentered)
    {r s : Request} (requests : r.Alike s) :
    ask a world r = ask b world s ∧ (ask a world r).1.host.IsCentered := by
  have left : (ask a world r).1 = (world.ask a r).1 := by
    unfold ask
    split <;> simp_all only
  obtain ⟨same, kept⟩ := world.ask_alike sessions centered requests
  refine ⟨?_, left ▸ kept⟩
  unfold ask
  rw [same]

/-- Payloads are run with the same results, up to the same one if one fails. -/
theorem runPayloads_alike (sessions : a.config.Alike b.config) (m n : CenterMode)
    (payloads : List Json) (centered : world.host.IsCentered) :
    runPayloads a m world payloads = runPayloads b n world payloads ∧
      (runPayloads a m world payloads).1.host.IsCentered := by
  induction payloads generalizing world with
  | nil => exact ⟨rfl, centered⟩
  | cons payload payloads ih =>
    obtain ⟨same, kept⟩ := ask_alike sessions centered (.dispatch payload (some m) (some n))
    unfold runPayloads
    rw [← same]
    split
    next failed => exact ⟨rfl, by simpa only [failed] using kept⟩
    next ran => exact ih (by simpa only [ran] using kept)

end

/-- Replays that differ in the choice of centres come to the same outcome. -/
theorem run_alike {config other : Config} (configs : config.Alike other) (viewport : Viewport)
    (script : Script) (legacy legacy' release : Bool) :
    run ⟨config, viewport, script, legacy, release⟩ =
      run ⟨other, viewport, script, legacy', release⟩ := by
  have sessions : (Session.ofConfig config).config.Alike (Session.ofConfig other).config :=
    configs.normalized
  have centered : (World.initial (surface viewport script.elements)).host.IsCentered :=
    isCentered_surface viewport script.elements
  have released : Request.release.Alike .release := .same nofun
  unfold run
  dsimp only
  obtain ⟨same, kept⟩ := runPayloads_alike sessions
    (mode ⟨config, viewport, script, legacy, release⟩ (.ofConfig config))
    (mode ⟨other, viewport, script, legacy', release⟩ (.ofConfig other)) script.payloads centered
  rw [← same]
  split
  next world ran =>
    have kept : world.host.IsCentered := by simpa only [ran] using kept
    rw [(ask_alike sessions kept released).1]
  · rfl

end Replay

namespace CommandLine

/-- A replay prints the same events and ends with the same result whether or not the centre of whole
elements is asked for, and with either setting for it: for every script, also one that fails or
cannot be read, and under all other settings and parameters. -/
theorem replay_hides_center (files : Files) (file path : String) (viewport : Option Viewport)
    (release legacy other visible : Bool) (settings : Settings) :
    (Command.replay file release legacy viewport).run files path settings =
      (Command.replay file release other viewport).run files path
        { settings with actions := { settings.actions with visibleCenter := visible } } := by
  have configs : settings.actions.Alike { settings.actions with visibleCenter := visible } :=
    ⟨rfl, rfl⟩
  dsimp only [Command.run]
  split
  · rfl
  · exact congrArg Output.ofOutcome (Replay.run_alike configs ..)

end CommandLine

end InputActions
