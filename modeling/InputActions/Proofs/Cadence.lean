import InputActions.Proofs.Punctuality
import InputActions.Proofs.Tolerance
import Mathlib.Algebra.Order.Floor.Div

/-!
# The cadence of a move

A move that takes time waits for one interval before each of its samples, and for a last one before
it steps to the target. However long the answers take it waits no more often than intervals fit
into its time; and if nobody keeps it waiting, its samples lie on a grid, of which it leaves out at
most the last: `Schedule.samples_keep_cadence`. No wait is longer than `longestWait`, so a longer
interval counts as that.
-/
namespace InputActions

/-! ### The grid -/

/-- What the waits of a move are counted against. -/
structure Cadence where
  session : Session
  started : Nat
  duration : UInt64
  /-- What makes sure that nobody is kept waiting. -/
  prompt : Prop

namespace Cadence

variable (c : Cadence)

def interval : Nat := c.session.config.sampleInterval.toNat

theorem interval_pos : 0 < c.interval :=
  Nat.pos_of_ne_zero fun zero => c.session.interval_ne_zero (UInt64.toNat_inj.mp zero)

/-- From one sample to the next. -/
def spacing : Nat := min c.interval longestWait

theorem spacing_pos : 0 < c.spacing := lt_min c.interval_pos (by decide)

def Fits (move : Move) : Prop := move.started = c.started ∧ move.duration = c.duration

/-- An instant at which so many waits are over. If nobody is kept waiting, no other time has
passed. -/
structure Due (count instant : Nat) : Prop where
  late : c.started + count * c.spacing ≤ instant
  onTime : c.prompt → instant = c.started + count * c.spacing

/-- So many waits begin before the time is up. -/
def Inside (count : Nat) : Prop := ∀ earlier < count, earlier * c.spacing < c.duration.toNat

/-- After so many waits a move may step to its target: they have begun in time, and if nobody was
kept waiting, no whole interval is left. -/
structure Ends (count : Nat) : Prop where
  inside : c.Inside count
  close : c.prompt → 0 < c.duration.toNat → c.duration.toNat ≤ 2 ^ 52 →
    0 < count ∧ c.duration.toNat < count * c.spacing + c.interval

variable {c} {count : Nat}

theorem inside_zero : c.Inside 0 := fun _ less => absurd less (Nat.not_lt_zero _)

theorem Inside.before (h : c.Inside (count + 1)) : c.Inside count :=
  fun earlier less => h earlier (Nat.lt_succ_of_lt less)

theorem Inside.next (h : c.Inside count) (left : count * c.spacing < c.duration.toNat) :
    c.Inside (count + 1) := fun earlier less => by
  rcases Nat.lt_succ_iff_lt_or_eq.mp less with before | rfl
  · exact h earlier before
  · exact left

theorem Due.answered {world : World} {ms : Nat} (h : c.Due count world.now)
    (atOnce : c.prompt → ms = 0) : c.Due count (world.wake ms) where
  late := h.late.trans (Nat.le_add_right _ _)
  onTime prompt := by simp [World.wake, atOnce prompt, h.onTime prompt]

theorem Due.next {world : World} (h : c.Due count world.now) :
    c.Due (count + 1) (world.wake c.interval) := by
  have same : c.started + (count + 1) * c.spacing = c.started + count * c.spacing + c.spacing := by
    ring
  refine ⟨?_, fun prompt => ?_⟩
  · rw [same]
    exact Nat.add_le_add_right h.late _
  · rw [same, ← h.onTime prompt]
    rfl

end Cadence

/-! ### Sections -/

/-- A wait for the next sample of a move, or for its last step. -/
def Slot.awaitsSample : Slot → Bool
  | .waiting _ (.sample ..) => true
  | _ => false

/-- What a move waits for when it has begun so many waits for samples. -/
inductive Wait.Paces (c : Cadence) (count : Nat) : Wait → Prop
  | center {move ref refusal} (fits : c.Fits move) (none : count = 0) :
      Paces c count (.center move ref refusal)
  | viewport {move base refusal} (fits : c.Fits move) (none : count = 0) :
      Paces c count (.viewport move base refusal)
  | sample {move target} (fits : c.Fits move) (some : 0 < count) (inside : c.Inside count) :
      Paces c count (.sample move target)
  | step {move target position verdict} (fits : c.Fits move) (some : 0 < count)
      (inside : c.Inside (count + 1)) : Paces c count (.step move target position verdict)
  | arrival {id target verdict} (ends : c.Ends count) : Paces c count (.arrival id target verdict)

/-- Where a move stands that has begun so many waits for samples. -/
inductive Slot.Paces (c : Cadence) (count now : Nat) : Slot → Prop
  | waits {wake wait} (paces : wait.Paces c count) (due : c.Due count wake)
      (ahead : c.prompt → now ≤ wake) : Paces c count now (.waiting wake wait)
  | fails {error} (inside : c.Inside count) : Paces c count now (.settled (.error error))
  | arrives (ends : c.Ends count) : Paces c count now (.settled (.ok ()))

/-- What a section leads to that is had when so many waits are over. -/
def Cadence.Leads (c : Cadence) (count : Nat) (result : World × Outcome) : Prop :=
  let next := Slot.ofOutcome result.1 result.2
  next.Paces c (count + next.awaitsSample.toNat) result.1.now

namespace Cadence

variable {c : Cadence} {count : Nat} {world : World}

theorem leads_request (due : c.Due count world.now) (prompt : c.prompt → world.host.IsPrompt)
    {wait : Verdict → Wait} (paces : ∀ verdict, (wait verdict).Paces c count)
    (other : ∀ wake verdict, (Slot.waiting wake (wait verdict)).awaitsSample = false)
    (id : SourceId) (event : Event) : c.Leads count (world.request id event wait) := by
  have atOnce (promised : c.prompt) : world.host.injectionDelay world.host.tally world.now = 0 :=
    (prompt promised _ _).1
  simp only [Leads, World.request, World.inject, Slot.ofOutcome, other]
  exact .waits (paces _) (due.answered atOnce) fun _ => Nat.le_add_right _ _

theorem leads_requestViewport {move : Move} (due : c.Due 0 world.now)
    (prompt : c.prompt → world.host.IsPrompt) (fits : c.Fits move) (base : Point) :
    c.Leads 0 (world.requestViewport move base) := by
  have atOnce (promised : c.prompt) : world.host.geometryDelay world.host.tally world.now = 0 :=
    (prompt promised _ _).2
  exact .waits (.viewport fits rfl) (due.answered atOnce) fun _ => Nat.le_add_right _ _

theorem leads_requestCenter {move : Move} (due : c.Due 0 world.now)
    (prompt : c.prompt → world.host.IsPrompt) (fits : c.Fits move) (ref : ElementRef) :
    c.Leads 0 (world.requestCenter move ref) := by
  have atOnce (promised : c.prompt) : world.host.geometryDelay world.host.tally world.now = 0 :=
    (prompt promised _ _).2
  exact .waits (.center fits rfl) (due.answered atOnce) fun _ => Nat.le_add_right _ _

theorem leads_awaitSample {move : Move} (due : c.Due count world.now) (fits : c.Fits move)
    (inside : c.Inside (count + 1)) (target : Point) :
    c.Leads count (world.awaitSample c.session move target) :=
  .waits (.sample fits (Nat.succ_pos count) inside) due.next fun _ => Nat.le_add_right _ _

theorem leads_moveToTarget (due : c.Due count world.now) (prompt : c.prompt → world.host.IsPrompt)
    (ends : c.Ends count) (id : SourceId) (target : Point) :
    c.Leads count (world.moveToTarget id target) := by
  unfold World.moveToTarget
  split
  · exact .fails ends.inside
  · exact .arrives ends
  · exact leads_request due prompt (fun _ => .arrival ends) (fun _ _ => rfl) _ _

theorem leads_moveToSample {move : Move} (due : c.Due count world.now)
    (prompt : c.prompt → world.host.IsPrompt) (fits : c.Fits move) (some : 0 < count)
    (inside : c.Inside (count + 1)) (target position : Point) :
    c.Leads count (world.moveToSample c.session move target position) := by
  unfold World.moveToSample
  split
  · exact .fails inside.before
  · exact leads_awaitSample due fits inside target
  · exact leads_request due prompt (fun _ => .step fits some inside) (fun _ _ => rfl) _ _

/-- A move takes a sample or steps to its target, as the time that has passed demands. -/
theorem leads_takeSample {context : Context} {move : Move} (serves : context.session = c.session)
    (due : c.Due count world.now) (prompt : c.prompt → world.host.IsPrompt) (fits : c.Fits move)
    (some : 0 < count) (inside : c.Inside count) (target : Point) :
    c.Leads count (Wait.takeSample context move target world) := by
  obtain ⟨started, duration⟩ := fits
  have late := due.late
  unfold Wait.takeSample
  rw [serves, started, duration]
  dsimp only
  split
  next continues =>
    have left := Motion.elapsed_lt_of_continues continues
    exact leads_moveToSample due prompt ⟨started, duration⟩ some (inside.next (by omega)) _ _
  next stops =>
    refine leads_moveToTarget due prompt ⟨inside, fun promised long bits => ⟨some, ?_⟩⟩ _ _
    have exactly := due.onTime promised
    by_contra room
    refine stops (Motion.continues_of_room ?_ c.interval_pos bits)
    unfold interval at room
    omega

/-- A move whose target can be reached sets out for it. -/
theorem leads_setOut {context : Context} {move : Move} (serves : context.session = c.session)
    (due : c.Due 0 world.now) (prompt : c.prompt → world.host.IsPrompt) (fits : c.Fits move)
    (base : Point) : c.Leads 0 (Wait.setOut context move base world) := by
  unfold Wait.setOut
  rw [serves]
  split
  · exact .fails inside_zero
  · split
    next instant =>
      have zero : c.duration.toNat = 0 := by rw [← fits.2, instant]; rfl
      exact leads_moveToTarget due prompt ⟨inside_zero, fun _ long _ => absurd zero long.ne'⟩ _ _
    next long =>
      have positive : 0 < c.duration.toNat := Nat.pos_of_ne_zero fun zero =>
        long (fits.2.trans (UInt64.toNat_inj.mp zero))
      exact leads_awaitSample due fits (inside_zero.next (by rwa [Nat.zero_mul])) _

end Cadence

/-- A move goes on when its wait is over. -/
theorem Slot.Paces.due {c : Cadence} {count now : Nat} {slot : Slot} (h : slot.Paces c count now)
    (ready : slot.isReady now = true) : c.Due count now := by
  cases h with
  | waits paces due ahead =>
    have past := of_decide_eq_true ready
    exact ⟨due.late.trans past, fun prompt =>
      (le_antisymm (ahead prompt) past).trans (due.onTime prompt)⟩
  | fails => cases ready
  | arrives => cases ready

/-- Every section of a move keeps to the cadence. -/
theorem Slot.Paces.step {c : Cadence} {count : Nat} {passage : Passage}
    (h : passage.slot.Paces c count passage.world.now)
    (ready : passage.slot.isReady passage.world.now = true)
    (serves : passage.context.session = c.session)
    (prompt : c.prompt → passage.world.host.IsPrompt) :
    passage.next.Paces c (count + passage.next.awaitsSample.toNat) passage.after.now := by
  have due := h.due ready
  obtain ⟨spot, context, duration, slot, world⟩ := passage
  dsimp only at h due serves prompt
  cases h with
  | fails => cases ready
  | arrives => cases ready
  | @waits wake wait paces =>
    suffices leads : c.Leads count (wait.resume context world) from leads
    cases paces with
    | @center move ref refusal fits none =>
      subst none
      simp only [Wait.resume]
      split
      · exact .fails Cadence.inside_zero
      · split
        · exact .fails Cadence.inside_zero
        · exact Cadence.leads_requestViewport due prompt fits _
    | @viewport move base refusal fits none =>
      subst none
      simp only [Wait.resume]
      split
      · exact .fails Cadence.inside_zero
      · exact Cadence.leads_setOut serves due prompt fits base
    | @sample move target fits some inside =>
      exact Cadence.leads_takeSample serves due prompt fits some inside target
    | @step move target position verdict fits some inside =>
      simp only [Wait.resume]
      split
      · exact .fails inside.before
      · split
        · exact .fails inside.before
        · rw [serves]
          exact Cadence.leads_awaitSample due fits inside target
    | @arrival id target verdict ends =>
      simp only [Wait.resume]
      split
      · exact .fails ends.inside
      · split
        · exact .fails ends.inside
        · exact .arrives ends

/-- A move begins without a wait for a sample. -/
theorem Action.paces_begin {action : Action} {passage : Passage} {gesture : Option UInt64}
    {origin : Origin} {dx dy : Int64} (ready : passage.slot = .ready action)
    (moves : action.gesture = .pointerMove gesture origin dx dy) (session : Session)
    {prompt : Prop} (promised : prompt → passage.world.host.IsPrompt) :
    passage.next.Paces
        ⟨session, passage.world.now, effective gesture passage.duration, prompt⟩ 0
        passage.after.now ∧
      passage.next.awaitsSample = false := by
  obtain ⟨spot, context, duration, slot, world⟩ := passage
  dsimp only at ready promised
  subst ready
  let c : Cadence := ⟨session, world.now, effective gesture duration, prompt⟩
  have due : c.Due 0 world.now := by
    constructor <;> simp [c]
  suffices leads : c.Leads 0 (action.begin context duration world) ∧
      (Slot.ofOutcome (action.begin context duration world).1
        (action.begin context duration world).2).awaitsSample = false by
    obtain ⟨leads, other⟩ := leads
    refine ⟨?_, other⟩
    unfold Cadence.Leads at leads
    dsimp only at leads
    rwa [other] at leads
  unfold begin
  rw [moves]
  simp only [beginPointerMove]
  split
  · exact ⟨.fails Cadence.inside_zero, rfl⟩
  · cases origin with
    | viewport | pointer => exact ⟨Cadence.leads_requestViewport due promised ⟨rfl, rfl⟩ _, rfl⟩
    | element ref => exact ⟨Cadence.leads_requestCenter due promised ⟨rfl, rfl⟩ ref, rfl⟩

/-! ### Counting -/

namespace Cadence

variable {c : Cadence} {count : Nat}

/-- No more waits begin in time than intervals fit into it. -/
theorem Inside.le_ceilDiv (h : c.Inside count) : count ≤ c.duration.toNat ⌈/⌉ c.spacing := by
  by_contra more
  have less := h (c.duration.toNat ⌈/⌉ c.spacing) (Nat.lt_of_not_le more)
  have enough : c.duration.toNat ≤ c.spacing * (c.duration.toNat ⌈/⌉ c.spacing) :=
    le_smul_ceilDiv c.spacing_pos
  rw [Nat.mul_comm] at less
  exact absurd enough (Nat.not_le_of_lt less)

/-- That intervals are cut off does not matter, unless the time is longer than any wait as well. -/
theorem spacing_cases (short : min c.interval c.duration.toNat ≤ longestWait) :
    c.spacing = c.interval ∨ c.spacing < c.interval ∧ c.duration.toNat ≤ c.spacing := by
  unfold spacing
  omega

theorem Inside.le_ceilDiv_interval (h : c.Inside count)
    (short : min c.interval c.duration.toNat ≤ longestWait) :
    count ≤ c.duration.toNat ⌈/⌉ c.interval := by
  have bound := h.le_ceilDiv
  rcases spacing_cases short with same | ⟨cut, time⟩
  · rwa [same] at bound
  · have single : c.duration.toNat ⌈/⌉ c.spacing ≤ 1 :=
      (ceilDiv_le_iff_le_smul c.spacing_pos).mpr (by simpa using time)
    by_contra more
    have none : c.duration.toNat ⌈/⌉ c.interval ≤ 0 := by omega
    have instant := (ceilDiv_le_iff_le_smul (c.spacing_pos.trans cut)).mp none
    have begun := h 0 (by omega)
    rw [smul_zero] at instant
    omega

/-- A move that nobody keeps waiting leaves out at most the last sample, and comes to its target
within one interval. -/
theorem Ends.close_to (h : c.Ends count) (prompt : c.prompt) (long : 0 < c.duration.toNat)
    (bits : c.duration.toNat ≤ 2 ^ 52) (short : min c.interval c.duration.toNat ≤ longestWait) :
    0 < count ∧
      (count - 1 = c.duration.toNat / c.interval ∨ count - 1 = c.duration.toNat / c.interval - 1) ∧
      count * c.spacing < c.duration.toNat + c.interval ∧
      c.duration.toNat < count * c.spacing + c.interval := by
  obtain ⟨some, enough⟩ := h.close prompt long bits
  obtain ⟨last, rfl⟩ := Nat.exists_eq_succ_of_ne_zero some.ne'
  have inside := h.inside last (Nat.lt_succ_self last)
  rw [Nat.succ_eq_add_one, Nat.add_sub_cancel]
  rw [Nat.succ_mul] at enough
  rw [Nat.add_one_mul]
  rcases spacing_cases short with same | ⟨cut, time⟩
  · have positive : 0 < c.interval := same ▸ c.spacing_pos
    rw [same] at inside enough ⊢
    have low : last ≤ c.duration.toNat / c.interval :=
      (Nat.le_div_iff_mul_le positive).mpr inside.le
    have high : c.duration.toNat / c.interval < last + 2 := by
      rw [Nat.div_lt_iff_lt_mul positive, Nat.add_mul]
      omega
    omega
  -- An interval that is cut off is longer than the whole time, for which one wait is enough.
  · have only : last = 0 := by
      by_contra more
      have whole := Nat.le_mul_of_pos_left c.spacing (Nat.pos_of_ne_zero more)
      omega
    subst only
    refine ⟨Nat.one_pos, Or.inl (Nat.div_eq_of_lt (by omega)).symm, ?_, ?_⟩ <;> omega

end Cadence

theorem Slot.Paces.inside {c : Cadence} {count now : Nat} {slot : Slot}
    (h : slot.Paces c count now) : c.Inside count := by
  cases h with
  | waits paces =>
    cases paces with
    | center fits none => exact none ▸ Cadence.inside_zero
    | viewport fits none => exact none ▸ Cadence.inside_zero
    | sample fits some inside => exact inside
    | step fits some inside => exact inside.before
    | arrival ends => exact ends.inside
  | fails inside => exact inside
  | arrives ends => exact ends.inside

theorem Session.interval_ofConfig (config : Config) :
    (Session.ofConfig config).config.sampleInterval.toNat = max 1 config.sampleInterval.toNat := by
  unfold Session.ofConfig Config.normalized
  dsimp only
  split
  next zero => simp [zero]
  next positive =>
    have least : config.sampleInterval.toNat ≠ 0 := fun zero =>
      positive (UInt64.toNat_inj.mp zero)
    omega

/-- The waits for samples among some sections. -/
def Passage.waits (sections : List Passage) : Nat := sections.countP (·.next.awaitsSample)

theorem Passage.waits_concat (sections : List Passage) (last : Passage) :
    waits (sections ++ [last]) = waits sections + last.next.awaitsSample.toNat := by
  unfold waits
  rw [List.countP_append, List.countP_singleton]
  cases last.next.awaitsSample <;> rfl

/-! ### Histories -/

namespace Schedule

variable {joins : Schedule → Request → Prop} {moves : Schedule → Schedule → Prop} {s : Schedule}
  {log : List Advance} {host : Host} {config : Config}

/-- The sections of an action from one to another are in the trail. -/
theorem mem_trail_of_mem_sections {early between late : List Advance} {begins advance : Advance}
    {first part : Passage} (began : begins.passage? = some first)
    (member : part ∈ first :: (trail (between ++ [advance])).filter (·.spot = first.spot)) :
    part ∈ trail (early ++ begins :: (between ++ advance :: late)) := by
  rcases List.mem_cons.mp member with rfl | later
  · exact List.mem_filterMap.mpr ⟨begins, by simp, began⟩
  · obtain ⟨other, listed, passes⟩ := List.mem_filterMap.mp (List.mem_filter.mp later).1
    refine List.mem_filterMap.mpr ⟨other, ?_, passes⟩
    rcases List.mem_append.mp listed with old | last
    · simp [old]
    · simp [List.mem_singleton.mp last]

/-- A move keeps to its cadence through all that happens, and if it relies on nobody being kept
waiting, the clock has to be punctual. -/
theorem carries_paces {c : Cadence} {spot : Spot} {between : List Advance}
    (punctual : c.prompt → ∀ s next, moves s next → s.Punctual next)
    (own : ∀ part ∈ trail between, part.spot = spot →
      part.context.session = c.session ∧ (c.prompt → part.world.host.IsPrompt)) :
    Carries moves c.session spot between fun past slot world =>
      slot.Paces c (Passage.waits past) world.now where
  elapse later allowed stands holds := by
    cases holds with
    | waits paces due ahead =>
      refine .waits paces due fun prompt => ?_
      obtain ⟨instant, next, early⟩ := stands.nextInstant?_le
      rcases punctual prompt _ _ allowed with still | ⟨-, instant', next', before⟩
      · exact still.trans_le (ahead prompt)
      · cases next.symm.trans next'
        exact before.trans early
    | fails inside => exact .fails inside
    | arrives ends => exact .arrives ends
  others := fun {past slot other} _ _ _ holds => by
    have still : (other.after c.session).now = other.world.now := other.activity.step_now _ _
    rwa [still]
  own := fun {past other part} member passes here ready _ holds => by
    obtain ⟨serves, prompt⟩ := own part (List.mem_filterMap.mpr ⟨other, member, passes⟩) here
    rw [Passage.waits_concat]
    exact holds.step ready serves prompt

/-- A move keeps its cadence, however its session is configured and whatever else runs. Whether it
takes another sample depends on the comparison of two rounded numbers alone. However long the
answers take, it waits no more often than intervals fit into its time, where no interval is longer
than the longest wait. If the clock is punctual and the surface answers at once, and the time has no
more than 52 bits, a move that succeeds has left out at most the last of the samples that fit into
its time, and its end is less than an interval away from the end of its time. -/
theorem samples_keep_cadence
    (h : Chronicle joins moves ⟨.ofConfig config, .initial host, []⟩ s log) :
    ∀ early begins between advance late first passage action gesture origin dx dy,
      log = early ++ begins :: (between ++ advance :: late) →
      begins.passage? = some first → first.slot = .ready action →
      action.gesture = .pointerMove gesture origin dx dy →
      advance.passage? = some passage → passage.spot = first.spot →
      passage.slot.isSettled = false →
      let sections := first :: (trail (between ++ [advance])).filter (·.spot = first.spot)
      let waits := Passage.waits sections
      let interval := max 1 config.sampleInterval.toNat
      let duration := Action.effective gesture first.duration
      let short := min interval duration.toNat ≤ longestWait
      (duration ≠ 0 → ∀ elapsed,
          Motion.continues config.normalized.sampleInterval duration elapsed =
            (Motion.tolerance config.normalized.sampleInterval duration).lt
              (.one - Motion.share elapsed duration)) ∧
        waits ≤ duration.toNat ⌈/⌉ min interval longestWait ∧
        (short → waits ≤ duration.toNat ⌈/⌉ interval) ∧
        ((∀ s next, moves s next → s.Punctual next) →
          (∀ part ∈ sections, part.world.host.IsPrompt) → passage.next = .settled (.ok ()) →
          1 ≤ duration.toNat → duration.toNat ≤ 2 ^ 52 → short →
          1 ≤ waits ∧
            (waits - 1 = duration.toNat / interval ∨
              waits - 1 = duration.toNat / interval - 1) ∧
            passage.world.now = first.world.now + waits * min interval longestWait ∧
            passage.world.now < first.world.now + duration.toNat + interval ∧
            first.world.now + duration.toNat < passage.world.now + interval) := by
  rintro early begins between advance late first passage action gesture origin dx dy rfl began
    ready moved passes here live sections waits interval duration short
  have sections_eq : sections =
      (first :: (trail between).filter (·.spot = first.spot)) ++ [passage] := by
    simp [sections, trail_concat, passes, here]
  let c : Cadence := ⟨.ofConfig config, first.world.now, duration,
    (∀ s next, moves s next → s.Punctual next) ∧ ∀ part ∈ sections, part.world.host.IsPrompt⟩
  have sessions {part : Passage} (member : part ∈ sections) : part.context.session = c.session :=
    h.context_session rfl (mem_trail_of_mem_sections began member)
  obtain ⟨paces, none⟩ := Action.paces_begin ready moved (.ofConfig config)
    (fun prompt : c.prompt => prompt.2 first List.mem_cons_self)
  have begun : Passage.waits [first] = 0 := by simp [Passage.waits, none]
  obtain ⟨goesOn, unsettled⟩ := h.unsettled rfl began passes here live
  have own : ∀ part ∈ trail between, part.spot = first.spot →
      part.context.session = c.session ∧ (c.prompt → part.world.host.IsPrompt) := by
    intro part listed here
    have mine : part ∈ sections := by
      rw [sections_eq]
      exact List.mem_append_left _ (List.mem_cons_of_mem _
        (List.mem_filter.mpr ⟨listed, decide_eq_true here⟩))
    exact ⟨sessions mine, fun prompt => prompt.2 part mine⟩
  obtain ⟨paces, -, ready⟩ := h.carried began passes here goesOn unsettled
    (carries_paces (fun prompt : c.prompt => prompt.1) own) (begun.symm ▸ paces)
  have due := paces.due ready
  have mine : passage ∈ sections := by rw [sections_eq]; simp
  have paces := paces.step ready (sessions mine) fun prompt => prompt.2 passage mine
  rw [← Passage.waits_concat, ← sections_eq] at paces
  have spacing : c.spacing = min interval longestWait :=
    congrArg (min · longestWait) (Session.interval_ofConfig config)
  have same : c.interval = interval := Session.interval_ofConfig config
  have inside := paces.inside
  refine ⟨fun long elapsed => ?_, ?_, fun short => ?_, ?_⟩
  · exact Motion.continues_eq (Nat.pos_of_ne_zero fun zero => long (UInt64.toNat_inj.mp zero)) _ _
  · rw [← spacing]
    exact inside.le_ceilDiv
  · rw [← same]
    exact inside.le_ceilDiv_interval (same.symm ▸ short)
  · intro punctual prompt arrives long bits short
    have last : waits = Passage.waits (first :: (trail between).filter (·.spot = first.spot)) := by
      simp only [waits]
      rw [sections_eq, Passage.waits_concat, arrives]
      rfl
    have exactly := due.onTime ⟨punctual, prompt⟩
    rw [arrives] at paces
    cases paces with
    | arrives ends =>
      have close := ends.close_to ⟨punctual, prompt⟩ long bits (same.symm ▸ short)
      rw [← last, spacing] at exactly
      rw [same, spacing] at close
      obtain ⟨some, count, before, after⟩ := close
      change passage.world.now = first.world.now + waits * min interval longestWait at exactly
      change waits * min interval longestWait < duration.toNat + interval at before
      change duration.toNat < waits * min interval longestWait + interval at after
      exact ⟨some, count, exactly, by omega, by omega⟩

/-- A mouse gets somewhere in so many milliseconds, with samples at such intervals. -/
def paced (interval duration : UInt64) : Schedule :=
  join ⟨.ofConfig ⟨interval, true, .other⟩, .initial (.prompt .standard), []⟩ 0
    (.perform [[⟨⟨"m"⟩, .pointer, none, .pointerMove (some duration) .viewport 9 4⟩]] none)

theorem paced_chronicle (interval duration : UInt64) (n : Nat) :
    Chronicle (fun _ request => request.delays = false) Punctual
      ⟨.ofConfig ⟨interval, true, .other⟩, .initial (.prompt .standard), []⟩
      ((paced interval duration).steps n) ((paced interval duration).annals n) :=
  Chronicle.of_join rfl step_punctual n

/-- An interval of no time becomes one of a millisecond, and a move of three milliseconds takes two
samples. -/
theorem paced_keeps_cadence :
    let log := (paced 0 3).annals 13
    let between := (log.drop 2).take 6
    ∃ begins first advance passage, log[1]? = some begins ∧ begins.passage? = some first ∧
      log[8]? = some advance ∧ advance.passage? = some passage ∧
      passage.next = .settled (.ok ()) ∧
      let sections := first :: (trail (between ++ [advance])).filter (·.spot = first.spot)
      Passage.waits sections = 3 ∧ Passage.waits sections ≤ 3 ⌈/⌉ (1 : Nat) ∧
        passage.world.now = first.world.now + 3 := by
  intro log between
  have chronicle := paced_chronicle 0 3 13
  have starts : (log[1]?.bind fun begins => begins.passage?.map fun first =>
      (first.spot, first.slot.action?)) =
      some (⟨0, 0, 0⟩, some ⟨⟨"m"⟩, .pointer, none, .pointerMove (some 3) .viewport 9 4⟩) := by
    decide +kernel
  have ends : (log[8]?.bind fun advance => advance.passage?.map fun passage =>
      (passage.spot, passage.slot.isSettled, passage.next.isSettled,
        passage.next.error?.isNone)) = some (⟨0, 0, 0⟩, false, true, true) := by
    decide +kernel
  have counts : (log[1]?.bind fun begins => begins.passage?.bind fun first =>
      log[8]?.map fun advance => Passage.waits
        (first :: (trail (between ++ [advance])).filter (·.spot = first.spot))) = some 3 := by
    decide +kernel
  obtain ⟨begins, foundStart, starts⟩ := Option.bind_eq_some_iff.mp starts
  obtain ⟨first, began, starts⟩ := Option.map_eq_some_iff.mp starts
  obtain ⟨advance, foundEnd, ends⟩ := Option.bind_eq_some_iff.mp ends
  obtain ⟨passage, passes, ends⟩ := Option.map_eq_some_iff.mp ends
  simp only [Prod.mk.injEq] at starts ends
  obtain ⟨spot, ready⟩ := starts
  obtain ⟨spot', live, settled, fine⟩ := ends
  simp only [foundStart, began, foundEnd, Option.bind_some, Option.map_some,
    Option.some.injEq] at counts
  have arrives : passage.next = .settled (.ok ()) := Slot.eq_done settled fine
  have split : log = log.take 1 ++ begins :: (between ++ advance :: log.drop 9) :=
    eq_take_append foundStart foundEnd
  obtain ⟨-, -, answers⟩ := chronicle.isPrompt rfl (fun _ _ kept => kept)
    (Host.isPrompt_prompt _)
  obtain ⟨-, bound, -, close⟩ := samples_keep_cadence chronicle _ begins between advance _ first
    passage _ (some 3) .viewport 9 4 split began (Slot.eq_ready ready) rfl passes
    (spot'.trans spot.symm) live
  have answered : ∀ part ∈ first :: (trail (between ++ [advance])).filter (·.spot = first.spot),
      part.world.host.IsPrompt := by
    intro part member
    refine answers part ?_
    rw [show (paced 0 3).annals 13 = _ from split]
    exact mem_trail_of_mem_sections began member
  have three : (Action.effective (some 3) first.duration).toNat = 3 := rfl
  rw [three] at bound close
  obtain ⟨-, -, exactly, -⟩ := close (fun _ _ punctual => punctual) answered arrives (by decide)
    (by decide) (by decide)
  rw [counts] at exactly
  exact ⟨begins, first, advance, passage, foundStart, began, foundEnd, passes, arrives, counts,
    bound, exactly⟩

/-- No wait is longer than thirty years. So with an interval of more than three hundred years, a
move of the same time waits ten times before its last step, although its time has only one
interval. -/
theorem long_waits_cut :
    let schedule := paced 10000000000000 10000000000000
    let sections := trail (schedule.annals 34)
    Chronicle (fun _ request => request.delays = false) Punctual
        ⟨.ofConfig ⟨10000000000000, true, .other⟩, .initial (.prompt .standard), []⟩
        (schedule.steps 34) (schedule.annals 34) ∧
      (sections.head?.bind (·.slot.action?)).map (·.gesture) =
        some (.pointerMove (some 10000000000000) .viewport 9 4) ∧
      (∀ part ∈ sections, part.spot = ⟨0, 0, 0⟩ ∧
        ∀ injection ∈ part.told, injection.refusal = none) ∧
      (sections.getLast?.map fun last => (last.next.isSettled, last.next.error?)) =
        some (true, none) ∧
      Passage.waits sections = 10 ∧
      ¬Passage.waits sections ≤ 10000000000000 ⌈/⌉ (10000000000000 : Nat) ∧
      Passage.waits sections - 1 ≠ 10000000000000 / 10000000000000 ∧
      Passage.waits sections - 1 ≠ 10000000000000 / 10000000000000 - 1 := by
  intro schedule sections
  have waits : Passage.waits sections = 10 := by decide +kernel
  refine ⟨paced_chronicle _ _ 34, by decide +kernel, by decide +kernel, by decide +kernel, waits,
    ?_⟩
  rw [waits, Nat.ceilDiv_eq_add_pred_div]
  decide

end Schedule

end InputActions
