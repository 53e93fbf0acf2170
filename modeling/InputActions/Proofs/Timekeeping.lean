import InputActions.Proofs.Timetable

/-!
# Ticks keep time

On a surface that answers at once, and with a punctual clock, a chain keeps to its timetable to the
millisecond, whatever else runs with it: every tick begins when the slowest action of the tick
before has ended, and every action ends when its time has passed (`Schedule.ticks_keep_time`). If no
move takes time, all events of a tick are recorded at one instant, which is the sum of the durations
of the ticks before.
-/
namespace InputActions

/-! ### Slots -/

/-- Where an action stands at this time, if its tick began at a given instant. -/
inductive Slot.KeepsTime (session : Session) (start : Nat) (tickDuration : UInt64) (now : Nat)
    (action : Action) : Slot → Prop
  | ready (begins : now = start) : KeepsTime session start tickDuration now action (.ready action)
  | waits {wake wait left} (pauses : ∀ time, action.gesture = .pause time → wait = .pause)
      (timed : wait.Timed session wake left)
      (ends : wake + left * session.spacing = start + action.time session tickDuration)
      (begun : start ≤ now) (ahead : now ≤ wake) :
      KeepsTime session start tickDuration now action (.waiting wake wait)
  | fails {error} : KeepsTime session start tickDuration now action (.settled (.error error))
  | ends (late : start + action.time session tickDuration ≤ now) :
      KeepsTime session start tickDuration now action (.settled (.ok ()))

/-- An action that pauses does nothing else. -/
theorem Passage.pauses {passage : Passage} {action : Action} {time : Option UInt64}
    (begins : passage.slot = .ready action) (gesture : action.gesture = .pause time) {wake : Nat}
    {wait : Wait} (ends : passage.next = .waiting wake wait) : wait = .pause := by
  simp only [next, begins, Slot.step, Action.begin, gesture] at ends
  split at ends <;> cases ends
  rfl

section
variable {session : Session} {start now after left : Nat} {duration : UInt64} {action : Action}
  {slot : Slot}

theorem Slot.Timed.keepsTime
    (h : slot.Timed session (start + action.time session duration) now left)
    (pauses : ∀ wake wait time, slot = .waiting wake wait → action.gesture = .pause time →
      wait = .pause)
    (begun : start ≤ now) : slot.KeepsTime session start duration now action := by
  cases h with
  | waits timed ends ahead =>
    exact .waits (fun time gesture => pauses _ _ time rfl gesture) timed ends begun ahead
  | fails => exact .fails
  | ends onTime => exact .ends onTime.ge

/-- Time may pass until somebody has to go on. -/
theorem Slot.KeepsTime.later (h : slot.KeepsTime session start duration now action)
    (late : now ≤ after) (idle : slot.isReady now = false)
    (ahead : ∀ wake wait, slot = .waiting wake wait → after ≤ wake) :
    slot.KeepsTime session start duration after action := by
  cases h with
  | ready => cases idle
  | waits pauses timed ends begun => exact .waits pauses timed ends (begun.trans late) (ahead _ _ rfl)
  | fails => exact .fails
  | ends before => exact .ends (before.trans late)

end

/-- A section of an action that keeps time comes on time, and the action goes on keeping it. -/
theorem Slot.KeepsTime.step {session : Session} {start : Nat} {action : Action} {passage : Passage}
    (h : passage.slot.KeepsTime session start passage.duration passage.world.now action)
    (ready : passage.slot.isReady passage.world.now = true)
    (serves : passage.context.session = session) (prompt : passage.world.host.IsPrompt) :
    passage.OnTime session ∧
      passage.next.KeepsTime session start passage.duration passage.world.now action ∧
      (passage.next = .settled (.ok ()) →
        passage.world.now = start + action.time session passage.duration) := by
  generalize stands : passage.slot = slot at h ready
  -- An action that ends does so at its time.
  have exactly {left : Nat} (timed : passage.next.Timed session
      (start + action.time session passage.duration) passage.world.now left)
      (ends : passage.next = .settled (.ok ())) :
      passage.world.now = start + action.time session passage.duration := by
    rw [ends] at timed
    cases timed with
    | ends onTime => exact onTime
  cases h with
  | fails => cases ready
  | ends => cases ready
  | ready begins =>
    have onTime : passage.OnTime session := ⟨serves, prompt, by rw [stands]; trivial⟩
    obtain ⟨rest, -, timed⟩ := onTime.timed_begin stands
    rw [begins] at timed exactly ⊢
    refine ⟨onTime, timed.keepsTime (fun wake wait time ends gesture => ?_) le_rfl, exactly timed⟩
    exact Passage.pauses stands gesture ends
  | @waits wake wait left pauses timed ends begun ahead =>
    -- The clock has not passed over the end of the wait, so that is just now.
    have due : wake = passage.world.now := le_antisymm (of_decide_eq_true ready) ahead
    have onTime : passage.OnTime session := ⟨serves, prompt, by rw [stands]; exact due⟩
    have timed : passage.slot.Timed session (start + action.time session passage.duration)
        passage.world.now left := by
      rw [stands]
      exact .waits timed ends ahead
    obtain ⟨rest, -, timed⟩ := onTime.timed_step timed
    refine ⟨onTime, timed.keepsTime (fun wake' wait' time ends' gesture => ?_) begun, exactly timed⟩
    -- A pause has only the one wait, and so it does not wait again.
    have done : passage.next = .settled (.ok ()) := by
      rw [Passage.next, stands, pauses time gesture]
      rfl
    cases done.symm.trans ends'

/-! ### Ticks -/

/-- Whether a section of a trail has settled the action at a spot. -/
def Settles (trail : List Passage) (spot : Spot) (result : Except ActionError Unit) : Prop :=
  ∃ passage ∈ trail, passage.spot = spot ∧ passage.next = .settled result

theorem Settles.mono {trail longer : List Passage} {spot : Spot} {result : Except ActionError Unit}
    (h : Settles trail spot result) (more : trail ⊆ longer) : Settles longer spot result := by
  obtain ⟨passage, listed, settles⟩ := h
  exact ⟨passage, more listed, settles⟩

/-- A section of a tick that began at a given instant, if it comes on time. -/
structure Passage.KeepsTime (session : Session) (start : Nat) (tick : Tick) (passage : Passage) :
    Prop where
  onTime : passage.OnTime session
  duration : passage.duration = tick.duration
  action : ∃ action, tick[passage.spot.place]? = some action ∧
    passage.slot.KeepsTime session start tick.duration passage.world.now action ∧
    (passage.next = .settled (.ok ()) →
      passage.world.now = start + action.time session tick.duration)

namespace Passage.KeepsTime

variable {session : Session} {start : Nat} {tick : Tick} {passage : Passage} {action : Action}
  (h : passage.KeepsTime session start tick)
include h

theorem begins {other : Action} (found : tick[passage.spot.place]? = some action)
    (ready : passage.slot = .ready other) : other = action ∧ passage.world.now = start := by
  obtain ⟨own, listed, keeps, -⟩ := h.action
  cases found.symm.trans listed
  rw [ready] at keeps
  cases keeps with
  | ready begins => exact ⟨rfl, begins⟩

theorem ends (found : tick[passage.spot.place]? = some action)
    (settles : passage.next = .settled (.ok ())) :
    passage.world.now = start + action.time session tick.duration := by
  obtain ⟨own, listed, -, ends⟩ := h.action
  cases found.symm.trans listed
  exact ends settles

/-- What a pause or an action that takes no time tells of, it does when its tick begins. -/
theorem time_of_told (still : ∀ action ∈ tick, action.Still tick.duration) {injection : Injection}
    (told : injection ∈ passage.told) : injection.time = start := by
  rw [passage.time_of_told told]
  obtain ⟨own, listed, keeps, -⟩ := h.action
  have due := h.onTime.due
  generalize stands : passage.slot = slot at keeps due
  cases keeps with
  | fails => exact due.elim
  | ends => exact due.elim
  | ready begins => exact begins
  | @waits wake wait left pauses timed ends begun ahead =>
    by_cases pause : ∃ time, own.gesture = .pause time
    · obtain ⟨time, gesture⟩ := pause
      have silent : passage.told = [] := by
        rw [Passage.told, Passage.after, stands, pauses time gesture]
        exact List.drop_length
      rw [silent] at told
      cases told
    · have none : own.time session tick.duration = 0 :=
        Action.time_of_still (still own (List.mem_of_getElem? listed)) (not_exists.mp pause)
      have late : wake = passage.world.now := due
      omega

end Passage.KeepsTime

/-- Where the actions of a tick stand at this time, if it began at a given instant. What has settled
did so with a section of the trail. -/
structure Tick.KeepsTime (session : Session) (start call behind : Nat) (trail : List Passage)
    (now : Nat) (slots : List Slot) (tick : Tick) : Prop where
  size : slots.length = tick.length
  keeps {place : Nat} {action : Action} {slot : Slot} (listed : tick[place]? = some action)
    (stands : slots[place]? = some slot) : slot.KeepsTime session start tick.duration now action
  traced {place : Nat} {result} (stands : slots[place]? = some (.settled result)) :
    Settles trail ⟨call, behind, place⟩ result
  ends (all : ∀ slot ∈ slots, slot = .settled (.ok ())) : now = start + tick.time session

namespace Tick.KeepsTime

variable {session : Session} {start call behind now : Nat} {trail : List Passage}
  {slots : List Slot} {tick : Tick}

theorem begins (session : Session) (start call behind : Nat) (trail : List Passage) (tick : Tick) :
    tick.KeepsTime session start call behind trail start (tick.map .ready) where
  size := List.length_map _
  keeps listed stands := by
    rw [List.getElem?_map, listed] at stands
    cases stands
    exact .ready rfl
  traced stands := by
    rw [List.getElem?_map] at stands
    obtain ⟨action, -, same⟩ := Option.map_eq_some_iff.mp stands
    cases same
  ends all := by
    -- Only a tick without actions is over at once.
    cases tick with
    | nil => rfl
    | cons action rest => cases all (.ready action) List.mem_cons_self

theorem mono (h : tick.KeepsTime session start call behind trail now slots)
    {longer : List Passage} (more : trail ⊆ longer) :
    tick.KeepsTime session start call behind longer now slots where
  size := h.size
  keeps := h.keeps
  traced stands := (h.traced stands).mono more
  ends := h.ends

/-- Time may pass until somebody has to go on. -/
theorem later (h : tick.KeepsTime session start call behind trail now slots) {after : Nat}
    (late : now ≤ after) (idle : ∀ slot ∈ slots, slot.isReady now = false)
    (unsettled : ∃ slot ∈ slots, slot.isSettled = false)
    (ahead : ∀ (place wake : Nat) (wait : Wait), slots[place]? = some (.waiting wake wait) →
      after ≤ wake) :
    tick.KeepsTime session start call behind trail after slots where
  size := h.size
  keeps {place _ _} listed stands := (h.keeps listed stands).later late
    (idle _ (List.mem_of_getElem? stands)) fun wake wait waits => ahead place wake wait
      (waits ▸ stands)
  traced := h.traced
  ends all := by
    obtain ⟨slot, member, unsettled⟩ := unsettled
    rw [all slot member] at unsettled
    cases unsettled

/-- A section of the tick comes on time, and the tick goes on keeping it. -/
theorem step {context : Context} {world : World} {left right : List Slot} {slot : Slot}
    (h : tick.KeepsTime session start call behind trail world.now (left ++ slot :: right))
    (ready : slot.isReady world.now = true) (serves : context.session = session)
    (prompt : world.host.IsPrompt) :
    let passage : Passage :=
      ⟨⟨call, behind, left.length⟩, context, tick.duration, slot, world⟩
    passage.KeepsTime session start tick ∧
      tick.KeepsTime session start call behind (trail ++ [passage]) world.now
        (left ++ passage.next :: right) := by
  intro passage
  have inside : left.length < tick.length := by
    rw [← h.size]
    simp
  obtain ⟨action, listed⟩ : ∃ action, tick[left.length]? = some action :=
    ⟨_, List.getElem?_eq_getElem inside⟩
  have stood : passage.slot.KeepsTime session start passage.duration passage.world.now action :=
    h.keeps listed Schedule.getElem?_place
  obtain ⟨onTime, keeps, ends⟩ := stood.step ready serves prompt
  have size : (left ++ passage.next :: right).length = tick.length := by simpa using h.size
  -- The action that ran has gone on in time, and the others stand where they did.
  have kept {place : Nat} {other : Action} {now : Slot} (found : tick[place]? = some other)
      (stands : (left ++ passage.next :: right)[place]? = some now) :
      now.KeepsTime session start tick.duration world.now other := by
    by_cases here : left.length = place
    · subst here
      rw [Schedule.getElem?_place] at stands
      cases stands
      cases listed.symm.trans found
      exact keeps
    · rw [Schedule.getElem?_replaced here slot] at stands
      exact h.keeps found stands
  refine ⟨⟨onTime, rfl, action, listed, stood, ends⟩, size, kept, ?_, fun all => ?_⟩
  · intro place result stands
    by_cases here : left.length = place
    · subst here
      rw [Schedule.getElem?_place] at stands
      exact ⟨passage, by simp, rfl, Option.some.inj stands⟩
    · rw [Schedule.getElem?_replaced here slot] at stands
      exact (h.traced stands).mono (List.subset_append_left _ _)
  · -- The action that has just settled is one of the slowest, for the others have settled before.
    have last : world.now = start + action.time session tick.duration := ends (all _ (by simp))
    have most : action.time session tick.duration ≤ tick.time session :=
      Action.time_le (List.mem_of_getElem? listed)
    have least : tick.time session ≤ world.now - start := by
      refine Tick.time_le fun other member => ?_
      obtain ⟨place, found⟩ := List.getElem?_of_mem member
      have short := (List.getElem?_eq_some_iff.mp found).1
      rw [← size] at short
      have stands := List.getElem?_eq_getElem short
      have keeps := kept found stands
      rw [all _ (List.getElem_mem short)] at keeps
      cases keeps with
      | ends late => omega
    have begun : start ≤ world.now := last ▸ Nat.le_add_right _ _
    omega

end Tick.KeepsTime

/-- The first section of an action says which one it is, and the last one when it has ended. -/
theorem Action.Course.keepsTime {session : Session} {start : Nat} {tick : Tick}
    {own action : Action} {context : Context} {duration : UInt64} {past : List Passage}
    {slot : Slot} (h : own.Course context duration past slot)
    (keeps : ∀ passage ∈ past, passage.KeepsTime session start tick ∧
      tick[passage.spot.place]? = some action) :
    (∀ first ∈ past.head?, first.slot = .ready action ∧ first.world.now = start) ∧
      ∀ last ∈ past, last.next = .settled (.ok ()) →
        last.world.now = start + action.time session tick.duration ∧
          Passage.waits past = action.waits session tick.duration := by
  obtain ⟨-, ready, -⟩ := h.linked
  cases past with
  | nil => exact ⟨fun _ none => absurd none (Option.not_mem_none _), List.forall_mem_nil _⟩
  | cons head rest =>
    have ready : head.slot = .ready own := ready
    obtain ⟨inTime, found⟩ := keeps head List.mem_cons_self
    obtain ⟨rfl, onTime⟩ := inTime.begins found ready
    refine ⟨?_, fun last member ends => ?_⟩
    · rintro _ same
      cases same
      exact ⟨ready, onTime⟩
    · obtain ⟨inTime', found'⟩ := keeps last member
      refine ⟨inTime'.ends found' ends, ?_⟩
      rw [← inTime.duration, h.duration_eq head List.mem_cons_self]
      exact h.waits_eq (fun part listed => (keeps part listed).1.onTime) member ends

/-! ### Chains -/

theorem Chain.time_concat (session : Session) (past : Chain) (tick : Tick) :
    Chain.time session (past ++ [tick]) = Chain.time session past + tick.time session := by
  simp [time]

/-- A section of a chain that began at a given instant, if it comes on time. -/
def Passage.InTime (session : Session) (began : Nat) (ticks : Chain) (passage : Passage) : Prop :=
  ∃ past tick rest, ticks = past ++ tick :: rest ∧ passage.spot.behind = rest.length ∧
    passage.KeepsTime session (began + Chain.time session past) tick

theorem Passage.InTime.keepsTime {session : Session} {began k : Nat} {ticks : Chain} {tick : Tick}
    {passage : Passage} (h : passage.InTime session began ticks) (listed : ticks[k]? = some tick)
    (behind : passage.spot.behind = ticks.length - 1 - k) :
    passage.KeepsTime session (began + Chain.time session (ticks.take k)) tick := by
  obtain ⟨past, own, rest, rfl, here, keeps⟩ := h
  have inside := (List.getElem?_eq_some_iff.mp listed).1
  have place : k = past.length := by
    rw [List.length_append, List.length_cons] at inside behind
    omega
  subst place
  rw [Schedule.getElem?_place] at listed
  cases listed
  rwa [List.take_left]

/-- Whether all actions of the first ticks of a chain have succeeded. -/
def Chain.Passes (call : Nat) (trail : List Passage) (ticks past : Chain) : Prop :=
  ∀ k tick, past[k]? = some tick → ∀ place < tick.length,
    Settles trail ⟨call, ticks.length - 1 - k, place⟩ (.ok ())

theorem Chain.Passes.mono {call : Nat} {trail longer : List Passage} {ticks past : Chain}
    (h : ticks.Passes call trail past) (more : trail ⊆ longer) :
    ticks.Passes call longer past := fun k tick listed place inside =>
  (h k tick listed place inside).mono more

/-- One more tick has succeeded. -/
theorem Chain.Passes.concat {call : Nat} {trail : List Passage} {ticks past rest : Chain}
    {tick : Tick} (h : ticks.Passes call trail past) (split : ticks = past ++ tick :: rest)
    (settled : ∀ place < tick.length, Settles trail ⟨call, rest.length, place⟩ (.ok ())) :
    ticks.Passes call trail (past ++ [tick]) := by
  intro k other listed place inside
  rcases Nat.lt_or_ge k past.length with before | last
  · rw [List.getElem?_append_left before] at listed
    exact h k other listed place inside
  · rw [List.getElem?_append_right last, List.getElem?_singleton] at listed
    split at listed
    · cases listed
      have behind : ticks.length - 1 - k = rest.length := by
        rw [split, List.length_append, List.length_cons]
        omega
      rw [behind]
      exact settled place inside
    · cases listed

/-- Where a call stands at this time, if the chain that it runs began at a given instant. -/
inductive Activity.KeepsTime (session : Session) (began : Nat) (ticks : Chain) (call : Nat)
    (trail : List Passage) (now : Nat) : Activity → Prop
  | ticking {context : Context} {past : Chain} {tick : Tick} {rest : List Tick}
      {slots : List Slot} (split : ticks = past ++ tick :: rest)
      (serves : context.session = session) (passed : ticks.Passes call trail past)
      (keeps : tick.KeepsTime session (began + Chain.time session past) call rest.length trail
        now slots) :
      KeepsTime session began ticks call trail now (.ticking context tick.duration slots rest)
  | ended (passed : ticks.Passes call trail ticks) :
      KeepsTime session began ticks call trail now
        (.finished (began + ticks.time session) (.result (.ok ())))
  | failed {time error} {passage : Passage} (listed : passage ∈ trail)
      (here : passage.spot.call = call) (fails : passage.next = .settled (.error error)) :
      KeepsTime session began ticks call trail now (.finished time (.result (.error error)))

namespace Activity.KeepsTime

variable {session : Session} {began call now : Nat} {ticks : Chain} {trail : List Passage}

/-- The next tick begins when the time of all ticks before has passed. -/
theorem ofTicks {context : Context} {past rest : Chain} (split : ticks = past ++ rest)
    (serves : context.session = session) (passed : ticks.Passes call trail past)
    (onTime : now = began + Chain.time session past) :
    (Activity.ofTicks context now rest).KeepsTime session began ticks call trail now := by
  subst onTime
  cases rest with
  | nil =>
    rw [List.append_nil] at split
    subst split
    exact .ended passed
  | cons tick rest => exact .ticking split serves passed (.begins ..)

theorem mono {activity : Activity}
    (h : activity.KeepsTime session began ticks call trail now) {longer : List Passage}
    (more : trail ⊆ longer) : activity.KeepsTime session began ticks call longer now := by
  cases h with
  | ticking split serves passed keeps =>
    exact .ticking split serves (passed.mono more) (keeps.mono more)
  | ended passed => exact .ended (passed.mono more)
  | failed listed here fails => exact .failed (more listed) here fails

/-- Time may pass until somebody has to go on. -/
theorem later {activity : Activity}
    (h : activity.KeepsTime session began ticks call trail now) {after : Nat}
    (late : now ≤ after) (idle : activity.isReady now = false)
    (ahead : ∀ spot wake wait, spot.call = call → activity.Stands spot (.waiting wake wait) →
      after ≤ wake) :
    activity.KeepsTime session began ticks call trail after := by
  cases h with
  | ended passed => exact .ended passed
  | failed listed here fails => exact .failed listed here fails
  | @ticking context past tick rest slots split serves passed keeps =>
    obtain ⟨none, some⟩ := Bool.or_eq_false_iff.mp idle
    refine .ticking split serves passed (keeps.later late ?_ ?_ fun place wake wait stands => ?_)
    · exact fun slot member => Bool.eq_false_iff.mpr (List.any_eq_false.mp none slot member)
    · obtain ⟨slot, member, unsettled⟩ := List.all_eq_false.mp some
      exact ⟨slot, member, Bool.eq_false_iff.mpr unsettled⟩
    · exact ahead ⟨call, rest.length, place⟩ wake wait rfl ⟨rfl, stands⟩

/-- A tick that is over has taken its time; if all of its actions have succeeded, the next one
begins. -/
theorem afterTick {context : Context} {past rest : Chain} {tick : Tick} {slots : List Slot}
    (split : ticks = past ++ tick :: rest) (serves : context.session = session)
    (passed : ticks.Passes call trail past)
    (keeps : tick.KeepsTime session (began + Chain.time session past) call rest.length trail now
      slots)
    (settled : ∀ slot ∈ slots, slot.isSettled = true) :
    (Activity.afterTick context slots rest now).KeepsTime session began ticks call trail now := by
  unfold Activity.afterTick
  split
  next error failed =>
    -- The error is that of an action, and some section has settled it so.
    obtain ⟨slot, member, fails⟩ := List.exists_of_findSome?_eq_some failed
    obtain ⟨place, stands⟩ := List.getElem?_of_mem member
    rw [Slot.eq_settled_of_error? fails] at stands
    obtain ⟨passage, listed, spot, settles⟩ := keeps.traced stands
    exact .failed listed (by rw [spot]) settles
  next none =>
    -- All actions have succeeded, the last of them just now.
    have fine : ∀ slot ∈ slots, slot = .settled (.ok ()) := fun slot member =>
      Slot.eq_done (settled slot member)
        (Option.isNone_iff_eq_none.mpr (List.findSome?_eq_none_iff.mp none slot member))
    have onward : ticks = (past ++ [tick]) ++ rest := by simpa using split
    refine ofTicks onward serves (passed.concat split fun place inside => ?_) ?_
    · rw [← keeps.size] at inside
      refine keeps.traced ?_
      rw [List.getElem?_eq_getElem inside]
      exact congrArg some (fine _ (List.getElem_mem inside))
    · rw [Chain.time_concat, keeps.ends fine, Nat.add_assoc]

/-- A section of the chain comes on time, and the chain goes on keeping it. -/
theorem step {activity : Activity} {world : World}
    (h : activity.KeepsTime session began ticks call trail world.now)
    (ready : activity.isReady world.now = true)
    (prompt : ∀ passage ∈ activity.passage? call world, passage.world.host.IsPrompt) :
    (activity.step session world).2.KeepsTime session began ticks call
        (trail ++ (activity.passage? call world).toList) world.now ∧
      ∀ passage ∈ activity.passage? call world, passage.InTime session began ticks := by
  cases h with
  | ended | failed => cases ready
  | @ticking context past tick rest slots split serves passed keeps =>
    rcases passage?_ticking context tick.duration slots rest call world with
      ⟨left, slot, right, rfl, ran, found⟩ | ⟨idle, none⟩
    · obtain ⟨inTime, keeps⟩ := keeps.step (ready_of_ticking found) serves (prompt _ found)
      simp only [Activity.step, ran, found, Option.toList_some]
      refine ⟨.ticking split serves (passed.mono (List.subset_append_left _ _)) keeps, ?_⟩
      rintro passage same
      cases same
      exact ⟨past, tick, rest, split, rfl, inTime⟩
    · simp only [isReady, Slot.stepFirst_eq_none idle, Bool.false_or, List.all_eq_true] at ready
      simp only [Activity.step, idle, none, Option.toList_none, List.append_nil]
      exact ⟨afterTick split serves passed keeps ready, fun _ passes =>
        absurd passes (Option.not_mem_none _)⟩

end Activity.KeepsTime

/-- When a call has succeeded, if it has. -/
def Activity.success? : Activity → Option Nat
  | .finished time (.result (.ok ())) => some time
  | _ => none

theorem Activity.eq_finished {activity : Activity} {time : Nat}
    (h : activity.success? = some time) : activity = .finished time (.result (.ok ())) := by
  unfold success? at h
  split at h
  · cases h
    rfl
  · cases h

/-! ### Histories -/

namespace Schedule

variable {joins : Schedule → Request → Prop} {start s : Schedule} {log : List Advance}

/-- A chain keeps time from the moment on at which it begins. -/
theorem Chronicle.keepsTime (h : Chronicle joins Punctual start s log) {call : Nat}
    {context : Context} {ticks : Chain}
    (begun : start.activities[call]? = some (.ofTicks context start.world.now ticks))
    (serves : context.session = start.session)
    (prompt : ∀ passage ∈ trail log, passage.world.host.IsPrompt) :
    (∃ activity, s.activities[call]? = some activity ∧
        activity.KeepsTime start.session start.world.now ticks call (trail log) s.world.now) ∧
      ∀ passage ∈ trail log, passage.spot.call = call →
        passage.InTime start.session start.world.now ticks := by
  induction h with
  | begins =>
    refine ⟨⟨_, begun, ?_⟩, List.forall_mem_nil _⟩
    exact .ofTicks (List.nil_append ticks).symm serves (fun _ _ listed => nomatch listed) rfl
  | join _ instant request _ ih =>
    obtain ⟨⟨activity, found, keeps⟩, inTime⟩ := ih prompt
    have inside := (List.getElem?_eq_some_iff.mp found).1
    exact ⟨⟨activity, (List.getElem?_append_left inside).trans found, keeps⟩, inTime⟩
  | @elapse session world activities now log before late allowed ih =>
    obtain ⟨⟨activity, found, keeps⟩, inTime⟩ := ih prompt
    refine ⟨⟨activity, found, ?_⟩, inTime⟩
    -- The clock moves only when the chain has nothing to do, and no further than its next wait.
    rcases allowed with still | ⟨idle, instant, next, early⟩
    · have same : now = world.now := still
      rwa [same]
    · have idle := List.any_eq_false.mp idle activity (List.mem_of_getElem? found)
      refine keeps.later late (Bool.eq_false_iff.mpr idle) fun spot wake wait here stands => ?_
      have stands : Schedule.Stands ⟨session, world, activities⟩ spot (.waiting wake wait) :=
        ⟨activity, here ▸ found, stands⟩
      obtain ⟨first, next', least⟩ := stands.nextInstant?_le
      cases next.symm.trans next'
      exact early.trans least
  | @advance session world left activity right log before ready _ ih =>
    have same : session = start.session := before.session_eq
    subst same
    have now := activity.step_now start.session world
    dsimp only at ih ⊢
    rw [now]
    rw [trail_concat] at prompt ⊢
    obtain ⟨prompt, answers⟩ := List.forall_mem_append.mp prompt
    obtain ⟨⟨own, found, keeps⟩, inTime⟩ := ih prompt
    have mine : ∀ passage ∈ activity.passage? left.length world,
        passage.spot.call = left.length := fun passage passes =>
      (Activity.step_of_passage passes start.session).2.2.2
    -- The section is one of the chain, or it leaves the chain where it is.
    by_cases here : left.length = call
    · subst here
      rw [getElem?_place] at found
      cases found
      obtain ⟨keeps, sections⟩ := keeps.step ready fun passage passes =>
        answers passage (Option.mem_toList.mpr passes)
      refine ⟨⟨_, getElem?_place, keeps⟩, List.forall_mem_append.mpr ⟨inTime, ?_⟩⟩
      exact fun passage passes _ => sections passage (Option.mem_toList.mp passes)
    · refine ⟨⟨own, ?_, keeps.mono (List.subset_append_left _ _)⟩,
        List.forall_mem_append.mpr ⟨inTime, ?_⟩⟩
      · rw [getElem?_replaced here activity]
        exact found
      · exact fun passage passes other =>
          absurd ((mine passage (Option.mem_toList.mp passes)).symm.trans other) here

/-- In a session whose surface answers at once, a chain keeps time from the section on that begins
it. -/
theorem Chronicle.keepsTime_since {session : Session} {host : Host} (prompt : host.IsPrompt)
    {early late : List Advance} {begins : Advance}
    (h : Chronicle (fun _ request => request.delays = false) Punctual
      ⟨session, .initial host, []⟩ s (early ++ begins :: late))
    {instant : Nat} {request : Request} {mode : CenterMode} {ticks : Chain}
    (asked : begins.activity = .planned instant request)
    (runs : begins.next session = .ofTicks ⟨session, mode⟩ begins.world.now ticks) :
    (∃ activity, s.activities[begins.call]? = some activity ∧
        activity.KeepsTime session begins.world.now ticks begins.call
          (trail (early ++ begins :: late)) s.world.now) ∧
      ∀ passage ∈ trail (early ++ begins :: late), passage.spot.call = begins.call →
        passage.InTime session begins.world.now ticks := by
  obtain ⟨left, right, before, place, -, rest⟩ := h.split
  have now : (begins.after session).now = begins.world.now := begins.activity.step_now _ _
  obtain ⟨-, -, answers⟩ := h.isPrompt rfl (fun _ _ kept => kept) prompt
  -- The call has no sections before, and none while it begins.
  have unseen : ∀ passage ∈ trail early, passage.spot.call ≠ begins.call := by
    have follows := (before.follows rfl).1 begins.call begins.activity (place ▸ getElem?_place)
    rwa [asked] at follows
  have none : begins.passage? = none := by rw [Advance.passage?, asked]; rfl
  have whole : trail (early ++ begins :: late) = trail early ++ trail late := by
    rw [trail, List.filterMap_append, List.filterMap_cons_none none]
    rfl
  rw [whole] at answers ⊢
  have begun : (left ++ begins.next session :: right)[begins.call]? =
      some (.ofTicks ⟨session, mode⟩ (begins.after session).now ticks) := by
    rw [now, ← runs, ← place, getElem?_place]
  obtain ⟨⟨activity, found, keeps⟩, inTime⟩ := rest.keepsTime begun rfl
    (List.forall_mem_append.mp answers).2
  simp only [now] at keeps inTime
  refine ⟨⟨activity, found, keeps.mono (List.subset_append_right _ _)⟩, ?_⟩
  exact List.forall_mem_append.mpr ⟨fun passage listed here =>
    absurd here (unseen passage listed), inTime⟩

/-- An action of a tick that keeps time begins with the tick, and ends when its time has passed. -/
theorem Chronicle.action_keepsTime {moves : Schedule → Schedule → Prop} {session : Session}
    {began : Nat} (h : Chronicle joins moves start s log) (idle : start.activities = [])
    {spot : Spot} {tick : Tick} {action : Action} (found : tick[spot.place]? = some action)
    (keeps : ∀ passage ∈ trail log, passage.spot = spot → passage.KeepsTime session began tick) :
    let sections := (trail log).filter (·.spot = spot)
    (∀ first ∈ sections.head?, first.slot = .ready action ∧ first.world.now = began) ∧
      ∀ last ∈ sections, last.next = .settled (.ok ()) →
        last.world.now = began + action.time session tick.duration ∧
          Passage.waits sections = action.waits session tick.duration := by
  intro sections
  have spots : ∀ passage ∈ sections, passage ∈ trail log ∧ passage.spot = spot := by
    intro passage member
    obtain ⟨listed, here⟩ := List.mem_filter.mp member
    exact ⟨listed, of_decide_eq_true here⟩
  have keeps : ∀ passage ∈ sections, passage.KeepsTime session began tick ∧
      tick[passage.spot.place]? = some action := fun passage member =>
    have ⟨listed, here⟩ := spots passage member
    ⟨keeps passage listed here, here ▸ found⟩
  have course : ∀ passage ∈ sections, ∃ (own : Action) (context : Context) (duration : UInt64)
      (slot : Slot), own.Course context duration sections slot := by
    intro passage member
    obtain ⟨listed, here⟩ := spots passage member
    obtain ⟨own, context, duration, slot, course, -⟩ := h.whole idle listed
    rw [here] at course
    exact ⟨own, context, duration, slot, course⟩
  refine ⟨fun first begins => ?_, fun last member ends => ?_⟩
  · obtain ⟨own, context, duration, slot, course⟩ := course first (List.mem_of_head? begins)
    exact (course.keepsTime keeps).1 first begins
  · obtain ⟨own, context, duration, slot, course⟩ := course last member
    exact (course.keepsTime keeps).2 last member ends

/-- Ticks keep time. On a surface that answers at once and with a punctual clock, whatever else runs
with a chain, each of its ticks begins when the slowest action of the tick before has ended: every
action begins with its tick, and when it succeeds it has taken `Action.time`, a move with as many
waits for samples as its loop has. A chain that has succeeded has run all of its actions, and it ends
when its last tick does. If no move takes time, every event of a tick is recorded when the tick
begins, and that is when the longest pauses of the ticks before are over. Every run brings the chain
to its end, with success unless one of its actions fails. -/
theorem ticks_keep_time {session : Session} {host : Host} (prompt : host.IsPrompt)
    {early late : List Advance} {begins : Advance}
    (h : Chronicle (fun _ request => request.delays = false) Punctual
      ⟨session, .initial host, []⟩ s (early ++ begins :: late))
    {instant : Nat} {request : Request} {mode : CenterMode} {ticks : Chain}
    (asked : begins.activity = .planned instant request)
    (runs : begins.next session = .ofTicks ⟨session, mode⟩ begins.world.now ticks) :
    let start (k : Nat) := begins.world.now + Chain.time session (ticks.take k)
    let sections (k place : Nat) := (trail (early ++ begins :: late)).filter
      (·.spot = ⟨begins.call, ticks.length - 1 - k, place⟩)
    (∀ k tick, ticks[k]? = some tick → start (k + 1) = start k + tick.time session ∧
        ∀ place action, tick[place]? = some action →
          (∀ first ∈ (sections k place).head?,
            first.slot = .ready action ∧ first.world.now = start k) ∧
          ∀ last ∈ sections k place, last.next = .settled (.ok ()) →
            last.world.now = start k + action.time session tick.duration ∧
              Passage.waits (sections k place) = action.waits session tick.duration) ∧
      (∀ time, s.activities[begins.call]? = some (.finished time (.result (.ok ()))) →
        time = start ticks.length ∧ ∀ k tick, ticks[k]? = some tick → ∀ place < tick.length,
          ∃ last ∈ sections k place, last.next = .settled (.ok ())) ∧
      ((∀ tick ∈ ticks, ∀ action ∈ tick, action.Still tick.duration) →
        (∀ k, start k = begins.world.now +
          ((ticks.take k).map fun tick => min tick.duration.toNat longestWait).sum) ∧
        ∀ k < ticks.length, ∀ place, ∀ part ∈ sections k place, ∀ injection ∈ part.told,
          injection.time = start k) ∧
      ∃ more, Chronicle (fun _ request => request.delays = false) Punctual
          ⟨session, .initial host, []⟩ s.run (early ++ begins :: (late ++ more)) ∧
        ((∃ time, s.run.activities[begins.call]? = some (.finished time (.result (.ok ())))) ∨
          ∃ part ∈ trail (early ++ begins :: (late ++ more)), part.spot.call = begins.call ∧
            ∃ error, part.next = .settled (.error error)) := by
  intro start sections
  obtain ⟨⟨activity, found, keeps⟩, inTime⟩ := h.keepsTime_since prompt asked runs
  have spots {k place : Nat} {tick : Tick} (listed : ticks[k]? = some tick) :
      ∀ part ∈ trail (early ++ begins :: late),
        part.spot = ⟨begins.call, ticks.length - 1 - k, place⟩ →
          part.KeepsTime session (start k) tick := fun part member here =>
    (inTime part member (by rw [here])).keepsTime listed (by rw [here])
  refine ⟨fun k tick listed => ⟨?_, fun place action found => ?_⟩, fun time ended => ?_,
    fun still => ⟨fun k => ?_, fun k inside place part member injection told => ?_⟩, ?_⟩
  · simp only [start]
    rw [Nat.add_assoc, ← Chain.time_concat, List.take_add_one, listed, Option.toList_some]
  · exact h.action_keepsTime rfl found (spots listed)
  · cases found.symm.trans ended
    cases keeps with
    | ended passed =>
      refine ⟨by simp only [start, List.take_length], fun k tick listed place inside => ?_⟩
      obtain ⟨last, member, here, ends⟩ := passed k tick listed place inside
      exact ⟨last, List.mem_filter.mpr ⟨member, decide_eq_true here⟩, ends⟩
  · refine congrArg (begins.world.now + ·) (Chain.time_of_still fun tick member => ?_)
    exact still tick (List.mem_of_mem_take member)
  · have listed := List.getElem?_eq_getElem inside
    obtain ⟨member, here⟩ := List.mem_filter.mp member
    exact (spots listed part member (of_decide_eq_true here)).time_of_told
      (still _ (List.getElem_mem inside)) told
  -- The run is punctual, and what has been shown of a history holds of the one it leaves.
  · obtain ⟨n, ran⟩ := exists_run_eq s
    have whole := h.run step_punctual n
    rw [← ran, List.append_assoc, List.cons_append] at whole
    refine ⟨s.annals n, whole, ?_⟩
    obtain ⟨⟨last, found, keeps⟩, -⟩ := whole.keepsTime_since prompt asked runs
    have finished := List.all_eq_true.mp (run_finished s) last (List.mem_of_getElem? found)
    cases keeps with
    | ticking => cases finished
    | ended => exact Or.inl ⟨_, found⟩
    | failed listed here fails => exact Or.inr ⟨_, listed, here, _, fails⟩

/-- A chain that a fresh session is asked for, on a surface that answers at once. -/
def played (ticks : Chain) : Schedule :=
  join ⟨.ofConfig ⟨1, true, .other⟩, .initial (.prompt .standard), []⟩ 0 (.perform ticks none)

theorem played_chronicle (ticks : Chain) (n : Nat) :
    Chronicle (fun _ request => request.delays = false) Punctual
      ⟨.ofConfig ⟨1, true, .other⟩, .initial (.prompt .standard), []⟩
      ((played ticks).steps n) ((played ticks).annals n) :=
  Chronicle.of_join rfl step_punctual n

/-- A key is held during a pause and while the mouse goes somewhere. -/
def dragged : Chain :=
  [[⟨⟨"k"⟩, .key, none, .keyDown "a"⟩, ⟨⟨"n"⟩, .none, none, .pause (some 5)⟩],
    [⟨⟨"m"⟩, .pointer, none, .pointerMove (some 3) .viewport 9 4⟩],
    [⟨⟨"k"⟩, .key, none, .keyUp "a"⟩]]

/-- The mouse sets out when the pause is over, and the chain ends when it has arrived. -/
theorem dragged_keeps_time :
    let session : Session := .ofConfig ⟨1, true, .other⟩
    let log := (played dragged).annals 23
    (∃ first ∈ ((trail log).filter (·.spot = ⟨0, 1, 0⟩)).head?, first.world.now = 5 ∧
        Chain.time session (dragged.take 1) = 5) ∧
      ((played dragged).steps 23).activities[0]? = some (.finished 8 (.result (.ok ()))) ∧
      Chain.time session dragged = 8 := by
  intro session log
  have ended : ((played dragged).steps 23).activities[0]?.bind (·.success?) = some 8 := by
    decide +kernel
  obtain ⟨activity, found, success⟩ := Option.bind_eq_some_iff.mp ended
  rw [Activity.eq_finished success] at found
  have first : (((trail log).filter (·.spot = ⟨0, 1, 0⟩)).head?.map (·.world.now)) = some 5 := by
    decide +kernel
  obtain ⟨first, begins, now⟩ := Option.map_eq_some_iff.mp first
  let asked : Advance := ⟨0, .planned 0 (.perform dragged none), (played dragged).world⟩
  have runs : asked.next session = .ofTicks ⟨session, .inView⟩ asked.world.now dragged := rfl
  have split : (played dragged).annals 23 = [] ++ asked :: annals 22 (played dragged).step := rfl
  have chronicle := played_chronicle dragged 23
  rw [split] at chronicle
  obtain ⟨times, ends, -⟩ := ticks_keep_time (Host.isPrompt_prompt _) chronicle rfl runs
  obtain ⟨-, actions⟩ := times 1 _ rfl
  have start : first.world.now = 0 + Chain.time session (dragged.take 1) :=
    ((actions 0 _ rfl).1 first begins).2
  have finish : 8 = 0 + Chain.time session dragged := (ends 8 found).1
  rw [Nat.zero_add] at start finish
  exact ⟨⟨first, begins, now, start.symm.trans now⟩, found, finish.symm⟩

/-- A pause that is longer than thirty years. -/
def hibernated : Chain := [[⟨⟨"n"⟩, .none, none, .pause (some 1000000000000)⟩]]

/-- No wait is longer than thirty years, so the chain ends before its pause has taken its own
duration. -/
theorem long_pauses_cut :
    let schedule := played hibernated
    Chronicle (fun _ request => request.delays = false) Punctual
        ⟨.ofConfig ⟨1, true, .other⟩, .initial (.prompt .standard), []⟩
        (schedule.steps 5) (schedule.annals 5) ∧
      (∀ tick ∈ hibernated, ∀ action ∈ tick, action.Still tick.duration) ∧
      (trail (schedule.annals 5)).map (fun part => (part.spot, part.world.now)) =
        [(⟨0, 0, 0⟩, 0), (⟨0, 0, 0⟩, 946080000000)] ∧
      (schedule.steps 5).activities[0]? = some (.finished 946080000000 (.result (.ok ()))) ∧
      946080000000 ≠ schedule.world.now + (hibernated.map (·.duration.toNat)).sum := by
  intro schedule
  have ended : (schedule.steps 5).activities[0]?.bind (·.success?) = some 946080000000 := by
    decide +kernel
  obtain ⟨activity, found, success⟩ := Option.bind_eq_some_iff.mp ended
  rw [Activity.eq_finished success] at found
  refine ⟨played_chronicle _ 5, ?_, by decide +kernel, found, by decide +kernel⟩
  simp [hibernated, Action.Still]

end Schedule

end InputActions
