import InputActions.Proofs.Telling

/-!
# Chronicles

A chronicle is the history of a session from a given moment on, with every section of every call:
`Schedule.Chronicle`. The sections of an action are its passages. They all take place at one spot,
which no other action ever uses, and each carries on where the one before it left off
(`Chronicle.course`). So what an action knows at a late section can be traced to what the earlier
ones found, whatever else ran between them.
-/
namespace InputActions

/-! ### Sections of calls -/

/-- A section of a call: the activity that has it, and the world that it finds. -/
structure Advance where
  call : Nat
  activity : Activity
  world : World

namespace Advance

variable (advance : Advance) (session : Session)

def after : World := (advance.activity.step session advance.world).1

def next : Activity := (advance.activity.step session advance.world).2

/-- What the section asks the surface to inject. -/
def told : List Injection :=
  (advance.after session).host.journal.drop advance.world.host.journal.length

end Advance

/-- Where an action runs: in which call, with how many ticks or entries of the call behind it, and
at which place of the tick. -/
structure Spot where
  call : Nat
  behind : Nat
  place : Nat
  deriving DecidableEq

/-- A section of an action. -/
structure Passage where
  spot : Spot
  context : Context
  duration : UInt64
  slot : Slot
  world : World

namespace Passage

variable (passage : Passage)

def after : World := (passage.slot.step passage.context passage.duration passage.world).1

def next : Slot := (passage.slot.step passage.context passage.duration passage.world).2

/-- What the section asks the surface to inject. -/
def told : List Injection :=
  passage.after.host.journal.drop passage.world.host.journal.length

end Passage

/-- The section of an action that an activity has next, if it has one. -/
def Activity.passage? (activity : Activity) (call : Nat) (world : World) : Option Passage :=
  match activity with
  | .ticking context duration slots rest =>
    let place := slots.findIdx (·.isReady world.now)
    slots[place]?.map fun slot => ⟨⟨call, rest.length, place⟩, context, duration, slot, world⟩
  | .releasing context _ slot rest => some ⟨⟨call, rest.length, 0⟩, context, 0, slot, world⟩
  | _ => none

def Advance.passage? (advance : Advance) : Option Passage :=
  advance.activity.passage? advance.call advance.world

namespace Activity

/-- A tick runs its first slot that is ready, or none. -/
theorem passage?_ticking (context : Context) (duration : UInt64) (slots : List Slot)
    (rest : List Tick) (call : Nat) (world : World) :
    (∃ left slot right, slots = left ++ slot :: right ∧
      Slot.stepFirst slots context duration world = some ((slot.step context duration world).1,
        left ++ (slot.step context duration world).2 :: right) ∧
      (ticking context duration slots rest).passage? call world =
        some ⟨⟨call, rest.length, left.length⟩, context, duration, slot, world⟩) ∨
    Slot.stepFirst slots context duration world = none ∧
      (ticking context duration slots rest).passage? call world = none := by
  cases ran : Slot.stepFirst slots context duration world with
  | some result =>
    obtain ⟨left, slot, right, rfl, idle, ready, after, next⟩ := Slot.stepFirst_eq_some ran
    refine Or.inl ⟨left, slot, right, rfl, by rw [← after, ← next], ?_⟩
    -- None of the slots before it is ready, so the search ends at this one.
    have first : (left ++ slot :: right).findIdx (·.isReady world.now) = left.length := by
      rw [List.findIdx_append, List.findIdx_eq_length_of_false idle, if_neg (Nat.lt_irrefl _),
        List.findIdx_cons, ready]
      exact Nat.zero_add _
    simp [passage?, first]
  | none =>
    have idle := List.any_eq_false.mp (Slot.stepFirst_eq_none ran)
    have last : slots.findIdx (·.isReady world.now) = slots.length :=
      List.findIdx_eq_length_of_false fun slot member => by simpa using idle slot member
    exact Or.inr ⟨rfl, by simp [passage?, last]⟩

/-- What a section of an activity does to sources and to the surface is what that of its action
does. -/
theorem step_of_passage {activity : Activity} {call : Nat} {world : World} {passage : Passage}
    (h : activity.passage? call world = some passage) (session : Session) :
    (activity.step session world).1.inputs.store = passage.after.inputs.store ∧
      (activity.step session world).1.host = passage.after.host ∧
      passage.world = world ∧ passage.spot.call = call := by
  cases activity with
  | ticking context duration slots rest =>
    rcases passage?_ticking context duration slots rest call world with
      ⟨left, slot, right, rfl, ran, found⟩ | ⟨-, none⟩
    · cases found.symm.trans h
      simp [step, ran, Passage.after]
    · cases none.symm.trans h
  | releasing context entry slot rest =>
    cases h
    unfold step Passage.after
    dsimp only
    generalize (slot.step context 0 world).2 = next
    unfold afterEntry
    split <;> exact ⟨rfl, rfl, rfl, rfl⟩
  | _ => cases h

/-- An activity in which no action has a section tells the surface nothing. -/
theorem silent_of_passage? {activity : Activity} {call : Nat} {world : World}
    (none : activity.passage? call world = none) (session : Session) :
    (activity.step session world).1.host.journal = world.host.journal := by
  cases activity with
  | planned start request =>
    cases request with
    | adjust change => cases change <;> rfl
    | _ => exact congrArg Host.journal (world.host_start session nofun)
  | ticking context duration slots rest =>
    rcases passage?_ticking context duration slots rest call world with
      ⟨_, _, _, rfl, -, found⟩ | ⟨idle, -⟩
    · cases none.symm.trans found
    · simp only [step, idle]
  | releasing => cases none
  | _ => rfl

end Activity

namespace Advance

variable {advance : Advance} {passage : Passage}

theorem told_of_passage (h : advance.passage? = some passage) (session : Session) :
    advance.told session = passage.told := by
  obtain ⟨-, host, world, -⟩ := Activity.step_of_passage h session
  rw [told, after, host, Passage.told, world]

theorem told_of_none (none : advance.passage? = none) (session : Session) :
    advance.told session = [] := by
  rw [told, after, Activity.silent_of_passage? none, List.drop_length]

/-- The journal gains what a section tells. -/
theorem journal_after (advance : Advance) (session : Session)
    (ready : advance.activity.isReady advance.world.now = true) :
    (advance.after session).host.journal =
      advance.world.host.journal ++ advance.told session := by
  rw [told, after, Activity.step_journal session ready, List.drop_left]

end Advance

/-! ### Courses -/

/-- The sections of an action so far, and the slot that they lead to. -/
inductive Action.Course (action : Action) (context : Context) (duration : UInt64) :
    List Passage → Slot → Prop
  | begins : Course action context duration [] (.ready action)
  | goesOn {past slot} (before : Course action context duration past slot) (spot : Spot)
      (world : World) :
      Course action context duration (past ++ [⟨spot, context, duration, slot, world⟩])
        (slot.step context duration world).2

/-- An action that waits has had a section, the last of which left it there. -/
theorem Action.Course.last {action : Action} {context : Context} {duration : UInt64}
    {past : List Passage} {wake : Nat} {wait : Wait}
    (h : action.Course context duration past (.waiting wake wait)) :
    ∃ passage ∈ past, passage.next = .waiting wake wait := by
  generalize stands : Slot.waiting wake wait = slot at h
  cases h with
  | begins => cases stands
  | goesOn => exact ⟨_, List.mem_append_right _ List.mem_cons_self, rfl⟩

/-- What is under way in a call goes on from the sections that a trail has of it. -/
def Activity.Follows (trail : List Passage) (call : Nat) : Activity → Prop
  | .planned .. => ∀ passage ∈ trail, passage.spot.call ≠ call
  | .ticking context duration slots rest =>
    (∀ passage ∈ trail, passage.spot.call = call → rest.length ≤ passage.spot.behind) ∧
      ∀ place slot, slots[place]? = some slot → ∃ action : Action,
        action.Course context duration (trail.filter (·.spot = ⟨call, rest.length, place⟩)) slot
  | .releasing context entry slot rest =>
    (∀ passage ∈ trail, passage.spot.call = call → rest.length ≤ passage.spot.behind) ∧
      entry.Course context 0 (trail.filter (·.spot = ⟨call, rest.length, 0⟩)) slot
  | _ => True

namespace Activity.Follows

variable {trail : List Passage} {call : Nat} {session : Session} {world : World}

/-- No section of a trail is at a spot that the call has yet to come to. -/
private theorem unused {behind : Nat}
    (earlier : ∀ passage ∈ trail, passage.spot.call = call → behind < passage.spot.behind)
    (place : Nat) : trail.filter (·.spot = ⟨call, behind, place⟩) = [] := by
  rw [List.filter_eq_nil_iff]
  intro passage member here
  have same : passage.spot = ⟨call, behind, place⟩ := of_decide_eq_true here
  have before := earlier passage member (by rw [same])
  rw [same] at before
  exact Nat.lt_irrefl _ before

theorem ofTicks {ticks : List Tick}
    (earlier : ∀ passage ∈ trail, passage.spot.call = call →
      ticks.length ≤ passage.spot.behind) (context : Context) (now : Nat) :
    (Activity.ofTicks context now ticks).Follows trail call := by
  cases ticks with
  | nil => trivial
  | cons tick rest =>
    refine ⟨fun passage member same => Nat.le_of_lt (earlier passage member same), ?_⟩
    intro place slot found
    -- Nothing has run at the spots of the new tick.
    rw [unused earlier]
    obtain ⟨action, -, rfl⟩ := List.mem_map.mp (List.mem_of_getElem? found)
    exact ⟨action, .begins⟩

theorem ofEntries {entries : List Action}
    (earlier : ∀ passage ∈ trail, passage.spot.call = call →
      entries.length ≤ passage.spot.behind) (context : Context) (now : Nat) :
    (Activity.ofEntries context now entries).Follows trail call := by
  cases entries with
  | nil => trivial
  | cons entry rest =>
    refine ⟨fun passage member same => Nat.le_of_lt (earlier passage member same), ?_⟩
    rw [unused earlier]
    exact .begins

private theorem perform (unseen : ∀ passage ∈ trail, passage.spot.call ≠ call)
    (context : Context) (chain : Chain) :
    (world.perform context chain).2.Follows trail call := by
  unfold World.perform
  dsimp only
  split
  · trivial
  · exact ofTicks (fun passage member same => absurd same (unseen passage member)) _ _

theorem start (unseen : ∀ passage ∈ trail, passage.spot.call ≠ call) (request : Request) :
    (world.start session request).2.Follows trail call := by
  cases request with
  | dispatch payload mode =>
    dsimp only [World.start]
    split
    · trivial
    · exact perform unseen _ _
  | perform chain mode => exact perform unseen _ _
  | release => exact ofEntries (fun passage member same => absurd same (unseen passage member)) _ _
  | _ => trivial

/-- A section elsewhere is none of this call. -/
theorem elsewhere {activity : Activity} (h : activity.Follows trail call) {foreign : Passage}
    (apart : foreign.spot.call ≠ call) : activity.Follows (trail ++ [foreign]) call := by
  have other (behind place : Nat) : (trail ++ [foreign]).filter
      (·.spot = ⟨call, behind, place⟩) = trail.filter (·.spot = ⟨call, behind, place⟩) := by
    have away : ¬ foreign.spot = ⟨call, behind, place⟩ := fun same => apart (by rw [same])
    simp [away]
  have both {property : Passage → Prop} (old : ∀ passage ∈ trail, property passage)
      (new : property foreign) : ∀ passage ∈ trail ++ [foreign], property passage :=
    List.forall_mem_append.mpr ⟨old, List.forall_mem_singleton.mpr new⟩
  cases activity with
  | planned => exact both h apart
  | ticking =>
    refine ⟨both h.1 fun same => absurd same apart, fun place slot found => ?_⟩
    rw [other]
    exact h.2 place slot found
  | releasing =>
    refine ⟨both h.1 fun same => absurd same apart, ?_⟩
    rw [other]
    exact h.2
  | _ => trivial

/-- After a section of the tick its action has gone on, and the others are where they were. -/
private theorem slot {context : Context} {duration : UInt64} {left right : List Slot} {slot : Slot}
    {rest : List Tick}
    (h : (ticking context duration (left ++ slot :: right) rest).Follows trail call) :
    (ticking context duration (left ++ (slot.step context duration world).2 :: right) rest).Follows
      (trail ++ [⟨⟨call, rest.length, left.length⟩, context, duration, slot, world⟩]) call := by
  obtain ⟨earlier, courses⟩ := h
  constructor
  · intro passage member same
    rcases List.mem_append.mp member with old | new
    · exact earlier passage old same
    · rw [List.mem_singleton.mp new]
  · intro place other found
    -- The slot that ran has one section more, and no other slot has a section at its spot.
    by_cases here : place = left.length
    · subst here
      obtain ⟨action, course⟩ := courses left.length slot (by simp)
      have ran : other = (slot.step context duration world).2 := by
        simpa [eq_comm] using found
      subst ran
      refine ⟨action, ?_⟩
      rw [List.filter_append]
      simpa using course.goesOn ⟨call, rest.length, left.length⟩ world
    · rw [Schedule.getElem?_replaced (Ne.symm here) slot] at found
      obtain ⟨action, course⟩ := courses place other found
      refine ⟨action, ?_⟩
      have away : ¬ left.length = place := fun same => here same.symm
      simpa [List.filter_append, away] using course

theorem step {activity : Activity} (h : activity.Follows trail call) :
    (activity.step session world).2.Follows
      (trail ++ (activity.passage? call world).toList) call := by
  cases activity with
  | planned instant request =>
    have none : (planned instant request).passage? call world = none := rfl
    rw [none, Option.toList_none, List.append_nil]
    exact start h request
  | ticking context duration slots rest =>
    rcases passage?_ticking context duration slots rest call world with
      ⟨left, ran, right, rfl, stepped, passed⟩ | ⟨idle, none⟩
    · simp only [Activity.step, stepped, passed, Option.toList_some]
      exact h.slot
    · simp only [Activity.step, idle, none, Option.toList_none, List.append_nil]
      unfold afterTick
      split
      · trivial
      · exact ofTicks h.1 _ _
  | releasing context entry ran rest =>
    obtain ⟨earlier, course⟩ := h
    have earlier : ∀ passage ∈ trail ++ [⟨⟨call, rest.length, 0⟩, context, 0, ran, world⟩],
        passage.spot.call = call → rest.length ≤ passage.spot.behind := by
      intro passage member same
      rcases List.mem_append.mp member with old | new
      · exact earlier passage old same
      · rw [List.mem_singleton.mp new]
    have goes := course.goesOn ⟨call, rest.length, 0⟩ world
    simp only [Activity.step, passage?, Option.toList_some]
    generalize (ran.step context 0 world).2 = next at goes ⊢
    unfold afterEntry
    split
    · exact ofEntries earlier _ _
    · trivial
    · refine ⟨earlier, ?_⟩
      rw [List.filter_append]
      simpa using goes
  | _ => trivial

end Activity.Follows

/-! ### Histories -/

namespace Schedule

/-- The moments that follow a given one, with the sections of all calls on the way. -/
inductive Chronicle (joins : Schedule → Request → Prop) (moves : Schedule → Schedule → Prop)
    (start : Schedule) : Schedule → List Advance → Prop
  | begins : Chronicle joins moves start start []
  | join {s log} (before : Chronicle joins moves start s log) (instant : Nat) (request : Request)
      (allowed : joins s request) : Chronicle joins moves start (s.join instant request) log
  | elapse {session world activities now log}
      (before : Chronicle joins moves start ⟨session, world, activities⟩ log)
      (later : world.now ≤ now)
      (allowed : moves ⟨session, world, activities⟩
        ⟨session, { world with now := now }, activities⟩) :
      Chronicle joins moves start ⟨session, { world with now := now }, activities⟩ log
  | advance {session world left activity right log}
      (before : Chronicle joins moves start ⟨session, world, left ++ activity :: right⟩ log)
      (ready : activity.isReady world.now = true)
      (allowed : moves ⟨session, world, left ++ activity :: right⟩
        ⟨session, (activity.step session world).1,
          left ++ (activity.step session world).2 :: right⟩) :
      Chronicle joins moves start
        ⟨session, (activity.step session world).1,
          left ++ (activity.step session world).2 :: right⟩
        (log ++ [⟨left.length, activity, world⟩])

/-- The sections of actions among those of calls. -/
def trail (log : List Advance) : List Passage := log.filterMap (·.passage?)

theorem filterMap_concat {α β : Type} (f : α → Option β) (items : List α) (last : α) :
    (items ++ [last]).filterMap f = items.filterMap f ++ (f last).toList := by
  rw [List.filterMap_append]
  cases found : f last <;> simp [found]

theorem trail_concat (log : List Advance) (last : Advance) :
    trail (log ++ [last]) = trail log ++ last.passage?.toList :=
  filterMap_concat _ log last

variable {session : Session} {joins : Schedule → Request → Prop}
  {moves : Schedule → Schedule → Prop} {start s : Schedule} {log : List Advance}

/-- Every moment of a session has a chronicle. -/
theorem Reached.chronicle (h : Reached session joins moves s) :
    ∃ host log, Chronicle joins moves ⟨session, .initial host, []⟩ s log := by
  induction h with
  | fresh host => exact ⟨host, [], .begins⟩
  | join instant request _ allowed ih =>
    obtain ⟨host, log, before⟩ := ih
    exact ⟨host, log, before.join instant request allowed⟩
  | move _ moved allowed ih =>
    obtain ⟨host, log, before⟩ := ih
    cases moved with
    | advance ready => exact ⟨host, _, before.advance ready allowed⟩
    | elapse later => exact ⟨host, log, before.elapse later allowed⟩

namespace Chronicle

theorem reached (h : Chronicle joins moves start s log)
    (begun : Reached session joins moves start) : Reached session joins moves s := by
  induction h with
  | begins => exact begun
  | join _ instant request allowed ih => exact ih.join instant request allowed
  | elapse _ later allowed ih => exact ih.move (.elapse later) allowed
  | advance _ ready allowed ih => exact ih.move (.advance ready) allowed

theorem session_eq (h : Chronicle joins moves start s log) : s.session = start.session := by
  induction h with
  | begins => rfl
  | join _ _ _ _ ih => exact ih
  | elapse _ _ _ ih => exact ih
  | advance _ _ _ ih => exact ih

/-- A chronicle goes up to any of its sections, and on from there. -/
theorem split {early late : List Advance} {advance : Advance}
    (h : Chronicle joins moves start s (early ++ advance :: late)) :
    ∃ left right,
      Chronicle joins moves start
        ⟨start.session, advance.world, left ++ advance.activity :: right⟩ early ∧
      left.length = advance.call ∧ advance.activity.isReady advance.world.now = true ∧
      Chronicle joins moves ⟨start.session, advance.after start.session,
        left ++ advance.next start.session :: right⟩ s late := by
  generalize whole : early ++ advance :: late = log at h
  -- The section is the last of the chronicle, or it is in the chronicle of an earlier moment.
  induction h generalizing late with
  | begins => exact absurd whole (by simp)
  | join _ instant request allowed ih =>
    obtain ⟨left, right, before, here, ready, rest⟩ := ih whole
    exact ⟨left, right, before, here, ready, rest.join instant request allowed⟩
  | elapse _ later allowed ih =>
    obtain ⟨left, right, before, here, ready, rest⟩ := ih whole
    exact ⟨left, right, before, here, ready, rest.elapse later allowed⟩
  | @advance session world left activity right log before ready allowed ih =>
    rcases List.eq_nil_or_concat late with rfl | ⟨late, last, rfl⟩
    · obtain ⟨rfl, same⟩ := List.append_inj' whole rfl
      cases same
      have same : session = start.session := before.session_eq
      subst same
      exact ⟨left, right, before, rfl, ready, .begins⟩
    · rw [List.concat_eq_append, ← List.cons_append, ← List.append_assoc] at whole
      obtain ⟨shorter, same⟩ := List.append_inj' whole rfl
      cases same
      obtain ⟨_, _, earlier, here, due, rest⟩ := ih shorter
      rw [List.concat_eq_append]
      exact ⟨_, _, earlier, here, due, rest.advance ready allowed⟩

/-- The moment at which a section of the chronicle took place. -/
theorem before {early late : List Advance} {advance : Advance}
    (h : Chronicle joins moves start s (early ++ advance :: late)) :
    ∃ left right, Chronicle joins moves start
        ⟨start.session, advance.world, left ++ advance.activity :: right⟩ early ∧
      left.length = advance.call ∧ advance.activity.isReady advance.world.now = true := by
  obtain ⟨left, right, before, here, ready, -⟩ := h.split
  exact ⟨left, right, before, here, ready⟩

/-- The journal has gained what the sections told. -/
theorem journal (h : Chronicle joins moves start s log) :
    s.world.host.journal =
      start.world.host.journal ++ log.flatMap (·.told start.session) := by
  induction h with
  | begins => simp
  | join _ _ _ _ ih => exact ih
  | elapse _ _ _ ih => exact ih
  | @advance session world left activity right log before ready _ ih =>
    have same : session = start.session := before.session_eq
    subst same
    have gained := Advance.journal_after ⟨left.length, activity, world⟩ start.session ready
    rw [List.flatMap_append, ← List.append_assoc, ← ih]
    simpa [Advance.after] using gained

/-- At every moment each call goes on from its own sections. -/
theorem follows (h : Chronicle joins moves start s log) (idle : start.activities = []) :
    (∀ call (activity : Activity), s.activities[call]? = some activity →
        activity.Follows (trail log) call) ∧
      ∀ passage ∈ trail log, passage.spot.call < s.activities.length := by
  induction h with
  | begins => simp [idle, trail]
  | elapse _ _ _ ih => exact ih
  | @join s log before instant request _ ih =>
    obtain ⟨follows, known⟩ := ih
    have length : (s.join instant request).activities.length = s.activities.length + 1 := by
      simp [Schedule.join]
    refine ⟨fun call activity found => ?_, fun passage member => ?_⟩
    · rcases Nat.lt_or_ge call s.activities.length with old | new
      · rw [Schedule.join, List.getElem?_append_left old] at found
        exact follows call activity found
      · rw [Schedule.join, List.getElem?_append_right new] at found
        rw [List.mem_singleton.mp (List.mem_of_getElem? found)]
        exact fun passage member => Nat.ne_of_lt (Nat.lt_of_lt_of_le (known passage member) new)
    · rw [length]
      exact Nat.lt_succ_of_lt (known passage member)
  | @advance session world left activity right log before ready _ ih =>
    obtain ⟨follows, known⟩ := ih
    have mine : ∀ passage ∈ (activity.passage? left.length world).toList,
        passage.spot.call = left.length := fun passage member =>
      (Activity.step_of_passage (Option.mem_toList.mp member) session).2.2.2
    rw [trail_concat]
    refine ⟨fun call other found => ?_, fun passage member => ?_⟩
    -- The section belongs to the call that moved; for the other calls it is elsewhere.
    · by_cases here : left.length = call
      · subst here
        have ran : other = (activity.step session world).2 := by simpa [eq_comm] using found
        subst ran
        exact (follows left.length activity (by simp)).step
      · rw [getElem?_replaced here activity] at found
        have kept := follows call other found
        cases passed : activity.passage? left.length world with
        | none => simpa [Advance.passage?, passed] using kept
        | some passage =>
          have apart : passage.spot.call ≠ call := by
            rw [mine passage (by simp [passed])]
            exact here
          have elsewhere := kept.elsewhere apart
          simpa [Advance.passage?, passed] using elsewhere
    · have length : (left ++ (activity.step session world).2 :: right).length =
          (left ++ activity :: right).length := by simp
      rw [length]
      rcases List.mem_append.mp member with old | new
      · exact known passage old
      · rw [mine passage new]
        simp

/-- The earlier sections at the spot of a section are those of its action, which they have led to
where it stands. -/
theorem course {early late : List Advance} {advance : Advance} {passage : Passage}
    (h : Chronicle joins moves start s (early ++ advance :: late)) (idle : start.activities = [])
    (passes : advance.passage? = some passage) :
    ∃ action : Action, action.Course passage.context passage.duration
      ((trail early).filter (·.spot = passage.spot)) passage.slot := by
  obtain ⟨left, right, before, here, -⟩ := h.before
  have follows := (before.follows idle).1 advance.call advance.activity (by simp [← here])
  unfold Advance.passage? at passes
  cases activity : advance.activity with
  | ticking context duration slots rest =>
    rw [activity] at follows passes
    rcases Activity.passage?_ticking context duration slots rest advance.call
      advance.world with ⟨before, slot, after, rfl, -, found⟩ | ⟨-, none⟩
    · cases found.symm.trans passes
      exact follows.2 before.length slot (by simp)
    · cases none.symm.trans passes
  | releasing context entry slot rest =>
    rw [activity] at follows passes
    cases passes
    exact ⟨entry, follows.2⟩
  | _ => rw [activity] at passes; cases passes

/-- The section that left an action waiting is the one before. -/
theorem awaited {early late : List Advance} {advance : Advance} {passage : Passage} {wake : Nat}
    {wait : Wait} (h : Chronicle joins moves start s (early ++ advance :: late))
    (idle : start.activities = []) (passes : advance.passage? = some passage)
    (waits : passage.slot = .waiting wake wait) :
    ∃ earlier ∈ trail early, earlier.spot = passage.spot ∧ earlier.next = .waiting wake wait := by
  obtain ⟨action, course⟩ := h.course idle passes
  rw [waits] at course
  obtain ⟨earlier, member, left⟩ := course.last
  obtain ⟨listed, here⟩ := List.mem_filter.mp member
  exact ⟨earlier, listed, of_decide_eq_true here, left⟩

end Chronicle

/-! ### The chronicle of a run -/

/-- The section that the next step of a schedule has, unless it moves the clock. -/
def advance? (schedule : Schedule) : Option Advance :=
  let call := schedule.activities.findIdx (·.isReady schedule.world.now)
  schedule.activities[call]?.map fun activity => ⟨call, activity, schedule.world⟩

/-- The sections of a number of steps. -/
def annals : Nat → Schedule → List Advance
  | 0, _ => []
  | n + 1, schedule => schedule.advance?.toList ++ annals n schedule.step

/-- A schedule runs its first activity that is ready, or none. -/
private theorem stepFirst_findIdx (session : Session) (world : World)
    (activities : List Activity) :
    (∃ left activity right, activities = left ++ activity :: right ∧
      activities.findIdx (·.isReady world.now) = left.length ∧
      activity.isReady world.now = true ∧
      stepFirst session world activities = some ((activity.step session world).1,
        left ++ (activity.step session world).2 :: right)) ∨
    activities.findIdx (·.isReady world.now) = activities.length ∧
      stepFirst session world activities = none := by
  induction activities with
  | nil => exact Or.inr ⟨rfl, rfl⟩
  | cons head activities ih =>
    unfold stepFirst
    rw [List.findIdx_cons]
    cases ready : head.isReady world.now with
    | true => exact Or.inl ⟨[], head, activities, rfl, rfl, ready, rfl⟩
    | false =>
      rcases ih with ⟨left, activity, right, rfl, first, due, ran⟩ | ⟨none, idle⟩
      · exact Or.inl ⟨head :: left, activity, right, rfl, by simp [first], due, by simp [ran]⟩
      · exact Or.inr ⟨by simp [none], by simp [idle]⟩

/-- A step of the schedule goes on with the chronicle. -/
theorem Chronicle.step (h : Chronicle joins moves start s log) (allowed : moves s s.step) :
    Chronicle joins moves start s.step (log ++ s.advance?.toList) := by
  obtain ⟨session, world, activities⟩ := s
  rcases stepFirst_findIdx session world activities with
    ⟨left, activity, right, rfl, first, ready, ran⟩ | ⟨none, idle⟩
  · have found : (Schedule.mk session world (left ++ activity :: right)).advance? =
        some ⟨left.length, activity, world⟩ := by
      simp [advance?, first]
    rw [Schedule.step, ran] at allowed ⊢
    rw [found]
    exact h.advance ready allowed
  · have nothing : (Schedule.mk session world activities).advance? = .none := by
      simp [advance?, none]
    rw [nothing, Option.toList_none, List.append_nil]
    rw [Schedule.step, idle] at allowed ⊢
    dsimp only at allowed ⊢
    split at allowed
    · exact h.elapse (Nat.le_max_left _ _) allowed
    · exact h

/-- So does a run of the schedule, for as long as its steps are allowed. -/
theorem Chronicle.run (h : Chronicle joins moves start s log) (allowed : ∀ s, moves s s.step)
    (n : Nat) : Chronicle joins moves start (s.steps n) (log ++ s.annals n) := by
  induction n generalizing s log with
  | zero =>
    rw [annals, List.append_nil]
    exact h
  | succ n ih =>
    rw [annals, ← List.append_assoc]
    exact ih (h.step (allowed s))

/-- The run of a request that joins at the beginning. -/
theorem Chronicle.of_join {instant : Nat} {request : Request} (permitted : joins start request)
    (allowed : ∀ s, moves s s.step) (n : Nat) :
    let s := start.join instant request
    Chronicle joins moves start (s.steps n) (s.annals n) := by
  intro s
  have begun : Chronicle joins moves start s [] := Chronicle.begins.join instant request permitted
  have chronicle := begun.run allowed n
  rwa [List.nil_append] at chronicle

theorem Chronicle.steps (h : Chronicle joins moves start s log) (free : ∀ s next, moves s next)
    (n : Nat) : Chronicle joins moves start (s.steps n) (log ++ s.annals n) :=
  h.run (fun s => free s s.step) n

end Schedule

end InputActions
