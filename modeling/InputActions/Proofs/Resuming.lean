import InputActions.Proofs.Arriving
import InputActions.Proofs.Reporting

/-!
# From one section of an action to the next

Between two sections of an action time passes and other sections take place. What all of these leave
alone, and what the own sections of the action go on from, holds at each of them: it is carried
along (`Schedule.Chronicle.carries`).
-/
namespace InputActions

/-! ### Sections -/

/-- A section of an action takes no time. -/
theorem Slot.step_now (slot : Slot) (context : Context) (duration : UInt64) (world : World) :
    (slot.step context duration world).1.now = world.now := by
  cases slot with
  | ready action => exact (action.begin_progress context duration world).1
  | waiting wake wait => exact (wait.resume_progress context (le_refl world.now)).1
  | settled => rfl

namespace Activity

/-- No section takes any time. -/
theorem step_now (activity : Activity) (session : Session) (world : World) :
    (activity.step session world).1.now = world.now := by
  cases activity with
  | planned instant request => exact world.now_start session request
  | ticking context duration slots rest =>
    simp only [step]
    split
    next ran => exact (Slot.stepFirst_bound ran).1
    · rfl
  | releasing context entry slot rest =>
    simp only [step, afterEntry]
    split <;> exact slot.step_now context 0 world
  | _ => rfl

variable {activity : Activity} {call : Nat} {world : World} {passage : Passage}

/-- The action of a tick that has a section is ready for it. -/
theorem ready_of_ticking {context : Context} {duration : UInt64} {slots : List Slot}
    {rest : List Tick}
    (passes : (ticking context duration slots rest).passage? call world = some passage) :
    passage.slot.isReady passage.world.now = true := by
  simp only [passage?] at passes
  obtain ⟨slot, found, rfl⟩ := Option.map_eq_some_iff.mp passes
  obtain ⟨inside, rfl⟩ := List.getElem?_eq_some_iff.mp found
  exact List.findIdx_getElem

/-- Who has a section is ready for it, unless there is nothing left to do. -/
theorem ready_of_passage (passes : activity.passage? call world = some passage)
    (ready : activity.isReady world.now = true) (live : passage.slot.isSettled = false) :
    passage.slot.isReady passage.world.now = true := by
  cases activity with
  | ticking context duration slots rest => exact ready_of_ticking passes
  | releasing context entry slot rest =>
    cases passes
    simpa [isReady, live] using ready
  | _ => cases passes

theorem context?_of_passage (passes : activity.passage? call world = some passage) :
    activity.context? = some passage.context := by
  cases activity with
  | ticking context duration slots rest =>
    obtain ⟨slot, -, rfl⟩ := Option.map_eq_some_iff.mp passes
    rfl
  | releasing context entry slot rest =>
    cases passes
    rfl
  | _ => cases passes

/-- An action that goes on leaves the world as its section does. -/
theorem after_of_passage (passes : activity.passage? call world = some passage)
    (goesOn : passage.next.isSettled = false) (session : Session) :
    (activity.step session world).1 = passage.after := by
  cases activity with
  | ticking context duration slots rest =>
    rcases passage?_ticking context duration slots rest call world with
      ⟨left, slot, right, rfl, ran, found⟩ | ⟨-, none⟩
    · cases found.symm.trans passes
      simp only [step, ran, Passage.after]
    · cases none.symm.trans passes
  | releasing context entry slot rest =>
    cases passes
    simp only [step, afterEntry]
    split
    next done => cases goesOn.symm.trans (congrArg Slot.isSettled done)
    next failed => cases goesOn.symm.trans (congrArg Slot.isSettled failed)
    next => rfl
  | _ => cases passes

end Activity

/-- An action that is not settled has not settled before. -/
theorem Action.Course.live {action : Action} {context : Context} {duration : UInt64}
    {past : List Passage} {slot : Slot} (h : action.Course context duration past slot)
    (live : slot.isSettled = false) : ∀ passage ∈ past, passage.next.isSettled = false := by
  induction h with
  | begins => exact List.forall_mem_nil _
  | @goesOn past slot before spot world ih =>
    have unsettled : slot.isSettled = false := by
      cases slot with
      | settled => cases live
      | _ => rfl
    exact List.forall_mem_append.mpr ⟨ih unsettled, List.forall_mem_singleton.mpr live⟩

/-- Only the first section of an action begins it. -/
theorem Action.Course.eq_nil {action : Action} {context : Context} {duration : UInt64}
    {past : List Passage} {slot : Slot} {other : Action}
    (h : action.Course context duration past slot) (ready : slot = .ready other) : past = [] := by
  cases h with
  | begins => rfl
  | @goesOn past slot before spot world =>
    have begun := slot.isBegun_step context duration world
    rw [ready] at begun
    cases begun

/-! ### Histories -/

/-- A list falls apart at two of its entries. -/
theorem eq_take_append {α : Type} {items : List α} {i j : Nat} {first last : α}
    (found : items[i]? = some first) (found' : items[i + 1 + j]? = some last) :
    items = items.take i ++
      first :: ((items.drop (i + 1)).take j ++ last :: items.drop (i + 1 + j + 1)) := by
  obtain ⟨short, rfl⟩ := List.getElem?_eq_some_iff.mp found
  obtain ⟨short', rfl⟩ := List.getElem?_eq_some_iff.mp found'
  have inner : (items.drop (i + 1)).take j ++ items[i + 1 + j] :: items.drop (i + 1 + j + 1) =
      items.drop (i + 1) := by
    have whole := List.take_append_drop j (items.drop (i + 1))
    rwa [List.drop_drop, ← List.getElem_cons_drop short'] at whole
  rw [inner, List.getElem_cons_drop, List.take_append_drop]

namespace Schedule

variable {session : Session} {joins : Schedule → Request → Prop}
  {moves : Schedule → Schedule → Prop} {start s : Schedule} {log : List Advance} {spot : Spot}

/-- A property of the sections that an action has had, of its slot and of the world, which neither
time nor sections elsewhere affect, and which the own sections of the action hand on. -/
structure Carries (moves : Schedule → Schedule → Prop) (session : Session) (spot : Spot)
    (log : List Advance) (property : List Passage → Slot → World → Prop) : Prop where
  elapse {past slot world activities now} (later : world.now ≤ now)
    (allowed : moves ⟨session, world, activities⟩
      ⟨session, { world with now := now }, activities⟩)
    (stands : Stands ⟨session, world, activities⟩ spot slot) (holds : property past slot world) :
    property past slot { world with now := now }
  others {past slot advance} (member : advance ∈ log)
    (ready : advance.activity.isReady advance.world.now = true)
    (elsewhere : ∀ other, advance.passage? = some other → other.spot ≠ spot)
    (holds : property past slot advance.world) : property past slot (advance.after session)
  own {past advance passage} (member : advance ∈ log) (passes : advance.passage? = some passage)
    (here : passage.spot = spot) (ready : passage.slot.isReady passage.world.now = true)
    (goesOn : passage.next.isSettled = false)
    (holds : property past passage.slot passage.world) :
    property (past ++ [passage]) passage.next passage.after

namespace Carries

variable {property : List Passage → Slot → World → Prop}

theorem before {last : Advance} (h : Carries moves session spot (log ++ [last]) property) :
    Carries moves session spot log property where
  elapse := h.elapse
  others member := h.others (List.mem_append_left _ member)
  own member := h.own (List.mem_append_left _ member)

end Carries

namespace Chronicle

variable {property : List Passage → Slot → World → Prop}

/-- What an action carries along holds for as long as it has not settled. -/
theorem carries (h : Chronicle joins moves start s log) {past : List Passage} {slot : Slot}
    (kept : Carries moves start.session spot log property) (stands : start.Stands spot slot)
    (live : slot.isSettled = false) (holds : property past slot start.world) :
    (∃ next, s.Stands spot next ∧ next.isSettled = false ∧
        property (past ++ (trail log).filter (·.spot = spot)) next s.world) ∨
      ∃ passage ∈ trail log, passage.spot = spot ∧ passage.next.isSettled = true := by
  induction h with
  | begins => exact Or.inl ⟨slot, stands, live, by simpa [trail] using holds⟩
  | join _ instant request _ ih =>
    rcases ih kept with ⟨next, ⟨activity, found, stands⟩, live, holds⟩ | settled
    · have inside := (List.getElem?_eq_some_iff.mp found).1
      exact Or.inl ⟨next, ⟨activity, (List.getElem?_append_left inside).trans found, stands⟩, live,
        holds⟩
    · exact Or.inr settled
  | @elapse session world activities now log before later allowed ih =>
    have same : session = start.session := before.session_eq
    subst same
    rcases ih kept with ⟨next, stands, live, holds⟩ | settled
    · exact Or.inl ⟨next, stands, live, kept.elapse later allowed stands holds⟩
    · exact Or.inr settled
  | @advance session world left activity right log before ready _ ih =>
    have same : session = start.session := before.session_eq
    subst same
    rw [trail_concat]
    rcases ih kept.before with ⟨next, ⟨activity', found, stands⟩, live, holds⟩ |
      ⟨passage, listed, settled⟩
    swap
    · exact Or.inr ⟨passage, List.mem_append_left _ listed, settled⟩
    have last : (⟨left.length, activity, world⟩ : Advance) ∈
      log ++ [⟨left.length, activity, world⟩] := List.mem_append_right _ List.mem_cons_self
    -- Either the section is one of the action, or it leaves the action where it stands.
    by_cases passed : ∃ passage, activity.passage? left.length world = some passage ∧
        passage.spot = spot
    · obtain ⟨passage, passes, here⟩ := passed
      obtain ⟨-, -, found', call⟩ := Activity.step_of_passage passes start.session
      rw [← here, call, getElem?_place] at found
      cases found
      have same : passage.slot = next := stands.slot_eq passes here
      subst same
      cases settles : passage.next.isSettled with
      | true =>
        exact Or.inr ⟨passage, List.mem_append_right _ (Option.mem_toList.mpr passes), here,
          settles⟩
      | false =>
        have due := Activity.ready_of_passage passes ready live
        refine Or.inl ⟨passage.next, ⟨(activity.step start.session world).2, ?_, ?_⟩, settles, ?_⟩
        · rw [← here, call]
          exact getElem?_place
        · exact here ▸ Activity.stands_of_passage passes settles start.session
        · have holds := kept.own last passes here due settles (found'.symm ▸ holds)
          rw [Activity.after_of_passage passes settles]
          simpa [Advance.passage?, passes, here] using holds
    · have elsewhere : ∀ other, activity.passage? left.length world = some other →
          other.spot ≠ spot := fun other passes here => passed ⟨other, passes, here⟩
      refine Or.inl ⟨next, ?_, live, ?_⟩
      · by_cases here : left.length = spot.call
        · rw [← here, getElem?_place] at found
          cases found
          refine ⟨_, by rw [← here, getElem?_place], ?_⟩
          exact stands.step live ready (fun other passes => elsewhere other (here ▸ passes))
            start.session
        · rw [← getElem?_replaced here activity (activity.step start.session world).2] at found
          exact ⟨activity', found, stands⟩
      · have none : ((Advance.passage? ⟨left.length, activity, world⟩).toList).filter
            (·.spot = spot) = [] := by
          rw [List.filter_eq_nil_iff]
          exact fun other listed here =>
            elsewhere other (Option.mem_toList.mp listed) (of_decide_eq_true here)
        rw [List.filter_append, none, List.append_nil]
        exact kept.others last ready elsewhere holds

/-- What an action carries along from one of its sections holds when a later one begins, provided
it has not settled in between. -/
theorem carried {early between late : List Advance} {begins advance : Advance}
    {first passage : Passage}
    (h : Chronicle joins moves start s (early ++ begins :: (between ++ advance :: late)))
    (began : begins.passage? = some first) (passes : advance.passage? = some passage)
    (here : passage.spot = first.spot) (goesOn : first.next.isSettled = false)
    (unsettled : ∀ other ∈ trail between, other.spot = first.spot → other.next.isSettled = false)
    (kept : Carries moves start.session first.spot between property)
    (holds : property [first] first.next first.after) :
    property (first :: (trail between).filter (·.spot = first.spot)) passage.slot passage.world ∧
      passage.slot.isSettled = false ∧ passage.slot.isReady passage.world.now = true := by
  obtain ⟨left, right, -, place, -, rest⟩ := h.split
  obtain ⟨_, _, middle, place', due, -⟩ := rest.split
  obtain ⟨-, -, -, call⟩ := Activity.step_of_passage began start.session
  obtain ⟨-, -, world, call'⟩ := Activity.step_of_passage passes start.session
  have stands : Schedule.Stands ⟨start.session, begins.after start.session,
      left ++ begins.next start.session :: right⟩ first.spot first.next := by
    refine ⟨_, ?_, Activity.stands_of_passage began goesOn start.session⟩
    rw [call, ← place]
    exact getElem?_place
  have after : begins.after start.session = first.after :=
    Activity.after_of_passage began goesOn start.session
  rcases middle.carries kept stands goesOn (after.symm ▸ holds) with
    ⟨next, ⟨activity, found, stands⟩, live, holds⟩ | ⟨other, listed, same, settled⟩
  · rw [← here, call', ← place', getElem?_place] at found
    cases found
    have same : passage.slot = next := stands.slot_eq passes here
    subst same
    rw [world]
    exact ⟨holds, live, world ▸ Activity.ready_of_passage passes due live⟩
  · cases settled.symm.trans (unsettled other listed same)

/-- All activities serve the session that they run on. -/
theorem serves (h : Chronicle joins moves start s log) (idle : start.activities = []) :
    ∀ activity ∈ s.activities, activity.Serves start.session := by
  induction h with
  | begins => simp [idle]
  | join _ instant request _ ih =>
    exact List.forall_mem_append.mpr ⟨ih, List.forall_mem_singleton.mpr nofun⟩
  | elapse _ _ _ ih => exact ih
  | @advance session world left activity right log before _ _ ih =>
    have same : session = start.session := before.session_eq
    subst same
    obtain ⟨earlier, later⟩ := List.forall_mem_append.mp ih
    obtain ⟨own, others⟩ := List.forall_mem_cons.mp later
    exact List.forall_mem_append.mpr ⟨earlier, List.forall_mem_cons.mpr ⟨own.step world, others⟩⟩

theorem context_session (h : Chronicle joins moves start s log) (idle : start.activities = [])
    {passage : Passage} (listed : passage ∈ trail log) :
    passage.context.session = start.session := by
  obtain ⟨advance, member, passes⟩ := List.mem_filterMap.mp listed
  obtain ⟨early, late, rfl⟩ := List.append_of_mem member
  obtain ⟨left, right, before, -⟩ := h.before
  exact before.serves idle advance.activity (by simp) passage.context
    (Activity.context?_of_passage passes)

/-- The sections at the spot of an action since it began are all of its sections. -/
theorem course_since {early between late : List Advance} {begins advance : Advance}
    {first passage : Passage} {action : Action}
    (h : Chronicle joins moves start s (early ++ begins :: (between ++ advance :: late)))
    (idle : start.activities = []) (began : begins.passage? = some first)
    (ready : first.slot = .ready action) (passes : advance.passage? = some passage)
    (here : passage.spot = first.spot) :
    action.Course passage.context passage.duration
      (first :: (trail between).filter (·.spot = first.spot)) passage.slot := by
  obtain ⟨whole, course⟩ := h.course idle began
  have none : (trail early).filter (·.spot = first.spot) = [] := course.eq_nil ready
  have sections_eq : (trail (early ++ begins :: between)).filter (·.spot = passage.spot) =
      first :: (trail between).filter (·.spot = first.spot) := by
    rw [here, trail, List.filterMap_append, List.filter_append, List.filterMap_cons_some began,
      List.filter_cons_of_pos (by simp)]
    exact congrArg (· ++ _) none
  have split : early ++ begins :: (between ++ advance :: late) =
      (early ++ begins :: between) ++ advance :: late := by simp
  obtain ⟨other, course⟩ := (split ▸ h).course idle passes
  rw [sections_eq] at course
  have same : action = other := course.ready_eq.1 first List.mem_cons_self action ready
  rwa [same]

/-- An action that is not settled has not settled since a given section of it. -/
theorem unsettled {early between late : List Advance} {begins advance : Advance}
    {first passage : Passage}
    (h : Chronicle joins moves start s (early ++ begins :: (between ++ advance :: late)))
    (idle : start.activities = []) (began : begins.passage? = some first)
    (passes : advance.passage? = some passage) (here : passage.spot = first.spot)
    (live : passage.slot.isSettled = false) :
    first.next.isSettled = false ∧
      ∀ other ∈ trail between, other.spot = first.spot → other.next.isSettled = false := by
  have whole : early ++ begins :: (between ++ advance :: late) =
      (early ++ begins :: between) ++ advance :: late := by simp
  obtain ⟨action, course⟩ := (whole ▸ h).course idle passes
  have earlier (other : Passage) (listed : other ∈ trail (early ++ begins :: between))
      (same : other.spot = first.spot) : other.next.isSettled = false :=
    course.live live other (List.mem_filter.mpr ⟨listed, decide_eq_true (same.trans here.symm)⟩)
  constructor
  · exact earlier first (List.mem_filterMap.mpr ⟨begins, by simp, began⟩) rfl
  · intro other listed same
    obtain ⟨advance, member, passes⟩ := List.mem_filterMap.mp listed
    exact earlier other (List.mem_filterMap.mpr ⟨advance, by simp [member], passes⟩) same

end Chronicle

end Schedule

end InputActions
