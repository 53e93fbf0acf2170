import InputActions.Proofs.Resuming

/-!
# Courses in one piece

The sections that a history has at one spot are all sections of one action. The first one begins it,
and each of the others goes on from where the one before has left it (`Action.Course.linked`). The
action still stands where the last one has left it, unless it has settled
(`Schedule.Chronicle.whole`), and then it tells the surface nothing more (`Passage.Links.silent`).
-/
namespace InputActions

/-- A section goes on from where an earlier one has left its action. -/
def Passage.Links (earlier later : Passage) : Prop := later.slot = earlier.next

/-- An action begins with its first section, and each later one goes on from the one before. -/
theorem Action.Course.linked {action : Action} {context : Context} {duration : UInt64}
    {past : List Passage} {slot : Slot} (h : action.Course context duration past slot) :
    past.IsChain Passage.Links ∧ (past.map (·.slot)).headD slot = .ready action ∧
      ∀ last ∈ past.getLast?, last.next = slot := by
  induction h with
  | begins => exact ⟨.nil, rfl, fun _ ends => absurd ends (Option.not_mem_none _)⟩
  | @goesOn past slot before spot world ih =>
    obtain ⟨chain, first, last⟩ := ih
    refine ⟨?_, ?_, ?_⟩
    · refine List.isChain_append.mpr ⟨chain, .singleton _, fun earlier ends later begins => ?_⟩
      cases begins
      exact (last earlier ends).symm
    · cases past with
      | nil => exact first
      | cons => exact first
    · rintro _ ends
      rw [List.getLast?_concat] at ends
      cases ends
      rfl

/-- What has settled stays so. -/
theorem Action.Course.settled {action : Action} {context : Context} {duration : UInt64}
    {past : List Passage} {slot : Slot} (h : action.Course context duration past slot)
    {passage : Passage} (listed : passage ∈ past) {result : Except ActionError Unit}
    (settles : passage.next = .settled result) : slot = .settled result := by
  induction h with
  | begins => cases listed
  | goesOn before spot world ih =>
    rcases List.mem_append.mp listed with old | new
    · rw [ih old]
      rfl
    · cases List.mem_singleton.mp new
      exact settles

theorem Action.Course.duration_eq {action : Action} {context : Context} {duration : UInt64}
    {past : List Passage} {slot : Slot} (h : action.Course context duration past slot) :
    ∀ passage ∈ past, passage.duration = duration := by
  induction h with
  | begins => exact List.forall_mem_nil _
  | goesOn before spot world ih =>
    exact List.forall_mem_append.mpr ⟨ih, List.forall_mem_singleton.mpr rfl⟩

namespace Passage

theorem silent_of_settled {passage : Passage} (settled : passage.slot.isSettled = true) :
    passage.told = [] ∧ passage.next.isSettled = true := by
  unfold told next after
  generalize passage.slot = slot at settled
  cases slot with
  | settled => exact ⟨List.drop_length, rfl⟩
  | _ => cases settled

/-- An action that has settled tells the surface nothing more. -/
theorem Links.silent {first : Passage} {later : List Passage}
    (chain : (first :: later).IsChain Links) (settles : first.next.isSettled = true) :
    later.flatMap (·.told) = [] := by
  induction later generalizing first with
  | nil => rfl
  | cons second rest ih =>
    obtain ⟨link, chain⟩ := List.isChain_cons_cons.mp chain
    obtain ⟨none, settles⟩ := silent_of_settled (link ▸ settles : second.slot.isSettled = true)
    rw [List.flatMap_cons, none, ih chain settles, List.append_nil]

end Passage

namespace Schedule

variable {joins : Schedule → Request → Prop} {moves : Schedule → Schedule → Prop}
  {start s : Schedule} {log : List Advance}

/-- A section in a trail is that of a call. -/
theorem trail_eq_append_cons {left right : List Passage} {passage : Passage}
    (h : trail log = left ++ passage :: right) :
    ∃ early advance late, log = early ++ advance :: late ∧ trail early = left ∧
      advance.passage? = some passage ∧ trail late = right := by
  obtain ⟨before, rest, rfl, left, rest'⟩ := List.filterMap_eq_append_iff.mp h
  obtain ⟨idle, advance, late, rfl, none, passes, right⟩ := List.filterMap_eq_cons_iff.mp rest'
  refine ⟨before ++ idle, advance, late, by simp, ?_, passes, right⟩
  rw [trail, List.filterMap_append, left, List.filterMap_eq_nil_iff.mpr none, List.append_nil]

/-- The sections at one spot are the course of one action, which stands there unless it has
settled. -/
theorem Chronicle.whole (h : Chronicle joins moves start s log) (idle : start.activities = [])
    {passage : Passage} (listed : passage ∈ trail log) :
    ∃ action context duration slot,
      Action.Course action context duration
        ((trail log).filter (·.spot = passage.spot)) slot ∧
      (slot.isSettled = false → s.Stands passage.spot slot) := by
  -- The last of them has those before it as its course, and none after it.
  have some : (trail log).filter (·.spot = passage.spot) ≠ [] :=
    List.ne_nil_of_mem (List.mem_filter.mpr ⟨listed, by simp⟩)
  obtain ⟨past, last, whole⟩ := (List.eq_nil_or_concat _).resolve_left some
  rw [List.concat_eq_append] at whole
  obtain ⟨before, rest, split, same, ends⟩ := List.filter_eq_append_iff.mp whole
  obtain ⟨between, after, rfl, none, here, none'⟩ := List.filter_eq_cons_iff.mp ends
  have here : last.spot = passage.spot := by simpa using here
  rw [← List.append_assoc] at split
  obtain ⟨early, advance, late, rfl, earlier, passes, later⟩ := trail_eq_append_cons split
  obtain ⟨action, course⟩ := h.course idle passes
  have goesOn := course.goesOn last.spot last.world
  have past_eq : (trail early).filter (·.spot = last.spot) = past := by
    rw [earlier, List.filter_append, here, same, List.filter_eq_nil_iff.mpr none, List.append_nil]
  rw [past_eq] at goesOn
  rw [whole]
  refine ⟨action, last.context, last.duration, last.next, goesOn, fun unsettled => ?_⟩
  obtain ⟨left, right, -, place, -, rest⟩ := h.split
  obtain ⟨-, -, -, call⟩ := Activity.step_of_passage passes start.session
  have stands : Schedule.Stands ⟨start.session, advance.after start.session,
      left ++ advance.next start.session :: right⟩ last.spot last.next :=
    ⟨_, by rw [call, ← place]; exact getElem?_place,
      Activity.stands_of_passage passes unsettled start.session⟩
  rw [← here]
  rcases rest.goesOn stands unsettled with ⟨stands, -⟩ | ⟨_, answering, _, answer, rfl, -, answers,
    spot, -⟩
  · exact stands
  · have member : answer ∈ after := by
      rw [← later]
      exact List.mem_filterMap.mpr ⟨answering, by simp, answers⟩
    exact absurd (spot.trans here) (by simpa using List.filter_eq_nil_iff.mp none' answer member)

/-- The sections of an action begin with its first one. -/
theorem Chronicle.linked (h : Chronicle joins moves start s log) (idle : start.activities = [])
    {first : Passage} (listed : first ∈ trail log) {action : Action}
    (begins : first.slot = .ready action) : ∃ later,
      (trail log).filter (·.spot = first.spot) = first :: later ∧
      (first :: later).IsChain Passage.Links ∧
      (later = [] → first.next.isSettled = false → s.isFinished = false) := by
  obtain ⟨whole, context, duration, slot, course, stands⟩ := h.whole idle listed
  obtain ⟨chain, -, ends⟩ := course.linked
  have member : first ∈ (trail log).filter (·.spot = first.spot) :=
    List.mem_filter.mpr ⟨listed, by simp⟩
  obtain ⟨early, later, split⟩ := List.append_of_mem member
  rw [split] at course chain ends
  -- Nothing leads back to where an action is still to begin.
  have none : early = [] := by
    by_contra some
    obtain ⟨-, -, link⟩ := List.isChain_append.mp chain
    have link : first.slot = (early.getLast some).next :=
      link _ (List.getLast?_eq_some_getLast some) first rfl
    have begun := (early.getLast some).slot.isBegun_step (early.getLast some).context
      (early.getLast some).duration (early.getLast some).world
    rw [← Passage.next, ← link, begins] at begun
    cases begun
  subst none
  refine ⟨later, split, chain, ?_⟩
  rintro rfl unsettled
  have same := ends first (by simp)
  exact (stands (same ▸ unsettled)).unfinished

end Schedule

end InputActions
