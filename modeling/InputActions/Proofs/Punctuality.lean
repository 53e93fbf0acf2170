import InputActions.Proofs.Resuming
import InputActions.Proofs.Staying

/-!
# Punctual schedules

A schedule is punctual if its clock waits for whoever is ready and does not pass over an instant
that is awaited: `Schedule.Punctual`. A run is (`Schedule.step_punctual`). On a surface that answers
at once, which it keeps doing unless its delays are changed (`Schedule.Chronicle.isPrompt`), nobody
is kept waiting then.
-/
namespace InputActions

/-! ### Delays -/

/-- Whether a surface answers at once. -/
def Host.IsPrompt (host : Host) : Prop :=
  ∀ tally now, host.injectionDelay tally now = 0 ∧ host.geometryDelay tally now = 0

theorem Host.isPrompt_prompt (viewport : Viewport) : (Host.prompt viewport).IsPrompt :=
  fun _ _ => ⟨rfl, rfl⟩

theorem Host.IsPrompt.of_surface {host next : Host} (h : host.IsPrompt)
    (same : next.surface = host.surface) : next.IsPrompt := fun tally now => by
  obtain ⟨injection, geometry⟩ := h tally now
  exact ⟨(congrFun (congrFun (congrArg Host.injectionDelay same :) tally) now).trans injection,
    (congrFun (congrFun (congrArg Host.geometryDelay same :) tally) now).trans geometry⟩

/-- Whether a request changes how long the surface takes to answer. -/
def Request.delays : Request → Bool
  | .adjust (.delays ..) => true
  | _ => false

/-- Whether an activity is about to change how long the surface takes to answer. -/
def Activity.delays : Activity → Bool
  | .planned _ request => request.delays
  | _ => false

theorem Activity.step_isPrompt {activity : Activity} (session : Session) {world : World}
    (ready : activity.isReady world.now = true) (kept : activity.delays = false)
    (prompt : world.host.IsPrompt) : (activity.step session world).1.host.IsPrompt := by
  cases begun : activity.isPlanned with
  | true =>
    cases activity with
    | planned start request =>
      cases request with
      | adjust change => cases change <;> first | exact prompt | cases kept
      | _ => exact Eq.mpr (congrArg Host.IsPrompt (world.host_start session nofun)) prompt
    | _ => cases begun
  | false =>
    rcases activity.step_cases session ready begun with ⟨same, -⟩ | ⟨slot, -, context, duration, h⟩
    · rwa [same]
    · rw [h.2.1]
      exact prompt.of_surface (slot.step_surface context duration world)

/-- What has begun changes no more delays. -/
theorem Activity.delays_of_begun {activity : Activity} (begun : activity.isPlanned = false) :
    activity.delays = false := by
  cases activity <;> first | rfl | cases begun

namespace Schedule

/-- A surface that answers at once does so at every section, if nobody changes its delays. -/
theorem Chronicle.isPrompt {joins : Schedule → Request → Prop}
    {moves : Schedule → Schedule → Prop} {start s : Schedule} {log : List Advance}
    (h : Chronicle joins moves start s log) (idle : start.activities = [])
    (kept : ∀ s request, joins s request → request.delays = false)
    (prompt : start.world.host.IsPrompt) :
    s.world.host.IsPrompt ∧ (∀ activity ∈ s.activities, activity.delays = false) ∧
      ∀ passage ∈ trail log, passage.world.host.IsPrompt := by
  induction h with
  | begins => exact ⟨prompt, by simp [idle], by simp [trail]⟩
  | join _ instant request allowed ih =>
    obtain ⟨answers, quiet, trailed⟩ := ih
    exact ⟨answers, List.forall_mem_append.mpr
      ⟨quiet, List.forall_mem_singleton.mpr (kept _ request allowed)⟩, trailed⟩
  | elapse _ _ _ ih => exact ih
  | @advance session world left activity right log before ready _ ih =>
    obtain ⟨answers, quiet, trailed⟩ := ih
    obtain ⟨earlier, later⟩ := List.forall_mem_append.mp quiet
    obtain ⟨own, others⟩ := List.forall_mem_cons.mp later
    refine ⟨activity.step_isPrompt session ready own answers, ?_, ?_⟩
    · exact List.forall_mem_append.mpr ⟨earlier, List.forall_mem_cons.mpr
        ⟨Activity.delays_of_begun (activity.isPlanned_step session ready), others⟩⟩
    · rw [trail_concat]
      refine List.forall_mem_append.mpr ⟨trailed, fun passage passes => ?_⟩
      obtain ⟨-, -, found, -⟩ := Activity.step_of_passage (Option.mem_toList.mp passes) session
      rwa [found]

/-! ### The clock -/

/-- The clock moves only when nobody is ready, and not beyond the first instant that is awaited. -/
def Punctual (s next : Schedule) : Prop :=
  next.world.now = s.world.now ∨ s.isReady = false ∧
    ∃ instant, nextInstant? s.activities = some instant ∧ next.world.now ≤ instant

theorem stepFirst_now {session : Session} {world next : World} {activities rest : List Activity}
    (ran : stepFirst session world activities = some (next, rest)) : next.now = world.now := by
  induction activities generalizing rest with
  | nil => cases ran
  | cons activity activities ih =>
    unfold stepFirst at ran
    split at ran
    · cases ran
      exact activity.step_now session world
    · obtain ⟨⟨_, _⟩, found, same⟩ := Option.map_eq_some_iff.mp ran
      cases same
      exact ih found

/-- The steps of a schedule are punctual. -/
theorem step_punctual (s : Schedule) : s.Punctual s.step := by
  obtain ⟨session, world, activities⟩ := s
  unfold step
  split
  next ran => exact Or.inl (stepFirst_now ran)
  next none =>
    have idle := (stepFirst_eq_none_iff session world activities).mp none
    split
    next instant found =>
      refine Or.inr ⟨idle, instant, found, max_le ?_ (le_refl instant)⟩
      by_contra early
      have ready := isReady_of_nextInstant? found (Nat.le_of_not_le early)
      cases ready.symm.trans idle
    · exact Or.inl rfl

/-- The clock does not pass over the end of a wait. -/
theorem Stands.nextInstant?_le {s : Schedule} {spot : Spot} {wake : Nat} {wait : Wait}
    (h : s.Stands spot (.waiting wake wait)) :
    ∃ instant, nextInstant? s.activities = some instant ∧ instant ≤ wake := by
  have least {items : List Nat} {item : Nat} (member : item ∈ items) :
      ∃ first, items.min? = some first ∧ first ≤ item :=
    ⟨_, (Option.some_get (List.isSome_min?_of_mem member)).symm, List.min?_get_le_of_mem member⟩
  obtain ⟨activity, found, stands⟩ := h
  have wakes : ∃ first, activity.wake? = some first ∧ first ≤ wake := by
    cases activity with
    | ticking context duration slots rest =>
      refine least (List.mem_filterMap.mpr ⟨.waiting wake wait, ?_, rfl⟩)
      exact List.mem_of_getElem? stands.2
    | releasing context entry slot rest =>
      obtain ⟨-, -, rfl⟩ := stands
      exact ⟨wake, rfl, le_refl wake⟩
    | _ => exact stands.elim
  obtain ⟨first, wakes, early⟩ := wakes
  obtain ⟨instant, next, earlier⟩ :=
    least (List.mem_filterMap.mpr ⟨activity, List.mem_of_getElem? found, wakes⟩)
  exact ⟨instant, next, earlier.trans early⟩

end Schedule

end InputActions
