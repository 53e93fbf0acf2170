import InputActions.Proofs.Forgetting
import InputActions.Proofs.Registry
import InputActions.Proofs.Typing

/-!
# Payloads that stay valid

Once a payload has been read, its sources are registered without a conflict, and what the store has
then is known to the last source (`Validated.Commits`). No section of a session but a reset takes a
source away or changes its kind (`Schedule.Unfolds.keeps`), so at every later moment the payload is
read again with the same chain, and adds nothing (`Payload.stays_valid`).
-/
namespace InputActions

/-- What the registration of a payload, which denotes some sequences, makes of a store. -/
structure Validated.Commits (validated : Validated) (store : Store) (read : List Sequence)
    (next : Store) : Prop where
  committed : validated.commit store = (.ok (), next)
  names : validated.newSources.map (·.1) =
    ((read.map (·.id)).filter fun id => !store.contains id).eraseDups
  once : (validated.newSources.map (·.1)).Nodup
  keeps : ∀ (id : SourceId) (source : Source), store[id]? = some source → next[id]? = some source
  adds : ∀ sequence ∈ read, store[sequence.id]? = none →
    next[sequence.id]? = some (.fresh sequence.kind)
  others : ∀ id : SourceId, (∀ sequence ∈ read, sequence.id ≠ id) → next[id]? = store[id]?
  typed : ∀ action ∈ validated.chain.flatten, next.kind? action.id = some action.sourceKind

namespace Payload

/-- A payload that was read can be registered. -/
theorem commits {store : Store} {payload : Json} {read : List Sequence}
    (denoted : Grammar.Payload payload read) (agree : Grammar.Agree store read) :
    Validated.Commits ⟨Chain.ofSequences read, newSources store read⟩ store read
      (store.ensureAll (newSources store read)).2 := by
  obtain ⟨ok, registered⟩ := ensureAll_newSources agree
  have content := getElem?_ensureAll_newSources agree
  refine ⟨Prod.ext ok rfl, map_newSources store read, nodup_newSources store read,
    fun id source found => ?_, fun sequence listed absent => ?_, fun id other => ?_,
    fun action member => ?_⟩
  · rw [content, found, Option.some_or]
  · rw [content, absent, Option.none_or]
    have kind := registered sequence listed
    cases first : read.find? (·.id = sequence.id) with
    | none => exact absurd (decide_eq_true rfl) (List.find?_eq_none.mp first sequence listed)
    | some other =>
      -- All sequences of one name have the kind that is registered.
      rw [Store.kind?, content, absent, Option.none_or, first] at kind
      rw [Option.map_some, ← Option.some.inj kind, Source.kind_fresh]
  · have none : read.find? (·.id = id) = none := by simpa using other
    rw [content, none, Option.map_none, Option.or_none]
  · obtain ⟨sequence, listed, id, kind, -⟩ := denoted.typed member
    rw [id, kind]
    exact registered sequence listed

end Payload

namespace Schedule

/-- Unless everything is forgotten, the kinds of all sources stay. -/
theorem Unfolds.keeps {joins : Schedule → Request → Prop} {start s : Schedule} {log : List Notice}
    (h : Unfolds joins Retains start s log) :
    start.world.inputs.store.Keeps s.world.inputs.store := by
  induction h with
  | begins => exact fun _ _ known => known
  | join _ _ _ _ ih => exact ih
  | elapse _ _ _ ih => exact ih
  | @advance session world left activity right _ _ ready retains ih =>
    intro id kind known
    have turn := activity.step_turn session ready
    exact turn.kind? (isReset_of_retains retains ready) (ih id kind known)

end Schedule

/-- A payload that was read can be registered: the names that were missing get fresh sources of the
kinds of their sequences, no other source changes, and every action finds its source under its
kind. From then on, until everything is forgotten, the payload is read again with the same chain,
and adds nothing, so that the session is left as it is. -/
theorem Payload.stays_valid {store : Store} {payload : Json} {validated : Validated}
    (h : validate store payload = .ok validated) :
    ∃ read next, Grammar.Payload payload read ∧ validated.Commits store read next ∧
      ∀ joins start s log, Schedule.Unfolds joins Schedule.Retains start s log →
        start.world.inputs.store = next →
        validate s.world.inputs.store payload = .ok ⟨validated.chain, []⟩ ∧
          s.world.parse payload = (.ok validated.chain, s.world) := by
  obtain ⟨read, denoted, agree, rfl⟩ := validate_iff.mp h
  refine ⟨read, _, denoted, commits denoted agree, fun joins start s log unfolds begun => ?_⟩
  have registered := (ensureAll_newSources agree).2
  have known : ∀ sequence ∈ read, s.world.inputs.store.kind? sequence.id = some sequence.kind :=
    fun sequence listed => unfolds.keeps _ _ (begun ▸ registered sequence listed)
  have none : newSources s.world.inputs.store read = [] :=
    newSources_of_known fun sequence listed => Store.contains_iff.mpr ⟨_, known sequence listed⟩
  have again : validate s.world.inputs.store payload = .ok ⟨Chain.ofSequences read, []⟩ := by
    refine validate_iff.mpr ⟨read, denoted, ⟨?_, agree.others⟩, by rw [none]⟩
    intro sequence listed kind found
    exact Option.some.inj (found.symm.trans (known sequence listed))
  refine ⟨again, ?_⟩
  unfold World.parse
  rw [again]
  rfl

/-- The store that has the sources of a mouse that clicks and of a key, if they can be read. -/
def Store.ofClicks : Store :=
  match Payload.validate ∅ Payload.clicks with
  | .ok validated => (validated.commit ∅).2
  | .error _ => ∅

/-- A session with these sources, on a slow surface, asked to click. -/
def Schedule.rereading : Schedule :=
  let world := { World.initial slow with inputs := ⟨.ofClicks, .empty⟩ }
  join ⟨.ofConfig .standard, world, []⟩ 0 (.dispatch Payload.clicks none)

/-- While the key is down, the same payload is read again. -/
theorem Schedule.rereading_valid :
    (rereading.steps 8).world.inputs.Holds ⟨"keyboard"⟩ (.key "a") ∧
      ∃ validated, Payload.validate ∅ Payload.clicks = .ok validated ∧
        Payload.validate (rereading.steps 8).world.inputs.store Payload.clicks =
          .ok ⟨validated.chain, []⟩ := by
  refine ⟨by decide +kernel, ?_⟩
  obtain ⟨validated, read, -⟩ := Payload.clicks_adds
  obtain ⟨_, next, -, commits, valid⟩ := Payload.stays_valid read
  have store : Store.ofClicks = next := by
    rw [Store.ofClicks, read]
    exact congrArg Prod.snd commits.committed
  let world := { World.initial slow with inputs := ⟨.ofClicks, .empty⟩ }
  have begun : Unfolds Remembers (fun _ _ => True)
    ⟨.ofConfig .standard, world, []⟩ ⟨.ofConfig .standard, world, []⟩ [] := .begins
  have asked : Unfolds Remembers (fun _ _ => True) ⟨.ofConfig .standard, world, []⟩ rereading [] :=
    begun.join 0 (.dispatch Payload.clicks none) rfl
  have unfolds := asked.steps (fun _ _ => trivial) 8
  have retains := (unfolds.retains (not_resets_of_idle rfl)).1
  have again := valid _ _ _ _ retains store
  exact ⟨validated, read, again.1⟩

end InputActions
