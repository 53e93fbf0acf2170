import InputActions.Proofs.Reading
import InputActions.Proofs.Trigger
import InputActions.Session.Activity
import Mathlib.Data.List.Pairwise

/-!
# Registering what was read

A payload that was read can be registered: its sources agree with the store and with each other, so
no registration meets another kind (`Payload.ensureAll_newSources`). Afterwards every action of the
chain finds its source under the kind it needs (`World.parse_ok`), so registering the sources of the
chain once more, action by action, changes nothing (`World.perform_parsed`).
-/
namespace InputActions

namespace Store

theorem contains_iff {store : Store} {id : SourceId} :
    store.contains id = true ↔ ∃ kind, store.kind? id = some kind := by
  rw [Std.ExtTreeMap.contains_eq_isSome_getElem?, ← Option.isSome_iff_exists, kind?,
    Option.isSome_map]

theorem ensure_ok {store : Store} {id : SourceId} {kind : SourceKind}
    (agree : ∀ existing, store.kind? id = some existing → existing = kind) :
    ∃ next, store.ensure id kind = .ok next ∧
      ∀ other, next.kind? other = if other = id then some kind else store.kind? other := by
  unfold ensure
  rw [check_eq_ok_iff.mpr agree]
  refine ⟨_, rfl, fun other => ?_⟩
  split
  next present =>
    obtain ⟨existing, known⟩ := contains_iff.mp present
    split
    next same => rw [same, known, agree _ known]
    · rfl
  next => rw [kind?_put, Source.kind_fresh]

/-- Sources that agree with the store and with each other are registered. -/
theorem ensureAll_ok {store : Store} {sources : List (SourceId × SourceKind)}
    (agree : ∀ entry ∈ sources, ∀ kind, store.kind? entry.1 = some kind → kind = entry.2)
    (others : sources.Pairwise fun earlier later =>
      earlier.1 = later.1 → earlier.2 = later.2) :
    (store.ensureAll sources).1 = .ok () ∧
      ∀ entry ∈ sources, (store.ensureAll sources).2.kind? entry.1 = some entry.2 := by
  induction sources generalizing store with
  | nil => exact ⟨rfl, nofun⟩
  | cons entry sources ih =>
    obtain ⟨id, kind⟩ := entry
    obtain ⟨first, rest⟩ := List.forall_mem_cons.mp agree
    obtain ⟨apart, others⟩ := List.pairwise_cons.mp others
    obtain ⟨next, ensured, kinds⟩ := ensure_ok first
    -- The first may have a name in common with the rest, whose kind is then the same.
    have agree : ∀ entry ∈ sources, ∀ kind, next.kind? entry.1 = some kind → kind = entry.2 := by
      intro other member existing known
      rw [kinds] at known
      split at known
      next same =>
        cases known
        exact apart other member same.symm
      · exact rest other member existing known
    obtain ⟨ok, registered⟩ := ih agree others
    have known : next.kind? id = some kind := by rw [kinds, if_pos rfl]
    unfold ensureAll
    rw [ensured]
    exact ⟨ok, List.forall_mem_cons.mpr ⟨(Grows.ensureAll next sources).kind? known, registered⟩⟩

/-- Registering what is registered changes nothing. -/
theorem ensureAll_of_known {store : Store} {sources : List (SourceId × SourceKind)}
    (known : ∀ entry ∈ sources, store.kind? entry.1 = some entry.2) :
    store.ensureAll sources = (.ok (), store) := by
  induction sources with
  | nil => rfl
  | cons entry sources ih =>
    obtain ⟨id, kind⟩ := entry
    obtain ⟨first, rest⟩ := List.forall_mem_cons.mp known
    have same : store.ensure id kind = .ok store := by
      unfold ensure
      rw [check_eq_ok_iff.mpr fun existing found => Option.some.inj (found.symm.trans first),
        if_pos (contains_iff.mpr ⟨_, first⟩)]
      rfl
    unfold ensureAll
    rw [same]
    exact ih rest

end Store

namespace Payload

/-- The last sequence adds its source if the store lacks it and no sequence before has added it. -/
theorem newSources_concat (store : Store) (read : List Sequence) (last : Sequence) :
    newSources store (read ++ [last]) =
      if store.contains last.id || (newSources store read).any (·.1 == last.id)
      then newSources store read
      else newSources store read ++ [(last.id, last.kind)] := by
  rw [newSources, List.foldl_append, List.foldl_cons, List.foldl_nil, newSources]

/-- The sources that sequences add are among those they have, and whatever they have is added or
was there. -/
theorem newSources_sublist (store : Store) (read : List Sequence) :
    (newSources store read).Sublist (read.map fun sequence => (sequence.id, sequence.kind)) ∧
      ∀ sequence ∈ read, store.contains sequence.id = true ∨
        ∃ kind, (sequence.id, kind) ∈ newSources store read := by
  -- Sequences are added from the front, so what is left is the last of them.
  induction read using List.reverseRecOn with
  | nil => exact ⟨.refl _, nofun⟩
  | append_singleton read last ih =>
    obtain ⟨sublist, covered⟩ := ih
    rw [newSources_concat, List.map_append]
    generalize newSources store read = added at sublist covered ⊢
    split
    next there =>
      refine ⟨sublist.trans (List.sublist_append_left _ _), ?_⟩
      rw [List.forall_mem_append, List.forall_mem_singleton]
      refine ⟨covered, ?_⟩
      rcases Bool.or_eq_true_iff.mp there with known | new
      · exact Or.inl known
      · obtain ⟨entry, member, same⟩ := List.any_eq_true.mp new
        obtain ⟨id, kind⟩ := entry
        exact Or.inr ⟨kind, (beq_iff_eq.mp same) ▸ member⟩
    next =>
      refine ⟨sublist.append (.refl _), ?_⟩
      rw [List.forall_mem_append, List.forall_mem_singleton]
      refine ⟨fun sequence member => ?_, Or.inr ⟨last.kind, by simp⟩⟩
      rcases covered sequence member with known | ⟨kind, new⟩
      · exact Or.inl known
      · exact Or.inr ⟨kind, List.mem_append_left _ new⟩

end Payload

/-- Every gesture of an action is one of its source. -/
def Gesture.Suits (kind : SourceKind) : Gesture → Prop
  | .pause _ => True
  | .keyDown _ => kind = .key
  | .keyUp _ => kind = .key
  | .pointerDown _ => ∃ pointer, kind = .pointer pointer
  | .pointerUp _ => ∃ pointer, kind = .pointer pointer
  | .pointerMove .. => ∃ pointer, kind = .pointer pointer
  | .pointerCancel => True

/-- An action whose source is there under the kind it needs, and can make its gesture. -/
structure Action.Typed (store : Store) (action : Action) : Prop where
  known : store.kind? action.id = some action.sourceKind
  suits : action.gesture.Suits action.sourceKind

/-- Whatever is denoted is denoted by something. -/
theorem Grammar.exists_of_mem {α β : Type} {denotes : α → β → Prop} {values : List α}
    {read : List β} (each : List.Forall₂ denotes values read) {b : β} (member : b ∈ read) :
    ∃ a ∈ values, denotes a b := by
  induction each with
  | nil => cases member
  | cons first _ ih =>
    rcases List.mem_cons.mp member with rfl | later
    · exact ⟨_, List.mem_cons_self, first⟩
    · obtain ⟨a, listed, denoted⟩ := ih later
      exact ⟨a, List.mem_cons_of_mem _ listed, denoted⟩

/-- The actions of a sequence are for its source. -/
theorem Grammar.Sequence.typed {value : Json} {read : InputActions.Sequence}
    (h : Grammar.Sequence value read) {action : Action} (member : action ∈ read.actions) :
    action.id = read.id ∧ action.sourceKind = read.kind ∧
      action.gesture.Suits action.sourceKind := by
  cases h with
  | mk source named listed each =>
    obtain ⟨gesture, made, rfl⟩ := List.mem_map.mp member
    obtain ⟨item, -, denoted⟩ := Grammar.exists_of_mem each made
    cases source with
    | none => cases denoted; exact ⟨rfl, rfl, trivial⟩
    | key =>
      cases denoted with
      | pause => exact ⟨rfl, rfl, trivial⟩
      | _ => exact ⟨rfl, rfl, rfl⟩
    | pointer =>
      cases denoted with
      | pause => exact ⟨rfl, rfl, trivial⟩
      | _ => exact ⟨rfl, rfl, _, rfl⟩

/-- The actions of a chain are those of its sequences. -/
theorem Chain.Transposes.mem {chain : Chain} {sequences : List Sequence}
    (h : chain.Transposes sequences) {action : Action} (member : action ∈ chain.flatten) :
    ∃ sequence ∈ sequences, action ∈ sequence.actions := by
  obtain ⟨tick, listed, inside⟩ := List.mem_flatten.mp member
  obtain ⟨i, found⟩ := List.mem_iff_getElem?.mp listed
  have made := h.ticks i
  rw [found, Option.getD_some] at made
  rw [made] at inside
  obtain ⟨sequence, listed, here⟩ := List.mem_filterMap.mp inside
  exact ⟨sequence, listed, List.mem_of_getElem? here⟩

/-- The actions that a payload denotes are for the sources of its sequences. -/
theorem Grammar.Payload.typed {payload : Json} {read : List InputActions.Sequence}
    (h : Grammar.Payload payload read) {action : Action}
    (member : action ∈ (Chain.ofSequences read).flatten) :
    ∃ sequence ∈ read, action.id = sequence.id ∧ action.sourceKind = sequence.kind ∧
      action.gesture.Suits action.sourceKind := by
  obtain ⟨sequence, listed, made⟩ := (Chain.transposes_ofSequences read).mem member
  obtain ⟨values, -, each⟩ := Payload.payload_iff.mp h
  obtain ⟨value, -, one⟩ := Grammar.exists_of_mem each listed
  exact ⟨sequence, listed, one.typed made⟩

namespace Payload

/-- What was read is registered without a conflict, and then every sequence finds its source under
the kind it needs. -/
theorem ensureAll_newSources {store : Store} {read : List Sequence}
    (agree : Grammar.Agree store read) :
    (store.ensureAll (newSources store read)).1 = .ok () ∧
      ∀ sequence ∈ read, (store.ensureAll (newSources store read)).2.kind? sequence.id =
        some sequence.kind := by
  obtain ⟨sublist, covered⟩ := newSources_sublist store read
  have isRead : ∀ entry ∈ newSources store read, ∃ sequence ∈ read,
      sequence.id = entry.1 ∧ sequence.kind = entry.2 := by
    intro entry member
    obtain ⟨sequence, listed, rfl⟩ := List.mem_map.mp (sublist.subset member)
    exact ⟨sequence, listed, rfl, rfl⟩
  have known : ∀ entry ∈ newSources store read, ∀ kind, store.kind? entry.1 = some kind →
      kind = entry.2 := by
    intro entry member kind found
    obtain ⟨sequence, listed, id, same⟩ := isRead entry member
    rw [← same]
    exact agree.store sequence listed kind (id ▸ found)
  have apart : (read.map fun sequence => (sequence.id, sequence.kind)).Pairwise
      fun earlier later => earlier.1 = later.1 → earlier.2 = later.2 :=
    List.pairwise_map.mpr agree.others
  obtain ⟨ok, registered⟩ := Store.ensureAll_ok known (apart.sublist sublist)
  refine ⟨ok, fun sequence member => ?_⟩
  rcases covered sequence member with there | ⟨kind, new⟩
  -- A source that was there has kept its kind, which is that of the sequence.
  · obtain ⟨kind, old⟩ := Store.contains_iff.mp there
    rw [(Store.Grows.ensureAll store _).kind? old, agree.store sequence member _ old]
  -- A source that was added has the kind of a sequence of its name, and these are all the same.
  · obtain ⟨other, listed, id, rfl⟩ := isRead _ new
    rw [registered _ new]
    have symmetric : Std.Symm fun earlier later : Sequence =>
        earlier.id = later.id → earlier.kind = later.kind := ⟨fun _ _ h same => (h same.symm).symm⟩
    have same := List.Pairwise.forall_of_forall (fun _ _ _ => rfl) agree.others listed member
    exact congrArg some (same id)

end Payload

namespace Store

/-- Registering the sources of typed actions changes nothing. -/
theorem ensureAll_sourcesOf {store : Store} {chain : Chain}
    (typed : ∀ action ∈ chain.flatten, action.Typed store) :
    store.ensureAll (World.sourcesOf chain) = (.ok (), store) := by
  refine ensureAll_of_known fun entry member => ?_
  obtain ⟨action, listed, rfl⟩ := List.mem_map.mp member
  exact (typed action listed).known

end Store

namespace World

/-- A payload that is refused leaves the world as it was. -/
theorem parse_error {world next : World} {payload : Json} {error : ActionError}
    (h : world.parse payload = (.error error, next)) : next = world := by
  unfold parse at h
  split at h
  · cases h
    rfl
  next validated accepted =>
    obtain ⟨read, -, agree, rfl⟩ := Payload.validate_iff.mp accepted
    have ok := (Payload.ensureAll_newSources agree).1
    dsimp only [Validated.commit] at h
    rw [ok] at h
    cases h

/-- A payload that is accepted leaves its sources registered, and its actions typed. -/
theorem parse_ok {world next : World} {payload : Json} {chain : Chain}
    (h : world.parse payload = (.ok chain, next)) :
    ∀ action ∈ chain.flatten, action.Typed next.inputs.store := by
  unfold parse at h
  split at h
  · cases h
  next validated accepted =>
    obtain ⟨read, denoted, agree, rfl⟩ := Payload.validate_iff.mp accepted
    obtain ⟨ok, registered⟩ := Payload.ensureAll_newSources agree
    dsimp only [Validated.commit] at h
    rw [ok] at h
    cases h
    intro action member
    obtain ⟨sequence, listed, id, kind, suits⟩ := denoted.typed member
    exact ⟨by rw [id, kind]; exact registered sequence listed, suits⟩

/-- Once a payload is accepted, registering its sources again changes nothing, and its chain
begins. -/
theorem perform_parsed {world next : World} {payload : Json} {chain : Chain}
    (h : world.parse payload = (.ok chain, next)) (context : Context) :
    next.inputs.store.ensureAll (sourcesOf chain) = (.ok (), next.inputs.store) ∧
      next.perform context chain = (next, .ofTicks context next.now chain) := by
  have same := Store.ensureAll_sourcesOf (parse_ok h)
  refine ⟨same, ?_⟩
  unfold perform
  rw [same]
  rfl

end World

end InputActions
