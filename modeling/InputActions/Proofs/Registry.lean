import InputActions.Proofs.Registering
import Mathlib.Data.List.Nodup

/-!
# What registration leaves in the store

Sources are registered one after the other, up to the first that the store has under another kind.
`Store.ensureAll_cases` says where that is. What comes before it is there afterwards, and nothing
else: each name has the source that it had, or else a fresh one of the first kind that was asked for
it (`Store.getElem?_ensureAll_of_ok`).

A payload adds the sources of its sequences that the store lacks, each where it appears first
(`Payload.map_newSources`), and a later payload those that are still missing
(`Payload.newSources_append`).
-/
namespace InputActions

namespace Store

/-- A missing name is registered, and one that is there has to have the kind that is asked for. -/
theorem ensure_eq (store : Store) (id : SourceId) (kind : SourceKind) :
    store.ensure id kind = match store.kind? id with
      | none => .ok (store.insert id (.fresh kind))
      | some existing =>
        if existing = kind then .ok store else .error (.kindConflict id kind existing) := by
  have there : store.contains id = (store.kind? id).isSome := by
    rw [Std.ExtTreeMap.contains_eq_isSome_getElem?, kind?, Option.isSome_map]
  unfold ensure check
  rw [there]
  cases store.kind? id with
  | none => rfl
  | some existing =>
    dsimp only
    split <;> rfl

/-- The source that a list of sources gives to a name: a fresh one of the first kind. -/
def fresh? (sources : List (SourceId × SourceKind)) (id : SourceId) : Option Source :=
  (sources.find? (·.1 = id)).map fun entry => .fresh entry.2

theorem fresh?_cons (entry : SourceId × SourceKind) (sources : List (SourceId × SourceKind))
    (id : SourceId) : fresh? (entry :: sources) id =
      if id = entry.1 then some (.fresh entry.2) else fresh? sources id := by
  rw [fresh?, List.find?_cons]
  by_cases same : id = entry.1
  · simp [same]
  · simp [same, Ne.symm same, fresh?]

theorem fresh?_ne_none_iff {sources : List (SourceId × SourceKind)} {id : SourceId} :
    fresh? sources id ≠ none ↔ ∃ entry ∈ sources, entry.1 = id := by
  simp [fresh?]

variable {store next : Store} {id : SourceId} {kind : SourceKind}
  {sources : List (SourceId × SourceKind)}

theorem ensure_eq_error_iff {fault : InvalidArgument} :
    store.ensure id kind = .error fault ↔ ∃ existing, store.kind? id = some existing ∧
      existing ≠ kind ∧ fault = .kindConflict id kind existing := by
  rw [ensure_eq]
  cases store.kind? id with
  | none => simp
  | some existing =>
    by_cases same : existing = kind
    · simp [same]
    · simp only [same, if_false, Except.error.injEq, Option.some.injEq, exists_eq_left', ne_eq,
        not_false_eq_true, true_and]
      exact eq_comm

/-- Registering a name leaves its source, or gives it a fresh one. -/
theorem getElem?_of_ensure (h : store.ensure id kind = .ok next) (other : SourceId) :
    next[other]? = store[other]?.or (if other = id then some (.fresh kind) else none) := by
  rw [ensure_eq] at h
  cases known : store.kind? id with
  | none =>
    have absent : store[id]? = none := Option.map_eq_none_iff.mp known
    rw [known] at h
    cases h
    rw [getElem?_put]
    by_cases same : other = id
    · rw [if_pos same, if_pos same, same, absent, Option.none_or]
    · rw [if_neg same, if_neg same, Option.or_none]
  | some existing =>
    obtain ⟨source, found, -⟩ := Option.map_eq_some_iff.mp known
    simp only [known] at h
    split at h
    · cases h
      by_cases same : other = id
      · rw [same, found, Option.some_or]
      · rw [if_neg same, Option.or_none]
    · cases h

theorem kind?_of_ensure (h : store.ensure id kind = .ok next) : next.kind? id = some kind := by
  rw [kind?, getElem?_of_ensure h, if_pos rfl]
  cases found : store[id]? with
  | none => rw [Option.none_or, Option.map_some, Source.kind_fresh]
  | some source =>
    -- The name was there, with this kind because it was not refused.
    rw [ensure_eq, kind?, found] at h
    dsimp only [Option.map_some] at h
    split at h
    next same => rw [Option.some_or, Option.map_some, same]
    · cases h

theorem ensureAll_cons (h : store.ensure id kind = .ok next)
    (sources : List (SourceId × SourceKind)) :
    store.ensureAll ((id, kind) :: sources) = next.ensureAll sources := by
  rw [ensureAll, h]

/-- The first of sources that are all registered is registered. -/
theorem ensure_of_ensureAll_ok (ok : (store.ensureAll ((id, kind) :: sources)).1 = .ok ()) :
    ∃ next, store.ensure id kind = .ok next := by
  cases ensured : store.ensure id kind with
  | error fault => simp [ensureAll, ensured] at ok
  | ok next => exact ⟨next, rfl⟩

/-- Every name has the source that it had, or else the one that it was given. -/
theorem getElem?_ensureAll_of_ok (ok : (store.ensureAll sources).1 = .ok ()) (id : SourceId) :
    (store.ensureAll sources).2[id]? = store[id]?.or (fresh? sources id) := by
  induction sources generalizing store with
  | nil => exact (Option.or_none ..).symm
  | cons entry sources ih =>
    obtain ⟨name, kind⟩ := entry
    obtain ⟨next, ensured⟩ := ensure_of_ensureAll_ok ok
    rw [ensureAll_cons ensured] at ok ⊢
    rw [ih ok, getElem?_of_ensure ensured, Option.or_assoc, fresh?_cons]
    split
    · rw [Option.some_or]
    · rw [Option.none_or]

/-- Every source that was registered is there under its kind. -/
theorem known_of_ensureAll_ok (ok : (store.ensureAll sources).1 = .ok ()) :
    ∀ entry ∈ sources, (store.ensureAll sources).2.kind? entry.1 = some entry.2 := by
  induction sources generalizing store with
  | nil => exact List.forall_mem_nil _
  | cons entry sources ih =>
    obtain ⟨name, kind⟩ := entry
    obtain ⟨next, ensured⟩ := ensure_of_ensureAll_ok ok
    rw [ensureAll_cons ensured] at ok ⊢
    have first := (Grows.ensureAll next sources).kind? (kind?_of_ensure ensured)
    exact List.forall_mem_cons.mpr ⟨first, ih ok⟩

theorem contains_ensureAll_of_ok (ok : (store.ensureAll sources).1 = .ok ()) (id : SourceId) :
    (store.ensureAll sources).2.contains id =
      (store.contains id || sources.any (·.1 == id)) := by
  rw [Std.ExtTreeMap.contains_eq_isSome_getElem?, getElem?_ensureAll_of_ok ok, Option.isSome_or,
    ← Std.ExtTreeMap.contains_eq_isSome_getElem?, fresh?, Option.isSome_map]
  congr 1
  rw [Bool.eq_iff_iff, List.find?_isSome, List.any_eq_true]
  simp only [beq_iff_eq, decide_eq_true_iff]

/-- All sources are registered, or all before the first that has another kind by then. -/
theorem ensureAll_cases (store : Store) (sources : List (SourceId × SourceKind)) :
    (store.ensureAll sources).1 = .ok () ∨
      ∃ before id wanted existing later, sources = before ++ (id, wanted) :: later ∧
        (store.ensureAll before).1 = .ok () ∧
        (store.ensureAll before).2.kind? id = some existing ∧ existing ≠ wanted ∧
        store.ensureAll sources =
          (.error (.kindConflict id wanted existing), (store.ensureAll before).2) := by
  induction sources generalizing store with
  | nil => exact Or.inl rfl
  | cons entry sources ih =>
    obtain ⟨name, kind⟩ := entry
    cases ensured : store.ensure name kind with
    | error fault =>
      obtain ⟨existing, known, other, rfl⟩ := ensure_eq_error_iff.mp ensured
      refine Or.inr ⟨[], name, kind, existing, sources, rfl, rfl, known, other, ?_⟩
      simp [ensureAll, ensured]
    | ok next =>
      rcases ih next with ok | ⟨before, id, wanted, existing, later, rfl, ok, known, other, stops⟩
      · exact Or.inl (by rw [ensureAll_cons ensured, ok])
      · refine Or.inr ⟨(name, kind) :: before, id, wanted, existing, later, rfl, ?_⟩
        rw [ensureAll_cons ensured, ensureAll_cons ensured]
        exact ⟨ok, known, other, stops⟩

end Store

namespace Payload

/-- A name is added with the kind of its first sequence, unless the store has it. -/
theorem find?_newSources (store : Store) (read : List Sequence) (id : SourceId) :
    (newSources store read).find? (·.1 = id) = if store.contains id then none
      else (read.find? (·.id = id)).map fun sequence => (sequence.id, sequence.kind) := by
  induction read using List.reverseRecOn with
  | nil => simp [newSources]
  | append_singleton read last ih =>
    have any : (newSources store read).any (·.1 == last.id) =
        ((newSources store read).find? (·.1 = last.id)).isSome := by
      rw [Bool.eq_iff_iff, List.any_eq_true, List.find?_isSome]
      simp only [beq_iff_eq, decide_eq_true_iff]
    rw [newSources_concat, any, List.find?_append]
    generalize newSources store read = added at ih ⊢
    by_cases same : last.id = id
    · subst same
      rw [ih]
      generalize store.contains last.id = there at ih ⊢
      cases there with
      | true => simpa using ih
      | false =>
        cases found : read.find? (·.id = last.id) with
        | none =>
          rw [found] at ih
          have one : added.find? (·.1 = last.id) = none := ih
          simp only [Bool.false_eq_true, if_false, Option.map_none, Option.isSome_none,
            Bool.or_false, List.find?_append, one, Option.none_or]
          simp
        | some first => simpa [found] using ih
    -- The last sequence has another name, so it neither adds this one nor is found for it.
    · split <;> simp [ih, same]

/-- The names that are added are those that the store lacks, each where it appears first. -/
theorem map_newSources (store : Store) (read : List Sequence) :
    (newSources store read).map (·.1) =
      ((read.map (·.id)).filter fun id => !store.contains id).eraseDups := by
  induction read using List.reverseRecOn with
  | nil => rfl
  | append_singleton read last ih =>
    have any : (newSources store read).any (·.1 == last.id) =
        decide (last.id ∈ (read.map (·.id)).filter fun id => !store.contains id) := by
      rw [Bool.eq_iff_iff, List.any_eq_true, decide_eq_true_iff, ← List.mem_eraseDups, ← ih,
        List.mem_map]
      simp only [beq_iff_eq]
    rw [newSources_concat, any, List.map_append, List.filter_append, List.eraseDups_append, ← ih]
    generalize (read.map (·.id)).filter _ = missing
    cases there : store.contains last.id with
    | true => simp [there]
    | false =>
      by_cases earlier : last.id ∈ missing
      · simp [there, earlier, List.removeAll]
      · simp [there, earlier, List.removeAll, List.eraseDups_cons]

/-- No name is added twice. -/
theorem nodup_newSources (store : Store) (read : List Sequence) :
    ((newSources store read).map (·.1)).Nodup := by
  induction read using List.reverseRecOn with
  | nil => exact List.nodup_nil
  | append_singleton read last ih =>
    rw [newSources_concat]
    split
    · exact ih
    next new =>
      have unused : last.id ∉ (newSources store read).map (·.1) := by
        intro used
        obtain ⟨entry, member, same⟩ := List.mem_map.mp used
        have found : (newSources store read).any (·.1 == last.id) = true :=
          List.any_eq_true.mpr ⟨entry, member, beq_iff_eq.mpr same⟩
        simp [found] at new
      rw [List.map_append, List.map_singleton, ← List.concat_eq_append]
      exact List.Nodup.concat unused ih

/-- If the store has all names there is nothing to add. -/
theorem newSources_of_known {store : Store} {read : List Sequence}
    (known : ∀ sequence ∈ read, store.contains sequence.id = true) :
    newSources store read = [] := by
  have missing : ((read.map (·.id)).filter fun id => !store.contains id) = [] := by
    rw [List.filter_eq_nil_iff]
    intro id member
    obtain ⟨sequence, listed, rfl⟩ := List.mem_map.mp member
    simp [known sequence listed]
  have names := map_newSources store read
  rw [missing] at names
  exact List.map_eq_nil_iff.mp names

/-- Later sequences add what neither the store has nor the earlier ones add. -/
theorem newSources_append {store next : Store} {first : List Sequence}
    (contains : ∀ id, next.contains id =
      (store.contains id || (newSources store first).any (·.1 == id))) (second : List Sequence) :
    newSources store (first ++ second) = newSources store first ++ newSources next second := by
  induction second using List.reverseRecOn with
  | nil => simp [newSources]
  | append_singleton second last ih =>
    rw [← List.append_assoc, newSources_concat, newSources_concat, ih, contains, List.any_append,
      Bool.or_assoc]
    split
    · rfl
    · rw [List.append_assoc]

/-- Registering what was read leaves the sources that were there, and adds a fresh one for each name
that was missing. -/
theorem getElem?_ensureAll_newSources {store : Store} {read : List Sequence}
    (agree : Grammar.Agree store read) (id : SourceId) :
    (store.ensureAll (newSources store read)).2[id]? =
      store[id]?.or ((read.find? (·.id = id)).map fun sequence => .fresh sequence.kind) := by
  rw [Store.getElem?_ensureAll_of_ok (ensureAll_newSources agree).1, Store.fresh?,
    find?_newSources]
  cases found : store[id]? with
  | some source => rw [Option.some_or, Option.some_or]
  | none =>
    have absent : store.contains id = false := by
      rw [Std.ExtTreeMap.contains_eq_isSome_getElem?, found, Option.isSome_none]
    rw [if_neg (by simp [absent]), Option.map_map]
    rfl

/-- Then each sequence finds its kind, and other names have theirs. -/
theorem kind?_ensureAll_newSources {store : Store} {read : List Sequence}
    (agree : Grammar.Agree store read) (id : SourceId) :
    (store.ensureAll (newSources store read)).2.kind? id =
      (store.kind? id).or ((read.find? (·.id = id)).map (·.kind)) := by
  rw [Store.kind?, getElem?_ensureAll_newSources agree, Option.map_or, Option.map_map]
  simp only [Function.comp_def, Source.kind_fresh]
  rfl

theorem exists_adds {store : Store} {payload : Json} {sources : List (SourceId × SourceKind)}
    (h : (validate store payload).toOption.map Validated.newSources = some sources) :
    ∃ validated, validate store payload = .ok validated ∧ validated.newSources = sources := by
  cases read : validate store payload with
  | error error =>
    rw [read] at h
    cases h
  | ok validated =>
    rw [read] at h
    exact ⟨validated, rfl, Option.some.inj h⟩

/-- The payload of a click and a key adds both sources, the mouse first. -/
theorem clicks_adds : ∃ validated, validate ∅ clicks = .ok validated ∧
    validated.newSources = [(⟨"mouse"⟩, .pointer .mouse), (⟨"keyboard"⟩, .key)] :=
  exists_adds (by decide +kernel)

end Payload

end InputActions
