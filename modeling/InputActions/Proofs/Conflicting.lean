import InputActions.Proofs.Registry

/-!
# What a conflict leaves behind

A chain is refused if one of its actions needs a source under another kind than the one it has, and
so are the sources of a payload when they are registered later than they were read. The sources
before the conflict have been registered by then, and stay: `Store.Stops` says what the store has
afterwards. So a refusal changes nothing exactly if all names before the conflict were there
(`World.refused_registers`).
-/
namespace InputActions

/-- Registration that stops at a conflict: the sources before it are there with their kinds, fresh
if they were missing, and the next one is there with another kind than it should have. -/
structure Store.Stops (store : Store) (sources : List (SourceId × SourceKind))
    (fault : InvalidArgument) (before : List (SourceId × SourceKind)) (next : Store) : Prop where
  conflict : ∃ id wanted existing later, sources = before ++ (id, wanted) :: later ∧
    next.kind? id = some existing ∧ existing ≠ wanted ∧
    fault = .kindConflict id wanted existing
  known : ∀ entry ∈ before, next.kind? entry.1 = some entry.2
  content : ∀ id : SourceId, next[id]? = store[id]?.or (Store.fresh? before id)

namespace Store

variable {store next : Store} {sources before : List (SourceId × SourceKind)}
  {fault : InvalidArgument}

/-- A registration that fails stops at a conflict. -/
theorem stops_of_error (h : store.ensureAll sources = (.error fault, next)) :
    ∃ before, store.Stops sources fault before next := by
  rcases ensureAll_cases store sources with
    ok | ⟨before, id, wanted, existing, later, rfl, ok, known, other, stops⟩
  · rw [h] at ok
    cases ok
  · rw [h] at stops
    cases stops
    exact ⟨before, ⟨_, _, _, _, rfl, known, other, rfl⟩, known_of_ensureAll_ok ok,
      getElem?_ensureAll_of_ok ok⟩

/-- The store is left as it was if there was nothing to register before the conflict. -/
theorem Stops.unchanged_iff (h : store.Stops sources fault before next) :
    next = store ↔ ∀ entry ∈ before, store.contains entry.1 = true := by
  constructor
  · rintro rfl entry member
    exact contains_iff.mpr ⟨_, h.known entry member⟩
  · intro there
    apply Std.ExtTreeMap.ext_getElem?
    intro id
    rw [h.content]
    cases found : store[id]? with
    | some source => rw [Option.some_or]
    | none =>
      -- A name before the conflict is in the store, so this is none of them.
      rw [Option.none_or]
      by_contra given
      obtain ⟨entry, member, rfl⟩ := fresh?_ne_none_iff.mp given
      have present := there entry member
      rw [Std.ExtTreeMap.contains_eq_isSome_getElem?, found] at present
      cases present

/-- A missing name is no conflict, so the first source is registered if it is missing. -/
theorem Stops.mem_of_missing {entry : SourceId × SourceKind}
    (h : store.Stops (entry :: sources) fault before next) (missing : store[entry.1]? = none) :
    entry ∈ before := by
  obtain ⟨id, wanted, existing, later, whole, known, -, -⟩ := h.conflict
  cases before with
  | nil =>
    obtain ⟨rfl, -⟩ := List.cons.inj whole
    rw [kind?, h.content, missing] at known
    cases known
  | cons first rest =>
    obtain ⟨rfl, -⟩ := List.cons.inj whole
    exact List.mem_cons_self

theorem exists_error (refused : (store.ensureAll sources).1.toOption = none) :
    ∃ fault next, store.ensureAll sources = (.error fault, next) := by
  cases registered : store.ensureAll sources with
  | mk result next =>
    rw [registered] at refused
    cases result with
    | error fault => exact ⟨fault, next, rfl⟩
    | ok _ => cases refused

end Store

/-- A chain is refused at once exactly if its sources cannot be registered, and then nothing but
the store is touched. -/
theorem World.start_perform_error_iff {world next : World} {session : Session} {chain : Chain}
    {mode : Option CenterMode} {time : Nat} {error : ActionError} :
    world.start session (.perform chain mode) = (next, .finished time (.result (.error error))) ↔
      ∃ fault store, world.inputs.store.ensureAll (sourcesOf chain) = (.error fault, store) ∧
        next = world.withStore store ∧ time = world.now ∧ error = .invalidArgument fault := by
  cases registered : world.inputs.store.ensureAll (sourcesOf chain) with
  | mk result store =>
    simp only [start, perform, registered]
    cases result with
    | error fault =>
      constructor
      · rintro ⟨⟩
        exact ⟨fault, store, rfl, rfl, rfl, rfl⟩
      · rintro ⟨_, _, ⟨⟩, rfl, rfl, rfl⟩
        rfl
    | ok _ =>
      constructor
      -- A chain whose sources are registered begins, or is over already.
      · intro started
        obtain ⟨-, answered⟩ := Prod.mk.inj started
        cases chain <;> cases answered
      · rintro ⟨_, _, ⟨⟩, -⟩

/-- A chain that is refused leaves the sources before the first conflict registered, and so does a
payload whose sources cannot be registered. Nothing else changes, and so nothing at all exactly if
all names before the conflict were in the store. -/
theorem World.refused_registers (world : World) (session : Session) (chain : Chain)
    (mode : Option CenterMode) (validated : Validated) (store : Store) :
    (∀ next time error, world.start session (.perform chain mode) =
        (next, .finished time (.result (.error error))) →
      next.inputs.pending = world.inputs.pending ∧ next.host = world.host ∧
      ∃ fault before, error = .invalidArgument fault ∧
        world.inputs.store.Stops (sourcesOf chain) fault before next.inputs.store ∧
        (next.inputs.store = world.inputs.store ↔
          ∀ entry ∈ before, world.inputs.store.contains entry.1 = true)) ∧
    ∀ fault next, validated.commit store = (.error fault, next) →
      ∃ before, store.Stops validated.newSources fault before next ∧
        (next = store ↔ ∀ entry ∈ before, store.contains entry.1 = true) := by
  constructor
  · intro next time error h
    obtain ⟨fault, store, stopped, rfl, -, rfl⟩ := start_perform_error_iff.mp h
    obtain ⟨before, stops⟩ := Store.stops_of_error stopped
    exact ⟨rfl, rfl, fault, before, rfl, stops, stops.unchanged_iff⟩
  · intro fault next h
    obtain ⟨before, stops⟩ := Store.stops_of_error h
    exact ⟨before, stops, stops.unchanged_iff⟩

/-- A tick that needs a name as a key and then as a mouse, with another key in between. -/
def Chain.mixed : Chain :=
  [[⟨⟨"a"⟩, .key, none, .pause none⟩, ⟨⟨"b"⟩, .key, none, .pause none⟩,
    ⟨⟨"a"⟩, .pointer, none, .pause none⟩]]

/-- A store in which the keyboard of `Payload.clicks` is no key. -/
def Store.keyless : Store := (∅ : Store).insert ⟨"keyboard"⟩ (.fresh .none)

/-- A fresh session that refuses the chain has its keys from then on. The store that refuses the
sources of the payload has its mouse from then on, which comes before the keyboard. -/
theorem World.mixed_registers :
    let world := World.initial (.prompt ⟨100, 100⟩)
    (∃ next time error, world.start (.ofConfig .standard) (.perform .mixed none) =
        (next, .finished time (.result (.error error))) ∧
      next.inputs.store ≠ world.inputs.store) ∧
    ∃ validated fault next, Payload.validate ∅ Payload.clicks = .ok validated ∧
      validated.commit .keyless = (.error fault, next) ∧ next ≠ .keyless := by
  intro world
  obtain ⟨validated, read, sources⟩ := Payload.clicks_adds
  obtain ⟨chains, commits⟩ :=
    refused_registers world (.ofConfig .standard) .mixed none validated .keyless
  constructor
  · obtain ⟨fault, store, stopped⟩ : ∃ fault store,
        world.inputs.store.ensureAll (sourcesOf .mixed) = (.error fault, store) :=
      Store.exists_error (by decide +kernel)
    have started : world.start (.ofConfig .standard) (.perform .mixed none) =
        (world.withStore store,
          .finished world.now (.result (.error (.invalidArgument fault)))) :=
      start_perform_error_iff.mpr ⟨fault, store, stopped, rfl, rfl, rfl⟩
    obtain ⟨-, -, _, before, -, stops, same⟩ := chains _ _ _ started
    refine ⟨_, _, _, started, fun equal => ?_⟩
    have there := same.mp equal _ (stops.mem_of_missing (by decide +kernel))
    exact absurd there (by decide +kernel)
  · obtain ⟨fault, next, committed⟩ : ∃ fault next,
        validated.commit .keyless = (.error fault, next) := by
      rw [Validated.commit, sources]
      exact Store.exists_error (by decide +kernel)
    obtain ⟨before, stops, same⟩ := commits _ _ committed
    rw [sources] at stops
    refine ⟨validated, fault, next, read, committed, fun equal => ?_⟩
    have there := same.mp equal _ (stops.mem_of_missing (by decide +kernel))
    exact absurd there (by decide +kernel)

end InputActions
