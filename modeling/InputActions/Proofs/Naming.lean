import InputActions.Proofs.Registering

/-!
# The names that a request uses

A dispatch says which sources it uses, by the names in its payload or in the actions of its chain.
Reading and registering look at these names and at no others: they come to the same on stores that
agree on them (`World.parse_agree`, `Store.ensureAll_agree`), and leave every other name as it is
(`Store.getElem?_ensureAll`).
-/
namespace InputActions

/-! ### Stores that agree -/

namespace Store

/-- Two stores give the same answer for certain names. -/
def AgreeOn (names : List SourceId) (a b : Store) : Prop := ∀ id ∈ names, a[id]? = b[id]?

section
variable {names : List SourceId} {a b : Store}

theorem AgreeOn.put (agree : AgreeOn names a b) (id : SourceId) (source : Source) :
    AgreeOn names (a.insert id source) (b.insert id source) := by
  intro other member
  rw [getElem?_put, getElem?_put, agree other member]

section
variable (agree : AgreeOn names a b) {id : SourceId} (own : id ∈ names)
include agree own

theorem AgreeOn.kind? : a.kind? id = b.kind? id := by
  rw [Store.kind?, Store.kind?, agree id own]

theorem AgreeOn.contains : a.contains id = b.contains id := by
  rw [Std.ExtTreeMap.contains_eq_isSome_getElem?, Std.ExtTreeMap.contains_eq_isSome_getElem?,
    agree id own]

theorem AgreeOn.check (kind : SourceKind) : a.check id kind = b.check id kind := by
  rw [Store.check, Store.check, agree.kind? own]

theorem AgreeOn.keySource : a.keySource id = b.keySource id := by
  rw [Store.keySource, Store.keySource, agree id own]

theorem AgreeOn.mouse : a.mouse id = b.mouse id := by
  rw [Store.mouse, Store.mouse, agree id own]

end

/-- Stores that agree register the same sources, and agree afterwards. -/
theorem ensureAll_agree (agree : AgreeOn names a b) {sources : List (SourceId × SourceKind)}
    (own : ∀ entry ∈ sources, entry.1 ∈ names) :
    (a.ensureAll sources).1 = (b.ensureAll sources).1 ∧
      AgreeOn names (a.ensureAll sources).2 (b.ensureAll sources).2 := by
  induction sources generalizing a b with
  | nil => exact ⟨rfl, agree⟩
  | cons entry sources ih =>
    obtain ⟨id, kind⟩ := entry
    obtain ⟨first, rest⟩ := List.forall_mem_cons.mp own
    -- Both stores register the name, or keep what they have of it, or refuse its kind.
    have checked := agree.check first kind
    have there := agree.contains first
    unfold ensureAll ensure
    rw [checked, there]
    cases b.check id kind with
    | error fault => exact ⟨rfl, agree⟩
    | ok =>
      dsimp only [bind, Except.bind, pure, Except.pure]
      split
      · exact ih agree rest
      · exact ih (agree.put id _) rest

end

/-- Registering leaves the names alone that it is not about. -/
theorem getElem?_ensureAll {store : Store} {sources : List (SourceId × SourceKind)}
    {id : SourceId} (other : ∀ entry ∈ sources, entry.1 ≠ id) :
    (store.ensureAll sources).2[id]? = store[id]? := by
  induction sources generalizing store with
  | nil => rfl
  | cons entry sources ih =>
    obtain ⟨name, kind⟩ := entry
    obtain ⟨first, rest⟩ := List.forall_mem_cons.mp other
    unfold ensureAll
    split
    · rfl
    next ensured =>
      rw [ih rest]
      rcases ensure_cases ensured with rfl | ⟨-, rfl⟩
      · rfl
      · rw [getElem?_put, if_neg (Ne.symm first)]

end Store

/-! ### Payloads -/

namespace Payload

/-- The name in the header of a sequence, if that can be read. -/
def name? (value : Json) : Option SourceId :=
  match header value with
  | .ok header => some header.id
  | .error _ => none

/-- The names in the headers of a payload. -/
def names (payload : Json) : List SourceId :=
  match sequenceArray payload with
  | .ok values => values.filterMap name?
  | .error _ => []

/-- A sequence that is read has the name of its header, and so have its actions. -/
theorem sequence_named {store : Store} {staged later : Staged} {value : Json} {read : Sequence}
    (h : sequence store staged value = (.ok read, later)) :
    name? value = some read.id ∧ ∀ action ∈ read.actions, action.id = read.id := by
  unfold sequence at h
  split at h
  · cases h
  next header named =>
    split at h
    · cases h
    · obtain ⟨made, -⟩ := Prod.mk.inj h
      cases gestures : items header.type header.items with
      | error error => simp [gestures, Except.map] at made
      | ok gestures =>
        simp only [gestures, Except.map, Except.ok.injEq] at made
        subst made
        have name : name? value = some header.id := by rw [name?, named]
        refine ⟨name, fun action member => ?_⟩
        obtain ⟨gesture, -, rfl⟩ := List.mem_map.mp member
        rfl

theorem sequences_mem {store : Store} {staged : Staged} {values : List Json}
    {read : List Sequence} (h : sequences store staged values = .ok read) :
    ∀ sequence ∈ read, sequence.id ∈ values.filterMap name? ∧
      ∀ action ∈ sequence.actions, action.id = sequence.id := by
  induction values generalizing staged read with
  | nil =>
    cases h
    exact List.forall_mem_nil _
  | cons value values ih =>
    unfold sequences at h
    cases first : sequence store staged value with
    | mk outcome later =>
      rw [first] at h
      cases outcome with
      | error error => cases h
      | ok head =>
        cases rest : sequences store later values with
        | error error => simp [rest, bind, Except.bind] at h
        | ok others =>
          simp only [rest, bind, Except.bind, pure, Except.pure, Except.ok.injEq] at h
          subst h
          rw [List.forall_mem_cons]
          constructor
          · obtain ⟨named, own⟩ := sequence_named first
            exact ⟨List.mem_filterMap.mpr ⟨value, List.mem_cons_self, named⟩, own⟩
          · intro sequence member
            obtain ⟨listed, own⟩ := ih rest sequence member
            refine ⟨?_, own⟩
            obtain ⟨other, there, named⟩ := List.mem_filterMap.mp listed
            exact List.mem_filterMap.mpr ⟨other, List.mem_cons_of_mem _ there, named⟩

section
variable {a b : Store}

private theorem sequence_agree {value : Json}
    (agree : ∀ id, name? value = some id → ∀ kind, a.check id kind = b.check id kind)
    (staged : Staged) : sequence a staged value = sequence b staged value := by
  unfold sequence
  split
  · rfl
  next header named =>
    have same := agree header.id (by rw [name?, named]) header.kind
    unfold stage
    rw [same]

/-- What is read depends on the names that are read, and on no others. -/
theorem sequences_agree {values : List Json}
    (agree : Store.AgreeOn (values.filterMap name?) a b) (staged : Staged) :
    sequences a staged values = sequences b staged values := by
  induction values generalizing staged with
  | nil => rfl
  | cons value values ih =>
    have first : sequence a staged value = sequence b staged value := by
      apply sequence_agree
      intro id named kind
      exact agree.check (List.mem_filterMap.mpr ⟨value, List.mem_cons_self, named⟩) kind
    have rest : Store.AgreeOn (values.filterMap name?) a b := by
      intro id member
      obtain ⟨other, there, named⟩ := List.mem_filterMap.mp member
      exact agree id (List.mem_filterMap.mpr ⟨other, List.mem_cons_of_mem _ there, named⟩)
    unfold sequences
    rw [first]
    split
    · rfl
    next staged _ => rw [ih rest staged]

theorem newSources_agree {read : List Sequence}
    (agree : ∀ sequence ∈ read, a.contains sequence.id = b.contains sequence.id) :
    newSources a read = newSources b read := by
  unfold newSources
  apply List.foldl_ext
  intro added sequence member
  rw [agree sequence member]

theorem validate_agree {payload : Json} (agree : Store.AgreeOn (Payload.names payload) a b) :
    validate a payload = validate b payload := by
  unfold validate
  cases listed : sequenceArray payload with
  | error error => rfl
  | ok values =>
    have agree : Store.AgreeOn (values.filterMap name?) a b := by
      rwa [names, listed] at agree
    dsimp only [bind, Except.bind]
    rw [sequences_agree agree]
    cases read : sequences b ∅ values with
    | error error => rfl
    | ok found =>
      -- Whether a source is new depends on its name as well.
      have same : newSources a found = newSources b found := by
        apply newSources_agree
        intro sequence member
        exact agree.contains (sequences_mem read sequence member).1
      dsimp only [pure, Except.pure]
      rw [same]

end

/-- The sources that a payload adds, and the actions of its chain, have names of the payload. -/
theorem validate_names {store : Store} {payload : Json} {validated : Validated}
    (h : validate store payload = .ok validated) :
    (∀ entry ∈ validated.newSources, entry.1 ∈ Payload.names payload) ∧
      ∀ action ∈ validated.chain.flatten, action.id ∈ Payload.names payload := by
  unfold validate at h
  cases listed : sequenceArray payload with
  | error error => simp [listed, bind, Except.bind] at h
  | ok values =>
    cases read : sequences store ∅ values with
    | error error => simp [listed, read, bind, Except.bind] at h
    | ok found =>
      simp only [listed, read, bind, Except.bind, pure, Except.pure, Except.ok.injEq] at h
      subst h
      have named := sequences_mem read
      have known : Payload.names payload = values.filterMap name? := by rw [names, listed]
      rw [known]
      constructor
      · intro entry member
        have among := (newSources_sublist store found).1.subset member
        obtain ⟨sequence, there, rfl⟩ := List.mem_map.mp among
        exact (named sequence there).1
      · intro action member
        obtain ⟨sequence, there, made⟩ := (Chain.transposes_ofSequences found).mem member
        obtain ⟨listed, own⟩ := named sequence there
        rw [own action made]
        exact listed

end Payload

namespace World

variable {world other : World} {payload : Json}

/-- Worlds that agree on the names of a payload read the same, and agree afterwards. -/
theorem parse_agree
    (agree : Store.AgreeOn (Payload.names payload) world.inputs.store other.inputs.store) :
    (world.parse payload).1 = (other.parse payload).1 ∧
      Store.AgreeOn (Payload.names payload) (world.parse payload).2.inputs.store
        (other.parse payload).2.inputs.store := by
  unfold parse
  rw [Payload.validate_agree agree]
  cases validated : Payload.validate other.inputs.store payload with
  | error error => exact ⟨rfl, agree⟩
  | ok validated =>
    obtain ⟨own, -⟩ := Payload.validate_names validated
    obtain ⟨result, stores⟩ := Store.ensureAll_agree agree own
    dsimp only [Validated.commit]
    rw [result]
    split
    · exact ⟨rfl, stores⟩
    · exact ⟨rfl, stores⟩

/-- Reading changes the store at most. -/
theorem parse_eq_withStore (world : World) (payload : Json) :
    (world.parse payload).2 = world.withStore (world.parse payload).2.inputs.store := by
  unfold parse
  split
  · rfl
  · dsimp only
    split <;> rfl

/-- Reading registers names of the payload at most. -/
theorem getElem?_parse (world : World) {id : SourceId} (foreign : id ∉ Payload.names payload) :
    (world.parse payload).2.inputs.store[id]? = world.inputs.store[id]? := by
  unfold parse
  cases accepted : Payload.validate world.inputs.store payload with
  | error error => rfl
  | ok validated =>
    obtain ⟨own, -⟩ := Payload.validate_names accepted
    have kept : (world.inputs.store.ensureAll validated.newSources).2[id]? =
        world.inputs.store[id]? := by
      apply Store.getElem?_ensureAll
      intro entry member same
      exact foreign (same ▸ own entry member)
    dsimp only [Validated.commit]
    split <;> exact kept

theorem parse_names {next : World} {chain : Chain}
    (h : world.parse payload = (.ok chain, next)) :
    ∀ action ∈ chain.flatten, action.id ∈ Payload.names payload := by
  unfold parse at h
  cases validated : Payload.validate world.inputs.store payload with
  | error error =>
    rw [validated] at h
    cases h
  | ok validated =>
    rw [validated] at h
    dsimp only at h
    split at h
    · cases h
    · cases h
      exact (Payload.validate_names validated).2

end World

/-! ### Requests -/

namespace Request

/-- Whether a request runs a chain, which it has or which a payload gives. -/
def performs : Request → Bool
  | .dispatch .. => true
  | .perform .. => true
  | _ => false

/-- The names that a request uses. -/
def names : Request → List SourceId
  | .dispatch payload _ => Payload.names payload
  | .perform chain _ => chain.flatten.map (·.id)
  | _ => []

/-- The chain of a request, or what is wrong with it, and the sources with those that it adds. -/
def prepare (request : Request) (world : World) : Except ActionError Chain × Store :=
  match request with
  | .dispatch payload _ => ((world.parse payload).1, (world.parse payload).2.inputs.store)
  | .perform chain _ =>
    let (result, store) := world.inputs.store.ensureAll (World.sourcesOf chain)
    match result with
    | .error fault => (.error (.invalidArgument fault), store)
    | .ok () => (.ok chain, store)
  | _ => (.ok [], world.inputs.store)

/-- What the actions of a request know about their call. -/
def context (request : Request) (session : Session) : Context :=
  match request with
  | .dispatch _ mode => ⟨session, mode.getD session.config.centerMode⟩
  | .perform _ mode => ⟨session, mode.getD session.config.centerMode⟩
  | _ => ⟨session, session.config.centerMode⟩

variable {request : Request} {world other : World}

private theorem sourcesOf_names (chain : Chain) (mode : Option CenterMode) :
    ∀ entry ∈ World.sourcesOf chain, entry.1 ∈ (Request.perform chain mode).names := by
  intro entry member
  obtain ⟨action, listed, rfl⟩ := List.mem_map.mp member
  exact List.mem_map.mpr ⟨action, listed, rfl⟩

/-- What a request prepares depends on its own names. -/
theorem prepare_agree
    (agree : Store.AgreeOn request.names world.inputs.store other.inputs.store) :
    (request.prepare world).1 = (request.prepare other).1 ∧
      Store.AgreeOn request.names (request.prepare world).2 (request.prepare other).2 := by
  cases request with
  | dispatch payload mode => exact World.parse_agree agree
  | perform chain mode =>
    obtain ⟨result, stores⟩ := Store.ensureAll_agree agree (sourcesOf_names chain mode)
    unfold prepare
    dsimp only
    rw [result]
    split <;> exact ⟨rfl, stores⟩
  | _ => exact ⟨rfl, agree⟩

theorem prepare_names {chain : Chain} (h : (request.prepare world).1 = .ok chain) :
    ∀ tick ∈ chain, ∀ action ∈ tick, action.id ∈ request.names := by
  intro tick listed action member
  have among : action ∈ chain.flatten := List.mem_flatten.mpr ⟨tick, listed, member⟩
  cases request with
  | dispatch payload mode => exact World.parse_names (Prod.ext h rfl) action among
  | perform given mode =>
    have same : given = chain := by
      unfold prepare at h
      dsimp only at h
      split at h
      · cases h
      · exact Except.ok.inj h
    rw [← same] at among
    exact List.mem_map.mpr ⟨action, among, rfl⟩
  | _ =>
    cases h
    cases among

/-- A request adds names of its own at most. -/
theorem getElem?_prepare {id : SourceId} (foreign : id ∉ request.names) :
    (request.prepare world).2[id]? = world.inputs.store[id]? := by
  cases request with
  | dispatch payload mode => exact world.getElem?_parse foreign
  | perform chain mode =>
    have kept : (world.inputs.store.ensureAll (World.sourcesOf chain)).2[id]? =
        world.inputs.store[id]? := by
      apply Store.getElem?_ensureAll
      intro entry member same
      exact foreign (same ▸ sourcesOf_names chain mode entry member)
    unfold prepare
    dsimp only
    split <;> exact kept
  | _ => rfl

end Request

/-- A request begins with what it has prepared. -/
theorem World.start_prepare {request : Request} (performs : request.performs = true)
    (world : World) (session : Session) :
    world.start session request = (world.withStore (request.prepare world).2,
      match (request.prepare world).1 with
      | .error error => .finished world.now (.result (.error error))
      | .ok chain => .ofTicks (request.context session) world.now chain) := by
  cases request with
  | dispatch payload mode =>
    have registered := parse_eq_withStore world payload
    unfold start Request.prepare Request.context
    dsimp only
    rw [← registered]
    have now : (world.parse payload).2.now = world.now := by rw [registered]; rfl
    cases read : (world.parse payload).1 with
    | error error =>
      dsimp only
      rw [now]
    | ok chain =>
      -- The sources of the chain are registered by now.
      dsimp only
      rw [(perform_parsed (Prod.ext read rfl) _).2, now]
  | perform chain mode =>
    unfold start perform Request.prepare Request.context
    dsimp only
    cases world.inputs.store.ensureAll (sourcesOf chain) with
    | mk result store => cases result <;> rfl
  | _ => cases performs

end InputActions
