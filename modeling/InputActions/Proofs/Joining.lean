import InputActions.Proofs.Registry

/-!
# Payloads one after another

Reading two lists of sequences as one payload is the same as reading the first, registering its
sources, and reading the second (`Payload.validate_append`). In the one case the names of the first
list are staged while the second is read, in the other they are in the store. Both are asked for
the kind of a name, each in its own way; `Payload.Alike` says that the answers are the same, and
then whatever is read is the same, with the same errors.
-/
namespace InputActions

namespace Payload

/-! ### What is known of a name -/

/-- The kind that a name has in the store, or else the one it was staged with. -/
def known? (store : Store) (staged : Staged) (id : SourceId) : Option SourceKind :=
  (store.kind? id).or staged[id]?

/-- No name is staged with another kind than it has in the store. -/
def Fits (store : Store) (staged : Staged) : Prop :=
  ∀ id kind, store.kind? id = some kind → ∀ other, staged[id]? = some other → other = kind

section
variable {store : Store} {staged : Staged} {id : SourceId}

theorem getElem?_empty : (∅ : Staged)[id]? = none := Std.ExtTreeMap.getElem?_empty

theorem fits_empty (store : Store) : Fits store ∅ := by
  intro id kind _ other staged
  rw [getElem?_empty] at staged
  cases staged

theorem known?_empty (store : Store) (id : SourceId) : known? store ∅ id = store.kind? id := by
  rw [known?, getElem?_empty, Option.or_none]

variable {next : Staged} {kind : SourceKind}

/-- A name that is known with another kind is refused, and the error tells which. -/
theorem stage_conflict {existing : SourceKind} (known : known? store staged id = some existing)
    (other : existing ≠ kind) :
    stage store staged id kind = fail (.kindConflict id kind existing) := by
  unfold known? at known
  unfold stage Store.check
  cases stored : store.kind? id with
  | none =>
    rw [stored, Option.none_or] at known
    simp [known, other]
  | some first =>
    rw [stored, Option.some_or] at known
    cases known
    simp [other]

theorem agree_of_stage (made : stage store staged id kind = .ok next) :
    ∀ existing, known? store staged id = some existing → existing = kind := by
  intro existing known
  by_contra other
  cases made.symm.trans (stage_conflict known other)

/-- A name is staged if it is known with no other kind. -/
theorem exists_stage (fits : Fits store staged)
    (agree : ∀ existing, known? store staged id = some existing → existing = kind) :
    ∃ next, stage store staged id kind = .ok next := by
  have stored : ∀ existing, store.kind? id = some existing → existing = kind := by
    intro existing known
    exact agree existing (by rw [known?, known, Option.some_or])
  refine stage_iff.mpr ⟨stored, fun existing found => ?_⟩
  cases known : store.kind? id with
  | none => exact agree existing (by rw [known?, known, Option.none_or, found])
  | some other => exact (fits id other known existing found).trans (stored other known)

/-- A name that is staged is known with its kind from then on, and the others with theirs. -/
theorem known?_stage (made : stage store staged id kind = .ok next) (other : SourceId) :
    known? store next other = if other = id then some kind else known? store staged other := by
  rw [known?, getElem?_stage made]
  by_cases same : other = id
  · rw [if_pos same, if_pos same, same]
    -- If the store has the name, it has it with this kind.
    cases stored : store.kind? id with
    | none => rw [Option.none_or]
    | some first =>
      rw [Option.some_or, agree_of_stage made first (by rw [known?, stored, Option.some_or])]
  · rw [if_neg same, if_neg same, known?]

theorem Fits.stage (fits : Fits store staged) (made : stage store staged id kind = .ok next) :
    Fits store next := by
  intro name first stored other found
  rw [getElem?_stage made] at found
  split at found
  next same =>
    cases found
    exact (agree_of_stage made first (by rw [known?, ← same, stored, Option.some_or])).symm
  · exact fits name first stored other found

end

/-- The first sequence is read, and then the others with what it has staged. -/
theorem sequences_cons (store : Store) (staged : Staged) (value : Json) (values : List Json) :
    sequences store staged (value :: values) = do
      let first ← (sequence store staged value).1
      let rest ← sequences store (sequence store staged value).2 values
      return first :: rest := by
  rw [sequences]
  split
  next ran =>
    rw [ran]
    rfl
  next ran =>
    rw [ran]
    rfl

/-! ### Reading with other stores -/

/-- Two ways to know the same kinds of names. -/
structure Alike (store : Store) (staged : Staged) (store' : Store) (staged' : Staged) : Prop where
  fits : Fits store staged
  fits' : Fits store' staged'
  same : ∀ id, known? store staged id = known? store' staged' id

section
variable {store store' : Store} {staged staged' : Staged}

/-- Names that are known alike are staged alike, or refused with the same error. -/
theorem Alike.stage (h : Alike store staged store' staged') (id : SourceId) (kind : SourceKind) :
    (∃ error, stage store staged id kind = .error error ∧
      stage store' staged' id kind = .error error) ∨
    ∃ next next', stage store staged id kind = .ok next ∧
      stage store' staged' id kind = .ok next' ∧ Alike store next store' next' := by
  by_cases agree : ∀ existing, known? store staged id = some existing → existing = kind
  · right
    have agree' : ∀ existing, known? store' staged' id = some existing → existing = kind := by
      intro existing known
      exact agree existing ((h.same id).trans known)
    obtain ⟨next, made⟩ := exists_stage h.fits agree
    obtain ⟨next', made'⟩ := exists_stage h.fits' agree'
    refine ⟨next, next', made, made', h.fits.stage made, h.fits'.stage made', fun name => ?_⟩
    rw [known?_stage made, known?_stage made', h.same]
  · left
    simp only [not_forall] at agree
    obtain ⟨existing, known, other⟩ := agree
    exact ⟨_, stage_conflict known other, stage_conflict ((h.same id).symm.trans known) other⟩

theorem Alike.sequence (h : Alike store staged store' staged') (value : Json) :
    (sequence store staged value).1 = (sequence store' staged' value).1 ∧
      Alike store (sequence store staged value).2 store' (sequence store' staged' value).2 := by
  unfold Payload.sequence
  cases header value with
  | error error => exact ⟨rfl, h⟩
  | ok header =>
    dsimp only
    rcases h.stage header.id header.kind with
      ⟨error, refused, refused'⟩ | ⟨next, next', staging, staging', alike⟩
    · rw [refused, refused']
      exact ⟨rfl, h⟩
    · rw [staging, staging']
      exact ⟨rfl, alike⟩

/-- Sequences are read alike, or refused with the same error. -/
theorem Alike.sequences (h : Alike store staged store' staged') (values : List Json) :
    sequences store staged values = sequences store' staged' values := by
  induction values generalizing staged staged' with
  | nil => rfl
  | cons value values ih =>
    obtain ⟨same, alike⟩ := h.sequence value
    rw [sequences_cons, sequences_cons, same, ih alike]

end

/-! ### Two lists of sequences -/

/-- What is staged once some sequences have been read. -/
def staging (store : Store) (staged : Staged) : List Json → Staged
  | [] => staged
  | value :: values => staging store (sequence store staged value).2 values

/-- The second of two lists is read with what the first one has staged. -/
theorem sequences_append (store : Store) (staged : Staged) (first second : List Json) :
    sequences store staged (first ++ second) = do
      let head ← sequences store staged first
      let tail ← sequences store (staging store staged first) second
      return head ++ tail := by
  induction first generalizing staged with
  | nil =>
    rw [sequences, staging, List.nil_append]
    cases sequences store staged second <;> rfl
  | cons value values ih =>
    rw [List.cons_append, sequences_cons, sequences_cons, staging, ih]
    simp

/-- The sequences that were read are known with their kinds, and other names as before. -/
theorem known?_staging {store : Store} {staged : Staged} (fits : Fits store staged)
    {values : List Json} {read : List Sequence}
    (h : sequences store staged values = .ok read) :
    Fits store (staging store staged values) ∧ ∀ id,
      known? store (staging store staged values) id =
        (known? store staged id).or ((read.find? (·.id = id)).map (·.kind)) := by
  induction values generalizing staged read with
  | nil =>
    cases h
    exact ⟨fits, fun id => (Option.or_none ..).symm⟩
  | cons value values ih =>
    rw [sequences_cons] at h
    obtain ⟨first, ran, h⟩ := bind_eq_ok_iff.mp h
    obtain ⟨rest, more, ⟨⟩⟩ := bind_eq_ok_iff.mp h
    obtain ⟨-, made⟩ := sequence_iff.mp (Prod.ext ran rfl)
    rw [staging]
    obtain ⟨fits, known⟩ := ih (fits.stage made) more
    refine ⟨fits, fun id => ?_⟩
    rw [known, known?_stage made]
    by_cases same : id = first.id
    · subst same
      cases before : known? store staged first.id with
      | none => simp
      | some existing => simp [agree_of_stage made existing before]
    · simp [same, Ne.symm same]

/-- It makes no difference to what is read next whether the sources of the sequences before it are
staged or registered. -/
theorem sequences_registered {store : Store} {first : List Json} {head : List Sequence}
    (h : sequences store ∅ first = .ok head) (second : List Json) :
    sequences store (staging store ∅ first) second =
      sequences (store.ensureAll (newSources store head)).2 ∅ second := by
  obtain ⟨-, agree, -⟩ := sequences_iff.mp h
  obtain ⟨fits, known⟩ := known?_staging (fits_empty store) h
  refine Alike.sequences ⟨fits, fits_empty _, fun id => ?_⟩ second
  rw [known, known?_empty, known?_empty, kind?_ensureAll_newSources agree]

end Payload

/-! ### Chains -/

theorem Chain.Transposes.lt_length_iff {chain : Chain} {sequences : List Sequence}
    (h : chain.Transposes sequences) (i : Nat) :
    i < chain.length ↔ chain[i]?.getD [] ≠ [] := by
  cases found : chain[i]? with
  | none => simpa using List.getElem?_eq_none_iff.mp found
  | some tick =>
    have inside : i < chain.length := (List.getElem?_eq_some_iff.mp found).1
    simp [inside, h.inhabited tick (List.mem_of_getElem? found)]

/-- What is read is two parts side by side: each tick has the actions of the first part before
those of the second, and so have the sources that are added. -/
structure Validated.Joins (whole head tail : Validated) : Prop where
  ticks : ∀ i : Nat, whole.chain[i]?.getD [] =
    head.chain[i]?.getD [] ++ tail.chain[i]?.getD []
  length : whole.chain.length = max head.chain.length tail.chain.length
  sources : whole.newSources = head.newSources ++ tail.newSources

namespace Payload

theorem validate_arr (store : Store) (values : List Json) :
    validate store (.arr values) = (sequences store ∅ values).map fun read =>
      ⟨Chain.ofSequences read, newSources store read⟩ := by
  simp only [validate, sequenceArray, bind, Except.bind]
  cases sequences store ∅ values <;> rfl

/-- The chain of two lists of sequences has the ticks of both, and the names that the second list
adds are those that the first did not register. -/
theorem joins {store : Store} {head tail : List Sequence} (agree : Grammar.Agree store head) :
    Validated.Joins ⟨Chain.ofSequences (head ++ tail), newSources store (head ++ tail)⟩
      ⟨Chain.ofSequences head, newSources store head⟩
      ⟨Chain.ofSequences tail, newSources (store.ensureAll (newSources store head)).2 tail⟩ := by
  have whole := Chain.transposes_ofSequences (head ++ tail)
  have first := Chain.transposes_ofSequences head
  have second := Chain.transposes_ofSequences tail
  have ticks (i : Nat) : (Chain.ofSequences (head ++ tail))[i]?.getD [] =
      (Chain.ofSequences head)[i]?.getD [] ++ (Chain.ofSequences tail)[i]?.getD [] := by
    rw [whole.ticks, first.ticks, second.ticks, List.filterMap_append]
  -- No tick is empty, so a chain is as long as it has ticks with actions.
  have long (i : Nat) : i < (Chain.ofSequences (head ++ tail)).length ↔
      i < (Chain.ofSequences head).length ∨ i < (Chain.ofSequences tail).length := by
    rw [whole.lt_length_iff, ticks, ne_eq, List.append_eq_nil_iff, not_and_or,
      first.lt_length_iff, second.lt_length_iff]
  refine ⟨ticks, ?_, ?_⟩
  · have ends := long (Chain.ofSequences (head ++ tail)).length
    have past := long (Chain.ofSequences head).length
    have past' := long (Chain.ofSequences tail).length
    dsimp only
    omega
  · exact newSources_append (Store.contains_ensureAll_of_ok (ensureAll_newSources agree).1) tail

/-- Two lists of sequences are read as one payload exactly if the first is read, and then the second
with the sources of the first registered; the chain and the added sources are those of both, side
by side. Otherwise the error is that of the first list, or else that of the second. -/
theorem validate_append (store : Store) (first second : List Json) :
    ((∃ whole, validate store (.arr (first ++ second)) = .ok whole) ↔
      ∃ head, validate store (.arr first) = .ok head ∧
        ∃ tail, validate (head.commit store).2 (.arr second) = .ok tail) ∧
    (∀ whole head tail, validate store (.arr (first ++ second)) = .ok whole →
      validate store (.arr first) = .ok head →
      validate (head.commit store).2 (.arr second) = .ok tail →
      (head.commit store).1 = .ok () ∧ whole.Joins head tail) ∧
    ∀ error, validate store (.arr (first ++ second)) = .error error ↔
      validate store (.arr first) = .error error ∨
        ∃ head, validate store (.arr first) = .ok head ∧
          validate (head.commit store).2 (.arr second) = .error error := by
  simp only [validate_arr, sequences_append]
  cases read : sequences store ∅ first with
  | error error => simp [bind, Except.bind, Except.map]
  | ok head =>
    obtain ⟨-, agree, -⟩ := sequences_iff.mp read
    simp only [bind, Except.bind, Except.map, Except.ok.injEq, exists_eq_left',
      sequences_registered read, Validated.commit]
    cases more : sequences (store.ensureAll (newSources store head)).2 ∅ second with
    | error error => simp
    | ok tail =>
      refine ⟨by simp [pure, Except.pure], ?_, by simp [pure, Except.pure]⟩
      rintro whole _ last ⟨⟩ ⟨⟩ known
      dsimp only at known
      rw [more] at known
      cases known
      exact ⟨(ensureAll_newSources agree).1, joins agree⟩

/-- A mouse is pressed. -/
def pressesMouse : List Json :=
  [.obj [("type", .str "pointer"), ("id", .str "mouse"), ("actions", .arr [
    .obj [("type", .str "pointerDown"), ("button", .int 0)]])]]

/-- The mouse is lifted while a key goes down. -/
def liftsMouse : List Json :=
  [.obj [("type", .str "pointer"), ("id", .str "mouse"), ("actions", .arr [
      .obj [("type", .str "pointerUp"), ("button", .int 0)]])],
    .obj [("type", .str "key"), ("id", .str "keyboard"), ("actions", .arr [
      .obj [("type", .str "keyDown"), ("value", .str "a")]])]]

/-- The mouse that the first part has registered is not added again by the second. -/
theorem liftsMouse_joins : ∃ whole head tail,
    validate ∅ (.arr (pressesMouse ++ liftsMouse)) = .ok whole ∧ whole.Joins head tail ∧
      whole.newSources = [(⟨"mouse"⟩, .pointer .mouse), (⟨"keyboard"⟩, .key)] ∧
      tail.newSources = [(⟨"keyboard"⟩, .key)] := by
  obtain ⟨whole, read, all⟩ : ∃ whole,
      validate ∅ (.arr (pressesMouse ++ liftsMouse)) = .ok whole ∧
        whole.newSources = [(⟨"mouse"⟩, .pointer .mouse), (⟨"keyboard"⟩, .key)] :=
    exists_adds (by decide +kernel)
  obtain ⟨first, one, own⟩ : ∃ first, validate ∅ (.arr pressesMouse) = .ok first ∧
      first.newSources = [(⟨"mouse"⟩, .pointer .mouse)] :=
    exists_adds (by decide +kernel)
  obtain ⟨parts, joins, -⟩ := validate_append ∅ pressesMouse liftsMouse
  obtain ⟨head, known, tail, more⟩ := parts.mp ⟨whole, read⟩
  cases one.symm.trans known
  have joined := (joins whole first tail read one more).2
  have sources := joined.sources
  rw [all, own] at sources
  exact ⟨whole, first, tail, read, joined, all, (List.cons.inj sources).2.symm⟩

end Payload

end InputActions
