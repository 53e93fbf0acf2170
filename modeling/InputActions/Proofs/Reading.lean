import InputActions.Proofs.Grammar

/-!
# Reading payloads

Every reader accepts what the grammar accepts and gives what it denotes. There is one equivalence
for each reader, from fields to items, sequences and whole payloads; together they are
`Payload.validate_iff`. The order in which fields are read, which decides between errors, has no
part in it: what is read one after the other is read each on its own (`bind_eq_ok_iff`).
-/
namespace InputActions

/-! ### Names and numbers -/

theorem PointerKind.ofName?_eq_some_iff {name : String} {kind : PointerKind} :
    ofName? name = some kind ↔ name = kind.name := by
  constructor
  · intro h
    unfold ofName? at h
    split at h <;> cases h <;> rfl
  · rintro rfl
    exact ofName?_name kind

theorem SourceType.ofName?_eq_some_iff {name : String} {type : SourceType} :
    ofName? name = some type ↔ name = type.name := by
  constructor
  · intro h
    unfold ofName? at h
    split at h <;> cases h <;> rfl
  · rintro rfl
    exact ofName?_name type

theorem Subtype.ofName?_eq_some_iff {name : String} {subtype : Subtype} :
    ofName? name = some subtype ↔ name = subtype.name := by
  constructor
  · intro h
    unfold ofName? at h
    split at h <;> cases h <;> rfl
  · rintro rfl
    exact ofName?_name subtype

theorem Word.unsigned?_eq_some_iff {n : Int} {word : UInt64} :
    unsigned? n = some word ↔ (word.toNat : Int) = n := by
  have limit := word.toNat_lt
  unfold unsigned?
  split
  next fits =>
    obtain ⟨nonneg, least⟩ := fits
    simp only [greatest, UInt64.size] at least
    rw [Option.some.injEq]
    constructor
    · rintro rfl
      rw [UInt64.toNat_ofNat_of_lt' (by simp only [UInt64.size]; omega)]
      omega
    · rintro rfl
      simp
  next misses =>
    refine ⟨nofun, ?_⟩
    rintro rfl
    refine absurd ⟨by omega, ?_⟩ misses
    simp only [greatest, UInt64.size]
    omega

namespace Json

theorem natural?_eq_some_iff {value : Json} {n : UInt64} :
    value.natural? = some n ↔ value = .int n.toNat := by
  cases value with
  | int i => rw [natural?, Word.unsigned?_eq_some_iff, Json.int.injEq, eq_comm]
  | _ => simp [natural?]

theorem integer?_eq_some_iff {value : Json} {n : Int64} :
    value.integer? = some n ↔ value = .int n.toInt := by
  cases value with
  | int i => rw [integer?, Word.signed?_eq_some_iff, Json.int.injEq, eq_comm]
  | _ => simp [integer?]

theorem isNull_iff {value : Json} : value.isNull = true ↔ value = .null := by
  cases value <;> simp [isNull]

end Json

/-- A kind may be given to a name that has it or is not there. -/
theorem Store.check_eq_ok_iff {store : Store} {id : SourceId} {kind : SourceKind} :
    store.check id kind = .ok () ↔
      ∀ existing, store.kind? id = some existing → existing = kind := by
  unfold check
  cases store.kind? id with
  | none => simp
  | some existing => simp

namespace Payload

open Json

/-! ### Fields -/

/-- What is read one after the other is read each on its own. -/
theorem bind_eq_ok_iff {α β : Type} {read : Read α} {next : α → Read β} {b : β} :
    (read >>= next) = .ok b ↔ ∃ a, read = .ok a ∧ next a = .ok b := by
  cases read <;> simp [bind, Except.bind]

theorem optional_eq_none_iff {fields : Members} {name : String} :
    optional fields name = none ↔ Absent fields name := by
  rw [optional, Option.filter_eq_none_iff, Absent, ← lookup_eq_none_iff, ← lookup_eq_some_iff]
  simp only [Bool.not_eq_true', Bool.not_eq_false, isNull_iff]
  cases lookup fields name <;> simp

theorem optional_eq_some_iff {fields : Members} {name : String} {value : Json} :
    optional fields name = some value ↔ Member fields name value ∧ value ≠ .null := by
  rw [optional, Option.filter_eq_some_iff, lookup_eq_some_iff, Bool.not_eq_true',
    ← Bool.not_eq_true, isNull_iff]

theorem members_iff {value : Json} {fault : String → InvalidArgument} {fields : Members} :
    members value fault = .ok fields ↔ value = .obj fields := by
  unfold members
  split
  · simp
  next other =>
    constructor
    · exact nofun
    · rintro rfl
      exact absurd rfl (other fields)

theorem string_iff {fields : Members} {name : String} {fault : String → InvalidArgument}
    {text : String} : string fields name fault = .ok text ↔ Member fields name (.str text) := by
  rw [← lookup_eq_some_iff]
  unfold string
  split
  next found => simp [found]
  next other =>
    constructor
    · exact nofun
    · exact fun found => absurd found (other text)

theorem array_iff {fields : Members} {name : String} {fault : String → InvalidArgument}
    {items : List Json} :
    array fields name fault = .ok items ↔ Member fields name (.arr items) := by
  rw [← lookup_eq_some_iff]
  unfold array
  split
  next found => simp [found]
  next other =>
    constructor
    · exact nofun
    · exact fun found => absurd found (other items)

theorem duration?_iff {fields : Members} {duration : Option UInt64} :
    duration? fields = .ok duration ↔ Grammar.Duration fields duration := by
  constructor
  · intro h
    unfold duration? at h
    split at h
    next absent =>
      cases h
      exact .absent (optional_eq_none_iff.mp absent)
    next value given =>
      split at h
      next n number =>
        cases h
        cases natural?_eq_some_iff.mp number
        exact .given (optional_eq_some_iff.mp given).1
      · cases h
  · intro h
    unfold duration?
    cases h with
    | absent absent => rw [optional_eq_none_iff.mpr absent]
    | given given =>
      rw [optional_eq_some_iff.mpr ⟨given, nofun⟩]
      dsimp only
      rw [natural?_eq_some_iff.mpr rfl]

theorem coordinate_iff {fields : Members} {name : String} {n : Int64} :
    coordinate fields name = .ok n ↔ Grammar.Coordinate fields name n := by
  constructor
  · intro h
    unfold coordinate at h
    split at h
    next absent =>
      cases h
      exact .absent (optional_eq_none_iff.mp absent)
    next value given =>
      split at h
      next n number =>
        cases h
        cases integer?_eq_some_iff.mp number
        exact .given (optional_eq_some_iff.mp given).1
      · cases h
  · intro h
    unfold coordinate
    cases h with
    | absent absent => rw [optional_eq_none_iff.mpr absent]
    | given given =>
      rw [optional_eq_some_iff.mpr ⟨given, nofun⟩]
      dsimp only
      rw [integer?_eq_some_iff.mpr rfl]

theorem keyValue_iff {fields : Members} {value : String} :
    keyValue fields = .ok value ↔ Grammar.Key fields value := by
  rw [Grammar.Key, ← lookup_eq_some_iff]
  unfold keyValue
  split
  next text found =>
    rw [found, Option.some.injEq, Json.str.injEq, Text.isCluster]
    split
    next cluster =>
      rw [Except.ok.injEq]
      refine ⟨fun same => ⟨same, ?_⟩, And.left⟩
      rw [← same]
      exact beq_iff_eq.mp cluster
    next other =>
      refine ⟨nofun, ?_⟩
      rintro ⟨rfl, cluster⟩
      exact absurd (beq_iff_eq.mpr cluster) other
  next other =>
    refine ⟨nofun, ?_⟩
    rintro ⟨found, -⟩
    exact absurd found (other value)

theorem button_iff {fields : Members} {number : UInt32} :
    button fields = .ok number ↔ Grammar.Button fields number := by
  rw [Grammar.Button, ← lookup_eq_some_iff]
  constructor
  · intro h
    unfold button at h
    split at h
    next n read =>
      obtain ⟨value, found, number⟩ := Option.bind_eq_some_iff.mp read
      cases natural?_eq_some_iff.mp number
      split at h
      next fits =>
        cases h
        rw [found, UInt32.toNat_ofNat_of_lt' fits]
      · cases h
    · cases h
  -- The number is read with 64 bits before it is compared with the greatest of 32.
  · intro found
    have small : number.toNat < UInt32.size := number.toNat_lt
    have word : (UInt64.ofNat number.toNat).toNat = number.toNat :=
      UInt64.toNat_ofNat_of_lt' (Nat.lt_trans small (by decide))
    have read : (lookup fields "button").bind natural? = some (UInt64.ofNat number.toNat) := by
      rw [found, Option.bind_some, natural?_eq_some_iff, word]
    unfold button
    rw [read]
    dsimp only
    rw [word, if_pos small, UInt32.ofNat_toNat]

theorem origin_iff {fields : Members} {base : Origin} :
    origin fields = .ok base ↔ Grammar.Origin fields base := by
  constructor
  · intro h
    unfold origin at h
    split at h
    next absent =>
      cases h
      exact .absent (optional_eq_none_iff.mp absent)
    next name given =>
      have given := (optional_eq_some_iff.mp given).1
      split at h
      next same =>
        cases h
        exact .viewport (same ▸ given)
      · split at h
        next same =>
          cases h
          exact .pointer (same ▸ given)
        · cases h
    next reference given =>
      split at h
      next ref named =>
        cases h
        exact .element (optional_eq_some_iff.mp given).1 (lookup_eq_some_iff.mp named)
      · cases h
    · cases h
  · intro h
    unfold origin
    cases h with
    | absent absent => rw [optional_eq_none_iff.mpr absent]
    | viewport given => rw [optional_eq_some_iff.mpr ⟨given, nofun⟩]; rfl
    | pointer given => rw [optional_eq_some_iff.mpr ⟨given, nofun⟩]; rfl
    | element given named =>
      rw [optional_eq_some_iff.mpr ⟨given, nofun⟩]
      dsimp only
      rw [elementKey, lookup_eq_some_iff.mpr named]

/-! ### Items -/

theorem subtype_iff {type : SourceType} {fields : Members} {kind : Subtype} :
    subtype type fields = .ok kind ↔
      Member fields "type" (.str kind.name) ∧ kind.allowedFor type = true := by
  have filtered (name : String) : (Subtype.ofName? name).filter (·.allowedFor type) = some kind ↔
      name = kind.name ∧ kind.allowedFor type = true := by
    rw [Option.filter_eq_some_iff, Subtype.ofName?_eq_some_iff]
  unfold subtype
  rw [bind_eq_ok_iff]
  constructor
  · rintro ⟨name, read, h⟩
    split at h
    next found =>
      cases h
      obtain ⟨rfl, allowed⟩ := (filtered name).mp found
      exact ⟨string_iff.mp read, allowed⟩
    · cases h
  · rintro ⟨given, allowed⟩
    refine ⟨kind.name, string_iff.mpr given, ?_⟩
    rw [(filtered _).mpr ⟨rfl, allowed⟩]

/-- The fields of an item whose subtype is known are read as the grammar says. A subtype other than
a pause is allowed for one type of source only. -/
theorem item_of_gesture {kind : Subtype} {fields : Members} {type : SourceType} {read : Gesture}
    (tagged : Member fields "type" (.str kind.name)) (allowed : kind.allowedFor type = true)
    (h : gesture kind fields = .ok read) : Grammar.Item type (.obj fields) read := by
  cases kind with
  | pause =>
    obtain ⟨duration, timed, ⟨⟩⟩ := bind_eq_ok_iff.mp h
    exact .pause tagged (duration?_iff.mp timed)
  | keyDown =>
    obtain rfl : type = .key := by cases type <;> first | rfl | cases allowed
    obtain ⟨value, typed, ⟨⟩⟩ := bind_eq_ok_iff.mp h
    exact .keyDown tagged (keyValue_iff.mp typed)
  | keyUp =>
    obtain rfl : type = .key := by cases type <;> first | rfl | cases allowed
    obtain ⟨value, typed, ⟨⟩⟩ := bind_eq_ok_iff.mp h
    exact .keyUp tagged (keyValue_iff.mp typed)
  | pointerDown =>
    obtain rfl : type = .pointer := by cases type <;> first | rfl | cases allowed
    obtain ⟨number, numbered, ⟨⟩⟩ := bind_eq_ok_iff.mp h
    exact .pointerDown tagged (button_iff.mp numbered)
  | pointerUp =>
    obtain rfl : type = .pointer := by cases type <;> first | rfl | cases allowed
    obtain ⟨number, numbered, ⟨⟩⟩ := bind_eq_ok_iff.mp h
    exact .pointerUp tagged (button_iff.mp numbered)
  | pointerMove =>
    obtain rfl : type = .pointer := by cases type <;> first | rfl | cases allowed
    obtain ⟨duration, timed, h⟩ := bind_eq_ok_iff.mp h
    obtain ⟨base, measured, h⟩ := bind_eq_ok_iff.mp h
    obtain ⟨dx, across, h⟩ := bind_eq_ok_iff.mp h
    obtain ⟨dy, down, ⟨⟩⟩ := bind_eq_ok_iff.mp h
    exact .pointerMove tagged (duration?_iff.mp timed) (origin_iff.mp measured)
      (coordinate_iff.mp across) (coordinate_iff.mp down)
  | pointerCancel => cases h

/-- An item of the grammar has a subtype that its source may have, and its fields are read. -/
theorem gesture_of_item {fields : Members} {type : SourceType} {read : Gesture}
    (h : Grammar.Item type (.obj fields) read) :
    Member fields "type" (.str read.subtype.name) ∧ read.subtype.allowedFor type = true ∧
      gesture read.subtype fields = .ok read := by
  cases h with
  | pause tagged timed =>
    exact ⟨tagged, by cases type <;> rfl, bind_eq_ok_iff.mpr ⟨_, duration?_iff.mpr timed, rfl⟩⟩
  | keyDown tagged typed =>
    exact ⟨tagged, rfl, bind_eq_ok_iff.mpr ⟨_, keyValue_iff.mpr typed, rfl⟩⟩
  | keyUp tagged typed =>
    exact ⟨tagged, rfl, bind_eq_ok_iff.mpr ⟨_, keyValue_iff.mpr typed, rfl⟩⟩
  | pointerDown tagged numbered =>
    exact ⟨tagged, rfl, bind_eq_ok_iff.mpr ⟨_, button_iff.mpr numbered, rfl⟩⟩
  | pointerUp tagged numbered =>
    exact ⟨tagged, rfl, bind_eq_ok_iff.mpr ⟨_, button_iff.mpr numbered, rfl⟩⟩
  | pointerMove tagged timed measured across down =>
    exact ⟨tagged, rfl, bind_eq_ok_iff.mpr ⟨_, duration?_iff.mpr timed,
      bind_eq_ok_iff.mpr ⟨_, origin_iff.mpr measured,
        bind_eq_ok_iff.mpr ⟨_, coordinate_iff.mpr across,
          bind_eq_ok_iff.mpr ⟨_, coordinate_iff.mpr down, rfl⟩⟩⟩⟩⟩

theorem item_iff {type : SourceType} {value : Json} {read : Gesture} :
    item type value = .ok read ↔ Grammar.Item type value read := by
  constructor
  · intro h
    obtain ⟨fields, object, h⟩ := bind_eq_ok_iff.mp h
    obtain ⟨kind, known, h⟩ := bind_eq_ok_iff.mp h
    obtain ⟨tagged, allowed⟩ := subtype_iff.mp known
    rw [members_iff.mp object]
    exact item_of_gesture tagged allowed h
  -- The grammar knows the gesture, and with it the subtype that the reader looks for.
  · intro h
    obtain ⟨fields, rfl⟩ : ∃ fields, value = .obj fields := by cases h <;> exact ⟨_, rfl⟩
    obtain ⟨tagged, allowed, read⟩ := gesture_of_item h
    exact bind_eq_ok_iff.mpr ⟨fields, rfl,
      bind_eq_ok_iff.mpr ⟨_, subtype_iff.mpr ⟨tagged, allowed⟩, read⟩⟩

theorem items_iff {type : SourceType} {values : List Json} {read : List Gesture} :
    items type values = .ok read ↔ List.Forall₂ (Grammar.Item type) values read := by
  induction values generalizing read with
  | nil => cases read <;> simp [items]
  | cons value values ih =>
    constructor
    · intro h
      obtain ⟨first, one, h⟩ := bind_eq_ok_iff.mp h
      obtain ⟨rest, more, ⟨⟩⟩ := bind_eq_ok_iff.mp h
      exact .cons (item_iff.mp one) (ih.mp more)
    · intro h
      cases h with
      | cons one more =>
        exact bind_eq_ok_iff.mpr ⟨_, item_iff.mpr one, bind_eq_ok_iff.mpr ⟨_, ih.mpr more, rfl⟩⟩

/-! ### Sources -/

theorem pointerKind?_iff {fields : Members} {field : String} {kind : Option PointerKind} :
    pointerKind? fields field = .ok kind ↔ Grammar.PointerType fields kind := by
  constructor
  · intro h
    unfold pointerKind? at h
    split at h
    next absent =>
      cases h
      exact .absent (optional_eq_none_iff.mp absent)
    next name given =>
      have given := (optional_eq_some_iff.mp given).1
      split at h
      next kind known =>
        cases h
        cases PointerKind.ofName?_eq_some_iff.mp known
        cases kind with
        | mouse => exact .mouse given
        | pen => exact .pen given
        | touch => exact .touch given
      · cases h
    · cases h
  · intro h
    have known (kind : PointerKind) (given : Member fields "pointerType" (.str kind.name)) :
        pointerKind? fields field = .ok (some kind) := by
      unfold pointerKind?
      rw [optional_eq_some_iff.mpr ⟨given, nofun⟩]
      dsimp only
      rw [PointerKind.ofName?_name]
    cases h with
    | absent absent =>
      unfold pointerKind?
      rw [optional_eq_none_iff.mpr absent]
    | mouse given => exact known .mouse given
    | pen given => exact known .pen given
    | touch given => exact known .touch given

/-- The pointer kind that the parameters of a sequence give. -/
def innerKind (fields : Members) : Read (Option PointerKind) :=
  match optional fields "parameters" with
  | none => .ok none
  | some (.obj parameters) => pointerKind? parameters "parameters.pointerType"
  | some other => fail (.parametersNotObject (shown (some other)))

/-- The one pointer kind that a sequence and its parameters give. -/
def reconciled : Option PointerKind → Option PointerKind → Read PointerKind
  | some a, some b => if a = b then .ok a else fail (.conflictingPointerKinds a b)
  | some a, none => .ok a
  | none, some b => .ok b
  | none, none => .ok .mouse

theorem pointerKind_eq (fields : Members) : pointerKind fields =
    (pointerKind? fields "pointerType" >>= fun own =>
      innerKind fields >>= fun inner => reconciled own inner) := by
  unfold pointerKind innerKind
  congr 1
  funext own
  cases optional fields "parameters" with
  | none => cases own <;> rfl
  | some value =>
    cases value with
    | obj parameters =>
      refine congrArg (pointerKind? parameters _ >>= ·) (funext fun inner => ?_)
      cases own <;> cases inner <;> rfl
    | _ => rfl

theorem innerKind_iff {fields : Members} {kind : Option PointerKind} :
    innerKind fields = .ok kind ↔ Grammar.Parameters fields kind := by
  constructor
  · intro h
    unfold innerKind at h
    split at h
    next absent =>
      cases h
      exact .absent (optional_eq_none_iff.mp absent)
    next given => exact .given (optional_eq_some_iff.mp given).1 (pointerKind?_iff.mp h)
    · cases h
  · intro h
    unfold innerKind
    cases h with
    | absent absent => rw [optional_eq_none_iff.mpr absent]
    | given given read =>
      rw [optional_eq_some_iff.mpr ⟨given, nofun⟩]
      exact pointerKind?_iff.mpr read

theorem pointerKind_iff {fields : Members} {kind : PointerKind} :
    pointerKind fields = .ok kind ↔ Grammar.Pointer fields kind := by
  have both (own inner : Option PointerKind) (owned : Grammar.PointerType fields own)
      (given : Grammar.Parameters fields inner) (one : reconciled own inner = .ok kind) :
      pointerKind fields = .ok kind := by
    rw [pointerKind_eq]
    exact bind_eq_ok_iff.mpr ⟨own, pointerKind?_iff.mpr owned,
      bind_eq_ok_iff.mpr ⟨inner, innerKind_iff.mpr given, one⟩⟩
  constructor
  · intro h
    rw [pointerKind_eq] at h
    obtain ⟨own, owned, h⟩ := bind_eq_ok_iff.mp h
    obtain ⟨inner, given, h⟩ := bind_eq_ok_iff.mp h
    have owned := pointerKind?_iff.mp owned
    have given := innerKind_iff.mp given
    unfold reconciled at h
    split at h
    · split at h
      next same =>
        cases h
        exact .both owned (same ▸ given)
      · cases h
    · cases h
      exact .own owned given
    · cases h
      exact .inner owned given
    · cases h
      exact .neither owned given
  · intro h
    cases h with
    | neither owned given => exact both _ _ owned given rfl
    | own owned given => exact both _ _ owned given rfl
    | inner owned given => exact both _ _ owned given rfl
    | both owned given => exact both _ _ owned given (if_pos rfl)

theorem sourceType_iff {fields : Members} {type : SourceType} :
    sourceType fields = .ok type ↔ Member fields "type" (.str type.name) := by
  unfold sourceType
  rw [bind_eq_ok_iff]
  constructor
  · rintro ⟨name, read, h⟩
    split at h
    next known =>
      cases h
      cases SourceType.ofName?_eq_some_iff.mp known
      exact string_iff.mp read
    · cases h
  · intro given
    refine ⟨type.name, string_iff.mpr given, ?_⟩
    rw [SourceType.ofName?_name]

/-- The type of a sequence and the kind of its source, with the pointer kind of its actions. -/
theorem source_iff {fields : Members} {type : SourceType} {kind : SourceKind}
    {pointer : Option PointerKind} :
    (sourceType fields = .ok type ∧ sourceKind type fields = .ok kind ∧
      kindOfPointer? kind = pointer) ↔ Grammar.Source fields type kind pointer := by
  rw [sourceType_iff]
  constructor
  · rintro ⟨tagged, h, rfl⟩
    cases type with
    | none => cases h; exact .none tagged
    | key => cases h; exact .key tagged
    | pointer =>
      obtain ⟨kind, pointed, ⟨⟩⟩ := bind_eq_ok_iff.mp h
      exact .pointer tagged (pointerKind_iff.mp pointed)
  · intro h
    cases h with
    | none tagged => exact ⟨tagged, rfl, rfl⟩
    | key tagged => exact ⟨tagged, rfl, rfl⟩
    | pointer tagged pointed =>
      exact ⟨tagged, bind_eq_ok_iff.mpr ⟨_, pointerKind_iff.mpr pointed, rfl⟩, rfl⟩

/-! ### Sequences -/

/-- A sequence is an object with a source, a name and items. -/
theorem sequence_iff_header {value : Json} {read : Sequence} :
    Grammar.Sequence value read ↔ ∃ known gestures, header value = .ok known ∧
      items known.type known.items = .ok gestures ∧ read = known.sequence gestures := by
  constructor
  · intro h
    cases h with
    | @mk fields type kind pointer id values gestures source named listed each =>
      obtain ⟨typed, kinded, rfl⟩ := source_iff.mpr source
      refine ⟨⟨⟨id⟩, type, kind, values⟩, gestures, ?_, items_iff.mpr each, rfl⟩
      exact bind_eq_ok_iff.mpr ⟨_, rfl, bind_eq_ok_iff.mpr ⟨_, typed,
        bind_eq_ok_iff.mpr ⟨_, kinded, bind_eq_ok_iff.mpr ⟨_, string_iff.mpr named,
          bind_eq_ok_iff.mpr ⟨_, array_iff.mpr listed, rfl⟩⟩⟩⟩⟩
  · rintro ⟨known, gestures, h, each, rfl⟩
    obtain ⟨fields, object, h⟩ := bind_eq_ok_iff.mp h
    obtain ⟨type, typed, h⟩ := bind_eq_ok_iff.mp h
    obtain ⟨kind, kinded, h⟩ := bind_eq_ok_iff.mp h
    obtain ⟨id, named, h⟩ := bind_eq_ok_iff.mp h
    obtain ⟨values, listed, ⟨⟩⟩ := bind_eq_ok_iff.mp h
    rw [members_iff.mp object]
    exact .mk (source_iff.mp ⟨typed, kinded, rfl⟩) (string_iff.mp named) (array_iff.mp listed)
      (items_iff.mp each)

/-- A name is staged if its kind is that of the store and that of earlier sequences. -/
theorem stage_iff {store : Store} {staged : Staged} {id : SourceId} {kind : SourceKind} :
    (∃ next, stage store staged id kind = .ok next) ↔
      (∀ existing, store.kind? id = some existing → existing = kind) ∧
        ∀ existing, staged[id]? = some existing → existing = kind := by
  rw [← Store.check_eq_ok_iff]
  unfold stage
  cases store.check id kind with
  | error fault => simp [fail]
  | ok _ =>
    cases staged[id]? with
    | none => simp
    | some existing =>
      by_cases same : existing = kind
      · simp [same]
      · simp [same, fail]

/-- A name that is staged has its kind from then on, and the others have theirs. -/
theorem getElem?_stage {store : Store} {staged next : Staged} {id : SourceId} {kind : SourceKind}
    (h : stage store staged id kind = .ok next) (other : SourceId) :
    next[other]? = if other = id then some kind else staged[other]? := by
  unfold stage at h
  split at h
  · cases h
  · split at h
    next existing found =>
      split at h
      next same =>
        cases h
        split
        next equal => rw [equal, found, same]
        · rfl
      · cases h
    next =>
      cases h
      rw [Std.ExtTreeMap.getElem?_insert]
      simp only [Std.LawfulEqCmp.compare_eq_iff_eq, eq_comm (a := id)]

theorem sequence_iff {store : Store} {staged next : Staged} {value : Json} {first : Sequence} :
    sequence store staged value = (.ok first, next) ↔
      Grammar.Sequence value first ∧ stage store staged first.id first.kind = .ok next := by
  rw [sequence_iff_header]
  constructor
  · intro h
    unfold sequence at h
    split at h
    · cases h
    next known read =>
      split at h
      · cases h
      next later staging =>
        cases gestures : items known.type known.items with
        | error error => rw [gestures] at h; cases h
        | ok gestures' =>
          rw [gestures] at h
          cases h
          exact ⟨⟨known, gestures', read, gestures, rfl⟩, staging⟩
  · rintro ⟨⟨known, gestures, read, each, rfl⟩, staging⟩
    unfold sequence
    rw [read]
    dsimp only [Header.sequence] at staging ⊢
    rw [staging, each]
    rfl

/-- Sequences are read if each is one, and if all agree on the kinds of their sources with the
store, with what is staged, and with each other. -/
theorem sequences_iff {store : Store} {staged : Staged} {values : List Json}
    {read : List Sequence} : sequences store staged values = .ok read ↔
      List.Forall₂ Grammar.Sequence values read ∧ Grammar.Agree store read ∧
        ∀ sequence ∈ read, ∀ kind, staged[sequence.id]? = some kind → kind = sequence.kind := by
  -- What the first sequence stages stands for it in front of the others, so the induction is for
  -- any names that are staged.
  induction values generalizing staged read with
  | nil =>
    cases read with
    | nil =>
      have none : Grammar.Agree store [] := ⟨nofun, .nil⟩
      simpa [sequences] using none
    | cons => simp [sequences]
  | cons value values ih =>
    constructor
    · intro h
      unfold sequences at h
      split at h
      · cases h
      next first later ran =>
        obtain ⟨rest, more, ⟨⟩⟩ := bind_eq_ok_iff.mp h
        obtain ⟨denoted, staging⟩ := sequence_iff.mp ran
        obtain ⟨stored, earlier⟩ := stage_iff.mp ⟨later, staging⟩
        obtain ⟨each, agree, kept⟩ := ih.mp more
        have others : ∀ other ∈ rest, first.id = other.id → first.kind = other.kind := by
          intro other member same
          refine kept other member _ ?_
          rw [getElem?_stage staging, if_pos same.symm]
        refine ⟨.cons denoted each, ⟨?_, .cons others agree.others⟩, ?_⟩
        · exact List.forall_mem_cons.mpr ⟨stored, agree.store⟩
        · refine List.forall_mem_cons.mpr ⟨earlier, fun other member kind known => ?_⟩
          by_cases same : other.id = first.id
          · rw [← others other member same.symm]
            exact earlier kind (same ▸ known)
          · refine kept other member kind ?_
            rwa [getElem?_stage staging, if_neg same]
    · rintro ⟨each, agree, kept⟩
      cases each with
      | @cons _ first _ rest denoted each =>
        obtain ⟨stored, storedRest⟩ := List.forall_mem_cons.mp agree.store
        obtain ⟨others, agreeRest⟩ := List.pairwise_cons.mp agree.others
        obtain ⟨earlier, keptRest⟩ := List.forall_mem_cons.mp kept
        obtain ⟨later, staging⟩ := stage_iff.mpr ⟨stored, earlier⟩
        unfold sequences
        rw [sequence_iff.mpr ⟨denoted, staging⟩]
        refine bind_eq_ok_iff.mpr ⟨rest, ih.mpr ⟨each, ⟨storedRest, agreeRest⟩, ?_⟩, rfl⟩
        intro other member kind known
        rw [getElem?_stage staging] at known
        split at known
        next same =>
          cases known
          exact others other member same.symm
        · exact keptRest other member kind known

/-! ### Payloads -/

theorem sequenceArray_iff {payload : Json} {values : List Json} :
    sequenceArray payload = .ok values ↔ payload = .arr values ∨
      ∃ body, payload = .obj body ∧ Member body "actions" (.arr values) := by
  cases payload <;> simp [sequenceArray, fail, array_iff]

theorem payload_iff {payload : Json} {read : List Sequence} :
    Grammar.Payload payload read ↔ ∃ values, sequenceArray payload = .ok values ∧
      List.Forall₂ Grammar.Sequence values read := by
  constructor
  · intro h
    cases h with
    | array each => exact ⟨_, rfl, each⟩
    | object listed each => exact ⟨_, array_iff.mpr listed, each⟩
  · rintro ⟨values, listed, each⟩
    rcases sequenceArray_iff.mp listed with rfl | ⟨body, rfl, found⟩
    · exact .array each
    · exact .object found each

/-- A payload is accepted if it denotes sequences that agree on the kinds of their sources, and
what is read are these sequences side by side and the sources that they add. -/
theorem validate_iff {store : Store} {payload : Json} {validated : Validated} :
    validate store payload = .ok validated ↔ ∃ read, Grammar.Payload payload read ∧
      Grammar.Agree store read ∧ validated = ⟨Chain.ofSequences read, newSources store read⟩ := by
  -- Nothing is staged at first, so there are only the store and the sequences to agree with.
  have empty (id : SourceId) : (∅ : Staged)[id]? = none := Std.ExtTreeMap.getElem?_empty
  constructor
  · intro h
    obtain ⟨values, listed, h⟩ := bind_eq_ok_iff.mp h
    obtain ⟨read, sequenced, ⟨⟩⟩ := bind_eq_ok_iff.mp h
    obtain ⟨each, agree, -⟩ := sequences_iff.mp sequenced
    exact ⟨read, payload_iff.mpr ⟨values, listed, each⟩, agree, rfl⟩
  · rintro ⟨read, denoted, agree, rfl⟩
    obtain ⟨values, listed, each⟩ := payload_iff.mp denoted
    refine bind_eq_ok_iff.mpr ⟨values, listed, bind_eq_ok_iff.mpr ⟨read, ?_, rfl⟩⟩
    refine sequences_iff.mpr ⟨each, agree, fun sequence _ kind staged => ?_⟩
    rw [empty] at staged
    cases staged

/-- A value denotes at most one sequence. -/
theorem sequence_unique : Relator.RightUnique Grammar.Sequence := by
  intro value read other h h'
  obtain ⟨known, gestures, header, each, rfl⟩ := sequence_iff_header.mp h
  obtain ⟨known', gestures', header', each', rfl⟩ := sequence_iff_header.mp h'
  cases header.symm.trans header'
  cases each.symm.trans each'
  rfl

/-- A payload denotes at most one list of sequences. -/
theorem denoted_unique : Relator.RightUnique Grammar.Payload := by
  intro payload read other h h'
  obtain ⟨values, listed, each⟩ := payload_iff.mp h
  obtain ⟨values', listed', each'⟩ := payload_iff.mp h'
  cases listed.symm.trans listed'
  exact List.right_unique_forall₂' sequence_unique each each'

/-- A payload is accepted exactly if it has the form of the grammar and agrees with the store on the
kinds of its sources. The form denotes one list of sequences, and the chain that is read is these
sequences side by side. -/
theorem accepts_grammar (store : Store) (payload : Json) :
    ((∃ validated, validate store payload = .ok validated) ↔
      ∃ read, Grammar.Payload payload read ∧ Grammar.Agree store read) ∧
    ∀ validated, validate store payload = .ok validated → ∃ read, Grammar.Payload payload read ∧
      (∀ other, Grammar.Payload payload other → other = read) ∧
      validated.chain.Transposes read ∧
      ∀ chain : Chain, chain.Transposes read → chain = validated.chain := by
  constructor
  · constructor
    · rintro ⟨validated, h⟩
      obtain ⟨read, denoted, agree, -⟩ := validate_iff.mp h
      exact ⟨read, denoted, agree⟩
    · rintro ⟨read, denoted, agree⟩
      exact ⟨_, validate_iff.mpr ⟨read, denoted, agree, rfl⟩⟩
  · intro validated h
    obtain ⟨read, denoted, -, rfl⟩ := validate_iff.mp h
    have transposes := Chain.transposes_ofSequences read
    exact ⟨read, denoted, fun other h => denoted_unique h denoted, transposes,
      fun chain h => h.unique transposes⟩

/-- A mouse that is pressed and lifted while a key goes down. -/
def clicks : Json :=
  .obj [("actions", .arr [
    .obj [("type", .str "pointer"), ("id", .str "mouse"), ("actions", .arr [
      .obj [("type", .str "pointerDown"), ("button", .int 0)],
      .obj [("type", .str "pointerUp"), ("button", .int 0)]])],
    .obj [("type", .str "key"), ("id", .str "keyboard"), ("actions", .arr [
      .obj [("type", .str "keyDown"), ("value", .str "a")]])]])]

/-- The payload is accepted: its first tick has an action of each source, and its second the one
that is left. -/
theorem clicks_accepted : ∃ read validated, Grammar.Payload clicks read ∧
    validate ∅ clicks = .ok validated ∧ validated.chain.Transposes read ∧
    validated.chain =
      [[⟨⟨"mouse"⟩, .pointer, some .mouse, .pointerDown 0⟩,
          ⟨⟨"keyboard"⟩, .key, none, .keyDown "a"⟩],
        [⟨⟨"mouse"⟩, .pointer, some .mouse, .pointerUp 0⟩]] := by
  have accepted : (validate ∅ clicks).toOption.map Validated.chain = some
      [[⟨⟨"mouse"⟩, .pointer, some .mouse, .pointerDown 0⟩,
          ⟨⟨"keyboard"⟩, .key, none, .keyDown "a"⟩],
        [⟨⟨"mouse"⟩, .pointer, some .mouse, .pointerUp 0⟩]] := by decide +kernel
  obtain ⟨validated, known, chain⟩ := Option.map_eq_some_iff.mp accepted
  cases h : validate ∅ clicks with
  | error => rw [h] at known; cases known
  | ok other =>
    rw [h] at known
    cases known
    obtain ⟨read, denoted, -, transposes, -⟩ := (accepts_grammar ∅ clicks).2 _ h
    exact ⟨read, _, denoted, rfl, transposes, chain⟩

end Payload

end InputActions
