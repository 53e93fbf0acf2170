import InputActions.Payload
import Mathlib.Data.List.Forall2
import Mathlib.Data.List.Induction

/-!
# The grammar of action payloads

What a payload may look like, and which sequences of actions it denotes, as judgments on JSON values
that say nothing of the order in which fields are read or of the errors. A member of an object is
the last one of its name. Where a field may be left out, a `null` stands for leaving it out.

Which payloads a session takes depends on more than their form: the kinds that a payload gives to
sources must agree with the store and with each other (`Grammar.Agree`).
-/
namespace InputActions

namespace Json

/-- A value is the last member of its name. -/
def Member (members : List (String × Json)) (name : String) (value : Json) : Prop :=
  ∃ before after, members = before ++ (name, value) :: after ∧
    ∀ other ∈ after, other.1 ≠ name

/-- A member is missing, or it is `null`. -/
def Absent (members : List (String × Json)) (name : String) : Prop :=
  (∀ member ∈ members, member.1 ≠ name) ∨ Member members name .null

theorem member_append (members : List (String × Json)) (last : String × Json) (name : String)
    (value : Json) : Member (members ++ [last]) name value ↔
      last = (name, value) ∨ last.1 ≠ name ∧ Member members name value := by
  constructor
  · rintro ⟨before, after, split, others⟩
    rcases List.eq_nil_or_concat' after with rfl | ⟨after, final, rfl⟩
    · exact Or.inl (List.singleton_inj.mp (List.append_inj' split rfl).2)
    · rw [← List.cons_append, ← List.append_assoc] at split
      obtain ⟨same, ⟨⟩⟩ := List.append_inj' split rfl
      exact Or.inr ⟨others _ (by simp), before, after, same, fun other member =>
        others other (by simp [member])⟩
  · rintro (rfl | ⟨other, before, after, rfl, others⟩)
    · exact ⟨members, [], rfl, by simp⟩
    · refine ⟨before, after ++ [last], by simp, fun next member => ?_⟩
      rcases List.mem_append.mp member with old | new
      · exact others next old
      · rwa [List.mem_singleton.mp new]

theorem lookup_append (members : List (String × Json)) (last : String × Json) (name : String) :
    lookup (members ++ [last]) name =
      if last.1 = name then some last.2 else lookup members name := by
  rw [lookup, List.foldl_append, List.foldl_cons, List.foldl_nil, lookup]

theorem lookup_eq_some_iff {members : List (String × Json)} {name : String} {value : Json} :
    lookup members name = some value ↔ Member members name value := by
  induction members using List.reverseRecOn with
  | nil => simp [lookup, Member]
  | append_singleton members last ih =>
    rw [lookup_append, member_append]
    split
    next same => simp [Prod.ext_iff, same]
    next other =>
      rw [ih]
      constructor
      · exact fun known => Or.inr ⟨other, known⟩
      · rintro (rfl | ⟨-, known⟩)
        · exact absurd rfl other
        · exact known

theorem lookup_eq_none_iff {members : List (String × Json)} {name : String} :
    lookup members name = none ↔ ∀ member ∈ members, member.1 ≠ name := by
  induction members using List.reverseRecOn with
  | nil => simp [lookup]
  | append_singleton members last ih =>
    rw [lookup_append, List.forall_mem_append, List.forall_mem_singleton, ← ih]
    split <;> simp_all

end Json

namespace Grammar

open Json

/-- The fields of an object. -/
abbrev Fields := List (String × Json)

/-! ### Fields of items -/

/-- The time of an item: none, or a number of 64 bits. -/
inductive Duration (fields : Fields) : Option UInt64 → Prop
  | absent (absent : Absent fields "duration") : Duration fields none
  | given {n : UInt64} (given : Member fields "duration" (.int n.toNat)) : Duration fields (some n)

/-- A coordinate of a move: zero, or a signed number of 64 bits. -/
inductive Coordinate (fields : Fields) (name : String) : Int64 → Prop
  | absent (absent : Absent fields name) : Coordinate fields name 0
  | given {n : Int64} (given : Member fields name (.int n.toInt)) : Coordinate fields name n

/-- What a move is measured from: the viewport, the pointer, or an element. -/
inductive Origin (fields : Fields) : InputActions.Origin → Prop
  | absent (absent : Absent fields "origin") : Origin fields .viewport
  | viewport (given : Member fields "origin" (.str "viewport")) : Origin fields .viewport
  | pointer (given : Member fields "origin" (.str "pointer")) : Origin fields .pointer
  | element {reference : Fields} {ref : String}
      (given : Member fields "origin" (.obj reference))
      (named : Member reference "element-6066-11e4-a52e-4f735466cecf" (.str ref)) :
      Origin fields (.element ⟨ref⟩)

/-- The key of an item: a text of one grapheme cluster. -/
def Key (fields : Fields) (value : String) : Prop :=
  Member fields "value" (.str value) ∧ Text.clusterCount value.toList = 1

/-- The button of an item: a number of 32 bits. -/
def Button (fields : Fields) (number : UInt32) : Prop :=
  Member fields "button" (.int number.toNat)

/-! ### Items -/

/-- An item of a source of some type, and its gesture. -/
inductive Item : SourceType → Json → Gesture → Prop
  | pause {type fields duration} (tagged : Member fields "type" (.str "pause"))
      (timed : Duration fields duration) : Item type (.obj fields) (.pause duration)
  | keyDown {fields value} (tagged : Member fields "type" (.str "keyDown"))
      (typed : Key fields value) : Item .key (.obj fields) (.keyDown value)
  | keyUp {fields value} (tagged : Member fields "type" (.str "keyUp"))
      (typed : Key fields value) : Item .key (.obj fields) (.keyUp value)
  | pointerDown {fields button} (tagged : Member fields "type" (.str "pointerDown"))
      (numbered : Button fields button) : Item .pointer (.obj fields) (.pointerDown button)
  | pointerUp {fields button} (tagged : Member fields "type" (.str "pointerUp"))
      (numbered : Button fields button) : Item .pointer (.obj fields) (.pointerUp button)
  | pointerMove {fields duration origin dx dy}
      (tagged : Member fields "type" (.str "pointerMove"))
      (timed : Duration fields duration) (measured : Origin fields origin)
      (across : Coordinate fields "x" dx) (down : Coordinate fields "y" dy) :
      Item .pointer (.obj fields) (.pointerMove duration origin dx dy)

/-! ### Sources -/

/-- The pointer kind of an object: none, or one of the three. -/
inductive PointerType (fields : Fields) : Option PointerKind → Prop
  | absent (absent : Absent fields "pointerType") : PointerType fields none
  | mouse (given : Member fields "pointerType" (.str "mouse")) : PointerType fields (some .mouse)
  | pen (given : Member fields "pointerType" (.str "pen")) : PointerType fields (some .pen)
  | touch (given : Member fields "pointerType" (.str "touch")) : PointerType fields (some .touch)

/-- The pointer kind in the parameters of a sequence. -/
inductive Parameters (fields : Fields) : Option PointerKind → Prop
  | absent (absent : Absent fields "parameters") : Parameters fields none
  | given {parameters : Fields} {kind : Option PointerKind}
      (given : Member fields "parameters" (.obj parameters)) (read : PointerType parameters kind) :
      Parameters fields kind

/-- The pointer kind of a sequence: its own, that of its parameters, both if they are the same, or
that of a mouse. -/
inductive Pointer (fields : Fields) : PointerKind → Prop
  | neither (own : PointerType fields none) (inner : Parameters fields none) :
      Pointer fields .mouse
  | own {kind} (own : PointerType fields (some kind)) (inner : Parameters fields none) :
      Pointer fields kind
  | inner {kind} (own : PointerType fields none) (inner : Parameters fields (some kind)) :
      Pointer fields kind
  | both {kind} (own : PointerType fields (some kind)) (inner : Parameters fields (some kind)) :
      Pointer fields kind

/-- The type of a sequence, the kind of its source, and the pointer kind of its actions. -/
inductive Source (fields : Fields) : SourceType → SourceKind → Option PointerKind → Prop
  | none (tagged : Member fields "type" (.str "none")) : Source fields .none .none Option.none
  | key (tagged : Member fields "type" (.str "key")) : Source fields .key .key Option.none
  | pointer {kind} (tagged : Member fields "type" (.str "pointer"))
      (pointed : Pointer fields kind) : Source fields .pointer (.pointer kind) (some kind)

/-! ### Sequences and payloads -/

/-- A sequence, and the actions that it denotes. -/
inductive Sequence : Json → InputActions.Sequence → Prop
  | mk {fields type kind pointer id items gestures}
      (source : Source fields type kind pointer)
      (named : Member fields "id" (.str id))
      (listed : Member fields "actions" (.arr items))
      (each : List.Forall₂ (Item type) items gestures) :
      Sequence (.obj fields)
        ⟨⟨id⟩, kind, gestures.map fun gesture => ⟨⟨id⟩, type, pointer, gesture⟩⟩

/-- A payload, and the sequences that it denotes. -/
inductive Payload : Json → List InputActions.Sequence → Prop
  | array {values sequences} (each : List.Forall₂ Sequence values sequences) :
      Payload (.arr values) sequences
  | object {body values sequences} (listed : Member body "actions" (.arr values))
      (each : List.Forall₂ Sequence values sequences) : Payload (.obj body) sequences

/-- Sequences give their sources the kinds that the store has, and no two kinds to one source. -/
structure Agree (store : Store) (sequences : List InputActions.Sequence) : Prop where
  store : ∀ sequence ∈ sequences, ∀ kind, store.kind? sequence.id = some kind →
    kind = sequence.kind
  others : sequences.Pairwise fun earlier later =>
    earlier.id = later.id → earlier.kind = later.kind

end Grammar

/-! ### Chains -/

/-- A chain is made of sequences side by side: tick `i` of their `i`-th actions, in the order of
the sequences, up to the end of the longest. -/
structure Chain.Transposes (chain : Chain) (sequences : List Sequence) : Prop where
  ticks : ∀ i : Nat, chain[i]?.getD [] = sequences.filterMap fun sequence => sequence.actions[i]?
  inhabited : ∀ tick ∈ chain, tick ≠ []

namespace Chain

theorem getD_layOver (chain : Chain) (actions : List Action) (i : Nat) :
    (layOver chain actions)[i]?.getD [] = chain[i]?.getD [] ++ actions[i]?.toList := by
  fun_induction layOver chain actions generalizing i with
  | case1 => simp
  | case2 action actions ih =>
    cases i with
    | zero => rfl
    | succ i => simpa using ih i
  | case3 tick ticks action actions ih =>
    cases i with
    | zero => rfl
    | succ i => simpa using ih i

theorem inhabited_layOver {chain : Chain} (h : ∀ tick ∈ chain, tick ≠ []) (actions : List Action) :
    ∀ tick ∈ layOver chain actions, tick ≠ [] := by
  fun_induction layOver chain actions with
  | case1 => exact h
  | case2 action actions ih => exact List.forall_mem_cons.mpr ⟨nofun, ih nofun⟩
  | case3 tick ticks action actions ih =>
    obtain ⟨-, rest⟩ := List.forall_mem_cons.mp h
    exact List.forall_mem_cons.mpr ⟨by simp, ih rest⟩

/-- Laying sequences side by side makes a chain of them. -/
theorem transposes_ofSequences (sequences : List Sequence) :
    (ofSequences sequences).Transposes sequences := by
  unfold ofSequences
  induction sequences using List.reverseRecOn with
  | nil => exact ⟨fun i => rfl, nofun⟩
  | append_singleton sequences last ih =>
    rw [List.foldl_append, List.foldl_cons, List.foldl_nil]
    refine ⟨fun i => ?_, inhabited_layOver ih.inhabited _⟩
    rw [getD_layOver, ih.ticks, List.filterMap_append, List.filterMap_cons, List.filterMap_nil]
    cases last.actions[i]? <;> rfl

/-- There is one chain of given sequences, because no tick is empty. -/
theorem Transposes.unique {chain other : Chain} {sequences : List Sequence}
    (h : chain.Transposes sequences) (h' : other.Transposes sequences) : chain = other := by
  have tick {a b : Chain} (ha : a.Transposes sequences) (hb : b.Transposes sequences) {i : Nat}
      {tick : Tick} (found : a[i]? = some tick) : b[i]? = some tick := by
    have same := (ha.ticks i).trans (hb.ticks i).symm
    rw [found, Option.getD_some] at same
    cases there : b[i]? with
    | none =>
      rw [there] at same
      exact absurd same (ha.inhabited tick (List.mem_of_getElem? found))
    | some other =>
      rw [there, Option.getD_some] at same
      rw [same]
  refine List.ext_getElem? fun i => ?_
  cases found : chain[i]? with
  | some _ => exact (tick h h' found).symm
  | none =>
    cases there : other[i]? with
    | none => rfl
    | some _ => exact absurd (found.symm.trans (tick h' h there)) nofun

end Chain

end InputActions
