import InputActions.Proofs.Registering

/-!
# Sequences side by side

A chain holds the actions of its sequences, each of them exactly once, and nothing is lost by laying
the sequences side by side: if every sequence has a name of its own, the actions of a name, tick
after tick, are its sequence again. The sequences may be of any lengths, in any order:
`Chain.ofSequences_ragged`.
-/
namespace InputActions.Chain

theorem ofSequences_concat (sequences : List Sequence) (last : Sequence) :
    ofSequences (sequences ++ [last]) = layOver (ofSequences sequences) last.actions := by
  rw [ofSequences, List.foldl_append, List.foldl_cons, List.foldl_nil, ofSequences]

/-- One more sequence opens as many ticks as it is longer than the chain. -/
theorem length_layOver (chain : Chain) (actions : List Action) :
    (layOver chain actions).length = max chain.length actions.length := by
  fun_induction layOver chain actions with
  | case1 ticks => simp
  | case2 action actions ih => simp [ih]
  | case3 tick ticks action actions ih =>
    rw [List.length_cons, List.length_cons, List.length_cons, ih, Nat.succ_max_succ]

/-- As many ticks as the longest sequence has actions. -/
theorem length_ofSequences (sequences : List Sequence) :
    (ofSequences sequences).length = (sequences.map (·.actions.length)).foldr max 0 := by
  induction sequences using List.reverseRecOn with
  | nil => rfl
  | append_singleton sequences last ih =>
    have longest (lengths : List Nat) (more : Nat) :
        (lengths ++ [more]).foldr max 0 = max (lengths.foldr max 0) more := by
      induction lengths with
      | nil => simp
      | cons length lengths ih => simp [ih, Nat.max_assoc]
    rw [ofSequences_concat, length_layOver, ih, List.map_append, List.map_singleton, longest]

/-- Laying a sequence over a chain adds its actions and no others. -/
theorem flatten_layOver (chain : Chain) (actions : List Action) :
    (layOver chain actions).flatten.Perm (chain.flatten ++ actions) := by
  fun_induction layOver chain actions with
  | case1 ticks => rw [List.append_nil]
  | case2 action actions ih => exact ih.cons action
  | case3 tick ticks action actions ih =>
    simp only [List.flatten_cons, List.append_assoc]
    refine List.Perm.append_left tick ?_
    exact (ih.cons action).trans List.perm_middle.symm

theorem flatten_ofSequences (sequences : List Sequence) :
    (ofSequences sequences).flatten.Perm (sequences.flatMap (·.actions)) := by
  induction sequences using List.reverseRecOn with
  | nil => exact .nil
  | append_singleton sequences last ih =>
    rw [ofSequences_concat, List.flatMap_append, List.flatMap_singleton]
    exact (flatten_layOver _ _).trans (ih.append_right last.actions)

/-! ### The actions of a name -/

/-- The actions of a source, tick after tick. -/
def actionsOf (chain : Chain) (id : SourceId) : List Action :=
  chain.flatMap (·.filter (·.id = id))

variable {id : SourceId} {actions : List Action}

/-- A sequence of other sources adds nothing to those of a source. -/
theorem actionsOf_layOver_of_other (chain : Chain) (other : ∀ action ∈ actions, action.id ≠ id) :
    (layOver chain actions).actionsOf id = chain.actionsOf id := by
  unfold actionsOf
  fun_induction layOver chain actions with
  | case1 ticks => rfl
  | case2 action actions ih =>
    obtain ⟨foreign, rest⟩ := List.forall_mem_cons.mp other
    simp [foreign, ih rest]
  | case3 tick ticks action actions ih =>
    obtain ⟨foreign, rest⟩ := List.forall_mem_cons.mp other
    simp [foreign, ih rest]

/-- A sequence of a source that the chain does not have yet is found in it again. -/
theorem actionsOf_layOver_of_own {chain : Chain} (new : chain.actionsOf id = [])
    (own : ∀ action ∈ actions, action.id = id) : (layOver chain actions).actionsOf id = actions := by
  unfold actionsOf at new ⊢
  fun_induction layOver chain actions with
  | case1 ticks => exact new
  | case2 action actions ih =>
    obtain ⟨same, rest⟩ := List.forall_mem_cons.mp own
    simp [same, ih rfl rest]
  | case3 tick ticks action actions ih =>
    obtain ⟨same, rest⟩ := List.forall_mem_cons.mp own
    rw [List.flatMap_cons, List.append_eq_nil_iff] at new
    simp [new.1, same, ih new.2 rest]

/-- Each sequence can be read off the chain again, if their names are distinct. -/
theorem actionsOf_ofSequences {sequences : List Sequence}
    (distinct : (sequences.map (·.id)).Nodup)
    (carried : ∀ sequence ∈ sequences, ∀ action ∈ sequence.actions, action.id = sequence.id) :
    ∀ sequence ∈ sequences, (ofSequences sequences).actionsOf sequence.id = sequence.actions := by
  induction sequences using List.reverseRecOn with
  | nil => exact List.forall_mem_nil _
  | append_singleton sequences last ih =>
    obtain ⟨earlier, own⟩ := List.forall_mem_append.mp carried
    have own := own last List.mem_cons_self
    rw [List.map_append, List.map_singleton, List.nodup_append] at distinct
    obtain ⟨apart, -, new⟩ := distinct
    have foreign (sequence : Sequence) (member : sequence ∈ sequences) :
        sequence.id ≠ last.id :=
      new sequence.id (List.mem_map_of_mem member) last.id List.mem_cons_self
    rw [ofSequences_concat]
    refine List.forall_mem_append.mpr ⟨fun sequence member => ?_, ?_⟩
    · have other : ∀ action ∈ last.actions, action.id ≠ sequence.id := fun action listed same =>
        foreign sequence member (same.symm.trans (own action listed))
      rw [actionsOf_layOver_of_other _ other]
      exact ih apart earlier sequence member
    -- No action of the chain so far has the name of the last sequence.
    · refine List.forall_mem_singleton.mpr (actionsOf_layOver_of_own ?_ own)
      refine List.flatMap_eq_nil_iff.mpr fun tick listed => List.filter_eq_nil_iff.mpr ?_
      intro action inside same
      obtain ⟨sequence, member, made⟩ := (transposes_ofSequences sequences).mem
        (List.mem_flatten.mpr ⟨tick, listed, inside⟩)
      exact foreign sequence member
        ((earlier sequence member action made).symm.trans (of_decide_eq_true same))

/-! ### Ragged sequences -/

/-- A chain is its sequences laid side by side, of whatever lengths: it has as many ticks as the
longest of them, tick `i` is the list of their `i`-th actions in their order, no tick is empty,
every action occurs as often as in the sequences, and sequences with names of their own can be read
off the chain again. -/
theorem ofSequences_ragged (sequences : List Sequence) :
    let chain := ofSequences sequences
    chain.length = (sequences.map (·.actions.length)).foldr max 0 ∧
      (∀ i < chain.length, chain[i]? = some (sequences.filterMap (·.actions[i]?))) ∧
      (∀ tick ∈ chain, tick ≠ []) ∧
      (∀ action, chain.flatten.count action = (sequences.flatMap (·.actions)).count action) ∧
      ((sequences.map (·.id)).Nodup →
        (∀ sequence ∈ sequences, ∀ action ∈ sequence.actions, action.id = sequence.id) →
        ∀ sequence ∈ sequences,
          chain.flatMap (·.filter (·.id = sequence.id)) = sequence.actions) := by
  have transposes := transposes_ofSequences sequences
  refine ⟨length_ofSequences sequences, fun i inside => ?_, transposes.inhabited,
    List.perm_iff_count.mp (flatten_ofSequences sequences), actionsOf_ofSequences⟩
  rw [← transposes.ticks, List.getElem?_eq_getElem inside, Option.getD_some]

/-- Three sequences whose lengths rise and fall. -/
def staircase : List Sequence :=
  let pauses (id : SourceId) (durations : List UInt64) : Sequence :=
    ⟨id, .none, durations.map fun ms => ⟨id, .none, none, .pause (some ms)⟩⟩
  [pauses ⟨"a"⟩ [1, 2], pauses ⟨"b"⟩ [], pauses ⟨"c"⟩ [3, 4, 5], pauses ⟨"d"⟩ [6]]

theorem staircase_ragged :
    (ofSequences staircase).map (·.map (·.duration?)) =
        [[some 1, some 3, some 6], [some 2, some 4], [some 5]] ∧
      ∀ sequence ∈ staircase,
        (ofSequences staircase).flatMap (·.filter (·.id = sequence.id)) = sequence.actions := by
  refine ⟨by decide, ?_⟩
  obtain ⟨-, -, -, -, read⟩ := ofSequences_ragged staircase
  exact read (by decide) (by decide)

end InputActions.Chain
