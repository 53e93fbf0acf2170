import InputActions.Proofs.Conserving

/-!
# The order of pending entries

Entries are pending in the order of their presses, except where a release put some back in front of
older ones. A `Ledger` numbers the presses of a history and follows their entries from place to
place, so that entries that look alike are told apart. Only two things happen to whole lists: a
release pours the pending list into its hands, and pours what is left in them back in front of the
pending list when it fails. If another release has put older entries back in the meantime, the newer
ones overtake them. That is the only way to come out of order, and it lasts: `Schedule.press_order`.
-/
namespace InputActions

/-- Where an entry can be: owed, or in the hands of a release. -/
inductive Place where
  | pending
  | hand (call : Nat)
  deriving DecidableEq

/-- How many presses there have been, and which of them owe the entries at each place. -/
structure Ledger where
  pressed : Nat
  numbers : Place → List Nat

namespace Ledger

def empty : Ledger := ⟨0, fun _ => []⟩

variable (ledger : Ledger)

/-- All entries of one place go in front of those of another. -/
def pour (source target : Place) : Ledger :=
  { ledger with numbers := fun place =>
      if place = source then []
      else if place = target then ledger.numbers source ++ ledger.numbers target
      else ledger.numbers place }

/-- The first entry of a place is gone. -/
def drop (source : Place) : Ledger :=
  { ledger with numbers := fun place =>
      if place = source then (ledger.numbers source).tail else ledger.numbers place }

/-- One more press appends its entry to those that are pending. -/
def append : Ledger :=
  ⟨ledger.pressed + 1, fun place =>
    if place = .pending then ledger.numbers .pending ++ [ledger.pressed]
    else ledger.numbers place⟩

section
variable (source target place : Place)

theorem numbers_pour : (ledger.pour source target).numbers place =
    if place = source then []
    else if place = target then ledger.numbers source ++ ledger.numbers target
    else ledger.numbers place := rfl

theorem numbers_drop : (ledger.drop source).numbers place =
    if place = source then (ledger.numbers source).tail else ledger.numbers place := rfl

theorem numbers_append : ledger.append.numbers place =
    if place = .pending then ledger.numbers .pending ++ [ledger.pressed]
    else ledger.numbers place := rfl

end

/-- What is somewhere after a pour was there before, or has come from the source. -/
theorem mem_pour {source target place : Place} {number : Nat}
    (member : number ∈ (ledger.pour source target).numbers place) :
    place ≠ source ∧ (number ∈ ledger.numbers place ∨
      place = target ∧ number ∈ ledger.numbers source) := by
  rw [numbers_pour] at member
  split at member
  · cases member
  next apart =>
    refine ⟨apart, ?_⟩
    split at member
    next here =>
      rcases List.mem_append.mp member with poured | old
      · exact Or.inr ⟨here, poured⟩
      · exact Or.inl (here ▸ old)
    · exact Or.inl member

/-- What is known of the numbers in a ledger if `overtakes` says which presses have been overtaken by
which. -/
structure Ordered (overtakes : Nat → Nat → Prop) : Prop where
  below : ∀ place, ∀ number ∈ ledger.numbers place, number < ledger.pressed
  nodup : ∀ place, (ledger.numbers place).Nodup
  apart : ∀ place other, place ≠ other → (ledger.numbers place).Disjoint (ledger.numbers other)
  known : ∀ newer older, overtakes newer older → newer < ledger.pressed
  order : ∀ place, (ledger.numbers place).Pairwise fun first second =>
    first < second ∨ overtakes first second
  lasts : ∀ place newer older, overtakes newer older → newer ∈ ledger.numbers place →
    [newer, older].Sublist (ledger.numbers place)

namespace Ordered

variable {ledger} {overtakes : Nat → Nat → Prop}

theorem empty : Ledger.empty.Ordered fun _ _ => False where
  below := nofun
  nodup := fun _ => .nil
  apart := fun _ _ _ _ member => absurd member List.not_mem_nil
  known := nofun
  order := fun _ => .nil
  lasts := nofun

/-- Pouring one list in front of another lets its entries overtake the others, and nothing else. -/
theorem pour (h : ledger.Ordered overtakes) (source target : Place) (away : source ≠ target) :
    (ledger.pour source target).Ordered fun newer older => overtakes newer older ∨
      newer ∈ ledger.numbers source ∧ older ∈ ledger.numbers target where
  below place number member := by
    rcases (ledger.mem_pour member).2 with old | ⟨-, poured⟩
    · exact h.below place number old
    · exact h.below source number poured
  nodup place := by
    rw [numbers_pour]
    split
    · exact .nil
    · split
      · exact (h.nodup source).append (h.nodup target) (h.apart source target away)
      · exact h.nodup place
  apart place other distinct number here there := by
    obtain ⟨left, here⟩ := ledger.mem_pour here
    obtain ⟨right, there⟩ := ledger.mem_pour there
    rcases here with stays | ⟨is, comes⟩
    · rcases there with old | ⟨-, poured⟩
      · exact h.apart place other distinct stays old
      · exact h.apart place source left stays poured
    · rcases there with old | ⟨same, -⟩
      · exact h.apart source other right.symm comes old
      · exact distinct (is.trans same.symm)
  known newer older gained := by
    rcases gained with old | ⟨poured, -⟩
    · exact h.known newer older old
    · exact h.below source newer poured
  order place := by
    have kept (place : Place) := (h.order place).imp fun {first second} before =>
      before.imp_right (Or.inl : overtakes first second → overtakes first second ∨
        first ∈ ledger.numbers source ∧ second ∈ ledger.numbers target)
    rw [numbers_pour]
    split
    · exact .nil
    · split
      · refine List.pairwise_append.mpr ⟨kept source, kept target, fun first poured second old => ?_⟩
        exact Or.inr (Or.inr ⟨poured, old⟩)
      · exact kept place
  lasts place newer older gained member := by
    obtain ⟨apart, here⟩ := ledger.mem_pour member
    rw [numbers_pour, if_neg apart]
    rcases gained with old | ⟨poured, overtaken⟩
    · split
      next is =>
        subst is
        rcases here with here | ⟨-, here⟩
        · exact (h.lasts place newer older old here).trans (List.sublist_append_right _ _)
        · exact (h.lasts source newer older old here).trans (List.sublist_append_left _ _)
      next elsewhere =>
        rcases here with here | ⟨is, -⟩
        · exact h.lasts place newer older old here
        · exact absurd is elsewhere
    -- The newer entry is where it was poured, in front of the older one.
    · split
      · exact (List.singleton_sublist.mpr poured).append (List.singleton_sublist.mpr overtaken)
      next elsewhere =>
        rcases here with here | ⟨is, -⟩
        · exact absurd poured fun poured => h.apart place source apart here poured
        · exact absurd is elsewhere

theorem drop (h : ledger.Ordered overtakes) (source : Place) :
    (ledger.drop source).Ordered overtakes := by
  have sublist (place : Place) :
      ((ledger.drop source).numbers place).Sublist (ledger.numbers place) := by
    rw [numbers_drop]
    split
    next is =>
      rw [is]
      exact List.tail_sublist _
    · exact .refl _
  exact {
    below := fun place number member => h.below place number ((sublist place).subset member)
    nodup := fun place => (h.nodup place).sublist (sublist place)
    apart := fun place other distinct number here there =>
      h.apart place other distinct ((sublist place).subset here) ((sublist other).subset there)
    known := h.known
    order := fun place => (h.order place).sublist (sublist place)
    lasts := fun place newer older overtaken member => by
      have before := h.lasts place newer older overtaken ((sublist place).subset member)
      have once := h.nodup place
      rw [numbers_drop] at member ⊢
      split at member
      next is =>
        subst is
        rw [if_pos rfl]
        cases list : ledger.numbers place with
        | nil => rw [list] at member; cases member
        | cons first rest =>
          rw [list] at before once member
          -- The entry that is gone is not the newer one, which is still there.
          cases before with
          | cons _ before => exact before
          | cons_cons _ _ => exact absurd member (List.nodup_cons.mp once).1
      next elsewhere => rwa [if_neg elsewhere] }

theorem append (h : ledger.Ordered overtakes) : ledger.append.Ordered overtakes where
  below place number member := by
    rw [numbers_append] at member
    split at member
    · rcases List.mem_append.mp member with old | new
      · exact Nat.lt_succ_of_lt (h.below .pending number old)
      · rw [List.mem_singleton.mp new]
        exact Nat.lt_succ_self _
    · exact Nat.lt_succ_of_lt (h.below place number member)
  nodup place := by
    rw [numbers_append]
    split
    · refine (h.nodup .pending).append (List.nodup_singleton _) fun number old new => ?_
      rw [List.mem_singleton.mp new] at old
      exact Nat.lt_irrefl _ (h.below .pending _ old)
    · exact h.nodup place
  apart place other distinct number here there := by
    rw [numbers_append] at here there
    -- The new number is nowhere else, as it is not below itself.
    have new (elsewhere : Place) : ledger.pressed ∉ ledger.numbers elsewhere := fun listed =>
      Nat.lt_irrefl _ (h.below elsewhere _ listed)
    split at here
    next is =>
      rw [if_neg fun same => distinct (is.trans same.symm)] at there
      rcases List.mem_append.mp here with old | added
      · exact h.apart .pending other (is ▸ distinct) old there
      · exact new other (List.mem_singleton.mp added ▸ there)
    next =>
      split at there
      next is =>
        rcases List.mem_append.mp there with old | added
        · exact h.apart place .pending (is ▸ distinct) here old
        · exact new place (List.mem_singleton.mp added ▸ here)
      · exact h.apart place other distinct here there
  known newer older overtaken := Nat.lt_succ_of_lt (h.known newer older overtaken)
  order place := by
    rw [numbers_append]
    split
    · refine List.pairwise_append.mpr ⟨h.order .pending, List.pairwise_singleton _ _, ?_⟩
      intro first old second new
      rw [List.mem_singleton.mp new]
      exact Or.inl (h.below .pending first old)
    · exact h.order place
  lasts place newer older overtaken member := by
    rw [numbers_append] at member ⊢
    split at member
    next is =>
      rw [if_pos is]
      rcases List.mem_append.mp member with old | new
      · exact (h.lasts .pending newer older overtaken old).trans (List.sublist_append_left _ _)
      · rw [List.mem_singleton.mp new] at overtaken
        exact absurd (h.known _ older overtaken) (Nat.lt_irrefl _)
    next elsewhere =>
      rw [if_neg elsewhere]
      exact h.lasts place newer older overtaken member

theorem congr (h : ledger.Ordered overtakes) {other : Nat → Nat → Prop}
    (same : ∀ newer older, other newer older ↔ overtakes newer older) : ledger.Ordered other := by
  have equal : other = overtakes := funext fun newer => funext fun older =>
    propext (same newer older)
  rwa [equal]

end Ordered

/-- If no two releases have entries in hand, what is in hand is older than what is pending. -/
structure Queued : Prop where
  sorted : ∀ call, (ledger.numbers (.hand call) ++ ledger.numbers .pending).Pairwise (· < ·)
  alone : ∀ call other, call ≠ other →
    ledger.numbers (.hand call) = [] ∨ ledger.numbers (.hand other) = []

namespace Queued

variable {ledger}

theorem empty : Ledger.empty.Queued where
  sorted _ := .nil
  alone _ _ _ := Or.inl rfl

theorem pending (h : ledger.Queued) : (ledger.numbers .pending).Pairwise (· < ·) :=
  (h.sorted 0).sublist (List.sublist_append_right _ _)

theorem take (h : ledger.Queued) (free : ∀ call, ledger.numbers (.hand call) = [])
    (call : Nat) : (ledger.pour .pending (.hand call)).Queued where
  sorted other := by
    simp only [numbers_pour, free, reduceCtorEq, if_false, if_true, List.append_nil]
    split
    · exact h.pending
    · exact .nil
  alone other another distinct := by
    simp only [numbers_pour, free, reduceCtorEq, if_false, List.append_nil, Place.hand.injEq]
    split
    next is => exact Or.inr (if_neg fun same => distinct (is.trans same.symm))
    next => exact Or.inl rfl

theorem putBack (h : ledger.Queued) (call : Nat) :
    (ledger.pour (.hand call) .pending).Queued where
  sorted other := by
    simp only [numbers_pour, reduceCtorEq, if_false, if_true, Place.hand.injEq]
    split
    · exact h.sorted call
    next apart =>
      -- Of two releases one has nothing in hand.
      rcases h.alone call other (Ne.symm apart) with none | none
      · rw [none]
        exact h.sorted other
      · rw [none]
        exact h.sorted call
  alone other another distinct := by
    simp only [numbers_pour, reduceCtorEq, if_false, Place.hand.injEq]
    rcases h.alone other another distinct with none | none
    · left
      split
      · rfl
      · exact none
    · right
      split
      · rfl
      · exact none

theorem drop (h : ledger.Queued) (call : Nat) : (ledger.drop (.hand call)).Queued where
  sorted other := by
    simp only [numbers_drop, reduceCtorEq, if_false, Place.hand.injEq]
    split
    · exact (h.sorted call).sublist ((List.tail_sublist _).append (.refl _))
    · exact h.sorted other
  alone other another distinct := by
    simp only [numbers_drop, Place.hand.injEq]
    rcases h.alone other another distinct with none | none
    · left
      split
      next is => rw [← is, none, List.tail_nil]
      · exact none
    · right
      split
      next is => rw [← is, none, List.tail_nil]
      · exact none

theorem append (h : ledger.Queued)
    (below : ∀ place, ∀ number ∈ ledger.numbers place, number < ledger.pressed) :
    ledger.append.Queued where
  sorted call := by
    simp only [numbers_append, reduceCtorEq, if_false, if_true]
    rw [← List.append_assoc]
    refine List.pairwise_append.mpr ⟨h.sorted call, List.pairwise_singleton _ _, ?_⟩
    intro number listed last new
    rw [List.mem_singleton.mp new]
    rcases List.mem_append.mp listed with held | pending
    · exact below _ number held
    · exact below _ number pending
  alone call other distinct := by
    simp only [numbers_append, reduceCtorEq, if_false]
    exact h.alone call other distinct

end Queued

end Ledger

/-! ### The ledger of a history -/

namespace Advance

variable {advance : Advance} {session : Session}

/-- Whether a release begins with this section. -/
def takes (advance : Advance) : Bool :=
  match advance.activity with
  | .planned _ .release => true
  | _ => false

theorem taken_of_takes (takes : advance.takes = true) :
    advance.taken = advance.world.inputs.pending.entries ∧ advance.returned = [] ∧
      advance.replayed? = none ∧ advance.activity.hand = [] := by
  obtain ⟨call, activity, world⟩ := advance
  cases activity with
  | planned instant request =>
    cases request with
    | release => exact ⟨rfl, rfl, rfl, rfl⟩
    | _ => cases takes
  | _ => cases takes

theorem taken_of_not_takes (takes : advance.takes = false) : advance.taken = [] := by
  obtain ⟨call, activity, world⟩ := advance
  cases activity with
  | planned instant request =>
    cases request with
    | release => cases takes
    | _ => rfl
  | _ => rfl

/-- A release that puts entries back puts back all that it has in hand, and has replayed none with
that section. -/
theorem returned_eq_hand (back : advance.returned ≠ []) :
    advance.returned = advance.activity.hand ∧ advance.replayed? = none := by
  obtain ⟨call, activity, world⟩ := advance
  cases activity with
  | releasing context entry slot rest =>
    unfold returned replayed? at *
    dsimp only at *
    split at back
    next failed => exact ⟨rfl, by rw [failed]⟩
    · exact absurd rfl back
  | _ => exact absurd rfl back

end Advance

namespace Ledger

/-- What a section does to the entries that there are. -/
def move (ledger : Ledger) (advance : Advance) : Ledger :=
  if advance.takes then ledger.pour .pending (.hand advance.call)
  else if advance.returned ≠ [] then ledger.pour (.hand advance.call) .pending
  else if advance.replayed?.isSome then ledger.drop (.hand advance.call)
  else ledger

def record (ledger : Ledger) (advance : Advance) : Ledger :=
  if advance.owed?.isSome then (ledger.move advance).append else ledger.move advance

def ofLog (log : List Advance) : Ledger := log.foldl record empty

theorem ofLog_concat (log : List Advance) (last : Advance) :
    ofLog (log ++ [last]) = (ofLog log).record last := by
  rw [ofLog, List.foldl_append, List.foldl_cons, List.foldl_nil, ofLog]

theorem pressed_move (ledger : Ledger) (advance : Advance) :
    (ledger.move advance).pressed = ledger.pressed := by
  unfold move
  split
  · rfl
  · split
    · rfl
    · split <;> rfl

/-- A section moves the numbers of a ledger as it moves the entries. -/
theorem move_reads {ledger : Ledger} {read : Nat → Option Action} (advance : Advance)
    (session : Session) (ready : advance.activity.isReady advance.world.now = true)
    (kept : advance.activity.isReset = false)
    (pending : (ledger.numbers .pending).map read =
      advance.world.inputs.pending.entries.map some)
    (hand : (ledger.numbers (.hand advance.call)).map read = advance.activity.hand.map some) :
    (advance.after session).inputs.pending.entries.map some =
        ((ledger.move advance).numbers .pending).map read ++ advance.owed?.toList.map some ∧
      (advance.next session).hand.map some =
        ((ledger.move advance).numbers (.hand advance.call)).map read ∧
      ∀ other, advance.call ≠ other →
        (ledger.move advance).numbers (.hand other) = ledger.numbers (.hand other) := by
  obtain ⟨others, held, flows⟩ := advance.flow session ready kept
  have hands := advance.hands session ready
  rw [flows]
  unfold move
  split
  next takes =>
    obtain ⟨taken, returned, none, idle⟩ := Advance.taken_of_takes takes
    rw [taken] at held hands
    have nothing : others = [] := List.append_right_eq_self.mp held.symm
    rw [idle, returned, none] at hands
    rw [idle] at hand
    refine ⟨by simp [numbers_pour, returned, nothing], ?_, fun other apart => ?_⟩
    · rw [numbers_pour, if_neg nofun, if_pos rfl, List.map_append, pending, hand]
      simpa using (congrArg (List.map some) hands).symm
    · rw [numbers_pour, if_neg nofun, if_neg fun same => apart (Place.hand.inj same).symm]
  next other =>
    have taken := Advance.taken_of_not_takes (by simpa using other)
    rw [taken, List.nil_append] at held hands
    subst held
    split
    next back =>
      obtain ⟨all, none⟩ := Advance.returned_eq_hand back
      rw [none, all] at hands
      have nothing : (advance.next session).hand = [] := by simpa using hands
      refine ⟨?_, by simp [numbers_pour, nothing], fun other apart => ?_⟩
      · rw [numbers_pour, if_neg nofun, if_pos rfl, all]
        simp [pending, hand]
      · rw [numbers_pour, if_neg fun same => apart (Place.hand.inj same).symm, if_neg nofun]
    next keeps =>
      have returned : advance.returned = [] := by simpa using keeps
      rw [returned] at hands ⊢
      cases replayed : advance.replayed? with
      | none =>
        rw [replayed] at hands
        simp [pending, hand, hands]
      | some entry =>
        -- What has been replayed was the first in hand.
        rw [replayed] at hands
        refine ⟨by simp [numbers_drop, pending], ?_, fun other apart => ?_⟩
        · simp [numbers_drop, hand, hands]
        · simp [numbers_drop, Ne.symm apart]

/-- One at a time, releases leave what is in hand older than what is pending. -/
theorem Queued.move {ledger : Ledger} {advance : Advance} (h : ledger.Queued)
    (free : advance.takes = true → ∀ call, ledger.numbers (.hand call) = []) :
    (ledger.move advance).Queued := by
  unfold Ledger.move
  split
  next takes => exact h.take (free takes) _
  next =>
    split
    · exact h.putBack _
    · split
      · exact h.drop _
      · exact h

/-! ### Overtaking -/

/-- Whether some release has put the entry of press `newer` back in front when that of press `older`
was pending. -/
def Overtakes (log : List Advance) (newer older : Nat) : Prop :=
  ∃ early advance late, log = early ++ advance :: late ∧ advance.returned ≠ [] ∧
    newer ∈ (ofLog early).numbers (.hand advance.call) ∧ older ∈ (ofLog early).numbers .pending

theorem overtakes_concat (log : List Advance) (last : Advance) (newer older : Nat) :
    Overtakes (log ++ [last]) newer older ↔ Overtakes log newer older ∨ last.returned ≠ [] ∧
      newer ∈ (ofLog log).numbers (.hand last.call) ∧ older ∈ (ofLog log).numbers .pending := by
  constructor
  · rintro ⟨early, advance, late, whole, back, poured, overtaken⟩
    rcases List.eq_nil_or_concat late with rfl | ⟨late, final, rfl⟩
    · obtain ⟨rfl, same⟩ := List.append_inj' whole rfl
      cases same
      exact Or.inr ⟨back, poured, overtaken⟩
    · rw [List.concat_eq_append, ← List.cons_append, ← List.append_assoc] at whole
      obtain ⟨rfl, -⟩ := List.append_inj' whole rfl
      exact Or.inl ⟨early, advance, late, rfl, back, poured, overtaken⟩
  · rintro (⟨early, advance, late, rfl, overtakes⟩ | overtakes)
    · exact ⟨early, advance, late ++ [last], by simp, overtakes⟩
    · exact ⟨log, last, [], rfl, overtakes⟩

/-- A section keeps the order, apart from what it lets overtake. -/
theorem Ordered.move {log : List Advance} (h : (ofLog log).Ordered (Overtakes log))
    (last : Advance)
    (idle : last.takes = true → (ofLog log).numbers (.hand last.call) = []) :
    ((ofLog log).move last).Ordered (Overtakes (log ++ [last])) := by
  unfold Ledger.move
  split
  next takes =>
    have returned := (Advance.taken_of_takes takes).2.1
    refine (h.pour .pending (.hand last.call) nofun).congr ?_
    intro newer older
    rw [overtakes_concat, returned, idle takes]
    simp
  next =>
    split
    next back =>
      refine (h.pour (.hand last.call) .pending nofun).congr ?_
      intro newer older
      rw [overtakes_concat]
      simp [back]
    next keeps =>
      have same (newer older : Nat) :
          Overtakes (log ++ [last]) newer older ↔ Overtakes log newer older := by
        rw [overtakes_concat]
        simp [show last.returned = [] by simpa using keeps]
      split
      · exact (h.drop _).congr same
      · exact h.congr same

end Ledger

namespace Schedule

open Ledger

variable {session : Session} {moves : Schedule → Schedule → Prop} {start s : Schedule}
  {log : List Advance}

/-- What is pending and in hand at a moment is what the presses with the numbers of a ledger owe. -/
structure Accounts (ledger : Ledger) (owed : List Action) (s : Schedule) : Prop where
  pressed : ledger.pressed = owed.length
  pending : (ledger.numbers .pending).map (owed[·]?) = s.world.inputs.pending.entries.map some
  hands : ∀ call, (ledger.numbers (.hand call)).map (owed[·]?) = (s.hand call).map some

/-- Presses to come change nothing about what earlier ones owe. -/
private theorem map_owed_append {numbers : List Nat} {owed : List Action}
    (below : ∀ number ∈ numbers, number < owed.length) (more : List Action) :
    numbers.map ((owed ++ more)[·]?) = numbers.map (owed[·]?) :=
  List.map_congr_left fun number member => List.getElem?_append_left (below number member)

/-- A section of a call is entered into the ledger as it changes what is owed. -/
theorem Accounts.advance {world : World} {left right : List Activity} {activity : Activity}
    (h : Accounts (ofLog log) (owed log) ⟨session, world, left ++ activity :: right⟩)
    (ready : activity.isReady world.now = true) (kept : activity.isReset = false)
    (below : ∀ place, ∀ number ∈ ((ofLog log).move ⟨left.length, activity, world⟩).numbers place,
      number < (owed log).length) :
    let advance : Advance := ⟨left.length, activity, world⟩
    Accounts (ofLog (log ++ [advance])) (owed (log ++ [advance]))
      ⟨session, (activity.step session world).1,
        left ++ (activity.step session world).2 :: right⟩ := by
  intro advance
  have held : ((ofLog log).numbers (.hand left.length)).map ((owed log)[·]?) =
      activity.hand.map some := by
    rw [h.hands, hand_of_getElem? getElem?_place]
  obtain ⟨pending, mine, others⟩ :=
    move_reads advance session ready kept h.pending held
  have hands (call : Nat) : (((ofLog log).move advance).numbers (.hand call)).map ((owed log)[·]?) =
      (hand ⟨session, (activity.step session world).1,
        left ++ (activity.step session world).2 :: right⟩ call).map some := by
    by_cases here : left.length = call
    · subst here
      rw [← mine, hand_of_getElem? getElem?_place]
      rfl
    · rw [others call here, h.hands]
      simp only [Schedule.hand, getElem?_replaced here activity]
  have owes : owed (log ++ [advance]) = owed log ++ advance.owed?.toList := filterMap_concat ..
  rw [ofLog_concat, Ledger.record, owes]
  cases new : advance.owed? with
  | none =>
    rw [new, Option.toList_none, List.map_nil, List.append_nil] at pending
    rw [Option.toList_none, List.append_nil]
    exact ⟨(pressed_move _ _).trans h.pressed, pending.symm, hands⟩
  | some entry =>
    rw [new, Option.toList_some] at pending
    have pressed : ((ofLog log).move advance).pressed = (owed log).length :=
      (pressed_move _ _).trans h.pressed
    refine ⟨?_, ?_, fun call => ?_⟩
    · simp [Ledger.append, pressed]
    · have last : [(owed log).length].map ((owed log ++ [entry])[·]?) = [some entry] := by simp
      rw [Option.toList_some, Option.isSome_some, if_pos rfl, numbers_append, if_pos rfl,
        List.map_append, map_owed_append (below _), pressed, last]
      exact pending.symm
    · have apart : Place.hand call ≠ .pending := Place.noConfusion
      rw [Option.toList_some, Option.isSome_some, if_pos rfl, numbers_append, if_neg apart,
        map_owed_append (below _)]
      exact hands call

/-- Whether every release began when no other had entries in hand. -/
def OneAtATime (log : List Advance) : Prop :=
  ∀ early advance late, log = early ++ advance :: late → advance.takes = true →
    ∀ call, (ofLog early).numbers (.hand call) = []

theorem OneAtATime.concat {last : Advance} (h : OneAtATime (log ++ [last])) :
    OneAtATime log ∧ (last.takes = true → ∀ call, (ofLog log).numbers (.hand call) = []) := by
  refine ⟨fun early advance late whole => h early advance (late ++ [last]) ?_, h log last [] rfl⟩
  rw [whole, List.append_assoc, List.cons_append]

/-- At every moment the ledger accounts for all entries, they are in the order of their presses
except for those that have overtaken others, and none has if releases come one at a time. -/
theorem Chronicle.ledger (h : Chronicle Remembers moves start s log)
    (idle : start.activities = []) (empty : start.world.inputs.pending = .empty) :
    Accounts (ofLog log) (owed log) s ∧ (ofLog log).Ordered (Overtakes log) ∧
      (OneAtATime log → (ofLog log).Queued) := by
  induction h with
  | begins =>
    refine ⟨⟨rfl, ?_, fun call => ?_⟩, Ordered.empty.congr fun newer older => ?_, fun _ => .empty⟩
    · simp [ofLog, Ledger.empty, empty, Pending.empty]
    · simp [ofLog, Ledger.empty, Schedule.hand, idle]
    · simp [Overtakes]
  | join before instant request _ ih =>
    obtain ⟨accounts, order⟩ := ih
    refine ⟨⟨accounts.pressed, accounts.pending, fun call => ?_⟩, order⟩
    rw [hand_join]
    exact accounts.hands call
  | elapse _ _ _ ih => exact ⟨⟨ih.1.pressed, ih.1.pending, ih.1.hands⟩, ih.2⟩
  | @advance session world left activity right log before ready _ ih =>
    let advance : Advance := ⟨left.length, activity, world⟩
    obtain ⟨accounts, ordered, queued⟩ := ih
    have moved := ordered.move advance fun takes => by
      have idle := (Advance.taken_of_takes takes).2.2.2
      have held := accounts.hands left.length
      rw [hand_of_getElem? getElem?_place, idle] at held
      exact List.map_eq_nil_iff.mp held
    refine ⟨accounts.advance ready ?_ fun place number member => ?_, ?_, fun single => ?_⟩
    · exact isReset_of_not_resets (before.not_resets (not_resets_of_idle idle))
    · rw [← accounts.pressed, ← pressed_move]
      exact moved.below place number member
    · rw [ofLog_concat, Ledger.record]
      split
      · exact moved.append
      · exact moved
    · obtain ⟨past, free⟩ := single.concat
      have queue := (queued past).move free
      rw [ofLog_concat, Ledger.record]
      split
      · exact queue.append moved.below
      · exact queue

/-- Pending entries are in the order of their presses, except where a release put newer ones back in
front of older ones. On a fresh session that is never reset, whatever runs together and however the
surface answers, each entry that is pending or in hand is owed by a press of its own. Of two that
are pending the newer stands first exactly if some release put it back when the older one was
pending. So the list is in the order of the presses exactly if that has happened to no two entries
of it, and it never happens as long as no release begins while another has entries in hand. -/
theorem press_order {host : Host}
    (h : Chronicle Remembers moves ⟨session, .initial host, []⟩ s log) :
    let numbers := (ofLog log).numbers .pending
    Accounts (ofLog log) (owed log) s ∧ numbers.Nodup ∧
    (∀ older ∈ numbers, ∀ newer ∈ numbers, older < newer →
      ([newer, older].Sublist numbers ↔ Overtakes log newer older)) ∧
    (numbers.Pairwise (· < ·) ↔
      ∀ older ∈ numbers, ∀ newer ∈ numbers, older < newer → ¬ Overtakes log newer older) ∧
    (OneAtATime log → numbers.Pairwise (· < ·)) := by
  intro numbers
  obtain ⟨accounts, ordered, queued⟩ := h.ledger rfl rfl
  have order {first second : Nat} (before : [first, second].Sublist numbers) :
      first < second ∨ Overtakes log first second :=
    List.pairwise_iff_forall_sublist.mp (ordered.order .pending) before
  have exactly : ∀ older ∈ numbers, ∀ newer ∈ numbers, older < newer →
      ([newer, older].Sublist numbers ↔ Overtakes log newer older) := by
    intro older _ newer listed less
    refine ⟨fun before => ?_, fun overtakes => ordered.lasts .pending newer older overtakes listed⟩
    exact (order before).resolve_left (Nat.lt_asymm less)
  refine ⟨accounts, ordered.nodup .pending, exactly, ⟨?_, ?_⟩, fun single => ?_⟩
  · intro sorted older here newer listed less overtakes
    have before := (exactly older here newer listed less).mpr overtakes
    exact Nat.lt_asymm less (List.pairwise_iff_forall_sublist.mp sorted before)
  · intro never
    refine List.pairwise_iff_forall_sublist.mpr fun {first second} before => ?_
    have distinct : first ≠ second := by
      simpa using (ordered.nodup .pending).sublist before
    have listed : first ∈ numbers := before.subset (by simp)
    have here : second ∈ numbers := before.subset (by simp)
    rcases order before with less | overtakes
    · exact less
    · rcases Nat.lt_or_gt_of_ne distinct with less | more
      · exact less
      · exact absurd overtakes (never second here first listed more)
  · exact (queued single).pending

/-- A surface that takes five milliseconds for each event, and refuses the third and the fifth. -/
def refusesTwo : Host :=
  { balks with
    injectionRefusal := fun tally _ =>
      if tally.injections = 2 || tally.injections = 4 then some (.injection "busy") else none }

/-- Two buttons are pressed. A release fails to lift the first of them; in the meantime a third
button is pressed, and another release fails to lift that one, but later. -/
def crosses : Schedule :=
  let fresh : Schedule := ⟨.ofConfig .standard, .initial refusesTwo, []⟩
  (((fresh.join 0 (clicking [0, 1])).join 6 .release).join 7 (clicking [3])).join 8 .release

/-- The entry of the last press ends up in front of the first two. -/
theorem crosses_overtakes :
    let log := crosses.annals 23
    let done := crosses.steps 23
    Chronicle Remembers (fun _ _ => True) ⟨.ofConfig .standard, .initial refusesTwo, []⟩ done log ∧
      done.isFinished = true ∧
      done.world.inputs.pending.entries.map (·.gesture) =
        [.pointerUp 3, .pointerUp 0, .pointerUp 1] ∧
      (ofLog log).numbers .pending = [2, 0, 1] ∧ Overtakes log 2 0 := by
  intro log done
  have begun : Chronicle Remembers (fun _ _ => True)
      ⟨.ofConfig .standard, .initial refusesTwo, []⟩ crosses [] :=
    (((Chronicle.begins.join 0 _ rfl).join 6 _ rfl).join 7 _ rfl).join 8 _ rfl
  have chronicle := begun.steps (fun _ _ => trivial) 23
  rw [List.nil_append] at chronicle
  have numbers : (ofLog log).numbers .pending = [2, 0, 1] := by decide +kernel
  obtain ⟨-, -, exactly, -, -⟩ := press_order chronicle
  rw [numbers] at exactly
  refine ⟨chronicle, by decide +kernel, by decide +kernel, numbers, ?_⟩
  exact (exactly 0 (by decide) 2 (by decide) (by decide)).mp (by decide)

end Schedule

end InputActions
