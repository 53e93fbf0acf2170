import InputActions.Proofs.Landing

/-!
# Where moves end

A move asks for what its target is measured from, and then heads for the target until it settles
(`Action.Course.heads`). Pointers are where the surface has accepted them, and a move that ends well
ends at its target, also if its pointer was there already: `Schedule.position_is_landed`.
-/
namespace InputActions

/-! ### Targets -/

/-- A mouse that need not be moved is where it is to be. -/
theorem Inputs.position_of_moveEvent {inputs : Inputs} {id : SourceId} {target : Point}
    (h : inputs.moveEvent id target = .ok none) :
    ∃ source, inputs.store[id]? = some (.pointer source) ∧ source.position = target := by
  unfold moveEvent at h
  cases found : inputs.store.mouse id with
  | error error => simp [found, bind, Except.bind] at h
  | ok source =>
    simp only [found, bind, Except.bind, pure, Except.pure] at h
    split at h
    next here => exact ⟨source, (Store.mouse_eq_ok found).1, here⟩
    · cases h

/-- The point that the target of a move is measured from: the origin, the place of the pointer in
the first section of the move, or the centre of an element when the surface showed it. -/
inductive Origin.Base (action : Action) (context : Context) (past : List Passage) :
    Origin → Point → Prop
  | viewport : Base action context past .viewport .origin
  | pointer {begun source} (member : begun ∈ past) (first : begun.slot = .ready action)
      (found : begun.world.inputs.store[action.id]? = some (.pointer source)) :
      Base action context past .pointer source.position
  | element {ref asks wake move base} (member : asks ∈ past)
      (answered : asks.slot = .waiting wake (.center move ref none))
      (shows : asks.world.host.center ref context.mode = .ok base) :
      Base action context past (.element ref) base

/-- The target of a move: its base and its offset. -/
def Action.Aims (action : Action) (context : Context) (past : List Passage) (target : Point) :
    Prop :=
  ∃ duration origin dx dy base, action.gesture = .pointerMove duration origin dx dy ∧
    origin.Base action context past base ∧ base.offset? dx dy = some target

/-- A move on the way to its target, or there, or nowhere. -/
inductive Slot.Approaches (id : SourceId) (target : Point) (after : World) : Slot → Prop
  | failed {error} : Approaches id target after (.settled (.error error))
  | arrived {source} (found : after.inputs.store[id]? = some (.pointer source))
      (here : source.position = target) : Approaches id target after (.settled (.ok ()))
  | sample {wake move} (own : move.id = id) :
      Approaches id target after (.waiting wake (.sample move target))
  | step {wake move position verdict} (own : move.id = id) :
      Approaches id target after (.waiting wake (.step move target position verdict))
  | arrival {wake verdict} : Approaches id target after (.waiting wake (.arrival id target verdict))

namespace World

variable (world : World)

/-- A mouse that is at the target need not be moved. -/
theorem approaches_moveToTarget (id : SourceId) (target : Point) :
    (Slot.ofOutcome (world.moveToTarget id target).1 (world.moveToTarget id target).2).Approaches
      id target (world.moveToTarget id target).1 := by
  unfold moveToTarget
  split
  · exact .failed
  next here =>
    obtain ⟨source, found, same⟩ := Inputs.position_of_moveEvent here
    exact .arrived found same
  · exact .arrival

theorem approaches_moveToSample (session : Session) (move : Move) (target position : Point) :
    (Slot.ofOutcome (world.moveToSample session move target position).1
      (world.moveToSample session move target position).2).Approaches move.id target
        (world.moveToSample session move target position).1 := by
  unfold moveToSample
  split
  · exact .failed
  · exact .sample rfl
  · exact .step rfl

end World

theorem Motion.offset?_of_target {viewport : Viewport} {base target : Point} {dx dy : Int64}
    (h : Motion.target viewport base dx dy = .ok target) : base.offset? dx dy = some target := by
  unfold Motion.target at h
  split at h
  · cases h
  next found =>
    split at h
    · cases h
      exact found
    · cases h

theorem Slot.eq_ready {slot : Slot} {action : Action} (h : slot.action? = some action) :
    slot = .ready action := by
  cases slot with
  | ready other => exact congrArg Slot.ready (Option.some.inj h)
  | _ => cases h

theorem Slot.eq_settled_of_error? {slot : Slot} {error : ActionError}
    (h : slot.error? = some error) : slot = .settled (.error error) := by
  cases slot with
  | settled result =>
    cases result with
    | ok => cases h
    | error other => exact congrArg (Slot.settled ∘ Except.error) (Option.some.inj h)
  | _ => cases h

theorem Slot.eq_done {slot : Slot} (settled : slot.isSettled = true)
    (fine : slot.error?.isNone = true) : slot = .settled (.ok ()) := by
  cases slot with
  | settled result =>
    cases result with
    | ok => rfl
    | error => cases fine
  | _ => cases settled

/-- A move that is on its way stays on it until it settles. -/
theorem Slot.Approaches.onward {slot : Slot} {id : SourceId} {target : Point} {earlier : World}
    (h : slot.Approaches id target earlier) (live : slot.isSettled = false) (context : Context)
    (duration : UInt64) (world : World) :
    (slot.step context duration world).2.Approaches id target
      (slot.step context duration world).1 := by
  cases h with
  | failed => cases live
  | arrived => cases live
  | sample own =>
    subst own
    unfold Slot.step Wait.resume Wait.takeSample
    dsimp only
    split
    · exact World.approaches_moveToSample ..
    · exact World.approaches_moveToTarget ..
  | step own =>
    unfold Slot.step Wait.resume
    dsimp only
    split
    · exact .failed
    · split
      · exact .failed
      · exact .sample own
  | arrival =>
    unfold Slot.step Wait.resume
    dsimp only
    split
    · exact .failed
    · split
      · exact .failed
      next arrived =>
        obtain ⟨source, -, rfl⟩ := Inputs.arrive_cases arrived
        exact .arrived ((Store.getElem?_put ..).trans (if_pos rfl)) rfl

/-- A move with all of its sections so far: it asks for what its target is measured from, and then
is on its way to the target. -/
inductive Action.Heads (action : Action) (context : Context) (past : List Passage)
    (after : World) : Slot → Prop
  | begins : Heads action context past after (.ready action)
  | asks {duration ref wake move refusal}
      (gesture : action.gesture = .pointerMove duration (.element ref) move.dx move.dy)
      (own : move.id = action.id) :
      Heads action context past after (.waiting wake (.center move ref refusal))
  | measures {duration origin base wake move refusal}
      (gesture : action.gesture = .pointerMove duration origin move.dx move.dy)
      (own : move.id = action.id) (based : origin.Base action context past base) :
      Heads action context past after (.waiting wake (.viewport move base refusal))
  | goes {slot target} (aims : action.Aims context past target)
      (approaches : slot.Approaches action.id target after) :
      Heads action context past after slot
  | failed {error} : Heads action context past after (.settled (.error error))

section
variable {action : Action} {context : Context} {past : List Passage} {origin : Origin}

/-- What a move has found out it still knows later. -/
theorem Origin.Base.later {base : Point} (h : origin.Base action context past base)
    (last : Passage) : origin.Base action context (past ++ [last]) base := by
  cases h with
  | viewport => exact .viewport
  | pointer member first found => exact .pointer (List.mem_append_left _ member) first found
  | element member answered shows => exact .element (List.mem_append_left _ member) answered shows

/-- The first section of a move finds its pointer and asks for what it has to know. -/
private theorem Action.heads_begin {gesture : Option UInt64}
    {dx dy : Int64} (moves : action.gesture = .pointerMove gesture origin dx dy) (spot : Spot)
    (duration : UInt64) (world : World) :
    let passage : Passage := ⟨spot, context, duration, .ready action, world⟩
    action.Heads context (past ++ [passage]) passage.after passage.next := by
  intro passage
  have last : passage ∈ past ++ [passage] := List.mem_append_right _ List.mem_cons_self
  have stepped : passage.next = ((Slot.ready action).step context duration world).2 := rfl
  unfold Slot.step Action.begin at stepped
  simp only [moves, Action.beginPointerMove] at stepped
  split at stepped
  · rw [stepped]
    exact .failed
  next source found =>
    have found := (Store.mouse_eq_ok found).1
    cases origin with
    | viewport =>
      rw [stepped]
      exact .measures moves rfl .viewport
    | pointer =>
      rw [stepped]
      exact .measures moves rfl (.pointer last rfl found)
    | element ref =>
      rw [stepped]
      exact .asks moves rfl

/-- A move whose base is known sets out for its target. -/
private theorem Action.heads_setOut {gesture : Option UInt64} {base : Point} {move : Move}
    (moves : action.gesture = .pointerMove gesture origin move.dx move.dy)
    (own : move.id = action.id) (based : origin.Base action context past base) (world : World) :
    action.Heads context past (Wait.setOut context move base world).1
      (.ofOutcome (Wait.setOut context move base world).1
        (Wait.setOut context move base world).2) := by
  unfold Wait.setOut
  split
  · exact .failed
  next target reached =>
    have aims : action.Aims context past target :=
      ⟨gesture, origin, move.dx, move.dy, base, moves, based, Motion.offset?_of_target reached⟩
    split
    · exact .goes aims (own ▸ World.approaches_moveToTarget ..)
    · exact .goes aims (.sample own)

/-- A section of a move that has not settled leaves it heading for the same target. -/
theorem Action.Heads.step {slot : Slot} {earlier : World}
    (h : action.Heads context past earlier slot) (live : slot.isSettled = false)
    {gesture : Option UInt64} {dx dy : Int64}
    (moves : action.gesture = .pointerMove gesture origin dx dy) (spot : Spot)
    (duration : UInt64) (world : World) :
    let passage : Passage := ⟨spot, context, duration, slot, world⟩
    action.Heads context (past ++ [passage]) passage.after passage.next := by
  intro passage
  have last : passage ∈ past ++ [passage] := List.mem_append_right _ List.mem_cons_self
  cases h with
  | begins => exact Action.heads_begin moves spot duration world
  | failed => cases live
  | @asks _ ref wake move refusal gesture own =>
    have stepped : passage.next =
      ((Slot.waiting wake (.center move ref refusal)).step context duration world).2 := rfl
    unfold Slot.step Wait.resume at stepped
    dsimp only at stepped
    split at stepped
    · rw [stepped]
      exact .failed
    · split at stepped
      · rw [stepped]
        exact .failed
      next shows =>
        rw [stepped]
        exact .measures gesture own (.element last rfl shows)
  | @measures _ origin base wake move refusal gesture own based =>
    cases refusal with
    | some error => exact .failed
    | none => exact Action.heads_setOut gesture own (based.later passage) world
  | goes aims approaches =>
    obtain ⟨gesture, origin, dx, dy, base, moves, based, reached⟩ := aims
    have aims : action.Aims context (past ++ [passage]) _ :=
      ⟨gesture, origin, dx, dy, base, moves, based.later passage, reached⟩
    exact .goes aims (approaches.onward live context duration world)

/-- Every section of a move has it heading for its target. -/
theorem Action.Course.heads {slot : Slot} {duration : UInt64}
    (h : action.Course context duration past slot) (live : slot.isSettled = false)
    {gesture : Option UInt64} {dx dy : Int64}
    (moves : action.gesture = .pointerMove gesture origin dx dy) (spot : Spot) (world : World) :
    let passage : Passage := ⟨spot, context, duration, slot, world⟩
    action.Heads context (past ++ [passage]) passage.after passage.next := by
  -- The section before left the action heading for its target, and this one goes on from there.
  induction h generalizing spot world with
  | begins => exact Action.heads_begin moves spot duration world
  | @goesOn past slot before here found ih =>
    have unsettled : slot.isSettled = false := by
      cases slot with
      | settled => cases live
      | _ => rfl
    exact (ih unsettled here found).step live moves spot duration world

/-- Only the first section of an action begins it. -/
theorem Action.Course.ready_eq {slot : Slot} {duration : UInt64}
    (h : action.Course context duration past slot) :
    (∀ passage ∈ past, ∀ other, passage.slot = .ready other → other = action) ∧
      ∀ other, slot = .ready other → other = action := by
  induction h with
  | begins =>
    exact ⟨List.forall_mem_nil _, fun _ same => (Slot.ready.inj same).symm⟩
  | @goesOn past slot before spot world ih =>
    refine ⟨fun passage member other first => ?_, fun other first => ?_⟩
    · rcases List.mem_append.mp member with old | new
      · exact ih.1 passage old other first
      · rw [List.mem_singleton.mp new] at first
        exact ih.2 other first
    · have begun := slot.isBegun_step context duration world
      rw [first] at begun
      cases begun

end

namespace Schedule

variable {session : Session} {moves : Schedule → Schedule → Prop} {s : Schedule}
  {log : List Advance} {host : Host}

/-- Positions are those that the surface has accepted. On a fresh session that is never reset,
whatever runs together and however the surface answers, every pointer is at every moment where the
surface has last accepted a mousemove of it, or at the origin if it has accepted none. When a move
settles without an error, its pointer is at the target of the move. -/
theorem position_is_landed
    (h : Chronicle Remembers moves ⟨session, .initial host.surface, []⟩ s log) :
    (∀ id source, s.world.inputs.store[id]? = some (.pointer source) →
        source.position = (s.world.host.landed? id).getD .origin) ∧
      ∀ early advance late passage, log = early ++ advance :: late →
        advance.passage? = some passage →
        passage.slot.isSettled = false → passage.next = .settled (.ok ()) →
        let sections := (trail (early ++ [advance])).filter (·.spot = passage.spot)
        ∀ begun ∈ sections, ∀ action duration origin dx dy, begun.slot = .ready action →
          action.gesture = .pointerMove duration origin dx dy →
          ∃ base source, origin.Base action passage.context sections base ∧
            (advance.after session).inputs.store[action.id]? = some (.pointer source) ∧
            base.offset? dx dy = some source.position := by
  constructor
  · intro id source found
    have landed := h.lands.landed id
    rwa [Store.position_of_getElem? found] at landed
  · rintro early advance late passage rfl passes live settles sections begun member action duration
      origin dx dy first gesture
    -- All sections at a spot are those of one action, so the one that began there is the move.
    obtain ⟨whole, course⟩ := h.course rfl passes
    have course : whole.Course passage.context passage.duration
        ((trail early).filter (·.spot = passage.spot)) passage.slot := course
    have sections_eq : sections = (trail early).filter (·.spot = passage.spot) ++ [passage] := by
      simp [sections, trail_concat, passes]
    have same : action = whole :=
      (course.goesOn passage.spot passage.world).ready_eq.1 begun (sections_eq ▸ member) action
        first
    subst same
    have heads : action.Heads passage.context
        ((trail early).filter (·.spot = passage.spot) ++ [passage]) passage.after passage.next :=
      course.heads live gesture passage.spot passage.world
    rw [← sections_eq, settles] at heads
    cases heads with
    | goes aims approaches =>
      obtain ⟨_, _, _, _, base, again, based, reached⟩ := aims
      cases gesture.symm.trans again
      cases approaches with
      | arrived found here =>
        obtain ⟨store, -⟩ := Activity.step_of_passage passes session
        refine ⟨base, _, based, ?_, here ▸ reached⟩
        rw [Advance.after, store]
        exact found

/-- A move of a mouse at once. -/
def moving (origin : Origin) (dx dy : Int64) : Action :=
  ⟨⟨"m"⟩, .pointer, none, .pointerMove none origin dx dy⟩

/-- Two moves of a mouse cross each other, both from the origin. The third is refused, and the last
one leads to where the mouse is. -/
def crossing : Schedule :=
  let fresh : Schedule := ⟨.ofConfig .standard, .initial balks.surface, []⟩
  (((fresh.join 0 (.perform [[moving .viewport 10 10]] none)).join 2
    (.perform [[moving .pointer 5 5]] none)).join 8
      (.perform [[moving .viewport 20 20]] none)).join 15 (.perform [[moving .pointer 0 0]] none)

/-- The mouse stays where the second move has put it, which was accepted after the first, and the
last move ends there. -/
theorem crossing_landed :
    let log := crossing.annals 25
    let done := crossing.steps 25
    Chronicle Remembers (fun _ _ => True)
        ⟨.ofConfig .standard, .initial balks.surface, []⟩ done log ∧
      done.world.host.landings = [(⟨"m"⟩, ⟨10, 10⟩), (⟨"m"⟩, ⟨5, 5⟩)] ∧
      (∀ source, done.world.inputs.store[(⟨"m"⟩ : SourceId)]? = some (.pointer source) →
        source.position = ⟨5, 5⟩) ∧
      ∃ advance passage sections base source, advance ∈ log ∧ advance.passage? = some passage ∧
        passage.next = .settled (.ok ()) ∧
        Origin.pointer.Base (moving .pointer 0 0) passage.context sections base ∧
        (advance.after (.ofConfig .standard)).inputs.store[(⟨"m"⟩ : SourceId)]? =
          some (.pointer source) ∧
        base.offset? 0 0 = some source.position := by
  intro log done
  have begun : Chronicle Remembers (fun _ _ => True)
      ⟨.ofConfig .standard, .initial balks.surface, []⟩ crossing [] :=
    (((Chronicle.begins.join 0 _ rfl).join 2 _ rfl).join 8 _ rfl).join 15 _ rfl
  have chronicle := begun.steps (fun _ _ => trivial) 25
  rw [List.nil_append] at chronicle
  obtain ⟨positions, targets⟩ := position_is_landed chronicle
  have landed : done.world.host.landed? ⟨"m"⟩ = some ⟨5, 5⟩ := by decide +kernel
  refine ⟨chronicle, by decide +kernel, fun source found => ?_, ?_⟩
  · rw [positions _ source found]
    exact congrArg (·.getD .origin) landed
  -- The section in which the last move settles, with the one in which it began.
  · have settles : (log[17]?.bind fun advance => advance.passage?.map fun passage =>
        (passage.slot.isSettled, passage.next.isSettled, passage.next.error?.isNone,
          ((trail (log.take 17 ++ [advance])).filter (·.spot = passage.spot)).filterMap
            (·.slot.action?))) = some (false, true, true, [moving .pointer 0 0]) := by
      decide +kernel
    obtain ⟨advance, found, settles⟩ := Option.bind_eq_some_iff.mp settles
    obtain ⟨passage, passes, settles⟩ := Option.map_eq_some_iff.mp settles
    simp only [Prod.mk.injEq] at settles
    obtain ⟨live, settled, fine, began⟩ := settles
    have ends : passage.next = .settled (.ok ()) := Slot.eq_done settled fine
    obtain ⟨first, member, ready⟩ := List.mem_filterMap.mp (began ▸ List.mem_cons_self)
    obtain ⟨short, rfl⟩ := List.getElem?_eq_some_iff.mp found
    have split : log = log.take 17 ++ log[17] :: log.drop 18 := by
      rw [List.getElem_cons_drop, List.take_append_drop]
    obtain ⟨base, source, based, stored, offset⟩ :=
      targets _ _ _ passage split passes live ends first member (moving .pointer 0 0) none .pointer
        0 0 (Slot.eq_ready ready) rfl
    exact ⟨_, passage, _, base, source, List.mem_of_getElem? found, passes, ends, based, stored,
      offset⟩

end Schedule

end InputActions
