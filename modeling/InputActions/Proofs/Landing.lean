import InputActions.Proofs.Asking
import InputActions.Proofs.Conserving
import InputActions.Proofs.Latency
import InputActions.Proofs.Staying
import InputActions.Proofs.Stray

/-!
# Accepted moves

A pointer is put somewhere in one way only: the surface has accepted a mousemove that leads there.
So at every moment a pointer is where the surface has last accepted a move of it
(`Schedule.Chronicle.lands`), however many moves of one pointer run together and wherever they fail.
What an action waits for is found in the journal by the number of its answer (`Slot.Tracks`), so the
answers tell which moves were accepted, and in which order.
-/
namespace InputActions

/-! ### Positions -/

/-- Where a source is. Only a pointer ever leaves the origin. -/
def Source.position : Source → Point
  | .pointer s => s.position
  | _ => .origin

theorem Source.position_hold? {source next : Source} {trigger : Trigger}
    (h : source.hold? trigger = some next) : next.position = source.position := by
  cases source <;> cases trigger <;> simp [hold?] at h <;> subst h <;> rfl

theorem Source.position_lift? {source next : Source} {trigger : Trigger}
    (h : source.lift? trigger = some next) : next.position = source.position := by
  cases source <;> cases trigger <;> simp [lift?] at h <;> subst h <;> rfl

theorem Source.position_fresh (kind : SourceKind) : (fresh kind).position = .origin := by
  cases kind <;> rfl

namespace Store

/-- Where the source of a name is; a name that is free counts as one at the origin. -/
def position (store : Store) (id : SourceId) : Point :=
  match store[id]? with
  | some source => source.position
  | none => .origin

theorem position_of_getElem? {store : Store} {id : SourceId} {source : Source}
    (found : store[id]? = some source) : store.position id = source.position := by
  rw [position, found]

theorem position_put (store : Store) (id other : SourceId) (source : Source) :
    position (store.insert id source) other =
      if other = id then source.position else store.position other := by
  rw [position, getElem?_put]
  by_cases same : other = id
  · rw [if_pos same, if_pos same]
  · rw [if_neg same, if_neg same]
    rfl

/-- A source that gives way to one at the same place leaves all positions as they are. -/
theorem position_put_of_same {store : Store} {id : SourceId} {source next : Source}
    (found : store[id]? = some source) (same : next.position = source.position)
    (other : SourceId) : position (store.insert id next) other = store.position other := by
  rw [position_put]
  split
  next equal => rw [equal, position_of_getElem? found, same]
  · rfl

theorem position_empty (id : SourceId) : position ∅ id = .origin := by
  rw [position, Std.ExtTreeMap.getElem?_empty]

/-- A source that is registered is at the origin, where its name was before. -/
theorem Grows.position {store next : Store} (h : store.Grows next) (id : SourceId) :
    next.position id = store.position id := by
  cases found : store[id]? with
  | some source => rw [position_of_getElem? found, position_of_getElem? (h.keeps found)]
  | none =>
    have free : store.position id = .origin := by rw [Store.position, found]
    rw [free]
    cases now : next[id]? with
    | none => rw [Store.position, now]
    | some source =>
      rw [position_of_getElem? now]
      rcases h.adds now with old | ⟨kind, rfl⟩
      · cases found.symm.trans old
      · exact Source.position_fresh kind

end Store

/-! ### Accepted moves -/

/-- Where a pointer goes by an event that the surface accepts. -/
def Injection.accepted? (injection : Injection) : Option (SourceId × Point) :=
  if injection.refusal.isNone then injection.landing? else none

namespace Host

/-- The moves that the surface has accepted, in the order of its answers. -/
def landings (host : Host) : List (SourceId × Point) :=
  host.answered.filterMap fun number => host.journal[number]?.bind Injection.accepted?

/-- Where a pointer was when the surface last accepted a move of it. -/
def landed? (host : Host) (id : SourceId) : Option Point :=
  ((host.landings.filter (·.1 = id)).getLast?).map (·.2)

/-- Answers are numbered like the events of the journal. -/
structure Numbered (host : Host) : Prop where
  count : host.journal.length = host.tally.injections
  known : ∀ number ∈ host.answered, number < host.journal.length

/-- A landing counts for its own pointer. -/
theorem landed?_of_landings {host next : Host} {landing? : Option (SourceId × Point)}
    (h : next.landings = host.landings ++ landing?.toList) (id : SourceId) :
    next.landed? id =
      ((landing?.filter (·.1 = id)).map (·.2)).or (host.landed? id) := by
  rw [landed?, landed?, h, List.filter_append]
  cases landing? with
  | none => simp
  | some landing =>
    by_cases own : landing.1 = id <;> simp [own, Option.filter]

end Host

/-- The move that an action waits to complete, if the surface has accepted it. -/
def Slot.accepted? (slot : Slot) : Option (SourceId × Point) :=
  slot.landing?.bind fun (id, target, verdict) =>
    if verdict.refusal.isNone then some (id, target) else none

theorem Wait.verdict?_of_landing? {wait : Wait} {id : SourceId} {target : Point}
    {verdict : Verdict} (h : wait.landing? = some (id, target, verdict)) :
    wait.verdict? = some verdict := by
  cases wait <;> simp_all [landing?, verdict?]

/-! ### Actions and the journal -/

/-- The answer that an action waits for is that to an event of the journal, and what it moves is a
mouse. -/
def Slot.Tracks (world : World) : Slot → Prop
  | .waiting _ wait =>
    (∀ verdict, wait.verdict? = some verdict → ∃ injection,
      world.host.journal[verdict.number]? = some injection ∧
        wait.Expects verdict.number injection) ∧
    ∀ id target verdict, wait.landing? = some (id, target, verdict) → world.inputs.IsMouse id
  | _ => True

namespace Slot

variable {slot : Slot} {world after : World}

/-- The journal only grows, and a mouse stays one. -/
theorem Tracks.later (h : slot.Tracks world) {told : List Injection}
    (journal : after.host.journal = world.host.journal ++ told)
    (mice : ∀ id, world.inputs.IsMouse id → after.inputs.IsMouse id) : slot.Tracks after := by
  cases slot with
  | waiting wake wait =>
    obtain ⟨awaits, mouse⟩ := h
    refine ⟨fun verdict awaited => ?_, fun id target verdict lands => ?_⟩
    · obtain ⟨injection, found, expects⟩ := awaits verdict awaited
      refine ⟨injection, ?_, expects⟩
      rw [journal, List.getElem?_append_left (List.getElem?_eq_some_iff.mp found).1]
      exact found
    · exact mice id (mouse id target verdict lands)
  | _ => trivial

theorem Tracks.number_lt (h : slot.Tracks world) {verdict : Verdict}
    (awaits : slot.verdict? = some verdict) : verdict.number < world.host.journal.length := by
  cases slot with
  | waiting wake wait =>
    obtain ⟨injection, found, -⟩ := h.1 verdict awaits
    exact (List.getElem?_eq_some_iff.mp found).1
  | _ => cases awaits

theorem Tracks.mouse (h : slot.Tracks world) {id : SourceId} {target : Point}
    (accepted : slot.accepted? = some (id, target)) : world.inputs.IsMouse id := by
  obtain ⟨⟨name, point, verdict⟩, lands, accepts⟩ := Option.bind_eq_some_iff.mp accepted
  have same : name = id := by
    dsimp only at accepts
    split at accepts
    · cases accepts
      rfl
    · cases accepts
  cases slot with
  | waiting wake wait => exact same ▸ h.2 name point verdict lands
  | _ => cases lands

/-- Who waits for no answer has nothing accepted. -/
theorem accepted?_of_none (idle : slot.verdict? = none) : slot.accepted? = none := by
  cases lands : slot.landing? with
  | none => rw [Slot.accepted?, lands, Option.bind_none]
  | some landing =>
    cases slot with
    | waiting wake wait =>
      cases idle.symm.trans (Wait.verdict?_of_landing? lands)
    | _ => cases lands

/-- What an action waits to complete is what the surface has accepted. -/
theorem Tracks.accepted? (h : slot.Tracks world) {verdict : Verdict}
    (awaits : slot.verdict? = some verdict) :
    world.host.journal[verdict.number]?.bind Injection.accepted? = slot.accepted? := by
  cases slot with
  | waiting wake wait =>
    obtain ⟨injection, found, expects⟩ := h.1 verdict awaits
    have same : verdict = ⟨verdict.number, injection.refusal⟩ :=
      Option.some.inj (awaits.symm.trans expects.verdict)
    rw [found, Option.bind_some, Injection.accepted?, expects.landing, Slot.accepted?, landing?]
    cases lands : wait.landing? with
    | none => simp
    | some landing =>
      obtain ⟨id, target, own⟩ := landing
      have own_eq : own = verdict :=
        Option.some.inj ((Wait.verdict?_of_landing? lands).symm.trans awaits)
      rw [own_eq, same]
      rfl
  | _ => cases awaits

/-! ### Sections -/

/-- What was accepted is where the mouse goes. -/
theorem step_of_accepted (tracks : slot.Tracks world) {id : SourceId} {target : Point}
    (accepted : slot.accepted? = some (id, target)) (context : Context) (duration : UInt64) :
    (slot.step context duration world).1.inputs = world.inputs.place id target := by
  cases slot with
  | waiting wake wait =>
    obtain ⟨⟨name, point, verdict⟩, lands, accepts⟩ := Option.bind_eq_some_iff.mp accepted
    have lands : wait.landing? = some (name, point, verdict) := lands
    obtain ⟨source, mouse⟩ := (tracks.2 name point verdict lands).found
    cases refusal : verdict.refusal with
    | some error => simp [refusal] at accepts
    | none =>
      simp only [refusal, Option.isNone_none, if_true, Option.some.injEq, Prod.mk.injEq] at accepts
      obtain ⟨rfl, rfl⟩ := accepts
      cases wait with
      | step | arrival =>
        simp only [Wait.landing?, Option.some.injEq, Prod.mk.injEq] at lands
        obtain ⟨rfl, rfl, rfl⟩ := lands
        simp [step, Wait.resume, refusal, World.acknowledge, Inputs.arrive_eq _ _ _ mouse,
          World.awaitSample]
      | _ => cases lands
  | _ => cases accepted

/-- Nothing else moves a pointer. -/
theorem Turn.position {next : Slot} (h : slot.Turn world after next) {id : SourceId}
    (apart : ∀ target, slot.accepted? ≠ some (id, target)) :
    after.inputs.store.position id = world.inputs.store.position id := by
  cases h with
  | press _ _ found holds inputs =>
    rw [inputs]
    exact Store.position_put_of_same found (Source.position_hold? holds) id
  | lift _ found _ lifts inputs =>
    rw [inputs]
    exact Store.position_put_of_same found (Source.position_lift? lifts) id
  | takeBack _ _ found holds inputs =>
    rw [inputs]
    exact Store.position_put_of_same found (Source.position_hold? holds) id
  | pass => rfl
  | deny => rfl
  | lose _ _ _ inputs => rw [inputs]
  | land _ _ inputs => rw [inputs]
  | still inputs => rw [inputs]
  | @arrive _ _ own _ target _ _ _ inputs _ _ lands =>
    obtain ⟨verdict, lands, accepted⟩ := lands
    have other : id ≠ own := by
      rintro rfl
      exact apart target (by simp [accepted?, landing?, lands, accepted])
    rw [inputs]
    exact (Store.position_put _ _ _ _).trans (if_neg other)

/-- A section puts a pointer where the surface has accepted it. -/
theorem step_position (tracks : slot.Tracks world) (context : Context) (duration : UInt64)
    (id : SourceId) :
    (slot.step context duration world).1.inputs.store.position id =
      ((slot.accepted?.filter (·.1 = id)).map (·.2)).getD (world.inputs.store.position id) := by
  cases accepted : slot.accepted? with
  | none =>
    refine (slot.step_turn context duration world).position fun target => ?_
    rw [accepted]
    exact nofun
  | some landing =>
    obtain ⟨name, target⟩ := landing
    obtain ⟨source, mouse⟩ := (tracks.mouse accepted).found
    have found := (Store.mouse_eq_ok mouse).1
    rw [step_of_accepted tracks accepted, Inputs.place]
    by_cases own : name = id
    · subst own
      have moved : (world.inputs.store.setPosition name target)[name]? =
          some (.pointer { source with position := target }) := by
        rw [Store.getElem?_setPosition, found]
        simp [Source.moved, PointerSource.moved]
      rw [Store.position_of_getElem? moved]
      simp [Source.position, Option.filter]
    · have still : (world.inputs.store.setPosition name target).position id =
          world.inputs.store.position id := by
        rw [Store.setPosition, found]
        exact (Store.position_put _ _ _ _).trans (if_neg (Ne.symm own))
      rw [still]
      simp [own, Option.filter]

/-- A section adds to the moves that the surface has accepted the one that its action has waited
for. -/
theorem step_landings (numbered : world.host.Numbered) (tracks : slot.Tracks world)
    (context : Context) (duration : UInt64) :
    (slot.step context duration world).1.host.landings =
      world.host.landings ++ slot.accepted?.toList := by
  have asked := slot.step_asks context duration world
  generalize (slot.step context duration world).1 = after at asked ⊢
  obtain ⟨told, journal⟩ := asked.journal_eq
  rw [journal_heard] at journal
  have known (number : Nat) (early : number < world.host.journal.length) :
      after.host.journal[number]? = world.host.journal[number]? := by
    rw [journal, List.getElem?_append_left early]
  -- Whatever was answered before is about the journal as it was before.
  have old : world.host.answered.filterMap
      (fun number => after.host.journal[number]?.bind Injection.accepted?) =
        world.host.landings :=
    List.filterMap_congr fun number member => by rw [known number (numbered.known number member)]
  cases awaits : slot.verdict? with
  | none =>
    have none : slot.accepted? = none := accepted?_of_none awaits
    rw [Host.landings, asked.answered_eq, heard, awaits, none, old]
    exact (List.append_nil _).symm
  | some verdict =>
    rw [Host.landings, asked.answered_eq, heard, awaits]
    dsimp only [World.acknowledge]
    rw [Schedule.filterMap_concat, old, known _ (tracks.number_lt awaits), tracks.accepted? awaits]

/-- The numbers go on. -/
theorem step_numbered (numbered : world.host.Numbered) (tracks : slot.Tracks world)
    (context : Context) (duration : UInt64) :
    (slot.step context duration world).1.host.Numbered := by
  have asked := slot.step_asks context duration world
  generalize (slot.step context duration world).1 = after at asked ⊢
  generalize (slot.step context duration world).2 = next at asked
  obtain ⟨told, journal⟩ := asked.journal_eq
  rw [journal_heard] at journal
  constructor
  · have count := numbered.count
    cases asked with
    | nothing quiet =>
      rw [quiet.journal, quiet.injections, journal_heard, tally_heard, count]
    | asks _ journal injections =>
      rw [journal, injections, journal_heard, tally_heard, List.length_append, count]
      rfl
  · intro number member
    rw [journal, List.length_append]
    apply Nat.lt_add_right
    rw [asked.answered_eq, heard] at member
    cases awaits : slot.verdict? with
    | none =>
      rw [awaits] at member
      exact numbered.known number member
    | some verdict =>
      rw [awaits] at member
      rcases List.mem_append.mp member with old | new
      · exact numbered.known number old
      · rw [List.mem_singleton.mp new]
        exact tracks.number_lt awaits

/-- What an action asks for next can be looked up in the journal. -/
theorem step_tracks (slot : Slot) (numbered : world.host.Numbered) (context : Context)
    (duration : UInt64) :
    (slot.step context duration world).2.Tracks (slot.step context duration world).1 := by
  have asked := slot.step_asks context duration world
  generalize (slot.step context duration world).1 = after at asked ⊢
  generalize (slot.step context duration world).2 = next at asked ⊢
  cases asked with
  | nothing quiet idle =>
    cases next with
    | waiting wake wait =>
      have idle : wait.verdict? = none := idle
      refine ⟨fun verdict awaits => ?_, fun id target verdict lands => ?_⟩
      · cases idle.symm.trans awaits
      · cases idle.symm.trans (Wait.verdict?_of_landing? lands)
    | _ => trivial
  | @asks wake wait injection tells journal _ _ expects =>
    rw [tally_heard] at expects
    refine ⟨fun verdict awaits => ?_, fun id target verdict lands => ?_⟩
    · have own := Option.some.inj (awaits.symm.trans expects.verdict)
      refine ⟨injection, ?_, ?_⟩
      · rw [journal, journal_heard, own, ← numbered.count]
        exact List.getElem?_concat_length
      · rw [own]
        exact expects
    -- Whoever waits to land has told the surface of a move, and only mice are moved.
    · have moves : injection.landing? = some (id, target) := by
        rw [expects.landing, lands]
        rfl
      cases tells with
      | key told => simp [Injection.landing?, told] at moves
      | mouse told kind reflects =>
        obtain ⟨source, mouse, -⟩ := reflects.source
        have own : injection.source = id := by
          simp only [Injection.landing?, told] at moves
          split at moves
          · cases moves
            rfl
          · cases moves
        exact own ▸ Inputs.isMouse_of_found mouse
      | menu _ _ told => simp [Injection.landing?, told] at moves

end Slot

/-! ### Moments of a session -/

/-- The pointers are where the surface has last accepted them, and what is under way can be looked
up in the journal. -/
structure World.Lands (world : World) (slots : List Slot) : Prop where
  numbered : world.host.Numbered
  tracks : ∀ slot ∈ slots, slot.Tracks world
  landed : ∀ id, world.inputs.store.position id = (world.host.landed? id).getD .origin

namespace World

theorem Quiet.landings {before after : World} (h : before.Quiet after) :
    after.host.landings = before.host.landings := by
  rw [Host.landings, Host.landings, h.journal, h.answered]

theorem Quiet.numbered {before after : World} (h : before.Quiet after)
    (numbered : before.host.Numbered) : after.host.Numbered := by
  constructor
  · rw [h.journal, h.injections]
    exact numbered.count
  · rw [h.journal, h.answered]
    exact numbered.known

/-- A request that begins tells the surface nothing. -/
theorem quiet_start (world : World) (session : Session) (request : Request) :
    world.Quiet (world.start session request).1 := by
  cases request with
  | adjust change => cases change <;> exact ⟨rfl, rfl, rfl⟩
  | _ => exact quiet_of_host (world.host_start session nofun)

/-- Registering sources and taking what is owed moves no pointer. -/
theorem Lands.quiet {before after : World} {slots next : List Slot} (h : before.Lands slots)
    (quiet : before.Quiet after)
    (position : ∀ id, after.inputs.store.position id = before.inputs.store.position id)
    (fresh : ∀ slot ∈ next, ∃ action, slot = .ready action) : after.Lands next where
  numbered := quiet.numbered h.numbered
  tracks slot member := by
    obtain ⟨action, rfl⟩ := fresh slot member
    trivial
  landed id := by
    rw [position, h.landed, Host.landed?, Host.landed?, quiet.landings]

end World

/-- What an activity has in hand when it begins is still to begin. -/
theorem Activity.ready_of_isFresh {activity : Activity} (fresh : activity.IsFresh) :
    ∀ slot ∈ activity.slots, ∃ action, slot = .ready action := by
  cases activity with
  | ticking => exact fresh
  | releasing => exact fresh.elim
  | _ => exact List.forall_mem_nil _

theorem Activity.ready_ofEntries (context : Context) (now : Nat) (entries : List Action) :
    ∀ slot ∈ (ofEntries context now entries).slots, ∃ action, slot = .ready action := by
  cases entries with
  | nil => exact List.forall_mem_nil _
  | cons entry rest => exact fun slot member => ⟨entry, List.mem_singleton.mp member⟩

/-- A section of any activity keeps the pointers where the surface has accepted them. -/
theorem Activity.step_lands {activity : Activity} (session : Session) {world : World}
    (ready : activity.isReady world.now = true) (kept : activity.isReset = false)
    (h : world.Lands activity.slots) :
    (activity.step session world).1.Lands (activity.step session world).2.slots := by
  have turn := activity.step_turn session ready
  -- A request that begins is quiet. Later an action has a section, or a tick or entry ends.
  cases begun : activity.isPlanned with
  | true =>
    cases activity with
    | planned instant request =>
      have quiet : world.Quiet ((planned instant request).step session world).1 :=
        world.quiet_start session request
      generalize (Activity.step (.planned instant request) session world).1 = after at turn quiet ⊢
      generalize (Activity.step (.planned instant request) session world).2 = next at turn ⊢
      cases turn with
      | start grows _ _ fresh => exact h.quiet quiet grows.position (ready_of_isFresh fresh)
      | take => exact h.quiet quiet (fun _ => rfl) (ready_ofEntries _ _ _)
      | reset => cases kept
    | _ => cases begun
  | false =>
    have journal := Activity.step_journal session ready
    have mice (id : SourceId) (mouse : world.inputs.IsMouse id) :
        (activity.step session world).1.inputs.IsMouse id := turn.kind? kept mouse
    rcases activity.step_cases session ready begun with
      ⟨same, fresh⟩ | ⟨slot, member, context, duration, store, host, next⟩
    · exact h.quiet (World.quiet_of_host (by rw [same])) (fun _ => by rw [same]) fresh
    · have tracks := h.tracks slot member
      have landings := Slot.step_landings h.numbered tracks context duration
      constructor
      · rw [host]
        exact Slot.step_numbered h.numbered tracks context duration
      · intro other listed
        rcases next other listed with old | rfl | ⟨action, rfl⟩
        · exact (h.tracks other old).later journal mice
        · have own := slot.step_tracks h.numbered context duration
          refine own.later (by rw [host]; exact (List.append_nil _).symm) fun id mouse => ?_
          rw [Inputs.IsMouse, store]
          exact mouse
        · trivial
      · intro id
        rw [store, host, Slot.step_position tracks, Host.landed?_of_landings landings, h.landed]
        cases Option.map (·.2) (slot.accepted?.filter (·.1 = id)) <;> rfl

namespace Schedule

/-- The slots of all activities. -/
def slots (schedule : Schedule) : List Slot := schedule.activities.flatMap (·.slots)

theorem Moves.lands {s next : Schedule} (moved : s.Moves next) (kept : ¬ s.Resets)
    (h : s.world.Lands s.slots) : next.world.Lands next.slots := by
  cases moved with
  | elapse => exact ⟨h.numbered, h.tracks, h.landed⟩
  | @advance session world left activity right ready =>
    have known : activity.isReset = false := isReset_of_not_resets kept
    have mine : world.Lands activity.slots :=
      ⟨h.numbered, fun slot member => h.tracks slot (by simp [slots, member]), h.landed⟩
    have journal := Activity.step_journal session ready
    have turn := activity.step_turn session ready
    obtain ⟨numbered, tracks, landed⟩ := activity.step_lands session ready known mine
    refine ⟨numbered, fun slot member => ?_, landed⟩
    simp only [slots, List.flatMap_append, List.flatMap_cons, List.mem_append] at member
    -- The others have not moved, and what they wait for is in the journal still.
    have others (listed : slot ∈ slots ⟨session, world, left ++ activity :: right⟩) :
        slot.Tracks (activity.step session world).1 :=
      (h.tracks slot listed).later journal fun id mouse => turn.kind? known mouse
    rcases member with before | own | after
    · exact others (by simp [slots, before])
    · exact tracks slot own
    · exact others (by simp [slots, after])

variable {session : Session} {moves : Schedule → Schedule → Prop} {s : Schedule}
  {log : List Advance} {host : Host}

theorem Chronicle.lands (h : Chronicle Remembers moves ⟨session, .initial host.surface, []⟩ s log) :
    s.world.Lands s.slots := by
  have kept : ¬ Resets ⟨session, .initial host.surface, []⟩ := not_resets_of_idle rfl
  induction h with
  | begins =>
    refine ⟨⟨rfl, List.forall_mem_nil _⟩,
      List.forall_mem_nil _, fun id => ?_⟩
    exact Store.position_empty id
  | @join s log before instant request _ ih =>
    refine ⟨ih.numbered, fun slot member => ih.tracks slot ?_, ih.landed⟩
    simpa [slots, Schedule.join, Activity.slots] using member
  | elapse before later allowed ih => exact Moves.lands (.elapse later) (before.not_resets kept) ih
  | advance before ready allowed ih =>
    exact Moves.lands (.advance ready) (before.not_resets kept) ih

end Schedule

end InputActions
