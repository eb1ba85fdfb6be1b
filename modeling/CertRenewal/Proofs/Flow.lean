import CertRenewal.Proofs.Traffic

/-!
What comes into the lanes and what comes out of them. Every event keeps the balance:
what is in a lane afterwards and what came out of it is what was in it and what
came in, in this order.
-/

namespace CertRenewal

namespace Lane

def served (lane : Lane) : List RequestId := (lane.current.map (·.1)).toList

/-- The requests of a lane, the one that is served before those that wait. -/
def pending (lane : Lane) : List RequestId := lane.served ++ lane.waiting.map (·.id)

end Lane

namespace Traffic

def currentOf (traffic : Traffic) : LaneId → List RequestId :=
  readLane Lane.served [] traffic.lanes

def pendingOf (traffic : Traffic) : LaneId → List RequestId :=
  readLane Lane.pending [] traffic.lanes

/-- The open lane takes requests, and a lane whose worker has ended has none. -/
structure Kept (traffic : Traffic) : Prop where
  opens : ∀ lane, traffic.openLane = some lane →
    ∃ held : Lane, traffic.lanes[lane]? = some held ∧ held.isShut = false
  drained : ∀ (lane : LaneId) (held : Lane), traffic.lanes[lane]? = some held →
    held.isDrained = true → held.isShut = true ∧ held.pending = []
  going : ∀ (lane : LaneId) (held : Lane) (id : RequestId) (operation : Operation),
    traffic.lanes[lane]? = some held → held.current = some (id, operation) →
      ∀ outcome, operation.stage ≠ .ended outcome

variable {traffic next : Traffic} {mover : Option LaneId} {asks : Request → Prop} {lane : LaneId}
  {held new : Lane}

theorem Kept.congr (kept : traffic.Kept) (lanes : next.lanes = traffic.lanes)
    (opened : next.openLane = traffic.openLane) : next.Kept := by
  refine ⟨?_, ?_, ?_⟩
  · intro lane isOpen
    rw [lanes]
    exact kept.opens lane (opened ▸ isOpen)
  · intro lane held found
    exact kept.drained lane held (lanes ▸ found)
  · intro lane held id operation found
    exact kept.going lane held id operation (lanes ▸ found)

/-- A lane may be replaced by one that is neither shut nor drained on that
occasion. -/
theorem Kept.set_lane (kept : traffic.Kept) (found : traffic.lanes[lane]? = some held)
    (lanes : next.lanes = traffic.lanes.set lane new) (opened : next.openLane = traffic.openLane)
    (shut : new.isShut = held.isShut)
    (drained : new.isDrained = true → new.isShut = true ∧ new.pending = [])
    (going : ∀ id operation, new.current = some (id, operation) →
      ∀ outcome, operation.stage ≠ .ended outcome) : next.Kept := by
  have bound := (List.getElem?_eq_some_iff.mp found).1
  have replaced (other : LaneId) : next.lanes[other]? =
      if lane = other then some new else traffic.lanes[other]? := by
    rw [lanes, List.getElem?_set]
    by_cases same : lane = other
    · subst same
      simp [bound]
    · simp [same]
  refine ⟨?_, ?_, ?_⟩
  · intro other isOpen
    obtain ⟨old, present, unshut⟩ := kept.opens other (opened ▸ isOpen)
    rw [replaced]
    by_cases same : lane = other
    · subst same
      rw [found, Option.some.injEq] at present
      rw [if_pos rfl]
      exact ⟨new, rfl, by rw [shut, present, unshut]⟩
    · rw [if_neg same]
      exact ⟨old, present, unshut⟩
  · intro other there present ended
    rw [replaced] at present
    split at present
    · rw [Option.some.injEq] at present
      subst present
      exact drained ended
    · exact kept.drained other there present ended
  · intro other there id operation present current
    rw [replaced] at present
    split at present
    · rw [Option.some.injEq] at present
      subst present
      exact going id operation current
    · exact kept.going other there id operation present current

theorem pending_of_current {id : RequestId} {operation : Operation}
    (current : held.current = some (id, operation)) : held.pending ≠ [] := by
  simp [Lane.pending, Lane.served, current]

theorem pending_of_waiting {queued : Queued} {rest : List Queued}
    (waiting : held.waiting = queued :: rest) : held.pending ≠ [] := by
  simp [Lane.pending, waiting]

theorem Kept.undrained (kept : traffic.Kept) (found : traffic.lanes[lane]? = some held)
    (pending : held.pending ≠ []) : held.isDrained ≠ true :=
  fun ended => pending (kept.drained lane held found ended).2

theorem Kept.not_open (kept : traffic.Kept) (found : traffic.lanes[lane]? = some held)
    (shut : held.isShut = true) : traffic.openLane ≠ some lane := by
  intro isOpen
  obtain ⟨there, present, unshut⟩ := kept.opens lane isOpen
  rw [found, Option.some.injEq] at present
  rw [← present, shut] at unshut
  cases unshut

theorem Submission.kept (kept : traffic.Kept) (submission : Submission asks traffic next) :
    next.Kept := by
  cases submission with
  | accept request lane isOpen =>
      obtain ⟨held, found, unshut⟩ := kept.opens lane isOpen
      refine kept.set_lane found (modify_found found) rfl rfl (fun ended => ?_)
        (fun id operation current => kept.going lane held id operation found current)
      have shut := (kept.drained lane held found ended).1
      rw [unshut] at shut
      cases shut
  | refuse isClosed => exact kept.congr rfl rfl

theorem Submissions.kept (kept : traffic.Kept)
    (submissions : Relation.ReflTransGen (Submission asks) traffic next) : next.Kept := by
  induction submissions with
  | refl => exact kept
  | tail _ last induction => exact last.kept induction

theorem Step.kept (kept : traffic.Kept) (step : Step mover asks traffic next) : next.Kept := by
  cases step with
  | rest listeners => exact kept.congr rfl rfl
  | submit listeners next host submissions =>
      have asked : ({ traffic with listeners := listeners } : Traffic).Kept := kept.congr rfl rfl
      exact Submissions.kept asked submissions
  | opened isClosed =>
      have old (lane : LaneId) (held : Lane) (found : (traffic.lanes ++ [Lane.fresh])[lane]? =
          some held) : traffic.lanes[lane]? = some held ∨ held = Lane.fresh := by
        rw [List.getElem?_append] at found
        split at found
        · exact .inl found
        · right
          simpa using List.mem_of_getElem? found
      refine ⟨?_, ?_, ?_⟩
      · intro lane isOpen
        obtain rfl := Option.some.inj isOpen
        exact ⟨Lane.fresh, by simp, rfl⟩
      · intro lane held found ended
        rcases old lane held found with before | rfl
        · exact kept.drained lane held before ended
        · cases ended
      · intro lane held id operation found current
        rcases old lane held found with before | rfl
        · exact kept.going lane held id operation before current
        · cases current
  | shut lane isOpen =>
      obtain ⟨held, found, unshut⟩ := kept.opens lane isOpen
      have old (other : LaneId) (there : Lane) (present : (traffic.lanes.modify lane
          fun held => { held with isShut := true })[other]? = some there) :
          traffic.lanes[other]? = some there ∨
            there = { held with isShut := true } := by
        rw [modify_found found, List.getElem?_set] at present
        split at present
        · split at present
          · exact .inr (Option.some.inj present).symm
          · cases present
        · exact .inl present
      refine ⟨fun other isOpen => (nomatch isOpen), ?_, ?_⟩
      · intro other there present ended
        rcases old other there present with before | rfl
        · exact kept.drained other there before ended
        · exact ⟨rfl, (kept.drained lane held found ended).2⟩
      · intro other there id operation present current
        rcases old other there present with before | rfl
        · exact kept.going other there id operation before current
        · exact kept.going lane held id operation found current
  | carry lane held id operation next worker found current going =>
      refine kept.set_lane found rfl rfl rfl (fun ended => ?_) fun other after same => ?_
      · have undrained := kept.undrained found (pending_of_current current)
        exact absurd ended undrained
      · rw [Option.some.injEq, Prod.mk.injEq] at same
        exact same.2 ▸ going
  | takeUp lane held queued rest worker found idle waiting =>
      refine kept.set_lane found rfl rfl rfl (fun ended => ?_) fun other after same => ?_
      · have undrained := kept.undrained found (pending_of_waiting waiting)
        exact absurd ended undrained
      · rw [Option.some.injEq, Prod.mk.injEq] at same
        rw [← same.2]
        exact fun outcome => (nomatch ·)
  | deliver lane held id operation outcome worker found current =>
      refine kept.set_lane found rfl rfl rfl (fun ended => ?_) fun other after same => nomatch same
      have undrained := kept.undrained found (pending_of_current current)
      exact absurd ended undrained
  | drain lane held worker found idle empty shut =>
      refine kept.set_lane found rfl rfl rfl (fun _ => ⟨shut, ?_⟩) fun other after same => ?_
      · simp [Lane.pending, Lane.served, idle, empty]
      · rw [idle] at same
        cases same

def newcomers (traffic next : Traffic) : List RequestId :=
  List.range' traffic.submitted (next.submitted - traffic.submitted)

/-- The answers that were given meanwhile, in order. -/
def newAnswers (traffic next : Traffic) : List (RequestId × Outcome) :=
  (next.answers.take (next.answers.length - traffic.answers.length)).reverse

/-- What goes into the program and into its lanes is what is in them afterwards and
what came out of them, in the same order. -/
structure Flow (mover : Option LaneId) (traffic next : Traffic) (came : List RequestId)
    (given : List (RequestId × Outcome)) : Prop where
  submitted : came = List.range' traffic.submitted came.length ∧
    next.submitted = traffic.submitted + came.length
  answers : next.answers = given.reverse ++ traffic.answers
  heard : next.heard = (given.filter (·.1 ∈ next.listeners)).reverse ++ traffic.heard
  pending : ∀ lane, (if mover = some lane then given.map (·.1) else []) ++ next.pendingOf lane =
    traffic.pendingOf lane ++ if traffic.openLane = some lane then came else []
  served : ∀ lane, (if mover = some lane then given.map (·.1) else []) ++ next.currentOf lane =
    traffic.currentOf lane ++
      if traffic.currentOf lane = [] then next.currentOf lane else []
  refused : (if mover = none then given else []) =
    if traffic.openLane = none then came.map fun id => (id, .error .cancelled) else []
  places : (given.map (·.1) ++ next.lanes.flatMap Lane.pending).Perm
    (traffic.lanes.flatMap Lane.pending ++ came)

theorem Flow.newcomers {came : List RequestId} {given : List (RequestId × Outcome)}
    (flow : Flow mover traffic next came given) : newcomers traffic next = came := by
  unfold Traffic.newcomers
  rw [flow.submitted.2, Nat.add_sub_cancel_left]
  exact flow.submitted.1.symm

theorem new_answers_of {given : List (RequestId × Outcome)}
    (answers : next.answers = given.reverse ++ traffic.answers) :
    newAnswers traffic next = given := by
  unfold newAnswers
  rw [answers, List.length_append, Nat.add_sub_cancel, List.take_left', List.reverse_reverse]
  rfl

theorem Flow.new_answers {came : List RequestId} {given : List (RequestId × Outcome)}
    (flow : Flow mover traffic next came given) : newAnswers traffic next = given := by
  exact new_answers_of flow.answers

theorem flow_of_quiet (submitted : next.submitted = traffic.submitted)
    (answers : next.answers = traffic.answers) (heard : next.heard = traffic.heard)
    (pending : ∀ lane, next.pendingOf lane = traffic.pendingOf lane)
    (served : ∀ lane, next.currentOf lane = traffic.currentOf lane)
    (places : next.lanes.flatMap Lane.pending = traffic.lanes.flatMap Lane.pending) :
    Flow mover traffic next [] [] where
  submitted := ⟨rfl, submitted⟩
  answers := answers
  heard := heard
  pending lane := by simp [pending]
  served lane := by
    rw [served]
    simp
  refused := by simp
  places := by simp [places]

theorem flat_map_set (part : Lane → List RequestId) (lanes : List Lane) (new : Lane)
    (found : lanes[lane]? = some held) :
    (part held ++ (lanes.set lane new).flatMap part).Perm
      (part new ++ lanes.flatMap part) := by
  induction lanes generalizing lane with
  | nil => cases found
  | cons first rest induction =>
      cases lane with
      | zero =>
          obtain rfl := Option.some.inj found
          simp only [List.set_cons_zero, List.flatMap_cons, ← List.append_assoc]
          exact List.perm_append_comm.append_right _
      | succ lane =>
          have later := induction found
          simp only [List.set_cons_succ, List.flatMap_cons]
          have before := List.perm_append_comm_assoc (part held) (part first)
            ((rest.set lane new).flatMap part)
          have after := List.perm_append_comm_assoc (part first) (part new) (rest.flatMap part)
          exact before.trans ((later.append_left (part first)).trans after)

theorem flat_map_set_same {lanes : List Lane} (part : Lane → List RequestId)
    (found : lanes[lane]? = some held) (same : part new = part held) :
    (lanes.set lane new).flatMap part = lanes.flatMap part := by
  induction lanes generalizing lane with
  | nil => cases found
  | cons first rest induction =>
      cases lane with
      | zero =>
          obtain rfl := Option.some.inj found
          simp [same]
      | succ lane => simp [induction found]

theorem flow_of_lane (found : traffic.lanes[lane]? = some held)
    (submitted : next.submitted = traffic.submitted)
    (answers : next.answers = traffic.answers) (heard : next.heard = traffic.heard)
    (lanes : next.lanes = traffic.lanes.set lane new) (served : new.served = held.served)
    (pending : new.pending = held.pending) : Flow mover traffic next [] [] := by
  refine flow_of_quiet submitted answers heard ?_ ?_ ?_
  · intro other
    unfold pendingOf
    rw [lanes]
    exact read_lane_set_same found pending other
  · intro other
    unfold currentOf
    rw [lanes]
    exact read_lane_set_same found served other
  · rw [lanes]
    exact flat_map_set_same Lane.pending found pending

/-- The answers to requests that come while no lane is open. -/
def refusals (traffic : Traffic) (came : List RequestId) : List (RequestId × Outcome) :=
  if traffic.openLane = none then came.map fun id => (id, .error .cancelled) else []

/-- Requests that come one after another, and nothing else. -/
structure Arrivals (traffic next : Traffic) (came : List RequestId) : Prop where
  submitted : came = List.range' traffic.submitted came.length ∧
    next.submitted = traffic.submitted + came.length
  openLane : next.openLane = traffic.openLane
  listeners : next.listeners = traffic.listeners
  answers : next.answers = (traffic.refusals came).reverse ++ traffic.answers
  heard : next.heard =
    ((traffic.refusals came).filter (·.1 ∈ next.listeners)).reverse ++ traffic.heard
  pending : ∀ lane, next.pendingOf lane =
    traffic.pendingOf lane ++ if traffic.openLane = some lane then came else []
  served : ∀ lane, next.currentOf lane = traffic.currentOf lane
  places : ((traffic.refusals came).map (·.1) ++ next.lanes.flatMap Lane.pending).Perm
    (traffic.lanes.flatMap Lane.pending ++ came)

theorem arrivals_refl (traffic : Traffic) : Arrivals traffic traffic [] := by
  constructor <;> simp [refusals]

theorem Arrivals.numbered {came : List RequestId} (arrivals : Arrivals traffic next came) :
    came ++ [next.submitted] =
        List.range' traffic.submitted (came ++ [next.submitted]).length ∧
      next.submitted + 1 = traffic.submitted + (came ++ [next.submitted]).length := by
  rw [List.length_append, List.length_singleton]
  constructor
  · rw [List.range'_concat, Nat.one_mul, ← arrivals.submitted.1, ← arrivals.submitted.2]
  · rw [arrivals.submitted.2, Nat.add_assoc]

theorem Arrivals.accepted {came : List RequestId} (arrivals : Arrivals traffic next came)
    (request : Request) (isOpen : next.openLane = some lane)
    (found : next.lanes[lane]? = some held) :
    Arrivals traffic { next with
      submitted := next.submitted + 1
      lanes := next.lanes.modify lane fun held =>
        { held with waiting := held.waiting ++ [⟨next.submitted, request⟩] } }
      (came ++ [next.submitted]) := by
  -- the lane stays open for all that come, so none of them was refused
  have opened : traffic.openLane = some lane := arrivals.openLane ▸ isOpen
  have none (came : List RequestId) : traffic.refusals came = [] := by
    simp [refusals, opened]
  have longer : Lane.pending { held with
      waiting := held.waiting ++ [⟨next.submitted, request⟩] } =
        held.pending ++ [next.submitted] := by
    simp [Lane.pending, Lane.served]
  refine ⟨arrivals.numbered, arrivals.openLane, arrivals.listeners, ?_, ?_, ?_, ?_, ?_⟩
  · rw [none, arrivals.answers, none]
  · rw [none, arrivals.heard, none]
  · intro other
    have before := arrivals.pending other
    unfold pendingOf at before ⊢
    rw [modify_found found, read_lane_set _ found]
    by_cases same : other = lane
    · subst same
      rw [read_lane_found found, if_pos opened] at before
      rw [if_pos rfl, if_pos opened, longer, before, List.append_assoc]
    · have elsewhere : traffic.openLane ≠ some other := by
        rw [opened]
        exact fun equal => same (Option.some.inj equal).symm
      rw [if_neg elsewhere] at before ⊢
      rw [if_neg same, before]
  · intro other
    rw [← arrivals.served other]
    have same (held : Lane) : Lane.served { held with
        waiting := held.waiting ++ [⟨next.submitted, request⟩] } = held.served := rfl
    exact read_lane_modify_same lane same other
  · have before := arrivals.places
    have set := flat_map_set Lane.pending next.lanes { held with
      waiting := held.waiting ++ [⟨next.submitted, request⟩] } found
    rw [none] at before ⊢
    rw [longer, List.append_assoc, List.perm_append_left_iff] at set
    rw [modify_found found, ← List.append_assoc]
    have last := List.perm_append_singleton next.submitted (next.lanes.flatMap Lane.pending)
    exact (set.trans last.symm).trans (before.append_right _)

theorem Arrivals.refused {came : List RequestId} (arrivals : Arrivals traffic next came)
    (isClosed : next.openLane = none) :
    Arrivals traffic ({ next with submitted := next.submitted + 1 }.answer next.submitted
      (.error .cancelled)) (came ++ [next.submitted]) := by
  have closed : traffic.openLane = none := arrivals.openLane ▸ isClosed
  have all (came : List RequestId) : traffic.refusals came =
      came.map fun id => (id, .error .cancelled) := if_pos closed
  refine ⟨arrivals.numbered, arrivals.openLane, arrivals.listeners, ?_, ?_, ?_,
    arrivals.served, ?_⟩
  · simp [answer, arrivals.answers, all]
  · have before := arrivals.heard
    rw [all] at before ⊢
    simp only [answer, List.map_append, List.filter_append, List.reverse_append,
      List.append_assoc]
    rw [← before]
    by_cases listens : next.submitted ∈ next.listeners <;> simp [listens]
  · intro other
    have before := arrivals.pending other
    rw [closed] at before ⊢
    exact before
  · have before := arrivals.places
    have ids (came : List RequestId) : (traffic.refusals came).map (·.1) = came := by
      rw [all, List.map_map]
      exact List.map_id came
    rw [ids] at before ⊢
    rw [List.append_assoc, ← List.append_assoc _ came]
    exact (List.perm_append_comm.append_left came).trans
      ((List.append_assoc _ _ _) ▸ before.append_right [next.submitted])

theorem Arrivals.more {last : Traffic} {came : List RequestId}
    (arrivals : Arrivals traffic next came) (kept : next.Kept)
    (submission : Submission asks next last) :
    Arrivals traffic last (came ++ [next.submitted]) := by
  cases submission with
  | accept request lane isOpen =>
      obtain ⟨held, found, -⟩ := kept.opens lane isOpen
      exact arrivals.accepted request isOpen found
  | refuse isClosed => exact arrivals.refused isClosed

theorem submissions_arrive (kept : traffic.Kept)
    (submissions : Relation.ReflTransGen (Submission asks) traffic next) :
    ∃ came, Arrivals traffic next came := by
  induction submissions with
  | refl => exact ⟨[], arrivals_refl traffic⟩
  | tail before last induction =>
      obtain ⟨came, arrivals⟩ := induction
      exact ⟨_, arrivals.more (Submissions.kept kept before) last⟩

theorem Arrivals.flow {listeners : List RequestId} {came : List RequestId}
    (arrivals : Arrivals { traffic with listeners := listeners } next came) :
    Flow none traffic next came (traffic.refusals came) where
  submitted := arrivals.submitted
  answers := arrivals.answers
  heard := arrivals.heard
  pending lane := arrivals.pending lane
  served lane := by
    have same : next.currentOf lane = traffic.currentOf lane := arrivals.served lane
    rw [same]
    simp
  refused := rfl
  places := arrivals.places

theorem flow_of_take_up (found : traffic.lanes[lane]? = some held)
    (idle : held.served = []) (same : new.pending = held.pending) :
    Flow mover traffic { traffic with lanes := traffic.lanes.set lane new } [] [] where
  submitted := ⟨rfl, rfl⟩
  answers := rfl
  heard := rfl
  pending other := by
    unfold pendingOf
    rw [read_lane_set_same found same]
    simp
  served other := by
    unfold currentOf
    rw [read_lane_set new found]
    by_cases itself : other = lane
    · subst itself
      simp [read_lane_found found, idle]
    · simp [itself]
  refused := by simp
  places := by simp [flat_map_set_same Lane.pending found same]

theorem flow_of_delivery {id : RequestId} {outcome : Outcome} (worker : mover = some lane)
    (found : traffic.lanes[lane]? = some held) (served : held.served = [id])
    (idle : new.served = []) (rest : held.pending = id :: new.pending) :
    Flow mover traffic
      ({ traffic with lanes := traffic.lanes.set lane new }.answer id outcome)
      [] [(id, outcome)] where
  submitted := ⟨rfl, rfl⟩
  answers := rfl
  heard := by
    by_cases listens : id ∈ traffic.listeners <;> simp [answer, listens]
  pending other := by
    unfold pendingOf answer
    rw [read_lane_set new found]
    by_cases itself : other = lane
    · subst itself
      simp [read_lane_found found, worker, rest]
    · have elsewhere : mover ≠ some other := by
        rw [worker]
        exact fun equal => itself (Option.some.inj equal).symm
      simp [itself, elsewhere]
  served other := by
    unfold currentOf answer
    rw [read_lane_set new found]
    by_cases itself : other = lane
    · subst itself
      simp [read_lane_found found, worker, served, idle]
    · have elsewhere : mover ≠ some other := by
        rw [worker]
        exact fun equal => itself (Option.some.inj equal).symm
      simp [itself, elsewhere]
  refused := by simp [worker]
  places := by
    have set := flat_map_set Lane.pending traffic.lanes new found
    have first : held.pending = [id] ++ new.pending := rest
    rw [first, List.append_assoc] at set
    have moved := (List.perm_append_comm_assoc [id] new.pending _).symm.trans set
    rw [List.append_nil]
    exact (List.perm_append_left_iff new.pending).mp moved

theorem Step.flow (kept : traffic.Kept) (step : Step mover asks traffic next) :
    ∃ came given, Flow mover traffic next came given := by
  cases step with
  | rest listeners => exact ⟨[], [], flow_of_quiet rfl rfl rfl (fun _ => rfl) (fun _ => rfl) rfl⟩
  | submit listeners next host submissions =>
      have asked : ({ traffic with listeners := listeners } : Traffic).Kept := kept.congr rfl rfl
      obtain ⟨came, arrivals⟩ := submissions_arrive asked submissions
      subst host
      exact ⟨came, _, arrivals.flow⟩
  | opened isClosed =>
      refine ⟨[], [], flow_of_quiet rfl rfl rfl (fun lane => ?_) (fun lane => ?_) ?_⟩
      · exact read_lane_append Lane.fresh rfl lane
      · exact read_lane_append Lane.fresh rfl lane
      · simp [Lane.fresh, Lane.pending, Lane.served]
  | shut lane isOpen =>
      obtain ⟨held, found, -⟩ := kept.opens lane isOpen
      exact ⟨[], [], flow_of_lane found rfl rfl rfl (modify_found found) rfl rfl⟩
  | carry lane held id operation after worker found current going =>
      have served : Lane.served { held with current := some (id, after) } = held.served := by
        simp [Lane.served, current]
      refine ⟨[], [], flow_of_lane found rfl rfl rfl rfl served ?_⟩
      simp only [Lane.pending, served]
  | takeUp lane held queued rest worker found idle waiting =>
      refine ⟨[], [], flow_of_take_up found ?_ ?_⟩
      · simp [Lane.served, idle]
      · simp [Lane.pending, Lane.served, idle, waiting]
  | deliver lane held id operation outcome worker found current =>
      refine ⟨[], [(id, outcome)], flow_of_delivery worker found ?_ rfl ?_⟩
      · simp [Lane.served, current]
      · simp [Lane.pending, Lane.served, current]
  | drain lane held worker found idle empty shut =>
      exact ⟨[], [], flow_of_lane found rfl rfl rfl rfl rfl rfl⟩

end Traffic

end CertRenewal
