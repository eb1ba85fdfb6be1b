import CertRenewal.Proofs.Draining
import CertRenewal.Proofs.Ledger
import CertRenewal.Proofs.Provenance
import CertRenewal.Proofs.SingleLane

/-!
What is seen of the requests of a queue that nobody closes: when they come, when each of
them has its turn, and how its call ends. An event takes the request that is served a step
further, or it only adds requests to the line.
-/

namespace CertRenewal

namespace Traffic

variable {traffic next : Traffic} {asks : Request → Prop}

/-- Requests under new numbers were added to a line, at its end. -/
def Longer (traffic next : Traffic) (lane : LaneId) : Prop :=
  ∃ came, next.requestsOf lane = traffic.requestsOf lane ++ came ∧
    ∀ queued ∈ came, traffic.submitted ≤ queued.id

theorem longer_of_same {lane : LaneId} (same : next.requestsOf lane = traffic.requestsOf lane) :
    Longer traffic next lane :=
  ⟨[], by rw [same, List.append_nil], fun _ member => nomatch member⟩

theorem Submission.longer (submission : Submission asks traffic next) (lane : LaneId) :
    Longer traffic next lane := by
  cases submission with
  | refuse isClosed => exact longer_of_same rfl
  | accept request opened isOpen asked =>
      cases found : traffic.lanes[opened]? with
      | none =>
          have same := List.getElem?_eq_none_iff.mp found
          refine longer_of_same ?_
          simp only [requestsOf, List.modify_eq_self same]
      | some held =>
          by_cases itself : lane = opened
          · refine ⟨[⟨traffic.submitted, request⟩], ?_, fun queued member => ?_⟩
            · simp only [requestsOf, modify_found found, read_lane_set _ found, itself, if_true,
                read_lane_found found]
              simp [Lane.requests]
            · have same := List.mem_singleton.mp member
              exact Nat.le_of_eq (congrArg Queued.id same).symm
          · refine longer_of_same ?_
            simp only [requestsOf, modify_found found, read_lane_set _ found, if_neg itself]

theorem Submissions.longer (submissions : Relation.ReflTransGen (Submission asks) traffic next)
    (lane : LaneId) : Longer traffic next lane := by
  induction submissions with
  | refl => exact longer_of_same rfl
  | tail before last induction =>
      obtain ⟨came, line, new⟩ := induction
      obtain ⟨more, longer, newer⟩ := last.longer lane
      refine ⟨came ++ more, by rw [longer, line, List.append_assoc], fun queued member => ?_⟩
      rcases List.mem_append.mp member with earlier | later
      · exact new queued earlier
      · exact Nat.le_trans (Submissions.more before) (newer queued later)

theorem Submissions.flights (submissions : Relation.ReflTransGen (Submission asks) traffic next)
    (lane : LaneId) : readLane Lane.flight? none next.lanes lane =
      readLane Lane.flight? none traffic.lanes lane := by
  induction submissions with
  | refl => rfl
  | tail before last induction =>
      rw [← induction]
      cases last with
      | refuse isClosed => rfl
      | accept request opened isOpen asked =>
          exact read_lane_modify_same opened (fun _ => by rfl) lane

/-- An event that moves no worker only adds requests to a line. -/
theorem Step.longer (step : Step none asks traffic next) (lane : LaneId) :
    Longer traffic next lane ∧ readLane Lane.flight? none next.lanes lane =
      readLane Lane.flight? none traffic.lanes lane := by
  cases step with
  | rest listeners => exact ⟨longer_of_same rfl, rfl⟩
  | submit listeners next host submissions =>
      have line := Submissions.longer submissions lane
      have flights := Submissions.flights submissions lane
      exact ⟨line, flights⟩
  | opened isClosed =>
      exact ⟨longer_of_same (read_lane_append Lane.fresh rfl lane),
        read_lane_append Lane.fresh rfl lane⟩
  | shut opened isOpen =>
      exact ⟨longer_of_same (read_lane_modify_same opened (fun _ => by rfl) lane),
        read_lane_modify_same opened (fun _ => by rfl) lane⟩
  | carry _ _ _ _ _ worker => cases worker
  | takeUp _ _ _ _ worker => cases worker
  | deliver _ _ _ _ _ worker => cases worker
  | drain _ _ worker => cases worker

end Traffic

namespace System

/-- The requests that come to the lanes in an event. -/
def arrivals (system : System) (event : Event) : List Queued :=
  ((system.apply event).lanes.flatMap Lane.requests).filter (system.submitted ≤ ·.id)

/-- What is seen of the operation of a request, when its worker is to take a step. -/
def observed {Item : Type} (see : TaskId → Operation → List Item) (system : System) :
    Event → List Item
  | .step task =>
    match system.attempt? task with
    | some (some _, operation) => see task operation
    | _ => []
  | _ => []

def turnOf (system : System) (task : TaskId) (operation : Operation) : List Turn :=
  match operation.stage with
  | .waiting alarm =>
    match system.lookInLine task alarm with
    | some (.timedOut, _) => [.missed]
    | _ => []
  | .admitted => [.taken system.now]
  | _ => []

def callEndOf (system : System) (operation : Operation) : List CallEnd :=
  if operation.stage = .concluding then
    [⟨(system.issuer.endRefresh system.now).1, system.storeRefusal⟩]
  else []

/-- How requests come to their turns, in the step in which one does. -/
def turns (system : System) (event : Event) : List Turn :=
  system.observed system.turnOf event

/-- How the calls of requests end, in the step in which one does. -/
def callEnds (system : System) (event : Event) : List CallEnd :=
  system.observed (fun _ => system.callEndOf) event

/-- The answers that the first lane gives in an event, each with what is stored then. -/
def servings (system : System) (event : Event) : List (RequestId × Outcome × Store) :=
  (givenBy (some 0) (system.replies event)).map fun answer =>
    (answer.1, answer.2, (system.apply event).store)

/-- The requests of the first lane, the one that is served before those that wait. -/
def line (system : System) : List Queued := system.traffic.requestsOf 0

end System

namespace Operation

def flight? (id : RequestId) (operation : Operation) : Option (RequestId × Request) :=
  if operation.stage.role = .refreshing then some (id, operation.request) else none

variable {id : RequestId} {operation : Operation}

theorem flight_flying (flies : operation.stage.role = .refreshing) :
    operation.flight? id = some (id, operation.request) := if_pos flies

theorem flight_grounded (grounded : operation.stage.role ≠ .refreshing) :
    operation.flight? id = none := if_neg grounded

theorem flight_ended {outcome : Outcome} (ended : operation.stage = .ended outcome) :
    operation.flight? id = none := flight_grounded (by simp [ended, Stage.role])

end Operation

namespace System

/-- What an event comes to for the first lane, when there is no other one. -/
inductive Shift (system : System) (event : Event) (next : System) : Prop
  | aside (turns : system.turns event = []) (ends : system.callEnds event = [])
      (servings : system.servings event = [])
      (store : next.store = system.store ∨ event = .readKeys ∧ next.store = system.store.keys.2)
      (refreshes : next.issuer.refreshes = system.issuer.refreshes)
      (flight : next.flightOf 0 = system.flightOf 0)
      (line : next.line = system.line ++ system.arrivals event)
  | attempt (task : TaskId) (id : RequestId) (operation after : Operation) (moved : System)
      (rest : List Queued) (step : OperationStep system task false operation moved after)
      (turns : system.turns event = system.turnOf task operation)
      (ends : system.callEnds event = system.callEndOf operation)
      (servings : system.servings event =
        after.stage.outcome?.toList.map fun outcome => (id, outcome, next.store))
      (store : next.store = moved.store) (issuer : next.issuer = moved.issuer)
      (before : system.flightOf 0 = operation.flight? id)
      (flight : next.flightOf 0 = after.flight? id)
      (first : system.line = ⟨id, operation.request⟩ :: rest)
      (line : next.line =
        if after.stage.outcome?.isSome then rest else ⟨id, operation.request⟩ :: rest)
      (none : system.arrivals event = [])

variable {system next moved : System} {event : Event} {task : TaskId} {operation : Operation}

theorem flat_map_single {lanes : List Lane} (one : lanes.length ≤ 1) :
    lanes.flatMap Lane.requests = readLane Lane.requests [] lanes 0 := by
  cases lanes with
  | nil => rfl
  | cons held rest =>
      obtain rfl : rest = [] := List.eq_nil_of_length_eq_zero (by simpa using one)
      simp [readLane]

theorem arrivals_of_line {old came : List Queued}
    (one : (system.apply event).lanes.length ≤ 1) (line : (system.apply event).line = old ++ came)
    (before : ∀ queued ∈ old, queued.id < system.submitted)
    (new : ∀ queued ∈ came, system.submitted ≤ queued.id) : system.arrivals event = came := by
  have whole : (system.apply event).lanes.flatMap Lane.requests = old ++ came :=
    (flat_map_single one).trans line
  have none : old.filter (system.submitted ≤ ·.id) = [] := by
    rw [List.filter_eq_nil_iff]
    intro queued member
    simpa using before queued member
  have all : came.filter (system.submitted ≤ ·.id) = came := by
    rw [List.filter_eq_self]
    intro queued member
    simpa using new queued member
  rw [arrivals, whole, List.filter_append, none, all, List.nil_append]

theorem observed_attempt {Item : Type} (see : TaskId → Operation → List Item) {id : RequestId}
    (busy : system.attempt? task = some (some id, operation)) :
    system.observed see (.step task) = see task operation := by
  simp only [observed, busy]

theorem observed_nothing {Item : Type} (see : TaskId → Operation → List Item)
    (idle : ∀ task id operation, event = .step task →
      system.attempt? task = some (some id, operation) → see task operation = []) :
    system.observed see event = [] := by
  cases event with
  | step task =>
      simp only [observed]
      split
      · exact idle task _ _ rfl ‹_›
      · rfl
  | _ => rfl

theorem servings_none (event : Event) (others : system.mover? event ≠ some 0) :
    system.servings event = [] := by
  unfold servings replies
  rw [given_by_map, if_neg others, List.map_nil]

theorem unserved_of_replies (replied : system.replies event = []) : system.servings event = [] := by
  rw [servings, replied]
  rfl

/-- An event that moves no worker. -/
theorem shift_of_host (single : system.Single) (later : (system.apply event).Single)
    (known : ∀ queued ∈ system.line, queued.id < system.submitted)
    (untouched : event.leavesStore = true) (host : system.mover? event = none) :
    Shift system event (system.apply event) := by
  have unmoved {task : TaskId} {lane : LaneId} (own : event = .step task) :
      system.tasks[task]? ≠ some (.worker lane) := by
    intro worker
    subst own
    rw [mover_of_task worker] at host
    cases host
  have idle (task : TaskId) (id : RequestId) (operation : Operation) (own : event = .step task)
      (busy : system.attempt? task = some (some id, operation)) : False := by
    obtain ⟨lane, held, worker, -⟩ := worker_of_attempt busy
    exact unmoved own worker
  have traffic := apply_traffic system event
  rw [host] at traffic
  obtain ⟨⟨came, line, new⟩, flights⟩ := traffic.longer 0
  have arrived : system.arrivals event = came := arrivals_of_line later.one line known new
  cases apply_course system event untouched with
  | attempt task who operation after isCancelled moved own busy =>
      exfalso
      cases who with
      | some id => exact idle task id operation own busy
      | none =>
          obtain ⟨cancelled, found⟩ := direct_of_attempt busy
          cases single.tasks task _ found
  | aside calm store refreshes load engaged =>
      refine .aside ?_ ?_ (servings_none event (by rw [host]; nofun)) store refreshes flights
        (by rw [arrived]; exact line)
      · exact observed_nothing _ fun task id operation own busy =>
          (idle task id operation own busy).elim
      · exact observed_nothing _ fun task id operation own busy =>
          (idle task id operation own busy).elim

theorem stuck_unseen {isCancelled : Bool}
    (stuck : system.stepOperation task isCancelled operation = none) :
    system.turnOf task operation = [] ∧ system.callEndOf operation = [] := by
  have rule := step_operation_none stuck
  cases stage : operation.stage with
  | waiting alarm =>
      rw [stage] at rule
      have early : ¬alarm.due ≤ system.clock := Nat.not_le.mpr rule.2.2
      simp [turnOf, callEndOf, stage, lookInLine, rule.2.1, early]
  | admitted =>
      rw [stage] at rule
      exact rule.elim
  | concluding =>
      rw [stage] at rule
      exact rule.elim
  | _ => simp [turnOf, callEndOf, stage]

theorem line_found {held : Lane} (found : system.lanes[0]? = some held) :
    system.line = held.requests ∧ system.flightOf 0 = held.flight? :=
  ⟨read_lane_found found, read_lane_found found⟩

theorem line_set {held new : Lane} (found : system.lanes[0]? = some held)
    (lanes : next.lanes = system.lanes.set 0 new) :
    next.line = new.requests ∧ next.flightOf 0 = new.flight? := by
  apply line_found
  rw [lanes]
  exact List.getElem?_set_self (List.getElem?_eq_some_iff.mp found).1

/-- A task that cannot move leaves everything as it is. -/
theorem shift_of_stuck (stuck : system.step task = none)
    (arrived : system.arrivals (.step task) = []) :
    Shift system (.step task) (system.apply (.step task)) := by
  have same : system.apply (.step task) = system := by simp [apply, stuck]
  have unseen {Item : Type} (see : TaskId → Operation → List Item)
      (unseen : ∀ operation isCancelled,
        system.stepOperation task isCancelled operation = none → see task operation = []) :
      system.observed see (.step task) = [] := by
    refine observed_nothing see fun other id operation own busy => ?_
    obtain rfl := Event.step.inj own
    obtain ⟨served, held, serves, found, current⟩ := worker_of_attempt busy
    refine unseen operation held.isShut ?_
    have steps : system.stepWorker task served = none := by
      rw [← stuck, step]
      simp [serves]
    simpa [stepWorker, found, current] using steps
  have unanswered : system.replies (.step task) = [] := by
    rw [@replies_of_answers system (.step task) [] (by rw [same]; rfl)]
    rfl
  refine .aside (unseen _ fun _ _ stuck => (stuck_unseen stuck).1)
    (unseen _ fun _ _ stuck => (stuck_unseen stuck).2) (unserved_of_replies unanswered)
    (.inl (by rw [same])) (by rw [same]) (by rw [same]) ?_
  rw [arrived, same, List.append_nil]

/-- A worker that takes up the first request in its lane begins its operation. -/
theorem shift_of_take_up {lane : LaneId} {held : Lane} {queued : Queued} {rest : List Queued}
    (worker : system.tasks[task]? = some (.worker lane))
    (found : system.lanes[lane]? = some held) (first : system.lanes[0]? = some held)
    (idle : held.current = none) (waiting : held.waiting = queued :: rest)
    (stepped : system.step task = some next) (answers : next.answers = system.answers)
    (store : next.store = system.store) (issuer : next.issuer = system.issuer)
    (lanes : next.lanes = system.lanes.set 0
      { held with waiting := rest, current := some (queued.id, .start queued.request) })
    (arrived : next.line ⊆ system.line → system.arrivals (.step task) = []) :
    Shift system (.step task) next := by
  obtain ⟨before, grounded⟩ := line_found first
  obtain ⟨line, flight⟩ := line_set first lanes
  have same : next.line = system.line := by
    rw [line, before]
    simp [Lane.requests, idle, waiting, Operation.start]
  have unbusy {Item : Type} (see : TaskId → Operation → List Item) :
      system.observed see (.step task) = [] := by
    refine observed_nothing see fun other id operation own busy => ?_
    obtain rfl := Event.step.inj own
    simp [attempt?, worker, found, idle] at busy
  refine .aside (unbusy _) (unbusy _) (unserved_of_replies (no_replies stepped answers))
    (.inl store) (by rw [issuer]) ?_ ?_
  · rw [flight, grounded]
    simp [Lane.flight?, idle, Operation.start, Stage.role]
  · rw [arrived (by rw [same]; exact List.Subset.refl _), same, List.append_nil]

/-- The operation of the lane moves. -/
theorem shift_of_carry {held new : Lane} {id : RequestId} {after : Operation}
    (busy : system.attempt? task = some (some id, operation))
    (found : system.lanes[0]? = some held) (current : held.current = some (id, operation))
    (step : OperationStep system task false operation moved after)
    (servings : system.servings (.step task) =
      after.stage.outcome?.toList.map fun outcome => (id, outcome, next.store))
    (store : next.store = moved.store) (issuer : next.issuer = moved.issuer)
    (lanes : next.lanes = system.lanes.set 0 new) (flight : new.flight? = after.flight? id)
    (left : new.requests =
      if after.stage.outcome?.isSome then held.waiting
      else ⟨id, operation.request⟩ :: held.waiting)
    (arrived : next.line ⊆ system.line → system.arrivals (.step task) = []) :
    Shift system (.step task) next := by
  obtain ⟨whole, before⟩ := line_found found
  obtain ⟨line, flies⟩ := line_set found lanes
  have first : system.line = ⟨id, operation.request⟩ :: held.waiting := by
    rw [whole]
    simp [Lane.requests, current]
  refine .attempt task id operation after moved held.waiting step (observed_attempt _ busy)
    (observed_attempt _ busy) servings store issuer ?_ (flies.trans flight) first
    (line.trans left) (arrived ?_)
  · rw [before]
    simp [Lane.flight?, current, Operation.flight?]
  · rw [line, left, first]
    split
    · exact List.subset_cons_self _ _
    · exact List.Subset.refl _

/-- A step of the worker of the lane. -/
theorem shift_of_worker {lane : LaneId} (single : system.Single)
    (later : (system.apply (.step task)).Single) (kept : system.traffic.Kept)
    (known : ∀ queued ∈ system.line, queued.id < system.submitted)
    (worker : system.tasks[task]? = some (.worker lane)) :
    Shift system (.step task) (system.apply (.step task)) := by
  have arrived (within : (system.apply (.step task)).line ⊆ system.line) :
      system.arrivals (.step task) = [] :=
    arrivals_of_line later.one (List.append_nil _).symm
      (fun queued member => known queued (within member)) fun _ member => nomatch member
  cases stepped : system.step task with
  | none =>
      refine shift_of_stuck stepped (arrived ?_)
      simp [apply, stepped]
  | some next =>
      have applied := step_applied stepped
      have steps : system.stepWorker task lane = some next := by
        rw [← stepped, step]
        simp [worker]
      rw [applied] at arrived ⊢
      have moves := step_worker_cases steps
      cases moves with
      | carry held id operation after moved found current moves going =>
          obtain ⟨rfl, unshut⟩ := single.lane_open kept found
          have frame := moves.frame
          have unshut : OperationStep system task false operation moved after := unshut ▸ moves
          have unended : after.stage.outcome? = none := by
            cases stage : after.stage with
            | ended outcome => exact absurd stage (going outcome)
            | _ => rfl
          have unanswered : moved.answers = system.answers := by rw [frame]
          refine shift_of_carry (attempt_of_worker worker found current) found current
            unshut ?_ rfl rfl (by rw [frame]; rfl) ?_ ?_ arrived
          · rw [unserved_of_replies (no_replies stepped unanswered), unended]
            rfl
          · simp [Lane.flight?, Operation.flight?, moves.request]
          · rw [unended]
            simp [Lane.requests, moves.request]
      | deliver held id operation after moved outcome found current moves ended =>
          obtain ⟨rfl, unshut⟩ := single.lane_open kept found
          have frame := moves.frame
          have unshut : OperationStep system task false operation moved after := unshut ▸ moves
          have unanswered : moved.answers = system.answers := by rw [frame]
          have replied := @reply_of_worker _ _ _ _ worker stepped id outcome
            (by rw [← unanswered]; rfl)
          refine shift_of_carry (attempt_of_worker worker found current) found current
            unshut ?_ rfl rfl (by rw [frame]; rfl) ?_ ?_ arrived
          · rw [servings, replied, applied, ended]
            rfl
          · exact (Operation.flight_ended ended).symm
          · rw [ended]
            rfl
      | takeUp held queued rest found idle waiting =>
          obtain ⟨rfl, unshut⟩ := single.lane_open kept found
          exact shift_of_take_up worker found found idle waiting stepped rfl rfl rfl rfl arrived
      | drain held found idle empty shut undrained =>
          rw [(single.lane_open kept found).2] at shut
          cases shut

theorem leaves_of_queueing (queueing : event.isQueueing = true) : event.leavesStore = true := by
  cases event <;> first | rfl | exact queueing

theorem apply_shift (single : system.Single) (kept : system.traffic.Kept)
    (known : ∀ queued ∈ system.line, queued.id < system.submitted)
    (queueing : event.isQueueing = true) : Shift system event (system.apply event) := by
  have later := single.apply queueing
  cases mover : system.mover? event with
  | none => exact shift_of_host single later known (leaves_of_queueing queueing) mover
  | some lane =>
      obtain ⟨task, rfl, worker⟩ := worker_event mover
      exact shift_of_worker single later kept known worker

end System

end CertRenewal
