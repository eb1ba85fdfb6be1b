import CertRenewal.Proofs.Lives
import CertRenewal.Proofs.Progress

/-!
The operations of a run, each with the steps that it takes in the course of the run. In
the queue there is one for each request that a lane takes up, and what it comes to is the
answer to the request.
-/

namespace CertRenewal

namespace Task

/-- The operation that a task is busy with, where `current` says what the lanes serve. -/
def attempt? (current : LaneId → Option (RequestId × Operation)) :
    Task → Option (Option RequestId × Operation)
  | .worker lane => (current lane).map fun entry => (some entry.1, entry.2)
  | .direct operation _ => some (none, operation)
  | _ => none

end Task

namespace System

/-- What a lane serves at present. -/
def serves (system : System) : LaneId → Option (RequestId × Operation) :=
  readLane Lane.current none system.lanes

/-- Whether the operation that a task is busy with was cancelled. -/
def isCancelled (system : System) (task : TaskId) : Bool :=
  match system.tasks[task]? with
  | some (.worker lane) => readLane Lane.isShut false system.lanes lane
  | some (.direct _ isCancelled) => isCancelled
  | _ => false

/-- The step that an event takes of the operation that a task runs for a request, or
outside of the queue. -/
def deedsOf (task : TaskId) (who : Option RequestId) (system : System) : Event → List Deed
  | .step mover =>
    match system.attempt? task with
    | some (served, operation) =>
      if mover = task ∧ served = who then
        match system.stepOperation task (system.isCancelled task) operation with
        | some (moved, after) => [⟨system, system.isCancelled task, operation, moved, after⟩]
        | none => []
      else []
    | none => []
  | _ => []

/-- The parts of a system that an operation works on are as its step has left them. -/
structure Carries (moved next : System) : Prop where
  token : next.token = moved.token
  issuer : next.issuer = moved.issuer
  store : next.store = moved.store
  submitted : next.submitted = moved.submitted

/-- What an event does to the operation that a task is busy with. -/
inductive Progress (system : System) (event : Event) (next : System) (task : TaskId) : Prop
  | rest (same : next.attempt? task = system.attempt? task)
      (idle : ∀ who, system.deedsOf task who event = [])
  | begin (who : Option RequestId) (request : Request) (free : system.attempt? task = none)
      (begun : next.attempt? task = some (who, .start request))
      (waited : ∀ id, who = some id →
        ∃ (lane : LaneId) (held : Lane), system.lanes[lane]? = some held ∧
          id ∈ held.waiting.map (·.id))
  | move (who : Option RequestId) (operation after : Operation) (moved : System)
      (own : event = .step task) (busy : system.attempt? task = some (who, operation))
      (moves : system.stepOperation task (system.isCancelled task) operation =
        some (moved, after))
      (carries : Carries moved next)
      (goes : next.attempt? task = some (who, after))
  | settle (id : RequestId) (operation after : Operation) (moved : System) (outcome : Outcome)
      (own : event = .step task) (busy : system.attempt? task = some (some id, operation))
      (moves : system.stepOperation task (system.isCancelled task) operation =
        some (moved, after))
      (carries : Carries moved next)
      (ended : after.stage = .ended outcome) (free : next.attempt? task = none)
      (answered : next.answers = (id, outcome) :: system.answers)

variable {system next moved : System} {event : Event} {task mover : TaskId} {lane : LaneId}
  {old new : Task}

theorem attempt_eq (system : System) (task : TaskId) :
    system.attempt? task = system.tasks[task]?.bind (Task.attempt? system.serves) := by
  unfold attempt? serves readLane
  cases system.tasks[task]? with
  | none => rfl
  | some kind =>
      cases kind with
      | worker lane => cases found : system.lanes[lane]? <;> simp [Task.attempt?, found]
      | _ => rfl

theorem attempt_same (tasks : next.tasks[task]? = system.tasks[task]?)
    (serves : ∀ lane, next.serves lane = system.serves lane) :
    next.attempt? task = system.attempt? task := by
  rw [attempt_eq, attempt_eq, tasks, funext serves]

theorem attempt_found (found : system.tasks[task]? = some old) :
    system.attempt? task = old.attempt? system.serves := by
  rw [attempt_eq, found]
  rfl

theorem attempt_append (added : List Task) (tasks : next.tasks = system.tasks ++ added)
    (serves : ∀ lane, next.serves lane = system.serves lane)
    (idle : ∀ kind ∈ added, kind.attempt? next.serves = none) :
    next.attempt? task = system.attempt? task := by
  by_cases known : task < system.tasks.length
  · exact attempt_same (by rw [tasks, List.getElem?_append_left known]) serves
  · have outside := Nat.le_of_not_lt known
    rw [attempt_eq, attempt_eq, tasks, List.getElem?_append_right outside,
      List.getElem?_eq_none outside]
    cases found : added[task - system.tasks.length]? with
    | none => rfl
    | some kind => exact idle kind (List.mem_of_getElem? found)

/-- A task that runs no operation moves. -/
theorem attempt_set (found : system.tasks[mover]? = some old) (tasks : moved.tasks = system.tasks)
    (serves : ∀ lane, moved.serves lane = system.serves lane)
    (before : ∀ current, old.attempt? current = none)
    (after : ∀ current, new.attempt? current = none) :
    (moved.setTask mover new).attempt? task = system.attempt? task := by
  by_cases itself : task = mover
  · subst itself
    rw [attempt_found (set_task_itself new (tasks ▸ found)), attempt_found found, before, after]
  · exact attempt_same (by rw [set_task_other moved new itself, tasks]) serves

theorem submit_attempt (system : System) (request : Request) (listens : Bool) :
    (system.submit request listens).attempt? task = system.attempt? task :=
  attempt_same (by rw [submit_tasks]) (aloof_submit system request listens).current

theorem open_queue_attempt (system : System) :
    system.openQueue.attempt? task = system.attempt? task := by
  cases isOpen : system.openLane with
  | some lane => rw [open_queue_open isOpen]
  | none =>
      have serves := (aloof_open_queue system).current
      rw [open_queue_closed isOpen] at serves ⊢
      refine attempt_append [.worker system.lanes.length] rfl serves fun kind member => ?_
      have fresh : readLane Lane.current none (system.lanes ++ [Lane.fresh])
          system.lanes.length = none := by simp [readLane, Lane.fresh]
      rw [List.mem_singleton.mp member]
      simp only [Task.attempt?, System.serves, fresh, Option.map_none]

theorem arm_attempt (system : System) : system.arm.attempt? task = system.attempt? task := by
  have serves := (aloof_arm system).current
  obtain ⟨added, tickers, frame⟩ := arm_frame system
  rw [frame] at serves ⊢
  refine attempt_append added rfl serves fun kind member => ?_
  obtain ⟨schedule, alarm, rfl⟩ := tickers kind member
  rfl

theorem start_up_attempt (system : System) :
    system.startUp.attempt? task = system.attempt? task := by
  unfold startUp
  split
  · rfl
  · exact (arm_attempt system.openQueue).trans (open_queue_attempt system)

theorem disarm_armed_attempt (system : System) :
    system.disarmArmed.attempt? task = system.attempt? task := by
  rw [disarm_armed_frame]
  rfl

theorem deeds_elsewhere (elsewhere : event ≠ .step task) (who : Option RequestId) :
    system.deedsOf task who event = [] := by
  cases event with
  | step other =>
      have different : other ≠ task := fun same => elsewhere (congrArg Event.step same)
      unfold deedsOf
      cases system.attempt? task <;> simp [different]
  | _ => rfl

theorem deeds_idle (free : system.attempt? task = none) (who : Option RequestId) :
    system.deedsOf task who event = [] := by
  cases event with
  | step other => simp [deedsOf, free]
  | _ => rfl

theorem deeds_busy {served who : Option RequestId} {operation : Operation}
    (busy : system.attempt? task = some (served, operation)) :
    system.deedsOf task who (.step task) = if served = who then
      ((system.stepOperation task (system.isCancelled task) operation).map fun result =>
        ⟨system, system.isCancelled task, operation, result.1, result.2⟩).toList else [] := by
  simp only [deedsOf, busy, true_and]
  cases system.stepOperation task (system.isCancelled task) operation <;> rfl

/-- Only its own worker changes what a lane serves. -/
theorem attempt_of_other {held after : Lane} (crewed : system.Crewed)
    (worker : system.tasks[mover]? = some (.worker lane))
    (found : system.lanes[lane]? = some held) (tasks : next.tasks = system.tasks)
    (lanes : next.lanes = system.lanes.set lane after) (different : task ≠ mover) :
    next.attempt? task = system.attempt? task := by
  rw [attempt_eq, attempt_eq, tasks]
  cases there : system.tasks[task]? with
  | none => rfl
  | some kind =>
      cases kind with
      | worker served =>
          have apart : served ≠ lane := by
            rintro rfl
            exact different (crewed.worker_unique there worker)
          simp [Task.attempt?, serves, lanes, read_lane_set after found, apart]
      | _ => rfl

theorem WorkerStep.turn (crewed : system.Crewed)
    (worker : system.tasks[mover]? = some (.worker lane))
    (step : WorkerStep system mover lane next) (task : TaskId) :
    Progress system (.step mover) next task := by
  by_cases different : task ≠ mover
  · have aside : ∃ (held after : Lane), system.lanes[lane]? = some held ∧
        next.tasks = system.tasks ∧ next.lanes = system.lanes.set lane after := by
      cases step with
      | carry held id operation after moved found current moves =>
          exact ⟨held, _, found, by rw [moves.frame]; rfl, by rw [moves.frame]; rfl⟩
      | deliver held id operation after moved outcome found current moves =>
          exact ⟨held, _, found, by rw [moves.frame]; rfl, by rw [moves.frame]; rfl⟩
      | takeUp held queued rest found => exact ⟨held, _, found, rfl, rfl⟩
      | drain held found => exact ⟨held, _, found, rfl, rfl⟩
    obtain ⟨held, after, found, tasks, lanes⟩ := aside
    refine .rest (attempt_of_other crewed worker found tasks lanes different) ?_
    exact deeds_elsewhere fun same => different (Event.step.inj same).symm
  obtain rfl := not_not.mp different
  have cancelled {held : Lane} (found : system.lanes[lane]? = some held) :
      system.isCancelled task = held.isShut := by
    simp only [isCancelled, worker, read_lane_found found]
  -- what the worker finds in its lane once the step is done
  have serving (next : System) {held : Lane} (after : Lane)
      (found : system.lanes[lane]? = some held) (tasks : next.tasks = system.tasks)
      (lanes : next.lanes = system.lanes.set lane after) :
      next.attempt? task = after.current.map fun entry => (some entry.1, entry.2) := by
    rw [attempt_found (tasks ▸ worker)]
    simp only [Task.attempt?, serves, lanes, read_lane_set after found, if_true]
  cases step with
  | carry held id operation after moved found current moves going =>
      refine .move (some id) operation after moved rfl (attempt_of_worker worker found current)
        (cancelled found ▸ moves.taken) ⟨rfl, rfl, rfl, rfl⟩ ?_
      exact serving _ { held with current := some (id, after) } found
        (by rw [moves.frame]; rfl) (by rw [moves.frame]; rfl)
  | deliver held id operation after moved outcome found current moves ended =>
      refine .settle id operation after moved outcome rfl
        (attempt_of_worker worker found current) (cancelled found ▸ moves.taken)
        ⟨rfl, rfl, rfl, rfl⟩ ended ?_ (by rw [moves.frame]; rfl)
      exact serving _ { held with current := none } found
        (by rw [moves.frame]; rfl) (by rw [moves.frame]; rfl)
  | takeUp held queued rest found idle waiting =>
      let taken : Lane :=
        { held with waiting := rest, current := some (queued.id, .start queued.request) }
      refine .begin (some queued.id) queued.request ?_
        (serving (system.setLane lane taken) taken found rfl rfl) ?_
      · simp [attempt?, worker, found, idle]
      · rintro id same
        obtain rfl := Option.some.inj same
        exact ⟨lane, held, found, by simp [waiting]⟩
  | drain held found idle empty shut undrained =>
      have free : system.attempt? task = none := by simp [attempt?, worker, found, idle]
      let drained : Lane := { held with isDrained := true }
      refine .rest ?_ (deeds_idle free)
      rw [serving (system.setLane lane drained) drained found rfl rfl, free]
      simp only [drained, idle, Option.map_none]

theorem TaskStep.turn (crewed : system.Crewed) (step : TaskStep system mover next)
    (task : TaskId) : Progress system (.step mover) next task := by
  -- a task of another kind than those two runs no operation
  have plain {kind new : Task} {moved : System} (found : system.tasks[mover]? = some kind)
      (before : ∀ current, kind.attempt? current = none)
      (after : ∀ current, new.attempt? current = none)
      (same : (moved.setTask mover new).attempt? task = system.attempt? task) :
      Progress system (.step mover) (moved.setTask mover new) task := by
    refine .rest same ?_
    by_cases itself : task = mover
    · subst itself
      exact deeds_idle (by rw [attempt_found found, before])
    · exact deeds_elsewhere fun same => itself (Event.step.inj same).symm
  cases step with
  | worker lane next found step => exact step.turn crewed found task
  | direct operation after isCancelled moved found step =>
      have tasks : moved.tasks = system.tasks := by rw [step.frame]
      by_cases itself : task = mover
      · subst itself
        have cancelled : system.isCancelled task = isCancelled := by
          simp only [System.isCancelled, found]
        refine .move none operation after moved rfl (by simp [attempt?, found])
          (cancelled ▸ step.taken) ⟨rfl, rfl, rfl, rfl⟩ ?_
        rw [attempt_found (set_task_itself _ (tasks ▸ found))]
        rfl
      · refine .rest (attempt_same (by rw [set_task_other moved _ itself, tasks]) ?_) ?_
        · intro lane
          rw [step.frame]
          rfl
        · exact deeds_elsewhere fun same => itself (Event.step.inj same).symm
  | holder stage after moved found step =>
      refine plain found (fun _ => rfl) (fun _ => rfl) ?_
      have same : moved.tasks = system.tasks ∧ moved.lanes = system.lanes := by
        rw [step.frame]
        exact ⟨rfl, rfl⟩
      refine attempt_set found same.1 (fun lane => ?_) (fun _ => rfl) fun _ => rfl
      rw [serves, same.2]
      rfl
  | fork session stage after moved found step =>
      exact plain found (fun _ => rfl) (fun _ => rfl)
        (attempt_set found step.lane_roles.1 step.aloof.current (fun _ => rfl) fun _ => rfl)
  | start stage after moved found step =>
      refine plain found (fun _ => rfl) (fun _ => rfl) ?_
      cases step with
      | «open» =>
          have there : (system.startUp.releaseControl mover).tasks[mover]? =
              some (.start .opening) := start_up_found found
          refine (attempt_set there rfl (fun _ => rfl) (fun _ => rfl) fun _ => rfl).trans ?_
          exact start_up_attempt system
      | _ => exact attempt_set found rfl (fun _ => rfl) (fun _ => rfl) fun _ => rfl
  | stop stage after moved found step =>
      have tasks : moved.tasks = system.tasks := by rw [step.frame]
      exact plain found (fun _ => rfl) (fun _ => rfl)
        (attempt_set found tasks step.aloof.current (fun _ => rfl) fun _ => rfl)
  | close stage after moved found step =>
      refine plain found (fun _ => rfl) (fun _ => rfl) ?_
      cases step with
      | shut lane isOpen =>
          exact attempt_set found rfl (aloof_shut_lane system lane).current (fun _ => rfl)
            fun _ => rfl
      | _ => exact attempt_set found rfl (fun _ => rfl) (fun _ => rfl) fun _ => rfl
  | ticker schedule alarm after moved found step =>
      refine plain found (fun _ => rfl) (fun _ => rfl) ?_
      cases step with
      | retire => exact attempt_set found rfl (fun _ => rfl) (fun _ => rfl) fun _ => rfl
      | tick =>
          exact attempt_set found (submit_tasks system _ _) (aloof_submit system _ _).current
            (fun _ => rfl) fun _ => rfl

/-- An operation whose task cannot move does not move either. -/
theorem stuck_deeds (stuck : system.step task = none) (who : Option RequestId) :
    system.deedsOf task who (.step task) = [] := by
  cases busy : system.attempt? task with
  | none => exact deeds_idle busy who
  | some entry =>
      obtain ⟨served, operation⟩ := entry
      have still : system.stepOperation task (system.isCancelled task) operation = none := by
        cases served with
        | some id =>
            obtain ⟨lane, held, worker, found, current⟩ := worker_of_attempt busy
            simpa [step, worker, stepWorker, found, current, isCancelled, read_lane_found found]
              using stuck
        | none =>
            obtain ⟨cancelled, found⟩ := direct_of_attempt busy
            simpa [step, found, isCancelled] using stuck
      rw [deeds_busy busy, still]
      exact ite_self _

theorem spawn_turn {kind : Task} (begun : Begun event kind) (task : TaskId) :
    Progress system event (system.spawn kind) task := by
  have elsewhere : event ≠ .step task := by cases begun <;> simp
  have others (plain : ∀ current, kind.attempt? current = none) :
      Progress system event (system.spawn kind) task := by
    refine .rest (attempt_append [kind] rfl (fun _ => rfl) fun new member => ?_)
      (deeds_elsewhere elsewhere)
    rw [List.mem_singleton.mp member]
    exact plain _
  cases begun with
  | direct request isCancelled =>
      by_cases itself : task = system.tasks.length
      · subst itself
        refine .begin none request ?_ ?_ nofun
        · rw [attempt_eq, List.getElem?_eq_none (Nat.le_refl _)]
          rfl
        · rw [attempt_found (spawn_itself _ _)]
          rfl
      · exact .rest (attempt_same (spawn_other _ _ itself) fun _ => rfl)
          (deeds_elsewhere elsewhere)
  | _ => exact others fun _ => rfl

theorem apply_turn (crewed : system.Crewed) (event : Event) (task : TaskId) :
    Progress system event (system.apply event) task := by
  have aside {next : System} (elsewhere : event ≠ .step task)
      (same : next.attempt? task = system.attempt? task) : Progress system event next task :=
    .rest same (deeds_elsewhere elsewhere)
  cases event with
  | step mover =>
      cases stepped : system.step mover with
      | none =>
          simp only [apply, stepped, Option.getD_none]
          by_cases itself : mover = task
          · exact .rest rfl (itself ▸ stuck_deeds stepped)
          · exact aside (fun same => itself (Event.step.inj same)) rfl
      | some next =>
          simp only [apply, stepped, Option.getD_some]
          exact (step_cases stepped).turn crewed task
  | start => exact spawn_turn .start task
  | stop => exact spawn_turn .stop task
  | newSession session => exact spawn_turn (.session session) task
  | fork session => exact spawn_turn (.fork session) task
  | closeQueue => exact spawn_turn .close task
  | direct request isCancelled => exact spawn_turn (.direct request isCancelled) task
  | hold timeout => exact spawn_turn (.holder timeout) task
  | submit request listens => exact aside (by simp) (submit_attempt system request listens)
  | fire =>
      let Same (next : System) : Prop := next.attempt? task = system.attempt? task
      have kept (next : System) (same : Same next) : Same next.check :=
        (submit_attempt next _ _).trans same
      have same : Same system.fire := fire_invariant kept rfl
      exact aside (by simp) same
  | openQueue => exact aside (by simp) (open_queue_attempt system)
  | arm => exact aside (by simp) ((arm_attempt _).trans (disarm_armed_attempt system))
  | disarm => exact aside (by simp) (disarm_armed_attempt system)
  | cancelSchedule =>
      refine aside (by simp) ?_
      simp only [apply, cancelArmed]
      split <;> rfl
  | cancelDirect other =>
      refine aside (by simp) ?_
      simp only [apply, cancelDirect]
      split
      · rename_i operation isCancelled found
        by_cases itself : task = other
        · subst itself
          rw [attempt_found (set_task_itself _ found), attempt_found found]
          rfl
        · exact attempt_same (set_task_other system _ itself) fun _ => rfl
      · rfl
  | tryHold =>
      refine aside (by simp) ?_
      simp only [apply, tryHold]
      split
      · refine attempt_append [.holder .holding] rfl (fun _ => rfl) fun new member => ?_
        rw [List.mem_singleton.mp member]
        rfl
      · rfl
  | release other =>
      refine aside (by simp) ?_
      simp only [apply, releaseHeld]
      split
      · rename_i found
        have there : (system.releaseToken other).tasks[other]? = some (.holder .holding) := found
        exact attempt_set there rfl (fun _ => rfl) (fun _ => rfl) fun _ => rfl
      · rfl
  | storeCertificate certificate features =>
      refine aside (by simp) ?_
      simp only [apply]
      rw [store_certificate_aside]
      rfl
  | _ => exact aside (by simp) rfl

/-- A request in a lane was not answered. -/
theorem pending_unanswered {held : Lane} {id : RequestId}
    (placed : system.places.Perm (List.range system.submitted))
    (found : system.lanes[lane]? = some held) (pending : id ∈ held.pending) (outcome : Outcome) :
    (id, outcome) ∉ system.answers := by
  intro given
  have inside : id ∈ system.lanes.flatMap Lane.pending :=
    List.mem_flatMap.mpr ⟨held, List.mem_of_getElem? found, pending⟩
  exact unanswered_of_pending placed inside (List.mem_map_of_mem given)

/-- What is known of the operation that a task runs for a request, or outside of the
queue, when it has taken these steps. -/
structure Followed (system : System) (task : TaskId) (who : Option RequestId)
    (deeds : List Deed) : Prop where
  inHand : ∀ operation, system.attempt? task = some (who, operation) →
    Life task operation.request deeds operation
  settled : deeds ≠ [] → (∀ operation, system.attempt? task ≠ some (who, operation)) →
    ∃ id operation outcome, who = some id ∧ Life task operation.request deeds operation ∧
      operation.stage = .ended outcome ∧ (id, outcome) ∈ system.answers

theorem Followed.apply {who : Option RequestId} {deeds : List Deed}
    (followed : system.Followed task who deeds) (crewed : system.Crewed)
    (kept : system.traffic.Kept) (placed : system.places.Perm (List.range system.submitted))
    (event : Event) :
    (system.apply event).Followed task who (deeds ++ system.deedsOf task who event) := by
  -- what was settled before stays so, if it is not this operation that is in hand
  have past (other : ∀ operation, system.attempt? task ≠ some (who, operation))
      (acted : deeds ≠ []) : ∃ id operation outcome, who = some id ∧
        Life task operation.request deeds operation ∧ operation.stage = .ended outcome ∧
        (id, outcome) ∈ (system.apply event).answers := by
    obtain ⟨id, operation, outcome, served, life, ended, given⟩ := followed.settled acted other
    exact ⟨id, operation, outcome, served, life, ended, answers_kept kept event given⟩
  cases apply_turn crewed event task with
  | rest same idle =>
      rw [idle, List.append_nil]
      refine ⟨fun operation busy => followed.inHand operation (same ▸ busy), ?_⟩
      intro acted other
      exact past (fun operation busy => other operation (same ▸ busy)) acted
  | begin served request free begun waited =>
      rw [deeds_idle free, List.append_nil]
      have fresh (same : served = who) : deeds = [] := by
        by_contra acted
        obtain ⟨id, operation, outcome, asked, -, -, given⟩ :=
          followed.settled acted fun operation => by simp [free]
        obtain ⟨lane, held, found, waits⟩ := waited id (same.trans asked)
        exact pending_unanswered placed found (List.mem_append_right _ waits) outcome given
      constructor
      · intro operation busy
        rw [begun, Option.some.injEq, Prod.mk.injEq] at busy
        rw [fresh busy.1, ← busy.2]
        exact .begin
      · intro acted other
        exact past (fun operation => by simp [free]) acted
  | move served operation after moved own busy moves carries goes =>
      subst own
      rw [deeds_busy busy, moves]
      by_cases itself : served = who
      · subst itself
        have step := step_operation_cases moves
        have life := Life.move _ _ _ _ _ _ (followed.inHand operation busy) moves
        rw [← step.request] at life
        rw [if_pos rfl]
        constructor
        · intro other there
          rw [goes, Option.some.injEq, Prod.mk.injEq] at there
          rw [← there.2]
          exact life
        · intro acted other
          exact absurd goes (other after)
      · rw [if_neg itself, List.append_nil]
        refine ⟨fun other there => ?_, fun acted other => past (fun running there => ?_) acted⟩
        · rw [goes, Option.some.injEq, Prod.mk.injEq] at there
          exact absurd there.1 itself
        · rw [busy, Option.some.injEq, Prod.mk.injEq] at there
          exact itself there.1
  | settle id operation after moved outcome own busy moves carries ended free answered =>
      subst own
      rw [deeds_busy busy, moves]
      refine ⟨fun other there => (nomatch free.symm.trans there), fun acted other => ?_⟩
      by_cases itself : some id = who
      · subst itself
        have step := step_operation_cases moves
        have life := Life.move _ _ _ _ _ _ (followed.inHand operation busy) moves
        rw [← step.request] at life
        refine ⟨id, after, outcome, rfl, ?_, ended, by rw [answered]; exact List.mem_cons_self⟩
        rw [if_pos rfl]
        exact life
      · rw [if_neg itself, List.append_nil] at acted ⊢
        refine past (fun running there => ?_) acted
        rw [busy, Option.some.injEq, Prod.mk.injEq] at there
        exact itself there.1

theorem run_followed (outset : Outset) (events : List Event) (task : TaskId)
    (who : Option RequestId) : (outset.system.run events).Followed task who
      (gathered (deedsOf task who) outset.system events) := by
  induction events using List.reverseRecOn with
  | nil => exact ⟨fun operation busy => (nomatch busy), fun acted => absurd rfl acted⟩
  | append_singleton events event induction =>
      rw [gathered_concat, run_concat]
      exact induction.apply (run_crewed outset events) (run_kept outset events)
        (requests_placed outset events) event

theorem mem_deeds {who : Option RequestId} {deed : Deed}
    (member : deed ∈ system.deedsOf task who event) :
    event = .step task ∧ deed.system = system ∧
      system.attempt? task = some (who, deed.before) ∧
      deed.isCancelled = system.isCancelled task ∧
      system.stepOperation task deed.isCancelled deed.before = some (deed.moved, deed.after) := by
  by_cases own : event = .step task
  · subst own
    cases busy : system.attempt? task with
    | none =>
        rw [deeds_idle busy] at member
        cases member
    | some entry =>
        obtain ⟨served, operation⟩ := entry
        rw [deeds_busy busy] at member
        split at member
        · rename_i same
          cases moves : system.stepOperation task (system.isCancelled task) operation with
          | none =>
              rw [moves] at member
              cases member
          | some result =>
              rw [moves] at member
              rw [List.mem_singleton.mp member, same]
              exact ⟨rfl, rfl, rfl, rfl, moves⟩
        · cases member
  · rw [deeds_elsewhere own] at member
    cases member

/-- A step of an operation is a step of the whole program. -/
structure Taken (outset : Outset) (events : List Event) (task : TaskId)
    (who : Option RequestId) (deed : Deed) (before after : List Event) : Prop where
  split : events = before ++ .step task :: after
  system : deed.system = outset.system.run before
  busy : deed.system.attempt? task = some (who, deed.before)
  isCancelled : deed.isCancelled = deed.system.isCancelled task
  moves : deed.system.stepOperation task deed.isCancelled deed.before =
    some (deed.moved, deed.after)
  carries : Carries deed.moved (deed.system.apply (.step task))

theorem step_carries {who : Option RequestId} {operation after : Operation}
    (crewed : system.Crewed) (busy : system.attempt? task = some (who, operation))
    (moves : system.stepOperation task (system.isCancelled task) operation =
      some (moved, after)) : Carries moved (system.apply (.step task)) := by
  have same {served : Option RequestId} {other result : Operation} {now : System}
      (there : system.attempt? task = some (served, other))
      (taken : system.stepOperation task (system.isCancelled task) other = some (now, result)) :
      now = moved := by
    obtain ⟨-, rfl⟩ := Prod.mk.inj (Option.some.inj (there.symm.trans busy))
    exact (Prod.mk.inj (Option.some.inj (taken.symm.trans moves))).1
  cases apply_turn crewed (.step task) task with
  | rest still idle =>
      have none := idle who
      rw [deeds_busy busy, moves, if_pos rfl] at none
      cases none
  | begin served request free => exact (nomatch free.symm.trans busy)
  | move served other result now own there taken carries => exact same there taken ▸ carries
  | settle id other result now outcome own there taken carries => exact same there taken ▸ carries

theorem deed_taken {outset : Outset} {events : List Event} {who : Option RequestId} {deed : Deed}
    (member : deed ∈ gathered (deedsOf task who) outset.system events) :
    ∃ before after, Taken outset events task who deed before after := by
  obtain ⟨before, event, after, split, found⟩ := mem_gathered member
  obtain ⟨rfl, same, busy, cancelled, moves⟩ := mem_deeds found
  rw [← same] at busy cancelled
  have crewed : deed.system.Crewed := same ▸ run_crewed outset before
  have carries := step_carries crewed busy (by rw [← cancelled, same]; exact moves)
  exact ⟨before, after, split, same, busy, cancelled, by rw [same]; exact moves, carries⟩

/-- An answer that the worker of a lane gave is the outcome of an operation. -/
theorem answer_of_operation {outset : Outset} {events : List Event} {id : RequestId}
    {outcome : Outcome} (answered : (outset.system.run events).answer? id = some outcome) :
    outcome = .error .cancelled ∧ (id, none) ∈ gathered submissions outset.system events ∨
      ∃ task operation, Life task operation.request
        (gathered (deedsOf task (some id)) outset.system events) operation ∧
          operation.stage = .ended outcome := by
  obtain ⟨front, rest, record, -⟩ := List.lookup_eq_some_iff.mp answered
  have given : (id, outcome) ∈ (outset.system.run events).answers := by
    rw [record]
    simp
  have reply := given
  rw [answers_recorded, List.mem_reverse] at reply
  obtain ⟨⟨giver, entry⟩, replied, rfl⟩ := List.mem_map.mp reply
  obtain ⟨before, event, after, rfl, found⟩ := mem_gathered replied
  have placed := requests_placed outset (before ++ event :: after)
  rcases reply_cases (run_kept outset before) found with ⟨cancelled, sent⟩ | ended
  · refine .inl ⟨cancelled, ?_⟩
    rw [gathered_append]
    exact List.mem_append_right _ (List.mem_append_left _ sent)
  · right
    obtain ⟨task, lane, held, operation, moved, last, rfl, worker, there, current, step, -⟩ := ended
    have acted : gathered (deedsOf task (some id)) outset.system
        (before ++ .step task :: after) ≠ [] := by
      have cancelled : (outset.system.run before).isCancelled task = held.isShut := by
        simp only [isCancelled, worker, read_lane_found there]
      rw [gathered_append, gathered, deeds_busy (attempt_of_worker worker there current),
        cancelled, step.taken]
      simp
    have gone (running : Operation) :
        (outset.system.run (before ++ .step task :: after)).attempt? task ≠
          some (some id, running) := by
      intro busy
      obtain ⟨other, lane, -, present, serves⟩ := worker_of_attempt busy
      have pending : id ∈ lane.pending := by simp [Lane.pending, Lane.served, serves]
      exact pending_unanswered placed present pending outcome given
    obtain ⟨same, running, other, own, life, done, told⟩ :=
      (run_followed outset _ task (some id)).settled acted gone
    obtain rfl := Option.some.inj own
    refine ⟨task, running, life, ?_⟩
    obtain rfl := Option.some.inj ((answer_of_mem placed told).symm.trans answered)
    exact done

/-- An operation has come to an outcome, or it waits, or the next step of its task brings it
nearer to its end. -/
theorem operation_goes_on {who : Option RequestId} {operation : Operation}
    (busy : system.attempt? task = some (who, operation))
    (going : ∀ outcome, operation.stage ≠ .ended outcome) :
    operation.stage.Waits system task (system.isCancelled task) ∨
      ∃ deed ∈ system.deedsOf task who (.step task), deed.before = operation ∧
        deed.after.stage.rank < operation.stage.rank := by
  cases moves : system.stepOperation task (system.isCancelled task) operation with
  | none => exact .inl (step_operation_waits moves going)
  | some result =>
      right
      rw [deeds_busy busy, if_pos rfl, moves]
      exact ⟨_, List.mem_singleton.mpr rfl, rfl, (step_operation_cases moves).nearer⟩

/-- What holds of all operations of a run, those of the queue and those outside of it. -/
structure OperationsCharted (outset : Outset) (events : List Event) : Prop where
  inHand : ∀ task who operation,
    (outset.system.run events).attempt? task = some (who, operation) →
      Charted task operation.request (gathered (deedsOf task who) outset.system events) operation
  /-- An operation that is in hand goes on to its outcome, unless it waits. -/
  goesOn : ∀ task who operation,
    (outset.system.run events).attempt? task = some (who, operation) →
      (∀ outcome, operation.stage ≠ .ended outcome) →
        operation.stage.Waits (outset.system.run events) task
            ((outset.system.run events).isCancelled task) ∨
          ∃ deed ∈ (outset.system.run events).deedsOf task who (.step task),
            deed.before = operation ∧ deed.after.stage.rank < operation.stage.rank
  /-- An operation that is not in hand any more has come to the answer to its request. -/
  settled : ∀ task who, gathered (deedsOf task who) outset.system events ≠ [] →
    (∀ operation, (outset.system.run events).attempt? task ≠ some (who, operation)) →
      ∃ id operation outcome, who = some id ∧
        Charted task operation.request (gathered (deedsOf task who) outset.system events)
          operation ∧
        operation.stage = .ended outcome ∧
        (outset.system.run events).answer? id = some outcome
  /-- A request is answered with the outcome of an operation, or it was cancelled at once
  because no lane was open. -/
  answered : ∀ id outcome, (outset.system.run events).answer? id = some outcome →
    outcome = .error .cancelled ∧ (id, none) ∈ gathered submissions outset.system events ∨
      ∃ task operation, Charted task operation.request
        (gathered (deedsOf task (some id)) outset.system events) operation ∧
          operation.stage = .ended outcome
  taken : ∀ task who, ∀ deed ∈ gathered (deedsOf task who) outset.system events,
    ∃ before after, Taken outset events task who deed before after

/-- Every operation goes through its states in one of four ways, and its last state says
whether its outcome is that it was cancelled or that its time ran out. It asks the issuer
once at most, while it runs; it leaves the store alone unless it comes to run; and from
then on nothing depends on whether it is cancelled. -/
theorem operations_keep_to_four_courses (outset : Outset) (events : List Event) :
    OperationsCharted outset events where
  inHand task who operation busy :=
    ((run_followed outset events task who).inHand operation busy).charted
  goesOn task who operation busy going := operation_goes_on busy going
  settled task who acted gone := by
    obtain ⟨id, operation, outcome, own, life, ended, given⟩ :=
      (run_followed outset events task who).settled acted gone
    exact ⟨id, operation, outcome, own, life.charted, ended,
      answer_of_mem (requests_placed outset events) given⟩
  answered id outcome answered := by
    rcases answer_of_operation answered with refused | ⟨task, operation, life, ended⟩
    · exact .inl refused
    · exact .inr ⟨task, operation, life.charted, ended⟩
  taken task who deed member := deed_taken member

/-- In the five steps after the one that takes it up an operation comes to its end. -/
theorem operation_finishes :
    let events := startingUp ++ served none
    let deeds := gathered (deedsOf 1 (some 0)) Outset.prompt.system events
    deeds.length = 5 ∧
      ∃ operation, Charted 1 operation.request deeds operation ∧
        operation.stage = .ended (.ok ()) ∧
        operation.published.reverse = [.created, .awaitingLock, .running, .finished] ∧
        (Outset.prompt.system.run events).answer? 0 = some (.ok ()) := by
  intro events deeds
  have kept := operations_keep_to_four_courses .prompt events
  have gone : (Outset.prompt.system.run events).attempt? 1 = none := rfl
  obtain ⟨id, operation, outcome, own, charted, ended, given⟩ :=
    kept.settled 1 (some 0) (List.ne_nil_of_length_pos (Nat.zero_lt_succ 4)) fun other => by
      rw [gone]
      exact nofun
  obtain rfl := Option.some.inj own
  have well : (Outset.prompt.system.run events).answer? 0 = some (.ok ()) := rfl
  obtain rfl : .ok () = outcome := Option.some.inj (well.symm.trans given)
  refine ⟨rfl, operation, charted, ended, ?_, given⟩
  obtain ⟨complete, cancelled, timedOut⟩ := charted.ended (.ok ()) ended
  simp only [OperationState.courses, List.mem_cons, List.not_mem_nil, or_false] at complete
  rcases complete with early | waiting | late | whole
  · rw [List.reverse_eq_iff] at early
    cases cancelled.mpr (by rw [Operation.state, early]; rfl)
  · rw [List.reverse_eq_iff] at waiting
    cases cancelled.mpr (by rw [Operation.state, waiting]; rfl)
  · rw [List.reverse_eq_iff] at late
    cases timedOut.mpr (by rw [Operation.state, late]; rfl)
  · exact whole

end System

end CertRenewal
