import CertRenewal.Proofs.Run

/-!
What single steps can do, each kind of step with what has to hold before it and
the state behind it. Every function that takes a step comes down to such rules,
and what is proved about runs refers to the rules alone.
-/

namespace CertRenewal.System

theorem set_task_itself {system : System} {task : TaskId} {old : Task} (new : Task)
    (found : system.tasks[task]? = some old) :
    (system.setTask task new).tasks[task]? = some new := by
  have bound := (List.getElem?_eq_some_iff.mp found).1
  simp [setTask, bound]

theorem set_task_other (system : System) {task other : TaskId} (new : Task)
    (different : other ≠ task) :
    (system.setTask task new).tasks[other]? = system.tasks[other]? :=
  List.getElem?_set_ne (Ne.symm different)

theorem spawn_itself (system : System) (kind : Task) :
    (system.spawn kind).tasks[system.tasks.length]? = some kind := by
  simp [spawn]

theorem spawn_other (system : System) (kind : Task) {other : TaskId}
    (different : other ≠ system.tasks.length) :
    (system.spawn kind).tasks[other]? = system.tasks[other]? := by
  unfold spawn
  simp only
  rw [List.getElem?_append]
  split
  · rfl
  · rename_i outside
    have beyond : system.tasks.length < other :=
      Nat.lt_of_le_of_ne (Nat.le_of_not_lt outside) (Ne.symm different)
    have past : ([kind] : List Task).length ≤ other - system.tasks.length :=
      Nat.sub_pos_of_lt beyond
    rw [List.getElem?_eq_none past, List.getElem?_eq_none (Nat.le_of_lt beyond)]

theorem submit_open {system : System} {lane : LaneId} (isOpen : system.openLane = some lane)
    (request : Request) (listens : Bool) :
    system.submit request listens = { system with
      submitted := system.submitted + 1
      listeners := if listens then system.submitted :: system.listeners else system.listeners
      lanes := system.lanes.modify lane fun held =>
        { held with waiting := held.waiting ++ [⟨system.submitted, request⟩] } } := by
  simp [submit, isOpen, modifyLane]

theorem submit_closed {system : System} (isClosed : system.openLane = none) (request : Request)
    (listens : Bool) :
    system.submit request listens = { system with
      submitted := system.submitted + 1
      listeners := if listens then system.submitted :: system.listeners else system.listeners
      answers := (system.submitted, .error .cancelled) :: system.answers
      heard := (system.submit request listens).heard } := by
  simp [submit, isClosed, answer]

theorem open_queue_open {system : System} {lane : LaneId} (isOpen : system.openLane = some lane) :
    system.openQueue = system := by
  simp [openQueue, isOpen]

theorem open_queue_closed {system : System} (isClosed : system.openLane = none) :
    system.openQueue = { system with
      lanes := system.lanes ++ [Lane.fresh]
      openLane := some system.lanes.length
      tasks := system.tasks ++ [.worker system.lanes.length] } := by
  simp [openQueue, isClosed]

/-- Arming a schedule adds a task that ticks, or none when the host makes it
tick. -/
theorem arm_frame (system : System) :
    ∃ added, (∀ task ∈ added, ∃ schedule alarm, task = .ticker schedule alarm) ∧
      system.arm = { system with
        schedules := system.schedules ++
          [⟨Schedule.keptPeriod system.intervals.checkInterval, true⟩]
        armed := some system.schedules.length
        alarmCount := system.arm.alarmCount
        tasks := system.tasks ++ added } := by
  cases source : system.tickSource with
  | host => exact ⟨[], by simp, by simp [arm, source]⟩
  | clock =>
      refine ⟨[.ticker system.schedules.length (some ⟨system.clock, system.alarmCount⟩)], ?_, ?_⟩
      · intro task member
        rw [List.mem_singleton] at member
        exact ⟨_, _, member⟩
      · simp [arm, source, setAlarm, spawn]

theorem disarm_armed_frame (system : System) :
    system.disarmArmed = { system with
      schedules := system.disarmArmed.schedules, armed := none } := by
  unfold disarmArmed
  split <;> rename_i armed
  · rfl
  · rw [← armed]

theorem open_queue_frame (system : System) :
    system.openQueue = { system with
      lanes := system.openQueue.lanes, openLane := system.openQueue.openLane
      tasks := system.openQueue.tasks } := by
  cases isOpen : system.openLane with
  | some lane => rw [open_queue_open isOpen]
  | none => rw [open_queue_closed isOpen]

theorem open_queue_tasks (system : System) :
    ∃ added, system.openQueue.tasks = system.tasks ++ added := by
  cases isOpen : system.openLane with
  | some lane => exact ⟨[], by rw [open_queue_open isOpen, List.append_nil]⟩
  | none => exact ⟨_, by rw [open_queue_closed isOpen]⟩

theorem start_up_frame (system : System) :
    system.startUp = { system with
      lanes := system.startUp.lanes, openLane := system.startUp.openLane
      schedules := system.startUp.schedules, armed := system.startUp.armed
      alarmCount := system.startUp.alarmCount, lifecycle := system.startUp.lifecycle
      tasks := system.startUp.tasks } := by
  unfold startUp
  split
  · rfl
  · obtain ⟨added, _, armed⟩ := arm_frame system.openQueue
    rw [armed, open_queue_frame]

theorem start_up_tasks (system : System) :
    ∃ added, system.startUp.tasks = system.tasks ++ added := by
  unfold startUp
  split
  · exact ⟨[], (List.append_nil _).symm⟩
  · obtain ⟨added, _, armed⟩ := arm_frame system.openQueue
    obtain ⟨opened, tasks⟩ := open_queue_tasks system
    exact ⟨opened ++ added, by rw [armed, ← List.append_assoc, ← tasks]⟩

theorem start_up_found {system : System} {task : TaskId} {kind : Task}
    (found : system.tasks[task]? = some kind) : system.startUp.tasks[task]? = some kind := by
  obtain ⟨added, tasks⟩ := start_up_tasks system
  rw [tasks, List.getElem?_append_left (List.getElem?_eq_some_iff.mp found).1, found]

/-- Starting up for the first time opens a lane with a worker and arms a schedule. -/
theorem start_up_closed {system : System} (unarmed : system.armed = none)
    (isClosed : system.openLane = none) :
    ∃ added, (∀ task ∈ added, ∃ schedule alarm, task = .ticker schedule alarm) ∧
      system.startUp = { system with
        lanes := system.lanes ++ [Lane.fresh], openLane := some system.lanes.length
        schedules := system.startUp.schedules, armed := some system.schedules.length
        alarmCount := system.startUp.alarmCount, lifecycle := .running
        tasks := system.tasks ++ .worker system.lanes.length :: added } := by
  obtain ⟨added, tickers, frame⟩ := arm_frame system.openQueue
  have whole : system.startUp = { system.openQueue.arm with lifecycle := .running } := by
    simp only [startUp, unarmed]
  refine ⟨added, tickers, ?_⟩
  rw [whole, frame, open_queue_closed isClosed]
  simp only [List.append_assoc, List.singleton_append]

def needsCall (system : System) (request : Request) : Bool :=
  request.forced || (Freshness.assess system.store.certificate system.store.features
    request.features system.now (Span.ofMillis system.intervals.refreshEarlierBy)).needsRefresh

/-- The system in which the issuer has answered a refresh. -/
def answered (system : System) : System :=
  { system with issuer := (system.issuer.endRefresh system.now).2 }

/-- The system in which the first answer of the issuer was stored. -/
def kept (system : System) (certificate : Certificate) (request : Request) : System :=
  (system.answered.storeCertificate certificate request.features).2

/-- What a step of an operation does to the system and to the operation. -/
inductive OperationStep (system : System) (task : TaskId) (isCancelled : Bool)
    (operation : Operation) : System → Operation → Prop
  | abandon (early : operation.stage = .created ∨ operation.stage = .arriving)
      (cancelled : isCancelled = true) :
      OperationStep system task isCancelled operation system
        (operation.finish (.error .cancelled))
  | arrive (stage : operation.stage = .created) (going : isCancelled = false) :
      OperationStep system task isCancelled operation system
        { operation.publish .awaitingLock with stage := .arriving }
  | enter (stage : operation.stage = .arriving) (going : isCancelled = false)
      (free : system.token.place = .free) :
      OperationStep system task isCancelled operation
        { system with token := system.token.ask task } { operation with stage := .admitted }
  | queue (stage : operation.stage = .arriving) (going : isCancelled = false)
      (taken : system.token.place ≠ .free) :
      OperationStep system task isCancelled operation
        { system with token := system.token.ask task, alarmCount := system.alarmCount + 1 }
        { operation with
          stage := .waiting ⟨system.clock + system.intervals.waitTimeout, system.alarmCount⟩ }
  | withdraw (alarm : Alarm) (stage : operation.stage = .waiting alarm)
      (cancelled : isCancelled = true) :
      OperationStep system task isCancelled operation (system.leaveLine task)
        (operation.finish (.error .cancelled))
  | accept (alarm : Alarm) (stage : operation.stage = .waiting alarm)
      (going : isCancelled = false) (granted : system.token.place = .granted task) :
      OperationStep system task isCancelled operation (system.acceptToken task)
        { operation with stage := .admitted }
  | expire (alarm : Alarm) (stage : operation.stage = .waiting alarm)
      (going : isCancelled = false) (ungranted : system.token.place ≠ .granted task)
      (due : alarm.due ≤ system.clock) :
      OperationStep system task isCancelled operation (system.leaveLine task)
        (operation.finish (.error .timedOut))
  | turnBack (stage : operation.stage = .admitted) (cancelled : isCancelled = true) :
      OperationStep system task isCancelled operation (system.releaseToken task)
        (operation.finish (.error .cancelled))
  | skip (stage : operation.stage = .admitted) (going : isCancelled = false)
      (fresh : system.needsCall operation.request = false) :
      OperationStep system task isCancelled operation (system.releaseToken task)
        ((operation.publish .running).finish (.ok ()))
  | keyless (stage : operation.stage = .admitted) (going : isCancelled = false)
      (needed : system.needsCall operation.request = true)
      (missing : system.store.keys.1 = none) :
      OperationStep system task isCancelled operation
        ({ system with store := system.store.keys.2 }.releaseToken task)
        ((operation.publish .running).finish (.error .needNewKeys))
  | call (keys : KeyPair) (stage : operation.stage = .admitted) (going : isCancelled = false)
      (needed : system.needsCall operation.request = true)
      (found : system.store.keys.1 = some keys) :
      OperationStep system task isCancelled operation
        { system with
          store := system.store.keys.2
          issuer := system.issuer.beginRefresh keys.publicKey operation.request.features }
        { operation.publish .running with stage := .atGate }
  | pass (gate : Gate) (stage : operation.stage = .atGate)
      (passes : system.issuer.refreshGate.pass? = some gate) (instant : system.issuer.delay = 0) :
      OperationStep system task isCancelled operation
        { system with issuer := { system.issuer with refreshGate := gate } }
        { operation with stage := .concluding }
  | delay (gate : Gate) (stage : operation.stage = .atGate)
      (passes : system.issuer.refreshGate.pass? = some gate) (slow : system.issuer.delay ≠ 0) :
      OperationStep system task isCancelled operation
        { system with
          issuer := { system.issuer with refreshGate := gate }
          alarmCount := system.alarmCount + 1 }
        { operation with stage := .busy ⟨system.clock + system.issuer.delay, system.alarmCount⟩ }
  | wake (alarm : Alarm) (stage : operation.stage = .busy alarm) (due : alarm.due ≤ system.clock) :
      OperationStep system task isCancelled operation system
        { operation with stage := .concluding }
  | fail (failure : RemoteFailure) (stage : operation.stage = .concluding)
      (refused : (system.issuer.endRefresh system.now).1 = .error failure) :
      OperationStep system task isCancelled operation (system.answered.releaseToken task)
        (operation.finish (.error (system.catalogue.classify failure)))
  | save (certificate : Certificate) (stage : operation.stage = .concluding)
      (issued : (system.issuer.endRefresh system.now).1 = .ok certificate)
      (saved : (system.answered.storeCertificate certificate operation.request.features).1
        = .ok ()) :
      OperationStep system task isCancelled operation
        ((system.kept certificate operation.request).releaseToken task)
        (operation.finish (.ok ()))
  | lose (certificate : Certificate) (reason : String) (stage : operation.stage = .concluding)
      (issued : (system.issuer.endRefresh system.now).1 = .ok certificate)
      (lost : (system.answered.storeCertificate certificate operation.request.features).1
        = .error reason) :
      OperationStep system task isCancelled operation
        ((system.kept certificate operation.request).releaseToken task)
        (operation.finish (.error (unstored reason)))

theorem decide_operation_cases {system : System} {task : TaskId} {isCancelled : Bool}
    {operation : Operation} (stage : operation.stage = .admitted) (going : isCancelled = false) :
    OperationStep system task isCancelled operation
      (system.decideOperation task (operation.publish .running)).1
      (system.decideOperation task (operation.publish .running)).2 := by
  unfold decideOperation
  by_cases needed : system.needsCall operation.request = true
  · have decision := needed
    unfold needsCall at decision
    cases found : system.store.keys.1 with
    | none =>
        simp only [Operation.publish, decision, if_true, found]
        exact .keyless stage going needed found
    | some keys =>
        simp only [Operation.publish, decision, if_true, found]
        exact .call keys stage going needed found
  · have decision := needed
    unfold needsCall at decision
    simp only [Operation.publish, decision]
    exact .skip stage going (by simpa using needed)

theorem conclude_operation_cases {system : System} {task : TaskId} {isCancelled : Bool}
    {operation : Operation} (stage : operation.stage = .concluding) :
    OperationStep system task isCancelled operation
      (system.concludeOperation task operation).1 (system.concludeOperation task operation).2 := by
  unfold concludeOperation
  cases ended : (system.issuer.endRefresh system.now).1 with
  | error failure =>
      simp only [ended]
      exact .fail failure stage ended
  | ok certificate =>
      simp only [ended]
      let stored := system.answered.storeCertificate certificate operation.request.features
      cases result : stored.1 with
      | ok value =>
          have split : stored = (.ok (), system.kept certificate operation.request) :=
            Prod.ext result rfl
          simp only [stored, answered] at split
          simp only [split]
          exact .save certificate stage ended result
      | error reason =>
          have split : stored = (.error reason, system.kept certificate operation.request) :=
            Prod.ext result rfl
          simp only [stored, answered] at split
          simp only [split]
          exact .lose certificate reason stage ended result

theorem step_operation_cases {system moved : System} {task : TaskId} {isCancelled : Bool}
    {operation next : Operation}
    (stepped : system.stepOperation task isCancelled operation = some (moved, next)) :
    OperationStep system task isCancelled operation moved next := by
  unfold stepOperation at stepped
  cases stage : operation.stage with
  | created =>
      cases isCancelled <;> simp [stage] at stepped <;> obtain ⟨rfl, rfl⟩ := stepped
      · exact .arrive stage rfl
      · exact .abandon (.inl stage) rfl
  | arriving =>
      cases isCancelled with
      | true =>
          simp [stage] at stepped
          obtain ⟨rfl, rfl⟩ := stepped
          exact .abandon (.inr stage) rfl
      | false =>
          by_cases free : system.token.place = .free
          · simp [stage, askToken, Token.isFree, free] at stepped
            obtain ⟨rfl, rfl⟩ := stepped
            exact .enter stage rfl free
          · simp [stage, askToken, Token.isFree, free, setAlarm] at stepped
            obtain ⟨rfl, rfl⟩ := stepped
            exact .queue stage rfl free
  | waiting alarm =>
      cases isCancelled with
      | true =>
          simp [stage] at stepped
          obtain ⟨rfl, rfl⟩ := stepped
          exact .withdraw alarm stage rfl
      | false =>
          by_cases granted : system.token.place = .granted task
          · simp [stage, lookInLine, granted] at stepped
            obtain ⟨rfl, rfl⟩ := stepped
            exact .accept alarm stage rfl granted
          · by_cases due : alarm.due ≤ system.clock
            · simp [stage, lookInLine, granted, due] at stepped
              obtain ⟨rfl, rfl⟩ := stepped
              exact .expire alarm stage rfl granted due
            · simp [stage, lookInLine, granted, due] at stepped
  | admitted =>
      cases isCancelled with
      | true =>
          simp [stage] at stepped
          obtain ⟨rfl, rfl⟩ := stepped
          exact .turnBack stage rfl
      | false =>
          simp [stage] at stepped
          have decided : OperationStep system task false operation _ _ :=
            decide_operation_cases stage rfl
          rw [stepped] at decided
          exact decided
  | atGate =>
      cases passes : system.issuer.refreshGate.pass? with
      | none => simp [stage, passes] at stepped
      | some gate =>
          simp only [stage, passes] at stepped
          by_cases instant : system.issuer.delay = 0
          · rw [if_pos instant] at stepped
            obtain ⟨rfl, rfl⟩ := stepped
            exact .pass gate stage passes instant
          · rw [if_neg instant] at stepped
            obtain ⟨rfl, rfl⟩ := stepped
            exact .delay gate stage passes instant
  | busy alarm =>
      by_cases due : alarm.due ≤ system.clock
      · simp [stage, due] at stepped
        obtain ⟨rfl, rfl⟩ := stepped
        exact .wake alarm stage due
      · simp [stage, due] at stepped
  | concluding =>
      simp [stage] at stepped
      have concluded : OperationStep system task isCancelled operation _ _ :=
        conclude_operation_cases stage
      rw [stepped] at concluded
      exact concluded
  | ended outcome => simp [stage] at stepped

theorem kept_frame (system : System) (certificate : Certificate) (request : Request) :
    system.kept certificate request =
      { system.answered with store := (system.kept certificate request).store } := by
  unfold kept storeCertificate
  split <;> rfl

/-- An operation leaves everything alone but the token, the store, the issuer and
the count of alarms. -/
theorem OperationStep.frame {system moved : System} {task : TaskId} {isCancelled : Bool}
    {operation next : Operation}
    (step : OperationStep system task isCancelled operation moved next) :
    moved = { system with
      token := moved.token, store := moved.store, issuer := moved.issuer
      alarmCount := moved.alarmCount } := by
  cases step with
  | save certificate stage issued saved =>
      rw [kept_frame]
      rfl
  | lose certificate reason stage issued lost =>
      rw [kept_frame]
      rfl
  | _ => rfl

theorem OperationStep.request {system moved : System} {task : TaskId} {isCancelled : Bool}
    {operation next : Operation}
    (step : OperationStep system task isCancelled operation moved next) :
    next.request = operation.request := by
  cases step <;> rfl

inductive WorkerStep (system : System) (task : TaskId) (lane : LaneId) : System → Prop
  | carry (held : Lane) (id : RequestId) (operation next : Operation) (moved : System)
      (found : system.lanes[lane]? = some held) (current : held.current = some (id, operation))
      (moves : OperationStep system task held.isShut operation moved next)
      (going : ∀ outcome, next.stage ≠ .ended outcome) :
      WorkerStep system task lane (moved.setLane lane { held with current := some (id, next) })
  | deliver (held : Lane) (id : RequestId) (operation next : Operation) (moved : System)
      (outcome : Outcome) (found : system.lanes[lane]? = some held)
      (current : held.current = some (id, operation))
      (moves : OperationStep system task held.isShut operation moved next)
      (ended : next.stage = .ended outcome) :
      WorkerStep system task lane
        ((moved.setLane lane { held with current := none }).answer id outcome)
  | takeUp (held : Lane) (queued : Queued) (rest : List Queued)
      (found : system.lanes[lane]? = some held) (idle : held.current = none)
      (waiting : held.waiting = queued :: rest) :
      WorkerStep system task lane (system.setLane lane
        { held with waiting := rest, current := some (queued.id, .start queued.request) })
  | drain (held : Lane) (found : system.lanes[lane]? = some held) (idle : held.current = none)
      (empty : held.waiting = []) (shut : held.isShut = true)
      (undrained : held.isDrained = false) :
      WorkerStep system task lane (system.setLane lane { held with isDrained := true })

theorem WorkerStep.tasks {system next : System} {task : TaskId} {lane : LaneId}
    (step : WorkerStep system task lane next) : next.tasks = system.tasks := by
  cases step with
  | carry held id operation after moved found current moves =>
      rw [moves.frame]
      rfl
  | deliver held id operation after moved outcome found current moves =>
      rw [moves.frame]
      rfl
  | takeUp => rfl
  | drain => rfl

theorem step_worker_cases {system next : System} {task : TaskId} {lane : LaneId}
    (stepped : system.stepWorker task lane = some next) : WorkerStep system task lane next := by
  unfold stepWorker at stepped
  cases found : system.lanes[lane]? with
  | none => simp [found] at stepped
  | some held =>
      simp only [found] at stepped
      obtain ⟨waiting, current, isShut, isDrained⟩ := held
      cases current with
      | some entry =>
          obtain ⟨id, operation⟩ := entry
          simp only [Option.map_eq_some_iff, Prod.exists] at stepped
          obtain ⟨moved, after, moves, rfl⟩ := stepped
          have rule := step_operation_cases moves
          split
          · exact .deliver _ id operation after moved _ found rfl rule ‹_›
          · exact .carry _ id operation after moved found rfl rule ‹_›
      | none =>
          cases waiting with
          | cons queued rest =>
              obtain rfl := Option.some.inj stepped
              exact .takeUp _ queued rest found rfl rfl
          | nil =>
              cases isShut <;> cases isDrained <;> simp at stepped
              obtain rfl := stepped
              exact .drain _ found rfl rfl rfl rfl

/-- What a step of a caller does that keeps the token for itself. -/
inductive HolderStep (system : System) (task : TaskId) :
    HolderStage → System → HolderStage → Prop
  | enter (timeout : Nat) (free : system.token.place = .free) :
      HolderStep system task (.arriving timeout)
        { system with token := system.token.ask task } .holding
  | queue (timeout : Nat) (taken : system.token.place ≠ .free) :
      HolderStep system task (.arriving timeout)
        { system with token := system.token.ask task, alarmCount := system.alarmCount + 1 }
        (.waiting ⟨system.clock + timeout, system.alarmCount⟩)
  | accept (alarm : Alarm) (granted : system.token.place = .granted task) :
      HolderStep system task (.waiting alarm) (system.acceptToken task) .holding
  | expire (alarm : Alarm) (ungranted : system.token.place ≠ .granted task)
      (due : alarm.due ≤ system.clock) :
      HolderStep system task (.waiting alarm) (system.leaveLine task) .timedOut

theorem HolderStep.frame {system moved : System} {task : TaskId} {stage after : HolderStage}
    (step : HolderStep system task stage moved after) :
    moved = { system with token := moved.token, alarmCount := moved.alarmCount } := by
  cases step <;> rfl

theorem step_holder_cases {system next : System} {task : TaskId} {stage : HolderStage}
    (stepped : system.stepHolder task stage = some next) :
    ∃ moved after, HolderStep system task stage moved after ∧
      next = moved.setTask task (.holder after) := by
  cases stage with
  | arriving timeout =>
      by_cases free : system.token.place = .free
      · simp [stepHolder, askToken, Token.isFree, free] at stepped
        exact ⟨_, _, .enter timeout free, stepped.symm⟩
      · simp [stepHolder, askToken, Token.isFree, free, setAlarm] at stepped
        exact ⟨_, _, .queue timeout free, stepped.symm⟩
  | waiting alarm =>
      by_cases granted : system.token.place = .granted task
      · simp [stepHolder, lookInLine, granted] at stepped
        exact ⟨_, _, .accept alarm granted, stepped.symm⟩
      · by_cases due : alarm.due ≤ system.clock
        · simp [stepHolder, lookInLine, granted, due] at stepped
          exact ⟨_, _, .expire alarm granted due, stepped.symm⟩
        · simp [stepHolder, lookInLine, granted, due] at stepped
  | holding => simp [stepHolder] at stepped
  | timedOut => simp [stepHolder] at stepped
  | released => simp [stepHolder] at stepped

inductive ForkStep (system : System) (task : TaskId) (session : Session) :
    ForkStage → System → ForkStage → Prop
  | refuse (stopped : system.lifecycle = .stopped) :
      ForkStep system task session .checking system (.ended (.error .cancelled))
  | proceed (running : system.lifecycle = .running) :
      ForkStep system task session .checking system .arriving
  | enter (free : system.token.place = .free) :
      ForkStep system task session .arriving
        { system with token := system.token.ask task } .admitted
  | queue (taken : system.token.place ≠ .free) :
      ForkStep system task session .arriving
        { system with token := system.token.ask task, alarmCount := system.alarmCount + 1 }
        (.waiting ⟨system.clock + system.intervals.waitTimeout, system.alarmCount⟩)
  | accept (alarm : Alarm) (granted : system.token.place = .granted task) :
      ForkStep system task session (.waiting alarm) (system.acceptToken task) .admitted
  | expire (alarm : Alarm) (ungranted : system.token.place ≠ .granted task)
      (due : alarm.due ≤ system.clock) :
      ForkStep system task session (.waiting alarm) (system.leaveLine task)
        (.ended (.error .timedOut))
  | call :
      ForkStep system task session .admitted
        { system with issuer := system.issuer.beginSession session } .atGate
  | pass (gate : Gate) (passes : system.issuer.sessionGate.pass? = some gate) :
      ForkStep system task session .atGate
        { system with issuer := { system.issuer with sessionGate := gate } } .concluding
  | fail (failure : RemoteFailure) (refused : system.issuer.endSession.1 = .error failure) :
      ForkStep system task session .concluding
        ({ system with issuer := system.issuer.endSession.2 }.releaseToken task)
        (.ended (.error (system.catalogue.classify failure)))
  | succeed (accepted : system.issuer.endSession.1 = .ok ()) :
      ForkStep system task session .concluding
        ({ system with issuer := system.issuer.endSession.2 }.releaseToken task) .started
  | submit :
      ForkStep system task session .started
        (system.submit (.afterSession system.store.features) false) (.awaiting system.submitted)
  | finish (request : RequestId) (outcome : Outcome)
      (replied : system.answer? request = some outcome) :
      ForkStep system task session (.awaiting request) system (.ended outcome)

theorem step_fork_cases {system next : System} {task : TaskId} {session : Session}
    {stage : ForkStage} (stepped : system.stepFork task session stage = some next) :
    ∃ moved after, ForkStep system task session stage moved after ∧
      next = moved.setTask task (.fork session after) := by
  cases stage with
  | checking =>
      cases mode : system.lifecycle with
      | stopped =>
          simp [stepFork, mode] at stepped
          exact ⟨_, _, .refuse mode, stepped.symm⟩
      | running =>
          simp [stepFork, mode] at stepped
          exact ⟨_, _, .proceed mode, stepped.symm⟩
  | arriving =>
      by_cases free : system.token.place = .free
      · simp [stepFork, askToken, Token.isFree, free] at stepped
        exact ⟨_, _, .enter free, stepped.symm⟩
      · simp [stepFork, askToken, Token.isFree, free, setAlarm] at stepped
        exact ⟨_, _, .queue free, stepped.symm⟩
  | waiting alarm =>
      by_cases granted : system.token.place = .granted task
      · simp [stepFork, lookInLine, granted] at stepped
        exact ⟨_, _, .accept alarm granted, stepped.symm⟩
      · by_cases due : alarm.due ≤ system.clock
        · simp [stepFork, lookInLine, granted, due] at stepped
          exact ⟨_, _, .expire alarm granted due, stepped.symm⟩
        · simp [stepFork, lookInLine, granted, due] at stepped
  | admitted =>
      simp [stepFork] at stepped
      exact ⟨_, _, .call, stepped.symm⟩
  | atGate =>
      cases passes : system.issuer.sessionGate.pass? with
      | none => simp [stepFork, passes] at stepped
      | some gate =>
          simp [stepFork, passes] at stepped
          exact ⟨_, _, .pass gate passes, stepped.symm⟩
  | concluding =>
      cases ended : system.issuer.endSession.1 with
      | error failure =>
          simp [stepFork, ended] at stepped
          exact ⟨_, _, .fail failure ended, stepped.symm⟩
      | ok value =>
          simp [stepFork, ended] at stepped
          exact ⟨_, _, .succeed ended, stepped.symm⟩
  | started =>
      simp [stepFork] at stepped
      exact ⟨_, _, .submit, stepped.symm⟩
  | awaiting request =>
      cases replied : system.answer? request with
      | none => simp [stepFork, replied] at stepped
      | some outcome =>
          simp [stepFork, replied] at stepped
          exact ⟨_, _, .finish request outcome replied, stepped.symm⟩
  | ended outcome => simp [stepFork] at stepped

inductive StartStep (system : System) (task : TaskId) : StartStage → System → StartStage → Prop
  | enter (free : system.control.place = .free) :
      StartStep system task .asking
        { system with control := system.control.ask task } .opening
  | queue (taken : system.control.place ≠ .free) :
      StartStep system task .asking
        { system with control := system.control.ask task } .waiting
  | accept (granted : system.control.place = .granted task) :
      StartStep system task .waiting
        { system with control := system.control.accept task } .opening
  | open :
      StartStep system task .opening (system.startUp.releaseControl task)
        (.ended system.startUp.lifecycle)

theorem StartStep.frame {system moved : System} {task : TaskId} {stage after : StartStage}
    (step : StartStep system task stage moved after) :
    moved = { system with
      control := moved.control, lifecycle := moved.lifecycle, openLane := moved.openLane
      lanes := moved.lanes, armed := moved.armed, schedules := moved.schedules
      alarmCount := moved.alarmCount, tasks := moved.tasks } := by
  cases step with
  | «open» =>
      rw [start_up_frame]
      rfl
  | _ => rfl

theorem step_start_cases {system next : System} {task : TaskId} {stage : StartStage}
    (stepped : system.stepStart task stage = some next) :
    ∃ moved after, StartStep system task stage moved after ∧
      next = moved.setTask task (.start after) := by
  cases stage with
  | asking =>
      by_cases free : system.control.place = .free
      · simp [stepStart, Token.isFree, free] at stepped
        exact ⟨_, _, .enter free, stepped.symm⟩
      · simp [stepStart, Token.isFree, free] at stepped
        exact ⟨_, _, .queue free, stepped.symm⟩
  | waiting =>
      by_cases granted : system.control.place = .granted task
      · simp [stepStart, granted] at stepped
        exact ⟨_, _, .accept granted, stepped.symm⟩
      · simp [stepStart, granted] at stepped
  | opening =>
      simp [stepStart] at stepped
      exact ⟨_, _, .open, stepped.symm⟩
  | ended state => simp [stepStart] at stepped

inductive StopStep (system : System) (task : TaskId) : StopStage → System → StopStage → Prop
  | enter (free : system.control.place = .free) :
      StopStep system task .asking
        { system with control := system.control.ask task } .disarming
  | queue (taken : system.control.place ≠ .free) :
      StopStep system task .asking
        { system with control := system.control.ask task } .waiting
  | accept (granted : system.control.place = .granted task) :
      StopStep system task .waiting
        { system with control := system.control.accept task } .disarming
  | idle (unarmed : system.armed = none) :
      StopStep system task .disarming (system.releaseControl task) (.ended system.lifecycle)
  | shut (schedule : ScheduleId) (lane : LaneId) (armed : system.armed = some schedule)
      (isOpen : system.openLane = some lane) :
      StopStep system task .disarming (system.disarmArmed.shutLane lane) (.draining lane)
  | closed (schedule : ScheduleId) (armed : system.armed = some schedule)
      (isClosed : system.openLane = none) :
      StopStep system task .disarming
        ({ system.disarmArmed with lifecycle := .stopped }.releaseControl task) (.ended .stopped)
  | finish (lane : LaneId) (drained : system.isDrained lane = true) :
      StopStep system task (.draining lane)
        ({ system with lifecycle := .stopped }.releaseControl task) (.ended .stopped)

theorem StopStep.frame {system moved : System} {task : TaskId} {stage after : StopStage}
    (step : StopStep system task stage moved after) :
    moved = { system with
      control := moved.control, lifecycle := moved.lifecycle, openLane := moved.openLane
      lanes := moved.lanes, armed := moved.armed, schedules := moved.schedules } := by
  cases step with
  | shut schedule lane armed isOpen =>
      rw [disarm_armed_frame]
      rfl
  | closed schedule armed isClosed =>
      rw [disarm_armed_frame]
      rfl
  | _ => rfl

theorem step_stop_cases {system next : System} {task : TaskId} {stage : StopStage}
    (stepped : system.stepStop task stage = some next) :
    ∃ moved after, StopStep system task stage moved after ∧
      next = moved.setTask task (.stop after) := by
  cases stage with
  | asking =>
      by_cases free : system.control.place = .free
      · simp [stepStop, Token.isFree, free] at stepped
        exact ⟨_, _, .enter free, stepped.symm⟩
      · simp [stepStop, Token.isFree, free] at stepped
        exact ⟨_, _, .queue free, stepped.symm⟩
  | waiting =>
      by_cases granted : system.control.place = .granted task
      · simp [stepStop, granted] at stepped
        exact ⟨_, _, .accept granted, stepped.symm⟩
      · simp [stepStop, granted] at stepped
  | disarming =>
      cases armed : system.armed with
      | none =>
          simp [stepStop, armed] at stepped
          exact ⟨_, _, .idle armed, stepped.symm⟩
      | some schedule =>
          have same : system.disarmArmed.openLane = system.openLane := by
            simp only [disarmArmed, armed]
            rfl
          simp only [stepStop, armed] at stepped
          split at stepped
          · rename_i lane isOpen
            obtain rfl := Option.some.inj stepped
            exact ⟨_, _, .shut schedule lane armed (same ▸ isOpen), rfl⟩
          · rename_i isClosed
            obtain rfl := Option.some.inj stepped
            exact ⟨_, _, .closed schedule armed (same ▸ isClosed), rfl⟩
  | draining lane =>
      by_cases drained : system.isDrained lane = true
      · simp [stepStop, drained] at stepped
        exact ⟨_, _, .finish lane drained, stepped.symm⟩
      · simp [stepStop, drained] at stepped
  | ended state => simp [stepStop] at stepped

inductive CloseStep (system : System) : CloseStage → System → CloseStage → Prop
  | shut (lane : LaneId) (isOpen : system.openLane = some lane) :
      CloseStep system .shutting (system.shutLane lane) (.draining lane)
  | closed (isClosed : system.openLane = none) : CloseStep system .shutting system .ended
  | finish (lane : LaneId) (drained : system.isDrained lane = true) :
      CloseStep system (.draining lane) system .ended

theorem CloseStep.frame {system moved : System} {stage after : CloseStage}
    (step : CloseStep system stage moved after) :
    moved = { system with openLane := moved.openLane, lanes := moved.lanes } := by
  cases step <;> rfl

theorem step_close_cases {system next : System} {task : TaskId} {stage : CloseStage}
    (stepped : system.stepClose task stage = some next) :
    ∃ moved after, CloseStep system stage moved after ∧
      next = moved.setTask task (.close after) := by
  cases stage with
  | shutting =>
      cases isOpen : system.openLane with
      | none =>
          simp [stepClose, isOpen] at stepped
          exact ⟨_, _, .closed isOpen, stepped.symm⟩
      | some lane =>
          simp [stepClose, isOpen] at stepped
          exact ⟨_, _, .shut lane isOpen, stepped.symm⟩
  | draining lane =>
      by_cases drained : system.isDrained lane = true
      · simp [stepClose, drained] at stepped
        exact ⟨_, _, .finish lane drained, stepped.symm⟩
      · simp [stepClose, drained] at stepped
  | ended => simp [stepClose] at stepped

inductive TickerStep (system : System) (schedule : ScheduleId) (alarm : Alarm) :
    System → Option Alarm → Prop
  | retire (held : Schedule) (found : system.schedules[schedule]? = some held)
      (dead : held.isLive = false) : TickerStep system schedule alarm system none
  | tick (held : Schedule) (next : Alarm) (found : system.schedules[schedule]? = some held)
      (live : held.isLive = true) (due : alarm.due ≤ system.clock)
      (at_next : next.due = Schedule.nextDue held.period alarm.due system.clock) :
      TickerStep system schedule alarm
        { system.check with alarmCount := system.check.alarmCount + 1 } (some next)

theorem step_ticker_cases {system next : System} {task : TaskId} {schedule : ScheduleId}
    {alarm : Alarm} (stepped : system.stepTicker task schedule alarm = some next) :
    ∃ moved after, TickerStep system schedule alarm moved after ∧
      next = moved.setTask task (.ticker schedule after) := by
  unfold stepTicker at stepped
  cases found : system.schedules[schedule]? with
  | none => simp [found] at stepped
  | some held =>
      cases live : held.isLive with
      | false =>
          simp [found, live] at stepped
          exact ⟨_, _, .retire held found live, stepped.symm⟩
      | true =>
          by_cases due : alarm.due ≤ system.clock
          · simp [found, live, due, setAlarm] at stepped
            exact ⟨_, _, .tick held _ found live due rfl, stepped.symm⟩
          · simp [found, live, due] at stepped

inductive TaskStep (system : System) (task : TaskId) : System → Prop
  | worker (lane : LaneId) (next : System) (found : system.tasks[task]? = some (.worker lane))
      (step : WorkerStep system task lane next) : TaskStep system task next
  | direct (operation next : Operation) (isCancelled : Bool) (moved : System)
      (found : system.tasks[task]? = some (.direct operation isCancelled))
      (step : OperationStep system task isCancelled operation moved next) :
      TaskStep system task (moved.setTask task (.direct next isCancelled))
  | holder (stage next : HolderStage) (moved : System)
      (found : system.tasks[task]? = some (.holder stage))
      (step : HolderStep system task stage moved next) :
      TaskStep system task (moved.setTask task (.holder next))
  | fork (session : Session) (stage next : ForkStage) (moved : System)
      (found : system.tasks[task]? = some (.fork session stage))
      (step : ForkStep system task session stage moved next) :
      TaskStep system task (moved.setTask task (.fork session next))
  | start (stage next : StartStage) (moved : System)
      (found : system.tasks[task]? = some (.start stage))
      (step : StartStep system task stage moved next) :
      TaskStep system task (moved.setTask task (.start next))
  | stop (stage next : StopStage) (moved : System)
      (found : system.tasks[task]? = some (.stop stage))
      (step : StopStep system task stage moved next) :
      TaskStep system task (moved.setTask task (.stop next))
  | close (stage next : CloseStage) (moved : System)
      (found : system.tasks[task]? = some (.close stage))
      (step : CloseStep system stage moved next) :
      TaskStep system task (moved.setTask task (.close next))
  | ticker (schedule : ScheduleId) (alarm : Alarm) (next : Option Alarm) (moved : System)
      (found : system.tasks[task]? = some (.ticker schedule (some alarm)))
      (step : TickerStep system schedule alarm moved next) :
      TaskStep system task (moved.setTask task (.ticker schedule next))

theorem step_cases {system next : System} {task : TaskId}
    (stepped : system.step task = some next) : TaskStep system task next := by
  unfold step at stepped
  cases found : system.tasks[task]? with
  | none => simp [found] at stepped
  | some kind =>
      cases kind with
      | worker lane =>
          simp only [found] at stepped
          exact .worker lane next found (step_worker_cases stepped)
      | direct operation isCancelled =>
          simp only [found, Option.map_eq_some_iff, Prod.exists] at stepped
          obtain ⟨moved, after, moves, rfl⟩ := stepped
          exact .direct operation after isCancelled moved found (step_operation_cases moves)
      | holder stage =>
          simp only [found] at stepped
          obtain ⟨moved, after, rule, rfl⟩ := step_holder_cases stepped
          exact .holder stage after moved found rule
      | fork session stage =>
          simp only [found] at stepped
          obtain ⟨moved, after, rule, rfl⟩ := step_fork_cases stepped
          exact .fork session stage after moved found rule
      | start stage =>
          simp only [found] at stepped
          obtain ⟨moved, after, rule, rfl⟩ := step_start_cases stepped
          exact .start stage after moved found rule
      | stop stage =>
          simp only [found] at stepped
          obtain ⟨moved, after, rule, rfl⟩ := step_stop_cases stepped
          exact .stop stage after moved found rule
      | close stage =>
          simp only [found] at stepped
          obtain ⟨moved, after, rule, rfl⟩ := step_close_cases stepped
          exact .close stage after moved found rule
      | ticker schedule alarm =>
          cases alarm with
          | none => simp [found] at stepped
          | some alarm =>
              simp only [found] at stepped
              obtain ⟨moved, after, rule, rfl⟩ := step_ticker_cases stepped
              exact .ticker schedule alarm after moved found rule

/-- The task that an event begins, which has not done anything yet. -/
inductive Begun : Event → Task → Prop
  | direct (request : Request) (isCancelled : Bool) :
      Begun (.direct request isCancelled) (.direct (.start request) isCancelled)
  | holder (timeout : Nat) : Begun (.hold timeout) (.holder (.arriving timeout))
  | session (session : Session) : Begun (.newSession session) (.fork session .checking)
  | fork (session : Session) : Begun (.fork session) (.fork session .arriving)
  | start : Begun .start (.start .asking)
  | stop : Begun .stop (.stop .asking)
  | close : Begun .closeQueue (.close .shutting)

inductive EventStep (system : System) : Event → System → Prop
  | step (task : TaskId) (next : System) (moves : TaskStep system task next) :
      EventStep system (.step task) next
  | stay (event : Event) : EventStep system event system
  | aside (event : Event) (clock : Nat) (listeners : List RequestId) (store : Store)
      (storeRefusal : Option String)
      (refreshGate sessionGate : Gate)
      (refreshScript : List (Except RemoteFailure Certificate))
      (sessionScript : List (Except RemoteFailure Unit)) (later : system.clock ≤ clock) :
      EventStep system event { system with
        clock, listeners, store, storeRefusal
        issuer := { system.issuer with refreshGate, sessionGate, refreshScript, sessionScript } }
  | begin (event : Event) (task : Task) (begun : Begun event task) :
      EventStep system event (system.spawn task)
  | submit (request : Request) (listens : Bool) :
      EventStep system (.submit request listens) (system.submit request listens)
  | fire : EventStep system .fire system.fire
  | openQueue : EventStep system .openQueue system.openQueue
  | arm : EventStep system .arm system.disarmArmed.arm
  | disarm : EventStep system .disarm system.disarmArmed
  | cancelSchedule (schedule : ScheduleId) :
      EventStep system .cancelSchedule (system.disarm schedule)
  | tryHold (free : system.token.place = .free) :
      EventStep system .tryHold ({ system with
        token := system.token.ask system.tasks.length }.spawn (.holder .holding))
  | release (task : TaskId) (found : system.tasks[task]? = some (.holder .holding)) :
      EventStep system (.release task)
        ((system.releaseToken task).setTask task (.holder .released))
  | cancelDirect (task : TaskId) (operation : Operation) (isCancelled : Bool)
      (found : system.tasks[task]? = some (.direct operation isCancelled)) :
      EventStep system (.cancelDirect task) (system.setTask task (.direct operation true))

theorem store_certificate_aside (system : System) (certificate : Certificate)
    (features : Option Features) :
    (system.storeCertificate certificate features).2 =
      { system with store := (system.storeCertificate certificate features).2.store } := by
  unfold storeCertificate
  split <;> rfl

theorem apply_cases (system : System) (event : Event) :
    EventStep system event (system.apply event) := by
  have aside (event : Event) := @EventStep.aside system event
  cases event with
  | step task =>
      simp only [apply]
      cases stepped : system.step task with
      | none => exact .stay _
      | some next => exact .step task next (step_cases stepped)
  | elapse => exact aside _ _ _ _ _ _ _ _ _ (Nat.le_add_right _ _)
  | submit request listens => exact .submit request listens
  | forget => exact aside _ _ _ _ _ _ _ _ _ (Nat.le_refl _)
  | start => exact .begin _ _ .start
  | stop => exact .begin _ _ .stop
  | newSession session => exact .begin _ _ (.session session)
  | fork session => exact .begin _ _ (.fork session)
  | openQueue => exact .openQueue
  | closeQueue => exact .begin _ _ .close
  | direct request isCancelled => exact .begin _ _ (.direct request isCancelled)
  | cancelDirect task =>
      simp only [apply, cancelDirect]
      split
      · exact .cancelDirect task _ _ ‹_›
      · exact .stay _
  | hold timeout => exact .begin _ _ (.holder timeout)
  | tryHold =>
      simp only [apply, tryHold]
      split
      · rename_i free
        exact .tryHold (by simpa [Token.isFree] using free)
      · exact .stay _
  | release task =>
      simp only [apply, releaseHeld]
      split
      · exact .release task ‹_›
      · exact .stay _
  | arm => exact .arm
  | disarm => exact .disarm
  | cancelSchedule =>
      simp only [apply, cancelArmed]
      split
      · exact .cancelSchedule _
      · exact .stay _
  | fire => exact .fire
  | permitRefreshes => exact aside _ _ _ _ _ _ _ _ _ (Nat.le_refl _)
  | permitSessions => exact aside _ _ _ _ _ _ _ _ _ (Nat.le_refl _)
  | scriptRefresh => exact aside _ _ _ _ _ _ _ _ _ (Nat.le_refl _)
  | scriptSession => exact aside _ _ _ _ _ _ _ _ _ (Nat.le_refl _)
  | refuseStoring => exact aside _ _ _ _ _ _ _ _ _ (Nat.le_refl _)
  | storeCertificate certificate features =>
      simp only [apply]
      rw [store_certificate_aside]
      exact aside _ _ _ _ _ _ _ _ _ (Nat.le_refl _)
  | storeKeys => exact aside _ _ _ _ _ _ _ _ _ (Nat.le_refl _)
  | readKeys => exact aside _ _ _ _ _ _ _ _ _ (Nat.le_refl _)
  | deleteKeys => exact aside _ _ _ _ _ _ _ _ _ (Nat.le_refl _)
  | deleteCertificate => exact aside _ _ _ _ _ _ _ _ _ (Nat.le_refl _)

theorem fire_invariant {Holds : System → Prop} (kept : ∀ system, Holds system → Holds system.check)
    {system : System} (start : Holds system) : Holds system.fire := by
  unfold fire
  induction List.range system.liveSchedules generalizing system with
  | nil => exact start
  | cons _ rest induction => exact induction (kept system start)

/-- What is laid down before the program runs. -/
def settings (system : System) : Intervals × Catalogue × TickSource × Instant :=
  (system.intervals, system.catalogue, system.tickSource, system.origin)

theorem submit_settings (system : System) (request : Request) (listens : Bool) :
    (system.submit request listens).settings = system.settings ∧
      (system.submit request listens).clock = system.clock := by
  cases isOpen : system.openLane with
  | none => rw [submit_closed isOpen]; exact ⟨rfl, rfl⟩
  | some lane => rw [submit_open isOpen]; exact ⟨rfl, rfl⟩

/-- Steps take no time. -/
theorem TaskStep.settings {system next : System} {task : TaskId}
    (step : TaskStep system task next) :
    next.settings = system.settings ∧ next.clock = system.clock := by
  cases step with
  | worker lane next found step =>
      cases step with
      | carry held id operation after moved there current moves =>
          rw [moves.frame]
          exact ⟨rfl, rfl⟩
      | deliver held id operation after moved outcome there current moves =>
          rw [moves.frame]
          exact ⟨rfl, rfl⟩
      | _ => exact ⟨rfl, rfl⟩
  | direct operation after isCancelled moved found step => rw [step.frame]; exact ⟨rfl, rfl⟩
  | holder stage after moved found step => rw [step.frame]; exact ⟨rfl, rfl⟩
  | fork session stage after moved found step =>
      cases step with
      | submit => exact submit_settings system _ _
      | _ => exact ⟨rfl, rfl⟩
  | start stage after moved found step => rw [step.frame]; exact ⟨rfl, rfl⟩
  | stop stage after moved found step => rw [step.frame]; exact ⟨rfl, rfl⟩
  | close stage after moved found step => rw [step.frame]; exact ⟨rfl, rfl⟩
  | ticker schedule alarm after moved found step =>
      cases step with
      | retire => exact ⟨rfl, rfl⟩
      | tick => exact submit_settings system _ _

/-- Nothing is laid down anew, and the clock does not go back. -/
theorem apply_settings (system : System) (event : Event) :
    (system.apply event).settings = system.settings ∧
      system.clock ≤ (system.apply event).clock := by
  have rule := apply_cases system event
  generalize system.apply event = next at rule
  have steady {next : System} (same : next.settings = system.settings ∧
      next.clock = system.clock) : next.settings = system.settings ∧ system.clock ≤ next.clock :=
    ⟨same.1, Nat.le_of_eq same.2.symm⟩
  cases rule with
  | step task next moves => exact steady moves.settings
  | aside _ clock listeners store refusal refreshGate sessionGate refreshes sessions later =>
      exact ⟨rfl, later⟩
  | submit request listens => exact steady (submit_settings system request listens)
  | fire =>
      let Same (next : System) : Prop :=
        next.settings = system.settings ∧ next.clock = system.clock
      have kept (next : System) (same : Same next) : Same next.check := by
        have checked := submit_settings next (.background next.store.features) false
        exact ⟨checked.1.trans same.1, checked.2.trans same.2⟩
      have fired : Same system.fire := fire_invariant kept ⟨rfl, rfl⟩
      exact steady fired
  | openQueue => rw [open_queue_frame]; exact ⟨rfl, Nat.le_refl _⟩
  | arm =>
      obtain ⟨added, _, frame⟩ := arm_frame system.disarmArmed
      rw [frame, disarm_armed_frame]
      exact ⟨rfl, Nat.le_refl _⟩
  | disarm => rw [disarm_armed_frame]; exact ⟨rfl, Nat.le_refl _⟩
  | _ => exact ⟨rfl, Nat.le_refl _⟩

theorem run_settings (outset : Outset) (events : List Event) :
    (outset.system.run events).settings = outset.system.settings := by
  let Same (system : System) : Prop := system.settings = outset.system.settings
  have kept (system : System) (event : Event) (same : Same system) : Same (system.apply event) :=
    (apply_settings system event).1.trans same
  have started : Same outset.system := rfl
  exact run_invariant kept started events

end CertRenewal.System
