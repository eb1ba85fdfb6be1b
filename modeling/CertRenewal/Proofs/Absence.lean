import CertRenewal.Proofs.Lives

/-!
What a task in line means to the others. Nobody looks at the line of the token but
whoever passes the token on. So as long as the task is not granted the token, everything
happens as if it did not stand in line at all.
-/

namespace CertRenewal

namespace Token

/-- The token, when one task is taken out of the line. -/
def without (token : Token) (task : TaskId) : Token :=
  { token with line := token.line.filter (· ≠ task) }

variable {token : Token} {task other : TaskId}

theorem ask_without (different : other ≠ task) :
    (token.without task).ask other = (token.ask other).without task := by
  unfold ask without
  cases token.place <;> simp [different]

theorem accept_without : (token.without task).accept other = (token.accept other).without task := by
  unfold accept without
  split <;> rfl

theorem pass_on_without (ungranted : token.passOn.place ≠ .granted task) :
    (token.without task).passOn = token.passOn.without task := by
  obtain ⟨place, line⟩ := token
  cases line with
  | nil => rfl
  | cons next rest =>
      have different : next ≠ task := fun same => ungranted (by rw [same]; rfl)
      simp [without, passOn, different]

theorem leave_without (ungranted : (token.leave other).place ≠ .granted task) :
    (token.without task).leave other = (token.leave other).without task := by
  unfold leave at ungranted ⊢
  by_cases granted : token.place = .granted other
  · rw [if_pos granted] at ungranted ⊢
    exact (if_pos granted).trans (pass_on_without ungranted)
  · rw [if_neg granted]
    refine (if_neg granted).trans ?_
    simp only [without, List.filter_filter, Bool.and_comm]

theorem release_without (ungranted : (token.release other).place ≠ .granted task) :
    (token.without task).release other = (token.release other).without task := by
  unfold release at ungranted ⊢
  by_cases held : token.place = .held other
  · rw [if_pos held] at ungranted ⊢
    exact (if_pos held).trans (pass_on_without ungranted)
  · rw [if_neg held]
    exact if_neg held

end Token

namespace System

/-- The system in which one task does not stand in line for the token. -/
def without (system : System) (task : TaskId) : System :=
  { system with token := system.token.without task }

variable {system : System} {task other : TaskId}

theorem ask_token_without (different : other ≠ task) (timeout : Nat) :
    (system.without task).askToken other timeout =
      ((system.askToken other timeout).1, (system.askToken other timeout).2.without task) := by
  have asked : (system.without task).token.ask other = (system.token.ask other).without task :=
    Token.ask_without different
  have free : (system.without task).token.isFree = system.token.isFree := rfl
  unfold askToken
  rw [free]
  split
  · rw [asked]
    rfl
  · simp only [setAlarm]
    rw [asked]
    rfl

theorem release_token_without
    (ungranted : (system.releaseToken other).token.place ≠ .granted task) :
    (system.without task).releaseToken other = (system.releaseToken other).without task := by
  have released := Token.release_without ungranted
  unfold releaseToken without
  rw [released]

theorem leave_line_without (ungranted : (system.leaveLine other).token.place ≠ .granted task) :
    (system.without task).leaveLine other = (system.leaveLine other).without task := by
  have left := Token.leave_without ungranted
  unfold leaveLine without
  rw [left]

theorem accept_token_without (system : System) :
    (system.without task).acceptToken other = (system.acceptToken other).without task := by
  unfold acceptToken without
  rw [Token.accept_without]

theorem look_in_line_without (alarm : Alarm)
    (ungranted : ∀ result, system.lookInLine other alarm = some result →
      result.2.token.place ≠ .granted task) :
    (system.without task).lookInLine other alarm =
      (system.lookInLine other alarm).map fun result => (result.1, result.2.without task) := by
  by_cases granted : system.token.place = .granted other
  · have looked : system.lookInLine other alarm = some (.admitted, system.acceptToken other) :=
      if_pos granted
    rw [looked, Option.map_some, ← accept_token_without]
    exact if_pos granted
  · by_cases due : alarm.due ≤ system.clock
    · have looked : system.lookInLine other alarm = some (.timedOut, system.leaveLine other) :=
        (if_neg granted).trans (if_pos due)
      rw [looked, Option.map_some, ← leave_line_without (ungranted _ looked)]
      exact (if_neg granted).trans (if_pos due)
    · have looked : system.lookInLine other alarm = none :=
        (if_neg granted).trans (if_neg due)
      rw [looked]
      exact (if_neg granted).trans (if_neg due)

theorem store_certificate_without (system : System) (task : TaskId) (certificate : Certificate)
    (features : Option Features) :
    (system.without task).storeCertificate certificate features =
      ((system.storeCertificate certificate features).1,
        (system.storeCertificate certificate features).2.without task) := by
  cases refusal : system.storeRefusal with
  | none =>
      have same : (system.without task).storeRefusal = none := refusal
      simp only [storeCertificate, refusal, same]
      rfl
  | some reason =>
      have same : (system.without task).storeRefusal = some reason := refusal
      simp only [storeCertificate, refusal, same]

/-- What the issuer has answered is stored alike. -/
theorem kept_without (system : System) (task : TaskId) (certificate : Certificate)
    (request : Request) :
    ((system.without task).answered.storeCertificate certificate request.features).1 =
        (system.answered.storeCertificate certificate request.features).1 ∧
      (system.without task).kept certificate request =
        (system.kept certificate request).without task :=
  Prod.ext_iff.mp (store_certificate_without system.answered task certificate request.features)

/-- An operation of another task takes the same step. -/
theorem OperationStep.without {moved : System} {isCancelled : Bool} {operation after : Operation}
    (step : OperationStep system other isCancelled operation moved after)
    (apart : operation.stage = .arriving → other ≠ task)
    (ungranted : moved.token.place ≠ .granted task) :
    OperationStep (system.without task) other isCancelled operation (moved.without task) after := by
  cases step with
  | abandon early cancelled => exact .abandon early cancelled
  | arrive stage going => exact .arrive stage going
  | enter stage going free =>
      have asked := @Token.ask_without system.token _ _ (apart stage)
      simp only [System.without, ← asked]
      exact .enter stage going free
  | queue stage going taken =>
      have asked := @Token.ask_without system.token _ _ (apart stage)
      simp only [System.without, ← asked]
      exact .queue stage going taken
  | withdraw alarm stage cancelled =>
      rw [← leave_line_without ungranted]
      exact .withdraw alarm stage cancelled
  | accept alarm stage going granted =>
      rw [← accept_token_without]
      exact .accept alarm stage going granted
  | expire alarm stage going other due =>
      rw [← leave_line_without ungranted]
      exact .expire alarm stage going other due
  | turnBack stage cancelled =>
      rw [← release_token_without ungranted]
      exact .turnBack stage cancelled
  | skip stage going fresh =>
      rw [← release_token_without ungranted]
      exact .skip stage going fresh
  | keyless stage going needed missing =>
      rw [← release_token_without ungranted]
      exact .keyless stage going needed missing
  | call keys stage going needed found => exact .call keys stage going needed found
  | pass gate stage passes instant => exact .pass gate stage passes instant
  | delay gate stage passes slow => exact .delay gate stage passes slow
  | wake alarm stage due => exact .wake alarm stage due
  | fail failure stage refused =>
      rw [← release_token_without ungranted]
      exact .fail failure stage refused
  | save certificate stage issued saved =>
      obtain ⟨result, kept⟩ := kept_without system task certificate operation.request
      rw [← release_token_without ungranted, ← kept]
      exact .save certificate stage issued (result.trans saved)
  | lose certificate reason stage issued lost =>
      obtain ⟨result, kept⟩ := kept_without system task certificate operation.request
      rw [← release_token_without ungranted, ← kept]
      exact .lose certificate reason stage issued (result.trans lost)

theorem step_operation_without {isCancelled : Bool} {operation : Operation}
    (apart : operation.stage = .arriving → other ≠ task)
    (ungranted : ∀ result, system.stepOperation other isCancelled operation = some result →
      result.1.token.place ≠ .granted task) :
    (system.without task).stepOperation other isCancelled operation =
      (system.stepOperation other isCancelled operation).map
        fun result => (result.1.without task, result.2) := by
  cases taken : system.stepOperation other isCancelled operation with
  | some result =>
      have step := step_operation_cases taken
      exact (step.without apart (ungranted result taken)).taken
  | none =>
      have stuck := step_operation_none taken
      cases stage : operation.stage with
      | waiting alarm =>
          rw [stage] at stuck
          obtain ⟨going, other, early⟩ := stuck
          have late : ¬ alarm.due ≤ (system.without task).clock := Nat.not_le.mpr early
          have elsewhere : (system.without task).token.place ≠ _ := other
          simp [stepOperation, stage, going, lookInLine, elsewhere, late]
      | atGate =>
          rw [stage] at stuck
          have closed : (system.without task).issuer.refreshGate.pass? = none := stuck
          simp [stepOperation, stage, closed]
      | busy alarm =>
          rw [stage] at stuck
          have late : ¬ alarm.due ≤ (system.without task).clock := Nat.not_le.mpr stuck
          simp [stepOperation, stage, late]
      | ended outcome => simp [stepOperation, stage]
      | _ =>
          rw [stage] at stuck
          exact stuck.elim

theorem submit_without (system : System) (task : TaskId) (request : Request) (listens : Bool) :
    (system.without task).submit request listens =
      (system.submit request listens).without task := by
  have same : (system.without task).openLane = system.openLane := rfl
  unfold submit
  rw [same]
  cases system.openLane <;> rfl

theorem check_without (system : System) (task : TaskId) :
    (system.without task).check = system.check.without task :=
  submit_without system task (.background system.store.features) false

theorem open_queue_without (system : System) (task : TaskId) :
    (system.without task).openQueue = system.openQueue.without task := by
  have same : (system.without task).openLane = system.openLane := rfl
  unfold openQueue
  rw [same]
  cases system.openLane <;> rfl

theorem arm_without (system : System) (task : TaskId) :
    (system.without task).arm = system.arm.without task := by
  have same : (system.without task).tickSource = system.tickSource := rfl
  unfold arm
  simp only [same]
  cases system.tickSource <;> rfl

theorem disarm_armed_without (system : System) (task : TaskId) :
    (system.without task).disarmArmed = system.disarmArmed.without task := by
  have same : (system.without task).armed = system.armed := rfl
  unfold disarmArmed
  rw [same]
  cases system.armed <;> rfl

theorem start_up_without (system : System) (task : TaskId) :
    (system.without task).startUp = system.startUp.without task := by
  have same : (system.without task).armed = system.armed := rfl
  unfold startUp
  rw [same]
  cases system.armed with
  | some schedule => rfl
  | none =>
      simp only [open_queue_without, arm_without]
      rfl

section

variable (apart : system.role other = .idle → other ≠ task)

include apart

theorem step_worker_without {lane : LaneId} (worker : system.tasks[other]? = some (.worker lane))
    (ungranted : ∀ next, system.stepWorker other lane = some next →
      next.token.place ≠ .granted task) :
    (system.without task).stepWorker other lane =
      (system.stepWorker other lane).map (·.without task) := by
  have same : (system.without task).lanes = system.lanes := rfl
  unfold stepWorker at ungranted ⊢
  rw [same]
  cases found : system.lanes[lane]? with
  | none => rfl
  | some held =>
      simp only [found] at ungranted
      obtain ⟨waiting, current, isShut, isDrained⟩ := held
      cases current with
      | none =>
          cases waiting with
          | cons queued rest => rfl
          | nil => cases isShut <;> cases isDrained <;> rfl
      | some entry =>
          obtain ⟨id, operation⟩ := entry
          have role : system.role other = operation.stage.role := worker_role worker found
          have elsewhere (arriving : operation.stage = .arriving) : other ≠ task :=
            apart (by rw [role, arriving]; rfl)
          have stays (result : System × Operation)
              (taken : system.stepOperation other isShut operation = some result) :
              result.1.token.place ≠ .granted task := by
            obtain ⟨moved, after⟩ := result
            have place := ungranted _ (congrArg (Option.map _) taken)
            cases stage : after.stage <;> simpa [stage, setLane, answer] using place
          simp only [step_operation_without elsewhere stays]
          cases system.stepOperation other isShut operation with
          | none => rfl
          | some result =>
              obtain ⟨moved, after⟩ := result
              simp only [Option.map_some]
              split <;> rfl

theorem step_holder_without {stage : HolderStage}
    (found : system.tasks[other]? = some (.holder stage))
    (ungranted : ∀ next, system.stepHolder other stage = some next →
      next.token.place ≠ .granted task) :
    (system.without task).stepHolder other stage =
      (system.stepHolder other stage).map (·.without task) := by
  have role : system.role other = stage.role := role_found found
  cases stage with
  | arriving timeout =>
      have elsewhere : other ≠ task := apart role
      simp only [stepHolder, ask_token_without elsewhere]
      generalize system.askToken other timeout = asked
      obtain ⟨alarm, next⟩ := asked
      cases alarm <;> rfl
  | waiting alarm =>
      have stays (result : LineResult × System) (looked : system.lookInLine other alarm =
          some result) : result.2.token.place ≠ .granted task := by
        obtain ⟨result, next⟩ := result
        simp only [stepHolder, looked] at ungranted
        cases result with
        | admitted => exact ungranted (next.setTask other (.holder .holding)) rfl
        | timedOut => exact ungranted (next.setTask other (.holder .timedOut)) rfl
      simp only [stepHolder, look_in_line_without alarm stays]
      cases system.lookInLine other alarm with
      | none => rfl
      | some result =>
          obtain ⟨result, next⟩ := result
          cases result <;> rfl
  | _ => rfl

theorem step_fork_without {session : Session} {stage : ForkStage}
    (found : system.tasks[other]? = some (.fork session stage))
    (ungranted : ∀ next, system.stepFork other session stage = some next →
      next.token.place ≠ .granted task) :
    (system.without task).stepFork other session stage =
      (system.stepFork other session stage).map (·.without task) := by
  have role : system.role other = stage.role := role_found found
  cases stage with
  | checking =>
      have same : (system.without task).lifecycle = system.lifecycle := rfl
      simp only [stepFork, same]
      cases system.lifecycle <;> rfl
  | arriving =>
      have elsewhere : other ≠ task := apart role
      have same : (system.without task).intervals = system.intervals := rfl
      simp only [stepFork, ask_token_without elsewhere, same]
      generalize system.askToken other system.intervals.waitTimeout = asked
      obtain ⟨alarm, next⟩ := asked
      cases alarm <;> rfl
  | waiting alarm =>
      have stays (result : LineResult × System) (looked : system.lookInLine other alarm =
          some result) : result.2.token.place ≠ .granted task := by
        obtain ⟨result, next⟩ := result
        simp only [stepFork, looked] at ungranted
        cases result with
        | admitted => exact ungranted (next.setTask other (.fork session .admitted)) rfl
        | timedOut =>
            exact ungranted
              (next.setTask other (.fork session (.ended (.error .timedOut)))) rfl
      simp only [stepFork, look_in_line_without alarm stays]
      cases system.lookInLine other alarm with
      | none => rfl
      | some result =>
          obtain ⟨result, next⟩ := result
          cases result <;> rfl
  | atGate =>
      have same : (system.without task).issuer = system.issuer := rfl
      simp only [stepFork, same]
      cases system.issuer.sessionGate.pass? <;> rfl
  | concluding =>
      let concluded : System := { system with issuer := system.issuer.endSession.2 }
      have released := @release_token_without concluded task other
      have same : (system.without task).issuer = system.issuer := rfl
      simp only [stepFork, same] at ungranted ⊢
      cases ended : system.issuer.endSession.1 with
      | error failure =>
          simp only [ended] at ungranted
          exact congrArg (fun moved : System => some (moved.setTask other
            (.fork session (.ended (.error (system.catalogue.classify failure))))))
            (released fun granted => ungranted _ rfl granted)
      | ok value =>
          simp only [ended] at ungranted
          exact congrArg (fun moved : System => some (moved.setTask other (.fork session .started)))
            (released fun granted => ungranted _ rfl granted)
  | started =>
      have submitted := submit_without system task (.afterSession system.store.features) false
      exact congrArg (fun moved : System => some (moved.setTask other
        (.fork session (.awaiting system.submitted)))) submitted
  | awaiting request =>
      have same : (system.without task).answer? request = system.answer? request := rfl
      simp only [stepFork, same]
      cases system.answer? request <;> rfl
  | _ => rfl

end

theorem step_start_without (system : System) (task : TaskId) (stage : StartStage) :
    (system.without task).stepStart other stage =
      (system.stepStart other stage).map (·.without task) := by
  have same : (system.without task).control = system.control := rfl
  cases stage with
  | asking => rfl
  | waiting =>
      simp only [stepStart, same]
      split <;> rfl
  | «opening» =>
      simp only [stepStart, start_up_without]
      rfl
  | ended state => rfl

theorem step_stop_without (system : System) (task : TaskId) (stage : StopStage) :
    (system.without task).stepStop other stage =
      (system.stepStop other stage).map (·.without task) := by
  have same : (system.without task).control = system.control := rfl
  have armed : (system.without task).armed = system.armed := rfl
  cases stage with
  | asking => rfl
  | waiting =>
      simp only [stepStop, same]
      split <;> rfl
  | disarming =>
      have opened : (system.disarmArmed.without task).openLane = system.disarmArmed.openLane := rfl
      simp only [stepStop, disarm_armed_without, armed, opened]
      cases system.armed with
      | none => rfl
      | some schedule => cases system.disarmArmed.openLane <;> rfl
  | draining lane =>
      have drained : (system.without task).isDrained lane = system.isDrained lane := rfl
      simp only [stepStop, drained]
      split <;> rfl
  | ended state => rfl

theorem step_close_without (system : System) (task : TaskId) (stage : CloseStage) :
    (system.without task).stepClose other stage =
      (system.stepClose other stage).map (·.without task) := by
  cases stage with
  | shutting =>
      have same : (system.without task).openLane = system.openLane := rfl
      simp only [stepClose, same]
      cases system.openLane <;> rfl
  | draining lane =>
      have drained : (system.without task).isDrained lane = system.isDrained lane := rfl
      simp only [stepClose, drained]
      split <;> rfl
  | ended => rfl

theorem step_ticker_without (system : System) (task : TaskId) (schedule : ScheduleId)
    (alarm : Alarm) :
    (system.without task).stepTicker other schedule alarm =
      (system.stepTicker other schedule alarm).map (·.without task) := by
  have schedules : (system.without task).schedules = system.schedules := rfl
  have clock : (system.without task).clock = system.clock := rfl
  unfold stepTicker
  simp only [schedules, clock, check_without]
  cases system.schedules[schedule]? with
  | none => rfl
  | some held =>
      obtain ⟨period, isLive⟩ := held
      cases isLive with
      | false => rfl
      | true =>
          simp only
          split <;> first | rfl | (split <;> rfl)

/-- The tasks take the same steps without one that stands in line. -/
theorem step_without (apart : system.role other = .idle → other ≠ task)
    (ungranted : ∀ next, system.step other = some next → next.token.place ≠ .granted task) :
    (system.without task).step other = (system.step other).map (·.without task) := by
  have same : (system.without task).tasks = system.tasks := rfl
  unfold step at ungranted ⊢
  rw [same]
  cases found : system.tasks[other]? with
  | none => rfl
  | some kind =>
      simp only [found] at ungranted
      cases kind with
      | worker lane => exact step_worker_without apart found ungranted
      | direct operation isCancelled =>
          have role : system.role other = operation.stage.role := role_found found
          have elsewhere (arriving : operation.stage = .arriving) : other ≠ task :=
            apart (by rw [role, arriving]; rfl)
          have stays (result : System × Operation)
              (taken : system.stepOperation other isCancelled operation = some result) :
              result.1.token.place ≠ .granted task := by
            intro granted
            simp only [taken] at ungranted
            exact ungranted _ rfl granted
          simp only [step_operation_without elsewhere stays]
          cases system.stepOperation other isCancelled operation <;> rfl
      | holder stage => exact step_holder_without apart found ungranted
      | fork session stage => exact step_fork_without apart found ungranted
      | start stage => exact step_start_without system task stage
      | stop stage => exact step_stop_without system task stage
      | close stage => exact step_close_without system task stage
      | ticker schedule alarm =>
          cases alarm with
          | none => rfl
          | some alarm => exact step_ticker_without system task schedule alarm

/-- Whatever happens, it happens alike without a task that stands in line, unless that
task is granted the token. -/
theorem apply_without (stands : system.role task = .standing) (event : Event)
    (ungranted : (system.apply event).token.place ≠ .granted task) :
    (system.without task).apply event = (system.apply event).without task := by
  have tasks : (system.without task).tasks = system.tasks := rfl
  cases event with
  | step other =>
      have apart (idle : system.role other = .idle) : other ≠ task := by
        rintro rfl
        rw [stands] at idle
        cases idle
      have stays (next : System) (stepped : system.step other = some next) :
          next.token.place ≠ .granted task := by
        simpa [apply, stepped] using ungranted
      simp only [apply, step_without apart stays]
      cases system.step other <;> rfl
  | submit request listens => exact submit_without system task request listens
  | openQueue => exact open_queue_without system task
  | cancelDirect other =>
      simp only [apply, cancelDirect, tasks]
      split <;> rfl
  | tryHold =>
      have different : system.tasks.length ≠ task := by
        rintro rfl
        simp [role] at stands
      have free : (system.without task).token.isFree = system.token.isFree := rfl
      have asked := @Token.ask_without system.token _ _ different
      simp only [apply, tryHold, tasks, free]
      split
      · simp only [without, asked]
        rfl
      · rfl
  | release other =>
      simp only [apply, releaseHeld, tasks] at ungranted ⊢
      split
      · rename_i holds
        rw [holds] at ungranted
        exact congrArg (fun moved : System => moved.setTask other (.holder .released))
          (release_token_without ungranted)
      · rfl
  | arm =>
      simp only [apply, disarm_armed_without, arm_without]
  | disarm => exact disarm_armed_without system task
  | cancelSchedule =>
      have armed : (system.without task).armed = system.armed := rfl
      simp only [apply, cancelArmed, armed]
      cases system.armed <;> rfl
  | fire =>
      have live : (system.without task).liveSchedules = system.liveSchedules := rfl
      simp only [apply, fire, live]
      generalize List.range system.liveSchedules = ticks
      clear live tasks ungranted stands
      induction ticks generalizing system with
      | nil => rfl
      | cons tick ticks induction =>
          simp only [List.foldl_cons, check_without]
          exact induction
  | storeCertificate certificate features =>
      simp only [apply, store_certificate_without]
  | _ => rfl

/-- A task that stands in line and is not granted the token makes no difference. -/
theorem run_without (events : List Event)
    (waits : ∀ part rest, events = part ++ rest → (system.run part).role task = .standing ∧
      (system.run part).token.place ≠ .granted task) :
    (system.without task).run events = (system.run events).without task := by
  induction events using List.reverseRecOn with
  | nil => rfl
  | append_singleton events event induction =>
      have earlier := induction fun part rest split =>
        waits part (rest ++ [event]) (by rw [split, List.append_assoc])
      have stands := (waits events [event] rfl).1
      have ungranted := (waits (events ++ [event]) [] (List.append_nil _).symm).2
      rw [run_concat] at ungranted
      rw [run_concat, run_concat, earlier]
      exact apply_without stands event ungranted

end System

end CertRenewal
