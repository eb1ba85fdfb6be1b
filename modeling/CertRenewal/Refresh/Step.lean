import CertRenewal.Freshness
import CertRenewal.Refresh.System

/-!
The single steps of the program. A step is what a task does without looking up:
it never goes on behind a point at which the task may have to wait. Between any
two steps every other task may have taken some. A task that has to wait for
something has no step.
-/

namespace CertRenewal.System

/-- Asks for the token with a time limit. Gives back the alarm of the limit when
the caller has to stand in line. -/
def askToken (system : System) (task : TaskId) (timeout : Nat) : Option Alarm × System :=
  if system.token.isFree then (none, { system with token := system.token.ask task })
  else
    let (alarm, counted) := system.setAlarm timeout
    (some alarm, { counted with token := counted.token.ask task })

def releaseToken (system : System) (task : TaskId) : System :=
  { system with token := system.token.release task }

def leaveLine (system : System) (task : TaskId) : System :=
  { system with token := system.token.leave task }

def acceptToken (system : System) (task : TaskId) : System :=
  { system with token := system.token.accept task }

/-- What standing in line comes to, once it comes to something. -/
inductive LineResult
  | admitted
  | timedOut
deriving DecidableEq, Repr

/-- One look at the line by a task that stands in it. A token that was granted
counts even if the time has run out as well. -/
def lookInLine (system : System) (task : TaskId) (alarm : Alarm) :
    Option (LineResult × System) :=
  if system.token.place = .granted task then some (.admitted, system.acceptToken task)
  else if alarm.due ≤ system.clock then some (.timedOut, system.leaveLine task)
  else none

/-- Decides whether the issuer has to be called, and begins the call. -/
def decideOperation (system : System) (task : TaskId) (operation : Operation) :
    System × Operation :=
  let request := operation.request
  let verdict := Freshness.assess system.store.certificate system.store.features
    request.features system.now (Span.ofMillis system.intervals.refreshEarlierBy)
  if request.forced || verdict.needsRefresh then
    let (keys, store) := system.store.keys
    match keys with
    | none =>
      ({ system with store }.releaseToken task,
        operation.finish (.error .needNewKeys))
    | some keys =>
      ({ system with
          store
          issuer := system.issuer.beginRefresh keys.publicKey request.features },
        { operation with stage := .atGate })
  else (system.releaseToken task, operation.finish (.ok ()))

/-- What is said when a certificate could not be stored. -/
def unstored (reason : String) : Failure :=
  .unclassified ("failed to store certificate: " ++ reason)

/-- Stores a certificate, unless that is refused at present. -/
def storeCertificate (system : System) (certificate : Certificate)
    (features : Option Features) : Except String Unit × System :=
  match system.storeRefusal with
  | some reason => (.error reason, system)
  | none =>
    let (result, store) := system.store.store certificate features
    (result.mapError FileFault.message, { system with store })

def concludeOperation (system : System) (task : TaskId) (operation : Operation) :
    System × Operation :=
  let (answer, issuer) := system.issuer.endRefresh system.now
  let answered := { system with issuer }
  match answer with
  | .error failure =>
    (answered.releaseToken task, operation.finish (.error (system.catalogue.classify failure)))
  | .ok certificate =>
    match answered.storeCertificate certificate operation.request.features with
    | (.ok (), stored) => (stored.releaseToken task, operation.finish (.ok ()))
    | (.error reason, stored) =>
      (stored.releaseToken task, operation.finish (.error (unstored reason)))

/-- One step of an operation that `task` runs. It does not wait between its last
look at whether it was cancelled and the beginning of its call. -/
def stepOperation (system : System) (task : TaskId) (isCancelled : Bool)
    (operation : Operation) : Option (System × Operation) :=
  let cancelled := operation.finish (.error .cancelled)
  match operation.stage with
  | .created =>
    if isCancelled then some (system, cancelled)
    else some (system, { operation.publish .awaitingLock with stage := .arriving })
  | .arriving =>
    if isCancelled then some (system, cancelled)
    else
      match system.askToken task system.intervals.waitTimeout with
      | (none, asked) => some (asked, { operation with stage := .admitted })
      | (some alarm, asked) => some (asked, { operation with stage := .waiting alarm })
  | .waiting alarm =>
    if isCancelled then some (system.leaveLine task, cancelled)
    else
      match system.lookInLine task alarm with
      | none => none
      | some (.admitted, looked) => some (looked, { operation with stage := .admitted })
      | some (.timedOut, looked) => some (looked, operation.finish (.error .timedOut))
  | .admitted =>
    if isCancelled then some (system.releaseToken task, cancelled)
    else some (system.decideOperation task (operation.publish .running))
  | .atGate =>
    match system.issuer.refreshGate.pass? with
    | none => none
    | some gate =>
      let passed := { system with issuer := { system.issuer with refreshGate := gate } }
      if system.issuer.delay = 0 then some (passed, { operation with stage := .concluding })
      else
        let (alarm, counted) := passed.setAlarm system.issuer.delay
        some (counted, { operation with stage := .busy alarm })
  | .busy alarm =>
    if alarm.due ≤ system.clock then some (system, { operation with stage := .concluding })
    else none
  | .concluding => some (system.concludeOperation task operation)
  | .ended _ => none

/-- One step of the worker of a lane: it goes on with the current operation and
hands over the outcome once there is one, takes up the next request, or ends when
the lane is shut and nothing is left. -/
def stepWorker (system : System) (task : TaskId) (lane : LaneId) : Option System :=
  match system.lanes[lane]? with
  | none => none
  | some held =>
    match held.current with
    | some (id, operation) =>
      (system.stepOperation task held.isShut operation).map fun (moved, operation) =>
        match operation.stage with
        | .ended outcome => (moved.setLane lane { held with current := none }).answer id outcome
        | _ => moved.setLane lane { held with current := some (id, operation) }
    | none =>
      match held.waiting with
      | queued :: rest =>
        some (system.setLane lane
          { held with waiting := rest, current := some (queued.id, .start queued.request) })
      | [] =>
        if held.isShut && !held.isDrained then
          some (system.setLane lane { held with isDrained := true })
        else none

def stepHolder (system : System) (task : TaskId) : HolderStage → Option System
  | .arriving timeout =>
    match system.askToken task timeout with
    | (none, asked) => some (asked.setTask task (.holder .holding))
    | (some alarm, asked) => some (asked.setTask task (.holder (.waiting alarm)))
  | .waiting alarm =>
    match system.lookInLine task alarm with
    | none => none
    | some (.admitted, looked) => some (looked.setTask task (.holder .holding))
    | some (.timedOut, looked) => some (looked.setTask task (.holder .timedOut))
  | .holding => none
  | .timedOut => none
  | .released => none

/-- One step of the start of a session. The token is given back before the
refresh is asked for, so that the refresh can take it in its turn. -/
def stepFork (system : System) (task : TaskId) (session : Session) (stage : ForkStage) :
    Option System :=
  let move (moved : System) (stage : ForkStage) : Option System :=
    some (moved.setTask task (.fork session stage))
  match stage with
  | .checking =>
    match system.lifecycle with
    | .stopped => move system (.ended (.error .cancelled))
    | .running => move system .arriving
  | .arriving =>
    match system.askToken task system.intervals.waitTimeout with
    | (none, asked) => move asked .admitted
    | (some alarm, asked) => move asked (.waiting alarm)
  | .waiting alarm =>
    match system.lookInLine task alarm with
    | none => none
    | some (.admitted, looked) => move looked .admitted
    | some (.timedOut, looked) => move looked (.ended (.error .timedOut))
  | .admitted => move { system with issuer := system.issuer.beginSession session } .atGate
  | .atGate =>
    match system.issuer.sessionGate.pass? with
    | none => none
    | some gate =>
      move { system with issuer := { system.issuer with sessionGate := gate } } .concluding
  | .concluding =>
    let (answer, issuer) := system.issuer.endSession
    let released := { system with issuer }.releaseToken task
    match answer with
    | .error failure => move released (.ended (.error (system.catalogue.classify failure)))
    | .ok () => move released .started
  | .started =>
    move (system.submit (.afterSession system.store.features) false) (.awaiting system.submitted)
  | .awaiting request =>
    match system.answer? request with
    | none => none
    | some outcome => move system (.ended outcome)
  | .ended _ => none

/-- Opens the queue and arms the regular check, unless that is done already. -/
def startUp (system : System) : System :=
  match system.armed with
  | some _ => system
  | none => { system.openQueue.arm with lifecycle := .running }

def releaseControl (system : System) (task : TaskId) : System :=
  { system with control := system.control.release task }

def stepStart (system : System) (task : TaskId) : StartStage → Option System
  | .asking =>
    let asked := { system with control := system.control.ask task }
    some (asked.setTask task (.start (if system.control.isFree then .opening else .waiting)))
  | .waiting =>
    if system.control.place = .granted task then
      some ({ system with control := system.control.accept task }.setTask task (.start .opening))
    else none
  | .opening =>
    let opened := system.startUp.releaseControl task
    some (opened.setTask task (.start (.ended opened.lifecycle)))
  | .ended _ => none

/-- One step of a call to stop. The control token is kept until the lane is
drained, so a later call to start has to wait for that. -/
def stepStop (system : System) (task : TaskId) : StopStage → Option System
  | .asking =>
    let asked := { system with control := system.control.ask task }
    some (asked.setTask task (.stop (if system.control.isFree then .disarming else .waiting)))
  | .waiting =>
    if system.control.place = .granted task then
      some ({ system with control := system.control.accept task }.setTask task (.stop .disarming))
    else none
  | .disarming =>
    match system.armed with
    | none =>
      some ((system.releaseControl task).setTask task (.stop (.ended system.lifecycle)))
    | some _ =>
      let disarmed := system.disarmArmed
      match disarmed.openLane with
      | some lane => some ((disarmed.shutLane lane).setTask task (.stop (.draining lane)))
      | none =>
        some (({ disarmed with lifecycle := .stopped }.releaseControl task).setTask task
          (.stop (.ended .stopped)))
  | .draining lane =>
    if system.isDrained lane then
      some (({ system with lifecycle := .stopped }.releaseControl task).setTask task
        (.stop (.ended .stopped)))
    else none
  | .ended _ => none

/-- One step of a call to close the queue. Only the call that shuts the lane
waits for its worker. -/
def stepClose (system : System) (task : TaskId) : CloseStage → Option System
  | .shutting =>
    match system.openLane with
    | some lane => some ((system.shutLane lane).setTask task (.close (.draining lane)))
    | none => some (system.setTask task (.close .ended))
  | .draining lane =>
    if system.isDrained lane then some (system.setTask task (.close .ended)) else none
  | .ended => none

def stepTicker (system : System) (task : TaskId) (schedule : ScheduleId) (alarm : Alarm) :
    Option System :=
  match system.schedules[schedule]? with
  | none => none
  | some held =>
    if !held.isLive then some (system.setTask task (.ticker schedule none))
    else if alarm.due ≤ system.clock then
      let due := Schedule.nextDue held.period alarm.due system.clock
      let (next, counted) := system.check.setAlarm (due - system.clock)
      some (counted.setTask task (.ticker schedule (some { next with due })))
    else none

/-- One step of a task, if it can take one. -/
def step (system : System) (task : TaskId) : Option System :=
  match system.tasks[task]? with
  | none => none
  | some (.worker lane) => system.stepWorker task lane
  | some (.direct operation isCancelled) =>
    (system.stepOperation task isCancelled operation).map fun (moved, operation) =>
      moved.setTask task (.direct operation isCancelled)
  | some (.holder stage) => system.stepHolder task stage
  | some (.fork session stage) => system.stepFork task session stage
  | some (.start stage) => system.stepStart task stage
  | some (.stop stage) => system.stepStop task stage
  | some (.close stage) => system.stepClose task stage
  | some (.ticker schedule (some alarm)) => system.stepTicker task schedule alarm
  | some (.ticker _ none) => none

def canStep (system : System) (task : TaskId) : Bool := (system.step task).isSome

/-- The alarm that a task waits for, if any. -/
def alarm? (system : System) (task : TaskId) : Option Alarm :=
  match system.tasks[task]? with
  | some (.worker lane) => do
    let (_, operation) ← (← system.lanes[lane]?).current
    operation.stage.alarm?
  | some (.direct operation _) => operation.stage.alarm?
  | some (.holder (.waiting alarm)) => some alarm
  | some (.fork _ (.waiting alarm)) => some alarm
  | some (.ticker _ alarm) => alarm
  | _ => none

end CertRenewal.System
