import CertRenewal.Refresh.Step

/-!
Everything that can happen to the program: a task takes a step, time passes, the
host calls, the issuer gets permits and answers to give. A run is a list of
events in any order.
-/

namespace CertRenewal

inductive Event
  | step (task : TaskId)
  | elapse (millis : Nat)
  /-- The host submits a request, and listens for the answer or does not. -/
  | submit (request : Request) (listens : Bool)
  /-- The host does not listen any more for the answer to a request. -/
  | forget (request : RequestId)
  | start
  | stop
  /-- A session is to be started, unless the program is stopped. -/
  | newSession (session : Session)
  /-- A session is to be started in any case. -/
  | fork (session : Session)
  | openQueue
  | closeQueue
  | direct (request : Request) (isCancelled : Bool)
  | cancelDirect (task : TaskId)
  /-- The host takes the token for itself, within a time limit. -/
  | hold (timeout : Nat)
  /-- The host takes the token for itself if it is free. -/
  | tryHold
  | release (task : TaskId)
  | arm
  | disarm
  /-- The host ends its schedule and keeps it in mind. -/
  | cancelSchedule
  | fire
  | permitRefreshes (count : Nat)
  | permitSessions (count : Nat)
  | scriptRefresh (answer : Except RemoteFailure Certificate)
  | scriptSession (answer : Except RemoteFailure Unit)
  | refuseStoring (reason : Option String)
  | storeCertificate (certificate : Certificate) (features : Option Features)
  | storeKeys (keys : KeyPair)
  | readKeys
  | deleteKeys
  | deleteCertificate

namespace System

def releaseHeld (system : System) (task : TaskId) : System :=
  match system.tasks[task]? with
  | some (.holder .holding) => (system.releaseToken task).setTask task (.holder .released)
  | _ => system

def cancelDirect (system : System) (task : TaskId) : System :=
  match system.tasks[task]? with
  | some (.direct operation _) => system.setTask task (.direct operation true)
  | _ => system

def tryHold (system : System) : System :=
  if system.token.isFree then
    { system with token := system.token.ask system.tasks.length }.spawn (.holder .holding)
  else system

/-- Ends the schedule that is armed, and leaves it as the one that is. -/
def cancelArmed (system : System) : System :=
  match system.armed with
  | some schedule => system.disarm schedule
  | none => system

def fire (system : System) : System :=
  (List.range system.liveSchedules).foldl (fun state _ => state.check) system

/-- What an event does. A task that cannot take a step does nothing. -/
def apply (system : System) : Event → System
  | .step task => (system.step task).getD system
  | .elapse millis => { system with clock := system.clock + millis }
  | .submit request listens => system.submit request listens
  | .forget request =>
    { system with listeners := system.listeners.filter (· ≠ request) }
  | .start => system.spawn (.start .asking)
  | .stop => system.spawn (.stop .asking)
  | .newSession session => system.spawn (.fork session .checking)
  | .fork session => system.spawn (.fork session .arriving)
  | .openQueue => system.openQueue
  | .closeQueue => system.spawn (.close .shutting)
  | .direct request isCancelled => system.spawn (.direct (.start request) isCancelled)
  | .cancelDirect task => system.cancelDirect task
  | .hold timeout => system.spawn (.holder (.arriving timeout))
  | .tryHold => system.tryHold
  | .release task => system.releaseHeld task
  | .arm => system.disarmArmed.arm
  | .disarm => system.disarmArmed
  | .cancelSchedule => system.cancelArmed
  | .fire => system.fire
  | .permitRefreshes count =>
    { system with issuer := { system.issuer with
        refreshGate := system.issuer.refreshGate.addPermits count } }
  | .permitSessions count =>
    { system with issuer := { system.issuer with
        sessionGate := system.issuer.sessionGate.addPermits count } }
  | .scriptRefresh answer =>
    { system with issuer := { system.issuer with
        refreshScript := system.issuer.refreshScript ++ [answer] } }
  | .scriptSession answer =>
    { system with issuer := { system.issuer with
        sessionScript := system.issuer.sessionScript ++ [answer] } }
  | .refuseStoring reason => { system with storeRefusal := reason }
  | .storeCertificate certificate features => (system.storeCertificate certificate features).2
  | .storeKeys keys => { system with store := (system.store.storeKeys keys).2 }
  | .readKeys => { system with store := system.store.keys.2 }
  | .deleteKeys => { system with store := system.store.deleteKeys }
  | .deleteCertificate => { system with store := system.store.deleteCertificate }

def run (system : System) (events : List Event) : System := events.foldl apply system

end System

end CertRenewal
