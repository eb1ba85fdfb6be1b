import CertRenewal.Failure
import CertRenewal.Refresh.Request

/-!
One attempt to serve a request: where it stands, and the state of it that others
can see.
-/

namespace CertRenewal

/-- A time on the clock at which a task wants to go on. Of several with one due
time the first to be set is the first to go on. -/
structure Alarm where
  due : Nat
  order : Nat
deriving DecidableEq, Repr

def Alarm.precedes (first second : Alarm) : Bool :=
  first.due < second.due || first.due = second.due && first.order < second.order

/-- The state of an operation that others can see. -/
inductive OperationState
  | created
  | awaitingLock
  | running
  | cancelled
  | timedOut
  | finished
deriving DecidableEq, Repr

namespace OperationState

def isTerminal : OperationState → Bool
  | cancelled => true
  | timedOut => true
  | finished => true
  | _ => false

def title : OperationState → String
  | created => "Created"
  | awaitingLock => "AwaitingLock"
  | running => "Running"
  | cancelled => "Cancelled"
  | timedOut => "TimedOut"
  | finished => "Finished"

/-- The last state of an operation with this outcome. -/
def ofOutcome : Outcome → OperationState
  | .error .cancelled => cancelled
  | .error .timedOut => timedOut
  | _ => finished

end OperationState

inductive Stage
  | created
  | arriving
  | waiting (alarm : Alarm)
  /-- Has the token, and is about to look once more whether it was cancelled and
  whether the issuer has to be called. -/
  | admitted
  /-- In a call that has not passed the gate of the issuer. -/
  | atGate
  | busy (alarm : Alarm)
  /-- In a call that is about to be answered. -/
  | concluding
  | ended (outcome : Outcome)
deriving DecidableEq

/-- The alarm that a stage waits for, if any. -/
def Stage.alarm? : Stage → Option Alarm
  | waiting alarm => some alarm
  | busy alarm => some alarm
  | _ => none

structure Operation where
  request : Request
  stage : Stage
  /-- The states that others could see, the latest first. -/
  published : List OperationState
deriving DecidableEq

namespace Operation

def start (request : Request) : Operation := ⟨request, .created, [.created]⟩

def state (operation : Operation) : OperationState := operation.published.headD .created

def publish (operation : Operation) (state : OperationState) : Operation :=
  { operation with published := state :: operation.published }

/-- Comes to an outcome, and lets others see the last state. -/
def finish (operation : Operation) (outcome : Outcome) : Operation :=
  { operation.publish (.ofOutcome outcome) with stage := .ended outcome }

end Operation

end CertRenewal
