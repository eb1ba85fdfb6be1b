import CertRenewal.Refresh.Issuer
import CertRenewal.Refresh.Operation
import CertRenewal.Refresh.Schedule
import CertRenewal.Refresh.Token
import CertRenewal.Store

/-!
The state of the whole program while it runs: the store, the issuer, the token
that lets one caller at a time talk to the issuer, the lanes in which requests
wait for their turn, the schedules of regular checks, and every task that was
begun.
-/

namespace CertRenewal

abbrev RequestId := Nat

abbrev LaneId := Nat

abbrev ScheduleId := Nat

/-- A request that was submitted, under its number. -/
structure Queued where
  id : RequestId
  request : Request
deriving DecidableEq, Repr

/-- A line of requests, served one at a time by a worker of its own. -/
structure Lane where
  waiting : List Queued
  current : Option (RequestId × Operation)
  /-- Whether it takes no more requests and cancels those it has. -/
  isShut : Bool
  isDrained : Bool

def Lane.fresh : Lane := ⟨[], none, false, false⟩

inductive Lifecycle
  | stopped
  | running
deriving DecidableEq, Repr

def Lifecycle.name : Lifecycle → String
  | stopped => "stopped"
  | running => "running"

/-- Where a caller stands that keeps the token for itself. -/
inductive HolderStage
  | arriving (timeout : Nat)
  | waiting (alarm : Alarm)
  | holding
  | timedOut
  | released
deriving DecidableEq, Repr

inductive ForkStage
  | checking
  | arriving
  | waiting (alarm : Alarm)
  /-- Has the token and is about to call the issuer. -/
  | admitted
  | atGate
  | concluding
  /-- Has given the token back and is about to ask for a refresh. -/
  | started
  | awaiting (request : RequestId)
  | ended (outcome : Outcome)
deriving DecidableEq

inductive StartStage
  | asking
  | waiting
  | opening
  | ended (state : Lifecycle)
deriving DecidableEq, Repr

inductive StopStage
  | asking
  | waiting
  | disarming
  | draining (lane : LaneId)
  | ended (state : Lifecycle)
deriving DecidableEq, Repr

inductive CloseStage
  | shutting
  | draining (lane : LaneId)
  | ended
deriving DecidableEq, Repr

inductive Task
  | worker (lane : LaneId)
  | direct (operation : Operation) (isCancelled : Bool)
  | holder (stage : HolderStage)
  | fork (session : Session) (stage : ForkStage)
  | start (stage : StartStage)
  | stop (stage : StopStage)
  | close (stage : CloseStage)
  /-- Ticks on a schedule; without an alarm it has ended. -/
  | ticker (schedule : ScheduleId) (alarm : Option Alarm)

inductive TickSource
  | clock
  | host
deriving DecidableEq, Repr

structure System where
  intervals : Intervals
  catalogue : Catalogue
  tickSource : TickSource
  /-- The time of day when the clock stood at zero. -/
  origin : Instant
  clock : Nat
  alarmCount : Nat
  store : Store
  /-- Why storing a certificate fails at present, if it does. -/
  storeRefusal : Option String
  issuer : Issuer
  token : Token
  /-- The token that calls to start and stop take in turn. -/
  control : Token
  submitted : Nat
  /-- Answers that were given, the latest first. -/
  answers : List (RequestId × Outcome)
  /-- The requests whose answers a host still listens for. -/
  listeners : List RequestId
  /-- Answers that a host listened for when they were given, the latest first. -/
  heard : List (RequestId × Outcome)
  lanes : List Lane
  openLane : Option LaneId
  schedules : List Schedule
  armed : Option ScheduleId
  lifecycle : Lifecycle
  tasks : List Task

structure Outset where
  intervals : Intervals
  catalogue : Catalogue
  tickSource : TickSource
  origin : Instant
  store : Store
  storeRefusal : Option String
  refreshGate : Gate
  sessionGate : Gate
  delay : Nat
  refreshScript : List (Except RemoteFailure Certificate)
  sessionScript : List (Except RemoteFailure Unit)

namespace Outset

def issuer (outset : Outset) : Issuer where
  refreshGate := outset.refreshGate
  sessionGate := outset.sessionGate
  delay := outset.delay
  refreshScript := outset.refreshScript
  sessionScript := outset.sessionScript
  calls := []
  refreshCalls := 0
  sessionCalls := 0
  inFlight := 0
  maxInFlight := 0
  lastFeatures := none

/-- The state in which nothing has happened yet. -/
def system (outset : Outset) : System where
  intervals := outset.intervals
  catalogue := outset.catalogue
  tickSource := outset.tickSource
  origin := outset.origin
  clock := 0
  alarmCount := 0
  store := outset.store
  storeRefusal := outset.storeRefusal
  issuer := outset.issuer
  token := .initial
  control := .initial
  submitted := 0
  answers := []
  listeners := []
  heard := []
  lanes := []
  openLane := none
  schedules := []
  armed := none
  lifecycle := .stopped
  tasks := []

end Outset

namespace System

def now (system : System) : Instant := system.origin.after (Span.ofMillis system.clock)

/-- An alarm that goes off after so many milliseconds, and the system that
counts it. -/
def setAlarm (system : System) (delay : Nat) : Alarm × System :=
  (⟨system.clock + delay, system.alarmCount⟩, { system with alarmCount := system.alarmCount + 1 })

/-- Gives the answer to a request, whether or not a host still listens. -/
def answer (system : System) (request : RequestId) (outcome : Outcome) : System :=
  { system with
    answers := (request, outcome) :: system.answers
    heard := if request ∈ system.listeners then (request, outcome) :: system.heard
      else system.heard }

/-- The answer to a request, once there is one. -/
def answer? (system : System) (request : RequestId) : Option Outcome :=
  system.answers.lookup request

/-- The answer to a request, once a host has heard it. -/
def heard? (system : System) (request : RequestId) : Option Outcome :=
  system.heard.lookup request

def setTask (system : System) (task : TaskId) (value : Task) : System :=
  { system with tasks := system.tasks.set task value }

def spawn (system : System) (task : Task) : System :=
  { system with tasks := system.tasks ++ [task] }

def setLane (system : System) (lane : LaneId) (value : Lane) : System :=
  { system with lanes := system.lanes.set lane value }

def modifyLane (system : System) (lane : LaneId) (change : Lane → Lane) : System :=
  { system with lanes := system.lanes.modify lane change }

/-- Submits a request under the next number. It waits in the open lane; when
none is open it is answered at once. A host may listen for the answer. -/
def submit (system : System) (request : Request) (listens : Bool) : System :=
  let id := system.submitted
  let counted := { system with
    submitted := id + 1
    listeners := if listens then id :: system.listeners else system.listeners }
  match system.openLane with
  | some lane => counted.modifyLane lane fun held =>
      { held with waiting := held.waiting ++ [⟨id, request⟩] }
  | none => counted.answer id (.error .cancelled)

/-- Opens a lane with a worker of its own, unless one is open. -/
def openQueue (system : System) : System :=
  match system.openLane with
  | some _ => system
  | none =>
    { system with
      lanes := system.lanes ++ [Lane.fresh]
      openLane := some system.lanes.length
      tasks := system.tasks ++ [.worker system.lanes.length] }

def shutLane (system : System) (lane : LaneId) : System :=
  { system.modifyLane lane (fun held => { held with isShut := true }) with openLane := none }

def isDrained (system : System) (lane : LaneId) : Bool :=
  match system.lanes[lane]? with
  | some held => held.isDrained
  | none => true

def disarm (system : System) (schedule : ScheduleId) : System :=
  { system with
    schedules := system.schedules.modify schedule fun held => { held with isLive := false } }

/-- Ends the schedule that is armed, if there is one. -/
def disarmArmed (system : System) : System :=
  match system.armed with
  | some schedule => { system.disarm schedule with armed := none }
  | none => system

/-- Begins a schedule of regular checks. One that the clock drives ticks at once
for the first time. -/
def arm (system : System) : System :=
  let period := Schedule.keptPeriod system.intervals.checkInterval
  let id := system.schedules.length
  let armed := { system with
    schedules := system.schedules ++ [⟨period, true⟩]
    armed := some id }
  match system.tickSource with
  | .host => armed
  | .clock =>
    let (alarm, counted) := armed.setAlarm 0
    counted.spawn (.ticker id (some alarm))

def check (system : System) : System :=
  system.submit (.background system.store.features) false

def liveSchedules (system : System) : Nat := (system.schedules.filter (·.isLive)).length

end System

end CertRenewal
