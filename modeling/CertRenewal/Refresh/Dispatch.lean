import CertRenewal.Refresh.Event

/-!
The order in which tasks take their steps when nothing else decides it. Tasks
stand in a line from the moment in which they can move; the first one goes on
until it has to wait, and those that it lets move join the line behind the
others. Time passes from alarm to alarm.
-/

namespace CertRenewal

/-- A system and the line of tasks that can move. -/
structure Dispatch where
  system : System
  ready : List TaskId

namespace Dispatch

/-- Lets every task join the line that can move and is not in it. `moving` is
the one whose turn it is. -/
def gather (dispatch : Dispatch) (moving : Option TaskId) : Dispatch :=
  let fresh := (List.range dispatch.system.tasks.length).filter fun task =>
    some task ≠ moving && !dispatch.ready.contains task && dispatch.system.canStep task
  { dispatch with ready := dispatch.ready ++ fresh }

/-- Lets tasks take steps until none can, for at most so many steps and turns.
`moving` is the task whose turn it is. -/
def proceed : Nat → Option TaskId → Dispatch → Dispatch
  | 0, _, dispatch => dispatch
  | fuel + 1, some task, dispatch =>
    match dispatch.system.step task with
    | none => proceed fuel none dispatch
    | some moved =>
      proceed fuel (some task) (gather { dispatch with system := moved } (some task))
  | fuel + 1, none, dispatch =>
    match dispatch.ready with
    | [] => dispatch
    | task :: ready => proceed fuel (some task) { dispatch with ready }

def waitingRequests (system : System) : Nat :=
  system.lanes.foldl (fun count lane => count + lane.waiting.length) 0

/-- A bound on the steps and turns until every task has to wait: a task takes at
most a score of them by itself and for each request that it serves, and it adds
few tasks and requests of its own. -/
def patience (system : System) : Nat :=
  1000 + 200 * (system.tasks.length + waitingRequests system)

/-- Lets everything happen that can happen without time passing. -/
def settle (system : System) : System :=
  (proceed (patience system) none (gather ⟨system, []⟩ none)).system

/-- The tasks whose alarms have gone off, in the order of the alarms. -/
def expired (system : System) : List TaskId :=
  let alarms := (List.range system.tasks.length).filterMap fun task =>
    match system.alarm? task with
    | some alarm => if alarm.due ≤ system.clock then some (alarm, task) else none
    | none => none
  (alarms.mergeSort fun first second => !second.1.precedes first.1).map (·.2)

/-- Moves the clock forward at once; what is due then goes on. -/
def jump (system : System) (millis : Nat) : System :=
  let later := { system with clock := system.clock + millis }
  let ready := (expired later).filter later.canStep
  (proceed (patience later) none (gather ⟨later, ready⟩ none)).system

/-- The next time before or at `limit` at which an alarm goes off. -/
def nextAlarm? (system : System) (limit : Nat) : Option Nat :=
  ((List.range system.tasks.length).filterMap fun task => do
    let alarm ← system.alarm? task
    if system.clock < alarm.due ∧ alarm.due ≤ limit then some alarm.due else none).min?

/-- Moves the clock from alarm to alarm up to `target`, for at most so many
alarms. -/
def advanceTo : Nat → Nat → System → System
  | 0, target, system => { system with clock := target }
  | fuel + 1, target, system =>
    match nextAlarm? system target with
    | some due => advanceTo fuel target (jump system (due - system.clock))
    | none => { system with clock := target }

/-- Lets time pass. No two alarms that are passed one by one are less than a
millisecond apart, so there are no more of them than milliseconds. -/
def advance (system : System) (millis : Nat) : System :=
  advanceTo (millis + 1) (system.clock + millis) system

def lookPeriod : Nat := 5

/-- Sleeps between two looks. Who sleeps wakes up before any task whose alarm
goes off at the same time. -/
def sleepUntilLook (system : System) : System :=
  let slept := advance (jump system 0) (lookPeriod - 1)
  { slept with clock := slept.clock + 1 }

/-- Looks at a condition until it holds, and so many times at most before the
last look. Says whether it held. -/
def awaitFrom (condition : System → Bool) : Nat → System → Bool × System
  | 0, system => (condition system, jump system 0)
  | looks + 1, system =>
    if condition system then (true, jump system 0)
    else awaitFrom condition looks (sleepUntilLook system)

/-- Waits for a condition for as long as fewer than `millis` have passed. -/
def await (condition : System → Bool) (millis : Nat) (system : System) : Bool × System :=
  awaitFrom condition ((millis + lookPeriod - 1) / lookPeriod) system

end Dispatch

end CertRenewal
