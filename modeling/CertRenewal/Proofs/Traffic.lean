import CertRenewal.Proofs.Crew
import CertRenewal.Proofs.Lanes
import Mathlib.Logic.Relation

/-!
The part of the program that requests pass through: the lanes and the answers. An
event moves it in one of few ways, whatever else it does.
-/

namespace CertRenewal

/-- What requests pass through. -/
structure Traffic where
  submitted : Nat
  answers : List (RequestId × Outcome)
  listeners : List RequestId
  heard : List (RequestId × Outcome)
  lanes : List Lane
  openLane : Option LaneId

namespace Traffic

def answer (traffic : Traffic) (request : RequestId) (outcome : Outcome) : Traffic :=
  { traffic with
    answers := (request, outcome) :: traffic.answers
    heard := if request ∈ traffic.listeners then (request, outcome) :: traffic.heard
      else traffic.heard }

/-- One more request of those that may be asked, which waits in the open lane or is
answered at once. -/
inductive Submission (asks : Request → Prop) (traffic : Traffic) : Traffic → Prop
  | accept (request : Request) (lane : LaneId) (isOpen : traffic.openLane = some lane)
      (asked : asks request) :
      Submission asks traffic { traffic with
        submitted := traffic.submitted + 1
        lanes := traffic.lanes.modify lane fun held =>
          { held with waiting := held.waiting ++ [⟨traffic.submitted, request⟩] } }
  | refuse (isClosed : traffic.openLane = none) :
      Submission asks traffic ({ traffic with submitted := traffic.submitted + 1 }.answer
        traffic.submitted (.error .cancelled))

/-- What an event does, where `mover` is the lane whose worker it moves. -/
inductive Step (mover : Option LaneId) (asks : Request → Prop) (traffic : Traffic) :
    Traffic → Prop
  | rest (listeners : List RequestId) :
      Step mover asks traffic { traffic with listeners := listeners }
  | submit (listeners : List RequestId) (next : Traffic) (host : mover = none)
      (submissions : Relation.ReflTransGen (Submission asks)
        { traffic with listeners := listeners } next) : Step mover asks traffic next
  | opened (isClosed : traffic.openLane = none) :
      Step mover asks traffic { traffic with
        lanes := traffic.lanes ++ [Lane.fresh], openLane := some traffic.lanes.length }
  | shut (lane : LaneId) (isOpen : traffic.openLane = some lane) :
      Step mover asks traffic { traffic with
        lanes := traffic.lanes.modify lane fun held => { held with isShut := true }
        openLane := none }
  | carry (lane : LaneId) (held : Lane) (id : RequestId) (operation next : Operation)
      (worker : mover = some lane) (found : traffic.lanes[lane]? = some held)
      (current : held.current = some (id, operation))
      (going : ∀ outcome, next.stage ≠ .ended outcome) (same : next.request = operation.request) :
      Step mover asks traffic { traffic with
        lanes := traffic.lanes.set lane { held with current := some (id, next) } }
  | takeUp (lane : LaneId) (held : Lane) (queued : Queued) (rest : List Queued)
      (worker : mover = some lane) (found : traffic.lanes[lane]? = some held)
      (idle : held.current = none) (waiting : held.waiting = queued :: rest) :
      Step mover asks traffic { traffic with
        lanes := traffic.lanes.set lane
          { held with waiting := rest, current := some (queued.id, .start queued.request) } }
  | deliver (lane : LaneId) (held : Lane) (id : RequestId) (operation : Operation)
      (outcome : Outcome) (worker : mover = some lane) (found : traffic.lanes[lane]? = some held)
      (current : held.current = some (id, operation)) :
      Step mover asks traffic ({ traffic with
        lanes := traffic.lanes.set lane { held with current := none } }.answer id outcome)
  | drain (lane : LaneId) (held : Lane) (worker : mover = some lane)
      (found : traffic.lanes[lane]? = some held) (idle : held.current = none)
      (empty : held.waiting = []) (shut : held.isShut = true) :
      Step mover asks traffic { traffic with
        lanes := traffic.lanes.set lane { held with isDrained := true } }

end Traffic

namespace System

def traffic (system : System) : Traffic where
  submitted := system.submitted
  answers := system.answers
  listeners := system.listeners
  heard := system.heard
  lanes := system.lanes
  openLane := system.openLane

def mover? (system : System) : Event → Option LaneId
  | .step task => system.tasks[task]?.bind Task.lane?
  | _ => none

/-- The requests that an event may submit. The host asks for what it likes, and the
program for the features that are stored. -/
def asks (system : System) : Event → Request → Prop
  | .submit wanted _, request => request = wanted
  | _, request => request.features = system.store.features

variable {system next : System} {task : TaskId}

theorem mover_of_task {kind : Task} (found : system.tasks[task]? = some kind) :
    system.mover? (.step task) = kind.lane? := by
  simp [mover?, found]

/-- A host listens before the request is submitted. -/
theorem submission {asks : Request → Prop} (system : System) (request : Request) (listens : Bool)
    (wanted : asks request) :
    Traffic.Submission asks { system.traffic with
      listeners := if listens then system.submitted :: system.listeners else system.listeners }
      (system.submit request listens).traffic := by
  let asked : Traffic := { system.traffic with
    listeners := if listens then system.submitted :: system.listeners else system.listeners }
  cases isOpen : system.openLane with
  | none =>
      have refused : Traffic.Submission asks asked ({ asked with
          submitted := asked.submitted + 1 }.answer asked.submitted (.error .cancelled)) :=
        .refuse isOpen
      have same : (system.submit request listens).traffic =
          { asked with submitted := asked.submitted + 1 }.answer asked.submitted
            (.error .cancelled) := by
        simp [submit, isOpen, traffic, answer, Traffic.answer, asked]
      rw [same]
      exact refused
  | some lane =>
      have accepted : Traffic.Submission asks asked _ := .accept request lane isOpen wanted
      rw [submit_open isOpen]
      exact accepted

variable {mover : Option LaneId} {asks : Request → Prop}

theorem submit_store (system : System) (request : Request) (listens : Bool) :
    (system.submit request listens).store = system.store ∧
      (system.submit request listens).issuer = system.issuer := by
  cases isOpen : system.openLane with
  | none =>
      rw [submit_closed isOpen]
      exact ⟨rfl, rfl⟩
  | some lane =>
      rw [submit_open isOpen]
      exact ⟨rfl, rfl⟩

theorem fire_store (system : System) :
    system.fire.store = system.store ∧ system.fire.issuer = system.issuer := by
  let Same (next : System) : Prop :=
    next.store = system.store ∧ next.issuer = system.issuer
  have kept (next : System) (same : Same next) : Same next.check := by
    have checked := submit_store next (.background next.store.features) false
    exact ⟨checked.1.trans same.1, checked.2.trans same.2⟩
  have same : Same system := ⟨rfl, rfl⟩
  exact fire_invariant kept same

theorem submit_count (system : System) (request : Request) (listens : Bool) :
    (system.submit request listens).submitted = system.submitted + 1 := by
  cases isOpen : system.openLane with
  | none => rw [submit_closed isOpen]
  | some lane => rw [submit_open isOpen]

theorem submit_traffic (host : mover = none) (system : System) (request : Request)
    (listens : Bool) (wanted : asks request) :
    Traffic.Step mover asks system.traffic (system.submit request listens).traffic :=
  .submit _ _ host (.single (submission system request listens wanted))

theorem open_queue_traffic (system : System) :
    Traffic.Step mover asks system.traffic system.openQueue.traffic := by
  cases isOpen : system.openLane with
  | some lane =>
      rw [open_queue_open isOpen]
      exact .rest _
  | none =>
      rw [open_queue_closed isOpen]
      exact .opened isOpen

theorem start_up_traffic (system : System) :
    Traffic.Step mover asks system.traffic system.startUp.traffic := by
  unfold startUp
  split
  · exact .rest _
  · have same : system.openQueue.arm.traffic = system.openQueue.traffic := by
      obtain ⟨added, _, frame⟩ := arm_frame system.openQueue
      rw [frame]
      rfl
    have opened := @open_queue_traffic mover asks system
    rw [← same] at opened
    exact opened

theorem WorkerStep.traffic {lane : LaneId} (found : system.tasks[task]? = some (.worker lane))
    (step : WorkerStep system task lane next) :
    Traffic.Step (system.mover? (.step task)) asks system.traffic next.traffic := by
  have mover := mover_of_task found
  cases step with
  | carry held id operation after moved found current moves going =>
      rw [moves.frame]
      exact .carry lane held id operation after mover found current going moves.request
  | deliver held id operation after moved outcome found current moves ended =>
      rw [moves.frame]
      exact .deliver lane held id operation outcome mover found current
  | takeUp held queued rest found idle waiting =>
      exact .takeUp lane held queued rest mover found idle waiting
  | drain held found idle empty shut undrained =>
      exact .drain lane held mover found idle empty shut

theorem TaskStep.traffic (step : TaskStep system task next) :
    Traffic.Step (system.mover? (.step task)) (system.asks (.step task)) system.traffic
      next.traffic := by
  cases step with
  | worker lane next found step => exact step.traffic found
  | direct operation after isCancelled moved found step =>
      rw [step.frame]
      exact .rest _
  | holder stage after moved found step => cases step <;> exact .rest _
  | fork session stage after moved found step =>
      cases step with
      | submit => exact submit_traffic (mover_of_task found) system _ false rfl
      | _ => exact .rest _
  | start stage after moved found step =>
      cases step with
      | «open» => exact start_up_traffic system
      | _ => exact .rest _
  | stop stage after moved found step =>
      cases step with
      | shut schedule lane armed isOpen =>
          rw [disarm_armed_frame]
          exact .shut lane isOpen
      | closed schedule armed isClosed =>
          rw [disarm_armed_frame]
          exact .rest _
      | _ => exact .rest _
  | close stage after moved found step =>
      cases step with
      | shut lane isOpen => exact .shut lane isOpen
      | _ => exact .rest _
  | ticker schedule alarm after moved found step =>
      cases step with
      | retire => exact .rest _
      | tick => exact submit_traffic (mover_of_task found) system _ false rfl

theorem fire_traffic (system : System) :
    Relation.ReflTransGen (Traffic.Submission (system.asks .fire)) system.traffic
      system.fire.traffic := by
  let Reached (next : System) : Prop := next.store = system.store ∧
    Relation.ReflTransGen (Traffic.Submission (system.asks .fire)) system.traffic next.traffic
  have kept (next : System) (reached : Reached next) : Reached next.check := by
    refine ⟨(submit_store next _ false).1.trans reached.1, ?_⟩
    refine reached.2.tail (submission next (.background next.store.features) false ?_)
    rw [reached.1]
    rfl
  have start : Reached system := ⟨rfl, .refl⟩
  exact (fire_invariant kept start).2

theorem apply_traffic (system : System) (event : Event) :
    Traffic.Step (system.mover? event) (system.asks event) system.traffic
      (system.apply event).traffic := by
  have rule := apply_cases system event
  generalize system.apply event = next at rule
  cases rule with
  | step task next moves => exact moves.traffic
  | submit request listens => exact submit_traffic rfl system request listens rfl
  | fire => exact .submit _ _ rfl (fire_traffic system)
  | openQueue => exact open_queue_traffic system
  | arm =>
      obtain ⟨added, _, frame⟩ := arm_frame system.disarmArmed
      rw [frame, disarm_armed_frame]
      exact .rest _
  | disarm =>
      rw [disarm_armed_frame]
      exact .rest _
  | aside event clock listeners => exact .rest listeners
  | _ => exact .rest _

end System

end CertRenewal
