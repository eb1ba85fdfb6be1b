import CertRenewal.Proofs.Exclusion
import CertRenewal.Proofs.Filing
import CertRenewal.Proofs.Flow
import CertRenewal.Proofs.Tasks

/-!
A queue that nobody closes. One lane is opened at most and stays open. As long as the
host does not take the token for itself either, nobody has to wait for it.
-/

namespace CertRenewal

/-- Whether the host submits requests and leaves the rest to the program: it does not
close the queue, starts nothing outside of it and does not write to the store. -/
def Event.isQueueing : Event → Bool
  | .stop => false
  | .closeQueue => false
  | .newSession _ => false
  | .fork _ => false
  | .direct _ _ => false
  | event => event.leavesStore

/-- Whether the host asks for the token for itself. -/
def Event.takesToken : Event → Bool
  | .hold _ => true
  | .tryHold => true
  | _ => false

def TaskKind.isQueueing : TaskKind → Bool
  | .worker => true
  | .holder => true
  | .start => true
  | .ticker => true
  | _ => false

namespace Traffic

variable {traffic next : Traffic} {mover : Option LaneId} {asks : Request → Prop}

theorem Submissions.lane_count
    (submissions : Relation.ReflTransGen (Submission asks) traffic next) :
    next.lanes.length = traffic.lanes.length := by
  induction submissions with
  | refl => rfl
  | tail _ last induction =>
      rw [← induction]
      cases last with
      | accept request lane isOpen asked => exact List.length_modify _ _ _
      | refuse isClosed => rfl

/-- A lane is opened only while none is. -/
theorem Step.lane_count (step : Step mover asks traffic next) :
    next.lanes.length = traffic.lanes.length ∨
      traffic.openLane = none ∧ next.lanes.length = traffic.lanes.length + 1 ∧
        next.openLane ≠ none := by
  cases step with
  | rest listeners => exact .inl rfl
  | submit listeners next host submissions =>
      have count := Submissions.lane_count submissions
      exact .inl count
  | opened isClosed => exact .inr ⟨isClosed, List.length_append, nofun⟩
  | shut lane isOpen => exact .inl (List.length_modify _ _ _)
  | _ => exact .inl List.length_set

end Traffic

namespace System

/-- The settings are kept, and so is a lane that is open. -/
structure Steady (system next : System) : Prop where
  intervals : next.intervals = system.intervals
  catalogue : next.catalogue = system.catalogue
  opened : ∀ lane, system.openLane = some lane → next.openLane = some lane

variable {system next moved last : System} {event : Event} {task : TaskId} {lane : LaneId}

theorem Steady.trans (first : Steady system next) (second : Steady next last) :
    Steady system last where
  intervals := second.intervals.trans first.intervals
  catalogue := second.catalogue.trans first.catalogue
  opened lane isOpen := second.opened lane (first.opened lane isOpen)

theorem steady_of_same (intervals : next.intervals = system.intervals)
    (catalogue : next.catalogue = system.catalogue)
    (opened : next.openLane = system.openLane) : Steady system next :=
  ⟨intervals, catalogue, fun _ isOpen => opened.trans isOpen⟩

theorem steady_submit (system : System) (request : Request) (listens : Bool) :
    Steady system (system.submit request listens) := by
  cases isOpen : system.openLane with
  | none =>
      rw [submit_closed isOpen]
      exact steady_of_same rfl rfl rfl
  | some lane =>
      rw [submit_open isOpen]
      exact steady_of_same rfl rfl rfl

theorem steady_open_queue (system : System) : Steady system system.openQueue := by
  rw [open_queue_frame]
  refine ⟨rfl, rfl, fun lane isOpen => ?_⟩
  rw [open_queue_open isOpen]
  exact isOpen

theorem steady_arm (system : System) : Steady system system.arm := by
  obtain ⟨added, -, frame⟩ := arm_frame system
  rw [frame]
  exact steady_of_same rfl rfl rfl

theorem steady_disarm_armed (system : System) : Steady system system.disarmArmed := by
  rw [disarm_armed_frame]
  exact steady_of_same rfl rfl rfl

theorem steady_start_up (system : System) : Steady system system.startUp := by
  unfold startUp
  split
  · exact steady_of_same rfl rfl rfl
  · exact ((steady_open_queue system).trans (steady_arm _)).trans (steady_of_same rfl rfl rfl)

theorem steady_fire (system : System) : Steady system system.fire :=
  fire_invariant (fun next steady => steady.trans (steady_submit next _ _))
    (steady_of_same rfl rfl rfl)

theorem WorkerStep.steady (step : WorkerStep system task lane next) : Steady system next := by
  cases step with
  | carry held id operation after moved found current moves going =>
      rw [moves.frame]
      exact steady_of_same rfl rfl rfl
  | deliver held id operation after moved outcome found current moves ended =>
      rw [moves.frame]
      exact steady_of_same rfl rfl rfl
  | _ => exact steady_of_same rfl rfl rfl

theorem ForkStep.steady {session : Session} {stage after : ForkStage}
    (step : ForkStep system task session stage moved after) : Steady system moved := by
  cases step with
  | submit => exact steady_submit system _ _
  | _ => exact steady_of_same rfl rfl rfl

/-- Only a call to stop or to close the queue shuts a lane. -/
theorem TaskStep.steady (step : TaskStep system task next)
    (pass : system.TasksPass TaskKind.isQueueing) : Steady system next := by
  have set (moved : System) (kind : Task) (steady : Steady system moved) :
      Steady system (moved.setTask task kind) := steady.trans (steady_of_same rfl rfl rfl)
  cases step with
  | worker lane next found step => exact step.steady
  | direct operation after isCancelled moved found step =>
      rw [step.frame]
      exact steady_of_same rfl rfl rfl
  | holder stage after moved found step =>
      cases step <;> exact steady_of_same rfl rfl rfl
  | fork session stage after moved found step => exact set _ _ step.steady
  | start stage after moved found step =>
      cases step with
      | «open» => exact (steady_start_up system).trans (steady_of_same rfl rfl rfl)
      | _ => exact steady_of_same rfl rfl rfl
  | stop stage after moved found step => cases pass task _ found
  | close stage after moved found step => cases pass task _ found
  | ticker schedule alarm after moved found step =>
      cases step with
      | retire => exact steady_of_same rfl rfl rfl
      | tick => exact (steady_submit system _ _).trans (steady_of_same rfl rfl rfl)

theorem apply_steady (pass : system.TasksPass TaskKind.isQueueing) (event : Event) :
    Steady system (system.apply event) := by
  have rule := apply_cases system event
  generalize system.apply event = next at rule
  cases rule with
  | step task next moves => exact moves.steady pass
  | submit request listens => exact steady_submit system request listens
  | fire => exact steady_fire system
  | openQueue => exact steady_open_queue system
  | arm => exact (steady_disarm_armed system).trans (steady_arm _)
  | disarm => exact steady_disarm_armed system
  | _ => exact steady_of_same rfl rfl rfl

/-- One lane at most was opened, and it is open. -/
structure Single (system : System) : Prop where
  tasks : system.TasksPass TaskKind.isQueueing
  one : system.lanes.length ≤ 1
  opened : system.openLane = none → system.lanes = []

theorem queueing_begins (queueing : event.isQueueing = true) {kind : Task}
    (begun : Begun event kind) : kind.kind.isQueueing = true := by
  cases begun with
  | holder timeout => rfl
  | start => rfl
  | _ => cases queueing

theorem Single.apply (single : system.Single) (queueing : event.isQueueing = true) :
    (system.apply event).Single := by
  have steady := apply_steady single.tasks event
  have none_before (isClosed : (system.apply event).openLane = none) : system.lanes = [] := by
    apply single.opened
    cases isOpen : system.openLane with
    | none => rfl
    | some lane =>
        rw [steady.opened lane isOpen] at isClosed
        cases isClosed
  have tasks : (system.apply event).TasksPass TaskKind.isQueueing :=
    single.tasks.apply (fun _ begun => queueing_begins queueing begun) (fun _ => rfl) rfl rfl
  rcases (apply_traffic system event).lane_count with same | ⟨isClosed, more, opened⟩
  · have count : (system.apply event).lanes.length = system.lanes.length := same
    refine ⟨tasks, count ▸ single.one, fun isClosed => ?_⟩
    rw [none_before isClosed] at count
    exact List.eq_nil_of_length_eq_zero count
  · have count : (system.apply event).lanes.length = system.lanes.length + 1 := more
    rw [single.opened isClosed] at count
    exact ⟨tasks, Nat.le_of_eq count, fun closed => absurd closed opened⟩

/-- The lane that there is takes requests. -/
theorem Single.lane_open (single : system.Single) (kept : system.traffic.Kept) {held : Lane}
    (found : system.lanes[lane]? = some held) : lane = 0 ∧ held.isShut = false := by
  have bound := (List.getElem?_eq_some_iff.mp found).1
  have first : lane = 0 := Nat.lt_one_iff.mp (Nat.lt_of_lt_of_le bound single.one)
  cases isOpen : system.openLane with
  | none =>
      rw [single.opened isOpen] at bound
      cases bound
  | some other =>
      obtain ⟨there, present, unshut⟩ := kept.opens other isOpen
      have otherBound := (List.getElem?_eq_some_iff.mp present).1
      obtain rfl : other = lane :=
        (Nat.lt_one_iff.mp (Nat.lt_of_lt_of_le otherBound single.one)).trans first.symm
      have same : some held = some there := found.symm.trans present
      rw [Option.some.inj same]
      exact ⟨first, unshut⟩

/-- Nobody but the worker of the lane has anything to do with the token. -/
theorem Single.worker_of_role (single : system.Single)
    (unheld : system.TasksPass (· != .holder)) (busy : system.role task ≠ .idle) :
    system.tasks[task]? = some (.worker 0) := by
  have inside (kind : Task) (found : system.tasks[task]? = some kind) :
      kind.kind.isRival = false := by
    have queueing := single.tasks task kind found
    have other := unheld task kind found
    generalize kind.kind = test at queueing other
    cases test with
    | holder => exact absurd other Bool.false_ne_true
    | direct => cases queueing
    | fork => cases queueing
    | _ => rfl
  obtain ⟨lane, held, entry, worker, there, -⟩ := serving_of_role inside busy
  have bound := (List.getElem?_eq_some_iff.mp there).1
  obtain rfl : lane = 0 := Nat.lt_one_iff.mp (Nat.lt_of_lt_of_le bound single.one)
  exact worker

/-- The host has not asked for the token, and nobody waits for it. -/
structure Unrivalled (system : System) : Prop where
  unheld : system.TasksPass (· != .holder)
  unwaited : ∀ task, system.role task ≠ .standing

theorem Unrivalled.apply (unrivalled : system.Unrivalled) (single : system.Single)
    (sound : system.Sound) (queueing : event.isQueueing = true)
    (leaves : event.takesToken = false) : (system.apply event).Unrivalled := by
  have later := single.apply queueing
  have crewed := (sound.apply event).crewed
  have unheld : (system.apply event).TasksPass (· != .holder) := by
    refine unrivalled.unheld.apply (fun kind begun => ?_) (fun taken => ?_) rfl rfl
    · cases begun with
      | holder timeout => cases leaves
      | _ => rfl
    · subst taken
      cases leaves
  refine ⟨unheld, sound.nobody_waits event (fun first second one other => ?_)
    unrivalled.unwaited⟩
  exact crewed.worker_unique (later.worker_of_role unheld one)
    (later.worker_of_role unheld other)

theorem outset_single (outset : Outset) : outset.system.Single :=
  ⟨fun _ _ found => (nomatch found), Nat.zero_le 1, fun _ => rfl⟩

theorem run_single (outset : Outset) (events : List Event)
    (queueing : ∀ event ∈ events, event.isQueueing = true) :
    (outset.system.run events).Single ∧ Steady outset.system (outset.system.run events) := by
  let Holds (system : System) : Prop := system.Single ∧ Steady outset.system system
  have kept (system : System) (event : Event) (queueing : event.isQueueing = true)
      (holds : Holds system) : Holds (system.apply event) :=
    ⟨holds.1.apply queueing, holds.2.trans (apply_steady holds.1.tasks event)⟩
  have start : Holds outset.system := ⟨outset_single outset, steady_of_same rfl rfl rfl⟩
  exact run_invariant_of kept start events queueing

theorem run_unrivalled (outset : Outset) (events : List Event)
    (queueing : ∀ event ∈ events, event.isQueueing = true)
    (leaves : ∀ event ∈ events, event.takesToken = false) :
    (outset.system.run events).Unrivalled := by
  induction events using List.reverseRecOn with
  | nil => exact ⟨fun _ _ found => (nomatch found), fun _ stands => nomatch stands⟩
  | append_singleton events event induction =>
      have before (other : Event) (member : other ∈ events) : other ∈ events ++ [event] :=
        List.mem_append_left _ member
      have earlier := induction (fun other member => queueing other (before other member))
        fun other member => leaves other (before other member)
      rw [run_concat]
      exact earlier.apply
        (run_single outset events fun other member => queueing other (before other member)).1
        (run_sound outset events) (queueing event (by simp)) (leaves event (by simp))

end System

end CertRenewal
