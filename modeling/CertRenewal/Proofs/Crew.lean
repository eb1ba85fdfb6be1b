import CertRenewal.Proofs.Run
import CertRenewal.Proofs.Steps

/-!
Every lane has exactly one worker: the workers, in the order in which they were
begun, serve the lanes in the order in which these were opened.
-/

namespace CertRenewal

def Task.lane? : Task → Option LaneId
  | .worker lane => some lane
  | _ => none

namespace System

def Crewed (system : System) : Prop :=
  system.tasks.filterMap Task.lane? = List.range system.lanes.length

variable {system next moved : System} {task : TaskId}

theorem outset_crewed (outset : Outset) : outset.system.Crewed := rfl

theorem filter_map_set {Item Part : Type} (part? : Item → Option Part) (items : List Item)
    (index : Nat) {old new : Item} (found : items[index]? = some old)
    (same : part? new = part? old) :
    (items.set index new).filterMap part? = items.filterMap part? := by
  induction items generalizing index with
  | nil => simp at found
  | cons item items induction =>
      cases index with
      | zero =>
          simp only [List.getElem?_cons_zero, Option.some.injEq] at found
          subst found
          simp [List.filterMap_cons, same]
      | succ index =>
          have later := induction index (by simpa using found)
          simp [List.filterMap_cons, later]

theorem Crewed.set_task (crewed : system.Crewed) {old new : Task}
    (tasks : moved.tasks = system.tasks) (lanes : moved.lanes.length = system.lanes.length)
    (found : system.tasks[task]? = some old) (same : new.lane? = old.lane?) :
    (moved.setTask task new).Crewed := by
  unfold Crewed setTask
  simp only [tasks, lanes]
  rw [filter_map_set Task.lane? system.tasks task found same]
  exact crewed

theorem Crewed.append (crewed : system.Crewed) (added : List Task)
    (idle : ∀ task ∈ added, task.lane? = none) (tasks : next.tasks = system.tasks ++ added)
    (lanes : next.lanes.length = system.lanes.length) : next.Crewed := by
  have none_added : added.filterMap Task.lane? = [] := List.filterMap_eq_nil_iff.mpr idle
  unfold Crewed
  rw [tasks, lanes, List.filterMap_append, none_added, List.append_nil]
  exact crewed

theorem Crewed.same (crewed : system.Crewed) (tasks : next.tasks = system.tasks)
    (lanes : next.lanes.length = system.lanes.length) : next.Crewed := by
  unfold Crewed
  rw [tasks, lanes]
  exact crewed

theorem submit_tasks (system : System) (request : Request) (listens : Bool) :
    (system.submit request listens).tasks = system.tasks := by
  cases isOpen : system.openLane with
  | none => rw [submit_closed isOpen]
  | some lane => rw [submit_open isOpen]

theorem fire_tasks (system : System) : system.fire.tasks = system.tasks :=
  fire_invariant (fun next same => (submit_tasks next _ _).trans same) rfl

theorem TickerStep.tasks {schedule : ScheduleId} {alarm : Alarm} {after : Option Alarm}
    (step : TickerStep system schedule alarm moved after) : moved.tasks = system.tasks := by
  cases step with
  | retire => rfl
  | tick => exact submit_tasks system _ _

theorem submit_lane_count (system : System) (request : Request) (listens : Bool) :
    (system.submit request listens).lanes.length = system.lanes.length := by
  cases isOpen : system.openLane with
  | none => rw [submit_closed isOpen]
  | some lane => simp [submit_open isOpen]

theorem Crewed.open_queue (crewed : system.Crewed) : system.openQueue.Crewed := by
  cases isOpen : system.openLane with
  | some lane => rwa [open_queue_open isOpen]
  | none =>
      rw [open_queue_closed isOpen]
      unfold Crewed at crewed ⊢
      simp [List.filterMap_append, crewed, Task.lane?, List.range_succ]

theorem Crewed.arm (crewed : system.Crewed) : system.arm.Crewed := by
  obtain ⟨added, tickers, frame⟩ := arm_frame system
  apply crewed.append added
  · intro task member
    obtain ⟨schedule, alarm, rfl⟩ := tickers task member
    rfl
  · rw [frame]
  · rw [frame]

theorem Crewed.start_up (crewed : system.Crewed) : system.startUp.Crewed := by
  unfold startUp
  split
  · exact crewed
  · exact crewed.open_queue.arm.same rfl rfl

theorem shut_lane_count (system : System) (lane : LaneId) :
    (system.shutLane lane).lanes.length = system.lanes.length := by
  simp [shutLane, modifyLane]

theorem WorkerStep.crewed {lane : LaneId} (crewed : system.Crewed)
    (step : WorkerStep system task lane next) : next.Crewed := by
  cases step with
  | carry held id operation after moved found current moves going =>
      rw [moves.frame]
      exact crewed.same rfl (by simp [setLane])
  | deliver held id operation after moved outcome found current moves ended =>
      rw [moves.frame]
      exact crewed.same rfl (by simp [setLane, answer])
  | takeUp => exact crewed.same rfl (by simp [setLane])
  | drain => exact crewed.same rfl (by simp [setLane])

theorem TaskStep.crewed (crewed : system.Crewed) (step : TaskStep system task next) :
    next.Crewed := by
  cases step with
  | worker lane next found step => exact step.crewed crewed
  | direct operation after isCancelled moved found step =>
      rw [step.frame]
      exact crewed.set_task rfl rfl found rfl
  | holder stage after moved found step =>
      cases step <;> exact crewed.set_task rfl rfl found rfl
  | fork session stage after moved found step =>
      cases step with
      | submit =>
          exact crewed.set_task (submit_tasks _ _ _) (submit_lane_count _ _ _) found rfl
      | _ => exact crewed.set_task rfl rfl found rfl
  | start stage after moved found step =>
      cases step with
      | «open» =>
          have opened : system.startUp.Crewed := crewed.start_up
          exact opened.set_task rfl rfl (start_up_found found) rfl
      | _ => exact crewed.set_task rfl rfl found rfl
  | stop stage after moved found step =>
      cases step with
      | shut schedule lane armed isOpen =>
          refine crewed.set_task ?_ ?_ found rfl
          · rw [disarm_armed_frame]
            rfl
          · rw [shut_lane_count, disarm_armed_frame]
      | closed schedule armed isClosed =>
          rw [disarm_armed_frame]
          exact crewed.set_task rfl rfl found rfl
      | _ => exact crewed.set_task rfl rfl found rfl
  | close stage after moved found step =>
      cases step with
      | shut lane isOpen => exact crewed.set_task rfl (shut_lane_count _ _) found rfl
      | _ => exact crewed.set_task rfl rfl found rfl
  | ticker schedule alarm after moved found step =>
      cases step with
      | retire => exact crewed.set_task rfl rfl found rfl
      | tick => exact crewed.set_task (submit_tasks _ _ _) (submit_lane_count _ _ _) found rfl

theorem Begun.lane {event : Event} {kind : Task} (begun : Begun event kind) :
    kind.lane? = none := by
  cases begun <;> rfl

theorem apply_crewed (system : System) (event : Event) (crewed : system.Crewed) :
    (system.apply event).Crewed := by
  have checked (system : System) (crewed : system.Crewed) : system.check.Crewed :=
    crewed.same (submit_tasks _ _ _) (submit_lane_count _ _ _)
  have rule := apply_cases system event
  generalize system.apply event = next at rule
  cases rule with
  | step task next moves => exact moves.crewed crewed
  | stay => exact crewed
  | aside => exact crewed.same rfl rfl
  | begin event task begun =>
      exact crewed.append [task] (by simp [begun.lane]) rfl rfl
  | submit request listens => exact crewed.same (submit_tasks _ _ _) (submit_lane_count _ _ _)
  | fire => exact fire_invariant checked crewed
  | openQueue => exact crewed.open_queue
  | arm =>
      rw [disarm_armed_frame]
      apply Crewed.arm
      exact crewed.same rfl rfl
  | disarm =>
      rw [disarm_armed_frame]
      exact crewed.same rfl rfl
  | cancelSchedule => exact crewed.same rfl rfl
  | tryHold => exact crewed.append [.holder .holding] (by simp [Task.lane?]) rfl rfl
  | release task found => exact crewed.set_task rfl rfl found rfl
  | cancelDirect task operation isCancelled found => exact crewed.set_task rfl rfl found rfl

theorem run_crewed (outset : Outset) (events : List Event) :
    (outset.system.run events).Crewed :=
  run_invariant apply_crewed (outset_crewed outset) events

theorem Crewed.worker_unique (crewed : system.Crewed) {lane : LaneId} {first second : TaskId}
    (one : system.tasks[first]? = some (.worker lane))
    (other : system.tasks[second]? = some (.worker lane)) : first = second := by
  have distinct : (system.tasks.filterMap Task.lane?).Nodup := by
    rw [crewed]
    exact List.nodup_range
  have apart := List.pairwise_iff_getElem.mp (List.pairwise_filterMap.mp distinct)
  obtain ⟨firstBound, firstFound⟩ := List.getElem?_eq_some_iff.mp one
  obtain ⟨secondBound, secondFound⟩ := List.getElem?_eq_some_iff.mp other
  rcases Nat.lt_trichotomy first second with before | same | after
  · exact absurd rfl (apart first second firstBound secondBound before lane
      (by rw [firstFound]; rfl) lane (by rw [secondFound]; rfl))
  · exact same
  · exact absurd rfl (apart second first secondBound firstBound after lane
      (by rw [secondFound]; rfl) lane (by rw [firstFound]; rfl))

theorem Crewed.worker_iff (crewed : system.Crewed) (lane : LaneId) :
    (∃ task : TaskId, system.tasks[task]? = some (Task.worker lane)) ↔
      lane < system.lanes.length := by
  have member : lane ∈ system.tasks.filterMap Task.lane? ↔ lane < system.lanes.length := by
    rw [crewed, List.mem_range]
  rw [← member, List.mem_filterMap]
  constructor
  · rintro ⟨task, found⟩
    exact ⟨_, List.mem_of_getElem? found, rfl⟩
  · rintro ⟨kind, present, serves⟩
    cases kind with
    | worker served =>
        obtain rfl := Option.some.inj serves
        exact List.mem_iff_getElem?.mp present
    | _ => cases serves

end System

end CertRenewal
