import CertRenewal.Proofs.Roles

/-!
What becomes of tasks. A task stays of its kind, and a new one is what the event begins,
the worker of a new lane or the ticker of a new schedule. A session that cannot go on
waits for the token, its call or the answer to its request.
-/

namespace CertRenewal

inductive TaskKind
  | worker
  | direct
  | holder
  | fork
  | start
  | stop
  | close
  | ticker
deriving DecidableEq, Repr

def Task.kind : Task → TaskKind
  | .worker _ => .worker
  | .direct _ _ => .direct
  | .holder _ => .holder
  | .fork _ _ => .fork
  | .start _ => .start
  | .stop _ => .stop
  | .close _ => .close
  | .ticker _ _ => .ticker

namespace System

/-- What a task can be behind an event. -/
inductive Comes (system : System) (event : Event) (task : TaskId) : Task → Prop
  | stay (kind : Task) (found : system.tasks[task]? = some kind) : Comes system event task kind
  | begin (kind : Task) (begun : Begun event kind) : Comes system event task kind
  | serve (lane : LaneId) : Comes system event task (.worker lane)
  | tick (schedule : ScheduleId) (alarm : Option Alarm) :
      Comes system event task (.ticker schedule alarm)
  | hold (taken : event = .tryHold) : Comes system event task (.holder .holding)
  | move (old new : Task) (found : system.tasks[task]? = some old)
      (alike : new.kind = old.kind) (other : new.kind ≠ .fork) : Comes system event task new
  | fork (session : Session) (before after : ForkStage) (moved : System)
      (own : event = .step task) (found : system.tasks[task]? = some (.fork session before))
      (step : ForkStep system task session before moved after)
      (applied : system.apply event = moved.setTask task (.fork session after)) :
      Comes system event task (.fork session after)

variable {system next moved : System} {event : Event} {task : TaskId} {lane : LaneId}

theorem comes_of_set {place : TaskId} {kind : Task} (new : Task)
    (tasks : moved.tasks = system.tasks)
    (found : (moved.setTask task new).tasks[place]? = some kind)
    (itself : Comes system event task new) : Comes system event place kind := by
  by_cases same : place = task
  · subst same
    cases there : system.tasks[place]? with
    | none =>
        have absent : (moved.setTask place new).tasks[place]? = none := by
          have outside := List.getElem?_eq_none_iff.mp there
          simp [setTask, tasks, outside]
        rw [absent] at found
        cases found
    | some old =>
        rw [set_task_itself new (by rw [tasks, there]), Option.some.injEq] at found
        exact found ▸ itself
  · rw [set_task_other moved new same, tasks] at found
    exact .stay kind found

theorem comes_of_append {place : TaskId} {kind : Task} {added : List Task}
    (tasks : next.tasks = system.tasks ++ added) (found : next.tasks[place]? = some kind)
    (came : ∀ new ∈ added, Comes system event place new) : Comes system event place kind := by
  rw [tasks, List.getElem?_append] at found
  split at found
  · exact .stay kind found
  · exact came kind (List.mem_of_getElem? found)

theorem open_queue_comes {place : TaskId} {kind : Task}
    (found : system.openQueue.tasks[place]? = some kind) : Comes system event place kind := by
  cases isOpen : system.openLane with
  | some lane =>
      rw [open_queue_open isOpen] at found
      exact .stay kind found
  | none =>
      rw [open_queue_closed isOpen] at found
      have served := @comes_of_append system { system with
        tasks := system.tasks ++ [.worker system.lanes.length] } event
      refine served rfl found fun new member => ?_
      rw [List.mem_singleton.mp member]
      exact .serve _

theorem arm_comes {place : TaskId} {kind : Task} (found : system.arm.tasks[place]? = some kind) :
    system.tasks[place]? = some kind ∨ ∃ schedule alarm, kind = .ticker schedule alarm := by
  obtain ⟨added, tickers, frame⟩ := arm_frame system
  rw [frame, List.getElem?_append] at found
  split at found
  · exact .inl found
  · exact .inr (tickers kind (List.mem_of_getElem? found))

theorem start_up_comes {place : TaskId} {kind : Task}
    (found : system.startUp.tasks[place]? = some kind) : Comes system event place kind := by
  unfold startUp at found
  split at found
  · exact .stay kind found
  · rcases arm_comes found with opened | ⟨schedule, alarm, rfl⟩
    · exact open_queue_comes opened
    · exact .tick schedule alarm

theorem TaskStep.comes (step : TaskStep system task next)
    (applied : system.apply (.step task) = next) {place : TaskId} {kind : Task}
    (found : next.tasks[place]? = some kind) : Comes system (.step task) place kind := by
  cases step with
  | worker lane next there step =>
      rw [step.tasks] at found
      exact .stay kind found
  | direct operation after isCancelled moved there step =>
      have tasks : moved.tasks = system.tasks := by rw [step.frame]
      exact comes_of_set _ tasks found (.move _ _ there rfl nofun)
  | holder stage after moved there step =>
      have tasks : moved.tasks = system.tasks := by rw [step.frame]
      exact comes_of_set _ tasks found (.move _ _ there rfl nofun)
  | fork session stage after moved there step =>
      exact comes_of_set _ step.lane_roles.1 found
        (.fork session stage after moved rfl there step applied)
  | start stage after moved there step =>
      have own : Comes system (.step task) task (.start after) :=
        .move _ _ there rfl nofun
      cases step with
      | «open» =>
          by_cases itself : place = task
          · subst itself
            have present : (system.startUp.releaseControl place).tasks[place]? =
                some (.start .opening) := start_up_found there
            rw [set_task_itself _ present, Option.some.injEq] at found
            exact found ▸ own
          · rw [set_task_other _ _ itself] at found
            exact start_up_comes found
      | _ => exact comes_of_set _ rfl found own
  | stop stage after moved there step =>
      have tasks : moved.tasks = system.tasks := by rw [step.frame]
      exact comes_of_set _ tasks found (.move _ _ there rfl nofun)
  | close stage after moved there step =>
      have tasks : moved.tasks = system.tasks := by rw [step.frame]
      exact comes_of_set _ tasks found (.move _ _ there rfl nofun)
  | ticker schedule alarm after moved there step =>
      exact comes_of_set _ step.tasks found (.tick schedule after)

theorem apply_comes (system : System) (event : Event) {place : TaskId} {kind : Task}
    (found : (system.apply event).tasks[place]? = some kind) : Comes system event place kind := by
  have rule := apply_cases system event
  generalize applied : system.apply event = next at rule found
  cases rule with
  | step task next moves => exact moves.comes applied found
  | stay => exact .stay kind found
  | aside => exact .stay kind found
  | begin event new begun =>
      refine @comes_of_append _ (system.spawn new) _ _ _ _ rfl found fun other member => ?_
      rw [List.mem_singleton.mp member]
      exact .begin new begun
  | submit request listens =>
      rw [submit_tasks] at found
      exact .stay kind found
  | fire =>
      rw [fire_tasks] at found
      exact .stay kind found
  | openQueue => exact open_queue_comes found
  | arm =>
      rcases arm_comes found with before | ⟨schedule, alarm, rfl⟩
      · rw [disarm_armed_frame] at before
        exact .stay kind before
      · exact .tick schedule alarm
  | disarm =>
      rw [disarm_armed_frame] at found
      exact .stay kind found
  | cancelSchedule => exact .stay kind found
  | tryHold free =>
      refine @comes_of_append _ (system.spawn (.holder .holding)) _ _ _ _ rfl found
        fun other member => ?_
      rw [List.mem_singleton.mp member]
      exact .hold rfl
  | release task there =>
      have tasks : (system.releaseToken task).tasks = system.tasks := rfl
      exact comes_of_set _ tasks found (.move _ _ there rfl nofun)
  | cancelDirect task operation isCancelled there =>
      exact comes_of_set _ rfl found (.move _ _ there rfl nofun)

/-- What a task can become in an event. -/
inductive Becomes (system : System) (event : Event) (task : TaskId) : Task → Task → Prop
  | stay (kind : Task) : Becomes system event task kind kind
  | move (old new : Task) (alike : new.kind = old.kind) (other : old.kind ≠ .fork) :
      Becomes system event task old new
  | fork (session : Session) (before after : ForkStage) (moved : System)
      (own : event = .step task) (step : ForkStep system task session before moved after) :
      Becomes system event task (.fork session before) (.fork session after)

theorem becomes_of_set {place : TaskId} {kind old : Task} (new : Task)
    (tasks : moved.tasks = system.tasks) (there : system.tasks[task]? = some old)
    (itself : Becomes system event task old new) (found : system.tasks[place]? = some kind) :
    ∃ next, (moved.setTask task new).tasks[place]? = some next ∧
      Becomes system event place kind next := by
  by_cases same : place = task
  · subst same
    obtain rfl := Option.some.inj (there.symm.trans found)
    exact ⟨new, set_task_itself new (tasks ▸ there), itself⟩
  · exact ⟨kind, by rw [set_task_other moved new same, tasks, found], .stay kind⟩

theorem becomes_of_append {place : TaskId} {kind : Task} {added : List Task}
    (tasks : next.tasks = system.tasks ++ added) (found : system.tasks[place]? = some kind) :
    ∃ new, next.tasks[place]? = some new ∧ Becomes system event place kind new :=
  ⟨kind, by rw [tasks, List.getElem?_append_left (List.getElem?_eq_some_iff.mp found).1, found],
    .stay kind⟩

theorem TaskStep.becomes (step : TaskStep system task next) {place : TaskId} {kind : Task}
    (found : system.tasks[place]? = some kind) :
    ∃ new, next.tasks[place]? = some new ∧ Becomes system (.step task) place kind new := by
  cases step with
  | worker lane next there step =>
      exact ⟨kind, step.tasks ▸ found, .stay kind⟩
  | direct operation after isCancelled moved there step =>
      exact becomes_of_set _ (by rw [step.frame]) there (.move _ _ rfl nofun) found
  | holder stage after moved there step =>
      exact becomes_of_set _ (by rw [step.frame]) there (.move _ _ rfl nofun) found
  | fork session stage after moved there step =>
      exact becomes_of_set _ step.lane_roles.1 there (.fork session stage after moved rfl step)
        found
  | start stage after moved there step =>
      cases step with
      | «open» =>
          by_cases itself : place = task
          · subst itself
            obtain rfl := Option.some.inj (there.symm.trans found)
            have present : (system.startUp.releaseControl place).tasks[place]? =
                some (.start .opening) := start_up_found there
            exact ⟨_, set_task_itself _ present, .move _ _ rfl nofun⟩
          · refine ⟨kind, ?_, .stay kind⟩
            rw [set_task_other _ _ itself]
            exact start_up_found found
      | _ => exact becomes_of_set _ rfl there (.move _ _ rfl nofun) found
  | stop stage after moved there step =>
      exact becomes_of_set _ (by rw [step.frame]) there (.move _ _ rfl nofun) found
  | close stage after moved there step =>
      exact becomes_of_set _ (by rw [step.frame]) there (.move _ _ rfl nofun) found
  | ticker schedule alarm after moved there step =>
      exact becomes_of_set _ step.tasks there (.move _ _ rfl nofun) found

/-- A task never vanishes, and it stays of its kind. -/
theorem apply_becomes (system : System) (event : Event) {place : TaskId} {kind : Task}
    (found : system.tasks[place]? = some kind) :
    ∃ new, (system.apply event).tasks[place]? = some new ∧
      Becomes system event place kind new := by
  have rule := apply_cases system event
  generalize system.apply event = next at rule
  cases rule with
  | step task next moves => exact moves.becomes found
  | begin event new begun => exact becomes_of_append rfl found
  | submit request listens => exact ⟨kind, by rw [submit_tasks, found], .stay kind⟩
  | fire =>
      exact ⟨kind, by rw [fire_tasks, found], .stay kind⟩
  | openQueue =>
      obtain ⟨added, tasks⟩ := open_queue_tasks system
      exact becomes_of_append tasks found
  | arm =>
      obtain ⟨added, -, frame⟩ := arm_frame system.disarmArmed
      rw [frame, disarm_armed_frame]
      exact becomes_of_append rfl found
  | disarm =>
      rw [disarm_armed_frame]
      exact ⟨kind, found, .stay kind⟩
  | tryHold free => exact becomes_of_append rfl found
  | release task there =>
      have tasks : (system.releaseToken task).tasks = system.tasks := rfl
      exact becomes_of_set _ tasks there (.move _ _ rfl nofun) found
  | cancelDirect task operation isCancelled there =>
      exact becomes_of_set _ rfl there (.move _ _ rfl nofun) found
  | _ => exact ⟨kind, found, .stay kind⟩

/-- All tasks are of kinds that pass a test. -/
def TasksPass (system : System) (test : TaskKind → Bool) : Prop :=
  ∀ (place : TaskId) (task : Task), system.tasks[place]? = some task → test task.kind = true

theorem TasksPass.apply {test : TaskKind → Bool} (pass : system.TasksPass test)
    (begins : ∀ task, Begun event task → test task.kind = true)
    (holds : event = .tryHold → test .holder = true) (worker : test .worker = true)
    (ticker : test .ticker = true) : (system.apply event).TasksPass test := by
  intro place task found
  cases apply_comes system event found with
  | stay task before => exact pass place task before
  | begin task begun => exact begins task begun
  | serve lane => exact worker
  | tick schedule alarm => exact ticker
  | hold taken => exact holds taken
  | move old new before alike other =>
      rw [alike]
      exact pass place old before
  | fork session before after moved own there step applied =>
      have same : test .fork = true := pass place _ there
      exact same

end System

/-- What a session waits for that has no step to take, if it has not ended. -/
def ForkStage.Waits (system : System) (task : TaskId) : ForkStage → Prop
  | .waiting alarm => system.token.place ≠ .granted task ∧ system.clock < alarm.due
  | .atGate => system.issuer.sessionGate.pass? = none
  | .awaiting id => system.answer? id = none
  | .ended _ => True
  | _ => False

/-- Whether tasks of a kind take the token outside of the queue. -/
def TaskKind.isRival : TaskKind → Bool
  | .direct => true
  | .holder => true
  | .fork => true
  | _ => false

namespace System

/-- Apart from such tasks, only the worker of a lane that serves a request has to do with
the token. -/
theorem serving_of_role {system : System} {task : TaskId}
    (inside : ∀ kind, system.tasks[task]? = some kind → kind.kind.isRival = false)
    (busy : system.role task ≠ .idle) :
    ∃ lane held entry, system.tasks[task]? = some (.worker lane) ∧
      system.lanes[lane]? = some held ∧ held.current = some entry := by
  cases found : system.tasks[task]? with
  | none => exact absurd (role_absent found) busy
  | some kind =>
      rw [role_found found] at busy
      have plain := inside kind found
      cases kind with
      | worker lane =>
          cases there : system.lanes[lane]? with
          | none =>
              have idle : laneRole system.lanes lane = .idle := read_lane_missing there
              exact absurd idle busy
          | some held =>
              have same : laneRole system.lanes lane = held.role := read_lane_found there
              cases current : held.current with
              | none =>
                  have idle : held.role = .idle := by rw [Lane.role, current]
                  exact absurd (same.trans idle) busy
              | some entry => exact ⟨lane, held, entry, rfl, there, current⟩
      | direct operation isCancelled => cases plain
      | holder stage => cases plain
      | fork session stage => cases plain
      | _ => exact absurd rfl busy

theorem step_fork_none {system : System} {task : TaskId} {session : Session} {stage : ForkStage}
    (stuck : system.stepFork task session stage = none) :
    stage.Waits system task := by
  cases stage with
  | checking => cases mode : system.lifecycle <;> simp [stepFork, mode] at stuck
  | arriving =>
      simp only [stepFork] at stuck
      split at stuck <;> cases stuck
  | waiting alarm =>
      by_cases granted : system.token.place = .granted task
      · simp [stepFork, lookInLine, granted] at stuck
      · by_cases due : alarm.due ≤ system.clock
        · simp [stepFork, lookInLine, granted, due] at stuck
        · exact ⟨granted, Nat.lt_of_not_le due⟩
  | admitted => simp [stepFork] at stuck
  | atGate =>
      cases passes : system.issuer.sessionGate.pass? with
      | none => exact passes
      | some gate => simp [stepFork, passes] at stuck
  | concluding =>
      simp only [stepFork] at stuck
      split at stuck <;> cases stuck
  | started => simp [stepFork] at stuck
  | awaiting request =>
      cases replied : system.answer? request with
      | none => exact replied
      | some outcome => simp [stepFork, replied] at stuck
  | ended outcome => trivial

end System

end CertRenewal
