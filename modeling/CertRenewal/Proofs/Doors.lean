import CertRenewal.Proofs.Control

/-!
The calls that shut lanes, be it one to close the queue or one to stop the program. At
every moment the open lane is the only one that serves, and a lane that is shut and not
drained yet has a call that waits for it.
-/

namespace CertRenewal

/-- How far a call that closes the queue has come, if a task is one. -/
inductive Post
  | other
  | shutting
  | draining (lane : LaneId)
  | returned
deriving DecidableEq, Repr

def Task.post : Task → Post
  | .close .shutting => .shutting
  | .close (.draining lane) => .draining lane
  | .close .ended => .returned
  | .stop (.draining lane) => .draining lane
  | _ => .other

/-- The lanes, and the calls that shut them. -/
structure Doors where
  openLane : Option LaneId
  lanes : List Phase
  post : TaskId → Post

namespace Doors

open Helm (update_cases update_kept phase_concat serving_opened serving_shut serving_drained)

inductive Step (doors : Doors) : Doors → Prop
  | rest : Step doors doors
  | begin (task : TaskId) (absent : doors.post task = .other) :
      Step doors { doors with post := Function.update doors.post task .shutting }
  | opened (isClosed : doors.openLane = none) :
      Step doors { doors with
        openLane := some doors.lanes.length
        lanes := doors.lanes ++ [.serving] }
  | shut (task : TaskId) (lane : LaneId) (isOpen : doors.openLane = some lane)
      (early : doors.post task = .other ∨ doors.post task = .shutting) :
      Step doors
        { openLane := none
          lanes := doors.lanes.set lane .shut
          post := Function.update doors.post task (.draining lane) }
  | pass (task : TaskId) (found : doors.post task = .shutting) (isClosed : doors.openLane = none) :
      Step doors { doors with post := Function.update doors.post task .returned }
  | finish (task : TaskId) (lane : LaneId) (after : Post) (found : doors.post task = .draining lane)
      (drained : doors.lanes[lane]? ≠ some .shut) (done : after = .other ∨ after = .returned) :
      Step doors { doors with post := Function.update doors.post task after }
  | drain (lane : LaneId) (found : doors.lanes[lane]? = some .shut) :
      Step doors { doors with lanes := doors.lanes.set lane .drained }

/-- The open lane is the one that serves, and one that is shut and not drained yet has a
call that waits for it. -/
structure Kept (doors : Doors) : Prop where
  serving : ∀ lane : LaneId, doors.lanes[lane]? = some .serving ↔ doors.openLane = some lane
  shut : ∀ lane : LaneId, doors.lanes[lane]? = some .shut →
    ∃ task, doors.post task = .draining lane
  draining : ∀ task lane, doors.post task = .draining lane →
    doors.lanes[lane]? = some .shut ∨ doors.lanes[lane]? = some .drained

variable {doors next : Doors} {call : TaskId} {lane : LaneId}

theorem Kept.open_not_drained (kept : doors.Kept) {opened : LaneId}
    (isOpen : doors.openLane = some opened) (drained : doors.lanes[lane]? = some .drained) :
    opened ≠ lane := by
  rintro rfl
  rw [(kept.serving opened).mpr isOpen] at drained
  cases drained

theorem Step.drained_stays (kept : doors.Kept) (step : Step doors next)
    (drained : doors.lanes[lane]? = some .drained) : next.lanes[lane]? = some .drained := by
  cases step with
  | opened isClosed => exact phase_concat.mpr (.inl drained)
  | shut task other isOpen early =>
      exact (List.getElem?_set_ne (kept.open_not_drained isOpen drained)).trans drained
  | drain other found =>
      have different : other ≠ lane := by
        rintro rfl
        rw [found] at drained
        cases drained
      exact (List.getElem?_set_ne different).trans drained
  | _ => exact drained

/-- A lane that is shut stays so or is drained. -/
theorem Step.closed_stays (kept : doors.Kept) (step : Step doors next)
    (closed : doors.lanes[lane]? = some .shut ∨ doors.lanes[lane]? = some .drained) :
    next.lanes[lane]? = some .shut ∨ next.lanes[lane]? = some .drained := by
  rcases closed with shut | drained
  · cases step with
    | opened isClosed => exact .inl (phase_concat.mpr (.inl shut))
    | shut task other isOpen early =>
        have different : other ≠ lane := by
          rintro rfl
          rw [(kept.serving other).mpr isOpen] at shut
          cases shut
        exact .inl ((List.getElem?_set_ne different).trans shut)
    | drain other found =>
        by_cases itself : other = lane
        · subst itself
          exact .inr (List.getElem?_set_self (List.getElem?_eq_some_iff.mp found).1)
        · exact .inl ((List.getElem?_set_ne itself).trans shut)
    | _ => exact .inl shut
  · exact .inr (step.drained_stays kept drained)

theorem Step.kept (kept : doors.Kept) (step : Step doors next) : next.Kept := by
  have closed {task : TaskId} {lane : LaneId} (drains : doors.post task = .draining lane) :=
    step.closed_stays kept (kept.draining task lane drains)
  cases step with
  | rest => exact kept
  | begin task absent =>
      refine ⟨kept.serving, fun lane shut => ?_, fun other lane drains => ?_⟩
      · obtain ⟨other, drains⟩ := kept.shut lane shut
        exact ⟨other, update_kept .shutting drains (by simp [absent])⟩
      · exact closed ((update_cases drains).resolve_left nofun)
  | opened isClosed =>
      refine ⟨serving_opened kept.serving isClosed, fun lane shut => ?_, fun _ _ => closed⟩
      rcases phase_concat.mp shut with before | ⟨-, fresh⟩
      · exact kept.shut lane before
      · cases fresh
  | shut task lane isOpen early =>
      have serves := (kept.serving lane).mpr isOpen
      have idle (other : LaneId) : doors.post task ≠ .draining other := by
        rcases early with same | same <;> simp [same]
      refine ⟨serving_shut kept.serving isOpen, fun other shut => ?_, fun other place drains => ?_⟩
      · by_cases itself : lane = other
        · subst itself
          exact ⟨task, Function.update_self ..⟩
        · obtain ⟨drainer, drains⟩ := kept.shut other
            ((List.getElem?_set_ne itself).symm.trans shut)
          exact ⟨drainer, update_kept _ drains (idle other)⟩
      · rcases update_cases drains with same | before
        · obtain rfl := Post.draining.inj same
          exact .inl (List.getElem?_set_self (List.getElem?_eq_some_iff.mp serves).1)
        · exact closed before
  | pass task found isClosed =>
      refine ⟨kept.serving, fun lane shut => ?_, fun other lane drains => ?_⟩
      · obtain ⟨other, drains⟩ := kept.shut lane shut
        exact ⟨other, update_kept .returned drains (by simp [found])⟩
      · exact closed ((update_cases drains).resolve_left nofun)
  | finish task lane after found drained done =>
      refine ⟨kept.serving, fun other shut => ?_, fun other place drains => ?_⟩
      · obtain ⟨drainer, drains⟩ := kept.shut other shut
        refine ⟨drainer, update_kept after drains fun same => ?_⟩
        obtain rfl := Post.draining.inj (found.symm.trans same)
        exact drained shut
      · rcases update_cases drains with same | before
        · rcases done with rfl | rfl <;> cases same
        · exact closed before
  | drain lane found =>
      refine ⟨serving_drained kept.serving found, fun other shut => ?_, fun _ _ => closed⟩
      refine kept.shut other ?_
      by_cases itself : lane = other
      · subst itself
        exact found
      · exact (List.getElem?_set_ne itself).symm.trans shut

/-- Once a call has looked at the queue, none of the lanes that there were before serves. -/
def Past (count : Nat) (call : TaskId) (doors : Doors) : Prop :=
  count ≤ doors.lanes.length ∧
    (doors.post call ≠ .shutting → ∀ lane < count, doors.lanes[lane]? ≠ some .serving)

theorem Step.past {count : Nat} (kept : doors.Kept) (step : Step doors next)
    (past : Past count call doors) : Past count call next := by
  obtain ⟨bound, past⟩ := past
  have keptNext := step.kept kept
  have shut (isClosed : next.openLane = none) (lane : LaneId) :
      next.lanes[lane]? ≠ some .serving := by
    intro serves
    rw [keptNext.serving, isClosed] at serves
    cases serves
  cases step with
  | rest => exact ⟨bound, past⟩
  | begin task absent =>
      refine ⟨bound, fun passed => past fun before => ?_⟩
      by_cases itself : call = task
      · rw [itself, absent] at before
        cases before
      · exact passed (update_kept .shutting before (by simp [absent]))
  | opened isClosed =>
      refine ⟨?_, fun passed lane early serves => ?_⟩
      · rw [List.length_append]
        exact Nat.le_add_right_of_le bound
      · rcases phase_concat.mp serves with before | ⟨fresh, -⟩
        · exact past passed lane early before
        · exact Nat.lt_irrefl lane (Nat.lt_of_lt_of_le early (fresh ▸ bound))
  | shut task lane isOpen early =>
      exact ⟨by rwa [List.length_set], fun _ lane _ => shut rfl lane⟩
  | pass task found isClosed => exact ⟨bound, fun _ lane _ => shut isClosed lane⟩
  | finish task lane after found drained done =>
      refine ⟨bound, fun passed => past fun before => passed ?_⟩
      exact update_kept after before (by simp [found])
  | drain lane found =>
      refine ⟨by rwa [List.length_set], fun passed other early serves => ?_⟩
      have before := (serving_drained kept.serving found other).mp serves
      exact past passed other early ((kept.serving other).mpr before)

/-- A call that waits for a lane goes on waiting until it is drained. -/
theorem Step.waits (kept : doors.Kept) (step : Step doors next)
    (waits : doors.post call = .draining lane ∨ doors.lanes[lane]? = some .drained) :
    next.post call = .draining lane ∨ next.lanes[lane]? = some .drained := by
  rcases waits with waits | drained
  · cases step with
    | rest => exact .inl waits
    | begin task absent => exact .inl (update_kept .shutting waits (by simp [absent]))
    | opened isClosed => exact .inl waits
    | shut task other isOpen early =>
        refine .inl (update_kept _ waits ?_)
        rcases early with same | same <;> simp [same]
    | pass task found isClosed => exact .inl (update_kept .returned waits (by simp [found]))
    | finish task other after found drained done =>
        by_cases itself : other = lane
        · subst itself
          exact .inr ((kept.draining task other found).resolve_left drained)
        · exact .inl (update_kept after waits (by simpa [found] using itself))
    | drain other found => exact .inl waits
  · exact .inr (step.drained_stays kept drained)

end Doors

namespace System

def post (system : System) : TaskId → Post := system.readTask Task.post .other

def doors (system : System) : Doors where
  openLane := system.openLane
  lanes := system.lanes.map Lane.phase
  post := system.post

variable {system next moved : System} {task : TaskId}

theorem post_found {kind : Task} (found : system.tasks[task]? = some kind) :
    system.post task = kind.post :=
  read_task_found Task.post .other found

theorem doors_set_task {old : Task} (new : Task) (found : moved.tasks[task]? = some old) :
    (moved.setTask task new).doors =
      { moved.doors with post := Function.update moved.post task new.post } := by
  have posts := read_task_set Task.post .other new found rfl
  unfold doors post
  rw [posts]
  rfl

theorem doors_set_same {old : Task} (new : Task) (found : moved.tasks[task]? = some old)
    (same : new.post = old.post) : (moved.setTask task new).doors = moved.doors := by
  rw [doors_set_task new found, same, ← post_found found, Function.update_eq_self]
  rfl

theorem spawn_doors (system : System) (kind : Task) : (system.spawn kind).doors =
    { system.doors with
      post := Function.update system.post system.tasks.length kind.post } := by
  have posts := @read_task_spawn system Post Task.post .other kind
  unfold doors post
  rw [posts]
  rfl

theorem post_next : system.post system.tasks.length = .other :=
  read_task_next Task.post .other

theorem spawn_doors_same (system : System) {kind : Task} (other : kind.post = .other) :
    (system.spawn kind).doors = system.doors := by
  rw [spawn_doors, other, ← @post_next system, Function.update_eq_self]
  rfl

theorem doors_append {added : List Task} (tasks : next.tasks = system.tasks ++ added)
    (idle : ∀ kind ∈ added, kind.post = .other) :
    next.doors = { system.doors with
      openLane := next.openLane, lanes := next.lanes.map Lane.phase } := by
  have posts := read_task_append Task.post .other tasks idle
  unfold doors post
  rw [posts]

theorem post_same (tasks : next.tasks = system.tasks) : next.post = system.post := by
  unfold post readTask
  rw [tasks]

theorem doors_same (tasks : next.tasks = system.tasks) (opened : next.openLane = system.openLane)
    (phases : next.lanes.map Lane.phase = system.lanes.map Lane.phase) :
    next.doors = system.doors := by
  unfold doors
  rw [post_same tasks, opened, phases]

theorem submit_doors (system : System) (request : Request) (listens : Bool) :
    (system.submit request listens).doors = system.doors := by
  have same := submit_helm system request listens
  exact doors_same (submit_tasks system request listens) (congrArg Helm.openLane same)
    (congrArg Helm.lanes same)

theorem fire_doors (system : System) : system.fire.doors = system.doors :=
  fire_invariant (fun next same => (submit_doors next _ _).trans same) rfl

theorem shut_lane_doors (kept : system.traffic.Kept) {lane : LaneId}
    (isOpen : system.openLane = some lane) : (system.shutLane lane).doors = { system.doors with
      openLane := none
      lanes := system.doors.lanes.set lane .shut } := by
  have phases := shut_lane_phases kept isOpen
  unfold doors shutLane modifyLane
  rw [phases]
  rfl

theorem open_queue_doors (system : System) : Doors.Step system.doors system.openQueue.doors := by
  cases isOpen : system.openLane with
  | some lane =>
      rw [open_queue_open isOpen]
      exact .rest
  | none =>
      have tasks : system.openQueue.tasks = system.tasks ++ [.worker system.lanes.length] := by
        rw [open_queue_closed isOpen]
      rw [doors_append tasks (by simp [Task.post]), open_queue_closed isOpen]
      have opened : Doors.Step system.doors _ := .opened isOpen
      simpa [doors, Lane.phase, Lane.fresh] using opened

theorem arm_doors (system : System) : system.arm.doors = system.doors := by
  obtain ⟨added, tickers, frame⟩ := arm_frame system
  have tasks : system.arm.tasks = system.tasks ++ added := by rw [frame]
  rw [doors_append tasks, frame]
  · rfl
  · intro kind member
    obtain ⟨schedule, alarm, rfl⟩ := tickers kind member
    rfl

theorem start_up_doors (system : System) : Doors.Step system.doors system.startUp.doors := by
  unfold startUp
  split
  · exact .rest
  · have armed : { system.openQueue.arm with lifecycle := .running }.doors =
        system.openQueue.doors := arm_doors system.openQueue
    rw [armed]
    exact open_queue_doors system

theorem WorkerStep.doors {lane : LaneId} (step : WorkerStep system task lane next) :
    Doors.Step system.doors next.doors := by
  obtain ⟨rest, same | ⟨shut, drained⟩⟩ := step.phases
  · rw [doors_same step.tasks (congrArg Helm.openLane rest) same]
    exact .rest
  · have opened : next.openLane = system.openLane := congrArg Helm.openLane rest
    have lanes : next.lanes.map Lane.phase = (system.lanes.map Lane.phase).set lane .drained :=
      drained
    unfold System.doors
    rw [post_same step.tasks, opened, lanes]
    exact .drain lane shut

theorem StopStep.doors (kept : system.traffic.Kept) {stage after : StopStage}
    (found : system.tasks[task]? = some (.stop stage))
    (step : StopStep system task stage moved after) :
    Doors.Step system.doors (moved.setTask task (.stop after)).doors := by
  have tasks : moved.tasks = system.tasks := by rw [step.frame]
  have quiet (moved : System) (after : StopStage) (there : moved.tasks[task]? = some (.stop stage))
      (same : (Task.stop after).post = (Task.stop stage).post)
      (rest : moved.doors = system.doors) :
      Doors.Step system.doors (moved.setTask task (.stop after)).doors := by
    rw [doors_set_same _ there same, rest]
    exact .rest
  cases step with
  | shut schedule lane armed isOpen =>
      have same : (system.disarmArmed.shutLane lane).doors = (system.shutLane lane).doors := by
        rw [disarm_armed_frame]
        rfl
      have shut := shut_lane_doors kept isOpen
      have post : system.doors.post task = .other := post_found found
      rw [doors_set_task _ (tasks ▸ found), same, shut, post_same tasks]
      exact .shut task lane isOpen (.inl post)
  | closed schedule armed isClosed =>
      refine quiet _ _ (tasks ▸ found) rfl ?_
      rw [disarm_armed_frame]
      rfl
  | finish lane drained =>
      have post : system.doors.post task = .draining lane := post_found found
      let stopped := { system with lifecycle := .stopped }.releaseControl task
      have ended := @doors_set_task stopped task _ (.stop (.ended .stopped)) found
      rw [ended]
      exact .finish task lane .other post (drained_phase drained) (.inl rfl)
  | _ => exact quiet _ _ found rfl rfl

theorem CloseStep.doors (kept : system.traffic.Kept) {stage after : CloseStage}
    (found : system.tasks[task]? = some (.close stage))
    (step : CloseStep system stage moved after) :
    Doors.Step system.doors (moved.setTask task (.close after)).doors := by
  have post : system.doors.post task = (Task.close stage).post := post_found found
  cases step with
  | shut lane isOpen =>
      have there : (system.shutLane lane).tasks[task]? = some (.close .shutting) := found
      rw [doors_set_task _ there, shut_lane_doors kept isOpen]
      exact .shut task lane isOpen (.inr post)
  | closed isClosed =>
      rw [doors_set_task _ found]
      exact .pass task post isClosed
  | finish lane drained =>
      rw [doors_set_task _ found]
      exact .finish task lane .returned post (drained_phase drained) (.inr rfl)

theorem TaskStep.doors (kept : system.traffic.Kept) (step : TaskStep system task next) :
    Doors.Step system.doors next.doors := by
  have quiet {old : Task} (new : Task) (moved : System) (there : moved.tasks[task]? = some old)
      (same : new.post = old.post) (rest : moved.doors = system.doors) :
      Doors.Step system.doors (moved.setTask task new).doors := by
    rw [doors_set_same new there same, rest]
    exact .rest
  cases step with
  | worker lane next found step => exact step.doors
  | direct operation after isCancelled moved found step =>
      rw [step.frame]
      exact quiet _ _ found rfl rfl
  | holder stage after moved found step => cases step <;> exact quiet _ _ found rfl rfl
  | fork session stage after moved found step =>
      cases step with
      | submit =>
          have there : (system.submit (.afterSession system.store.features) false).tasks[task]? =
              some (.fork session .started) := by
            rw [submit_tasks]
            exact found
          exact quiet _ _ there rfl (submit_doors system _ false)
      | _ => exact quiet _ _ found rfl rfl
  | start stage after moved found step =>
      cases step with
      | «open» =>
          have there : (system.startUp.releaseControl task).tasks[task]? =
              some (.start .opening) := start_up_found found
          rw [doors_set_same (.start (.ended system.startUp.lifecycle)) there rfl]
          exact start_up_doors system
      | _ => exact quiet _ _ found rfl rfl
  | stop stage after moved found step => exact step.doors kept found
  | close stage after moved found step => exact step.doors kept found
  | ticker schedule alarm after moved found step =>
      cases step with
      | retire => exact quiet _ _ found rfl rfl
      | tick =>
          have there : system.check.tasks[task]? = some (.ticker schedule (some alarm)) := by
            rw [check, submit_tasks]
            exact found
          exact quiet _ _ there rfl (submit_doors system _ false)

theorem apply_doors (kept : system.traffic.Kept) (event : Event) :
    Doors.Step system.doors (system.apply event).doors := by
  have rule := apply_cases system event
  generalize system.apply event = next at rule
  cases rule with
  | step task next moves => exact moves.doors kept
  | begin event kind begun =>
      cases begun with
      | close =>
          rw [spawn_doors]
          exact .begin _ post_next
      | _ =>
          rw [spawn_doors_same _ rfl]
          exact .rest
  | submit request listens =>
      rw [submit_doors]
      exact .rest
  | fire =>
      rw [fire_doors]
      exact .rest
  | openQueue => exact open_queue_doors system
  | arm =>
      have same : system.disarmArmed.doors = system.doors := by
        rw [disarm_armed_frame]
        rfl
      rw [arm_doors, same]
      exact .rest
  | disarm =>
      rw [disarm_armed_frame]
      exact .rest
  | tryHold free =>
      rw [spawn_doors_same _ rfl]
      exact .rest
  | release task found =>
      have there : (system.releaseToken task).tasks[task]? = some (.holder .holding) := found
      rw [doors_set_same (.holder .released) there rfl]
      exact .rest
  | cancelDirect task operation isCancelled found =>
      rw [doors_set_same (.direct operation true) found rfl]
      exact .rest
  | _ => exact .rest

theorem outset_doors (outset : Outset) : outset.system.doors.Kept where
  serving lane := by simp [doors, Outset.system]
  shut lane shut := by cases shut
  draining task lane drains := by cases drains

end System

end CertRenewal
