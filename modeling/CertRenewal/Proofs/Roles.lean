import CertRenewal.Proofs.Crew
import CertRenewal.Proofs.Lanes
import CertRenewal.Proofs.Line

/-!
What every task of the program has to do with the token of the issuer and with the
issuer itself, read off where the task stands. Each event moves at most one task,
and the token and the count of refreshes in flight with it.
-/

namespace CertRenewal

inductive Role
  | idle
  | standing
  | holding
  /-- Holds the token and is in a call for a certificate. -/
  | refreshing
  /-- Holds the token and is in a call that starts a session. -/
  | starting
deriving DecidableEq, Repr

namespace Role

def stake : Role → Stake
  | idle => .idle
  | standing => .standing
  | holding => .holding
  | refreshing => .holding
  | starting => .holding

def isCalling : Role → Bool
  | refreshing => true
  | starting => true
  | _ => false

def isRefreshing : Role → Bool
  | refreshing => true
  | _ => false

theorem standing_of_stake {role : Role} (stands : role.stake = .standing) : role = .standing := by
  cases role <;> first | rfl | cases stands

theorem calling_holds {role : Role} (calling : role.isCalling = true) : role.stake = .holding := by
  cases role <;> simp [isCalling, stake] at *

end Role

/-- What one task can do to the token, to the issuer and to its own role. -/
inductive RoleMove (task : TaskId) : Token → Issuer → Role → Token → Issuer → Role → Prop
  | handle {token next : Token} {issuer after : Issuer} {before becomes : Role}
      (move : TokenMove task token before.stake next becomes.stake)
      (load : after.inFlight = issuer.inFlight ∧ after.maxInFlight = issuer.maxInFlight)
      (apart : becomes.isRefreshing = before.isRefreshing) :
      RoleMove task token issuer before next after becomes
  | begin {token : Token} {issuer after : Issuer}
      (more : after.inFlight = issuer.inFlight + 1)
      (most : after.maxInFlight = max issuer.maxInFlight (issuer.inFlight + 1)) :
      RoleMove task token issuer .holding token after .refreshing
  | finish {token : Token} {issuer after : Issuer}
      (fewer : after.inFlight = issuer.inFlight - 1)
      (most : after.maxInFlight = issuer.maxInFlight) :
      RoleMove task token issuer .refreshing (token.release task) after .idle

theorem RoleMove.rest (task : TaskId) {token : Token} {issuer after : Issuer} {role : Role}
    (load : after.inFlight = issuer.inFlight ∧ after.maxInFlight = issuer.maxInFlight) :
    RoleMove task token issuer role token after role :=
  .handle (.rest _ _) load rfl

theorem RoleMove.take {task : TaskId} {token next : Token} {issuer : Issuer}
    {before becomes : Role} (move : TokenMove task token before.stake next becomes.stake)
    (apart : becomes.isRefreshing = before.isRefreshing) :
    RoleMove task token issuer before next issuer becomes :=
  .handle move ⟨rfl, rfl⟩ apart

theorem RoleMove.token_move {task : TaskId} {token next : Token} {issuer after : Issuer}
    {before becomes : Role} (move : RoleMove task token issuer before next after becomes) :
    TokenMove task token before.stake next becomes.stake := by
  cases move with
  | handle move load apart => exact move
  | begin more most => exact .rest _ _
  | finish fewer most => exact .release _

theorem end_refresh_load (issuer : Issuer) (now : Instant) :
    (issuer.endRefresh now).2.inFlight = issuer.inFlight - 1 ∧
      (issuer.endRefresh now).2.maxInFlight = issuer.maxInFlight := by
  unfold Issuer.endRefresh
  split <;> exact ⟨rfl, rfl⟩

theorem end_session_load (issuer : Issuer) :
    issuer.endSession.2.inFlight = issuer.inFlight ∧
      issuer.endSession.2.maxInFlight = issuer.maxInFlight := by
  unfold Issuer.endSession
  split <;> exact ⟨rfl, rfl⟩

def Stage.role : Stage → Role
  | .waiting _ => .standing
  | .admitted => .holding
  | .atGate => .refreshing
  | .busy _ => .refreshing
  | .concluding => .refreshing
  | _ => .idle

def HolderStage.role : HolderStage → Role
  | .waiting _ => .standing
  | .holding => .holding
  | _ => .idle

def ForkStage.role : ForkStage → Role
  | .waiting _ => .standing
  | .admitted => .holding
  | .atGate => .starting
  | .concluding => .starting
  | _ => .idle

def Lane.role (lane : Lane) : Role :=
  match lane.current with
  | some (_, operation) => operation.stage.role
  | none => .idle

def laneRole : List Lane → LaneId → Role := readLane Lane.role .idle

def Task.role (lanes : List Lane) : Task → Role
  | .worker lane => laneRole lanes lane
  | .direct operation _ => operation.stage.role
  | .holder stage => stage.role
  | .fork _ stage => stage.role
  | _ => .idle

/-- Nothing but the roles of lanes decides about the roles of tasks. -/
theorem Task.role_congr {lanes others : List Lane}
    (same : ∀ lane, laneRole others lane = laneRole lanes lane) (kind : Task) :
    kind.role others = kind.role lanes := by
  cases kind with
  | worker lane => exact same lane
  | _ => rfl

namespace System

theorem Begun.role {event : Event} {kind : Task} (begun : Begun event kind) (lanes : List Lane) :
    kind.role lanes = .idle := by
  cases begun <;> rfl

def role (system : System) (task : TaskId) : Role :=
  match system.tasks[task]? with
  | some kind => kind.role system.lanes
  | none => .idle

/-- Neither the token, nor the refreshes in flight, nor any role is touched. -/
structure Quiet (system next : System) : Prop where
  token : next.token = system.token
  load : next.issuer.inFlight = system.issuer.inFlight ∧
    next.issuer.maxInFlight = system.issuer.maxInFlight
  role : ∀ task, next.role task = system.role task

/-- One task moves its role, and the token and the issuer with it. -/
def Moves (system next : System) : Prop :=
  ∃ task, RoleMove task system.token system.issuer (system.role task)
      next.token next.issuer (next.role task) ∧
    ∀ other, other ≠ task → next.role other = system.role other

variable {system next moved : System} {task : TaskId}

theorem Quiet.trans {last : System} (first : Quiet system next) (second : Quiet next last) :
    Quiet system last where
  token := second.token.trans first.token
  load := ⟨second.load.1.trans first.load.1, second.load.2.trans first.load.2⟩
  role task := (second.role task).trans (first.role task)

theorem Quiet.moves (quiet : Quiet system next) : Moves system next := by
  refine ⟨0, ?_, fun other _ => quiet.role other⟩
  rw [quiet.token, quiet.role]
  exact .rest _ quiet.load

theorem role_congr (tasks : next.tasks = system.tasks)
    (lanes : ∀ lane, laneRole next.lanes lane = laneRole system.lanes lane) (task : TaskId) :
    next.role task = system.role task := by
  unfold System.role
  rw [tasks]
  cases system.tasks[task]? with
  | none => rfl
  | some kind => exact kind.role_congr lanes

theorem quiet_of_same (token : next.token = system.token)
    (load : next.issuer.inFlight = system.issuer.inFlight ∧
      next.issuer.maxInFlight = system.issuer.maxInFlight)
    (tasks : next.tasks = system.tasks)
    (lanes : ∀ lane, laneRole next.lanes lane = laneRole system.lanes lane) :
    Quiet system next where
  token := token
  load := load
  role := role_congr tasks lanes

theorem role_found {kind : Task} (found : system.tasks[task]? = some kind) :
    system.role task = kind.role system.lanes := by
  unfold System.role
  rw [found]

theorem role_absent (absent : system.tasks[task]? = none) : system.role task = .idle := by
  unfold System.role
  rw [absent]

theorem role_set_task {old : Task} (new : Task) (found : system.tasks[task]? = some old) :
    (system.setTask task new).role task = new.role system.lanes :=
  role_found (set_task_itself new found)

theorem role_set_other {other : TaskId} (new : Task) (different : other ≠ task) :
    (system.setTask task new).role other = system.role other := by
  unfold System.role
  rw [set_task_other system new different]
  rfl

theorem role_spawn_other {kind : Task} {other : TaskId}
    (different : other ≠ system.tasks.length) :
    (system.spawn kind).role other = system.role other := by
  unfold System.role
  rw [spawn_other system kind different]
  rfl

theorem moves_of_task {old new : Task} (found : system.tasks[task]? = some old)
    (tasks : moved.tasks = system.tasks)
    (lanes : ∀ lane, laneRole moved.lanes lane = laneRole system.lanes lane)
    (move : RoleMove task system.token system.issuer (old.role system.lanes)
      moved.token moved.issuer (new.role system.lanes)) :
    Moves system (moved.setTask task new) := by
  refine ⟨task, ?_, ?_⟩
  · rw [role_found found, role_set_task new (tasks ▸ found), new.role_congr lanes]
    exact move
  · intro other different
    rw [role_set_other new different]
    exact role_congr tasks lanes other

theorem quiet_of_task {old : Task} (new : Task) (found : system.tasks[task]? = some old)
    (same : new.role system.lanes = old.role system.lanes) :
    Quiet system (system.setTask task new) where
  token := rfl
  load := ⟨rfl, rfl⟩
  role other := by
    by_cases itself : other = task
    · subst itself
      rw [role_set_task new found, role_found found, same]
    · exact role_set_other new itself

theorem quiet_of_append (added : List Task) (token : next.token = system.token)
    (load : next.issuer.inFlight = system.issuer.inFlight ∧
      next.issuer.maxInFlight = system.issuer.maxInFlight)
    (tasks : next.tasks = system.tasks ++ added)
    (lanes : ∀ lane, laneRole next.lanes lane = laneRole system.lanes lane)
    (idle : ∀ kind ∈ added, kind.role next.lanes = .idle) : Quiet system next where
  token := token
  load := load
  role task := by
    unfold System.role
    rw [tasks, List.getElem?_append]
    by_cases old : task < system.tasks.length
    · rw [if_pos old, List.getElem?_eq_getElem old]
      exact Task.role_congr lanes _
    · rw [if_neg old, List.getElem?_eq_none (Nat.le_of_not_lt old)]
      cases found : added[task - system.tasks.length]? with
      | none => rfl
      | some kind => exact idle kind (List.mem_of_getElem? found)

theorem quiet_submit (system : System) (request : Request) (listens : Bool) :
    Quiet system (system.submit request listens) := by
  cases isOpen : system.openLane with
  | none =>
      rw [submit_closed isOpen]
      exact quiet_of_same rfl ⟨rfl, rfl⟩ rfl fun _ => rfl
  | some lane =>
      rw [submit_open isOpen]
      exact quiet_of_same rfl ⟨rfl, rfl⟩ rfl (read_lane_modify_same _ fun _ => rfl)

theorem quiet_open_queue (system : System) : Quiet system system.openQueue := by
  cases isOpen : system.openLane with
  | some lane =>
      rw [open_queue_open isOpen]
      exact quiet_of_same rfl ⟨rfl, rfl⟩ rfl fun _ => rfl
  | none =>
      rw [open_queue_closed isOpen]
      refine quiet_of_append [.worker system.lanes.length] rfl ⟨rfl, rfl⟩ rfl
        (read_lane_append _ rfl) ?_
      intro kind member
      rw [List.mem_singleton] at member
      subst member
      simp [Task.role, laneRole, readLane, Lane.role, Lane.fresh]

theorem quiet_arm (system : System) : Quiet system system.arm := by
  obtain ⟨added, tickers, frame⟩ := arm_frame system
  refine quiet_of_append added ?_ ?_ ?_ ?_ ?_
  · rw [frame]
  · rw [frame]
    exact ⟨rfl, rfl⟩
  · rw [frame]
  · rw [frame]
    exact fun _ => rfl
  · intro kind member
    obtain ⟨schedule, alarm, rfl⟩ := tickers kind member
    rfl

theorem quiet_start_up (system : System) : Quiet system system.startUp := by
  unfold startUp
  split
  · exact quiet_of_same rfl ⟨rfl, rfl⟩ rfl fun _ => rfl
  · have opened := (quiet_open_queue system).trans (quiet_arm system.openQueue)
    exact opened.trans (quiet_of_same rfl ⟨rfl, rfl⟩ rfl fun _ => rfl)

theorem quiet_shut_lane (system : System) (lane : LaneId) :
    Quiet system (system.shutLane lane) :=
  quiet_of_same rfl ⟨rfl, rfl⟩ rfl (read_lane_modify_same _ fun _ => rfl)

theorem quiet_disarm_armed (system : System) : Quiet system system.disarmArmed := by
  rw [disarm_armed_frame]
  exact quiet_of_same rfl ⟨rfl, rfl⟩ rfl fun _ => rfl

theorem OperationStep.role_move {isCancelled : Bool} {operation after : Operation}
    (step : OperationStep system task isCancelled operation moved after) :
    RoleMove task system.token system.issuer operation.stage.role
      moved.token moved.issuer after.stage.role := by
  have ended := end_refresh_load system.issuer system.now
  cases step with
  | abandon early cancelled =>
      rcases early with stage | stage <;> rw [stage] <;> exact .rest _ ⟨rfl, rfl⟩
  | arrive stage => rw [stage]; exact .rest _ ⟨rfl, rfl⟩
  | enter stage going free => rw [stage]; exact .take (.enter _ free) rfl
  | queue stage going taken => rw [stage]; exact .take (.queue _ taken) rfl
  | withdraw alarm stage => rw [stage]; exact .take (.leave _) rfl
  | accept alarm stage going granted => rw [stage]; exact .take (.accept _ granted) rfl
  | expire alarm stage => rw [stage]; exact .take (.leave _) rfl
  | turnBack stage => rw [stage]; exact .take (.release _) rfl
  | skip stage => rw [stage]; exact .take (.release _) rfl
  | keyless stage => rw [stage]; exact .take (.release _) rfl
  | call keys stage => rw [stage]; exact .begin rfl rfl
  | pass gate stage => rw [stage]; exact .rest _ ⟨rfl, rfl⟩
  | delay gate stage => rw [stage]; exact .rest _ ⟨rfl, rfl⟩
  | wake alarm stage => rw [stage]; exact .rest _ ⟨rfl, rfl⟩
  | fail failure stage => rw [stage]; exact .finish ended.1 ended.2
  | save certificate stage => rw [stage, kept_frame]; exact .finish ended.1 ended.2
  | lose certificate reason stage => rw [stage, kept_frame]; exact .finish ended.1 ended.2

theorem HolderStep.role_move {stage after : HolderStage}
    (step : HolderStep system task stage moved after) :
    RoleMove task system.token system.issuer stage.role moved.token moved.issuer after.role := by
  cases step with
  | enter timeout free => exact .take (.enter _ free) rfl
  | queue timeout taken => exact .take (.queue _ taken) rfl
  | accept alarm granted => exact .take (.accept _ granted) rfl
  | expire alarm => exact .take (.leave _) rfl

theorem ForkStep.role_move {session : Session} {stage after : ForkStage}
    (step : ForkStep system task session stage moved after) :
    RoleMove task system.token system.issuer stage.role moved.token moved.issuer after.role := by
  cases step with
  | enter free => exact .take (.enter _ free) rfl
  | queue taken => exact .take (.queue _ taken) rfl
  | accept alarm granted => exact .take (.accept _ granted) rfl
  | expire alarm => exact .take (.leave _) rfl
  | call => exact .handle (.rest _ _) ⟨rfl, rfl⟩ rfl
  | fail failure => exact .handle (.release _) (end_session_load _) rfl
  | succeed => exact .handle (.release _) (end_session_load _) rfl
  | submit =>
      have quiet := quiet_submit system (.afterSession system.store.features) false
      rw [quiet.token]
      exact .rest _ quiet.load
  | _ => exact .rest _ ⟨rfl, rfl⟩

theorem ForkStep.lane_roles {session : Session} {stage after : ForkStage}
    (step : ForkStep system task session stage moved after) :
    moved.tasks = system.tasks ∧
      ∀ lane, laneRole moved.lanes lane = laneRole system.lanes lane := by
  cases step with
  | submit =>
      refine ⟨submit_tasks _ _ _, ?_⟩
      cases isOpen : system.openLane with
      | none => rw [submit_closed isOpen]; exact fun _ => rfl
      | some lane => rw [submit_open isOpen]; exact read_lane_modify_same _ fun _ => rfl
  | _ => exact ⟨rfl, fun _ => rfl⟩

/-- A worker whose lane changes moves its own stake and nobody else's. -/
theorem moves_of_lane (crewed : system.Crewed) {lane : LaneId} {old new : Lane}
    (worker : system.tasks[task]? = some (.worker lane)) (found : system.lanes[lane]? = some old)
    (tasks : next.tasks = system.tasks) (lanes : next.lanes = system.lanes.set lane new)
    (move : RoleMove task system.token system.issuer old.role next.token next.issuer new.role) :
    Moves system next := by
  have mine : ∀ other, other ≠ task → system.tasks[other]? ≠ some (.worker lane) :=
    fun other different same => different (crewed.worker_unique same worker)
  refine ⟨task, ?_, ?_⟩
  · have before : system.role task = old.role := by
      rw [role_found worker]
      simp [Task.role, laneRole, read_lane_found found]
    have after : next.role task = new.role := by
      rw [role_found (tasks ▸ worker), lanes]
      simp [Task.role, laneRole, read_lane_set new found]
    rw [before, after]
    exact move
  · intro other different
    unfold System.role
    rw [tasks, lanes]
    cases there : system.tasks[other]? with
    | none => rfl
    | some kind =>
        cases kind with
        | worker served =>
            have elsewhere : served ≠ lane := by
              rintro rfl
              exact mine other different there
            simp [Task.role, laneRole, read_lane_set new found, elsewhere]
        | _ => rfl

theorem WorkerStep.moves (crewed : system.Crewed) {lane : LaneId}
    (worker : system.tasks[task]? = some (.worker lane))
    (step : WorkerStep system task lane next) : Moves system next := by
  cases step with
  | carry held id operation after moved found current moves going =>
      have move := moves.role_move
      rw [moves.frame]
      refine moves_of_lane crewed worker found rfl rfl ?_
      simpa [Lane.role, current, setLane] using move
  | deliver held id operation after moved outcome found current moves ended =>
      have move := moves.role_move
      rw [moves.frame]
      refine moves_of_lane crewed worker found rfl rfl ?_
      simpa [Lane.role, current, setLane, answer, ended, Stage.role] using move
  | takeUp held queued rest found idle waiting =>
      refine moves_of_lane crewed worker found rfl rfl ?_
      have rests := @RoleMove.rest task system.token system.issuer system.issuer .idle ⟨rfl, rfl⟩
      simpa [Lane.role, idle, setLane, Operation.start, Stage.role] using rests
  | drain held found idle empty shut undrained =>
      refine moves_of_lane crewed worker found rfl rfl ?_
      have rests := @RoleMove.rest task system.token system.issuer system.issuer .idle ⟨rfl, rfl⟩
      simpa [Lane.role, idle, setLane] using rests

theorem TaskStep.moves (crewed : system.Crewed) (step : TaskStep system task next) :
    Moves system next := by
  cases step with
  | worker lane next found step => exact step.moves crewed found
  | direct operation after isCancelled moved found step =>
      have frame := step.frame
      refine moves_of_task found ?_ ?_ step.role_move
      · rw [frame]
      · rw [frame]
        exact fun _ => rfl
  | holder stage after moved found step =>
      have move := step.role_move
      cases step <;> exact moves_of_task found rfl (fun _ => rfl) move
  | fork session stage after moved found step =>
      exact moves_of_task found step.lane_roles.1 step.lane_roles.2 step.role_move
  | start stage after moved found step =>
      cases step with
      | «open» =>
          have released : Quiet system.startUp (system.startUp.releaseControl task) :=
            quiet_of_same rfl ⟨rfl, rfl⟩ rfl fun _ => rfl
          have opened := ((quiet_start_up system).trans released).trans
            (quiet_of_task (.start (.ended system.startUp.lifecycle)) (start_up_found found) rfl)
          exact opened.moves
      | _ => exact moves_of_task found rfl (fun _ => rfl) (.rest _ ⟨rfl, rfl⟩)
  | stop stage after moved found step =>
      cases step with
      | shut schedule lane armed isOpen =>
          have shut := (quiet_disarm_armed system).trans (quiet_shut_lane _ lane)
          have still : (system.disarmArmed.shutLane lane).tasks[task]? =
              some (.stop .disarming) := by
            rw [disarm_armed_frame]
            exact found
          exact (shut.trans (quiet_of_task (.stop (.draining lane)) still rfl)).moves
      | closed schedule armed isClosed =>
          rw [disarm_armed_frame]
          exact moves_of_task found rfl (fun _ => rfl) (.rest _ ⟨rfl, rfl⟩)
      | _ => exact moves_of_task found rfl (fun _ => rfl) (.rest _ ⟨rfl, rfl⟩)
  | close stage after moved found step =>
      cases step with
      | shut lane isOpen =>
          have still : (system.shutLane lane).tasks[task]? = some (.close .shutting) := found
          exact ((quiet_shut_lane system lane).trans
            (quiet_of_task (.close (.draining lane)) still rfl)).moves
      | _ => exact moves_of_task found rfl (fun _ => rfl) (.rest _ ⟨rfl, rfl⟩)
  | ticker schedule alarm after moved found step =>
      cases step with
      | retire => exact moves_of_task found rfl (fun _ => rfl) (.rest _ ⟨rfl, rfl⟩)
      | tick held following =>
          have still : system.check.tasks[task]? = some (.ticker schedule (some alarm)) := by
            rw [check, submit_tasks]
            exact found
          have counted : Quiet system.check
              { system.check with alarmCount := system.check.alarmCount + 1 } :=
            quiet_of_same rfl ⟨rfl, rfl⟩ rfl fun _ => rfl
          have ticked := ((quiet_submit system _ _).trans counted).trans
            (quiet_of_task (.ticker schedule (some following)) still rfl)
          exact ticked.moves

theorem apply_moves (crewed : system.Crewed) (event : Event) :
    Moves system (system.apply event) := by
  have rule := apply_cases system event
  generalize system.apply event = next at rule
  cases rule with
  | step task next moves => exact moves.moves crewed
  | stay => exact (quiet_of_same rfl ⟨rfl, rfl⟩ rfl fun _ => rfl).moves
  | aside =>
      apply Quiet.moves
      exact quiet_of_same rfl ⟨rfl, rfl⟩ rfl fun _ => rfl
  | begin event kind begun =>
      have quiet : Quiet system (system.spawn kind) := by
        refine quiet_of_append [kind] rfl ⟨rfl, rfl⟩ rfl (fun _ => rfl) ?_
        intro other member
        rw [List.mem_singleton] at member
        subst member
        exact begun.role _
      exact quiet.moves
  | submit request listens => exact (quiet_submit system request listens).moves
  | fire =>
      have fired : Quiet system system.fire :=
        fire_invariant (fun next quiet => quiet.trans (quiet_submit next _ _))
          (quiet_of_same rfl ⟨rfl, rfl⟩ rfl fun _ => rfl)
      exact fired.moves
  | openQueue => exact (quiet_open_queue system).moves
  | arm => exact ((quiet_disarm_armed system).trans (quiet_arm _)).moves
  | disarm => exact (quiet_disarm_armed system).moves
  | cancelSchedule => exact (quiet_of_same rfl ⟨rfl, rfl⟩ rfl fun _ => rfl).moves
  | tryHold free =>
      refine ⟨system.tasks.length, ?_, ?_⟩
      · have before : system.role system.tasks.length = .idle := by simp [role]
        rw [before]
        have after : ({ system with token := system.token.ask system.tasks.length }.spawn
            (.holder .holding)).role system.tasks.length = .holding := by
          simp [role, spawn, Task.role, HolderStage.role]
        rw [after]
        exact .take (.enter _ free) rfl
      · intro other different
        exact role_spawn_other different
  | release task found =>
      exact moves_of_task found rfl (fun _ => rfl) (.take (.release _) rfl)
  | cancelDirect task operation isCancelled found =>
      exact (quiet_of_task (.direct operation true) found rfl).moves

end System

end CertRenewal
