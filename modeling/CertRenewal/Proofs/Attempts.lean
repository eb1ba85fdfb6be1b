import CertRenewal.Proofs.Filing

/-!
The operations that are in hand. An event takes one of them a step further, and the
store and the refreshes of the issuer with it, or it leaves all of these alone.
-/

namespace CertRenewal

namespace Issuer

/-- The refreshes that were asked for, each with its key and its features, in order. -/
def refreshes (issuer : Issuer) : List (Bytes × Option Features) :=
  issuer.calls.reverse.filterMap fun call =>
    match call with
    | .refresh publicKey features => some (publicKey, features)
    | .session _ => none

theorem refreshes_begin_refresh (issuer : Issuer) (publicKey : Bytes)
    (features : Option Features) : (issuer.beginRefresh publicKey features).refreshes =
      issuer.refreshes ++ [(publicKey, features)] := by
  simp [refreshes, beginRefresh]

theorem refreshes_begin_session (issuer : Issuer) (session : Session) :
    (issuer.beginSession session).refreshes = issuer.refreshes := by
  simp [refreshes, beginSession]

theorem refreshes_end_refresh (issuer : Issuer) (now : Instant) :
    (issuer.endRefresh now).2.refreshes = issuer.refreshes := by
  unfold endRefresh
  split <;> rfl

theorem refreshes_end_session (issuer : Issuer) :
    issuer.endSession.2.refreshes = issuer.refreshes := by
  unfold endSession
  split <;> rfl

end Issuer

def Stage.outcome? : Stage → Option Outcome
  | ended outcome => some outcome
  | _ => none

namespace System

/-- An operation that a worker serves, or that is run outside of the queue. -/
def Engaged (system : System) (operation : Operation) : Prop :=
  (∃ lane id, readLane Lane.current none system.lanes lane = some (id, operation)) ∨
    ∃ (task : TaskId) (isCancelled : Bool),
      system.tasks[task]? = some (.direct operation isCancelled)

/-- The outcome of an operation, once there is one. In the queue it is the answer to
the request. -/
def outcome? (system : System) (task : TaskId) : Option RequestId → Option Outcome
  | some id => system.answer? id
  | none =>
    match system.tasks[task]? with
    | some (.direct operation _) => operation.stage.outcome?
    | _ => none

/-- Neither the store, nor the refreshes of the issuer, nor an operation is touched. -/
structure Aloof (system next : System) : Prop where
  store : next.store = system.store
  refreshes : next.issuer.refreshes = system.issuer.refreshes
  load : next.issuer.inFlight = system.issuer.inFlight
  current : ∀ lane,
    readLane Lane.current none next.lanes lane = readLane Lane.current none system.lanes lane
  direct : ∀ (task : TaskId) (operation : Operation) (isCancelled : Bool),
    next.tasks[task]? = some (.direct operation isCancelled) → operation.stage = .created ∨
      ∃ before, system.tasks[task]? = some (.direct operation before)

/-- What an event comes to for the operations that are in hand. -/
inductive Course (system : System) (event : Event) (next : System) : Prop
  | attempt (task : TaskId) (who : Option RequestId) (operation after : Operation)
      (isCancelled : Bool) (moved : System) (own : event = .step task)
      (busy : system.attempt? task = some (who, operation))
      (step : OperationStep system task isCancelled operation moved after)
      (store : next.store = moved.store) (issuer : next.issuer = moved.issuer)
      (settled : ∀ outcome, after.stage = .ended outcome →
        next.outcome? task who = some outcome)
      (engaged : ∀ other, next.Engaged other → system.Engaged other ∨ other = after)
  | aside (idle : ∀ task who operation, event = .step task →
        system.attempt? task = some (who, operation) → operation.stage ≠ .concluding)
      (store : next.store = system.store ∨
        event = .readKeys ∧ next.store = system.store.keys.2)
      (refreshes : next.issuer.refreshes = system.issuer.refreshes)
      (load : next.issuer.inFlight = system.issuer.inFlight)
      (engaged : ∀ other, next.Engaged other →
        system.Engaged other ∨ other.stage = .created)

variable {system next moved last : System} {event : Event} {task : TaskId}

theorem engaged_of_attempt {who : Option RequestId} {operation : Operation}
    (busy : system.attempt? task = some (who, operation)) : system.Engaged operation := by
  cases who with
  | some id =>
      obtain ⟨lane, held, worker, found, current⟩ := worker_of_attempt busy
      exact .inl ⟨lane, id, by rw [read_lane_found found, current]⟩
  | none =>
      obtain ⟨isCancelled, found⟩ := direct_of_attempt busy
      exact .inr ⟨task, isCancelled, found⟩

/-- An operation in a refresh accounts for the one that is in flight. -/
theorem Sound.engaged_busy (sound : system.Sound) {operation : Operation}
    (engaged : system.Engaged operation) (refreshing : operation.stage.role.isRefreshing = true) :
    system.issuer.inFlight = 1 := by
  rcases engaged with ⟨lane, id, current⟩ | ⟨task, isCancelled, found⟩
  · cases found : system.lanes[lane]? with
    | none =>
        rw [read_lane_missing found] at current
        cases current
    | some held =>
        rw [read_lane_found found] at current
        have bound := (List.getElem?_eq_some_iff.mp found).1
        obtain ⟨task, worker⟩ := (sound.crewed.worker_iff lane).mpr bound
        apply sound.busy task
        rw [role_found worker]
        simpa [Task.role, laneRole, read_lane_found found, Lane.role, current] using refreshing
  · apply sound.busy task
    rw [role_found found]
    exact refreshing

theorem Aloof.trans (first : Aloof system next) (second : Aloof next last) :
    Aloof system last where
  store := second.store.trans first.store
  refreshes := second.refreshes.trans first.refreshes
  load := second.load.trans first.load
  current lane := (second.current lane).trans (first.current lane)
  direct task operation isCancelled found := by
    rcases second.direct task operation isCancelled found with created | ⟨before, earlier⟩
    · exact .inl created
    · exact first.direct task operation before earlier

theorem Aloof.engaged (aloof : Aloof system next) {operation : Operation}
    (engaged : next.Engaged operation) :
    system.Engaged operation ∨ operation.stage = .created := by
  rcases engaged with ⟨lane, id, current⟩ | ⟨task, isCancelled, found⟩
  · rw [aloof.current] at current
    exact .inl (.inl ⟨lane, id, current⟩)
  · rcases aloof.direct task operation isCancelled found with created | ⟨before, earlier⟩
    · exact .inr created
    · exact .inl (.inr ⟨task, before, earlier⟩)

theorem aloof_of_same (store : next.store = system.store)
    (refreshes : next.issuer.refreshes = system.issuer.refreshes)
    (load : next.issuer.inFlight = system.issuer.inFlight)
    (current : ∀ lane,
      readLane Lane.current none next.lanes lane = readLane Lane.current none system.lanes lane)
    (tasks : next.tasks = system.tasks) : Aloof system next where
  store := store
  refreshes := refreshes
  load := load
  current := current
  direct task operation isCancelled found := .inr ⟨isCancelled, by rw [← tasks, found]⟩

theorem aloof_of_append (added : List Task) (store : next.store = system.store)
    (refreshes : next.issuer.refreshes = system.issuer.refreshes)
    (load : next.issuer.inFlight = system.issuer.inFlight)
    (current : ∀ lane,
      readLane Lane.current none next.lanes lane = readLane Lane.current none system.lanes lane)
    (tasks : next.tasks = system.tasks ++ added)
    (created : ∀ operation isCancelled, .direct operation isCancelled ∈ added →
      operation.stage = .created) : Aloof system next where
  store := store
  refreshes := refreshes
  load := load
  current := current
  direct task operation isCancelled found := by
    rw [tasks, List.getElem?_append] at found
    split at found
    · exact .inr ⟨isCancelled, found⟩
    · exact .inl (created operation isCancelled (List.mem_of_getElem? found))

/-- A task that runs no operation may move in between. -/
theorem Aloof.set_task (aloof : Aloof system moved) (new : Task)
    (other : ∀ operation isCancelled, new ≠ .direct operation isCancelled) :
    Aloof system (moved.setTask task new) where
  store := aloof.store
  refreshes := aloof.refreshes
  load := aloof.load
  current := aloof.current
  direct place operation isCancelled found := by
    by_cases itself : place = task
    · subst itself
      unfold setTask at found
      rw [List.getElem?_set_self'] at found
      cases there : moved.tasks[place]? with
      | none => simp [there] at found
      | some old => simp [there, other] at found
    · rw [set_task_other moved new itself] at found
      exact aloof.direct place operation isCancelled found

theorem aloof_submit (system : System) (request : Request) (listens : Bool) :
    Aloof system (system.submit request listens) := by
  cases isOpen : system.openLane with
  | none =>
      rw [submit_closed isOpen]
      exact aloof_of_same rfl rfl rfl (fun _ => rfl) rfl
  | some lane =>
      rw [submit_open isOpen]
      exact aloof_of_same rfl rfl rfl (read_lane_modify_same _ fun _ => rfl) rfl

theorem aloof_open_queue (system : System) : Aloof system system.openQueue := by
  cases isOpen : system.openLane with
  | some lane =>
      rw [open_queue_open isOpen]
      exact aloof_of_same rfl rfl rfl (fun _ => rfl) rfl
  | none =>
      rw [open_queue_closed isOpen]
      refine aloof_of_append [.worker system.lanes.length] rfl rfl rfl
        (read_lane_append _ rfl) rfl ?_
      intro operation isCancelled member
      simp at member

theorem aloof_arm (system : System) : Aloof system system.arm := by
  obtain ⟨added, tickers, frame⟩ := arm_frame system
  rw [frame]
  refine aloof_of_append added rfl rfl rfl (fun _ => rfl) rfl ?_
  intro operation isCancelled member
  obtain ⟨schedule, alarm, same⟩ := tickers _ member
  cases same

theorem aloof_start_up (system : System) : Aloof system system.startUp := by
  unfold startUp
  split
  · exact aloof_of_same rfl rfl rfl (fun _ => rfl) rfl
  · have opened := (aloof_open_queue system).trans (aloof_arm system.openQueue)
    exact opened.trans (aloof_of_same rfl rfl rfl (fun _ => rfl) rfl)

theorem aloof_disarm_armed (system : System) : Aloof system system.disarmArmed := by
  rw [disarm_armed_frame]
  exact aloof_of_same rfl rfl rfl (fun _ => rfl) rfl

theorem aloof_shut_lane (system : System) (lane : LaneId) :
    Aloof system (system.shutLane lane) :=
  aloof_of_same rfl rfl rfl (read_lane_modify_same _ fun _ => rfl) rfl

theorem ForkStep.aloof {session : Session} {stage after : ForkStage}
    (step : ForkStep system task session stage moved after) : Aloof system moved := by
  cases step with
  | call =>
      exact aloof_of_same rfl (Issuer.refreshes_begin_session _ _) rfl (fun _ => rfl) rfl
  | fail failure refused =>
      exact aloof_of_same rfl (Issuer.refreshes_end_session _) (end_session_load _).1
        (fun _ => rfl) rfl
  | succeed accepted =>
      exact aloof_of_same rfl (Issuer.refreshes_end_session _) (end_session_load _).1
        (fun _ => rfl) rfl
  | submit => exact aloof_submit system _ _
  | _ => exact aloof_of_same rfl rfl rfl (fun _ => rfl) rfl

theorem StopStep.aloof {stage after : StopStage}
    (step : StopStep system task stage moved after) : Aloof system moved := by
  cases step with
  | shut schedule lane armed isOpen =>
      exact (aloof_disarm_armed system).trans (aloof_shut_lane _ lane)
  | closed schedule armed isClosed =>
      exact (aloof_disarm_armed system).trans (aloof_of_same rfl rfl rfl (fun _ => rfl) rfl)
  | _ => exact aloof_of_same rfl rfl rfl (fun _ => rfl) rfl

/-- An event that leaves the operations alone. -/
theorem Course.of_aloof (idle : ∀ task who operation, event = .step task →
      system.attempt? task = some (who, operation) → operation.stage ≠ .concluding)
    (aloof : Aloof system next) : Course system event next :=
  .aside idle (.inl aloof.store) aloof.refreshes aloof.load fun _ => aloof.engaged

theorem Course.of_host (host : ∀ task, event ≠ .step task) (aloof : Aloof system next) :
    Course system event next :=
  .of_aloof (fun task _ _ own _ => absurd own (host task)) aloof

/-- A new record of one lane brings at most its own operation in. -/
theorem engaged_of_set_lane {lane : LaneId} {held new : Lane} {operation : Operation}
    (engaged : next.Engaged operation) (found : system.lanes[lane]? = some held)
    (lanes : next.lanes = system.lanes.set lane new) (tasks : next.tasks = system.tasks) :
    system.Engaged operation ∨ ∃ id, new.current = some (id, operation) := by
  rcases engaged with ⟨place, id, running⟩ | ⟨task, isCancelled, direct⟩
  · rw [lanes, read_lane_set _ found] at running
    split at running
    · exact .inr ⟨id, running⟩
    · exact .inl (.inl ⟨place, id, running⟩)
  · rw [tasks] at direct
    exact .inl (.inr ⟨task, isCancelled, direct⟩)

theorem WorkerStep.course {lane : LaneId} (worker : system.tasks[task]? = some (.worker lane))
    (step : WorkerStep system task lane next) : Course system (.step task) next := by
  have unoccupied {held : Lane} (found : system.lanes[lane]? = some held)
      (idle : held.current = none) : system.attempt? task = none := by
    simp [attempt?, worker, found, idle]
  cases step with
  | carry held id operation after moved found current moves going =>
      have frame := moves.frame
      refine .attempt task _ operation after held.isShut moved rfl
        (attempt_of_worker worker found current) moves rfl rfl
        (fun outcome ended => absurd ended (going outcome)) fun other engaged => ?_
      rcases engaged_of_set_lane engaged found (by rw [frame]; rfl) (by rw [frame]; rfl) with
        before | ⟨_, same⟩
      · exact .inl before
      · exact .inr (Prod.mk.inj (Option.some.inj same)).2.symm
  | deliver held id operation after moved outcome found current moves ended =>
      have frame := moves.frame
      refine .attempt task _ operation after held.isShut moved rfl
        (attempt_of_worker worker found current) moves rfl rfl (fun other same => ?_)
        fun other engaged => ?_
      · obtain rfl : outcome = other := Stage.ended.inj (ended.symm.trans same)
        simp [outcome?, answer?, answer]
      · rcases engaged_of_set_lane engaged found (by rw [frame]; rfl) (by rw [frame]; rfl) with
          before | ⟨_, none⟩
        · exact .inl before
        · cases none
  | takeUp held queued rest found idle waiting =>
      refine .aside (fun other who operation own busy => ?_) (.inl rfl) rfl rfl
        fun other engaged => ?_
      · cases own
        rw [unoccupied found idle] at busy
        cases busy
      · rcases engaged_of_set_lane engaged found rfl rfl with before | ⟨_, same⟩
        · exact .inl before
        · obtain ⟨-, rfl⟩ := Prod.mk.inj (Option.some.inj same)
          exact .inr rfl
  | drain held found idle empty shut undrained =>
      refine .of_aloof (fun other who operation own busy => ?_)
        (aloof_of_same rfl rfl rfl (read_lane_set_same found rfl) rfl)
      cases own
      rw [unoccupied found idle] at busy
      cases busy

theorem TaskStep.course (step : TaskStep system task next) :
    Course system (.step task) next := by
  have unbusy {kind : Task} (found : system.tasks[task]? = some kind)
      (idle : system.attempt? task = none) (other : TaskId) (who : Option RequestId)
      (operation : Operation) (own : Event.step task = .step other)
      (busy : system.attempt? other = some (who, operation)) : operation.stage ≠ .concluding := by
    cases own
    rw [idle] at busy
    cases busy
  cases step with
  | worker lane next found step => exact step.course found
  | direct operation after isCancelled moved found step =>
      have frame := step.frame
      have there : moved.tasks[task]? = some (.direct operation isCancelled) := by
        rw [frame]
        exact found
      refine .attempt task none operation after isCancelled moved rfl (by simp [attempt?, found])
        step rfl rfl (fun outcome ended => ?_) ?_
      · simp [outcome?, set_task_itself _ there, ended, Stage.outcome?]
      · intro other engaged
        rcases engaged with ⟨lane, id, current⟩ | ⟨place, cancelled, direct⟩
        · rw [frame] at current
          exact .inl (.inl ⟨lane, id, current⟩)
        · by_cases itself : place = task
          · subst itself
            rw [set_task_itself _ there, Option.some.injEq, Task.direct.injEq] at direct
            exact .inr direct.1.symm
          · rw [set_task_other moved _ itself, frame] at direct
            exact .inl (.inr ⟨place, cancelled, direct⟩)
  | holder stage after moved found step =>
      have aloof : Aloof system moved := by
        cases step <;> exact aloof_of_same rfl rfl rfl (fun _ => rfl) rfl
      exact .of_aloof (unbusy found (by simp [attempt?, found]))
        (aloof.set_task (.holder after) fun _ _ same => by cases same)
  | fork session stage after moved found step =>
      exact .of_aloof (unbusy found (by simp [attempt?, found]))
        (step.aloof.set_task (.fork session after) fun _ _ same => by cases same)
  | start stage after moved found step =>
      have aloof : Aloof system moved := by
        cases step with
        | «open» =>
            exact (aloof_start_up system).trans (aloof_of_same rfl rfl rfl (fun _ => rfl) rfl)
        | _ => exact aloof_of_same rfl rfl rfl (fun _ => rfl) rfl
      exact .of_aloof (unbusy found (by simp [attempt?, found]))
        (aloof.set_task (.start after) fun _ _ same => by cases same)
  | stop stage after moved found step =>
      exact .of_aloof (unbusy found (by simp [attempt?, found]))
        (step.aloof.set_task (.stop after) fun _ _ same => by cases same)
  | close stage after moved found step =>
      have aloof : Aloof system moved := by
        cases step with
        | shut lane isOpen => exact aloof_shut_lane system lane
        | _ => exact aloof_of_same rfl rfl rfl (fun _ => rfl) rfl
      exact .of_aloof (unbusy found (by simp [attempt?, found]))
        (aloof.set_task (.close after) fun _ _ same => by cases same)
  | ticker schedule alarm after moved found step =>
      have aloof : Aloof system moved := by
        cases step with
        | retire => exact aloof_of_same rfl rfl rfl (fun _ => rfl) rfl
        | tick =>
            exact (aloof_submit system _ _).trans (aloof_of_same rfl rfl rfl (fun _ => rfl) rfl)
      exact .of_aloof (unbusy found (by simp [attempt?, found]))
        (aloof.set_task (.ticker schedule after) fun _ _ same => by cases same)

theorem aloof_fire (system : System) : Aloof system system.fire :=
  fire_invariant (fun next aloof => aloof.trans (aloof_submit next _ _))
    (aloof_of_same rfl rfl rfl (fun _ => rfl) rfl)

theorem Begun.direct_created {kind : Task} (begun : Begun event kind) {operation : Operation}
    {isCancelled : Bool} (same : kind = .direct operation isCancelled) :
    operation.stage = .created := by
  cases begun with
  | direct request => cases same; rfl
  | _ => cases same

theorem apply_course (system : System) (event : Event) (untouched : event.leavesStore = true) :
    Course system event (system.apply event) := by
  have still : Aloof system system := aloof_of_same rfl rfl rfl (fun _ => rfl) rfl
  have spawned {kind : Task} (begun : Begun event kind) : Aloof system (system.spawn kind) := by
    refine aloof_of_append [kind] rfl rfl rfl (fun _ => rfl) rfl ?_
    intro operation isCancelled member
    exact begun.direct_created (List.mem_singleton.mp member).symm
  cases event with
  | step task =>
      cases stepped : system.step task with
      | none =>
          simp only [apply, stepped, Option.getD_none]
          refine .of_aloof (fun other who operation own busy => ?_) still
          cases own
          exact not_concluding_of_stuck stepped busy
      | some next =>
          simp only [apply, stepped, Option.getD_some]
          exact (step_cases stepped).course
  | start => exact .of_host (by simp) (spawned .start)
  | stop => exact .of_host (by simp) (spawned .stop)
  | newSession session => exact .of_host (by simp) (spawned (.session session))
  | fork session => exact .of_host (by simp) (spawned (.fork session))
  | closeQueue => exact .of_host (by simp) (spawned .close)
  | direct request isCancelled => exact .of_host (by simp) (spawned (.direct request isCancelled))
  | hold timeout => exact .of_host (by simp) (spawned (.holder timeout))
  | submit request listens => exact .of_host (by simp) (aloof_submit system request listens)
  | openQueue => exact .of_host (by simp) (aloof_open_queue system)
  | fire => exact .of_host (by simp) (aloof_fire system)
  | arm => exact .of_host (by simp) ((aloof_disarm_armed system).trans (aloof_arm _))
  | disarm => exact .of_host (by simp) (aloof_disarm_armed system)
  | cancelSchedule =>
      refine .of_host (by simp) ?_
      simp only [apply, cancelArmed]
      split
      · exact aloof_of_same rfl rfl rfl (fun _ => rfl) rfl
      · exact still
  | cancelDirect task =>
      refine .of_host (by simp) ?_
      simp only [apply, cancelDirect]
      split
      · rename_i operation isCancelled found
        refine ⟨rfl, rfl, rfl, fun _ => rfl, fun place other cancelled direct => .inr ?_⟩
        by_cases itself : place = task
        · subst itself
          rw [set_task_itself _ found, Option.some.injEq, Task.direct.injEq] at direct
          exact ⟨isCancelled, by rw [found, direct.1]⟩
        · rw [set_task_other system _ itself] at direct
          exact ⟨cancelled, direct⟩
      · exact still
  | tryHold =>
      refine .of_host (by simp) ?_
      simp only [apply, tryHold]
      split
      · refine aloof_of_append [.holder .holding] rfl rfl rfl (fun _ => rfl) rfl ?_
        intro operation isCancelled member
        simp at member
      · exact still
  | release task =>
      refine .of_host (by simp) ?_
      simp only [apply, releaseHeld]
      split
      · have released : Aloof system (system.releaseToken task) :=
          aloof_of_same rfl rfl rfl (fun _ => rfl) rfl
        exact released.set_task (.holder .released) fun _ _ same => by cases same
      · exact still
  | readKeys =>
      exact .aside (fun task _ _ own => by cases own) (.inr ⟨rfl, rfl⟩) rfl rfl
        fun _ engaged => .inl engaged
  | storeCertificate certificate features => cases untouched
  | storeKeys keys => cases untouched
  | deleteKeys => cases untouched
  | deleteCertificate => cases untouched
  | _ => exact .of_host (by simp) (aloof_of_same rfl rfl rfl (fun _ => rfl) rfl)

end System

end CertRenewal
