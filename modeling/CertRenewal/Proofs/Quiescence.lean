import CertRenewal.Proofs.Draining
import CertRenewal.Proofs.Recorded
import CertRenewal.Proofs.Tasks

/-!
Nothing gets stuck. When no task can move but those in a call of the issuer, everything
that is not finished waits for such a call: the token is with its caller, the requests
and the sessions wait for it, and so does the lane that a call to stop drains.
-/

namespace CertRenewal

/-- Whether the host leaves the token and the operations to the program, and the queue
and the schedule to the calls that start and stop it. -/
def Event.isCoordinated : Event → Bool
  | .direct _ _ => false
  | .hold _ => false
  | .tryHold => false
  | event => event.isManaged

namespace System

/-- No task but those of the program takes the token. -/
def Coordinated (system : System) : Prop :=
  system.TasksPass fun kind => kind != .direct && kind != .holder

variable {system next moved : System} {event : Event} {task : TaskId} {lane : LaneId}

theorem Coordinated.apply (coordinated : system.Coordinated)
    (allowed : event.isCoordinated = true) : (system.apply event).Coordinated := by
  refine TasksPass.apply coordinated (fun task begun => ?_) (fun taken => ?_) rfl rfl
  · cases begun with
    | direct request isCancelled => cases allowed
    | holder timeout => cases allowed
    | _ => rfl
  · subst taken
    cases allowed

/-- A session that waits for a request waits for one that was submitted and is forced. -/
def Awaits (system : System) : Prop :=
  ∀ (task : TaskId) (session : Session) (id : RequestId),
    system.tasks[task]? = some (.fork session (.awaiting id)) → id < system.submitted ∧
      ∀ lane, ∀ queued ∈ system.traffic.requestsOf lane, queued.id = id →
        queued.request.forced = true

theorem Awaits.apply (awaits : system.Awaits) (reached : system.Reached) (event : Event) :
    (system.apply event).Awaits := by
  intro task session id found
  have bears : (system.apply event).Bears id (·.forced = true) := by
    cases apply_comes system event found with
    | stay kind before =>
        obtain ⟨known, forced⟩ := awaits task session id before
        exact Bears.apply ⟨known, forced⟩ reached.kept event
    | begin kind begun => cases begun
    | move old new before alike other => exact absurd rfl other
    | fork session before after moved own there step applied =>
        cases step with
        | submit =>
            have bears := @submit_bears _ (·.forced = true) reached.placed
              (.afterSession system.store.features) false rfl
            rw [applied]
            exact ⟨bears.known, bears.same⟩
  exact ⟨bears.known, bears.same⟩

/-- What holds between any two events of a program that a host leaves to itself. -/
structure Orderly (system : System) : Prop where
  reached : system.Reached
  inside : system.Coordinated
  awaits : system.Awaits

theorem managed_of_coordinated (allowed : event.isCoordinated = true) :
    event.isManaged = true := by
  cases event <;> first | rfl | exact allowed

theorem Orderly.apply (orderly : system.Orderly) (allowed : event.isCoordinated = true) :
    (system.apply event).Orderly where
  reached := orderly.reached.apply event (managed_of_coordinated allowed)
  inside := orderly.inside.apply allowed
  awaits := orderly.awaits.apply orderly.reached event

theorem run_orderly (outset : Outset) (events : List Event)
    (allowed : ∀ event ∈ events, event.isCoordinated = true) :
    (outset.system.run events).Orderly :=
  run_invariant_of (fun _ _ allowed orderly => orderly.apply allowed)
    ⟨outset_reached outset, fun _ _ found => (nomatch found), fun _ _ _ found => (nomatch found)⟩
    events allowed

/-- Nothing can move but what is in a call of the issuer. -/
def Quiescent (system : System) : Prop :=
  ∀ task < system.tasks.length, system.canStep task = true → task ∈ system.callers

instance (system : System) : Decidable system.Quiescent :=
  inferInstanceAs (Decidable (∀ task < system.tasks.length, _ → _))

/-- The token is held by a task in a call of the issuer. -/
def TokenInCall (system : System) : Prop :=
  ∃ task ∈ system.callers, system.token.place = .held task

/-- The operation that a lane serves is in its refresh. -/
def LaneInCall (system : System) (lane : LaneId) : Prop :=
  ∃ (held : Lane) (id : RequestId) (operation : Operation), system.lanes[lane]? = some held ∧
    held.current = some (id, operation) ∧ operation.stage.role = .refreshing

/-- A call to stop has the control token, and the lane that it cancelled is in its
refresh. -/
def StopInCall (system : System) (task : TaskId) : Prop :=
  ∃ lane, system.tasks[task]? = some (.stop (.draining lane)) ∧
    system.control.place = .held task ∧ system.LaneInCall lane

theorem Quiescent.caller (quiet : system.Quiescent) (steps : system.canStep task = true) :
    task ∈ system.callers := by
  refine quiet task ?_ steps
  by_contra outside
  have absent : system.tasks[task]? = none := List.getElem?_eq_none (Nat.le_of_not_lt outside)
  simp [canStep, step, absent] at steps

theorem Quiescent.stuck (quiet : system.Quiescent)
    (outside : (system.role task).isCalling = false) : system.step task = none := by
  cases moves : system.step task with
  | none => rfl
  | some next =>
      have caller := quiet.caller (by rw [canStep, moves]; rfl)
      rw [(mem_tasks_with rfl).mp caller] at outside
      cases outside

theorem operation_stuck {isCancelled : Bool} {operation : Operation}
    (stuck : system.stepOperation task isCancelled operation = none) :
    operation.stage.role ≠ .holding ∧
      (operation.stage.role = .standing → system.token.place ≠ .granted task) := by
  have rule := step_operation_none stuck
  cases stage : operation.stage with
  | waiting alarm =>
      rw [stage] at rule
      exact ⟨by simp [Stage.role], fun _ => rule.2.1⟩
  | admitted =>
      rw [stage] at rule
      exact rule.elim
  | _ => simp [Stage.role]

theorem fork_stuck {session : Session} {stage : ForkStage}
    (stuck : system.stepFork task session stage = none) :
    stage.role ≠ .holding ∧ (stage.role = .standing → system.token.place ≠ .granted task) := by
  have waits := step_fork_none stuck
  cases stage with
  | waiting alarm => exact ⟨by simp [ForkStage.role], fun _ => waits.1⟩
  | admitted => cases waits
  | _ => simp [ForkStage.role]

/-- A task that cannot move has not got the token without a call, nor was it granted
the token. -/
theorem stuck_role (inside : system.Coordinated) (stuck : system.step task = none) :
    system.role task ≠ .holding ∧
      (system.role task = .standing → system.token.place ≠ .granted task) := by
  cases found : system.tasks[task]? with
  | none => simp [role_absent found]
  | some kind =>
      rw [role_found found]
      cases kind with
      | worker lane =>
          have stopped : system.stepWorker task lane = none := by
            simpa [step, found] using stuck
          cases there : system.lanes[lane]? with
          | none =>
              have idle : laneRole system.lanes lane = .idle := read_lane_missing there
              simp [Task.role, idle]
          | some held =>
              have same : laneRole system.lanes lane = held.role := read_lane_found there
              rw [Task.role, same, Lane.role]
              cases current : held.current with
              | none => simp
              | some entry =>
                  obtain ⟨id, operation⟩ := entry
                  have waits : system.stepOperation task held.isShut operation = none := by
                    simpa [stepWorker, there, current] using stopped
                  exact operation_stuck waits
      | fork session stage => exact fork_stuck (by simpa [step, found] using stuck)
      | direct operation isCancelled => cases inside task _ found
      | holder stage => cases inside task _ found
      | _ => simp [Task.role]

/-- The token is with a task in a call, if it is with anybody. -/
theorem Orderly.owner_calls (orderly : system.Orderly) (quiet : system.Quiescent)
    (owns : system.token.owner? = some task) :
    system.token.place = .held task ∧ task ∈ system.callers := by
  have fits := orderly.reached.sound.fits
  have calling : (system.role task).isCalling = true := by
    rw [← Bool.not_eq_false]
    intro outside
    obtain ⟨unheld, ungranted⟩ := stuck_role orderly.inside (quiet.stuck outside)
    unfold Token.owner? at owns
    cases place : system.token.place with
    | free => simp [place] at owns
    | granted owner =>
        simp only [place, Option.some.injEq] at owns
        subst owns
        have stands : system.stake owner = .standing :=
          (fits.standing owner).mpr (by simp [Token.standing, place])
        exact ungranted (Role.standing_of_stake stands) place
    | held owner =>
        simp only [place, Option.some.injEq] at owns
        subst owns
        have holds : system.stake owner = .holding := (fits.holding owner).mpr place
        unfold stake at holds
        cases role : system.role owner with
        | holding => exact unheld role
        | refreshing => rw [role] at outside; cases outside
        | starting => rw [role] at outside; cases outside
        | idle => rw [role] at holds; cases holds
        | standing => rw [role] at holds; cases holds
  have caller : task ∈ system.callers := (mem_tasks_with rfl).mpr calling
  exact ⟨orderly.reached.sound.caller_holds caller, caller⟩

/-- Whoever waits for the token waits for a call of the issuer. -/
theorem Orderly.standing_waits (orderly : system.Orderly) (quiet : system.Quiescent)
    (stands : system.role task = .standing) : system.TokenInCall := by
  have fits := orderly.reached.sound.fits
  have waits : task ∈ system.token.standing :=
    (fits.standing task).mp (by unfold stake; rw [stands]; rfl)
  have taken : system.token.owner?.isSome = true := by
    unfold Token.owner?
    cases place : system.token.place with
    | free =>
        simp only [Token.standing, place, fits.empty place] at waits
        cases waits
    | granted owner => rfl
    | held owner => rfl
  obtain ⟨owner, owns⟩ := Option.isSome_iff_exists.mp taken
  obtain ⟨held, caller⟩ := orderly.owner_calls quiet owns
  exact ⟨owner, caller, held⟩

/-- A caller of the issuer is a worker or starts a session. -/
theorem Orderly.caller_kind (orderly : system.Orderly) (caller : task ∈ system.callers) :
    (∃ lane, system.tasks[task]? = some (.worker lane)) ∨
      ∃ session stage, system.tasks[task]? = some (.fork session stage) := by
  have calling : (system.role task).isCalling = true := (mem_tasks_with rfl).mp caller
  cases found : system.tasks[task]? with
  | none =>
      rw [role_absent found] at calling
      cases calling
  | some kind =>
      cases kind with
      | worker lane => exact .inl ⟨lane, rfl⟩
      | fork session stage => exact .inr ⟨session, stage, rfl⟩
      | direct operation isCancelled => cases orderly.inside task _ found
      | holder stage => cases orderly.inside task _ found
      | _ =>
          rw [role_found found] at calling
          cases calling

theorem stage_calling {stage : Stage} (calling : stage.role.isCalling = true) :
    stage.role = .refreshing := by
  cases stage <;> first | rfl | cases calling

theorem worker_role {held : Lane} (worker : system.tasks[task]? = some (.worker lane))
    (found : system.lanes[lane]? = some held) : system.role task = held.role := by
  rw [role_found worker]
  exact read_lane_found found

/-- A lane that has requests serves one of them, which is in its refresh or waits for a
call of somebody else. -/
theorem Orderly.lane_waits (orderly : system.Orderly) (quiet : system.Quiescent) {held : Lane}
    (found : system.lanes[lane]? = some held) (pending : held.pending ≠ []) :
    ∃ id operation, held.current = some (id, operation) ∧
      (operation.stage.role = .refreshing ∨ held.isShut = false ∧
        (∃ alarm, operation.stage = .waiting alarm) ∧ system.TokenInCall) := by
  have reached := orderly.reached
  obtain ⟨task, worker, moves⟩ := lane_goes_on reached.sound.crewed reached.kept found pending
  have role := worker_role worker found
  rcases moves with steps | ⟨id, operation, current, waits⟩
  · have calling : (system.role task).isCalling = true :=
      (mem_tasks_with rfl).mp (quiet.caller steps)
    rw [role, Lane.role] at calling
    cases current : held.current with
    | none =>
        rw [current] at calling
        cases calling
    | some entry =>
        rw [current] at calling
        exact ⟨entry.1, entry.2, rfl, .inl (stage_calling calling)⟩
  · refine ⟨id, operation, current, ?_⟩
    have same : system.role task = operation.stage.role := by
      rw [role, Lane.role, current]
    cases stage : operation.stage with
    | waiting alarm =>
        rw [stage] at waits same
        exact .inr ⟨waits.1, ⟨alarm, rfl⟩, orderly.standing_waits quiet same⟩
    | atGate => exact .inl rfl
    | busy alarm => exact .inl rfl
    | _ =>
        rw [stage] at waits
        exact waits.elim

/-- A request that has no answer yet is in a lane. -/
theorem Orderly.request_waits (orderly : system.Orderly) (quiet : system.Quiescent)
    {id : RequestId} (submitted : id < system.submitted)
    (unanswered : id ∉ system.answers.map (·.1)) :
    ∃ (lane : LaneId) (held : Lane) (running : RequestId) (operation : Operation),
      system.lanes[lane]? = some held ∧ id ∈ held.pending ∧
      held.current = some (running, operation) ∧ (operation.stage.role = .refreshing ∨
        (∃ alarm, operation.stage = .waiting alarm) ∧ system.TokenInCall) := by
  obtain ⟨lane, held, found, waits⟩ :=
    (answered_or_pending orderly.reached.placed submitted).resolve_left unanswered
  obtain ⟨running, operation, current, state⟩ :=
    orderly.lane_waits quiet found (List.ne_nil_of_mem waits)
  exact ⟨lane, held, running, operation, found, waits, current, state.imp_right And.right⟩

/-- A call to stop that waits for a lane has cancelled one that is in its refresh. -/
theorem Orderly.stop_waits (orderly : system.Orderly) (quiet : system.Quiescent)
    (found : system.tasks[task]? = some (.stop (.draining lane))) : system.StopInCall task := by
  have managed := orderly.reached.managed
  have called : system.helm.call task = .stop (.draining lane) := call_found found
  have holds : system.helm.stake task = .holding := Helm.stake_found called
  have stuck := @Quiescent.stuck _ task quiet (by rw [role_found found]; rfl)
  have undrained : system.isDrained lane = false := by
    rw [Bool.eq_false_iff]
    intro drained
    simp [step, found, stepStop, drained] at stuck
  unfold isDrained at undrained
  split at undrained
  · rename_i held there
    have shut : held.isShut = true := by
      by_contra unshut
      have serves : system.helm.lanes[lane]? = some .serving := by
        simp [helm, there, Lane.phase, undrained, unshut]
      have closed := managed.draining task lane called
      rw [(managed.serving lane).mp serves] at closed
      cases closed
    have pending : held.pending ≠ [] := by
      intro empty
      obtain ⟨waiting, idle⟩ : held.waiting = [] ∧ held.current = none := by
        simpa [Lane.pending, Lane.served, and_comm] using empty
      obtain ⟨worker, serves⟩ := (orderly.reached.sound.crewed.worker_iff lane).mpr
        (List.getElem?_eq_some_iff.mp there).1
      have outside : (system.role worker).isCalling = false := by
        rw [worker_role serves there, Lane.role, idle]
        rfl
      have stuck := quiet.stuck outside
      simp [step, serves, stepWorker, there, idle, waiting, shut, undrained] at stuck
    obtain ⟨id, operation, current, flies | ⟨unshut, -⟩⟩ := orderly.lane_waits quiet there pending
    · exact ⟨lane, found, (managed.fits.holding task).mp holds, held, id, operation, there,
        current, flies⟩
    · rw [shut] at unshut
      cases unshut
  · cases undrained

theorem task_of_call {call : Call} (called : system.helm.call task = call)
    (busy : call ≠ .other) : ∃ kind, system.tasks[task]? = some kind ∧ kind.call = call := by
  have same : system.call task = call := called
  cases found : system.tasks[task]? with
  | none =>
      unfold System.call at same
      rw [found] at same
      exact absurd same.symm busy
  | some kind => exact ⟨kind, rfl, (call_found found).symm.trans same⟩

theorem start_of_call {stage : StartStage} (called : system.helm.call task = .start stage) :
    system.tasks[task]? = some (.start stage) := by
  obtain ⟨kind, found, same⟩ := task_of_call called (by simp)
  cases kind <;> cases same
  exact found

theorem stop_of_call {stage : StopStage} (called : system.helm.call task = .stop stage) :
    system.tasks[task]? = some (.stop stage) := by
  obtain ⟨kind, found, same⟩ := task_of_call called (by simp)
  cases kind <;> cases same
  exact found

theorem stuck_start {stage : StartStage} (quiet : system.Quiescent)
    (found : system.tasks[task]? = some (.start stage)) : system.stepStart task stage = none := by
  have stuck := @Quiescent.stuck _ task quiet (by rw [role_found found]; rfl)
  simpa [step, found] using stuck

theorem stuck_stop {stage : StopStage} (quiet : system.Quiescent)
    (found : system.tasks[task]? = some (.stop stage)) : system.stepStop task stage = none := by
  have stuck := @Quiescent.stuck _ task quiet (by rw [role_found found]; rfl)
  simpa [step, found] using stuck

theorem step_stop_disarming (system : System) (task : TaskId) :
    system.stepStop task .disarming ≠ none := by
  simp only [stepStop]
  split
  · simp
  · split <;> simp

/-- Whoever waits for the control token waits for a call to stop that drains a lane. -/
theorem Orderly.control_waits (orderly : system.Orderly) (quiet : system.Quiescent)
    (stands : system.helm.stake task = .standing) : ∃ other, system.StopInCall other := by
  have fits := orderly.reached.managed.fits
  have waits : task ∈ system.control.standing := (fits.standing task).mp stands
  cases place : system.control.place with
  | free =>
      have empty : system.control.line = [] := fits.empty place
      simp only [Token.standing, place, empty] at waits
      cases waits
  | granted owner =>
      have waiting : system.helm.stake owner = .standing :=
        (fits.standing owner).mpr (by simp [Token.standing, helm, place])
      unfold Helm.stake at waiting
      cases called : system.helm.call owner with
      | start stage =>
          rw [called] at waiting
          cases stage <;> cases waiting
          have stuck := stuck_start quiet (start_of_call called)
          simp [stepStart, place] at stuck
      | stop stage =>
          rw [called] at waiting
          cases stage <;> cases waiting
          have stuck := stuck_stop quiet (stop_of_call called)
          simp [stepStop, place] at stuck
      | _ =>
          rw [called] at waiting
          cases waiting
  | held owner =>
      have holding : system.helm.stake owner = .holding := (fits.holding owner).mpr place
      unfold Helm.stake at holding
      cases called : system.helm.call owner with
      | start stage =>
          rw [called] at holding
          cases stage <;> cases holding
          have stuck := stuck_start quiet (start_of_call called)
          simp [stepStart] at stuck
      | stop stage =>
          rw [called] at holding
          have found := stop_of_call called
          cases stage <;> cases holding
          · exact absurd (stuck_stop quiet found) (step_stop_disarming system owner)
          · exact ⟨owner, orderly.stop_waits quiet found⟩
      | _ =>
          rw [called] at holding
          cases holding

theorem Orderly.stop_unfinished (orderly : system.Orderly) (quiet : system.Quiescent)
    {stage : StopStage} (found : system.tasks[task]? = some (.stop stage))
    (going : ∀ state, stage ≠ .ended state) :
    system.StopInCall task ∨ stage = .waiting ∧ ∃ other, system.StopInCall other := by
  have stuck := stuck_stop quiet found
  cases stage with
  | asking => simp [stepStop] at stuck
  | waiting =>
      have called : system.helm.call task = .stop .waiting := call_found found
      have stands : system.helm.stake task = .standing := Helm.stake_found called
      exact .inr ⟨rfl, orderly.control_waits quiet stands⟩
  | disarming => exact absurd stuck (step_stop_disarming system task)
  | draining lane => exact .inl (orderly.stop_waits quiet found)
  | ended state => exact absurd rfl (going state)

theorem Orderly.start_unfinished (orderly : system.Orderly) (quiet : system.Quiescent)
    {stage : StartStage} (found : system.tasks[task]? = some (.start stage))
    (going : ∀ state, stage ≠ .ended state) :
    stage = .waiting ∧ ∃ other, system.StopInCall other := by
  have stuck := stuck_start quiet found
  cases stage with
  | asking => simp [stepStart] at stuck
  | waiting =>
      have called : system.helm.call task = .start .waiting := call_found found
      have stands : system.helm.stake task = .standing := Helm.stake_found called
      exact ⟨rfl, orderly.control_waits quiet stands⟩
  | opening => simp [stepStart] at stuck
  | ended state => exact absurd rfl (going state)

/-- A session that is not started yet waits for the token, is in its call, or waits for
the refresh that it has asked for, without the token. -/
theorem Orderly.session_unfinished (orderly : system.Orderly) (quiet : system.Quiescent)
    {session : Session} {stage : ForkStage}
    (found : system.tasks[task]? = some (.fork session stage))
    (going : ∀ outcome, stage ≠ .ended outcome) :
    (∃ alarm, stage = .waiting alarm) ∧ system.TokenInCall ∨ stage.role = .starting ∨
      ∃ id lane queued, stage = .awaiting id ∧ id ∉ system.answers.map (·.1) ∧
        queued ∈ system.traffic.requestsOf lane ∧ queued.id = id ∧
        queued.request.forced = true := by
  have role : system.role task = stage.role := role_found found
  have waits (outside : stage.role.isCalling = false) : stage.Waits system task := by
    have stuck := @Quiescent.stuck _ task quiet (by rw [role]; exact outside)
    exact step_fork_none (by simpa [step, found] using stuck)
  cases stage with
  | waiting alarm => exact .inl ⟨⟨alarm, rfl⟩, orderly.standing_waits quiet role⟩
  | atGate => exact .inr (.inl rfl)
  | concluding => exact .inr (.inl rfl)
  | awaiting id =>
      have placed := orderly.reached.placed
      obtain ⟨old, forced⟩ := orderly.awaits task session id found
      have unanswered := unanswered_of_none placed (waits rfl)
      obtain ⟨lane, held, there, pending⟩ :=
        (answered_or_pending placed old).resolve_left unanswered
      have inside : id ∈ system.traffic.pendingOf lane := by
        rw [pending_found there]
        exact pending
      rw [← system.traffic.requests_numbers] at inside
      obtain ⟨queued, asked, same⟩ := List.mem_map.mp inside
      exact .inr (.inr ⟨id, lane, queued, rfl, unanswered, asked, same,
        forced lane queued asked same⟩)
  | ended outcome => exact absurd rfl (going outcome)
  | _ => exact (waits rfl).elim

/-- Everything that is not finished waits for a call of the issuer. -/
structure WaitsForIssuer (system : System) : Prop where
  /-- The token is with a worker or with the start of a session, in a call. -/
  token : ∀ task, system.token.owner? = some task →
    system.token.place = .held task ∧ task ∈ system.callers ∧
      ((∃ lane, system.tasks[task]? = some (.worker lane)) ∨
        ∃ session stage, system.tasks[task]? = some (.fork session stage))
  requests : ∀ id < system.submitted, id ∉ system.answers.map (·.1) →
    ∃ (lane : LaneId) (held : Lane) (running : RequestId) (operation : Operation),
      system.lanes[lane]? = some held ∧ id ∈ held.pending ∧
      held.current = some (running, operation) ∧ (operation.stage.role = .refreshing ∨
        (∃ alarm, operation.stage = .waiting alarm) ∧ system.TokenInCall)
  stops : ∀ (task : TaskId) (stage : StopStage), system.tasks[task]? = some (.stop stage) →
    (∀ state, stage ≠ .ended state) →
      system.StopInCall task ∨ stage = .waiting ∧ ∃ other, system.StopInCall other
  starts : ∀ (task : TaskId) (stage : StartStage), system.tasks[task]? = some (.start stage) →
    (∀ state, stage ≠ .ended state) → stage = .waiting ∧ ∃ other, system.StopInCall other
  sessions : ∀ (task : TaskId) (session : Session) (stage : ForkStage),
    system.tasks[task]? = some (.fork session stage) → (∀ outcome, stage ≠ .ended outcome) →
      (∃ alarm, stage = .waiting alarm) ∧ system.TokenInCall ∨ stage.role = .starting ∨
        ∃ id lane queued, stage = .awaiting id ∧ id ∉ system.answers.map (·.1) ∧
          queued ∈ system.traffic.requestsOf lane ∧ queued.id = id ∧
          queued.request.forced = true

/-- When nothing can move by itself, whatever is not finished waits for a call of the
issuer that is under way. -/
theorem quiescent_waits_for_issuer (outset : Outset) (events : List Event)
    (allowed : ∀ event ∈ events, event.isCoordinated = true)
    (quiet : (outset.system.run events).Quiescent) :
    (outset.system.run events).WaitsForIssuer := by
  have orderly := run_orderly outset events allowed
  refine ⟨fun task owns => ?_, fun id submitted unanswered => ?_, fun task stage found going => ?_,
    fun task stage found going => ?_, fun task session stage found going => ?_⟩
  · obtain ⟨held, caller⟩ := orderly.owner_calls quiet owns
    exact ⟨held, caller, orderly.caller_kind caller⟩
  · exact orderly.request_waits quiet submitted unanswered
  · exact orderly.stop_unfinished quiet found going
  · exact orderly.start_unfinished quiet found going
  · exact orderly.session_unfinished quiet found going

/-- A request is in its call and a session waits for the token, when the program is
stopped, stopped again and started again. -/
def crowded : List Event :=
  startingUp ++ asking (.user none) ++ asking (.user none) ++ stepsOf 1 4 ++
    .newSession ⟨"selector", none⟩ :: stepsOf 2 2 ++ .stop :: stepsOf 3 2 ++
    .stop :: stepsOf 4 1 ++ .start :: stepsOf 5 1

theorem crowd_waits_for_one_call :
    (Outset.guarded.system.run crowded).Quiescent ∧
      (Outset.guarded.system.run crowded).WaitsForIssuer := by
  have quiet : (Outset.guarded.system.run crowded).Quiescent := by decide
  exact ⟨quiet, quiescent_waits_for_issuer .guarded crowded (by decide) quiet⟩

end System

end CertRenewal
