import CertRenewal.Proofs.NoTimeouts
import CertRenewal.Proofs.Provenance

/-!
What an operation does from its beginning to its end. Between its steps anything may
become of the program, and it may be cancelled at any moment. It goes through its states
in one of four ways all the same, asks the issuer once at most, and keeps its hands off
the store unless it comes to run.
-/

namespace CertRenewal

/-- A step that an operation took: in which state of the program it was taken, whether
the operation was cancelled by then, and what came of it. -/
structure Deed where
  system : System
  isCancelled : Bool
  before : Operation
  moved : System
  after : Operation

namespace Deed

/-- The refreshes that a step asks the issuer for. -/
def calls (deed : Deed) : List (Bytes × Option Features) :=
  deed.moved.issuer.refreshes.drop deed.system.issuer.refreshes.length

/-- The step is taken alike whatever is stored, and leaves alone what is. -/
def SparesStore (task : TaskId) (deed : Deed) : Prop :=
  ∀ store, { deed.system with store }.stepOperation task deed.isCancelled deed.before =
    some ({ deed.moved with store }, deed.after)

/-- The same step, with another say in whether the operation was cancelled if it was
running by then. -/
def recast (isCancelled : Deed → Bool) (deed : Deed) : Deed :=
  if deed.before.state = .running then { deed with isCancelled := isCancelled deed } else deed

end Deed

/-- An operation that has taken these steps since it was begun. Nothing is said about
what happens to the program in between. -/
inductive Life (task : TaskId) (request : Request) : List Deed → Operation → Prop
  | begin : Life task request [] (.start request)
  | move (deeds : List Deed) (system moved : System) (isCancelled : Bool)
      (before after : Operation) (life : Life task request deeds before)
      (moves : system.stepOperation task isCancelled before = some (moved, after)) :
      Life task request (deeds ++ [⟨system, isCancelled, before, moved, after⟩]) after

namespace OperationState

/-- The states that an operation goes through from its beginning to its end. -/
def courses : List (List OperationState) :=
  [[created, cancelled], [created, awaitingLock, cancelled], [created, awaitingLock, timedOut],
    [created, awaitingLock, running, finished]]

end OperationState

/-- The states that an operation has let others see when it stands at a stage, the latest
first. -/
inductive Stage.Trail : Stage → List OperationState → Prop
  | created : Trail .created [.created]
  | arriving : Trail .arriving [.awaitingLock, .created]
  | waiting (alarm : Alarm) : Trail (.waiting alarm) [.awaitingLock, .created]
  | admitted : Trail .admitted [.awaitingLock, .created]
  | atGate : Trail .atGate [.running, .awaitingLock, .created]
  | busy (alarm : Alarm) : Trail (.busy alarm) [.running, .awaitingLock, .created]
  | concluding : Trail .concluding [.running, .awaitingLock, .created]
  | dropped : Trail (.ended (.error .cancelled)) [.cancelled, .created]
  | withdrawn : Trail (.ended (.error .cancelled)) [.cancelled, .awaitingLock, .created]
  | expired : Trail (.ended (.error .timedOut)) [.timedOut, .awaitingLock, .created]
  | finished (outcome : Outcome) (uncancelled : outcome ≠ .error .cancelled)
      (unexpired : outcome ≠ .error .timedOut) :
      Trail (.ended outcome) [.finished, .running, .awaitingLock, .created]

namespace Stage.Trail

variable {stage : Stage} {published : List OperationState}

/-- An operation is in a call of the issuer for as long as it is seen to run. -/
theorem in_call (trail : stage.Trail published) :
    stage.role = .refreshing ↔ published.headD .created = .running := by
  cases trail <;> simp [Stage.role]

theorem ran (trail : stage.Trail published) (calls : stage.role = .refreshing) :
    .running ∈ published := by
  cases trail <;> first | exact List.mem_cons_self | cases calls

theorem runs_once (trail : stage.Trail published) : published.count .running ≤ 1 := by
  cases trail <;> decide

theorem going (trail : stage.Trail published) :
    ∃ course ∈ OperationState.courses, published.reverse <+: course := by
  cases trail <;> simp [OperationState.courses]

theorem ended {outcome : Outcome} (trail : stage.Trail published)
    (done : stage = .ended outcome) :
    published.reverse ∈ OperationState.courses ∧
      (outcome = .error .cancelled ↔ published.headD .created = .cancelled) ∧
      (outcome = .error .timedOut ↔ published.headD .created = .timedOut) := by
  subst done
  cases trail with
  | finished _ uncancelled unexpired => simp [OperationState.courses, uncancelled, unexpired]
  | _ => simp [OperationState.courses]

end Stage.Trail

theorem OperationState.of_outcome_finished {outcome : Outcome}
    (uncancelled : outcome ≠ .error .cancelled) (unexpired : outcome ≠ .error .timedOut) :
    ofOutcome outcome = finished := by
  unfold ofOutcome
  split
  · exact absurd rfl uncancelled
  · exact absurd rfl unexpired
  · rfl

/-- Who has come to run ends as finished, unless the outcome says otherwise. -/
theorem Operation.finish_trail {operation : Operation} {outcome : Outcome}
    (uncancelled : outcome ≠ .error .cancelled) (unexpired : outcome ≠ .error .timedOut)
    (ran : operation.published = [.running, .awaitingLock, .created]) :
    (operation.finish outcome).stage.Trail (operation.finish outcome).published := by
  simp only [finish, publish, ran, OperationState.of_outcome_finished uncancelled unexpired]
  exact .finished outcome uncancelled unexpired

namespace System

variable {system moved : System} {task : TaskId} {isCancelled : Bool}
  {operation after : Operation}

/-- The rules of a step say all that decides about it. -/
theorem OperationStep.taken
    (step : OperationStep system task isCancelled operation moved after) :
    system.stepOperation task isCancelled operation = some (moved, after) := by
  cases step with
  | abandon early cancelled =>
      rcases early with stage | stage <;> simp [stepOperation, stage, cancelled]
  | arrive stage going => simp [stepOperation, stage, going]
  | enter stage going free => simp [stepOperation, stage, going, askToken, Token.isFree, free]
  | queue stage going taken =>
      simp [stepOperation, stage, going, askToken, Token.isFree, taken, setAlarm]
  | withdraw alarm stage cancelled => simp [stepOperation, stage, cancelled]
  | accept alarm stage going granted => simp [stepOperation, stage, going, lookInLine, granted]
  | expire alarm stage going ungranted due =>
      simp [stepOperation, stage, going, lookInLine, ungranted, due]
  | turnBack stage cancelled => simp [stepOperation, stage, cancelled]
  | skip stage going fresh =>
      unfold needsCall at fresh
      simp [stepOperation, stage, going, decideOperation, Operation.publish, fresh]
  | keyless stage going needed missing =>
      unfold needsCall at needed
      simp [stepOperation, stage, going, decideOperation, Operation.publish, needed, missing]
  | call keys stage going needed found =>
      unfold needsCall at needed
      simp [stepOperation, stage, going, decideOperation, Operation.publish, needed, found]
  | pass gate stage passes instant => simp [stepOperation, stage, passes, instant]
  | delay gate stage passes slow => simp [stepOperation, stage, passes, slow, setAlarm]
  | wake alarm stage due => simp [stepOperation, stage, due]
  | fail failure stage refused =>
      simp [stepOperation, stage, concludeOperation, refused, answered]
  | save certificate stage issued saved =>
      have stored : system.answered.storeCertificate certificate operation.request.features =
          (.ok (), system.kept certificate operation.request) := Prod.ext saved rfl
      unfold answered at stored
      simp [stepOperation, stage, concludeOperation, issued, stored]
  | lose certificate reason stage issued lost =>
      have stored : system.answered.storeCertificate certificate operation.request.features =
          (.error reason, system.kept certificate operation.request) := Prod.ext lost rfl
      unfold answered at stored
      simp [stepOperation, stage, concludeOperation, issued, stored]

theorem OperationStep.trail
    (step : OperationStep system task isCancelled operation moved after)
    (trail : operation.stage.Trail operation.published) : after.stage.Trail after.published := by
  obtain ⟨request, stage, published⟩ := operation
  cases step with
  | abandon early cancelled =>
      rcases early with rfl | rfl <;> cases trail
      · exact .dropped
      · exact .withdrawn
  | arrive stage going => cases stage; cases trail; exact .arriving
  | enter stage going free => cases stage; cases trail; exact .admitted
  | queue stage going taken => cases stage; cases trail; exact .waiting _
  | withdraw alarm stage cancelled => cases stage; cases trail; exact .withdrawn
  | accept alarm stage going granted => cases stage; cases trail; exact .admitted
  | expire alarm stage going ungranted due => cases stage; cases trail; exact .expired
  | turnBack stage cancelled => cases stage; cases trail; exact .withdrawn
  | skip stage going fresh =>
      cases stage; cases trail
      exact Operation.finish_trail nofun nofun rfl
  | keyless stage going needed missing =>
      cases stage; cases trail
      exact Operation.finish_trail nofun nofun rfl
  | call keys stage going needed found => cases stage; cases trail; exact .atGate
  | pass gate stage passes instant => cases stage; cases trail; exact .concluding
  | delay gate stage passes slow => cases stage; cases trail; exact .busy _
  | wake alarm stage due => cases stage; cases trail; exact .concluding
  | fail failure stage refused =>
      cases stage; cases trail
      -- no table has an answer of the issuer come out as one of the two other ends
      refine Operation.finish_trail ?_ ?_ rfl
      · exact mt Except.error.inj (system.catalogue.classify_answered failure).2
      · exact mt Except.error.inj (system.catalogue.classify_answered failure).1
  | save certificate stage issued saved =>
      cases stage; cases trail
      exact Operation.finish_trail nofun nofun rfl
  | lose certificate reason stage issued lost =>
      cases stage; cases trail
      exact Operation.finish_trail nofun nofun rfl

/-- The states that others could see only become more. -/
theorem OperationStep.published_suffix
    (step : OperationStep system task isCancelled operation moved after) :
    operation.published <:+ after.published := by
  cases step with
  | skip => exact ⟨[_, _], rfl⟩
  | keyless => exact ⟨[_, _], rfl⟩
  | abandon => exact ⟨[_], rfl⟩
  | arrive => exact ⟨[_], rfl⟩
  | withdraw => exact ⟨[_], rfl⟩
  | expire => exact ⟨[_], rfl⟩
  | turnBack => exact ⟨[_], rfl⟩
  | call => exact ⟨[_], rfl⟩
  | fail => exact ⟨[_], rfl⟩
  | save => exact ⟨[_], rfl⟩
  | lose => exact ⟨[_], rfl⟩
  | _ => exact List.suffix_rfl

/-- Before it comes to run an operation has nothing to do with the issuer or the store. -/
theorem OperationStep.aside
    (step : OperationStep system task isCancelled operation moved after)
    (trail : operation.stage.Trail operation.published) (idle : .running ∉ after.published) :
    moved.issuer = system.issuer ∧ ∀ store, OperationStep { system with store } task isCancelled
      operation { moved with store } after := by
  have outside (calls : operation.stage.role = .refreshing) : False :=
    idle (step.published_suffix.mem (trail.ran calls))
  cases step with
  | abandon early cancelled => exact ⟨rfl, fun store => .abandon early cancelled⟩
  | arrive stage going => exact ⟨rfl, fun store => .arrive stage going⟩
  | enter stage going free => exact ⟨rfl, fun store => .enter stage going free⟩
  | queue stage going taken => exact ⟨rfl, fun store => .queue stage going taken⟩
  | withdraw alarm stage cancelled => exact ⟨rfl, fun store => .withdraw alarm stage cancelled⟩
  | accept alarm stage going granted =>
      exact ⟨rfl, fun store => .accept alarm stage going granted⟩
  | expire alarm stage going ungranted due =>
      exact ⟨rfl, fun store => .expire alarm stage going ungranted due⟩
  | turnBack stage cancelled => exact ⟨rfl, fun store => .turnBack stage cancelled⟩
  | skip => exact absurd (by simp [Operation.finish, Operation.publish]) idle
  | keyless => exact absurd (by simp [Operation.finish, Operation.publish]) idle
  | call => exact absurd (by simp [Operation.publish]) idle
  | pass gate stage => exact (outside (by rw [stage]; rfl)).elim
  | delay gate stage => exact (outside (by rw [stage]; rfl)).elim
  | wake alarm stage => exact (outside (by rw [stage]; rfl)).elim
  | fail failure stage => exact (outside (by rw [stage]; rfl)).elim
  | save certificate stage => exact (outside (by rw [stage]; rfl)).elim
  | lose certificate reason stage => exact (outside (by rw [stage]; rfl)).elim

/-- Whether an operation is cancelled does not count any more once it runs. -/
theorem OperationStep.firm
    (step : OperationStep system task isCancelled operation moved after)
    (runs : operation.stage.role = .refreshing) (cancelled : Bool) :
    OperationStep system task cancelled operation moved after := by
  cases step with
  | pass gate stage passes instant => exact .pass gate stage passes instant
  | delay gate stage passes slow => exact .delay gate stage passes slow
  | wake alarm stage due => exact .wake alarm stage due
  | fail failure stage refused => exact .fail failure stage refused
  | save certificate stage issued saved => exact .save certificate stage issued saved
  | lose certificate reason stage issued lost => exact .lose certificate reason stage issued lost
  | abandon early => rcases early with stage | stage <;> rw [stage] at runs <;> cases runs
  | _ => simp [*, Stage.role] at runs

/-- A step asks the issuer for nothing, or once for the features of the request. -/
theorem OperationStep.asks
    (step : OperationStep system task isCancelled operation moved after) :
    moved.issuer.refreshes = system.issuer.refreshes ∨
      operation.stage = .admitted ∧ after.published = .running :: operation.published ∧
        ∃ publicKey, moved.issuer.refreshes =
          system.issuer.refreshes ++ [(publicKey, operation.request.features)] := by
  have ended := Issuer.refreshes_end_refresh system.issuer system.now
  cases step with
  | call keys stage =>
      exact .inr ⟨stage, rfl, keys.publicKey, Issuer.refreshes_begin_refresh _ _ _⟩
  | fail failure stage => exact .inl ended
  | save certificate stage =>
      rw [kept_frame]
      exact .inl ended
  | lose certificate reason stage =>
      rw [kept_frame]
      exact .inl ended
  | _ => exact .inl rfl

end System

/-- What holds of an operation and of the steps that it has taken. -/
structure Charted (task : TaskId) (request : Request) (deeds : List Deed)
    (operation : Operation) : Prop where
  same : operation.request = request
  /-- Its states so far are the first ones of one of the four courses. -/
  going : ∃ course ∈ OperationState.courses, operation.published.reverse <+: course
  /-- With an outcome the course is at its end, and the last state tells the outcome. -/
  ended : ∀ outcome, operation.stage = .ended outcome →
    operation.published.reverse ∈ OperationState.courses ∧
      (outcome = .error .cancelled ↔ operation.state = .cancelled) ∧
      (outcome = .error .timedOut ↔ operation.state = .timedOut)
  /-- It is in a call of the issuer for as long as it is seen to run. -/
  inCall : operation.stage.role = .refreshing ↔ operation.state = .running
  once : (deeds.flatMap Deed.calls).length ≤ 1
  running : ∀ deed ∈ deeds, ∀ call ∈ deed.calls,
    deed.after.state = .running ∧ call.2 = request.features
  /-- Unless it comes to run it has nothing to do with the issuer or the store. -/
  aside : .running ∉ operation.published → ∀ deed ∈ deeds,
    deed.moved.issuer = deed.system.issuer ∧ deed.SparesStore task
  /-- Whether and when it is cancelled once it runs, it goes the same way to the same end. -/
  firm : ∀ isCancelled, Life task request (deeds.map (Deed.recast isCancelled)) operation

namespace Life

variable {task : TaskId} {request : Request} {deeds : List Deed} {operation : Operation}

theorem trail (life : Life task request deeds operation) :
    operation.stage.Trail operation.published := by
  induction life with
  | begin => exact .created
  | move deeds system moved isCancelled before after life moves trail =>
      exact (System.step_operation_cases moves).trail trail

theorem same_request (life : Life task request deeds operation) : operation.request = request := by
  induction life with
  | begin => rfl
  | move deeds system moved isCancelled before after life moves same =>
      exact (System.step_operation_cases moves).request.trans same

/-- Each step was taken in the course of a shorter life. -/
theorem earlier (life : Life task request deeds operation) {deed : Deed} (member : deed ∈ deeds) :
    deed.before.stage.Trail deed.before.published ∧ deed.before.request = request ∧
      deed.system.OperationStep task deed.isCancelled deed.before deed.moved deed.after ∧
      deed.after.published <:+ operation.published := by
  induction life with
  | begin => cases member
  | move deeds system moved isCancelled before after life moves induction =>
      have step := System.step_operation_cases moves
      rcases List.mem_append.mp member with old | new
      · obtain ⟨trail, same, taken, seen⟩ := induction old
        exact ⟨trail, same, taken, seen.trans step.published_suffix⟩
      · rw [List.mem_singleton.mp new]
        exact ⟨life.trail, life.same_request, step, List.suffix_rfl⟩

/-- A refresh is asked for in the step in which the operation comes to run. -/
theorem asked (life : Life task request deeds operation) :
    (deeds.flatMap Deed.calls).length ≤ operation.published.count .running := by
  induction life with
  | begin => exact Nat.zero_le _
  | move deeds system moved isCancelled before after life moves induction =>
      have step := System.step_operation_cases moves
      rw [List.flatMap_append, List.length_append]
      rcases step.asks with none | ⟨-, runs, publicKey, one⟩
      · have fewer := step.published_suffix.sublist.count_le OperationState.running
        simp only [Deed.calls, none, List.flatMap_singleton, List.drop_length, List.length_nil]
        omega
      · simp only [Deed.calls, one, runs, List.flatMap_singleton, List.drop_left,
          List.length_singleton, List.count_cons_self]
        omega

/-- A cancellation that comes when the operation runs already makes no difference. -/
theorem recast (life : Life task request deeds operation) (cancelled : Deed → Bool) :
    Life task request (deeds.map (Deed.recast cancelled)) operation := by
  induction life with
  | begin => exact .begin
  | move deeds system moved isCancelled before after life moves induction =>
      rw [List.map_append, List.map_singleton]
      by_cases runs : before.state = .running
      · have step := System.step_operation_cases moves
        have firm := step.firm (life.trail.in_call.mpr runs)
        rw [Deed.recast, if_pos runs]
        exact .move _ _ _ _ _ _ induction (firm _).taken
      · rw [Deed.recast, if_neg runs]
        exact .move _ _ _ _ _ _ induction moves

theorem charted (life : Life task request deeds operation) :
    Charted task request deeds operation where
  same := life.same_request
  going := life.trail.going
  ended outcome done := life.trail.ended done
  inCall := life.trail.in_call
  once := Nat.le_trans life.asked life.trail.runs_once
  running deed member call asked := by
    obtain ⟨-, same, step, -⟩ := life.earlier member
    rcases step.asks with none | ⟨-, runs, publicKey, one⟩
    · simp [Deed.calls, none] at asked
    · simp only [Deed.calls, one, List.drop_left, List.mem_singleton] at asked
      exact ⟨by rw [Operation.state, runs]; rfl, by rw [asked, same]⟩
  aside idle deed member := by
    obtain ⟨trail, -, step, seen⟩ := life.earlier member
    obtain ⟨issuer, spares⟩ := step.aside trail (mt seen.mem idle)
    exact ⟨issuer, fun store => (spares store).taken⟩
  firm := life.recast

end Life

end CertRenewal
