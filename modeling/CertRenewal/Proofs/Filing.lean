import CertRenewal.Proofs.Exclusion
import CertRenewal.Proofs.Keeping
import CertRenewal.Proofs.Traffic

/-!
What events do to the store while the host leaves it alone. It changes when an
operation stores a certificate together with the features of its request, and
when a look at the keys finds that they cannot be understood.
-/

namespace CertRenewal

/-- Whether the host leaves the contents of the store to the program. -/
def Event.leavesStore : Event → Bool
  | .storeCertificate _ _ => false
  | .storeKeys _ => false
  | .deleteKeys => false
  | .deleteCertificate => false
  | _ => true

namespace System

/-- The operation that a task is busy with. It goes with the number of its request,
unless it is run outside of the queue. -/
def attempt? (system : System) (task : TaskId) : Option (Option RequestId × Operation) :=
  match system.tasks[task]? with
  | some (.worker lane) =>
      (system.lanes[lane]?.bind Lane.current).map fun entry => (some entry.1, entry.2)
  | some (.direct operation _) => some (none, operation)
  | _ => none

def canFile (system : System) (request : Request) : Bool :=
  match (system.issuer.endRefresh system.now).1 with
  | .ok certificate => (system.storeCertificate certificate request.features).1.isOk
  | .error _ => false

def files (system : System) (operation : Operation) : Bool :=
  operation.stage = .concluding && system.canFile operation.request

/-- The request for which an event stores a certificate, if it does. -/
def filings (system : System) : Event → List (Option RequestId × Request)
  | .step task =>
      match system.attempt? task with
      | some (who, operation) =>
          if system.files operation then [(who, operation.request)] else []
      | none => []
  | _ => []

/-- What becomes of the store, when certificates are stored for the given requests. -/
inductive Records (system next : System) : List (Option RequestId × Request) → Prop
  | kept (store : next.store = system.store ∨ next.store = system.store.keys.2)
      (load : next.issuer.inFlight ≤ system.issuer.inFlight) : Records system next []
  | called (found : system.store.keys.1.isSome = true) (store : next.store = system.store.keys.2) :
      Records system next []
  | lost (certificate : Certificate) (features : Option Features) (reason : String)
      (refused : (system.storeCertificate certificate features).1 = .error reason)
      (store : next.store = (system.storeCertificate certificate features).2.store)
      (load : next.issuer.inFlight ≤ system.issuer.inFlight) : Records system next []
  | filed (who : Option RequestId) (request : Request) (certificate : Certificate)
      (saved : (system.storeCertificate certificate request.features).1 = .ok ())
      (store : next.store = (system.storeCertificate certificate request.features).2.store)
      (load : next.issuer.inFlight ≤ system.issuer.inFlight) :
      Records system next [(who, request)]

variable {system next moved : System} {task : TaskId}
  {filed : List (Option RequestId × Request)}

theorem attempt_of_worker {lane : LaneId} {held : Lane} {id : RequestId} {operation : Operation}
    (worker : system.tasks[task]? = some (.worker lane)) (found : system.lanes[lane]? = some held)
    (current : held.current = some (id, operation)) :
    system.attempt? task = some (some id, operation) := by
  simp [attempt?, worker, found, current]

theorem worker_of_attempt {id : RequestId} {operation : Operation}
    (busy : system.attempt? task = some (some id, operation)) :
    ∃ lane held, system.tasks[task]? = some (.worker lane) ∧ system.lanes[lane]? = some held ∧
      held.current = some (id, operation) := by
  unfold attempt? at busy
  split at busy
  · rename_i lane found
    obtain ⟨⟨other, running⟩, current, same⟩ := Option.map_eq_some_iff.mp busy
    obtain ⟨rfl, rfl⟩ : other = id ∧ running = operation := by simpa using same
    obtain ⟨held, there, current⟩ := Option.bind_eq_some_iff.mp current
    exact ⟨lane, held, found, there, current⟩
  · cases busy
  · cases busy

theorem direct_of_attempt {operation : Operation}
    (busy : system.attempt? task = some (none, operation)) :
    ∃ isCancelled, system.tasks[task]? = some (.direct operation isCancelled) := by
  unfold attempt? at busy
  split at busy
  · obtain ⟨entry, -, same⟩ := Option.map_eq_some_iff.mp busy
    cases same
  · rename_i running isCancelled found
    obtain ⟨-, rfl⟩ := Prod.mk.inj (Option.some.inj busy)
    exact ⟨isCancelled, found⟩
  · cases busy

/-- A step that is not taken was not the last one of a call. -/
theorem not_concluding_of_stuck (stuck : system.step task = none) {who : Option RequestId}
    {operation : Operation} (busy : system.attempt? task = some (who, operation)) :
    operation.stage ≠ .concluding := by
  intro stage
  cases who with
  | some id =>
      obtain ⟨lane, held, worker, found, current⟩ := worker_of_attempt busy
      simp [step, worker, stepWorker, found, current, stepOperation, stage] at stuck
  | none =>
      obtain ⟨isCancelled, found⟩ := direct_of_attempt busy
      simp [step, found, stepOperation, stage] at stuck

theorem Records.congr (records : Records system moved filed) (store : next.store = moved.store)
    (load : next.issuer.inFlight = moved.issuer.inFlight) : Records system next filed := by
  cases records with
  | kept same fewer => exact .kept (store ▸ same) (load ▸ fewer)
  | called found same => exact .called found (store ▸ same)
  | lost certificate features reason refused same fewer =>
      exact .lost certificate features reason refused (store ▸ same) (load ▸ fewer)
  | filed who request certificate saved same fewer =>
      exact .filed who request certificate saved (store ▸ same) (load ▸ fewer)

theorem Records.still (store : next.store = system.store)
    (load : next.issuer.inFlight = system.issuer.inFlight) : Records system next [] :=
  .kept (.inl store) (Nat.le_of_eq load)

/-- Why a certificate cannot be stored: that is refused at present, or a file cannot be
written. -/
inductive Unstorable (system : System) (certificate : Certificate) (features : Option Features) :
    String → Prop
  | refused (reason : String) (refusal : system.storeRefusal = some reason) :
      Unstorable system certificate features reason
  | unwritten (fault : FileFault) (allowed : system.storeRefusal = none)
      (failed : (system.store.store certificate features).1 = .error fault) :
      Unstorable system certificate features fault.message

theorem saved_store {certificate : Certificate} {features : Option Features}
    (saved : (system.storeCertificate certificate features).1 = .ok ()) :
    (system.store.store certificate features).1 = .ok () ∧
      (system.storeCertificate certificate features).2.store =
        (system.store.store certificate features).2 := by
  unfold storeCertificate at saved ⊢
  cases refusal : system.storeRefusal with
  | some reason =>
      rw [refusal] at saved
      cases saved
  | none =>
      simp only [refusal] at saved
      refine ⟨?_, rfl⟩
      cases stored : (system.store.store certificate features).1 with
      | ok value => rfl
      | error fault =>
          rw [stored] at saved
          cases saved

theorem lost_store {certificate : Certificate} {features : Option Features} {reason : String}
    (lost : (system.storeCertificate certificate features).1 = .error reason) :
    Unstorable system certificate features reason ∧
      ((system.storeCertificate certificate features).2.store = system.store ∨
        ∃ fault, (system.store.store certificate features).1 = .error fault ∧
          (system.storeCertificate certificate features).2.store =
            (system.store.store certificate features).2) := by
  unfold storeCertificate at lost ⊢
  cases refusal : system.storeRefusal with
  | some other =>
      simp only [refusal] at lost
      obtain rfl := Except.error.inj lost
      exact ⟨.refused other refusal, .inl rfl⟩
  | none =>
      simp only [refusal] at lost
      cases failed : (system.store.store certificate features).1 with
      | ok value =>
          rw [failed] at lost
          cases lost
      | error fault =>
          rw [failed] at lost
          obtain rfl := Except.error.inj lost
          exact ⟨.unwritten fault refusal failed, .inr ⟨fault, rfl, rfl⟩⟩

theorem lost_keeps {certificate : Certificate} {features : Option Features} {reason : String}
    (found : system.store.keys.1.isSome = true)
    (lost : (system.storeCertificate certificate features).1 = .error reason) :
    (system.storeCertificate certificate features).2.store.certificate = system.store.certificate ∧
      (system.storeCertificate certificate features).2.store.features = system.store.features := by
  rcases (lost_store lost).2 with same | ⟨fault, failed, same⟩
  · rw [same]
    exact ⟨rfl, rfl⟩
  · rw [same]
    exact ⟨Store.refused_certificate found failed, Store.refused_features found failed⟩

theorem store_answered (system : System) (certificate : Certificate) (features : Option Features) :
    (system.answered.storeCertificate certificate features).1 =
        (system.storeCertificate certificate features).1 ∧
      (system.answered.storeCertificate certificate features).2.store =
        (system.storeCertificate certificate features).2.store := by
  unfold storeCertificate answered
  cases system.storeRefusal <;> simp

theorem kept_in_flight (certificate : Certificate) (request : Request) :
    (system.kept certificate request).issuer.inFlight ≤ system.issuer.inFlight := by
  rw [kept_frame]
  simp only [answered, end_refresh_load]
  omega

theorem files_other {operation : Operation} (other : operation.stage ≠ .concluding) :
    system.files operation = false := by
  simp [files, other]

theorem OperationStep.records {isCancelled : Bool} {operation after : Operation}
    (step : OperationStep system task isCancelled operation moved after)
    (who : Option RequestId) : Records system moved
      (if system.files operation then [(who, operation.request)] else []) := by
  have unfiled {next : System} (other : operation.stage ≠ .concluding)
      (records : Records system next []) : Records system next
        (if system.files operation then [(who, operation.request)] else []) := by
    rw [if_neg (by rw [files_other other]; exact Bool.false_ne_true)]
    exact records
  cases step with
  | abandon early cancelled =>
      refine unfiled ?_ (.still rfl rfl)
      rcases early with stage | stage <;> simp [stage]
  | keyless stage going needed missing =>
      exact unfiled (by simp [stage]) (.kept (.inr rfl) (Nat.le_refl _))
  | call keys stage going needed found =>
      exact unfiled (by simp [stage]) (.called (by simp [found]) rfl)
  | fail failure stage refused =>
      have cannot : system.files operation = false := by simp [files, canFile, refused]
      rw [cannot]
      refine .kept (.inl rfl) ?_
      simp only [releaseToken, answered, end_refresh_load]
      omega
  | save certificate stage issued saved =>
      have same := store_answered system certificate operation.request.features
      rw [same.1] at saved
      have can : system.files operation = true := by
        simp [files, canFile, stage, issued, saved, Except.isOk, Except.toBool]
      rw [if_pos can]
      exact .filed who operation.request certificate saved same.2 (kept_in_flight _ _)
  | lose certificate reason stage issued lost =>
      have same := store_answered system certificate operation.request.features
      rw [same.1] at lost
      have cannot : system.files operation = false := by
        simp [files, canFile, issued, lost, Except.isOk, Except.toBool]
      rw [cannot]
      exact .lost certificate _ reason lost same.2 (kept_in_flight _ _)
  | arrive stage going => exact unfiled (by simp [stage]) (.still rfl rfl)
  | enter stage going free => exact unfiled (by simp [stage]) (.still rfl rfl)
  | queue stage going taken => exact unfiled (by simp [stage]) (.still rfl rfl)
  | withdraw alarm stage cancelled => exact unfiled (by simp [stage]) (.still rfl rfl)
  | accept alarm stage going granted => exact unfiled (by simp [stage]) (.still rfl rfl)
  | expire alarm stage going ungranted due => exact unfiled (by simp [stage]) (.still rfl rfl)
  | turnBack stage cancelled => exact unfiled (by simp [stage]) (.still rfl rfl)
  | skip stage going fresh => exact unfiled (by simp [stage]) (.still rfl rfl)
  | pass gate stage passes instant => exact unfiled (by simp [stage]) (.still rfl rfl)
  | delay gate stage passes slow => exact unfiled (by simp [stage]) (.still rfl rfl)
  | wake alarm stage due => exact unfiled (by simp [stage]) (.still rfl rfl)

theorem filings_of_attempt {who : Option RequestId} {operation : Operation}
    (busy : system.attempt? task = some (who, operation)) :
    system.filings (.step task) =
      if system.files operation then [(who, operation.request)] else [] := by
  simp only [filings, busy]

theorem no_filings (idle : system.attempt? task = none) : system.filings (.step task) = [] := by
  simp only [filings, idle]

/-- Who works with the store and the issuer in the step of a task: nobody, an operation or a
session. -/
inductive Work (system : System) (task : TaskId) : System → Prop
  | nobody (next : System) (idle : system.attempt? task = none)
      (store : next.store = system.store) (issuer : next.issuer = system.issuer) :
      Work system task next
  | operation (next moved : System) (who : Option RequestId) (operation after : Operation)
      (isCancelled : Bool) (busy : system.attempt? task = some (who, operation))
      (step : OperationStep system task isCancelled operation moved after)
      (store : next.store = moved.store) (issuer : next.issuer = moved.issuer)
      (submitted : next.submitted = system.submitted) : Work system task next
  | session (session : Session) (stage after : ForkStage) (moved : System)
      (found : system.tasks[task]? = some (.fork session stage))
      (step : ForkStep system task session stage moved after) :
      Work system task (moved.setTask task (.fork session after))

theorem WorkerStep.work {lane : LaneId} (worker : system.tasks[task]? = some (.worker lane))
    (step : WorkerStep system task lane next) : Work system task next := by
  cases step with
  | carry held id operation after moved found current moves going =>
      have busy := attempt_of_worker worker found current
      exact .operation _ moved _ operation after _ busy moves rfl rfl (by rw [moves.frame]; rfl)
  | deliver held id operation after moved outcome found current moves ended =>
      have busy := attempt_of_worker worker found current
      exact .operation _ moved _ operation after _ busy moves rfl rfl (by rw [moves.frame]; rfl)
  | takeUp held queued rest found idle waiting =>
      exact .nobody _ (by simp [attempt?, worker, found, idle]) rfl rfl
  | drain held found idle empty shut undrained =>
      exact .nobody _ (by simp [attempt?, worker, found, idle]) rfl rfl

theorem TaskStep.work (step : TaskStep system task next) : Work system task next := by
  cases step with
  | worker lane next found step => exact step.work found
  | direct operation after isCancelled moved found step =>
      have busy : system.attempt? task = some (none, operation) := by simp [attempt?, found]
      exact .operation _ moved _ operation after isCancelled busy step rfl rfl
        (by rw [step.frame]; rfl)
  | fork session stage after moved found step => exact .session session stage after moved found step
  | holder stage after moved found step =>
      have idle : system.attempt? task = none := by simp [attempt?, found]
      rw [step.frame]
      exact .nobody _ idle rfl rfl
  | start stage after moved found step =>
      have idle : system.attempt? task = none := by simp [attempt?, found]
      rw [step.frame]
      exact .nobody _ idle rfl rfl
  | stop stage after moved found step =>
      have idle : system.attempt? task = none := by simp [attempt?, found]
      rw [step.frame]
      exact .nobody _ idle rfl rfl
  | close stage after moved found step =>
      have idle : system.attempt? task = none := by simp [attempt?, found]
      rw [step.frame]
      exact .nobody _ idle rfl rfl
  | ticker schedule alarm after moved found step =>
      have idle : system.attempt? task = none := by simp [attempt?, found]
      cases step with
      | retire => exact .nobody _ idle rfl rfl
      | tick =>
          have same := submit_store system (.background system.store.features) false
          exact .nobody _ idle same.1 same.2

theorem ForkStep.records {session : Session} {stage after : ForkStage}
    (step : ForkStep system task session stage moved after) : Records system moved [] := by
  cases step with
  | fail failure refused =>
      exact .still rfl (end_session_load system.issuer).1
  | succeed accepted => exact .still rfl (end_session_load system.issuer).1
  | submit =>
      have same := submit_store system (.afterSession system.store.features) false
      exact .still same.1 (congrArg Issuer.inFlight same.2)
  | _ => exact .still rfl rfl

theorem Work.records (work : Work system task next) :
    Records system next (system.filings (.step task)) := by
  cases work with
  | nobody next idle store issuer =>
      rw [no_filings idle]
      exact .still store (congrArg Issuer.inFlight issuer)
  | operation next moved who operation after isCancelled busy step store issuer submitted =>
      rw [filings_of_attempt busy]
      exact (step.records who).congr store (congrArg Issuer.inFlight issuer)
  | session session stage after moved found step =>
      rw [no_filings (by simp [attempt?, found])]
      exact step.records.congr rfl rfl

/-- An operation that is about to store a certificate always has a step. -/
theorem stuck_files_nothing (stuck : system.step task = none) :
    system.filings (.step task) = [] := by
  cases busy : system.attempt? task with
  | none => exact no_filings busy
  | some entry =>
      have going := not_concluding_of_stuck stuck busy
      simp only [filings, busy, files_other going]
      rfl

/-- What an event that is no step of a task leaves of the store and of the issuer. -/
structure Aside (system next : System) (event : Event) : Prop where
  store : event.leavesStore = true → next.store = system.store ∨ next.store = system.store.keys.2
  calls : next.issuer.calls = system.issuer.calls
  load : next.issuer.inFlight = system.issuer.inFlight

theorem Aside.of_same {event : Event} (store : next.store = system.store)
    (issuer : next.issuer = system.issuer) : Aside system next event :=
  ⟨fun _ => .inl store, congrArg Issuer.calls issuer, congrArg Issuer.inFlight issuer⟩

theorem apply_aside (system : System) (event : Event) (apart : ∀ task, event ≠ .step task) :
    Aside system (system.apply event) event := by
  have host {kept : Prop} (left : false = true) : kept := absurd left Bool.false_ne_true
  cases event with
  | step task => exact absurd rfl (apart task)
  | submit request listens =>
      have same := submit_store system request listens
      exact .of_same same.1 same.2
  | openQueue =>
      simp only [apply]
      rw [open_queue_frame]
      exact .of_same rfl rfl
  | arm =>
      obtain ⟨added, _, frame⟩ := arm_frame system.disarmArmed
      simp only [apply]
      rw [frame, disarm_armed_frame]
      exact .of_same rfl rfl
  | disarm =>
      simp only [apply]
      rw [disarm_armed_frame]
      exact .of_same rfl rfl
  | fire =>
      have same := fire_store system
      exact .of_same same.1 same.2
  | cancelDirect task =>
      simp only [apply, cancelDirect]
      split <;> exact .of_same rfl rfl
  | tryHold =>
      simp only [apply, tryHold]
      split <;> exact .of_same rfl rfl
  | release task =>
      simp only [apply, releaseHeld]
      split <;> exact .of_same rfl rfl
  | cancelSchedule =>
      simp only [apply, cancelArmed]
      split <;> exact .of_same rfl rfl
  | readKeys => exact ⟨fun _ => .inr rfl, rfl, rfl⟩
  | storeCertificate certificate features =>
      simp only [apply]
      rw [store_certificate_aside]
      exact ⟨host, rfl, rfl⟩
  | storeKeys keys => exact ⟨host, rfl, rfl⟩
  | deleteKeys => exact ⟨host, rfl, rfl⟩
  | deleteCertificate => exact ⟨host, rfl, rfl⟩
  | _ => exact ⟨fun _ => .inl rfl, rfl, rfl⟩

/-- The issuer is called in steps of tasks only. -/
theorem steps_or_calls (system : System) (event : Event) :
    (∃ task, event = .step task ∧ TaskStep system task (system.apply event)) ∨
      (system.apply event).issuer.calls = system.issuer.calls := by
  have rule := apply_cases system event
  by_cases apart : ∀ task, event ≠ .step task
  · exact .inr (apply_aside system event apart).calls
  · simp only [ne_eq, not_forall, not_not] at apart
    obtain ⟨task, rfl⟩ := apart
    generalize system.apply (.step task) = next at rule
    cases rule with
    | step task next moves => exact .inl ⟨task, rfl, moves⟩
    | _ => exact .inr rfl

/-- What an event does to the store, unless the host changes the store itself. -/
theorem apply_records (system : System) (event : Event) (untouched : event.leavesStore = true) :
    Records system (system.apply event) (system.filings event) := by
  have quiet (apart : ∀ task, event ≠ .step task) : Records system (system.apply event) [] := by
    have aside := apply_aside system event apart
    exact .kept (aside.store untouched) (Nat.le_of_eq aside.load)
  cases event with
  | step task =>
      cases stepped : system.step task with
      | none =>
          rw [stuck_files_nothing stepped]
          simp only [apply, stepped]
          exact .still rfl rfl
      | some next =>
          simp only [apply, stepped, Option.getD_some]
          exact (step_cases stepped).work.records
  | _ => exact quiet (by simp)

end System

end CertRenewal
