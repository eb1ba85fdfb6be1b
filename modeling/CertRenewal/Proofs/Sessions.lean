import CertRenewal.Proofs.Lifecycle
import CertRenewal.Proofs.Tasks

/-!
When sessions are started. Whether the program runs is looked at once, before a session
waits for the token, and not again when it has got it. So a session whose turn comes
behind a stop is started all the same, and its selector is used up, although the request
that follows is cancelled.
-/

namespace CertRenewal

namespace Issuer

/-- The sessions whose start was asked for, the latest first. -/
def sessions (issuer : Issuer) : List Session :=
  issuer.calls.filterMap fun call =>
    match call with
    | .refresh _ _ => none
    | .session session => some session

theorem sessions_of_calls {issuer next : Issuer} (calls : next.calls = issuer.calls) :
    next.sessions = issuer.sessions := by
  unfold sessions
  rw [calls]

end Issuer

/-- Whether a session was let pass and has not come to its end. -/
def ForkStage.isAccepted : ForkStage → Bool
  | .checking => false
  | .ended _ => false
  | _ => true

namespace System

variable {system next moved : System} {event : Event} {task : TaskId} {session : Session}

theorem OperationStep.sessions {isCancelled : Bool} {operation after : Operation}
    (step : OperationStep system task isCancelled operation moved after) :
    moved.issuer.sessions = system.issuer.sessions := by
  have ended : system.answered.issuer.sessions = system.issuer.sessions :=
    Issuer.sessions_of_calls (end_refresh_calls system.issuer system.now)
  cases step with
  | call keys stage going needed found => simp [Issuer.sessions, Issuer.beginRefresh]
  | fail failure stage refused => exact ended
  | save certificate stage issued saved =>
      rw [kept_frame]
      exact ended
  | lose certificate reason stage issued lost =>
      rw [kept_frame]
      exact ended
  | _ => rfl

theorem ForkStep.sessions {stage after : ForkStage}
    (step : ForkStep system task session stage moved after) :
    moved.issuer.sessions = system.issuer.sessions ∨
      stage = .admitted ∧ moved.issuer.sessions = session :: system.issuer.sessions := by
  have ended : system.issuer.endSession.2.sessions = system.issuer.sessions := by
    apply Issuer.sessions_of_calls
    unfold Issuer.endSession
    split <;> rfl
  cases step with
  | call => exact .inr ⟨rfl, by simp [Issuer.sessions, Issuer.beginSession]⟩
  | fail failure refused => exact .inl ended
  | succeed accepted => exact .inl ended
  | submit => exact .inl (by rw [(submit_store _ _ _).2])
  | _ => exact .inl rfl

theorem TaskStep.sessions (step : TaskStep system task next) :
    next.issuer.sessions = system.issuer.sessions ∨
      ∃ session, system.tasks[task]? = some (.fork session .admitted) ∧
        next.issuer.sessions = session :: system.issuer.sessions := by
  cases step.work with
  | nobody next idle store issuer => exact .inl (congrArg Issuer.sessions issuer)
  | operation next moved who operation after isCancelled busy moves store issuer submitted =>
      exact .inl ((congrArg Issuer.sessions issuer).trans moves.sessions)
  | session session stage after moved found moves =>
      rcases moves.sessions with same | ⟨rfl, more⟩
      · exact .inl same
      · exact .inr ⟨session, found, more⟩

/-- The start of a session is asked for by a session that has the token. -/
theorem apply_sessions (system : System) (event : Event) :
    (system.apply event).issuer.sessions = system.issuer.sessions ∨
      ∃ task session, event = .step task ∧
        system.tasks[task]? = some (.fork session .admitted) ∧
        (system.apply event).issuer.sessions = session :: system.issuer.sessions := by
  rcases steps_or_calls system event with ⟨task, own, moves⟩ | calls
  · rcases moves.sessions with same | ⟨session, found, more⟩
    · exact .inl same
    · exact .inr ⟨task, session, own, found, more⟩
  · exact .inl (Issuer.sessions_of_calls calls)

theorem session_caller
    (begins : (system.apply event).issuer.calls = .session session :: system.issuer.calls) :
    ∃ task, event = .step task ∧ system.tasks[task]? = some (.fork session .admitted) := by
  have more : (system.apply event).issuer.sessions = session :: system.issuer.sessions := by
    unfold Issuer.sessions
    rw [begins]
    rfl
  rcases apply_sessions system event with same | ⟨task, other, own, found, called⟩
  · exact absurd (more.symm.trans same) (List.cons_ne_self _ _)
  · obtain ⟨rfl, -⟩ := List.cons.inj (called.symm.trans more)
    exact ⟨task, own, found⟩

/-- What a step makes of a session that was let pass, or lets pass one. -/
theorem ForkStep.accepted {stage after : ForkStage}
    (step : ForkStep system task session stage moved after) (passed : after.isAccepted = true) :
    stage.isAccepted = true ∨ stage = .checking ∧ system.lifecycle = .running := by
  cases step with
  | proceed running => exact .inr ⟨rfl, running⟩
  | refuse => cases passed
  | expire => cases passed
  | fail => cases passed
  | finish => cases passed
  | _ => exact .inl rfl

/-- A session that was let pass was looked at while the program was running. -/
theorem accepted_while_running (outset : Outset) (events : List Event)
    (checked : ∀ session, .fork session ∉ events) {stage : ForkStage}
    (found : (outset.system.run events).tasks[task]? = some (.fork session stage))
    (passed : stage.isAccepted = true) :
    ∃ before between, events = before ++ .step task :: between ∧
      (outset.system.run before).tasks[task]? = some (.fork session .checking) ∧
      (outset.system.run before).lifecycle = .running := by
  induction events using List.reverseRecOn generalizing stage with
  | nil => cases found
  | append_singleton events event induction =>
      have earlier (session : Session) : .fork session ∉ events := fun member =>
        checked session (List.mem_append_left _ member)
      -- whoever was let pass before goes on to be so, and the event comes at the end
      have later {stage : ForkStage}
          (found : (outset.system.run events).tasks[task]? = some (.fork session stage))
          (passed : stage.isAccepted = true) :
          ∃ before between, events ++ [event] = before ++ .step task :: between ∧
            (outset.system.run before).tasks[task]? = some (.fork session .checking) ∧
            (outset.system.run before).lifecycle = .running := by
        obtain ⟨before, between, same, looked, running⟩ := induction earlier found passed
        exact ⟨before, between ++ [event], by rw [same]; simp, looked, running⟩
      rw [run_concat] at found
      cases apply_comes (outset.system.run events) event found with
      | stay kind there => exact later there passed
      | begin kind begun =>
          cases begun with
          | session session => cases passed
          | fork session => exact absurd (by simp) (checked session)
      | move old new there alike other => exact absurd rfl other
      | fork session stage after moved own there step applied =>
          rcases step.accepted passed with before | ⟨rfl, running⟩
          · exact later there before
          · exact ⟨events, [], by rw [own], there, running⟩

theorem stopped_meanwhile (reached : system.Reached) (events : List Event)
    (managed : ∀ event ∈ events, event.isManaged = true) (running : system.lifecycle = .running)
    (stopped : (system.run events).lifecycle = .stopped) :
    .stopped ∈ gathered published system events := by
  induction events generalizing system with
  | nil =>
      have same : system.lifecycle = .stopped := stopped
      rw [running] at same
      cases same
  | cons event events induction =>
      have allowed := managed event (by simp)
      have rest (other : Event) (member : other ∈ events) : other.isManaged = true :=
        managed other (List.mem_cons_of_mem _ member)
      have next := (apply_switch reached event allowed).lifecycle
      have said := published_sets reached event allowed
      cases after : (system.apply event).lifecycle with
      | running =>
          exact List.mem_append_right _
            (induction (reached.apply event allowed) rest after stopped)
      | stopped =>
          refine List.mem_append_left _ ?_
          rw [said]
          rw [after, running] at next
          cases sets : system.sets? event with
          | none =>
              rw [sets] at next
              cases next
          | some state =>
              rw [sets] at next
              simp [show state = .stopped from next.symm]

/-- An answer that was given is not changed any more. -/
theorem Reached.answer_stays (reached : system.Reached) (event : Event)
    (managed : event.isManaged = true) {id : RequestId} {outcome : Outcome}
    (answered : system.answer? id = some outcome) :
    (system.apply event).answer? id = some outcome := by
  obtain ⟨front, rest, same, -⟩ := List.lookup_eq_some_iff.mp answered
  have given : (id, outcome) ∈ system.answers := by
    rw [same]
    simp
  exact answer_of_mem (reached.apply event managed).placed (answers_kept reached.kept event given)

theorem Reached.answer_stays_in_run (reached : system.Reached) (events : List Event)
    (managed : ∀ event ∈ events, event.isManaged = true) {id : RequestId} {outcome : Outcome}
    (answered : system.answer? id = some outcome) :
    (system.run events).answer? id = some outcome := by
  let Holds (system : System) : Prop := system.Reached ∧ system.answer? id = some outcome
  have kept (system : System) (event : Event) (allowed : event.isManaged = true)
      (holds : Holds system) : Holds (system.apply event) :=
    ⟨holds.1.apply event allowed, holds.1.answer_stays event allowed holds.2⟩
  have start : Holds system := ⟨reached, answered⟩
  exact (run_invariant_of kept start events managed).2

/-- A session that was started while the queue is closed has its refresh cancelled. -/
theorem started_too_late (isClosed : system.openLane = none)
    (started : system.tasks[task]? = some (.fork session .started)) :
    (system.apply (.step task)).tasks[task]? =
        some (.fork session (.awaiting system.submitted)) ∧
      (system.apply (.step task)).answer? system.submitted = some (.error .cancelled) := by
  have bound := (List.getElem?_eq_some_iff.mp started).1
  have applied : system.apply (.step task) =
      (system.submit (.afterSession system.store.features) false).setTask task
        (.fork session (.awaiting system.submitted)) := by
    simp [apply, step, started, stepFork]
  rw [applied, submit_closed isClosed]
  constructor
  · simp [setTask, bound]
  · simp [answer?, setTask]

/-- What becomes of sessions in a program that may be stopped meanwhile, after a run from
the outset. -/
structure SessionsChecked (outset : Outset) (events : List Event) : Prop where
  /-- A call that starts a session was let pass while the program was running. When the
  program is stopped by the time the call begins, it was stopped since then. -/
  called : ∀ event session, ((outset.system.run events).apply event).issuer.calls =
      .session session :: (outset.system.run events).issuer.calls →
    ∃ task before between, event = .step task ∧ events = before ++ .step task :: between ∧
      (outset.system.run before).tasks[task]? = some (.fork session .checking) ∧
      (outset.system.run before).lifecycle = .running ∧
      ((outset.system.run events).lifecycle = .stopped →
        .stopped ∈ gathered published (outset.system.run before) (.step task :: between))
  /-- A session that is looked at while the program is stopped is cancelled at once. -/
  refused : ∀ (task : TaskId) session, (outset.system.run events).lifecycle = .stopped →
    (outset.system.run events).tasks[task]? = some (.fork session .checking) →
      (outset.system.run events).apply (.step task) =
        (outset.system.run events).setTask task (.fork session (.ended (.error .cancelled)))
  /-- A session whose call ended while the program is stopped waits for a request whose
  answer is that it was cancelled, for good. -/
  late : ∀ (task : TaskId) session, (outset.system.run events).lifecycle = .stopped →
    (outset.system.run events).tasks[task]? = some (.fork session .started) →
      ((outset.system.run events).apply (.step task)).tasks[task]? =
          some (.fork session (.awaiting (outset.system.run events).submitted)) ∧
        ∀ later : List Event, (∀ event ∈ later, event.isManaged = true) →
          (((outset.system.run events).apply (.step task)).run later).answer?
            (outset.system.run events).submitted = some (.error .cancelled)

/-- No session is started that was not let pass while the program was running. Nothing
looks again whether it still is when the session has got the token. -/
theorem sessions_start_when_let_pass (outset : Outset) (events : List Event)
    (managed : ∀ event ∈ events, event.isManaged = true)
    (checked : ∀ session, .fork session ∉ events) : SessionsChecked outset events := by
  have reached := run_reached (outset_reached outset) events managed
  constructor
  · intro event session begins
    obtain ⟨task, own, found⟩ := session_caller begins
    obtain ⟨before, between, same, looked, running⟩ :=
      accepted_while_running outset events checked found rfl
    refine ⟨task, before, between, own, same, looked, running, fun stopped => ?_⟩
    subst same
    have earlier (other : Event) (member : other ∈ before) : other.isManaged = true :=
      managed other (List.mem_append_left _ member)
    have later (other : Event) (member : other ∈ .step task :: between) :
        other.isManaged = true := managed other (List.mem_append_right _ member)
    rw [run_append] at stopped
    exact stopped_meanwhile (run_reached (outset_reached outset) before earlier) _ later running
      stopped
  · intro task session stopped looks
    simp [apply, step, looks, stepFork, stopped]
  · intro task session stopped started
    have isClosed := ((run_tended outset events managed).told reached).stopped stopped |>.1
    obtain ⟨awaits, answered⟩ := started_too_late isClosed started
    refine ⟨awaits, fun later allowed => ?_⟩
    exact (reached.apply (.step task) rfl).answer_stays_in_run later allowed answered

/-- Two sessions are let pass. While the first one is in its call the program is stopped,
and when that call has ended the second one gets the token. -/
def stoppedMeanwhile : List Event :=
  [.start, .step 0, .step 0, .newSession ⟨"first", none⟩, .newSession ⟨"second", none⟩,
    .step 2, .step 2, .step 2, .step 3, .step 3, .stop, .step 4, .step 4, .step 1, .step 4,
    .permitSessions 1, .step 2, .step 2, .step 3]

theorem second_session_let_pass_before :
    ∃ before between, stoppedMeanwhile = before ++ .step 3 :: between ∧
      (Outset.guarded.system.run before).lifecycle = .running ∧
      .stopped ∈ gathered published (Outset.guarded.system.run before) (.step 3 :: between) := by
  have unforked (session : Session) : .fork session ∉ stoppedMeanwhile := by
    simp [stoppedMeanwhile]
  have checked := sessions_start_when_let_pass .guarded stoppedMeanwhile (by decide) unforked
  obtain ⟨task, before, between, own, same, -, running, stopped⟩ :=
    checked.called (.step 3) ⟨"second", none⟩ rfl
  obtain rfl : 3 = task := Event.step.inj own
  exact ⟨before, between, same, running, stopped rfl⟩

/-- The second session is started although the program is stopped, and is cancelled
afterwards. -/
theorem session_starts_while_stopped :
    let stopped := Outset.guarded.system.run stoppedMeanwhile
    stopped.lifecycle = .stopped ∧
      (stopped.apply (.step 3)).issuer.calls =
        .session ⟨"second", none⟩ :: stopped.issuer.calls ∧
      (stopped.run [.step 3, .permitSessions 1, .step 3, .step 3, .step 3, .step 3]).tasks[3]? =
        some (.fork ⟨"second", none⟩ (.ended (.error .cancelled))) := by
  exact ⟨rfl, rfl, rfl⟩

end System

end CertRenewal
