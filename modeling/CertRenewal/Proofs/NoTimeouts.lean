import CertRenewal.Proofs.Quiescence

/-!
As long as no session is started, nobody waits for the token. The worker of a lane gives
it back before it takes up the next request, and a lane is opened only when the one
before it is drained. So an operation finds the token free when it asks for it, however
long its request waited before that and however short the time limit is.
-/

namespace CertRenewal

/-- Whether the host leaves the program to itself, and starts no session. -/
def Event.isSessionless : Event → Bool
  | .newSession _ => false
  | .fork _ => false
  | event => event.isCoordinated

/-- What the issuer answers is never told as a time that ran out or as a call to cancel. -/
theorem Catalogue.classify_answered (catalogue : Catalogue) (failure : RemoteFailure) :
    catalogue.classify failure ≠ .timedOut ∧ catalogue.classify failure ≠ .cancelled := by
  unfold classify
  split
  · rename_i kind found
    cases kind <;> exact ⟨nofun, nofun⟩
  · exact ⟨nofun, nofun⟩

namespace System

variable {system next moved : System} {event : Event} {task : TaskId} {lane : LaneId}

/-- What holds as long as only the workers of lanes take the token. -/
structure Secluded (system : System) : Prop where
  reached : system.Reached
  rivals : system.TasksPass fun kind => !kind.isRival
  unwaited : ∀ task, system.role task ≠ .standing

theorem no_rival (rivals : system.TasksPass fun kind => !kind.isRival) (place : TaskId)
    (kind : Task) (found : system.tasks[place]? = some kind) : kind.kind.isRival = false := by
  simpa using rivals place kind found

theorem coordinated_of_sessionless (allowed : event.isSessionless = true) :
    event.isCoordinated = true := by
  cases event <;> first | exact allowed | cases allowed

/-- One lane at most serves a request. -/
theorem Reached.one_serves (reached : system.Reached) {first second : LaneId} {held there : Lane}
    {entry other : RequestId × Operation} (found : system.lanes[first]? = some held)
    (current : held.current = some entry) (present : system.lanes[second]? = some there)
    (serves : there.current = some other) : first = second := by
  have busy {lane : LaneId} {held : Lane} {entry : RequestId × Operation}
      (found : system.lanes[lane]? = some held) (current : held.current = some entry) :
      system.helm.lanes[lane]? = some held.phase ∧ held.phase ≠ .drained :=
    ⟨by simp [helm, found], mt Lane.drained_of_phase
      (reached.kept.undrained found (Traffic.pending_of_current current))⟩
  obtain ⟨phase, undrained⟩ := busy found current
  obtain ⟨phaseToo, undrainedToo⟩ := busy present serves
  exact reached.managed.undrained_unique phase undrained phaseToo undrainedToo

/-- Only the worker of that lane has to do with the token. -/
theorem Reached.alone (reached : system.Reached)
    (rivals : system.TasksPass fun kind => !kind.isRival) (first second : TaskId)
    (one : system.role first ≠ .idle) (other : system.role second ≠ .idle) : first = second := by
  have inside := no_rival rivals
  obtain ⟨lane, held, entry, worker, found, current⟩ := serving_of_role (inside first) one
  obtain ⟨served, there, rest, rival, present, serves⟩ := serving_of_role (inside second) other
  obtain rfl := reached.one_serves found current present serves
  exact reached.sound.crewed.worker_unique worker rival

theorem Secluded.apply (secluded : system.Secluded) (allowed : event.isSessionless = true) :
    (system.apply event).Secluded := by
  have coordinated := coordinated_of_sessionless allowed
  have reached := secluded.reached.apply event (managed_of_coordinated coordinated)
  have rivals : (system.apply event).TasksPass fun kind => !kind.isRival := by
    refine secluded.rivals.apply (fun kind begun => ?_) (fun taken => ?_) rfl rfl
    · cases begun <;> first | rfl | cases allowed
    · subst taken
      cases allowed
  exact ⟨reached, rivals,
    secluded.reached.sound.nobody_waits event (reached.alone rivals) secluded.unwaited⟩

theorem run_secluded (outset : Outset) (events : List Event)
    (allowed : ∀ event ∈ events, event.isSessionless = true) :
    (outset.system.run events).Secluded :=
  run_invariant_of (fun _ _ allowed secluded => secluded.apply allowed)
    ⟨outset_reached outset, fun _ _ found => (nomatch found), fun _ stands => nomatch stands⟩
    events allowed

/-- An operation times out in line, and nowhere else. -/
theorem OperationStep.timed_out {isCancelled : Bool} {operation after : Operation}
    (step : OperationStep system task isCancelled operation moved after)
    (ended : after.stage = .ended (.error .timedOut)) : operation.stage.role = .standing := by
  cases step with
  | expire alarm stage going ungranted due => rw [stage]; rfl
  | fail failure stage refused =>
      have same : system.catalogue.classify failure = .timedOut :=
        Except.error.inj (Stage.ended.inj ended)
      exact absurd same (system.catalogue.classify_answered failure).1
  | _ => cases ended

theorem serving_role {held : Lane} {id : RequestId} {operation : Operation}
    (worker : system.tasks[task]? = some (.worker lane))
    (found : system.lanes[lane]? = some held) (current : held.current = some (id, operation)) :
    system.role task = operation.stage.role := by
  rw [worker_role worker found, Lane.role, current]

theorem Secluded.replies (secluded : system.Secluded) {giver : Option LaneId} {id : RequestId}
    {outcome : Outcome} (replied : (giver, id, outcome) ∈ system.replies event) :
    outcome ≠ .error .timedOut := by
  intro expired
  subst expired
  rcases reply_cases secluded.reached.kept replied with ⟨cancelled, -⟩ | ended
  · cases cancelled
  · obtain ⟨task, lane, held, operation, moved, after, -, worker, found, current, step, ended⟩ :=
      ended
    have stands := step.timed_out ended
    rw [← serving_role worker found current] at stands
    exact secluded.unwaited task stands

/-- The token is free while the operation that is served has not asked for it. -/
theorem Secluded.token_free (secluded : system.Secluded) {held : Lane} {id : RequestId}
    {operation : Operation} (found : system.lanes[lane]? = some held)
    (current : held.current = some (id, operation)) (idle : operation.stage.role = .idle) :
    system.token.place = .free := by
  by_contra taken
  obtain ⟨owner, active⟩ := secluded.reached.sound.fits.taken taken
  have busy : system.role owner ≠ .idle := by
    intro rests
    exact active (by unfold stake; rw [rests]; rfl)
  obtain ⟨served, there, ⟨other, rival⟩, worker, present, serves⟩ :=
    serving_of_role (no_rival secluded.rivals owner) busy
  obtain rfl := secluded.reached.one_serves found current present serves
  obtain rfl : held = there := Option.some.inj (found.symm.trans present)
  obtain rfl : operation = rival :=
    congrArg Prod.snd (Option.some.inj (current.symm.trans serves))
  exact busy ((serving_role worker found current).trans idle)

theorem Secluded.not_waiting (secluded : system.Secluded) {held : Lane} {id : RequestId}
    {operation : Operation} (found : system.lanes[lane]? = some held)
    (current : held.current = some (id, operation)) (alarm : Alarm) :
    operation.stage ≠ .waiting alarm := by
  intro waits
  have pending := Traffic.pending_of_current current
  obtain ⟨task, worker, -⟩ :=
    lane_goes_on secluded.reached.sound.crewed secluded.reached.kept found pending
  refine secluded.unwaited task ?_
  rw [serving_role worker found current, waits]
  rfl

theorem no_time_out (outset : Outset) (events : List Event)
    (allowed : ∀ event ∈ events, event.isSessionless = true) (id : RequestId) :
    (id, .error .timedOut) ∉ (outset.system.run events).answers := by
  induction events using List.reverseRecOn with
  | nil => exact nofun
  | append_singleton events event induction =>
      have earlier (other : Event) (member : other ∈ events) : other.isSessionless = true :=
        allowed other (List.mem_append_left _ member)
      have before := run_secluded outset events earlier
      intro answered
      rw [run_concat, (passage before.reached.kept event).answers] at answered
      rcases List.mem_append.mp answered with new | old
      · obtain ⟨⟨giver, reply⟩, replied, same⟩ := List.mem_map.mp (List.mem_reverse.mp new)
        subst same
        exact before.replies replied rfl
      · exact induction earlier old

/-- As long as no session is started no request is answered with a time-out, whatever the
time limit is: the token is free when an operation asks for it, and none waits for it. -/
theorem queued_requests_never_time_out (outset : Outset) (events : List Event)
    (allowed : ∀ event ∈ events, event.isSessionless = true) :
    let system := outset.system.run events
    (∀ id, (id, .error .timedOut) ∉ system.answers) ∧
      ∀ (lane : LaneId) (held : Lane) (id : RequestId) (operation : Operation),
        system.lanes[lane]? = some held → held.current = some (id, operation) →
          (operation.stage = .arriving → system.token.place = .free) ∧
            ∀ alarm, operation.stage ≠ .waiting alarm := by
  intro system
  have secluded := run_secluded outset events allowed
  refine ⟨no_time_out outset events allowed, ?_⟩
  intro lane held id operation found current
  refine ⟨?_, secluded.not_waiting found current⟩
  intro arriving
  exact secluded.token_free found current (by rw [arriving]; rfl)

end System

/-- A program in which nobody waits for the token. -/
def Outset.hasty : Outset :=
  { Outset.guarded with intervals := { Intervals.standard with waitTimeout := 0 } }

namespace System

/-- Two requests were cut off by a call to stop, one of them in its call, and a third one
is about to ask for the token since the program was started again. -/
def restarted : System :=
  Outset.hasty.system.run [.start, .step 0, .step 0, .submit (.user none) true,
    .submit (.user none) true, .step 1, .step 1, .step 1, .step 1, .stop, .step 2, .step 2,
    .permitRefreshes 1, .step 1, .step 1, .step 1, .step 1, .step 1, .step 2, .start, .step 3,
    .step 3, .submit (.user none) true, .step 4, .step 4]

theorem restarted_without_time_out :
    (∀ id, (id, .error .timedOut) ∉ restarted.answers) ∧ restarted.token.place = .free := by
  obtain ⟨patient, serves⟩ := queued_requests_never_time_out .hasty [.start, .step 0, .step 0,
    .submit (.user none) true, .submit (.user none) true, .step 1, .step 1, .step 1, .step 1,
    .stop, .step 2, .step 2, .permitRefreshes 1, .step 1, .step 1, .step 1, .step 1, .step 1,
    .step 2, .start, .step 3, .step 3, .submit (.user none) true, .step 4, .step 4] (by decide)
  obtain ⟨held, operation, found, current, arriving⟩ : ∃ held operation,
    restarted.lanes[1]? = some held ∧ held.current = some (2, operation) ∧
      operation.stage = .arriving := ⟨_, _, rfl, rfl, rfl⟩
  exact ⟨patient, (serves 1 held 2 operation found current).1 arriving⟩

end System

end CertRenewal
