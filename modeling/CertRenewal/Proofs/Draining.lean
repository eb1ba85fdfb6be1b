import CertRenewal.Proofs.Control
import CertRenewal.Proofs.Exclusion
import CertRenewal.Proofs.Filing
import CertRenewal.Proofs.Progress

/-!
What becomes of a lane that a call to stop shuts. Its worker begins no further call.
A refresh that is in flight comes to the answer of the issuer, and every other
request of the lane is cancelled. The calls to stop return when all of that is done,
and until the program is started again every new request is cancelled at once.
-/

namespace CertRenewal

/-- The refresh that a lane has in flight, if there is one. -/
def Lane.flight? (lane : Lane) : Option (RequestId × Request) :=
  match lane.current with
  | some (id, operation) =>
      if operation.stage.role = .refreshing then some (id, operation.request) else none
  | none => none

namespace System

def flightOf (system : System) : LaneId → Option (RequestId × Request) :=
  readLane Lane.flight? none system.lanes

/-- What the next answer of the issuer makes of a request: a failure is handed on, and a
certificate is read back from the store afterwards, together with the features that were
asked for, unless it cannot be stored. -/
inductive Concluded (system : System) (request : Request) : Outcome → Store → Prop
  | failed (failure : RemoteFailure)
      (refused : (system.issuer.endRefresh system.now).1 = .error failure) :
      Concluded system request (.error (system.catalogue.classify failure)) system.store
  | stored (certificate : Certificate) (store : Store)
      (issued : (system.issuer.endRefresh system.now).1 = .ok certificate)
      (saved : (system.storeCertificate certificate request.features).1 = .ok ())
      (result : store = (system.storeCertificate certificate request.features).2.store)
      (held : store.certificate = some (system.store.readBack certificate))
      (recalled : (system.store.onDisk = true → certificate.IsTimed) →
        store.certificate = some (system.store.recalled certificate))
      (features : store.features = request.features) : Concluded system request (.ok ()) store
  | lost (certificate : Certificate) (reason : String) (store : Store)
      (issued : (system.issuer.endRefresh system.now).1 = .ok certificate)
      (refused : (system.storeCertificate certificate request.features).1 = .error reason)
      (result : store = (system.storeCertificate certificate request.features).2.store)
      (unstorable : Unstorable system certificate request.features reason)
      (kept : system.store.keys.1.isSome = true →
        store.certificate = system.store.certificate ∧ store.features = system.store.features) :
      Concluded system request (.error (unstored reason)) store

variable {system next moved : System} {task : TaskId} {lane : LaneId}

/-- What a step of a cancelled operation comes to: it stays in its call, or takes the
answer of the issuer, or was in no call and gives up. -/
inductive Ending (system : System) (operation : Operation) (moved : System) (next : Operation) :
    Prop
  | fly (before : operation.stage.role = .refreshing) (after : next.stage.role = .refreshing)
      (same : next.request = operation.request)
      (calls : moved.issuer.calls = system.issuer.calls) (store : moved.store = system.store)
  | conclude (outcome : Outcome) (before : operation.stage.role = .refreshing)
      (ended : next.stage = .ended outcome)
      (concluded : Concluded system operation.request outcome moved.store)
      (calls : moved.issuer.calls = system.issuer.calls)
  | giveUp (before : operation.stage.role ≠ .refreshing)
      (ended : next.stage = .ended (.error .cancelled))
      (calls : moved.issuer.calls = system.issuer.calls) (store : moved.store = system.store)

theorem end_refresh_calls (issuer : Issuer) (now : Instant) :
    (issuer.endRefresh now).2.calls = issuer.calls := by
  unfold Issuer.endRefresh
  split <;> rfl

theorem concluded_stored {certificate : Certificate} {request : Request}
    (issued : (system.issuer.endRefresh system.now).1 = .ok certificate)
    (saved : (system.storeCertificate certificate request.features).1 = .ok ()) :
    Concluded system request (.ok ())
      (system.storeCertificate certificate request.features).2.store := by
  obtain ⟨stored, same⟩ := saved_store saved
  have held := Store.store_read_back stored
  have recalled := Store.store_certificate stored
  have features := Store.store_features stored
  rw [← same] at held recalled features
  exact .stored certificate _ issued saved rfl held recalled features

theorem concluded_lost {certificate : Certificate} {request : Request} {reason : String}
    (issued : (system.issuer.endRefresh system.now).1 = .ok certificate)
    (lost : (system.storeCertificate certificate request.features).1 = .error reason) :
    Concluded system request (.error (unstored reason))
      (system.storeCertificate certificate request.features).2.store :=
  .lost certificate reason _ issued lost rfl (lost_store lost).1 fun found => lost_keeps found lost

theorem OperationStep.ending {operation after : Operation}
    (step : OperationStep system task true operation moved after) :
    Ending system operation moved after := by
  have calls := end_refresh_calls system.issuer system.now
  cases step with
  | abandon early cancelled =>
      refine .giveUp ?_ rfl rfl rfl
      rcases early with stage | stage <;> simp [stage, Stage.role]
  | withdraw alarm stage cancelled => exact .giveUp (by simp [stage, Stage.role]) rfl rfl rfl
  | turnBack stage cancelled => exact .giveUp (by simp [stage, Stage.role]) rfl rfl rfl
  | arrive stage going => cases going
  | enter stage going free => cases going
  | queue stage going taken => cases going
  | accept alarm stage going granted => cases going
  | expire alarm stage going ungranted due => cases going
  | skip stage going fresh => cases going
  | keyless stage going needed missing => cases going
  | call keys stage going needed found => cases going
  | pass gate stage passes instant =>
      exact .fly (by simp [stage, Stage.role]) rfl rfl rfl rfl
  | delay gate stage passes slow =>
      exact .fly (by simp [stage, Stage.role]) rfl rfl rfl rfl
  | wake alarm stage due => exact .fly (by simp [stage, Stage.role]) rfl rfl rfl rfl
  | fail failure stage refused =>
      exact .conclude _ (by simp [stage, Stage.role]) rfl (.failed failure refused) calls
  | save certificate stage issued saved =>
      have same := store_answered system certificate operation.request.features
      refine .conclude _ (by simp [stage, Stage.role]) rfl ?_ ?_
      · have stored := concluded_stored issued (same.1 ▸ saved)
        rw [← same.2] at stored
        exact stored
      · rw [kept_frame]
        exact calls
  | lose certificate reason stage issued lost =>
      have same := store_answered system certificate operation.request.features
      refine .conclude _ (by simp [stage, Stage.role]) rfl ?_ ?_
      · have unstored := concluded_lost issued (same.1 ▸ lost)
        rw [← same.2] at unstored
        exact unstored
      · rw [kept_frame]
        exact calls

/-- What an event does to a lane that is shut. -/
inductive Settles (system : System) (event : Event) (lane : LaneId) (held : Lane) : Lane → Prop
  | aside (others : system.mover? event ≠ some lane) : Settles system event lane held held
  | silent (new : Lane) (shut : new.isShut = true)
      (calls : (system.apply event).issuer.calls = system.issuer.calls)
      (store : (system.apply event).store = system.store) (quiet : system.replies event = [])
      (flight : new.flight? = held.flight?) :
      Settles system event lane held new
  | cancelled (new : Lane) (id : RequestId) (shut : new.isShut = true)
      (calls : (system.apply event).issuer.calls = system.issuer.calls)
      (store : (system.apply event).store = system.store)
      (replied : system.replies event = [(some lane, id, .error .cancelled)])
      (grounded : held.flight? = none) (flight : new.flight? = none) :
      Settles system event lane held new
  | concluded (new : Lane) (id : RequestId) (request : Request) (outcome : Outcome)
      (shut : new.isShut = true)
      (calls : (system.apply event).issuer.calls = system.issuer.calls)
      (flew : held.flight? = some (id, request))
      (replied : system.replies event = [(some lane, id, outcome)])
      (concluded : Concluded system request outcome (system.apply event).store)
      (flight : new.flight? = none) : Settles system event lane held new

theorem flight_of_current {held : Lane} {id : RequestId} {operation : Operation}
    (current : held.current = some (id, operation)) (flies : operation.stage.role = .refreshing) :
    held.flight? = some (id, operation.request) := by
  simp [Lane.flight?, current, flies]

theorem flight_of_grounded {held : Lane} {id : RequestId} {operation : Operation}
    (current : held.current = some (id, operation))
    (grounded : operation.stage.role ≠ .refreshing) : held.flight? = none := by
  simp [Lane.flight?, current, grounded]

section

variable {held : Lane} {id : RequestId} {operation after : Operation}
  (shut : held.isShut = true) (current : held.current = some (id, operation))
  (moves : OperationStep system task true operation moved after)

include shut current moves

/-- A cancelled operation goes on only in a call. -/
theorem settles_carry (stepped : system.step task =
    some (moved.setLane lane { held with current := some (id, after) }))
    (going : ∀ outcome, after.stage ≠ .ended outcome) :
    Settles system (.step task) lane held { held with current := some (id, after) } := by
  have applied := step_applied stepped
  cases moves.ending with
  | fly before flies same calls store =>
      refine .silent _ shut ?_ ?_ (no_replies stepped ?_) ?_
      · rw [applied]
        exact calls
      · rw [applied]
        exact store
      · rw [moves.frame]
        rfl
      · rw [flight_of_current current before, ← same]
        exact flight_of_current rfl flies
  | conclude outcome before ended => exact absurd ended (going outcome)
  | giveUp before ended => exact absurd ended (going _)

theorem settles_deliver (worker : system.tasks[task]? = some (.worker lane)) {outcome : Outcome}
    (stepped : system.step task =
      some ((moved.setLane lane { held with current := none }).answer id outcome))
    (ended : after.stage = .ended outcome) :
    Settles system (.step task) lane held { held with current := none } := by
  have applied := step_applied stepped
  have replied : system.replies (.step task) = [(some lane, id, outcome)] := by
    refine reply_of_worker worker stepped ?_
    rw [moves.frame]
    rfl
  cases moves.ending with
  | fly before flies =>
      rw [ended] at flies
      cases flies
  | conclude result before came concluded calls =>
      obtain rfl : outcome = result := Stage.ended.inj (ended.symm.trans came)
      refine .concluded _ id operation.request outcome shut ?_
        (flight_of_current current before) replied ?_ rfl
      · rw [applied]
        exact calls
      · rw [applied]
        exact concluded
  | giveUp before came calls store =>
      obtain rfl : outcome = .error .cancelled := Stage.ended.inj (ended.symm.trans came)
      refine .cancelled _ id shut ?_ ?_ replied (flight_of_grounded current before) rfl
      · rw [applied]
        exact calls
      · rw [applied]
        exact store

end

theorem WorkerStep.settles {held : Lane} (worker : system.tasks[task]? = some (.worker lane))
    (found : system.lanes[lane]? = some held) (shut : held.isShut = true)
    (stepped : system.step task = some next) (step : WorkerStep system task lane next) :
    ∃ new, next.lanes[lane]? = some new ∧ Settles system (.step task) lane held new := by
  have bound := (List.getElem?_eq_some_iff.mp found).1
  have applied := step_applied stepped
  cases step with
  | carry old id operation after moved there current moves going =>
      obtain rfl : held = old := Option.some.inj (found.symm.trans there)
      rw [shut] at moves
      refine ⟨{ held with current := some (id, after) }, ?_,
        settles_carry shut current moves stepped going⟩
      rw [moves.frame]
      simp [setLane, bound]
  | deliver old id operation after moved outcome there current moves ended =>
      obtain rfl : held = old := Option.some.inj (found.symm.trans there)
      rw [shut] at moves
      refine ⟨{ held with current := none }, ?_,
        settles_deliver shut current moves worker stepped ended⟩
      rw [moves.frame]
      simp [setLane, answer, bound]
  | takeUp old queued rest there idle waiting =>
      obtain rfl : held = old := Option.some.inj (found.symm.trans there)
      refine ⟨{ held with waiting := rest, current := some (queued.id, .start queued.request) }, ?_,
        .silent _ shut ?_ ?_ (no_replies stepped rfl) ?_⟩
      · simp [setLane, bound]
      · rw [applied]
        rfl
      · rw [applied]
        rfl
      · simp [Lane.flight?, idle, Operation.start, Stage.role]
  | drain old there idle empty isShut undrained =>
      obtain rfl : held = old := Option.some.inj (found.symm.trans there)
      refine ⟨{ held with isDrained := true }, ?_,
        .silent _ shut ?_ ?_ (no_replies stepped rfl) rfl⟩
      · simp [setLane, bound]
      · rw [applied]
        rfl
      · rw [applied]
        rfl

/-- A request is answered when its operation comes to an end, unless it is cancelled at
once because no lane is open. -/
theorem reply_cases (kept : system.traffic.Kept) {event : Event} {giver : Option LaneId}
    {id : RequestId} {outcome : Outcome} (replied : (giver, id, outcome) ∈ system.replies event) :
    outcome = .error .cancelled ∧ (id, none) ∈ system.submissions event ∨
      ∃ (task : TaskId) (lane : LaneId) (held : Lane) (operation : Operation) (moved : System)
        (after : Operation), event = .step task ∧ system.tasks[task]? = some (.worker lane) ∧
          system.lanes[lane]? = some held ∧ held.current = some (id, operation) ∧
          OperationStep system task held.isShut operation moved after ∧
          after.stage = .ended outcome := by
  have given : giver = system.mover? event := by
    obtain ⟨answer, -, same⟩ := List.mem_map.mp replied
    exact (congrArg Prod.fst same).symm
  cases mover : system.mover? event with
  | none =>
      left
      rw [given, mover] at replied
      have refused : (id, outcome) ∈ givenBy none (system.replies event) :=
        List.mem_map.mpr ⟨_, List.mem_filter.mpr ⟨replied, by simp⟩, rfl⟩
      rw [(passage kept event).refused] at refused
      obtain ⟨other, sent, same⟩ := List.mem_map.mp refused
      obtain ⟨rfl, rfl⟩ := Prod.mk.inj same
      exact ⟨rfl, mem_sent_to sent⟩
  | some lane =>
      obtain ⟨task, rfl, worker⟩ := worker_event mover
      have steps : system.step task = system.stepWorker task lane := by simp [step, worker]
      have silent (none : system.replies (.step task) = []) : False := by
        rw [none] at replied
        cases replied
      cases stepped : system.step task with
      | none =>
          have stays : system.apply (.step task) = system := by simp [apply, stepped]
          exact (silent (@replies_of_answers system (.step task) [] (by rw [stays]; rfl))).elim
      | some next =>
          have rule := step_worker_cases (steps ▸ stepped)
          cases rule with
          | carry held other operation after moved there current moves going =>
              exact (silent (no_replies stepped (by rw [moves.frame]; rfl))).elim
          | takeUp => exact (silent (no_replies stepped rfl)).elim
          | drain => exact (silent (no_replies stepped rfl)).elim
          | deliver held other operation after moved result there current moves ended =>
              right
              rw [reply_of_worker worker stepped (by rw [moves.frame]; rfl), List.mem_singleton,
                Prod.mk.injEq, Prod.mk.injEq] at replied
              obtain ⟨-, rfl, rfl⟩ := replied
              exact ⟨task, lane, held, operation, moved, after, rfl, worker, there, current, moves,
                ended⟩

end System

namespace Traffic

variable {asks : Request → Prop} {traffic next : Traffic} {lane : LaneId} {held : Lane}

theorem Submissions.shut_lane (kept : traffic.Kept)
    (submissions : Relation.ReflTransGen (Submission asks) traffic next)
    (found : traffic.lanes[lane]? = some held) (shut : held.isShut = true) :
    next.lanes[lane]? = some held := by
  induction submissions with
  | refl => exact found
  | tail before last induction =>
      have between := Submissions.kept kept before
      cases last with
      | refuse isClosed => exact induction
      | accept request opened isOpen =>
          have elsewhere : opened ≠ lane :=
            fun same => between.not_open induction shut (same ▸ isOpen)
          exact (List.getElem?_modify_ne _ _ elsewhere).trans induction

/-- A lane that is shut is left alone by everybody but its worker. -/
theorem Step.shut_lane {mover : Option LaneId} (kept : traffic.Kept)
    (step : Step mover asks traffic next) (found : traffic.lanes[lane]? = some held)
    (shut : held.isShut = true)
    (others : mover ≠ some lane) : next.lanes[lane]? = some held := by
  have bound := (List.getElem?_eq_some_iff.mp found).1
  have closed := kept.not_open found shut
  have elsewhere {served : LaneId} (worker : mover = some served) : served ≠ lane := by
    rintro rfl
    exact others worker
  cases step with
  | rest listeners => exact found
  | submit listeners next host submissions =>
      have asked : ({ traffic with listeners := listeners } : Traffic).Kept := kept.congr rfl rfl
      exact Submissions.shut_lane asked submissions found shut
  | opened isClosed => rw [List.getElem?_append_left bound, found]
  | shut opened isOpen =>
      have different : opened ≠ lane := fun same => closed (same ▸ isOpen)
      exact (List.getElem?_modify_ne _ _ different).trans found
  | carry served old id operation after worker =>
      rw [List.getElem?_set_ne (elsewhere worker)]
      exact found
  | takeUp served old queued rest worker =>
      rw [List.getElem?_set_ne (elsewhere worker)]
      exact found
  | deliver served old id operation outcome worker =>
      have set : (traffic.lanes.set served { old with current := none })[lane]? = some held := by
        rw [List.getElem?_set_ne (elsewhere worker), found]
      exact set
  | drain served old worker =>
      rw [List.getElem?_set_ne (elsewhere worker)]
      exact found

end Traffic

namespace System

variable {system : System} {lane : LaneId}

theorem settles (kept : system.traffic.Kept) (event : Event) {held : Lane}
    (found : system.lanes[lane]? = some held) (shut : held.isShut = true) :
    ∃ new, (system.apply event).lanes[lane]? = some new ∧ new.isShut = true ∧
      system.Settles event lane held new := by
  by_cases mover : system.mover? event = some lane
  · obtain ⟨task, rfl, worker⟩ := worker_event mover
    have steps : system.step task = system.stepWorker task lane := by simp [step, worker]
    cases stepped : system.step task with
    | none =>
        have stays : system.apply (.step task) = system := by simp [apply, stepped]
        refine ⟨held, ?_, shut, .silent held shut ?_ ?_ ?_ rfl⟩
        · rw [stays, found]
        · rw [stays]
        · rw [stays]
        · exact @replies_of_answers system (.step task) [] (by rw [stays]; rfl)
    | some next =>
        have applied : system.apply (.step task) = next := step_applied stepped
        have rule := step_worker_cases (steps ▸ stepped)
        obtain ⟨new, there, settles⟩ := rule.settles worker found shut stepped
        refine ⟨new, by rw [applied, there], ?_, settles⟩
        cases settles with
        | aside others => exact shut
        | silent new shut => exact shut
        | cancelled new id shut => exact shut
        | concluded new id request outcome shut => exact shut
  · exact ⟨held, (apply_traffic system event).shut_lane kept found shut mover, shut, .aside mover⟩

/-- A state that can come about as long as the host leaves the queue and the schedule
to the calls that start and stop the program. -/
structure Reached (system : System) : Prop where
  sound : system.Sound
  kept : system.traffic.Kept
  managed : system.helm.Managed
  placed : system.places.Perm (List.range system.submitted)

theorem Reached.apply (reached : system.Reached) (event : Event)
    (managed : event.isManaged = true) : (system.apply event).Reached where
  sound := reached.sound.apply event
  kept := (apply_traffic system event).kept reached.kept
  managed := (apply_helm reached.kept event managed).managed reached.managed
  placed := places_apply reached.kept event reached.placed

theorem run_reached {system : System} (reached : system.Reached) (events : List Event)
    (managed : ∀ event ∈ events, event.isManaged = true) : (system.run events).Reached :=
  run_invariant_of (fun _ event allowed reached => reached.apply event allowed) reached events
    managed

theorem outset_reached (outset : Outset) : outset.system.Reached where
  sound := outset_sound outset
  kept := run_kept outset []
  managed := outset_managed outset
  placed := requests_placed outset []

theorem answers_grow (kept : system.traffic.Kept) (event : Event) {id : RequestId}
    (answered : id ∈ system.answers.map (·.1)) : id ∈ (system.apply event).answers.map (·.1) := by
  obtain ⟨entry, given, rfl⟩ := List.mem_map.mp answered
  exact List.mem_map_of_mem (answers_kept kept event given)

/-- Once every lane is drained every request is answered, and no worker has anything
to do with the token. -/
theorem Reached.all_answered (reached : system.Reached)
    (drained : ∀ (lane : LaneId) (held : Lane), system.lanes[lane]? = some held →
      held.isDrained = true) :
    (∀ id < system.submitted, id ∈ system.answers.map (·.1)) ∧
      ∀ (worker : TaskId) (served : LaneId), system.tasks[worker]? = some (.worker served) →
        system.role worker = .idle := by
  have empty (lane : LaneId) (held : Lane) (found : system.lanes[lane]? = some held) :
      held.pending = [] := (reached.kept.drained lane held found (drained lane held found)).2
  constructor
  · intro id submitted
    rcases answered_or_pending reached.placed submitted with answered | ⟨lane, held, found, waits⟩
    · exact answered
    · rw [empty lane held found] at waits
      cases waits
  · intro worker served found
    rw [role_found found]
    simp only [Task.role, laneRole]
    cases there : system.lanes[served]? with
    | none => exact read_lane_missing there
    | some held =>
        rw [read_lane_found there]
        have none := empty served held there
        cases current : held.current with
        | none => simp [Lane.role, current]
        | some entry => simp [Lane.pending, Lane.served, current] at none

theorem TaskStep.submits_or_calls (step : TaskStep system task next) :
    next.submitted = system.submitted ∨ next.issuer = system.issuer := by
  cases step.work with
  | nobody next idle store issuer => exact .inr issuer
  | operation next moved who operation after isCancelled busy moves store issuer submitted =>
      exact .inl submitted
  | session session stage after moved found moves =>
      cases moves with
      | submit => exact .inr (submit_store _ _ _).2
      | _ => exact .inl rfl

/-- No event submits a request and calls the issuer. -/
theorem submits_or_calls (system : System) (event : Event) :
    (system.apply event).submitted = system.submitted ∨
      (system.apply event).issuer.calls = system.issuer.calls := by
  rcases steps_or_calls system event with ⟨task, -, moves⟩ | calls
  · exact moves.submits_or_calls.imp_right fun same => congrArg Issuer.calls same
  · exact .inr calls

/-- A lane on the way to its end, since the state `start` in which it was shut. -/
structure Winding (start system : System) (lane : LaneId) : Prop where
  shut : ∃ held : Lane, system.lanes[lane]? = some held ∧ held.isShut = true ∧
    (held.flight? = start.flightOf lane ∨ held.flight? = none ∧
      ∀ id request, start.flightOf lane = some (id, request) → id ∈ system.answers.map (·.1))
  count : start.lanes.length ≤ system.lanes.length
  closed : system.lanes.length = start.lanes.length → system.openLane = none

variable {start : System}

theorem Winding.apply (winding : Winding start system lane) (reached : system.Reached)
    (event : Event) (managed : event.isManaged = true) :
    Winding start (system.apply event) lane := by
  obtain ⟨held, found, shut, flight⟩ := winding.shut
  obtain ⟨new, there, still, settles⟩ := settles reached.kept event found shut
  have grows {id : RequestId} := @answers_grow system reached.kept event id
  have lengths : (system.apply event).helm.lanes.length = (system.apply event).lanes.length ∧
      system.helm.lanes.length = system.lanes.length := by simp [helm]
  -- a new lane is the only way in which the queue is opened again
  have moves := (apply_helm reached.kept event managed).lane_count reached.managed
  rw [lengths.1, lengths.2] at moves
  have count := winding.count
  refine ⟨⟨new, there, still, ?_⟩, ?_, ?_⟩
  · have keeps (same : new.flight? = held.flight?) :
        new.flight? = start.flightOf lane ∨ new.flight? = none ∧
          ∀ id request, start.flightOf lane = some (id, request) →
            id ∈ (system.apply event).answers.map (·.1) := by
      rw [same]
      rcases flight with flying | ⟨grounded, done⟩
      · exact .inl flying
      · exact .inr ⟨grounded, fun id request flew => grows (done id request flew)⟩
    cases settles with
    | aside others => exact keeps rfl
    | silent new shut calls store quiet same => exact keeps same
    | cancelled new id shut calls store replied grounded none =>
        exact keeps (none.trans grounded.symm)
    | concluded new id request outcome shut calls flew replied concluded none =>
        right
        refine ⟨none, ?_⟩
        intro other wanted flying
        rcases flight with same | ⟨grounded, _⟩
        · rw [flew] at same
          rw [← same, Option.some.injEq, Prod.mk.injEq] at flying
          rw [(passage reached.kept event).answers, replied, ← flying.1]
          simp
        · rw [flew] at grounded
          cases grounded
  · omega
  · intro same
    have still : system.lanes.length = start.lanes.length := by omega
    rcases moves with ⟨_, closed⟩ | more
    · exact closed (winding.closed still)
    · omega

/-- What a call to stop that shut a lane in the state `start` makes sure of later on,
when certain replies were given meanwhile. -/
structure WindsDown (start system : System) (lane : LaneId)
    (replied : List (Option LaneId × RequestId × Outcome)) : Prop where
  /-- The requests of the lane are answered one after another, and no others come. -/
  line : (givenBy (some lane) replied).map (·.1) ++ system.traffic.pendingOf lane =
    start.traffic.pendingOf lane
  /-- The worker begins no call. A refresh that was in flight comes to the answer of
  the issuer, and the other requests are cancelled and the store is left alone. -/
  worker : ∀ event, system.mover? event = some lane →
    (system.apply event).issuer.calls = system.issuer.calls ∧
      ((∃ id request outcome, start.flightOf lane = some (id, request) ∧
          system.replies event = [(some lane, id, outcome)] ∧
          Concluded system request outcome (system.apply event).store) ∨
        ((system.apply event).store = system.store ∧
          ∀ giver id outcome, (giver, id, outcome) ∈ system.replies event →
            outcome = .error .cancelled ∧ ∀ request, start.flightOf lane ≠ some (id, request)))
  /-- A step of the worker answers, takes up the next request or brings the operation
  nearer to its end. -/
  advances : ∀ task held, system.tasks[task]? = some (.worker lane) →
    system.lanes[lane]? = some held → held.pending ≠ [] → system.canStep task = true →
      system.Advance task lane held
  /-- The worker goes on unless it waits for the issuer in a call that was in flight. -/
  goesOn : system.traffic.pendingOf lane ≠ [] →
    ∃ task : TaskId, system.tasks[task]? = some (.worker lane) ∧
      (system.canStep task = true ∨
        ∃ flying, start.flightOf lane = some flying ∧ system.flightOf lane = some flying)
  /-- When a call to stop returns, every request is answered and no worker has the
  token. -/
  returns : ∀ (event : Event) (task : TaskId) (stage : StopStage) (state : Lifecycle),
    event.isManaged = true → system.tasks[task]? = some (.stop stage) →
    (∀ state, stage ≠ .ended state) →
    (system.apply event).tasks[task]? = some (.stop (.ended state)) →
      (∀ id < (system.apply event).submitted, id ∈ (system.apply event).answers.map (·.1)) ∧
      ∀ (worker : TaskId) (served : LaneId),
        (system.apply event).tasks[worker]? = some (.worker served) →
          (system.apply event).token.place ≠ .held worker
  /-- Until a lane is opened again every new request is cancelled at once, comes to
  no lane, and the issuer is not called. -/
  refused : system.lanes.length = start.lanes.length →
    ∀ event id lane?, event.isManaged = true → (id, lane?) ∈ system.submissions event →
      lane? = none ∧ (id, .error .cancelled) ∈ (system.apply event).answers ∧
        id ∉ (system.apply event).lanes.flatMap Lane.pending ∧
        (system.apply event).issuer.calls = system.issuer.calls

theorem flight_found {held : Lane} (found : system.lanes[lane]? = some held) :
    system.flightOf lane = held.flight? := read_lane_found found

theorem pending_found {held : Lane} (found : system.lanes[lane]? = some held) :
    system.traffic.pendingOf lane = held.pending := read_lane_found found

theorem sent_to_closed (event : Event) (closed : system.openLane ≠ some lane) :
    sentTo (some lane) (system.submissions event) = [] := by
  unfold submissions
  rw [sent_to_map, if_neg closed]

theorem Winding.not_open (winding : Winding start system lane) (reached : system.Reached) :
    system.openLane ≠ some lane := by
  obtain ⟨held, found, shut, -⟩ := winding.shut
  exact reached.kept.not_open found shut

theorem Winding.answers_pending (winding : Winding start system lane) (reached : system.Reached)
    {event : Event} {id : RequestId} {outcome : Outcome}
    (replied : system.replies event = [(some lane, id, outcome)]) :
    id ∈ system.traffic.pendingOf lane := by
  have pending := (passage reached.kept event).pending lane
  rw [sent_to_closed event (winding.not_open reached), replied,
    List.append_nil] at pending
  rw [← pending]
  simp [givenBy]

theorem Winding.worker (winding : Winding start system lane) (reached : system.Reached)
    (event : Event) (mover : system.mover? event = some lane) :
    (system.apply event).issuer.calls = system.issuer.calls ∧
      ((∃ id request outcome, start.flightOf lane = some (id, request) ∧
          system.replies event = [(some lane, id, outcome)] ∧
          Concluded system request outcome (system.apply event).store) ∨
        ((system.apply event).store = system.store ∧
          ∀ giver id outcome, (giver, id, outcome) ∈ system.replies event →
            outcome = .error .cancelled ∧
              ∀ request, start.flightOf lane ≠ some (id, request))) := by
  obtain ⟨held, found, shut, flight⟩ := winding.shut
  obtain ⟨new, there, still, settles⟩ := settles reached.kept event found shut
  cases settles with
  | aside others => exact absurd mover others
  | silent new shut calls store quiet same =>
      refine ⟨calls, .inr ⟨store, fun giver id outcome member => ?_⟩⟩
      rw [quiet] at member
      cases member
  | cancelled new id shut calls store replied grounded none =>
      have pending := winding.answers_pending reached replied
      refine ⟨calls, .inr ⟨store, fun giver other outcome member => ?_⟩⟩
      rw [replied, List.mem_singleton, Prod.mk.injEq, Prod.mk.injEq] at member
      obtain ⟨-, rfl, rfl⟩ := member
      refine ⟨rfl, ?_⟩
      intro request flew
      rcases flight with same | ⟨_, done⟩
      · rw [grounded, flew] at same
        cases same
      · exact unanswered_of_pending reached.placed (pending_in_lanes pending)
          (done other request flew)
  | concluded new id request outcome shut calls flew replied concluded none =>
      refine ⟨calls, .inl ⟨id, request, outcome, ?_, replied, concluded⟩⟩
      rcases flight with same | ⟨grounded, _⟩
      · rw [← same, flew]
      · rw [flew] at grounded
        cases grounded

theorem Winding.goes_on (winding : Winding start system lane) (reached : system.Reached)
    (pending : system.traffic.pendingOf lane ≠ []) :
    ∃ task : TaskId, system.tasks[task]? = some (.worker lane) ∧
      (system.canStep task = true ∨
        ∃ flying, start.flightOf lane = some flying ∧ system.flightOf lane = some flying) := by
  obtain ⟨held, found, shut, flight⟩ := winding.shut
  rw [pending_found found] at pending
  obtain ⟨task, worker, moves⟩ := lane_goes_on reached.sound.crewed reached.kept found pending
  refine ⟨task, worker, moves.imp_right fun ⟨id, operation, current, waits⟩ => ?_⟩
  have flies : held.flight? = some (id, operation.request) := by
    apply flight_of_current current
    cases stage : operation.stage with
    | waiting alarm =>
        rw [stage] at waits
        rw [shut] at waits
        cases waits.1
    | atGate => rfl
    | busy alarm => rfl
    | _ => rw [stage] at waits; cases waits
  rcases flight with same | ⟨grounded, _⟩
  · exact ⟨_, same ▸ flies, flight_found found ▸ flies⟩
  · rw [flies] at grounded
    cases grounded

theorem Reached.returns {task : TaskId} (reached : system.Reached) (event : Event)
    (stage : StopStage) (state : Lifecycle) (managed : event.isManaged = true)
    (found : system.tasks[task]? = some (.stop stage)) (going : ∀ state, stage ≠ .ended state)
    (ended : (system.apply event).tasks[task]? = some (.stop (.ended state))) :
    (∀ id < (system.apply event).submitted, id ∈ (system.apply event).answers.map (·.1)) ∧
      ∀ (worker : TaskId) (served : LaneId),
        (system.apply event).tasks[worker]? = some (.worker served) →
          (system.apply event).token.place ≠ .held worker := by
  have after := reached.apply event managed
  have moves := apply_helm reached.kept event managed
  have drained : ∀ (lane : LaneId) (held : Lane), (system.apply event).lanes[lane]? = some held →
      held.isDrained = true := by
    intro lane held there
    have phase : (system.apply event).helm.lanes[lane]? = some held.phase := by
      simp [helm, there]
    exact Lane.drained_of_phase
      (moves.returned reached.managed (call_found found) going (call_found ended) phase)
  obtain ⟨answered, idle⟩ := after.all_answered drained
  refine ⟨answered, ?_⟩
  intro worker served there holds
  have holding := (after.sound.fits.holding worker).mpr holds
  unfold System.stake at holding
  rw [idle worker served there] at holding
  cases holding

theorem Winding.refused (winding : Winding start system lane) (reached : system.Reached)
    (closed : system.lanes.length = start.lanes.length) (event : Event)
    (managed : event.isManaged = true) (id : RequestId) (lane? : Option LaneId)
    (submitted : (id, lane?) ∈ system.submissions event) :
    lane? = none ∧ (id, .error .cancelled) ∈ (system.apply event).answers ∧
      id ∉ (system.apply event).lanes.flatMap Lane.pending ∧
      (system.apply event).issuer.calls = system.issuer.calls := by
  have passage := passage reached.kept event
  have after := reached.apply event managed
  have found : lane? = none := by
    obtain ⟨other, _, same⟩ := List.mem_map.mp submitted
    rw [Prod.mk.injEq] at same
    rw [← same.2]
    exact winding.closed closed
  subst found
  have sent : id ∈ sentTo none (system.submissions event) :=
    List.mem_map.mpr ⟨(id, none), List.mem_filter.mpr ⟨submitted, by simp⟩, rfl⟩
  have given : (id, .error .cancelled) ∈ givenBy none (system.replies event) := by
    rw [passage.refused]
    exact List.mem_map_of_mem sent
  have answered : (id, .error .cancelled) ∈ (system.apply event).answers := by
    obtain ⟨entry, member, same⟩ := List.mem_map.mp given
    rw [passage.answers]
    refine List.mem_append_left _ (List.mem_reverse.mpr (List.mem_map.mpr ⟨entry, ?_, same⟩))
    exact (List.mem_filter.mp member).1
  refine ⟨rfl, answered, ?_, ?_⟩
  · intro pending
    exact unanswered_of_pending after.placed pending (List.mem_map.mpr ⟨_, answered, rfl⟩)
  · rcases submits_or_calls system event with same | calls
    · have none := passage.submitted
      rw [same, Nat.left_eq_add, List.length_eq_zero_iff] at none
      rw [none] at submitted
      cases submitted
    · exact calls

theorem Winding.line (reached : start.Reached) (winding : Winding start start lane)
    (events : List Event) (managed : ∀ event ∈ events, event.isManaged = true) :
    Winding start (start.run events) lane ∧
      (givenBy (some lane) (gathered replies start events)).map (·.1) ++
        (start.run events).traffic.pendingOf lane = start.traffic.pendingOf lane := by
  induction events using List.reverseRecOn with
  | nil => exact ⟨winding, rfl⟩
  | append_singleton events event induction =>
      have earlier (other : Event) (member : other ∈ events) : other.isManaged = true :=
        managed other (List.mem_append_left _ member)
      obtain ⟨winding, line⟩ := induction earlier
      have reached := run_reached reached events earlier
      have pending := (passage reached.kept event).pending lane
      rw [sent_to_closed event (winding.not_open reached), List.append_nil] at pending
      rw [run_concat]
      refine ⟨winding.apply reached event (managed event (by simp)), ?_⟩
      rw [gathered_concat, given_by_append, List.map_append, List.append_assoc, pending, line]

theorem stop_shuts {task : TaskId} (reached : system.Reached)
    (found : system.tasks[task]? = some (.stop .disarming)) (armed : system.armed.isSome = true) :
    ∃ lane held, system.openLane = some lane ∧ system.lanes[lane]? = some held ∧
      (system.apply (.step task)).openLane = none ∧
      (system.apply (.step task)).lanes = system.lanes.set lane { held with isShut := true } := by
  obtain ⟨schedule, armed⟩ := Option.isSome_iff_exists.mp armed
  have opened : system.openLane.isSome = true := by
    have same := reached.managed.armed
    simp only [helm, armed, Option.isSome_some] at same
    exact same.symm
  obtain ⟨lane, isOpen⟩ := Option.isSome_iff_exists.mp opened
  obtain ⟨held, there, -⟩ := reached.kept.opens lane isOpen
  have same : system.disarmArmed.openLane = some lane := by
    rw [disarm_armed_frame]
    exact isOpen
  have applied : system.apply (.step task) =
      (system.disarmArmed.shutLane lane).setTask task (.stop (.draining lane)) := by
    simp [apply, step, found, stepStop, armed, same]
  refine ⟨lane, held, isOpen, there, ?_, ?_⟩
  · rw [applied]
    rfl
  · rw [applied, disarm_armed_frame]
    exact modify_found there

/-- From the step on in which a call to stop shuts the open lane, and whatever
happens later, the lane comes to its end: it begins no call, its refresh in flight
gets the answer of the issuer, the others are cancelled, no call to stop returns
before that, and new requests are cancelled until the program is started again. -/
theorem stop_winds_down (outset : Outset) (before : List Event)
    (unwired : ∀ event ∈ before, event.isManaged = true) (task : TaskId)
    (found : (outset.system.run before).tasks[task]? = some (.stop .disarming))
    (armed : (outset.system.run before).armed.isSome = true) :
    ∃ lane, (outset.system.run before).openLane = some lane ∧
      let start := (outset.system.run before).apply (.step task)
      start.traffic.pendingOf lane = (outset.system.run before).traffic.pendingOf lane ∧
      start.flightOf lane = (outset.system.run before).flightOf lane ∧
      ∀ after : List Event, (∀ event ∈ after, event.isManaged = true) →
        WindsDown start (start.run after) lane (gathered replies start after) := by
  have reached := run_reached (outset_reached outset) before unwired
  obtain ⟨lane, held, isOpen, there, closed, lanes⟩ := stop_shuts reached found armed
  let start := (outset.system.run before).apply (.step task)
  have begun : start.Reached := reached.apply (.step task) rfl
  have shut : start.lanes[lane]? = some { held with isShut := true } := by
    have bound := (List.getElem?_eq_some_iff.mp there).1
    simp [start, lanes, bound]
  have winding : Winding start start lane :=
    ⟨⟨_, shut, rfl, .inl (flight_found shut).symm⟩, Nat.le_refl _, fun _ => closed⟩
  refine ⟨lane, isOpen, ?_, ?_, ?_⟩
  · exact (pending_found shut).trans (pending_found there).symm
  · exact (flight_found shut).trans (flight_found there).symm
  · intro after managed
    obtain ⟨winding, line⟩ := Winding.line begun winding after managed
    have reached := run_reached begun after managed
    exact ⟨line, winding.worker reached,
      fun task held worker found pending steps => advances worker found pending steps,
      winding.goes_on reached, fun event task stage state => reached.returns event stage state,
      fun closed event id lane? allowed => winding.refused reached closed event allowed id lane?⟩

/-- One request is in its call and another one waits when the program is stopped. -/
def underWay : System :=
  Outset.guarded.system.run [.start, .step 0, .step 0, .submit (.user none) true,
    .submit (.user none) true, .step 1, .step 1, .step 1, .step 1, .stop, .step 2]

theorem stop_behind_a_call :
    (underWay.apply (.step 2)).traffic.pendingOf 0 = [0, 1] ∧
      (underWay.apply (.step 2)).flightOf 0 = some (0, .user none) ∧
      ∀ after : List Event, (∀ event ∈ after, event.isManaged = true) →
        WindsDown (underWay.apply (.step 2)) ((underWay.apply (.step 2)).run after) 0
          (gathered replies (underWay.apply (.step 2)) after) := by
  obtain ⟨lane, isOpen, pending, flight, winds⟩ := stop_winds_down .guarded [.start, .step 0,
    .step 0, .submit (.user none) true, .submit (.user none) true, .step 1, .step 1, .step 1,
    .step 1, .stop, .step 2] (by decide) 2 (by rfl) (by rfl)
  obtain rfl : 0 = lane := Option.some.inj isOpen
  exact ⟨pending, flight, winds⟩

end System

end CertRenewal
