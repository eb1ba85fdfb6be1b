import CertRenewal.Proofs.Conduct
import CertRenewal.Proofs.Patience

/-!
The request that a started session submits. It is forced, so it does not matter how good
the stored certificate still is: one refresh is asked for on its behalf, unless its lane is
shut, there are no keys, or its time in line for the token runs out. What it comes to is
what the session comes to.
-/

namespace CertRenewal

namespace System

/-- The refreshes that the issuer is asked for in a step of the task that serves a request. -/
def refreshesFor (id : RequestId) (system : System) : Event → List (Bytes × Option Features)
  | .step task =>
    match system.attempt? task with
    | some (some served, _) =>
      if served = id then
        (system.apply (.step task)).issuer.refreshes.drop system.issuer.refreshes.length
      else []
    | _ => []
  | _ => []

variable {system next moved : System} {event : Event} {task other : TaskId} {lane : LaneId}
  {id : RequestId} {request : Request} {session : Session} {stage : ForkStage}

/-- A request is in one lane. -/
theorem lane_of_pending (placed : system.places.Perm (List.range system.submitted))
    {first second : LaneId} {held there : Lane} (found : system.lanes[first]? = some held)
    (present : system.lanes[second]? = some there) (pending : id ∈ held.pending)
    (waits : id ∈ there.pending) : first = second := by
  have once : (system.lanes.flatMap Lane.pending).Nodup :=
    (List.nodup_append.mp (placed.nodup_iff.mpr List.nodup_range)).2.1
  have apart := List.pairwise_iff_getElem.mp (List.nodup_flatMap.mp once).2
  obtain ⟨firstBound, rfl⟩ := List.getElem?_eq_some_iff.mp found
  obtain ⟨secondBound, rfl⟩ := List.getElem?_eq_some_iff.mp present
  rcases Nat.lt_trichotomy first second with before | same | after
  · exact (apart first second firstBound secondBound before pending waits).elim
  · exact same
  · exact (apart second first secondBound firstBound after waits pending).elim

theorem pending_of_attempt {operation : Operation}
    (busy : system.attempt? task = some (some id, operation)) :
    ∃ (lane : LaneId) (held : Lane), system.tasks[task]? = some (.worker lane) ∧
      system.lanes[lane]? = some held ∧ id ∈ held.pending := by
  obtain ⟨lane, held, worker, found, current⟩ := worker_of_attempt busy
  exact ⟨lane, held, worker, found, by simp [Lane.pending, Lane.served, current]⟩

/-- A request is served by one task. -/
theorem attempt_unique (crewed : system.Crewed)
    (placed : system.places.Perm (List.range system.submitted)) {operation running : Operation}
    (busy : system.attempt? task = some (some id, operation))
    (too : system.attempt? other = some (some id, running)) : task = other := by
  obtain ⟨lane, held, worker, found, pending⟩ := pending_of_attempt busy
  obtain ⟨second, there, crew, present, waits⟩ := pending_of_attempt too
  obtain rfl := lane_of_pending placed found present pending waits
  exact crewed.worker_unique worker crew

/-- While one task serves a request no other one has taken steps for it: it would serve the
request still, or have answered it. -/
theorem deeds_of_other {outset : Outset} {events : List Event} {operation : Operation}
    (busy : (outset.system.run events).attempt? task = some (some id, operation))
    (different : other ≠ task) : gathered (deedsOf other (some id)) outset.system events = [] := by
  have placed := requests_placed outset events
  by_contra before
  have gone (running : Operation) :
      (outset.system.run events).attempt? other ≠ some (some id, running) := fun too =>
    different (attempt_unique (run_crewed outset events) placed too busy)
  obtain ⟨same, operation, outcome, own, -, -, given⟩ :=
    (run_followed outset events other (some id)).settled before gone
  obtain rfl := Option.some.inj own
  obtain ⟨lane, held, -, found, pending⟩ := pending_of_attempt busy
  exact pending_unanswered placed found pending outcome given

/-- In the course of a run it is one task that takes steps for a request. -/
theorem deeds_of_one (outset : Outset) (events : List Event) (id : RequestId) :
    ∃ server, ∀ task, task ≠ server →
      gathered (deedsOf task (some id)) outset.system events = [] := by
  induction events using List.reverseRecOn with
  | nil => exact ⟨0, fun _ _ => rfl⟩
  | append_singleton events event induction =>
      by_cases acts : ∃ task, deedsOf task (some id) (outset.system.run events) event ≠ []
      · obtain ⟨task, acted⟩ := acts
        obtain ⟨deed, member⟩ := List.exists_mem_of_ne_nil _ acted
        obtain ⟨rfl, -, busy, -⟩ := mem_deeds member
        refine ⟨task, fun other apart => ?_⟩
        have elsewhere : Event.step task ≠ .step other := fun same =>
          apart (Event.step.inj same).symm
        rw [gathered_concat, deeds_elsewhere elsewhere, List.append_nil]
        exact deeds_of_other busy apart
      · obtain ⟨server, alone⟩ := induction
        refine ⟨server, fun task different => ?_⟩
        rw [gathered_concat, alone task different, List.nil_append]
        by_contra acted
        exact acts ⟨task, acted⟩

theorem refreshes_for_step (crewed : system.Crewed) (id : RequestId) (task : TaskId) :
    system.refreshesFor id (.step task) =
      (system.deedsOf task (some id) (.step task)).flatMap Deed.calls := by
  cases busy : system.attempt? task with
  | none => simp [refreshesFor, deedsOf, busy]
  | some entry =>
      obtain ⟨served, operation⟩ := entry
      rw [deeds_busy busy]
      by_cases own : served = some id
      · subst own
        simp only [refreshesFor, busy, if_true]
        cases moves : system.stepOperation task (system.isCancelled task) operation with
        | none =>
            obtain ⟨lane, held, worker, found, current⟩ := worker_of_attempt busy
            have cancelled : system.isCancelled task = held.isShut := by
              simp only [isCancelled, worker, read_lane_found found]
            rw [cancelled] at moves
            simp [apply, step, worker, stepWorker, found, current, moves]
        | some result =>
            obtain ⟨moved, after⟩ := result
            have carries := step_carries crewed busy moves
            simp [Deed.calls, carries.issuer]
      · rw [if_neg own]
        simp only [refreshesFor, busy]
        cases served with
        | none => rfl
        | some other =>
            have different : other ≠ id := fun same => own (congrArg some same)
            simp [different]

/-- What the issuer is asked for on behalf of a request is what the operation of the one
task asks for that serves it. -/
theorem refreshes_of_deeds (outset : Outset) (events : List Event) (id : RequestId)
    (server : TaskId) (alone : ∀ task, task ≠ server →
      gathered (deedsOf task (some id)) outset.system events = []) :
    gathered (refreshesFor id) outset.system events =
      (gathered (deedsOf server (some id)) outset.system events).flatMap Deed.calls := by
  induction events using List.reverseRecOn with
  | nil => rfl
  | append_singleton events event induction =>
      have idle (task : TaskId) (different : task ≠ server) :
          gathered (deedsOf task (some id)) outset.system events = [] ∧
            deedsOf task (some id) (outset.system.run events) event = [] := by
        have none := alone task different
        rw [gathered_concat] at none
        exact List.append_eq_nil_iff.mp none
      rw [gathered_concat, gathered_concat, List.flatMap_append,
        induction fun task different => (idle task different).1]
      congr 1
      cases event with
      | step task =>
          rw [refreshes_for_step (run_crewed outset events)]
          by_cases itself : task = server
          · rw [itself]
          · have elsewhere : Event.step task ≠ .step server := fun same =>
              itself (Event.step.inj same)
            rw [(idle task itself).2, deeds_elsewhere elsewhere]
      | _ => rfl

end System

namespace Life

variable {task : TaskId} {request : Request} {deeds : List Deed} {operation : Operation}

/-- How an operation ends without a refresh that is forced to ask for one. -/
inductive Spared (deeds : List Deed) : Outcome → Prop
  | cancelled (deed : Deed) (member : deed ∈ deeds) (cancelled : deed.isCancelled = true) :
      Spared deeds (.error .cancelled)
  | timedOut : Spared deeds (.error .timedOut)
  | keyless (deed : Deed) (member : deed ∈ deeds) (missing : deed.system.store.keys.1 = none) :
      Spared deeds (.error .needNewKeys)

/-- What a forced operation has asked for when it stands at a stage. -/
def Forced (features : Option Features) (deeds : List Deed) : Stage → Prop
  | .created => deeds.flatMap Deed.calls = []
  | .arriving => deeds.flatMap Deed.calls = []
  | .waiting _ => deeds.flatMap Deed.calls = []
  | .admitted => deeds.flatMap Deed.calls = []
  | .ended outcome => (∃ publicKey, deeds.flatMap Deed.calls = [(publicKey, features)]) ∨
      deeds.flatMap Deed.calls = [] ∧ Spared deeds outcome
  | _ => ∃ publicKey, deeds.flatMap Deed.calls = [(publicKey, features)]

/-- A forced operation asks for a refresh when it looks for the keys, if it comes so far. -/
theorem forced (life : Life task request deeds operation) (forced : request.forced = true) :
    Forced request.features deeds operation.stage := by
  induction life with
  | begin => rfl
  | move deeds system moved isCancelled before after life moves induction =>
      have step := System.step_operation_cases moves
      have same := life.same_request
      let deed : Deed := ⟨system, isCancelled, before, moved, after⟩
      have last : deed ∈ deeds ++ [deed] := by simp
      have calls : (deeds ++ [deed]).flatMap Deed.calls =
          deeds.flatMap Deed.calls ++ deed.calls := by simp
      -- a step that asks for nothing leaves it at what was asked for before
      have quiet (none : moved.issuer.refreshes = system.issuer.refreshes) :
          (deeds ++ [deed]).flatMap Deed.calls = deeds.flatMap Deed.calls := by
        rw [calls, Deed.calls, none, List.drop_length, List.append_nil]
      have concluded (none : moved.issuer.refreshes = system.issuer.refreshes) (outcome : Outcome)
          (one : ∃ publicKey, deeds.flatMap Deed.calls = [(publicKey, request.features)]) :
          Forced request.features (deeds ++ [deed]) (.ended outcome) :=
        .inl (one.imp fun publicKey one => (quiet none).trans one)
      have ended : system.answered.issuer.refreshes = system.issuer.refreshes :=
        Issuer.refreshes_end_refresh system.issuer system.now
      have needed : system.needsCall before.request = true := by
        simp [System.needsCall, same, forced]
      obtain ⟨wanted, stage, published⟩ := before
      cases step with
      | abandon early cancelled =>
          refine .inr ⟨(quiet rfl).trans ?_, .cancelled deed last cancelled⟩
          rcases early with rfl | rfl <;> exact induction
      | arrive stage going => cases stage; exact (quiet rfl).trans induction
      | enter stage going free => cases stage; exact (quiet rfl).trans induction
      | queue stage going taken => cases stage; exact (quiet rfl).trans induction
      | withdraw alarm stage cancelled =>
          cases stage
          exact .inr ⟨(quiet rfl).trans induction, .cancelled deed last cancelled⟩
      | accept alarm stage going granted => cases stage; exact (quiet rfl).trans induction
      | expire alarm stage going ungranted due =>
          cases stage
          exact .inr ⟨(quiet rfl).trans induction, .timedOut⟩
      | turnBack stage cancelled =>
          cases stage
          exact .inr ⟨(quiet rfl).trans induction, .cancelled deed last cancelled⟩
      | skip stage going fresh => cases needed.symm.trans fresh
      | keyless stage going needed missing =>
          cases stage
          exact .inr ⟨(quiet rfl).trans induction, .keyless deed last missing⟩
      | call keys stage going needed found =>
          cases stage
          have none : deeds.flatMap Deed.calls = [] := induction
          have one := Issuer.refreshes_begin_refresh system.issuer keys.publicKey wanted.features
          refine ⟨keys.publicKey, calls.trans ?_⟩
          rw [none, List.nil_append, ← same]
          exact (congrArg (List.drop _) one).trans List.drop_left
      | pass gate stage passes instant =>
          cases stage
          exact induction.imp fun publicKey one => (quiet rfl).trans one
      | delay gate stage passes slow =>
          cases stage
          exact induction.imp fun publicKey one => (quiet rfl).trans one
      | wake alarm stage due =>
          cases stage
          exact induction.imp fun publicKey one => (quiet rfl).trans one
      | fail failure stage refused => cases stage; exact concluded ended _ induction
      | save certificate stage issued saved =>
          cases stage
          exact concluded (by rw [System.kept_frame]; exact ended) _ induction
      | lose certificate reason stage issued lost =>
          cases stage
          exact concluded (by rw [System.kept_frame]; exact ended) _ induction

end Life

namespace System

variable {system next moved : System} {event : Event} {task : TaskId} {lane : LaneId}
  {id : RequestId} {session : Session} {stage : ForkStage} {outset : Outset}
  {events before after : List Event} {lane? : Option LaneId}

theorem sent_once {first second : Option LaneId}
    (sent : (id, first) ∈ gathered submissions outset.system events)
    (too : (id, second) ∈ gathered submissions outset.system events) : first = second := by
  have once : ((gathered submissions outset.system events).map (·.1)).Nodup := by
    rw [submissions_numbered]
    exact List.nodup_range
  exact congrArg Prod.snd (List.inj_on_of_nodup_map once sent too rfl)

/-- A request that waits in a lane was sent there. -/
theorem lane_of_request {held : Lane}
    (sent : (id, lane?) ∈ gathered submissions outset.system events)
    (found : (outset.system.run events).lanes[lane]? = some held) (pending : id ∈ held.pending) :
    lane? = some lane := by
  have waits : id ∈ (outset.system.run events).traffic.pendingOf lane := by
    rw [pending_found found]
    exact pending
  exact sent_once sent
    (mem_sent_to (lane_order outset events lane ▸ List.mem_append_right _ waits))

/-- It was so at some moment behind these events. -/
def Since (outset : Outset) (before after : List Event) (Holds : System → Prop) : Prop :=
  ∃ part rest, after = part ++ rest ∧ Holds (outset.system.run (before ++ part))

/-- What a forced request comes to that a lane has taken, and the refreshes that were asked
for on its behalf. -/
inductive Attended (outset : Outset) (before after : List Event) (lane : LaneId)
    (id : RequestId) (features : Option Features) :
    Outcome → List (Bytes × Option Features) → Prop
  | refreshed (publicKey : Bytes) (outcome : Outcome) :
      Attended outset before after lane id features outcome [(publicKey, features)]
  /-- The lane was shut meanwhile. -/
  | cancelled (closed : Since outset before after fun system => system.openLane ≠ some lane) :
      Attended outset before after lane id features (.error .cancelled) []
  /-- Who serves it has stood in line for the token for the whole time limit, and gives up
  on its behalf. -/
  | timedOut (worker : TaskId) (first between last : List Event) (operation : Operation)
      (waited : TimesOut outset (before ++ after) worker first between last)
      (own : (outset.system.run (first ++ .step worker :: between)).attempt? worker =
        some (some id, operation)) :
      Attended outset before after lane id features (.error .timedOut) []
  | keyless (missing : Since outset before after fun system => system.store.keys.1 = none) :
      Attended outset before after lane id features (.error .needNewKeys) []

/-- A session submits a request behind some of the events of a run. -/
structure Submits (outset : Outset) (events : List Event) (task : TaskId) (id : RequestId)
    (lane? : Option LaneId) (before after : List Event) : Prop where
  split : events = before ++ .step task :: after
  number : id = (outset.system.run before).submitted
  place : lane? = (outset.system.run before).openLane
  traffic : (outset.system.run (before ++ [.step task])).traffic =
    ((outset.system.run before).submit
      (.afterSession (outset.system.run before).store.features) false).traffic

theorem submits_of_asks
    (found : (outset.system.run events).tasks[task]? = some (.fork session stage))
    (asked : .asks id lane? ∈ gathered (sessionActs task) outset.system events) :
    ∃ before after, Submits outset events task id lane? before after := by
  obtain ⟨before, event, after, split, member⟩ := mem_gathered asked
  obtain ⟨rfl, sent⟩ := mem_asks member
  have silent (none : (outset.system.run before).submissions (.step task) = []) : False := by
    rw [none] at sent
    cases sent
  rcases session_step found split with still | ⟨first, moved, last, there, step, applied⟩
  · refine (silent ?_).elim
    rw [submissions_count, still, Nat.sub_self]
    rfl
  · have count := step.asked
    have same : ((outset.system.run before).apply (.step task)).submitted = moved.submitted := by
      rw [applied]
      rfl
    rw [submissions_count, same, count] at sent silent
    cases step with
    | submit =>
        obtain ⟨rfl, rfl⟩ : id = _ ∧ lane? = _ := by simpa using sent
        exact ⟨before, after, split, rfl, rfl, by rw [run_concat, applied]; rfl⟩
    | _ => exact (silent rfl).elim

namespace Submits

variable {worker : TaskId} {outcome : Outcome}

theorem whole (submits : Submits outset events task id lane? before after) :
    events = before ++ [.step task] ++ after := by
  rw [submits.split, List.append_assoc]
  rfl

theorem sent (submits : Submits outset events task id lane? before after) (part : List Event) :
    (id, lane?) ∈ gathered submissions outset.system (before ++ [.step task] ++ part) := by
  have count : ((outset.system.run before).apply (.step task)).submitted =
      (outset.system.run before).submitted + 1 := by
    have same := congrArg Traffic.submitted submits.traffic
    rw [run_concat] at same
    exact same.trans (submit_count _ _ _)
  have now : (id, lane?) ∈ (outset.system.run before).submissions (.step task) := by
    rw [submissions_count, count, submits.number, submits.place]
    simp
  rw [gathered_append, gathered_concat]
  exact List.mem_append_left _ (List.mem_append_right _ now)

/-- From then on the request is the one that was submitted. -/
theorem bears (submits : Submits outset events task id lane? before after) (part : List Event) :
    (outset.system.run (before ++ [.step task] ++ part)).Bears id
      (· = .afterSession (outset.system.run before).store.features) := by
  let request := Request.afterSession (outset.system.run before).store.features
  have first := @submit_bears _ (· = request) (requests_placed outset before) request false rfl
  rw [← submits.number] at first
  have same := submits.traffic
  rw [run_append]
  refine Bears.run ⟨?_, ?_⟩ (run_kept outset _) part
  · exact Nat.lt_of_lt_of_eq first.known (congrArg Traffic.submitted same).symm
  · rw [same]
    exact first.same

theorem waits (submits : Submits outset events task id (some lane) before after) :
    ⟨id, .afterSession (outset.system.run before).store.features⟩ ∈
      (outset.system.run (before ++ [.step task])).traffic.requestsOf lane := by
  have isOpen := submits.place.symm
  obtain ⟨held, found, -⟩ := (run_kept outset before).opens lane isOpen
  rw [submits.traffic, submit_open isOpen, Traffic.requestsOf]
  have there : (outset.system.run before).lanes[lane]? = some held := found
  simp only [System.traffic, modify_found there, read_lane_set _ there, if_true, Lane.requests,
    submits.number]
  simp

/-- A step that is taken for the request is taken behind its submission. -/
theorem deed (submits : Submits outset events task id lane? before after) {deed : Deed}
    (member : deed ∈ gathered (deedsOf worker (some id)) outset.system events) :
    ∃ part rest, after = part ++ rest ∧
      deed.system = outset.system.run (before ++ [.step task] ++ part) ∧
      deed.system.attempt? worker = some (some id, deed.before) ∧
      deed.isCancelled = deed.system.isCancelled worker := by
  obtain ⟨past, last, taken⟩ := deed_taken member
  have known : id < (outset.system.run past).submitted := by
    obtain ⟨lane, member⟩ := (attempt_cases (taken.system ▸ taken.busy)).2 id rfl
    exact requests_known (requests_placed outset past) member
  have early (more : List Event) (cut : before = past ++ more) : False := by
    have later := (kept_run (run_kept outset past) more).2
    rw [← run_append, ← cut, ← submits.number] at later
    exact absurd known (Nat.not_lt.mpr later)
  have split := taken.split
  rw [submits.split] at split
  rcases List.append_eq_append_iff.mp split with ⟨more, same, tail⟩ | ⟨more, same, -⟩
  · cases more with
    | nil => exact (early [] (by simpa using same.symm)).elim
    | cons event more =>
        obtain ⟨rfl, rfl⟩ := List.cons.inj tail
        refine ⟨more, _, rfl, ?_, taken.busy, taken.isCancelled⟩
        rw [taken.system, same]
        simp
  · exact (early more same).elim

/-- Who takes a step for the request is the worker of the lane that it was sent to. -/
theorem server (submits : Submits outset events task id lane? before after) {deed : Deed}
    (member : deed ∈ gathered (deedsOf worker (some id)) outset.system events) :
    ∃ part rest lane held, after = part ++ rest ∧ lane? = some lane ∧
      deed.system = outset.system.run (before ++ [.step task] ++ part) ∧
      deed.system.lanes[lane]? = some held ∧ deed.isCancelled = held.isShut := by
  obtain ⟨part, rest, cut, same, busy, cancelled⟩ := submits.deed member
  obtain ⟨lane, held, crew, found, pending⟩ := pending_of_attempt busy
  refine ⟨part, rest, lane, held, cut, ?_, same, found, ?_⟩
  · exact lane_of_request (submits.sent part) (same ▸ found) pending
  · rw [cancelled]
    simp only [System.isCancelled, crew, read_lane_found found]

/-- The steps for the request are those of an operation on what was submitted. -/
theorem request (submits : Submits outset events task id lane? before after)
    {operation : Operation} (life : Life worker operation.request
      (gathered (deedsOf worker (some id)) outset.system events) operation)
    (ended : operation.stage = .ended outcome) :
    gathered (deedsOf worker (some id)) outset.system events ≠ [] ∧
      operation.request = .afterSession (outset.system.run before).store.features := by
  rcases life.last with created | ⟨deed, member, -⟩
  · exact (nomatch created.symm.trans ended)
  · refine ⟨List.ne_nil_of_mem member, ?_⟩
    obtain ⟨part, rest, -, same, busy, -⟩ := submits.deed member
    rw [← (life.earlier member).2.1]
    exact (submits.bears part).attempt (same ▸ busy)

theorem attended (submits : Submits outset events task id (some lane) before after)
    (answered : (outset.system.run events).answer? id = some outcome) :
    Attended outset (before ++ [.step task]) after lane id
      (outset.system.run before).store.features outcome
      (gathered (refreshesFor id) outset.system events) := by
  have sent := submits.sent after
  rw [← submits.whole] at sent
  rcases answer_of_operation answered with ⟨-, refused⟩ | ⟨worker, operation, life, ended⟩
  · cases sent_once sent refused
  · obtain ⟨acted, request⟩ := submits.request life ended
    obtain ⟨server, alone⟩ := deeds_of_one outset events id
    obtain rfl : worker = server := by
      by_contra different
      exact acted (alone worker different)
    rw [refreshes_of_deeds outset events id worker alone]
    have times := operation_gives_up life
    rw [request] at life
    have forced := life.forced rfl
    rw [ended] at forced
    rcases forced with ⟨publicKey, one⟩ | ⟨none, spared⟩
    · rw [one]
      exact .refreshed publicKey outcome
    · rw [none]
      cases spared with
      | cancelled deed member cancelled =>
          obtain ⟨part, rest, _, held, cut, place, same, found, shut⟩ := submits.server member
          obtain rfl := Option.some.inj place
          rw [same] at found
          exact .cancelled ⟨part, rest, cut,
            (run_kept outset _).not_open found (shut.symm.trans cancelled)⟩
      | timedOut =>
          obtain ⟨deed, member, first, between, last, waited, system⟩ := times ended
          obtain ⟨-, -, -, -, own, -⟩ := submits.deed member
          rw [submits.whole] at waited
          exact .timedOut worker first between last deed.before waited (system ▸ own)
      | keyless deed member missing =>
          obtain ⟨part, rest, cut, same, -⟩ := submits.deed member
          exact .keyless ⟨part, rest, cut, same ▸ missing⟩

/-- A request that finds no lane open is cancelled at once, and nothing is asked for on its
behalf. -/
theorem refused (submits : Submits outset events task id none before after) :
    (outset.system.run events).answer? id = some (.error .cancelled) ∧
      gathered (refreshesFor id) outset.system events = [] := by
  have sent := submits.sent after
  rw [← submits.whole] at sent
  constructor
  · have toNone : id ∈ sentTo none (gathered submissions outset.system events) :=
      List.mem_map.mpr ⟨_, List.mem_filter.mpr ⟨sent, by simp⟩, rfl⟩
    have given : (id, .error .cancelled) ∈
        givenBy none (gathered replies outset.system events) := by
      rw [refusals_recorded]
      exact List.mem_map_of_mem toNone
    refine answer_of_mem (requests_placed outset events) ?_
    rw [answers_recorded, List.mem_reverse]
    obtain ⟨entry, member, same⟩ := List.mem_map.mp given
    exact same ▸ List.mem_map_of_mem (List.mem_filter.mp member).1
  · obtain ⟨worker, alone⟩ := deeds_of_one outset events id
    rw [refreshes_of_deeds outset events id worker alone]
    cases deeds : gathered (deedsOf worker (some id)) outset.system events with
    | nil => rfl
    | cons deed rest =>
        have member : deed ∈ gathered (deedsOf worker (some id)) outset.system events := by
          rw [deeds]
          exact List.mem_cons_self
        obtain ⟨_, _, lane, _, _, place, _⟩ := submits.server member
        cases place

/-- As long as it has no answer the request is in its lane, whose worker goes on unless it
waits for the token, the issuer or its time. -/
theorem unanswered (submits : Submits outset events task id lane? before after)
    (waits : (outset.system.run events).answer? id = none) :
    ∃ (lane : LaneId) (held : Lane) (worker : TaskId), lane? = some lane ∧
      (outset.system.run events).lanes[lane]? = some held ∧ id ∈ held.pending ∧
      (outset.system.run events).tasks[worker]? = some (.worker lane) ∧
      ((outset.system.run events).canStep worker = true ∨
        (outset.system.run events).Waits worker held) := by
  have bears := submits.bears after
  have sent := submits.sent after
  rw [← submits.whole] at bears sent
  have placed := requests_placed outset events
  obtain ⟨lane, held, found, inside⟩ :=
    (answered_or_pending placed bears.known).resolve_left (unanswered_of_none placed waits)
  obtain ⟨worker, crew, moves⟩ := lane_goes_on (run_crewed outset events)
    (run_kept outset events) found (List.ne_nil_of_mem inside)
  exact ⟨lane, held, worker, lane_of_request sent found inside, found, inside, crew, moves⟩

end Submits

/-- A session that is cancelled without having taken the token was not let pass. -/
theorem turned_away
    (found : (outset.system.run events).tasks[task]? =
      some (.fork session (.ended (.error .cancelled))))
    (untaken : .takes ∉ gathered (sessionActs task) outset.system events) :
    ∃ before after, events = before ++ .step task :: after ∧
      (outset.system.run before).tasks[task]? = some (.fork session .checking) ∧
      (outset.system.run before).lifecycle = .stopped := by
  obtain ⟨past, after, stage, moved, split, there, step, -⟩ := ended_by found
  generalize ends : ForkStage.ended (.error .cancelled) = last at step
  cases step with
  | refuse stopped => exact ⟨past, after, split, there, stopped⟩
  | fail failure refused =>
      have same := Except.error.inj (ForkStage.ended.inj ends)
      exact absurd same.symm ((outset.system.run past).catalogue.classify_answered failure).2
  | finish request outcome replied =>
      have trail := (run_journaled outset past task).trail session _ there
      refine absurd ?_ untaken
      rw [split, gathered_append]
      refine List.mem_append_left _ ?_
      generalize gathered (sessionActs task) outset.system past = acts at trail
      cases trail
      exact List.mem_cons_self
  | _ => cases ends

/-- What becomes of the request of a session. -/
structure Requested (outset : Outset) (events : List Event) (task : TaskId) (id : RequestId)
    (lane? : Option LaneId) (before after : List Event) : Prop where
  submits : Submits outset events task id lane? before after
  /-- It waits in the lane that is open, forced and for the features recorded by then. -/
  waits : ∀ lane, lane? = some lane →
    ⟨id, .afterSession (outset.system.run before).store.features⟩ ∈
      (outset.system.run (before ++ [.step task])).traffic.requestsOf lane
  refused : lane? = none → (outset.system.run events).answer? id = some (.error .cancelled) ∧
    gathered (refreshesFor id) outset.system events = []
  attended : ∀ lane outcome, lane? = some lane →
    (outset.system.run events).answer? id = some outcome →
      Attended outset (before ++ [.step task]) after lane id
        (outset.system.run before).store.features outcome
        (gathered (refreshesFor id) outset.system events)
  /-- Until it is answered it stays in its lane, whose worker goes on unless it waits. -/
  unanswered : (outset.system.run events).answer? id = none →
    ∃ (lane : LaneId) (held : Lane) (worker : TaskId), lane? = some lane ∧
      (outset.system.run events).lanes[lane]? = some held ∧ id ∈ held.pending ∧
      (outset.system.run events).tasks[worker]? = some (.worker lane) ∧
      ((outset.system.run events).canStep worker = true ∨
        (outset.system.run events).Waits worker held)

/-- How the start of a session has gone by the end of a run. -/
structure StartsOnce (outset : Outset) (events : List Event) (task : TaskId) (session : Session)
    (stage : ForkStage) : Prop where
  /-- What it has done, in this order. -/
  trail : stage.Trail session outset.catalogue (outset.system.run events).answers
    (gathered (sessionActs task) outset.system events)
  /-- It calls the issuer once at most, and once if and only if it has got the token, as
  soon as it goes on. -/
  calls : ((gathered (sessionActs task) outset.system events).filterMap
      SessionAct.call?).length ≤ 1 ∧ (stage ≠ .admitted →
    ((gathered (sessionActs task) outset.system events).filterMap SessionAct.call? =
        [.session session] ↔
      .takes ∈ gathered (sessionActs task) outset.system events))
  goesOn : (outset.system.run events).canStep task = false →
    stage.Waits (outset.system.run events) task
  /-- Without the token it is cancelled only when it is looked at while the program is
  stopped. -/
  turnedAway : stage = .ended (.error .cancelled) →
    .takes ∉ gathered (sessionActs task) outset.system events →
      ∃ before after, events = before ++ .step task :: after ∧
        (outset.system.run before).tasks[task]? = some (.fork session .checking) ∧
        (outset.system.run before).lifecycle = .stopped
  sparesStore : ∀ before after, events = before ++ .step task :: after →
    (outset.system.run (before ++ [.step task])).store = (outset.system.run before).store
  requested : ∀ id lane?, .asks id lane? ∈ gathered (sessionActs task) outset.system events →
    ∃ before after, Requested outset events task id lane? before after
  /-- It ends with the answer to its request. -/
  told : ∀ id lane? outcome, .asks id lane? ∈ gathered (sessionActs task) outset.system events →
    stage = .ended outcome → (outset.system.run events).answer? id = some outcome

/-- A session that gets the token calls the issuer once and gives the token back, and then
asks for one refresh if that call has ended well. The refresh is forced: the issuer is asked
for it whatever is stored, unless the request is cancelled because its lane is shut, there
are no keys, or its own time in line runs out. -/
theorem session_calls_once_and_asks_for_one_refresh (outset : Outset) (events : List Event)
    (task : TaskId) (session : Session) (stage : ForkStage)
    (found : (outset.system.run events).tasks[task]? = some (.fork session stage)) :
    StartsOnce outset events task session stage := by
  have trail := (run_journaled outset events task).trail session stage found
  constructor
  · exact trail
  · exact trail.calls
  · intro stuck
    have none : (outset.system.run events).stepFork task session stage = none := by
      simpa [canStep, step, found] using stuck
    exact step_fork_none none
  · rintro rfl
    exact turned_away found
  · intro before after split
    rw [run_concat]
    rcases session_step found split with still | ⟨first, moved, last, there, step, applied⟩
    · rw [still]
    · rw [applied]
      exact step.store
  · intro id lane? asked
    obtain ⟨before, after, submits⟩ := submits_of_asks found asked
    refine ⟨before, after, submits, ?_, ?_, ?_, submits.unanswered⟩
    · rintro lane rfl
      exact submits.waits
    · rintro rfl
      exact submits.refused
    · rintro lane outcome rfl
      exact submits.attended
  · rintro id lane? outcome asked rfl
    generalize gathered (sessionActs task) outset.system events = acts at trail asked
    cases trail with
    | refreshed other place outcome given =>
        obtain ⟨rfl, -⟩ : id = other ∧ lane? = place := by simpa using asked
        exact answer_of_mem (requests_placed outset events) given
    | _ => simp at asked

/-- A session is started while a certificate is stored that is good for long. -/
def startedFresh : List Event :=
  .openQueue :: .storeCertificate (Issuer.standardCertificate .epoch) none ::
    .fork ⟨"selector", none⟩ :: stepsOf 1 5 ++ stepsOf 0 6 ++ stepsOf 1 1

theorem fresh_certificate_refreshed :
    (Outset.prompt.system.run (startedFresh.take 3)).needsCall (.background none) = false ∧
      ∃ publicKey features, gathered (refreshesFor 0) Outset.prompt.system startedFresh =
        [(publicKey, features)] := by
  have kept := session_calls_once_and_asks_for_one_refresh .prompt startedFresh 1
    ⟨"selector", none⟩ (.ended (.ok ())) rfl
  have asked : .asks 0 (some 0) ∈ gathered (sessionActs 1) Outset.prompt.system startedFresh := by
    have acts : gathered (sessionActs 1) Outset.prompt.system startedFresh =
        [.takes, .calls (.session ⟨"selector", none⟩), .learns (.ok ()), .givesBack,
          .asks 0 (some 0), .ends (.ok ())] := rfl
    rw [acts]
    simp
  obtain ⟨before, after, requested⟩ := kept.requested 0 (some 0) asked
  have attended := requested.attended 0 (.ok ()) rfl (kept.told 0 (some 0) (.ok ()) asked rfl)
  refine ⟨by decide, ?_⟩
  generalize gathered (refreshesFor 0) Outset.prompt.system startedFresh = calls at attended
  cases attended with
  | refreshed publicKey => exact ⟨publicKey, _, rfl⟩

end System

/-- A program with keys in which one waits for the token for a second, and in which sessions
are started with a permit. -/
def Outset.impatient : Outset :=
  { Outset.prompt with
    intervals := { Intervals.standard with waitTimeout := 1000 }
    sessionGate := .guarded 0 }

namespace System

/-- While a session is in its call another one lines up. It gets the token next, before the
request of the first one, and its own call does not end. -/
def crowdedOut : List Event :=
  startingUp ++ .newSession ⟨"first", none⟩ :: stepsOf 2 3 ++
    .newSession ⟨"second", none⟩ :: stepsOf 3 2 ++ .permitSessions 1 :: stepsOf 2 3 ++
    stepsOf 3 2 ++ stepsOf 1 3 ++ .elapse 1000 :: stepsOf 1 1 ++ stepsOf 2 1

/-- No refresh is asked for on behalf of a session that was started, although the queue is
open and keys are stored. -/
theorem request_of_session_times_out :
    let final := Outset.impatient.system.run crowdedOut
    gathered (sessionActs 2) Outset.impatient.system crowdedOut =
        [.takes, .calls (.session ⟨"first", none⟩), .learns (.ok ()), .givesBack,
          .asks 0 (some 0), .ends (.error .timedOut)] ∧
      final.tasks[2]? = some (.fork ⟨"first", none⟩ (.ended (.error .timedOut))) ∧
      (∀ event ∈ crowdedOut, event.isCoordinated = true) ∧ .stop ∉ crowdedOut ∧
      final.openLane = some 0 ∧ final.lifecycle = .running ∧ final.store.keys.1.isSome = true ∧
      gathered (refreshesFor 0) Outset.impatient.system crowdedOut = [] ∧
      final.issuer.refreshes = [] := by
  exact ⟨rfl, rfl, by decide, by simp [crowdedOut, startingUp, stepsOf], rfl, rfl, rfl, rfl, rfl⟩

end System

end CertRenewal
