import CertRenewal.Proofs.Turns

/-!
A queue that nobody closes does with its requests what one would do who served them one
after another. The moments at which they have their turns and the ends of the calls are
up to the run; what the requests come to, what is stored and which calls are made is not.
-/

namespace CertRenewal

namespace System

variable {system next moved : System} {event : Event} {task : TaskId} {operation : Operation}

/-- The requests that have come to their turns so far, in order. -/
def inTurn (requests : List Queued) (turns : List Turn) : List (Request × Turn) :=
  (requests.map (·.request)).zip turns

theorem in_turn_more {requests : List Queued} {turns : List Turn}
    (enough : turns.length ≤ requests.length) (came : List Queued) :
    inTurn (requests ++ came) turns = inTurn requests turns := by
  unfold inTurn
  rw [List.map_append]
  have short : turns.length ≤ (requests.map (·.request)).length := by simpa using enough
  generalize requests.map (·.request) = asked at short
  clear enough
  induction asked generalizing turns with
  | nil =>
      obtain rfl : turns = [] := List.eq_nil_of_length_eq_zero (Nat.le_zero.mp short)
      simp
  | cons first asked induction =>
      cases turns with
      | nil => rfl
      | cons turn turns =>
          have rest := @induction turns (by simpa using short)
          simp [rest]

theorem in_turn_concat {done rest : List Queued} {turns : List Turn} (first : Queued)
    (turn : Turn) (same : turns.length = done.length) :
    inTurn (done ++ first :: rest) (turns ++ [turn]) =
      inTurn (done ++ first :: rest) turns ++ [(first.request, turn)] := by
  have aligned : (done.map (·.request)).length = turns.length := by simp [same]
  have before : inTurn (done ++ first :: rest) turns = inTurn done turns :=
    in_turn_more (Nat.le_of_eq same) (first :: rest)
  rw [before]
  unfold inTurn
  rw [List.map_append, List.zip_append aligned]
  simp

/-- The state of a system as a ledger shows it. -/
def ledger (system : System) (served : List (RequestId × Outcome × Store))
    (script : List CallEnd) : Ledger where
  store := system.store
  calls := system.issuer.refreshes
  served := served.map (·.2)
  script := script

/-- The ledger behind the turns so far shows the state of the system. Of a request in its
call it shows the end already, if the call has one. -/
structure Balanced (outset : Outset) (requests : List Queued) (turns : List Turn)
    (ends : List CallEnd) (served : List (RequestId × Outcome × Store)) (system : System) :
    Prop where
  line : ∃ done, requests = done ++ system.line ∧ done.map (·.id) = served.map (·.1)
  count : turns.length = served.length + (system.flightOf 0).toList.length
  book : ∀ more, Ledger.after outset (ends ++ more) (inTurn requests turns) =
    match system.flightOf 0 with
    | some flight => (system.ledger served more).conclude outset flight.2
    | none => system.ledger served more

variable {outset : Outset} {requests came rest : List Queued} {turns : List Turn}
  {ends : List CallEnd} {served : List (RequestId × Outcome × Store)} {id : RequestId}
  {request : Request} {after : Operation} {outcome : Outcome}

theorem Balanced.done_count (balanced : Balanced outset requests turns ends served system) :
    ∃ done, requests = done ++ system.line ∧ done.length = served.length := by
  obtain ⟨done, whole, numbers⟩ := balanced.line
  exact ⟨done, whole, by simpa using congrArg List.length numbers⟩

theorem flight_in_line (flew : system.flightOf 0 = some (id, request)) :
    ∃ rest, system.line = ⟨id, request⟩ :: rest := by
  cases found : system.lanes[0]? with
  | none =>
      have none : system.flightOf 0 = none := read_lane_missing found
      rw [none] at flew
      cases flew
  | some held =>
      obtain ⟨line, flight⟩ := line_found found
      rw [flight] at flew
      unfold Lane.flight? at flew
      split at flew
      · rename_i other operation current
        split at flew
        · obtain ⟨rfl, rfl⟩ := Prod.mk.inj (Option.some.inj flew)
          exact ⟨held.waiting, by rw [line]; simp [Lane.requests, current]⟩
        · cases flew
      · cases flew

theorem Balanced.enough (balanced : Balanced outset requests turns ends served system) :
    turns.length ≤ requests.length := by
  obtain ⟨done, rfl, same⟩ := balanced.done_count
  rw [balanced.count, List.length_append, same]
  cases flew : system.flightOf 0 with
  | none => exact Nat.add_le_add_left (Nat.zero_le _) _
  | some flight =>
      obtain ⟨rest, line⟩ := flight_in_line flew
      simp [line]

/-- Requests that come to the end of the line change nothing else. -/
theorem Balanced.still (balanced : Balanced outset requests turns ends served system)
    (store : next.store = system.store)
    (refreshes : next.issuer.refreshes = system.issuer.refreshes)
    (flight : next.flightOf 0 = system.flightOf 0) (line : next.line = system.line ++ came) :
    Balanced outset (requests ++ came) turns ends served next := by
  obtain ⟨done, whole, numbers⟩ := balanced.line
  refine ⟨⟨done, by rw [whole, line, List.append_assoc], numbers⟩, ?_, fun more => ?_⟩
  · rw [flight]
    exact balanced.count
  · have same : next.ledger served more = system.ledger served more := by
      simp only [ledger, store, refreshes]
    rw [in_turn_more balanced.enough, balanced.book, flight, same]

/-- The first request of the line comes to its turn. -/
theorem Balanced.take (balanced : Balanced outset requests turns ends served system)
    (grounded : system.flightOf 0 = none) (first : system.line = ⟨id, request⟩ :: rest)
    (turn : Turn) : (turns ++ [turn]).length = served.length + 1 ∧
      ∀ more, Ledger.after outset (ends ++ more) (inTurn requests (turns ++ [turn])) =
        (system.ledger served more).serve outset request turn := by
  have count := balanced.count
  rw [grounded] at count
  have same : turns.length = served.length := count
  refine ⟨by rw [List.length_append, same]; rfl, fun more => ?_⟩
  have book := balanced.book more
  rw [grounded] at book
  obtain ⟨done, whole, done_count⟩ := balanced.done_count
  rw [first] at whole
  subst whole
  rw [in_turn_concat _ turn (same.trans done_count.symm), Ledger.after_concat, book]

/-- The first request of the line is answered. -/
theorem Balanced.settle {balance : List Turn} {script : List CallEnd}
    (balanced : Balanced outset requests turns ends served system)
    (first : system.line = ⟨id, request⟩ :: rest) (line : next.line = rest)
    (grounded : next.flightOf 0 = none) (count : balance.length = served.length + 1)
    (book : ∀ more, Ledger.after outset (script ++ more) (inTurn requests balance) =
      next.ledger (served ++ [(id, outcome, next.store)]) more) :
    Balanced outset requests balance script (served ++ [(id, outcome, next.store)]) next := by
  obtain ⟨done, whole, numbers⟩ := balanced.line
  refine ⟨⟨done ++ [⟨id, request⟩], ?_, ?_⟩, ?_, fun more => ?_⟩
  · rw [whole, first, line, List.append_assoc]
    rfl
  · simp [numbers]
  · rw [grounded, count]
    simp
  · rw [book, grounded]

theorem ledger_reply (more : List CallEnd)
    (refreshes : next.issuer.refreshes = system.issuer.refreshes) :
    next.ledger (served ++ [(id, outcome, next.store)]) more =
      { system.ledger served more with store := next.store }.reply outcome := by
  simp [ledger, Ledger.reply, refreshes]

/-- The end of a call is what a ledger makes of it. -/
theorem Conclusion.concludes (conclusion : Conclusion system operation moved outcome)
    (catalogue : system.catalogue = outset.catalogue) (more : List CallEnd) :
    (system.ledger served
        (⟨(system.issuer.endRefresh system.now).1, system.storeRefusal⟩ :: more)).conclude
          outset operation.request =
      { system.ledger served more with store := moved.store }.reply outcome := by
  cases conclusion with
  | fail failure same refused => simp only [Ledger.conclude, ledger, refused, catalogue, same]
  | save certificate issued saved store =>
      unfold storeCertificate at saved store
      cases refusal : system.storeRefusal with
      | some reason =>
          rw [refusal] at saved
          cases saved
      | none =>
          rw [refusal] at saved store
          cases filed : system.store.store certificate operation.request.features with
          | mk result stored =>
              simp only [filed] at saved store
              cases result with
              | ok value => simp only [Ledger.conclude, ledger, issued, filed, store]
              | error fault => cases saved
  | lose certificate reason issued lost store =>
      unfold storeCertificate at lost store
      cases refusal : system.storeRefusal with
      | some other =>
          rw [refusal] at lost store
          obtain rfl : other = reason := Except.error.inj lost
          simp only [Ledger.conclude, ledger, issued, store]
      | none =>
          rw [refusal] at lost store
          cases filed : system.store.store certificate operation.request.features with
          | mk result stored =>
              simp only [filed] at lost store
              cases result with
              | ok value => cases lost
              | error fault =>
                  obtain rfl : fault.message = reason := Except.error.inj lost
                  simp only [Ledger.conclude, ledger, issued, filed, store]

theorem ledger_needs_call (intervals : system.intervals = outset.intervals)
    (more : List CallEnd) (request : Request) :
    (system.ledger served more).needsCall outset request system.now = system.needsCall request := by
  simp only [Ledger.needsCall, ledger, needsCall, Outset.margin, intervals]

/-- What a step of the operation that the lane serves leaves behind. Its request is the
first one in the line. -/
structure Behind (system moved next : System) (id : RequestId) (rest : List Queued)
    (operation after : Operation) : Prop where
  store : next.store = moved.store
  issuer : next.issuer = moved.issuer
  before : system.flightOf 0 = operation.flight? id
  flight : next.flightOf 0 = after.flight? id
  first : system.line = ⟨id, operation.request⟩ :: rest
  line : next.line =
    if after.stage.outcome?.isSome then rest else ⟨id, operation.request⟩ :: rest

theorem Behind.refreshes (behind : Behind system moved next id rest operation after)
    (unchanged : moved.issuer.refreshes = system.issuer.refreshes) :
    next.issuer.refreshes = system.issuer.refreshes := by rw [behind.issuer, unchanged]

/-- With its outcome the request has left the line. -/
theorem Behind.left (behind : Behind system moved next id rest operation after)
    (ended : after.stage = .ended outcome) : next.line = rest := by
  have line := behind.line
  rw [ended] at line
  exact line

/-- Until then it is the first one. -/
theorem Behind.stays (behind : Behind system moved next id rest operation after)
    (going : after.stage.outcome? = none) : next.line = ⟨id, operation.request⟩ :: rest := by
  have line := behind.line
  rw [going] at line
  exact line

/-- The operation goes on, and its request does not come to its turn. -/
theorem Balanced.go_on (balanced : Balanced outset requests turns ends served system)
    (behind : Behind system moved next id rest operation after)
    (unturned : system.turnOf task operation = []) (going : after.stage.outcome? = none)
    (request : after.request = operation.request) (store : moved.store = system.store)
    (unchanged : moved.issuer.refreshes = system.issuer.refreshes)
    (flies : after.stage.role = .refreshing ↔ operation.stage.role = .refreshing) :
    Balanced outset requests (turns ++ system.turnOf task operation) ends
      (served ++ after.stage.outcome?.toList.map fun outcome => (id, outcome, next.store))
      next := by
  have flight : next.flightOf 0 = system.flightOf 0 := by
    rw [behind.flight, behind.before]
    simp only [Operation.flight?, flies, request]
  have line : next.line = system.line ++ [] := by
    rw [behind.stays going, behind.first, List.append_nil]
  have kept := balanced.still (behind.store.trans store) (behind.refreshes unchanged) flight line
  rw [unturned, going]
  simpa using kept

/-- A request is answered at its turn, with no call. -/
theorem Balanced.answer (balanced : Balanced outset requests turns ends served system)
    (behind : Behind system moved next id rest operation after) (turn : Turn)
    (turned : system.turnOf task operation = [turn])
    (grounded : operation.stage.role ≠ .refreshing) (ended : after.stage = .ended outcome)
    (unchanged : moved.issuer.refreshes = system.issuer.refreshes)
    (serve : ∀ more, (system.ledger served more).serve outset operation.request turn =
      { system.ledger served more with store := moved.store }.reply outcome) :
    Balanced outset requests (turns ++ system.turnOf task operation) ends
      (served ++ after.stage.outcome?.toList.map fun outcome => (id, outcome, next.store))
      next := by
  have before := behind.before.trans (Operation.flight_grounded grounded)
  have after := behind.flight.trans (Operation.flight_ended ended)
  obtain ⟨count, book⟩ := balanced.take before behind.first turn
  rw [turned, ended]
  refine balanced.settle behind.first (behind.left ended) after count fun more => ?_
  rw [book, serve, ← behind.store, ledger_reply more (behind.refreshes unchanged)]

/-- A request is in its call from its turn on. -/
theorem Balanced.begin_call (balanced : Balanced outset requests turns ends served system)
    (behind : Behind system moved next id rest operation after) (turn : Turn)
    (turned : system.turnOf task operation = [turn])
    (grounded : operation.stage.role ≠ .refreshing) (going : after.stage.outcome? = none)
    (flies : after.stage.role = .refreshing) (request : after.request = operation.request)
    (serve : ∀ more, (system.ledger served more).serve outset operation.request turn =
      (next.ledger served more).conclude outset operation.request) :
    Balanced outset requests (turns ++ system.turnOf task operation) ends
      (served ++ after.stage.outcome?.toList.map fun outcome => (id, outcome, next.store))
      next := by
  have before := behind.before.trans (Operation.flight_grounded grounded)
  have after := behind.flight.trans (Operation.flight_flying flies)
  obtain ⟨count, book⟩ := balanced.take before behind.first turn
  obtain ⟨done, whole, numbers⟩ := balanced.line
  rw [turned, going, Option.toList_none, List.map_nil, List.append_nil]
  refine ⟨⟨done, by rw [whole, behind.first, behind.stays going], numbers⟩, ?_, fun more => ?_⟩
  · rw [count, after]
    rfl
  · rw [book, after, serve, request]

/-- The call of a request ends, and the request is answered. -/
theorem Balanced.end_call (balanced : Balanced outset requests turns ends served system)
    (behind : Behind system moved next id rest operation after)
    (catalogue : system.catalogue = outset.catalogue)
    (step : OperationStep system task false operation moved after)
    (last : operation.stage = .concluding) :
    Balanced outset requests (turns ++ system.turnOf task operation)
      (ends ++ system.callEndOf operation)
      (served ++ after.stage.outcome?.toList.map fun outcome => (id, outcome, next.store))
      next := by
  obtain ⟨outcome, ended, conclusion⟩ := step.conclusion last
  have flies : system.flightOf 0 = some (id, operation.request) :=
    behind.before.trans (Operation.flight_flying (by rw [last]; rfl))
  have unchanged : moved.issuer.refreshes = system.issuer.refreshes := by
    cases step.stride with
    | conclude last refreshes load => exact refreshes
    | stay going => exact absurd last going
    | call publicKey going => exact absurd last going
  have unturned : system.turnOf task operation = [] := by simp [turnOf, last]
  have count := balanced.count
  rw [flies] at count
  rw [unturned, List.append_nil, callEndOf, if_pos last, ended]
  refine balanced.settle behind.first (behind.left ended)
    (behind.flight.trans (Operation.flight_ended ended)) count fun more => ?_
  have book := balanced.book
    (⟨(system.issuer.endRefresh system.now).1, system.storeRefusal⟩ :: more)
  rw [flies] at book
  rw [List.append_assoc, ledger_reply more (behind.refreshes unchanged), behind.store]
  exact book.trans (conclusion.concludes catalogue more)

/-- A step of the operation that the lane serves. -/
theorem Balanced.attempt (balanced : Balanced outset requests turns ends served system)
    (intervals : system.intervals = outset.intervals)
    (catalogue : system.catalogue = outset.catalogue)
    (step : OperationStep system task false operation moved after)
    (behind : Behind system moved next id rest operation after) :
    Balanced outset requests (turns ++ system.turnOf task operation)
      (ends ++ system.callEndOf operation)
      (served ++ after.stage.outcome?.toList.map fun outcome => (id, outcome, next.store))
      next := by
  have needs (more : List CallEnd) :
      (system.ledger served more).needsCall outset operation.request system.now =
        system.needsCall operation.request := ledger_needs_call intervals more _
  by_cases last : operation.stage = .concluding
  · exact balanced.end_call behind catalogue step last
  have unended : system.callEndOf operation = [] := if_neg last
  rw [unended, List.append_nil]
  cases step with
  | abandon early cancelled => cases cancelled
  | withdraw alarm stage cancelled => cases cancelled
  | turnBack stage cancelled => cases cancelled
  | fail failure stage => exact absurd stage last
  | save certificate stage => exact absurd stage last
  | lose certificate reason stage => exact absurd stage last
  | expire alarm stage going ungranted due =>
      exact balanced.answer behind .missed
        (by simp [turnOf, stage, lookInLine, ungranted, due]) (by simp [stage, Stage.role]) rfl rfl
        fun more => rfl
  | skip stage going fresh =>
      refine balanced.answer behind (.taken system.now) (by simp [turnOf, stage])
        (by simp [stage, Stage.role]) rfl rfl fun more => ?_
      rw [Ledger.serve_fresh ((needs more).trans fresh)]
      rfl
  | keyless stage going needed missing =>
      exact balanced.answer behind (.taken system.now) (by simp [turnOf, stage])
        (by simp [stage, Stage.role]) rfl rfl fun more =>
          Ledger.serve_keyless ((needs more).trans needed) missing
  | call keys stage going needed found =>
      refine balanced.begin_call behind (.taken system.now) (by simp [turnOf, stage])
        (by simp [stage, Stage.role]) rfl rfl rfl fun more => ?_
      rw [Ledger.serve_call ((needs more).trans needed) found]
      simp [ledger, behind.store, behind.issuer, Issuer.refreshes_begin_refresh]
  | accept alarm stage going granted =>
      exact balanced.go_on behind (by simp [turnOf, stage, lookInLine, granted]) rfl rfl rfl rfl
        (by simp [stage, Stage.role])
  | arrive stage | enter stage | queue stage | pass gate stage | delay gate stage
  | wake alarm stage =>
      exact balanced.go_on behind (by simp [turnOf, stage]) rfl rfl rfl rfl
        (by simp [stage, Stage.role])

theorem Balanced.apply (balanced : Balanced outset requests turns ends served system)
    (steady : Steady outset.system system) (shift : Shift system event next)
    (reads : event = .readKeys → system.store.keys.2 = system.store) :
    Balanced outset (requests ++ system.arrivals event) (turns ++ system.turns event)
      (ends ++ system.callEnds event) (served ++ system.servings event) next := by
  cases shift with
  | aside unturned unended unserved store refreshes flight line =>
      have same : next.store = system.store :=
        store.elim id fun read => read.2.trans (reads read.1)
      rw [unturned, unended, unserved, List.append_nil, List.append_nil, List.append_nil]
      exact balanced.still same refreshes flight line
  | attempt task id operation after moved rest step turned ended answered store issuer before
      flight first line none =>
      rw [turned, ended, answered, none, List.append_nil]
      exact balanced.attempt steady.intervals steady.catalogue step
        ⟨store, issuer, before, flight, first, line⟩

theorem outset_balanced (outset : Outset) : Balanced outset [] [] [] [] outset.system where
  line := ⟨[], rfl, rfl⟩
  count := rfl
  book _ := rfl

theorem run_readable (outset : Outset) (readable : outset.store.keys.2 = outset.store)
    (events : List Event) (untouched : ∀ event ∈ events, event.leavesStore = true) :
    (outset.system.run events).store.keys.2 = (outset.system.run events).store := by
  induction events using List.reverseRecOn with
  | nil => exact readable
  | append_singleton events event induction =>
      have earlier (other : Event) (member : other ∈ events) : other.leavesStore = true :=
        untouched other (List.mem_append_left _ member)
      have sourced := (outset_sourced outset).run events earlier
      rw [run_concat]
      exact (keys_apply sourced.sound sourced.keyed (induction earlier)
        (untouched event (by simp))).2.1

theorem run_balanced (outset : Outset) (events : List Event)
    (queueing : ∀ event ∈ events, event.isQueueing = true)
    (readable : outset.store.keys.2 = outset.store ∨ .readKeys ∉ events) :
    Balanced outset (gathered arrivals outset.system events)
      (gathered System.turns outset.system events) (gathered callEnds outset.system events)
      (gathered servings outset.system events) (outset.system.run events) := by
  induction events using List.reverseRecOn with
  | nil => exact outset_balanced outset
  | append_singleton events event induction =>
      have before (other : Event) (member : other ∈ events) : other ∈ events ++ [event] :=
        List.mem_append_left _ member
      have earlier (other : Event) (member : other ∈ events) : other.isQueueing = true :=
        queueing other (before other member)
      have untouched (other : Event) (member : other ∈ events) : other.leavesStore = true :=
        leaves_of_queueing (earlier other member)
      have balanced := induction earlier (readable.imp_right fun none member =>
        none (before _ member))
      have sourced := (outset_sourced outset).run events untouched
      obtain ⟨single, steady⟩ := run_single outset events earlier
      have shift := apply_shift single sourced.kept (sourced.known 0)
        (queueing event (by simp))
      simp only [gathered_concat, run_concat]
      refine balanced.apply steady shift fun reads => ?_
      rcases readable with same | none
      · exact run_readable outset same events untouched
      · exact absurd (by simp [reads]) none

theorem servings_numbers (outset : Outset) (events : List Event) :
    (gathered servings outset.system events).map (·.1) =
      (givenBy (some 0) (gathered replies outset.system events)).map (·.1) := by
  induction events using List.reverseRecOn with
  | nil => rfl
  | append_singleton events event induction =>
      rw [gathered_concat, gathered_concat, given_by_append, List.map_append, List.map_append,
        induction, servings, List.map_map]
      rfl

/-- Only while the token is with somebody else a request can miss its turn. -/
theorem turns_of_unrivalled (unrivalled : system.Unrivalled) (event : Event) :
    .missed ∉ system.turns event := by
  intro member
  cases event with
  | step task =>
      simp only [System.turns, observed] at member
      split at member
      · rename_i id operation busy
        have role := (attempt_cases busy).1
        cases stage : operation.stage with
        | waiting alarm =>
            rw [stage] at role
            exact unrivalled.unwaited task role
        | _ => simp [turnOf, stage] at member
      · cases member
  | _ => cases member

end System

namespace Outset

/-- The requests that come to the queue in the course of a run. -/
def requests (outset : Outset) (events : List Event) : List Queued :=
  System.gathered System.arrivals outset.system events

def turns (outset : Outset) (events : List Event) : List (Request × Turn) :=
  System.inTurn (outset.requests events) (System.gathered System.turns outset.system events)

/-- What these turns come to when the calls end as they do in the run. -/
def ledger (outset : Outset) (events : List Event) (turns : List (Request × Turn)) : Ledger :=
  Ledger.after outset (System.gathered System.callEnds outset.system events) turns

end Outset

namespace System

/-- A run does with the requests of the queue what the fold over them does. -/
structure FoldsRequests (outset : Outset) (events : List Event) : Prop where
  lanes : (outset.system.run events).lanes.length ≤ 1
  /-- They are the requests that were submitted while the queue was open, in this order. -/
  submitted : (outset.requests events).map (·.id) =
    sentTo (some 0) (gathered submissions outset.system events)
  /-- They are answered in this order, and the others are in the queue. -/
  answered : (outset.requests events).map (·.id) =
    (gathered servings outset.system events).map (·.1) ++
      (outset.system.run events).traffic.pendingOf 0
  begun : (gathered System.turns outset.system events).length ≤ (outset.requests events).length
  calls : (outset.ledger events (outset.turns events)).calls =
    (outset.system.run events).issuer.refreshes
  store : (outset.ledger events (outset.turns events)).store = (outset.system.run events).store
  served : gathered servings outset.system events = ((outset.requests events).map (·.id)).zip
    (outset.ledger events (outset.turns events)).served
  /-- A request misses its turn only when the host takes the token for itself. -/
  missed : (∀ event ∈ events, event.takesToken = false) →
    ∀ turn ∈ outset.turns events, turn.2 ≠ .missed
  /-- Of requests that are alike, not forced and have their turns one behind another only
  the first one can need a call: when it was answered well, the others are too, with no
  call and nothing stored, before the deadline of the certificate. -/
  burst : ∀ earlier request now burst certificate,
    outset.turns events = earlier ++ (request, .taken now) :: burst →
    request.forced = false →
    let first := outset.ledger events (earlier ++ [(request, .taken now)])
    first.served = (outset.ledger events earlier).served ++ [(.ok (), first.store)] →
    first.store.certificate = some certificate →
    (∀ turn ∈ burst, ∃ moment, turn = (request, .taken moment) ∧
      moment < Freshness.deadline certificate outset.margin) →
    (outset.system.run events).issuer.refreshes = first.calls ∧
      (outset.system.run events).store = first.store ∧
      (gathered servings outset.system events).map (·.2) =
        first.served ++ burst.map fun _ => (.ok (), first.store)

theorem zip_numbers (served : List (RequestId × Outcome × Store)) (pending : List RequestId) :
    (served.map (·.1) ++ pending).zip (served.map (·.2)) = served := by
  induction served with
  | nil => exact List.zip_nil_right
  | cons first served induction => simp [induction]

/-- The calls, what is stored and the outcomes are those of a fold over the requests in
the order in which they were submitted, whenever they come and however long each takes.
Only the host could get between them, by reading a damaged document of keys: the store
removes what it cannot read. -/
theorem queue_folds_requests (outset : Outset) (events : List Event)
    (queueing : ∀ event ∈ events, event.isQueueing = true)
    (readable : outset.store.keys.2 = outset.store ∨ .readKeys ∉ events) :
    FoldsRequests outset events := by
  have balanced := run_balanced outset events queueing readable
  obtain ⟨single, -⟩ := run_single outset events queueing
  obtain ⟨done, whole, numbers⟩ := balanced.line
  have pending : (outset.system.run events).line.map (·.id) =
      (outset.system.run events).traffic.pendingOf 0 := Traffic.requests_numbers _ 0
  have answered : (outset.requests events).map (·.id) =
      (gathered servings outset.system events).map (·.1) ++
        (outset.system.run events).traffic.pendingOf 0 := by
    rw [Outset.requests, whole, List.map_append, numbers, pending]
  have book : outset.ledger events (outset.turns events) =
      (outset.system.run events).ledger (gathered servings outset.system events) [] := by
    have last := balanced.book []
    rw [List.append_nil] at last
    refine last.trans ?_
    split <;> rfl
  refine ⟨single.one, ?_, answered, balanced.enough, by rw [book]; rfl, by rw [book]; rfl, ?_, ?_,
    ?_⟩
  · rw [answered, servings_numbers, lane_order]
  · rw [book, answered]
    exact (zip_numbers _ _).symm
  · intro leaves turn member missed
    have taken : turn.2 ∈ gathered System.turns outset.system events :=
      (List.of_mem_zip member).2
    obtain ⟨part, event, rest, rfl, seen⟩ := mem_gathered taken
    have before (other : Event) (member : other ∈ part) : other ∈ part ++ event :: rest :=
      List.mem_append_left _ member
    have unrivalled := run_unrivalled outset part
      (fun other member => queueing other (before other member))
      fun other member => leaves other (before other member)
    exact turns_of_unrivalled unrivalled event (missed ▸ seen)
  · intro earlier request now burst certificate turns unforced first well stored alike
    have served := Ledger.burst_after_first _ earlier burst unforced well stored alike
    have same : (outset.system.run events).ledger (gathered servings outset.system events) [] =
        { first with served := first.served ++ burst.map fun _ => (.ok (), first.store) } := by
      rw [← book, turns]
      exact served
    exact ⟨congrArg Ledger.calls same, congrArg Ledger.store same, congrArg Ledger.served same⟩

/-- A request is in its call when one like it and a tick come. Later the host keeps the
token until the time of another request has run out. -/
def overlapping : List Event :=
  refreshing ++ asking (.user (filtering .malware)) ++ .fire :: stepsOf 1 9 ++
    .hold 0 :: .step 2 :: asking (.user (filtering .off)) ++ stepsOf 1 3 ++
    .elapse 120000 :: stepsOf 1 1

theorem overlapping_requests_fold : FoldsRequests .prompt overlapping ∧
    (gathered servings Outset.prompt.system overlapping).map (fun entry => (entry.1, entry.2.1)) =
      [(0, .ok ()), (1, .ok ()), (2, .ok ()), (3, .error .timedOut)] ∧
    (Outset.prompt.system.run overlapping).issuer.refreshes = [([1], filtering .malware)] := by
  have folds := queue_folds_requests .prompt overlapping (by decide) (.inl rfl)
  refine ⟨folds, ?_, ?_⟩
  · rw [folds.served]
    decide
  · rw [← folds.calls]
    decide

end System

end CertRenewal
