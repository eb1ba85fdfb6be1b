import CertRenewal.Proofs.Flow

/-!
No request is lost, doubled or overtaken. Each one that was submitted was answered
once, or is served or waits in one lane, whoever listens for the answer. A lane
takes up and answers its requests in the order in which they were submitted, one
at a time; and those that are answered without a lane were submitted while none
was open.
-/

namespace CertRenewal

/-- What an operation waits for that has no step to take: the token, the issuer or its
time. -/
def Stage.Waits (system : System) (task : TaskId) (isCancelled : Bool) : Stage → Prop
  | .waiting alarm => isCancelled = false ∧ system.token.place ≠ .granted task ∧
      system.clock < alarm.due
  | .atGate => system.issuer.refreshGate.pass? = none
  | .busy alarm => system.clock < alarm.due
  | _ => False

namespace System

/-- The requests that an event submits, each with the lane that is open then. -/
def submissions (system : System) (event : Event) : List (RequestId × Option LaneId) :=
  (Traffic.newcomers system.traffic (system.apply event).traffic).map fun id =>
    (id, system.openLane)

/-- The answers that an event gives, each with the lane whose worker gives it. -/
def replies (system : System) (event : Event) : List (Option LaneId × RequestId × Outcome) :=
  (Traffic.newAnswers system.traffic (system.apply event).traffic).map fun answer =>
    (system.mover? event, answer)

/-- The answers that an event gives while a host listens for them. -/
def audible (system : System) (event : Event) : List (RequestId × Outcome) :=
  (Traffic.newAnswers system.traffic (system.apply event).traffic).filter
    (·.1 ∈ (system.apply event).listeners)

/-- The requests that a lane takes up in an event. -/
def starts (lane : LaneId) (system : System) (event : Event) : List RequestId :=
  if system.traffic.currentOf lane = [] then (system.apply event).traffic.currentOf lane else []

/-- Where requests are: those that were answered, and those in lanes. -/
def places (system : System) : List RequestId :=
  system.answers.map (·.1) ++ system.lanes.flatMap Lane.pending

/-- The requests among those submitted that found a lane open, or none. -/
def sentTo (lane? : Option LaneId) (submitted : List (RequestId × Option LaneId)) :
    List RequestId :=
  (submitted.filter (·.2 = lane?)).map (·.1)

/-- The answers among those given that came from the worker of a lane, or from none. -/
def givenBy (lane? : Option LaneId) (replied : List (Option LaneId × RequestId × Outcome)) :
    List (RequestId × Outcome) :=
  (replied.filter (·.1 = lane?)).map (·.2)

theorem run_kept (outset : Outset) (events : List Event) :
    (outset.system.run events).traffic.Kept := by
  have start : outset.system.traffic.Kept :=
    ⟨fun _ isOpen => (nomatch isOpen), fun _ _ found => (nomatch found),
      fun _ _ _ _ found => (nomatch found)⟩
  let Holds (system : System) : Prop := system.traffic.Kept
  have kept (system : System) (event : Event) (holds : Holds system) : Holds (system.apply event) :=
    (apply_traffic system event).kept holds
  exact run_invariant kept start events

theorem sent_to_append (lane? : Option LaneId) (first second : List (RequestId × Option LaneId)) :
    sentTo lane? (first ++ second) = sentTo lane? first ++ sentTo lane? second := by
  simp [sentTo]

theorem given_by_append (lane? : Option LaneId)
    (first second : List (Option LaneId × RequestId × Outcome)) :
    givenBy lane? (first ++ second) = givenBy lane? first ++ givenBy lane? second := by
  simp [givenBy]

theorem sent_to_map (lane? openLane : Option LaneId) (came : List RequestId) :
    sentTo lane? (came.map fun id => (id, openLane)) = if openLane = lane? then came else [] := by
  unfold sentTo
  split <;> simp [List.filter_map, Function.comp_def, *]

theorem given_by_map (lane? mover : Option LaneId) (given : List (RequestId × Outcome)) :
    givenBy lane? (given.map fun answer => (mover, answer)) =
      if mover = lane? then given else [] := by
  unfold givenBy
  split <;> simp [List.filter_map, Function.comp_def, *]

theorem mem_sent_to {lane? : Option LaneId} {submitted : List (RequestId × Option LaneId)}
    {id : RequestId} (sent : id ∈ sentTo lane? submitted) : (id, lane?) ∈ submitted := by
  obtain ⟨⟨other, place⟩, found, rfl⟩ := List.mem_map.mp sent
  obtain ⟨member, same⟩ := List.mem_filter.mp found
  rw [← of_decide_eq_true same]
  exact member

variable {system next : System} {task : TaskId} {lane : LaneId}

theorem replies_of_answers {event : Event} {given : List (RequestId × Outcome)}
    (answers : (system.apply event).answers = given.reverse ++ system.answers) :
    system.replies event = given.map fun answer => (system.mover? event, answer) := by
  unfold replies
  rw [Traffic.new_answers_of answers]

theorem step_applied (stepped : system.step task = some next) :
    system.apply (.step task) = next := by
  simp [apply, stepped]

theorem no_replies (stepped : system.step task = some next)
    (answers : next.answers = system.answers) : system.replies (.step task) = [] := by
  rw [← step_applied stepped] at answers
  rw [@replies_of_answers system (.step task) [] answers]
  rfl

theorem reply_of_worker (worker : system.tasks[task]? = some (.worker lane))
    (stepped : system.step task = some next) {id : RequestId} {outcome : Outcome}
    (answers : next.answers = (id, outcome) :: system.answers) :
    system.replies (.step task) = [(some lane, id, outcome)] := by
  have mover : system.mover? (.step task) = some lane := mover_of_task worker
  rw [← step_applied stepped] at answers
  rw [@replies_of_answers system (.step task) [(id, outcome)] answers, mover]
  rfl

theorem worker_event {event : Event} (mover : system.mover? event = some lane) :
    ∃ task : TaskId, event = .step task ∧ system.tasks[task]? = some (.worker lane) := by
  cases event with
  | step task =>
      simp only [mover?, Option.bind_eq_some_iff] at mover
      obtain ⟨kind, found, serves⟩ := mover
      cases kind with
      | worker served =>
          obtain rfl := Option.some.inj serves
          exact ⟨task, rfl, found⟩
      | _ => cases serves
  | _ => cases mover

/-- What an event does to requests, in terms of what is seen of it. -/
structure Passage (system : System) (event : Event) : Prop where
  numbers : (system.submissions event).map (·.1) =
    List.range' system.submitted (system.submissions event).length
  submitted : (system.apply event).submitted =
    system.submitted + (system.submissions event).length
  answers : (system.apply event).answers =
    ((system.replies event).map (·.2)).reverse ++ system.answers
  heard : (system.apply event).heard = (system.audible event).reverse ++ system.heard
  pending : ∀ lane, (givenBy (some lane) (system.replies event)).map (·.1) ++
      (system.apply event).traffic.pendingOf lane =
    system.traffic.pendingOf lane ++ sentTo (some lane) (system.submissions event)
  served : ∀ lane, (givenBy (some lane) (system.replies event)).map (·.1) ++
      (system.apply event).traffic.currentOf lane =
    system.traffic.currentOf lane ++ system.starts lane event
  refused : givenBy none (system.replies event) =
    (sentTo none (system.submissions event)).map fun id => (id, .error .cancelled)
  places : ((system.replies event).map (·.2.1) ++
      (system.apply event).lanes.flatMap Lane.pending).Perm
    (system.lanes.flatMap Lane.pending ++ (system.submissions event).map (·.1))

theorem passage (kept : system.traffic.Kept) (event : Event) : system.Passage event := by
  obtain ⟨came, given, flow⟩ := (apply_traffic system event).flow kept
  have submitted : system.submissions event = came.map fun id => (id, system.openLane) := by
    rw [submissions, flow.newcomers]
  have replied : system.replies event = given.map fun answer => (system.mover? event, answer) := by
    rw [replies, flow.new_answers]
  have listened : system.audible event =
      given.filter (·.1 ∈ (system.apply event).listeners) := by
    rw [audible, flow.new_answers]
  have sent (lane? : Option LaneId) : sentTo lane? (system.submissions event) =
      if system.openLane = lane? then came else [] := by rw [submitted, sent_to_map]
  have gave (lane? : Option LaneId) : givenBy lane? (system.replies event) =
      if system.mover? event = lane? then given else [] := by rw [replied, given_by_map]
  have gaveIds (lane? : Option LaneId) :
      (givenBy lane? (system.replies event)).map (·.1) =
        if system.mover? event = lane? then given.map (·.1) else [] := by
    rw [gave]
    split <;> rfl
  have ids : (system.submissions event).map (·.1) = came := by
    rw [submitted, List.map_map]
    exact List.map_id came
  have count : (system.submissions event).length = came.length := by simp [submitted]
  have answers : (system.replies event).map (·.2) = given := by
    rw [replied, List.map_map]
    exact List.map_id given
  refine ⟨?_, ?_, ?_, ?_, ?_, ?_, ?_, ?_⟩
  · rw [ids, count]
    exact flow.submitted.1
  · rw [count]
    exact flow.submitted.2
  · rw [answers]
    exact flow.answers
  · rw [listened]
    exact flow.heard
  · intro lane
    rw [gaveIds, sent]
    exact flow.pending lane
  · intro lane
    rw [gaveIds]
    exact flow.served lane
  · have closed : system.traffic.openLane = system.openLane := rfl
    rw [gave, sent, flow.refused, closed]
    by_cases none : system.openLane = none
    · simp only [if_pos none]
    · simp only [if_neg none, List.map_nil]
  · have names : (system.replies event).map (·.2.1) = given.map (·.1) := by
      rw [← answers, List.map_map]
      rfl
    rw [names, ids]
    exact flow.places

theorem range_append (first more : Nat) :
    List.range first ++ List.range' first more = List.range (first + more) := by
  rw [List.range_eq_range', List.range_eq_range', ← List.range'_append_1, Nat.zero_add]

theorem submissions_numbered (outset : Outset) (events : List Event) :
    (gathered submissions outset.system events).map (·.1) =
      List.range (outset.system.run events).submitted := by
  induction events using List.reverseRecOn with
  | nil => rfl
  | append_singleton events event induction =>
      have passage := passage (run_kept outset events) event
      rw [gathered_concat, run_concat, List.map_append, induction, passage.numbers,
        passage.submitted, range_append]

theorem answers_recorded (outset : Outset) (events : List Event) :
    (outset.system.run events).answers =
      ((gathered replies outset.system events).map (·.2)).reverse := by
  induction events using List.reverseRecOn with
  | nil => rfl
  | append_singleton events event induction =>
      have passage := passage (run_kept outset events) event
      rw [gathered_concat, run_concat, passage.answers, induction, List.map_append,
        List.reverse_append]

theorem heard_recorded (outset : Outset) (events : List Event) :
    (outset.system.run events).heard = (gathered audible outset.system events).reverse := by
  induction events using List.reverseRecOn with
  | nil => rfl
  | append_singleton events event induction =>
      have passage := passage (run_kept outset events) event
      rw [gathered_concat, run_concat, passage.heard, induction, List.reverse_append]

theorem places_apply (kept : system.traffic.Kept) (event : Event)
    (placed : system.places.Perm (List.range system.submitted)) :
    (system.apply event).places.Perm (List.range (system.apply event).submitted) := by
  have passage := passage kept event
  let after := system.apply event
  let given := (system.replies event).map (·.2.1)
  have answered : after.answers.map (·.1) = given.reverse ++ system.answers.map (·.1) := by
    rw [passage.answers, List.map_append, List.map_reverse, List.map_map]
    rfl
  calc after.places
      _ = given.reverse ++ (system.answers.map (·.1) ++ after.lanes.flatMap Lane.pending) := by
        rw [places, answered, List.append_assoc]
      _ |>.Perm (given ++ (system.answers.map (·.1) ++ after.lanes.flatMap Lane.pending)) :=
        (List.reverse_perm given).append_right _
      _ |>.Perm (system.answers.map (·.1) ++ (given ++ after.lanes.flatMap Lane.pending)) :=
        List.perm_append_comm_assoc _ _ _
      _ |>.Perm (system.answers.map (·.1) ++ (system.lanes.flatMap Lane.pending ++
          (system.submissions event).map (·.1))) := passage.places.append_left _
      _ = system.places ++
          List.range' system.submitted (system.submissions event).length := by
        rw [places, passage.numbers, List.append_assoc]
      _ |>.Perm (List.range system.submitted ++
          List.range' system.submitted (system.submissions event).length) :=
        placed.append_right _
      _ = List.range after.submitted := by rw [range_append, passage.submitted]

theorem requests_placed (outset : Outset) (events : List Event) :
    (outset.system.run events).places.Perm
      (List.range (outset.system.run events).submitted) := by
  induction events using List.reverseRecOn with
  | nil => exact .refl _
  | append_singleton events event induction =>
      rw [run_concat]
      exact places_apply (run_kept outset events) event induction

/-- An answer that was given stays in the record. -/
theorem answers_kept (kept : system.traffic.Kept) (event : Event)
    {entry : RequestId × Outcome} (given : entry ∈ system.answers) :
    entry ∈ (system.apply event).answers := by
  rw [(passage kept event).answers]
  exact List.mem_append_right _ given

/-- As requests are answered once, the record says what the answer to one is. -/
theorem answer_of_mem (placed : system.places.Perm (List.range system.submitted))
    {id : RequestId} {outcome : Outcome} (given : (id, outcome) ∈ system.answers) :
    system.answer? id = some outcome := by
  have once : (system.answers.map (·.1)).Nodup :=
    (List.nodup_append.mp (placed.nodup_iff.mpr List.nodup_range)).1
  obtain ⟨front, rest, split⟩ := List.append_of_mem given
  refine List.lookup_eq_some_iff.mpr ⟨front, rest, split, fun entry member => ?_⟩
  rw [split, List.map_append] at once
  have apart := (List.nodup_append.mp once).2.2 entry.1 (List.mem_map_of_mem member) id
    List.mem_cons_self
  simpa using Ne.symm apart

/-- What has no answer on record was not answered. -/
theorem unanswered_of_none (placed : system.places.Perm (List.range system.submitted))
    {id : RequestId} (none : system.answer? id = none) : id ∉ system.answers.map (·.1) := by
  intro answered
  obtain ⟨entry, given, rfl⟩ := List.mem_map.mp answered
  cases none.symm.trans (answer_of_mem placed given)

theorem unanswered_of_pending (placed : system.places.Perm (List.range system.submitted))
    {id : RequestId} (pending : id ∈ system.lanes.flatMap Lane.pending) :
    id ∉ system.answers.map (·.1) := by
  intro answered
  have once : system.places.Nodup := placed.nodup_iff.mpr List.nodup_range
  exact (List.nodup_append.mp once).2.2 id answered id pending rfl

/-- A request that was submitted is answered, or it is in a lane. -/
theorem answered_or_pending (placed : system.places.Perm (List.range system.submitted))
    {id : RequestId} (submitted : id < system.submitted) :
    id ∈ system.answers.map (·.1) ∨ ∃ (lane : LaneId) (held : Lane),
      system.lanes[lane]? = some held ∧ id ∈ held.pending := by
  have place : id ∈ system.places := placed.mem_iff.mpr (List.mem_range.mpr submitted)
  refine (List.mem_append.mp place).imp_right fun pending => ?_
  obtain ⟨held, member, waits⟩ := List.mem_flatMap.mp pending
  obtain ⟨lane, found⟩ := List.mem_iff_getElem?.mp member
  exact ⟨lane, held, found, waits⟩

theorem pending_in_lanes {lane : LaneId} {id : RequestId}
    (pending : id ∈ system.traffic.pendingOf lane) : id ∈ system.lanes.flatMap Lane.pending := by
  unfold Traffic.pendingOf at pending
  cases found : system.lanes[lane]? with
  | none =>
      have read : readLane Lane.pending [] system.traffic.lanes lane = [] := read_lane_missing found
      rw [read] at pending
      cases pending
  | some held =>
      have read : readLane Lane.pending [] system.traffic.lanes lane = held.pending :=
        read_lane_found found
      rw [read] at pending
      exact List.mem_flatMap.mpr ⟨held, List.mem_of_getElem? found, pending⟩

theorem lane_order (outset : Outset) (events : List Event) (lane : LaneId) :
    (givenBy (some lane) (gathered replies outset.system events)).map (·.1) ++
        (outset.system.run events).traffic.pendingOf lane =
      sentTo (some lane) (gathered submissions outset.system events) := by
  induction events using List.reverseRecOn with
  | nil => rfl
  | append_singleton events event induction =>
      have passage := passage (run_kept outset events) event
      rw [gathered_concat, gathered_concat, run_concat, given_by_append, sent_to_append,
        List.map_append, List.append_assoc, passage.pending, ← List.append_assoc, induction]

theorem lane_starts (outset : Outset) (events : List Event) (lane : LaneId) :
    (givenBy (some lane) (gathered replies outset.system events)).map (·.1) ++
        (outset.system.run events).traffic.currentOf lane =
      gathered (starts lane) outset.system events := by
  induction events using List.reverseRecOn with
  | nil => rfl
  | append_singleton events event induction =>
      have passage := passage (run_kept outset events) event
      rw [gathered_concat, gathered_concat, run_concat, given_by_append,
        List.map_append, List.append_assoc, passage.served, ← List.append_assoc, induction]

theorem refusals_recorded (outset : Outset) (events : List Event) :
    givenBy none (gathered replies outset.system events) =
      (sentTo none (gathered submissions outset.system events)).map
        fun id => (id, .error .cancelled) := by
  induction events using List.reverseRecOn with
  | nil => rfl
  | append_singleton events event induction =>
      have passage := passage (run_kept outset events) event
      rw [gathered_concat, gathered_concat, given_by_append, sent_to_append, List.map_append,
        induction, passage.refused]

/-- The operation that a lane serves waits for the token, for the issuer or for its
time. -/
def Waits (system : System) (task : TaskId) (held : Lane) : Prop :=
  ∃ id operation, held.current = some (id, operation) ∧
    operation.stage.Waits system task held.isShut

/-- An operation that cannot go on waits for something, or has come to its end. -/
theorem step_operation_none {task : TaskId} {isCancelled : Bool} {operation : Operation}
    (stuck : system.stepOperation task isCancelled operation = none) :
    match operation.stage with
    | .waiting alarm => isCancelled = false ∧ system.token.place ≠ .granted task ∧
        system.clock < alarm.due
    | .atGate => system.issuer.refreshGate.pass? = none
    | .busy alarm => system.clock < alarm.due
    | .ended _ => True
    | _ => False := by
  unfold stepOperation at stuck
  cases stage : operation.stage with
  | created => cases isCancelled <;> simp [stage] at stuck
  | arriving =>
      simp only [stage] at stuck
      split at stuck
      · cases stuck
      · split at stuck <;> cases stuck
  | waiting alarm =>
      cases isCancelled with
      | true => simp [stage] at stuck
      | false =>
          by_cases granted : system.token.place = .granted task
          · simp [stage, lookInLine, granted] at stuck
          · by_cases due : alarm.due ≤ system.clock
            · simp [stage, lookInLine, granted, due] at stuck
            · exact ⟨rfl, granted, Nat.lt_of_not_le due⟩
  | admitted => cases isCancelled <;> simp [stage] at stuck
  | atGate =>
      cases passes : system.issuer.refreshGate.pass? with
      | none => rfl
      | some gate =>
          simp only [stage, passes] at stuck
          split at stuck <;> cases stuck
  | busy alarm =>
      by_cases due : alarm.due ≤ system.clock
      · simp [stage, due] at stuck
      · exact Nat.lt_of_not_le due
  | concluding => simp [stage] at stuck
  | ended outcome => trivial

theorem step_operation_waits {task : TaskId} {isCancelled : Bool} {operation : Operation}
    (stuck : system.stepOperation task isCancelled operation = none)
    (going : ∀ outcome, operation.stage ≠ .ended outcome) :
    operation.stage.Waits system task isCancelled := by
  have rule := step_operation_none stuck
  cases stage : operation.stage with
  | ended outcome => exact absurd stage (going outcome)
  | _ =>
      rw [stage] at rule
      exact rule

end System

end CertRenewal
