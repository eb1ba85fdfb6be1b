import CertRenewal.Proofs.Requests
import Mathlib.Data.List.Basic

/-!
How a request comes to its answer. Every step of the worker of a lane gives an answer,
takes up the next request or brings the operation that it serves nearer to its end. So a
request is answered when its worker has taken eight steps for it and for each one that
stands before it, and until then the worker goes on unless it waits for the token, for
the issuer or for its time.
-/

namespace CertRenewal

/-- How many steps an operation has before it at most. -/
def Stage.rank : Stage → Nat
  | created => 7
  | arriving => 6
  | waiting _ => 5
  | admitted => 4
  | atGate => 3
  | busy _ => 2
  | concluding => 1
  | ended _ => 0

theorem Stage.rank_pos {stage : Stage} (going : ∀ outcome, stage ≠ .ended outcome) :
    0 < stage.rank := by
  cases stage with
  | ended outcome => exact absurd rfl (going outcome)
  | _ => exact Nat.succ_pos _

theorem Stage.rank_le (stage : Stage) : stage.rank ≤ 7 := by
  cases stage <;> simp [rank]

/-- How many steps its worker takes at most until the first request of a lane is
answered; one of them takes it up. -/
def Lane.lead (lane : Lane) : Nat :=
  match lane.current with
  | some (_, operation) => operation.stage.rank
  | none => 8

theorem Lane.lead_le (lane : Lane) : lane.lead ≤ 8 := by
  unfold lead
  split
  · exact Nat.le_succ_of_le (Stage.rank_le _)
  · exact Nat.le_refl 8

namespace Traffic

variable {traffic next : Traffic} {mover : Option LaneId} {asks : Request → Prop} {lane : LaneId}

theorem Submissions.lead (submissions : Relation.ReflTransGen (Submission asks) traffic next)
    (lane : LaneId) :
    readLane Lane.lead 8 next.lanes lane = readLane Lane.lead 8 traffic.lanes lane := by
  induction submissions with
  | refl => rfl
  | tail before last induction =>
      rw [← induction]
      cases last with
      | refuse isClosed => rfl
      | accept request opened isOpen asked =>
          exact read_lane_modify_same opened (fun _ => by rfl) lane

/-- Only its own worker has a lane go on. -/
theorem Step.lead (step : Step mover asks traffic next) (others : mover ≠ some lane) :
    readLane Lane.lead 8 next.lanes lane = readLane Lane.lead 8 traffic.lanes lane := by
  have elsewhere {other : LaneId} {held : Lane} (new : Lane) (worker : mover = some other)
      (found : traffic.lanes[other]? = some held) :
      readLane Lane.lead 8 (traffic.lanes.set other new) lane =
        readLane Lane.lead 8 traffic.lanes lane := by
    rw [read_lane_set new found, if_neg]
    rintro rfl
    exact others worker
  cases step with
  | rest listeners => rfl
  | submit listeners next host submissions => exact Submissions.lead submissions lane
  | opened isClosed => exact read_lane_append Lane.fresh rfl lane
  | shut opened isOpen => exact read_lane_modify_same opened (fun _ => by rfl) lane
  | carry other held id operation after worker found => exact elsewhere _ worker found
  | takeUp other held queued rest worker found => exact elsewhere _ worker found
  | deliver other held id operation outcome worker found => exact elsewhere _ worker found
  | drain other held worker found => exact elsewhere _ worker found

end Traffic

namespace System

variable {system next moved : System} {task : TaskId} {lane : LaneId} {held : Lane}
  {id : RequestId}

theorem OperationStep.nearer {isCancelled : Bool} {operation after : Operation}
    (step : OperationStep system task isCancelled operation moved after) :
    after.stage.rank < operation.stage.rank := by
  cases step with
  | abandon early cancelled =>
      rcases early with stage | stage <;> simp [stage, Operation.finish, Stage.rank]
  | _ => simp [*, Operation.finish, Stage.rank]

/-- What the next step of its worker does for the requests of a lane. -/
inductive Advance (system : System) (task : TaskId) (lane : LaneId) (held : Lane) : Prop
  | answer (id : RequestId) (operation : Operation) (outcome : Outcome)
      (current : held.current = some (id, operation))
      (replied : system.replies (.step task) = [(some lane, id, outcome)])
      (after : (system.apply (.step task)).lanes[lane]? = some { held with current := none })
  | takeUp (queued : Queued) (rest : List Queued) (idle : held.current = none)
      (waiting : held.waiting = queued :: rest) (quiet : system.replies (.step task) = [])
      (after : (system.apply (.step task)).lanes[lane]? = some
        { held with waiting := rest, current := some (queued.id, .start queued.request) })
  | carry (id : RequestId) (operation next : Operation)
      (current : held.current = some (id, operation)) (quiet : system.replies (.step task) = [])
      (nearer : next.stage.rank < operation.stage.rank)
      (after : (system.apply (.step task)).lanes[lane]? =
        some { held with current := some (id, next) })

theorem advances (worker : system.tasks[task]? = some (.worker lane))
    (found : system.lanes[lane]? = some held) (pending : held.pending ≠ [])
    (steps : system.canStep task = true) : system.Advance task lane held := by
  have bound := (List.getElem?_eq_some_iff.mp found).1
  obtain ⟨next, stepped⟩ := Option.isSome_iff_exists.mp steps
  have applied := step_applied stepped
  have taken : system.stepWorker task lane = some next := by simpa [step, worker] using stepped
  cases step_worker_cases taken with
  | carry old id operation after moved there current moves going =>
      obtain rfl := Option.some.inj (found.symm.trans there)
      refine .carry id operation after current ?_ moves.nearer ?_
      · refine no_replies stepped ?_
        rw [moves.frame]
        rfl
      · rw [applied, moves.frame]
        simp [setLane, bound]
  | deliver old id operation after moved outcome there current moves ended =>
      obtain rfl := Option.some.inj (found.symm.trans there)
      refine .answer id operation outcome current ?_ ?_
      · refine reply_of_worker worker stepped ?_
        rw [moves.frame]
        rfl
      · rw [applied, moves.frame]
        simp [setLane, System.answer, bound]
  | takeUp old queued rest there idle waiting =>
      obtain rfl := Option.some.inj (found.symm.trans there)
      refine .takeUp queued rest idle waiting (no_replies stepped rfl) ?_
      rw [applied]
      simp [setLane, bound]
  | drain old there idle empty shut undrained =>
      obtain rfl := Option.some.inj (found.symm.trans there)
      exact absurd (by simp [Lane.pending, Lane.served, idle, empty]) pending

/-- A lane that has requests has a worker that goes on, unless it waits. -/
theorem lane_goes_on (crewed : system.Crewed) (kept : system.traffic.Kept)
    (found : system.lanes[lane]? = some held) (pending : held.pending ≠ []) :
    ∃ task : TaskId, system.tasks[task]? = some (.worker lane) ∧
      (system.canStep task = true ∨ system.Waits task held) := by
  obtain ⟨task, worker⟩ :=
    (crewed.worker_iff lane).mpr (List.getElem?_eq_some_iff.mp found).1
  refine ⟨task, worker, ?_⟩
  have steps : system.step task = system.stepWorker task lane := by simp [step, worker]
  rw [canStep, steps]
  cases current : held.current with
  | none =>
      left
      cases waiting : held.waiting with
      | nil => simp [Lane.pending, Lane.served, current, waiting] at pending
      | cons queued rest => simp [stepWorker, found, current, waiting]
  | some entry =>
      obtain ⟨id, operation⟩ := entry
      cases moves : system.stepOperation task held.isShut operation with
      | some moved =>
          left
          simp [stepWorker, found, current, moves]
      | none =>
          right
          have going := kept.going lane held id operation found current
          exact ⟨id, operation, current, step_operation_waits moves going⟩

/-- The steps that the worker of a lane takes. -/
def strides (lane : LaneId) (system : System) : Event → List TaskId
  | .step task =>
    if system.mover? (.step task) = some lane ∧ system.canStep task = true then [task] else []
  | _ => []

/-- How many steps the worker of a lane takes at most until a request is answered. -/
def toil (system : System) (lane : LaneId) (id : RequestId) : Nat :=
  readLane Lane.lead 8 system.lanes lane + 8 * (system.traffic.pendingOf lane).idxOf id

theorem toil_found (found : system.lanes[lane]? = some held) (id : RequestId) :
    system.toil lane id = held.lead + 8 * held.pending.idxOf id := by
  have line : system.traffic.pendingOf lane = held.pending := read_lane_found found
  rw [toil, line, read_lane_found found]

theorem toil_le (system : System) (lane : LaneId) (id : RequestId) :
    system.toil lane id ≤ 8 * ((system.traffic.pendingOf lane).idxOf id + 1) := by
  have lead : readLane Lane.lead 8 system.lanes lane ≤ 8 := by
    cases found : system.lanes[lane]? with
    | none => exact Nat.le_of_eq (read_lane_missing found)
    | some held =>
        rw [read_lane_found found]
        exact held.lead_le
  unfold toil
  omega

theorem found_of_pending (pending : id ∈ system.traffic.pendingOf lane) :
    ∃ held : Lane, system.lanes[lane]? = some held ∧ id ∈ held.pending := by
  cases found : system.lanes[lane]? with
  | none =>
      have none : system.traffic.pendingOf lane = [] := read_lane_missing found
      rw [none] at pending
      cases pending
  | some held =>
      have line : system.traffic.pendingOf lane = held.pending := read_lane_found found
      exact ⟨held, rfl, line ▸ pending⟩

theorem toil_pos (kept : system.traffic.Kept) (pending : id ∈ system.traffic.pendingOf lane) :
    0 < system.toil lane id := by
  obtain ⟨held, found, -⟩ := found_of_pending pending
  rw [toil_found found]
  refine Nat.add_pos_left ?_ _
  unfold Lane.lead
  cases current : held.current with
  | none => exact Nat.succ_pos 7
  | some entry => exact Stage.rank_pos (kept.going lane held entry.1 entry.2 found current)

theorem strides_elsewhere {event : Event} (others : system.mover? event ≠ some lane) :
    strides lane system event = [] := by
  cases event with
  | step task => exact if_neg fun own => others own.1
  | _ => rfl

/-- What others do brings a request neither nearer to its answer nor farther from it. -/
theorem toil_elsewhere (kept : system.traffic.Kept) {event : Event}
    (others : system.mover? event ≠ some lane) (pending : id ∈ system.traffic.pendingOf lane) :
    id ∈ (system.apply event).traffic.pendingOf lane ∧
      (system.apply event).toil lane id = system.toil lane id := by
  have line := (passage kept event).pending lane
  have silent : givenBy (some lane) (system.replies event) = [] := by
    unfold replies
    rw [given_by_map, if_neg others]
  rw [silent, List.map_nil, List.nil_append] at line
  have lead := (apply_traffic system event).lead others
  constructor
  · rw [line]
    exact List.mem_append_left _ pending
  · unfold toil
    rw [line, List.idxOf_append_of_mem pending]
    exact congrArg (· + _) lead

/-- A step of the worker brings every request of the lane nearer to its answer. -/
theorem Advance.toil (advance : system.Advance task lane held) (kept : system.traffic.Kept)
    (found : system.lanes[lane]? = some held) (pending : id ∈ held.pending) :
    (∃ outcome, (some lane, id, outcome) ∈ system.replies (.step task)) ∨
      id ∈ (system.apply (.step task)).traffic.pendingOf lane ∧
        (system.apply (.step task)).toil lane id < system.toil lane id := by
  rw [toil_found found]
  cases advance with
  | answer first operation outcome current replied after =>
      have line : held.pending = first :: held.waiting.map (·.id) := by
        simp [Lane.pending, Lane.served, current]
      have rest : (system.apply (.step task)).traffic.pendingOf lane = held.waiting.map (·.id) :=
        read_lane_found after
      rw [line] at pending ⊢
      rcases List.mem_cons.mp pending with rfl | behind
      · exact .inl ⟨outcome, by simp [replied]⟩
      · by_cases itself : first = id
        · exact .inl ⟨outcome, by simp [replied, itself]⟩
        · refine .inr ⟨rest ▸ behind, ?_⟩
          have rank := Stage.rank_pos (kept.going lane held first operation found current)
          rw [toil_found after, List.idxOf_cons_ne _ itself]
          simp only [Lane.lead, current, Lane.pending, Lane.served, Option.map_none,
            Option.toList_none, List.nil_append]
          omega
  | takeUp queued rest idle waiting quiet after =>
      right
      let served : Lane :=
        { held with waiting := rest, current := some (queued.id, .start queued.request) }
      have line : served.pending = held.pending := by
        simp [served, Lane.pending, Lane.served, idle, waiting]
      have still : (system.apply (.step task)).traffic.pendingOf lane = served.pending :=
        read_lane_found after
      rw [toil_found after]
      refine ⟨by rw [still, line]; exact pending, ?_⟩
      rw [line]
      refine Nat.add_lt_add_right ?_ _
      simp [Lane.lead, idle, Operation.start, Stage.rank]
  | carry first operation next current quiet nearer after =>
      right
      let carried : Lane := { held with current := some (first, next) }
      have line : carried.pending = held.pending := by
        simp [carried, Lane.pending, Lane.served, current]
      have still : (system.apply (.step task)).traffic.pendingOf lane = carried.pending :=
        read_lane_found after
      rw [toil_found after]
      refine ⟨by rw [still, line]; exact pending, ?_⟩
      rw [line]
      refine Nat.add_lt_add_right ?_ _
      simpa [Lane.lead, current] using nearer

theorem toil_apply (kept : system.traffic.Kept) (event : Event)
    (pending : id ∈ system.traffic.pendingOf lane) :
    (∃ outcome, (some lane, id, outcome) ∈ system.replies event) ∨
      id ∈ (system.apply event).traffic.pendingOf lane ∧
        (strides lane system event).length + (system.apply event).toil lane id ≤
          system.toil lane id := by
  by_cases mover : system.mover? event = some lane
  · obtain ⟨task, rfl, worker⟩ := worker_event mover
    obtain ⟨held, found, inside⟩ := found_of_pending pending
    by_cases steps : system.canStep task = true
    · have advance := advances worker found (List.ne_nil_of_mem inside) steps
      refine (advance.toil kept found inside).imp_right fun ⟨still, less⟩ => ⟨still, ?_⟩
      have one : strides lane system (.step task) = [task] := if_pos ⟨mover, steps⟩
      rw [one, List.length_singleton, Nat.add_comm]
      exact less
    · have stays : system.apply (.step task) = system := by
        have stuck : system.step task = none := by simpa [canStep] using steps
        simp [apply, stuck]
      have none : strides lane system (.step task) = [] := if_neg fun own => steps own.2
      rw [stays, none]
      exact .inr ⟨pending, Nat.le_of_eq (Nat.zero_add _)⟩
  · obtain ⟨still, same⟩ := toil_elsewhere kept mover pending
    rw [strides_elsewhere mover, same]
    exact .inr ⟨still, Nat.le_of_eq (Nat.zero_add _)⟩

/-- Until a request is answered each step of its worker lessens what is before it. -/
theorem toil_run (kept : system.traffic.Kept) (events : List Event)
    (pending : id ∈ system.traffic.pendingOf lane) :
    (∃ outcome, (some lane, id, outcome) ∈ gathered replies system events) ∨
      id ∈ (system.run events).traffic.pendingOf lane ∧
        (gathered (strides lane) system events).length + (system.run events).toil lane id ≤
          system.toil lane id := by
  induction events generalizing system with
  | nil => exact .inr ⟨pending, Nat.le_of_eq (Nat.zero_add _)⟩
  | cons event events induction =>
      rcases toil_apply kept event pending with ⟨outcome, replied⟩ | ⟨still, less⟩
      · exact .inl ⟨outcome, List.mem_append_left _ replied⟩
      · have later := induction ((apply_traffic system event).kept kept) still
        rcases later with ⟨outcome, replied⟩ | ⟨waits, fewer⟩
        · exact .inl ⟨outcome, List.mem_append_right _ replied⟩
        · refine .inr ⟨waits, ?_⟩
          have whole : system.run (event :: events) = (system.apply event).run events := rfl
          rw [gathered, List.length_append, whole]
          omega

/-- A request is answered by the worker of its lane before that has taken more than eight
steps for it and for each one before it. -/
theorem answered_in_steps (kept : system.traffic.Kept) (events : List Event)
    (pending : id ∈ system.traffic.pendingOf lane)
    (enough : 8 * ((system.traffic.pendingOf lane).idxOf id + 1) ≤
      (gathered (strides lane) system events).length) :
    ∃ outcome, (some lane, id, outcome) ∈ gathered replies system events := by
  refine (toil_run kept events pending).resolve_right fun ⟨waits, fewer⟩ => ?_
  have next (system : System) (event : Event) (kept : system.traffic.Kept) :
      (system.apply event).traffic.Kept := (apply_traffic system event).kept kept
  have least := toil_pos (run_invariant next kept events) waits
  have most := system.toil_le lane id
  omega

/-- What becomes of all requests of a run. -/
structure AnsweredInOrder (outset : Outset) (events : List Event) : Prop where
  numbered : (gathered submissions outset.system events).map (·.1) =
    List.range (outset.system.run events).submitted
  recorded : (outset.system.run events).answers =
    ((gathered replies outset.system events).map (·.2)).reverse
  heard : (outset.system.run events).heard = (gathered audible outset.system events).reverse
  /-- Each request is in one place: it was answered once, or it is in one lane. -/
  placed : (outset.system.run events).places.Perm
    (List.range (outset.system.run events).submitted)
  /-- A lane answers what came to it in the order in which it came. -/
  inOrder : ∀ lane, (givenBy (some lane) (gathered replies outset.system events)).map (·.1) ++
      (outset.system.run events).traffic.pendingOf lane =
    sentTo (some lane) (gathered submissions outset.system events)
  /-- It takes requests up in this order too, and one at a time. -/
  begun : ∀ lane, (givenBy (some lane) (gathered replies outset.system events)).map (·.1) ++
      (outset.system.run events).traffic.currentOf lane =
    gathered (starts lane) outset.system events
  single : ∀ lane, ((outset.system.run events).traffic.currentOf lane).length ≤ 1
  /-- What came while no lane was open was cancelled at once, and nothing else is answered
  without a lane. -/
  refused : givenBy none (gathered replies outset.system events) =
    (sentTo none (gathered submissions outset.system events)).map fun id =>
      (id, .error .cancelled)
  /-- A step of the worker of a lane gives an answer, takes up the next request or brings
  the operation nearer to its end. -/
  advances : ∀ task lane held, (outset.system.run events).tasks[task]? = some (.worker lane) →
    (outset.system.run events).lanes[lane]? = some held → held.pending ≠ [] →
      (outset.system.run events).canStep task = true →
        (outset.system.run events).Advance task lane held
  /-- A lane that has requests has a worker, which takes such a step unless it waits. -/
  goesOn : ∀ lane held, (outset.system.run events).lanes[lane]? = some held →
    held.pending ≠ [] → ∃ task : TaskId,
      (outset.system.run events).tasks[task]? = some (.worker lane) ∧
        ((outset.system.run events).canStep task = true ∨
          (outset.system.run events).Waits task held)
  /-- A request is answered when its worker has taken eight steps for it and for each one
  that stood before it. -/
  answered : ∀ before after, events = before ++ after →
    ∀ lane, ∀ id ∈ (outset.system.run before).traffic.pendingOf lane,
      8 * (((outset.system.run before).traffic.pendingOf lane).idxOf id + 1) ≤
          (gathered (strides lane) (outset.system.run before) after).length →
        ∃ outcome, (some lane, id, outcome) ∈ gathered replies (outset.system.run before) after

/-- Every request is in one place and answered once: it comes to the lane that is open
when it is submitted, which takes up and answers what came to it in this order, one at a
time, or it is answered at once because none is open. As long as its worker does not
have to wait, a lane comes to the answer in no more than eight steps for each request. -/
theorem requests_kept_and_answered_in_order (outset : Outset) (events : List Event) :
    AnsweredInOrder outset events where
  numbered := submissions_numbered outset events
  recorded := answers_recorded outset events
  heard := heard_recorded outset events
  placed := requests_placed outset events
  inOrder := lane_order outset events
  begun := lane_starts outset events
  single lane := by
    unfold Traffic.currentOf readLane
    cases (outset.system.run events).traffic.lanes[lane]? with
    | none => exact Nat.zero_le 1
    | some held => cases current : held.current <;> simp [Lane.served, current]
  refused := refusals_recorded outset events
  advances task lane held worker found pending steps := System.advances worker found pending steps
  goesOn lane held found pending :=
    lane_goes_on (run_crewed outset events) (run_kept outset events) found pending
  answered before after split lane id pending enough :=
    answered_in_steps (run_kept outset before) after pending enough

end System

/-- A program with keys, whose issuer lets nobody pass without a permit. -/
def Outset.guarded : Outset where
  intervals := .standard
  catalogue := .empty
  tickSource := .host
  origin := .epoch
  store := .memory (.withKeys ⟨[1], [2]⟩)
  storeRefusal := none
  refreshGate := .guarded 0
  sessionGate := .guarded 0
  delay := 0
  refreshScript := []
  sessionScript := []

namespace System

/-- Two requests, and a permit for the call of the first one. -/
def twoAsked : List Event :=
  .openQueue :: asking (.user none) ++ .permitRefreshes 1 :: asking (.user none)

theorem answered_after_eight_steps :
    (Outset.guarded.system.run twoAsked).traffic.pendingOf 0 = [0, 1] ∧
      (gathered (strides 0) (Outset.guarded.system.run twoAsked) (stepsOf 0 8)).length = 8 ∧
      ∃ outcome, (some 0, 0, outcome) ∈
        gathered replies (Outset.guarded.system.run twoAsked) (stepsOf 0 8) := by
  have kept := requests_kept_and_answered_in_order .guarded (twoAsked ++ stepsOf 0 8)
  exact ⟨by decide, by decide, kept.answered twoAsked (stepsOf 0 8) rfl 0 0 (by decide) (by decide)⟩

end System

end CertRenewal
