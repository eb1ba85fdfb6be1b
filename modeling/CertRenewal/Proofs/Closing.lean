import CertRenewal.Proofs.Doors
import CertRenewal.Proofs.Draining

/-!
What holds when a call to close returns. A call that shuts a lane waits until it is
drained. One that finds the queue shut already returns at once: a request that was
submitted before it may still wait, but only in a lane that another call waits for.
-/

namespace CertRenewal.System

/-- Whether a task is in a call that waits until a lane is drained. -/
def WaitsFor (system : System) (task : TaskId) (lane : LaneId) : Prop :=
  system.tasks[task]? = some (.close (.draining lane)) ∨
    system.tasks[task]? = some (.stop (.draining lane))

variable {system : System} {task : TaskId} {lane : LaneId}

theorem waits_for_of_post (drains : system.post task = .draining lane) :
    system.WaitsFor task lane := by
  cases found : system.tasks[task]? with
  | none => simp [post, readTask, found] at drains
  | some kind =>
      rw [post_found found] at drains
      cases kind with
      | close stage => cases stage <;> simp_all [Task.post, WaitsFor]
      | stop stage => cases stage <;> simp_all [Task.post, WaitsFor]
      | _ => cases drains

theorem run_doors (outset : Outset) (events : List Event) :
    (outset.system.run events).doors.Kept := by
  have start : (outset.system.run []).doors.Kept := outset_doors outset
  exact run_onward (fun system => system.doors.Kept) outset (fun events event kept =>
    (apply_doors (run_kept outset events) event).kept kept) start events

/-- No request before `base` is in a lane from `count` on. -/
structure Newer (base count : Nat) (system : System) : Prop where
  numbered : base ≤ system.submitted
  newer : ∀ lane, count ≤ lane → ∀ id ∈ system.traffic.pendingOf lane, base ≤ id

theorem Newer.apply {base count : Nat} (newer : Newer base count system)
    (kept : system.traffic.Kept) (event : Event) : Newer base count (system.apply event) := by
  have passage := passage kept event
  constructor
  · rw [passage.submitted]
    exact Nat.le_add_right_of_le newer.numbered
  · intro lane late id waits
    have came : id ∈ system.traffic.pendingOf lane ++
        sentTo (some lane) (system.submissions event) := by
      rw [← passage.pending lane]
      exact List.mem_append_right _ waits
    rcases List.mem_append.mp came with before | sent
    · exact newer.newer lane late id before
    · have number : id ∈ (system.submissions event).map (·.1) :=
        List.mem_map_of_mem (mem_sent_to sent)
      rw [passage.numbers, List.mem_range'_1] at number
      exact Nat.le_trans newer.numbered number.1

theorem newer_of_next (system : System) : Newer system.submitted system.lanes.length system where
  numbered := Nat.le_refl _
  newer lane late id waits := by
    have missing : system.lanes[lane]? = none := List.getElem?_eq_none late
    have none : system.traffic.pendingOf lane = [] := read_lane_missing missing
    rw [none] at waits
    cases waits

theorem drained_lane (kept : system.traffic.Kept)
    (drained : system.doors.lanes[lane]? = some .drained) :
    system.isDrained lane = true ∧ system.traffic.pendingOf lane = [] := by
  simp only [doors, List.getElem?_map, Option.map_eq_some_iff] at drained
  obtain ⟨held, found, phase⟩ := drained
  have ended := Lane.drained_of_phase phase
  constructor
  · simp only [isDrained, found, ended]
  · rw [pending_found found]
    exact (kept.drained lane held found ended).2

/-- What is left of the requests and the lanes that there were in the state `start`, in which
`call` was made, once it has returned. -/
structure ClosedSince (start system : System) (call : TaskId) : Prop where
  /-- A request waits on only in a lane that another call waits for. -/
  requests : ∀ id < start.submitted, id ∉ system.answers.map (·.1) ↔
    ∃ other lane, other ≠ call ∧ system.WaitsFor other lane ∧ id ∈ system.traffic.pendingOf lane
  lanes : ∀ lane < start.lanes.length, ∃ held : Lane, system.lanes[lane]? = some held ∧
    (held.isDrained = true ∧ held.pending = [] ∨ ∃ other, other ≠ call ∧ system.WaitsFor other lane)
  /-- Where no other call waits for a lane, all is answered and nothing runs. -/
  undisturbed : (∀ other lane, ¬ system.WaitsFor other lane) →
    (∀ id < start.submitted, id ∈ system.answers.map (·.1)) ∧
      ∀ (lane : LaneId) (held : Lane), lane < start.lanes.length →
        system.lanes[lane]? = some held → held.current = none

section

variable {start : System} {call : TaskId}

theorem lane_closed (kept : system.traffic.Kept) (doors : system.doors.Kept)
    (past : Doors.Past start.lanes.length call system.doors)
    (returned : system.post call = .returned) (early : lane < start.lanes.length) :
    ∃ held : Lane, system.lanes[lane]? = some held ∧
      (held.isDrained = true ∧ held.pending = [] ∨
        ∃ other, other ≠ call ∧ system.WaitsFor other lane) := by
  obtain ⟨bound, past⟩ := past
  have passed : system.doors.post call ≠ .shutting := by
    show system.post call ≠ .shutting
    simp [returned]
  have unserved := past passed lane early
  have there : lane < system.lanes.length := by
    simp only [System.doors, List.length_map] at bound
    exact Nat.lt_of_lt_of_le early bound
  have found : system.lanes[lane]? = some system.lanes[lane] := List.getElem?_eq_getElem there
  have phase : system.doors.lanes[lane]? = some system.lanes[lane].phase := by
    simp only [System.doors, List.getElem?_map, found, Option.map_some]
  refine ⟨_, found, ?_⟩
  cases now : system.lanes[lane].phase with
  | serving => exact absurd (now ▸ phase) unserved
  | shut =>
      obtain ⟨other, drains⟩ := doors.shut lane (now ▸ phase)
      refine .inr ⟨other, ?_, waits_for_of_post drains⟩
      rintro rfl
      cases returned.symm.trans drains
  | drained =>
      have ended := Lane.drained_of_phase now
      exact .inl ⟨ended, (kept.drained lane _ found ended).2⟩

theorem closed_since (kept : system.traffic.Kept) (doors : system.doors.Kept)
    (placed : system.places.Perm (List.range system.submitted))
    (newer : Newer start.submitted start.lanes.length system)
    (past : Doors.Past start.lanes.length call system.doors)
    (returned : system.post call = .returned) : ClosedSince start system call := by
  have lanes (lane : LaneId) (early : lane < start.lanes.length) :=
    lane_closed kept doors past returned early
  have requests (id : RequestId) (old : id < start.submitted) : id ∉ system.answers.map (·.1) ↔
      ∃ other lane, other ≠ call ∧ system.WaitsFor other lane ∧
        id ∈ system.traffic.pendingOf lane := by
    constructor
    · intro unanswered
      obtain ⟨lane, held, found, waits⟩ := (answered_or_pending placed
        (Nat.lt_of_lt_of_le old newer.numbered)).resolve_left unanswered
      have pending : id ∈ system.traffic.pendingOf lane := by
        rw [pending_found found]
        exact waits
      have early : lane < start.lanes.length := Nat.lt_of_not_le fun late =>
        Nat.not_le_of_lt old (newer.newer lane late id pending)
      obtain ⟨there, same, drained | ⟨other, different, awaits⟩⟩ := lanes lane early
      · obtain rfl := Option.some.inj (found.symm.trans same)
        rw [drained.2] at waits
        cases waits
      · exact ⟨other, lane, different, awaits, pending⟩
    · rintro ⟨-, lane, -, -, pending⟩
      exact unanswered_of_pending placed (pending_in_lanes pending)
  refine ⟨requests, lanes, fun alone => ⟨fun id old => ?_, fun lane held early found => ?_⟩⟩
  · by_contra unanswered
    obtain ⟨other, lane, -, awaits, -⟩ := (requests id old).mp unanswered
    exact alone other lane awaits
  · obtain ⟨there, same, ⟨-, none⟩ | ⟨other, -, awaits⟩⟩ := lanes lane early
    · obtain rfl := Option.some.inj (found.symm.trans same)
      cases current : held.current with
      | none => rfl
      | some entry => exact absurd none (Traffic.pending_of_current current)
    · exact absurd awaits (alone other lane)

end

/-- When a call to close returns, the lane that it shut is drained, and whatever else was
submitted before and is not answered waits in a lane that another call waits for. -/
theorem close_waits_for_the_lane_it_shut (outset : Outset) (before after : List Event) :
    let start := outset.system.run before
    let call := start.tasks.length
    let system := outset.system.run (before ++ .closeQueue :: after)
    system.tasks[call]? = some (.close .ended) →
      ClosedSince start system call ∧ ∀ part rest lane, after = part ++ rest →
        (outset.system.run (before ++ .closeQueue :: part)).tasks[call]? =
          some (.close (.draining lane)) →
        system.isDrained lane = true ∧ system.traffic.pendingOf lane = [] := by
  intro start call system returned
  have kept : system.traffic.Kept := run_kept outset _
  have post : system.post call = .returned := post_found returned
  constructor
  · have made : outset.system.run (before ++ [.closeQueue]) = start.spawn (.close .shutting) :=
      run_concat _ before .closeQueue
    have began : Doors.Past start.lanes.length call
        (outset.system.run (before ++ [.closeQueue])).doors := by
      rw [made, spawn_doors]
      refine ⟨Nat.le_of_eq (List.length_map ..).symm, fun passed => absurd ?_ passed⟩
      exact Function.update_self ..
    have past : Doors.Past start.lanes.length call system.doors := by
      have whole : before ++ .closeQueue :: after = before ++ [.closeQueue] ++ after := by simp
      simp only [system, whole]
      exact run_onward (fun later => Doors.Past start.lanes.length call later.doors) outset
        (fun events event past =>
          (apply_doors (run_kept outset events) event).past (run_doors outset events) past)
        began after
    have newer : Newer start.submitted start.lanes.length system :=
      run_onward (Newer start.submitted start.lanes.length) outset
        (fun events event newer => newer.apply (run_kept outset events) event)
        (newer_of_next start) (.closeQueue :: after)
    exact closed_since kept (run_doors outset _) (requests_placed outset _) newer past post
  · intro part rest lane split waits
    have began : (outset.system.run (before ++ .closeQueue :: part)).doors.post call =
        .draining lane := post_found waits
    have drained : system.doors.post call = .draining lane ∨
        system.doors.lanes[lane]? = some .drained := by
      have whole : before ++ .closeQueue :: after = before ++ .closeQueue :: part ++ rest := by
        simp [split]
      simp only [system, whole]
      exact run_onward (fun later => later.doors.post call = .draining lane ∨
          later.doors.lanes[lane]? = some .drained) outset
        (fun events event waits =>
          (apply_doors (run_kept outset events) event).waits (run_doors outset events) waits)
        (.inl began) rest
    refine drained_lane kept (drained.resolve_left fun waiting => ?_)
    cases post.symm.trans waiting

/-- One request is in its call, and a call to close waits for it. -/
def closing : List Event :=
  .openQueue :: asking (.user none) ++ stepsOf 0 4 ++ .closeQueue :: stepsOf 1 1

/-- Another call to close has returned. -/
def closedTwice : System := Outset.guarded.system.run (closing ++ [.closeQueue, .step 2])

theorem second_call_leaves_request_to_first :
    closedTwice.tasks[(Outset.guarded.system.run closing).tasks.length]? = some (.close .ended) ∧
      ∃ other lane, other ≠ 2 ∧ closedTwice.WaitsFor other lane ∧
        0 ∈ closedTwice.traffic.pendingOf lane := by
  have returned : closedTwice.tasks[(Outset.guarded.system.run closing).tasks.length]? =
      some (.close .ended) := by rfl
  have closed := close_waits_for_the_lane_it_shut .guarded closing [.step 2] returned
  exact ⟨returned, (closed.1.requests 0 (by decide)).mp (by decide)⟩

/-- The request was submitted before the second call to close was made. When that call has
returned the request is not answered, and its operation is still in its call. -/
theorem closed_with_request_in_flight :
    0 < (Outset.guarded.system.run closing).submitted ∧
      0 < (Outset.guarded.system.run closing).lanes.length ∧
      closedTwice.tasks[(Outset.guarded.system.run closing).tasks.length]? =
        some (.close .ended) ∧
      0 ∉ closedTwice.answers.map (·.1) ∧ closedTwice.flightOf 0 = some (0, .user none) :=
  ⟨by decide, by decide, by rfl, by decide, by rfl⟩

end CertRenewal.System
