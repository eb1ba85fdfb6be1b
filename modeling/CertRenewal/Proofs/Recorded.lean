import CertRenewal.Proofs.Filing
import CertRenewal.Proofs.Keeping
import CertRenewal.Proofs.Requests

/-!
What becomes of the features that are recorded with the certificate. A request that
the program submits by itself asks for those that are recorded at that moment, and
stores them whatever was recorded since.
-/

namespace CertRenewal

/-- The requests of a lane under their numbers, the one that is served first. -/
def Lane.requests (lane : Lane) : List Queued :=
  (lane.current.map fun entry => ⟨entry.1, entry.2.request⟩).toList ++ lane.waiting

namespace Traffic

def requestsOf (traffic : Traffic) : LaneId → List Queued :=
  readLane Lane.requests [] traffic.lanes

variable {traffic next : Traffic} {mover : Option LaneId} {asks : Request → Prop} {lane : LaneId}
  {queued : Queued}

theorem requests_numbers (traffic : Traffic) (lane : LaneId) :
    (traffic.requestsOf lane).map (·.id) = traffic.pendingOf lane := by
  unfold requestsOf pendingOf
  cases found : traffic.lanes[lane]? with
  | none => rw [read_lane_missing found, read_lane_missing found, List.map_nil]
  | some held =>
      rw [read_lane_found found, read_lane_found found]
      cases current : held.current <;>
        simp [Lane.requests, Lane.pending, Lane.served, current]

/-- A request that is in a lane now was there before, or was submitted meanwhile. -/
def Came (asks : Request → Prop) (traffic next : Traffic) (lane : LaneId) (queued : Queued) :
    Prop :=
  queued ∈ traffic.requestsOf lane ∨
    traffic.submitted ≤ queued.id ∧ queued.id < next.submitted ∧ asks queued.request

theorem Submission.came (submission : Submission asks traffic next)
    (member : queued ∈ next.requestsOf lane) : Came asks traffic next lane queued := by
  cases submission with
  | refuse isClosed => exact .inl member
  | accept request opened isOpen asked =>
      cases found : traffic.lanes[opened]? with
      | none =>
          left
          have same := List.getElem?_eq_none_iff.mp found
          simp only [requestsOf, List.modify_eq_self same] at member
          exact member
      | some held =>
          simp only [requestsOf, modify_found found] at member
          rw [read_lane_set _ found] at member
          split at member
          · rename_i itself
            have longer : Lane.requests
                { held with waiting := held.waiting ++ [⟨traffic.submitted, request⟩] } =
                  held.requests ++ [⟨traffic.submitted, request⟩] := by simp [Lane.requests]
            rw [longer, List.mem_append, List.mem_singleton] at member
            rcases member with before | rfl
            · left
              rw [itself, requestsOf, read_lane_found found]
              exact before
            · exact .inr ⟨Nat.le_refl _, Nat.lt_succ_self _, asked⟩
          · exact .inl member

theorem Submission.more (submission : Submission asks traffic next) :
    next.submitted = traffic.submitted + 1 := by
  cases submission <;> rfl

theorem Submissions.more (submissions : Relation.ReflTransGen (Submission asks) traffic next) :
    traffic.submitted ≤ next.submitted := by
  induction submissions with
  | refl => exact Nat.le_refl _
  | tail _ last induction =>
      have more := last.more
      omega

theorem Submissions.came (submissions : Relation.ReflTransGen (Submission asks) traffic next)
    (member : queued ∈ next.requestsOf lane) : Came asks traffic next lane queued := by
  induction submissions with
  | refl => exact .inl member
  | tail before last induction =>
      have earlier := Submissions.more before
      have more := last.more
      rcases last.came member with there | ⟨least, most, asked⟩
      · rcases induction there with first | ⟨least, most, asked⟩
        · exact .inl first
        · exact .inr ⟨least, Nat.lt_of_lt_of_le most (by omega), asked⟩
      · exact .inr ⟨by omega, most, asked⟩

theorem Step.came (step : Step mover asks traffic next) (member : queued ∈ next.requestsOf lane) :
    Came asks traffic next lane queued := by
  cases step with
  | rest listeners => exact .inl member
  | submit listeners next host submissions =>
      have came := Submissions.came submissions member
      exact came
  | opened isClosed =>
      left
      simp only [requestsOf] at member
      have same := @read_lane_append _ Lane.requests [] traffic.lanes Lane.fresh rfl lane
      rw [same] at member
      exact member
  | shut opened isOpen =>
      left
      simp only [requestsOf] at member
      rw [read_lane_modify_same opened fun _ => by rfl] at member
      exact member
  | carry served held id operation after worker found current going same =>
      left
      simp only [requestsOf] at member
      rw [read_lane_set_same found (by simp [Lane.requests, current, same])] at member
      exact member
  | takeUp served held first rest worker found idle waiting =>
      left
      simp only [requestsOf] at member
      rw [read_lane_set_same found (by
        simp [Lane.requests, idle, waiting, Operation.start])] at member
      exact member
  | deliver served held id operation outcome worker found current =>
      left
      have there : queued ∈ readLane Lane.requests [] (traffic.lanes.set served
        { held with current := none }) lane := member
      rw [read_lane_set _ found] at there
      split at there
      · rename_i itself
        rw [itself, requestsOf, read_lane_found found]
        exact List.mem_append_right _ there
      · exact there
  | drain served held worker found idle empty shut =>
      left
      simp only [requestsOf] at member
      rw [read_lane_set_same found (by rfl)] at member
      exact member

end Traffic

namespace System

/-- The requests that the program submits in an event by itself, each with the
features that are recorded at that moment. -/
def ownRequests (system : System) : Event → List (RequestId × Option Features)
  | .submit _ _ => []
  | event => (system.submissions event).map fun entry => (entry.1, system.store.features)

variable {system next : System} {event : Event} {who : Option RequestId} {request : Request}
  {id : RequestId} {recorded : Option Features} {own : List (RequestId × Option Features)}
  {kind : Request → Prop}

theorem stored_cases (system : System) (certificate : Certificate) (features : Option Features) :
    (∃ reason, system.storeCertificate certificate features = (.error reason, system)) ∨
      system.storeCertificate certificate features =
        ((system.store.store certificate features).1.mapError FileFault.message,
          { system with store := (system.store.store certificate features).2 }) := by
  unfold storeCertificate
  cases system.storeRefusal with
  | some reason => exact .inl ⟨reason, rfl⟩
  | none => exact .inr rfl

/-- Keys that can be read stay, and the features recorded are those of the request
for which a certificate was stored. -/
theorem features_apply (found : system.store.keys.1.isSome = true)
    (untouched : event.leavesStore = true) :
    (system.apply event).store.keys.1.isSome = true ∧
      (system.filings event = [] ∧ (system.apply event).store.features = system.store.features ∨
        ∃ who request, system.filings event = [(who, request)] ∧
          (system.apply event).store.features = request.features) := by
  have same := Store.keys_kept found
  have records := apply_records system event untouched
  generalize system.filings event = filed at records ⊢
  generalize system.apply event = next at records ⊢
  cases records with
  | kept store load =>
      have still : next.store = system.store := store.elim id fun read => read.trans same
      rw [still]
      exact ⟨found, .inl ⟨rfl, rfl⟩⟩
  | called keys store =>
      rw [store, same]
      exact ⟨found, .inl ⟨rfl, rfl⟩⟩
  | lost certificate features reason refused store load =>
      rw [store]
      rcases stored_cases system certificate features with ⟨_, result⟩ | result
      · rw [result]
        exact ⟨found, .inl ⟨rfl, rfl⟩⟩
      · rw [result] at refused ⊢
        cases failed : (system.store.store certificate features).1 with
        | ok value =>
            rw [failed] at refused
            cases refused
        | error fault =>
            have same := Store.refused_features found failed
            exact ⟨Store.store_keeps_keys _ _ found, .inl ⟨rfl, same⟩⟩
  | filed who request certificate saved store load =>
      rw [store]
      rcases stored_cases system certificate request.features with ⟨_, result⟩ | result
      · rw [result] at saved
        cases saved
      · rw [result] at saved ⊢
        cases stored : (system.store.store certificate request.features).1 with
        | ok value =>
            exact ⟨Store.store_keeps_keys _ _ found,
              .inr ⟨who, request, rfl, Store.store_features stored⟩⟩
        | error fault =>
            rw [stored] at saved
            cases saved

/-- While a refresh is in flight there are keys that can be read. -/
def Keyed (system : System) : Prop :=
  system.issuer.inFlight ≠ 0 → system.store.keys.1.isSome = true

theorem Keyed.apply (keyed : system.Keyed) (untouched : event.leavesStore = true) :
    (system.apply event).Keyed := by
  intro flying
  by_cases found : system.store.keys.1.isSome = true
  · exact (features_apply found untouched).1
  · have grounded : system.issuer.inFlight = 0 := by
      by_contra before
      exact found (keyed before)
    have records := apply_records system event untouched
    generalize system.filings event = filed at records
    exfalso
    cases records with
    | kept store load => omega
    | called keys store => exact found keys
    | lost certificate features reason refused store load => omega
    | filed who request certificate saved store load => omega

theorem attempt_cases {task : TaskId} {operation : Operation}
    (busy : system.attempt? task = some (who, operation)) :
    system.role task = operation.stage.role ∧ ∀ id, who = some id →
      ∃ lane, ⟨id, operation.request⟩ ∈ system.traffic.requestsOf lane := by
  cases who with
  | some served =>
      obtain ⟨lane, held, worker, found, current⟩ := worker_of_attempt busy
      refine ⟨?_, fun id same => ⟨lane, ?_⟩⟩
      · rw [role_found worker]
        simp [Task.role, laneRole, readLane, found, Lane.role, current]
      · obtain rfl := Option.some.inj same
        have inside : system.traffic.lanes[lane]? = some held := found
        rw [Traffic.requestsOf, read_lane_found inside]
        simp [Lane.requests, current]
  | none =>
      obtain ⟨isCancelled, found⟩ := direct_of_attempt busy
      refine ⟨role_found found, fun id same => ?_⟩
      cases same

theorem requests_known (placed : system.places.Perm (List.range system.submitted)) {lane : LaneId}
    {queued : Queued} (member : queued ∈ system.traffic.requestsOf lane) :
    queued.id < system.submitted := by
  have pending : queued.id ∈ system.traffic.pendingOf lane :=
    system.traffic.requests_numbers lane ▸ List.mem_map_of_mem member
  have place : queued.id ∈ system.places := List.mem_append_right _ (pending_in_lanes pending)
  exact List.mem_range.mp (placed.mem_iff.mp place)

/-- A request was submitted under this number that is of one kind wherever it still is. -/
structure Bears (system : System) (id : RequestId) (kind : Request → Prop) : Prop where
  known : id < system.submitted
  same : ∀ lane, ∀ queued ∈ system.traffic.requestsOf lane, queued.id = id → kind queued.request

/-- A request bears its number from its submission on. -/
theorem submit_bears (placed : system.places.Perm (List.range system.submitted))
    (request : Request) (listens : Bool) (right : kind request) :
    (system.submit request listens).Bears system.submitted kind where
  known := by
    rw [submit_count]
    exact Nat.lt_succ_self _
  same lane queued member same := by
    have submission := @submission kind system request listens right
    rcases submission.came member with before | ⟨-, -, asked⟩
    · exact absurd (same ▸ requests_known placed before) (Nat.lt_irrefl _)
    · exact asked

theorem Bears.apply (bears : system.Bears id kind) (kept : system.traffic.Kept) (event : Event) :
    (system.apply event).Bears id kind where
  known := by
    rw [(passage kept event).submitted]
    exact Nat.lt_of_lt_of_le bears.known (Nat.le_add_right _ _)
  same lane queued member same := by
    rcases (apply_traffic system event).came member with before | ⟨least, -, -⟩
    · exact bears.same lane queued before same
    · exact absurd (same ▸ least) (Nat.not_le.mpr bears.known)

theorem Bears.run (bears : system.Bears id kind) (kept : system.traffic.Kept)
    (events : List Event) : (system.run events).Bears id kind := by
  let Holds (system : System) : Prop := system.Bears id kind ∧ system.traffic.Kept
  have next (system : System) (event : Event) (holds : Holds system) :
      Holds (system.apply event) :=
    ⟨holds.1.apply holds.2 event, (apply_traffic system event).kept holds.2⟩
  have start : Holds system := ⟨bears, kept⟩
  exact (run_invariant next start events).1

/-- Whoever serves the request serves it as it was submitted. -/
theorem Bears.attempt (bears : system.Bears id kind) {task : TaskId} {operation : Operation}
    (busy : system.attempt? task = some (some id, operation)) : kind operation.request := by
  obtain ⟨lane, member⟩ := (attempt_cases busy).2 id rfl
  exact bears.same lane _ member rfl

/-- An operation that stores a certificate has a refresh in flight. Its request is in
a lane, unless it is run outside of the queue. -/
theorem filing_cases (sound : system.Sound) (filed : (who, request) ∈ system.filings event) :
    system.issuer.inFlight ≠ 0 ∧ ∀ id, who = some id →
      ∃ lane, ⟨id, request⟩ ∈ system.traffic.requestsOf lane := by
  cases event with
  | step task =>
      simp only [filings] at filed
      split at filed
      · rename_i other operation busy
        split at filed
        · rename_i stores
          obtain ⟨rfl, rfl⟩ := Prod.mk.inj (List.mem_singleton.mp filed)
          obtain ⟨role, placed⟩ := attempt_cases busy
          simp only [files, Bool.and_eq_true, decide_eq_true_eq] at stores
          have refreshing : (system.role task).isRefreshing = true := by
            rw [role, stores.1]
            rfl
          have one := sound.busy task refreshing
          exact ⟨by omega, placed⟩
        · cases filed
      · cases filed
  | _ => cases filed

/-- What is known about the requests in the lanes, when the program submitted `own`
by itself so far. -/
structure Sourced (own : List (RequestId × Option Features)) (system : System) : Prop where
  sound : system.Sound
  kept : system.traffic.Kept
  keyed : system.Keyed
  known : ∀ lane, ∀ queued ∈ system.traffic.requestsOf lane, queued.id < system.submitted
  numbered : ∀ entry ∈ own, entry.1 < system.submitted
  carried : ∀ lane, ∀ queued ∈ system.traffic.requestsOf lane, ∀ recorded,
    (queued.id, recorded) ∈ own → queued.request.features = recorded

theorem submissions_between (kept : system.traffic.Kept) {entry : RequestId × Option LaneId}
    (member : entry ∈ system.submissions event) :
    system.submitted ≤ entry.1 ∧ entry.1 < (system.apply event).submitted := by
  have passage := passage kept event
  have inside : entry.1 ∈ (system.submissions event).map (·.1) := List.mem_map_of_mem member
  rw [passage.numbers, List.mem_range'_1] at inside
  rw [passage.submitted]
  exact inside

/-- A request that the program submits by itself is for the features recorded then. -/
theorem own_requests_cases (kept : system.traffic.Kept)
    (member : (id, recorded) ∈ system.ownRequests event) :
    (system.submitted ≤ id ∧ id < (system.apply event).submitted) ∧
      recorded = system.store.features ∧
      ∀ request, system.asks event request → request.features = recorded := by
  have numbers := @submissions_between system event kept
  cases event with
  | submit => cases member
  | _ =>
      obtain ⟨entry, inside, same⟩ := List.mem_map.mp member
      obtain ⟨rfl, rfl⟩ := Prod.mk.inj same
      exact ⟨numbers inside, rfl, fun _ asked => asked⟩

theorem Sourced.apply (sourced : Sourced own system) (untouched : event.leavesStore = true) :
    Sourced (own ++ system.ownRequests event) (system.apply event) := by
  have step := apply_traffic system event
  have later : system.submitted ≤ (system.apply event).submitted := by
    rw [(passage sourced.kept event).submitted]
    exact Nat.le_add_right _ _
  have came {lane : LaneId} {queued : Queued}
      (member : queued ∈ (system.apply event).traffic.requestsOf lane) :
      queued ∈ system.traffic.requestsOf lane ∨ system.submitted ≤ queued.id ∧
        queued.id < (system.apply event).submitted ∧ system.asks event queued.request :=
    step.came member
  refine ⟨sourced.sound.apply event, step.kept sourced.kept, sourced.keyed.apply untouched, ?_, ?_,
    ?_⟩
  · intro lane queued member
    rcases came member with before | ⟨_, most, _⟩
    · exact Nat.lt_of_lt_of_le (sourced.known lane queued before) later
    · exact most
  · intro entry member
    rcases List.mem_append.mp member with before | now
    · exact Nat.lt_of_lt_of_le (sourced.numbered entry before) later
    · exact (own_requests_cases sourced.kept now).1.2
  · intro lane queued member recorded mine
    rcases came member with there | ⟨least, most, asked⟩
    · have old := sourced.known lane queued there
      rcases List.mem_append.mp mine with before | now
      · exact sourced.carried lane queued there recorded before
      · exact absurd (own_requests_cases sourced.kept now).1.1 (Nat.not_le.mpr old)
    · rcases List.mem_append.mp mine with before | now
      · exact absurd (sourced.numbered _ before) (Nat.not_lt.mpr least)
      · exact (own_requests_cases sourced.kept now).2.2 _ asked

theorem outset_sourced (outset : Outset) : Sourced [] outset.system := by
  have nowhere (lane : LaneId) (queued : Queued)
      (member : queued ∈ outset.system.traffic.requestsOf lane) : False := by
    cases member
  exact ⟨outset_sound outset, run_kept outset [], fun flying => absurd rfl flying,
    fun lane queued member => (nowhere lane queued member).elim, fun _ member => (nomatch member),
    fun lane queued member => (nowhere lane queued member).elim⟩

theorem Sourced.run (sourced : Sourced own system) (events : List Event)
    (untouched : ∀ event ∈ events, event.leavesStore = true) :
    Sourced (own ++ gathered ownRequests system events) (system.run events) := by
  induction events using List.reverseRecOn with
  | nil =>
      have same : own ++ gathered ownRequests system [] = own := List.append_nil own
      rw [same]
      exact sourced
  | append_singleton events event induction =>
      have earlier := induction fun other member =>
        untouched other (List.mem_append_left _ member)
      rw [gathered_concat, run_concat, ← List.append_assoc]
      exact earlier.apply (untouched event (by simp))

theorem Sourced.filed (sourced : Sourced own system)
    (filed : (who, request) ∈ system.filings event) :
    system.store.keys.1.isSome = true ∧ ∀ id, who = some id → id < system.submitted ∧
      ∀ recorded, (id, recorded) ∈ own → request.features = recorded := by
  obtain ⟨flying, placed⟩ := filing_cases sourced.sound filed
  refine ⟨sourced.keyed flying, ?_⟩
  intro id same
  obtain ⟨lane, member⟩ := placed id same
  exact ⟨sourced.known lane _ member, fun recorded mine =>
    sourced.carried lane _ member recorded mine⟩

theorem kept_run (kept : system.traffic.Kept) (events : List Event) :
    (system.run events).traffic.Kept ∧ system.submitted ≤ (system.run events).submitted := by
  induction events using List.reverseRecOn with
  | nil => exact ⟨kept, Nat.le_refl _⟩
  | append_singleton events event induction =>
      obtain ⟨kept, more⟩ := induction
      rw [run_concat, (passage kept event).submitted]
      exact ⟨(apply_traffic _ event).kept kept, Nat.le_trans more (Nat.le_add_right _ _)⟩

theorem own_requests_later (kept : system.traffic.Kept) {events : List Event}
    (member : (id, recorded) ∈ gathered ownRequests system events) : system.submitted ≤ id := by
  obtain ⟨part, event, rest, -, found⟩ := mem_gathered member
  obtain ⟨still, more⟩ := kept_run kept part
  exact Nat.le_trans more (own_requests_cases still found).1.1

theorem keys_run (found : system.store.keys.1.isSome = true) (events : List Event)
    (untouched : ∀ event ∈ events, event.leavesStore = true) :
    (system.run events).store.keys.1.isSome = true := by
  refine @run_invariant_of (·.store.keys.1.isSome = true) _ ?_ _ found events untouched
  intro system event leaves found
  exact (features_apply found leaves).1

/-- A request that the program submitted by itself stores the features that were
recorded when it was submitted. -/
theorem Sourced.own_filings (sourced : Sourced own system) {events : List Event}
    (untouched : ∀ event ∈ events, event.leavesStore = true)
    (filed : (some id, request) ∈ gathered filings system events)
    (mine : (id, recorded) ∈ own ++ gathered ownRequests system events) :
    request.features = recorded := by
  obtain ⟨part, event, rest, rfl, found⟩ := mem_gathered filed
  have now := sourced.run part fun other member => untouched other (List.mem_append_left _ member)
  obtain ⟨-, known⟩ := now.filed found
  obtain ⟨old, carried⟩ := known id rfl
  rw [gathered_append, ← List.append_assoc] at mine
  rcases List.mem_append.mp mine with before | after
  · exact carried recorded before
  · exact absurd (own_requests_later now.kept after) (Nat.not_le.mpr old)

/-- The requests for which certificates are stored are all among those that the
program submitted by itself. -/
def OnlyOwn (filed : List (Option RequestId × Request)) (own : List (RequestId × Option Features)) :
    Prop := ∀ entry ∈ filed, ∃ id recorded, entry.1 = some id ∧ (id, recorded) ∈ own

/-- While the features recorded are those of a request, the program submits no
request for others. -/
theorem Sourced.features_stay (sourced : Sourced own system) {wanted : Option Features}
    (found : system.store.keys.1.isSome = true) (stored : system.store.features = wanted)
    {after : List Event} (untouched : ∀ event ∈ after, event.leavesStore = true)
    (only : OnlyOwn (gathered filings system after) (own ++ gathered ownRequests system after))
    (early : ∀ id request, (some id, request) ∈ gathered filings system after →
      id < system.submitted → request.features = wanted)
    (part rest : List Event) (split : after = part ++ rest) :
    (system.run part).store.features = wanted ∧
      ∀ entry ∈ gathered ownRequests system part, entry.2 = wanted := by
  -- from the end of the part: what is recorded before its last event decides what that
  -- event submits, and the requests submitted so far decide what it stores
  induction part using List.reverseRecOn generalizing rest with
  | nil => exact ⟨stored, fun _ member => (nomatch member)⟩
  | append_singleton part event induction =>
      rw [List.append_assoc] at split
      obtain ⟨same, mine⟩ := induction ([event] ++ rest) split
      subst split
      have now := sourced.run part fun other member =>
        untouched other (List.mem_append_left _ member)
      have keys := keys_run found part fun other member =>
        untouched other (List.mem_append_left _ member)
      have leaves : event.leavesStore = true := untouched event (by simp)
      have seen {Item : Type} (see : System → Event → List Item) {item : Item}
          (member : item ∈ see (system.run part) event) :
          item ∈ gathered see system (part ++ ([event] ++ rest)) := by
        rw [gathered_append]
        exact List.mem_append_right _ (List.mem_append_left _ member)
      rw [run_concat, gathered_concat]
      constructor
      · obtain ⟨-, ⟨-, still⟩ | ⟨who, request, filed, features⟩⟩ := features_apply keys leaves
        · rw [still, same]
        · have filedNow : (who, request) ∈ filings (system.run part) event := by rw [filed]; simp
          obtain ⟨id, recorded, named, own⟩ := only _ (seen filings filedNow)
          obtain rfl : who = some id := named
          rw [features]
          -- its own request was submitted before the features were stored, or since then,
          -- when they were the ones recorded
          by_cases before : id < system.submitted
          · exact early id request (seen filings filedNow) before
          · have carried := sourced.own_filings untouched (seen filings filedNow) own
            have old := ((now.filed filedNow).2 id rfl).1
            rw [gathered_append, ← List.append_assoc] at own
            rcases List.mem_append.mp own with earlier | later
            · rcases List.mem_append.mp earlier with first | between
              · exact absurd (sourced.numbered _ first) before
              · exact carried.trans (mine _ between)
            · exact absurd (own_requests_later now.kept later) (Nat.not_le.mpr old)
      · intro entry member
        rcases List.mem_append.mp member with before | later
        · exact mine entry before
        · exact (own_requests_cases now.kept later).2.1.trans same

/-- Once a certificate was stored for a request, its features stay recorded until
another request of the host stores one, unless a request that the program had
submitted before, when others were recorded, stores those. -/
theorem features_stay_iff (outset : Outset) (before : List Event) (event : Event)
    (who : Option RequestId) (request : Request)
    (untouched : ∀ other ∈ before ++ [event], other.leavesStore = true)
    (filed : (who, request) ∈ filings (outset.system.run before) event) :
    let start := (outset.system.run before).apply event
    start.store.features = request.features ∧
      ∀ after : List Event, (∀ other ∈ after, other.leavesStore = true) →
        let own := gathered ownRequests outset.system (before ++ event :: after)
        (∀ id asked recorded, (some id, asked) ∈ gathered filings start after →
          (id, recorded) ∈ own → asked.features = recorded) ∧
        (OnlyOwn (gathered filings start after) own →
          ((∀ part rest, after = part ++ rest →
              (start.run part).store.features = request.features) ↔
            ∀ id asked, (some id, asked) ∈ gathered filings start after →
              id < start.submitted → asked.features = request.features)) := by
  intro start
  have earlier : ∀ other ∈ before, other.leavesStore = true := fun other member =>
    untouched other (List.mem_append_left _ member)
  have leaves : event.leavesStore = true := untouched event (by simp)
  have sourced := (outset_sourced outset).run before earlier
  have found := (sourced.filed filed).1
  have begun : Sourced _ start := sourced.apply leaves
  obtain ⟨keys, ⟨none, -⟩ | ⟨other, asked, only, features⟩⟩ := features_apply found leaves
  · rw [none] at filed
    cases filed
  rw [only, List.mem_singleton, Prod.mk.injEq] at filed
  obtain ⟨rfl, rfl⟩ := filed
  refine ⟨features, ?_⟩
  intro after untouched
  have whole : gathered ownRequests outset.system (before ++ event :: after) =
      [] ++ gathered ownRequests outset.system before ++
        ownRequests (outset.system.run before) event ++ gathered ownRequests start after := by
    rw [gathered_append, List.nil_append, List.append_assoc]
    rfl
  rw [whole]
  refine ⟨fun id asked recorded stores mine => begun.own_filings untouched stores mine,
    fun only => ⟨fun stay id asked stores _ => ?_, fun early part rest split => ?_⟩⟩
  · obtain ⟨part, next, rest, rfl, now⟩ := mem_gathered stores
    have readable := keys_run keys part fun other member =>
      untouched other (List.mem_append_left _ member)
    have kept := stay (part ++ [next]) rest (by simp)
    rw [run_concat] at kept
    obtain ⟨-, ⟨none, -⟩ | ⟨_, wanted, single, recorded⟩⟩ :=
      features_apply readable (untouched next (by simp))
    · rw [none] at now
      cases now
    · rw [single, List.mem_singleton, Prod.mk.injEq] at now
      rw [now.2, ← recorded]
      exact kept
  · exact (begun.features_stay keys features untouched only early part rest split).1

end System

/-- A program with keys, in which the host ticks and the issuer answers at once. -/
def Outset.prompt : Outset where
  intervals := .standard
  catalogue := .empty
  tickSource := .host
  origin := .epoch
  store := .memory (.withKeys ⟨[1], [2]⟩)
  storeRefusal := none
  refreshGate := .unguarded
  sessionGate := .unguarded
  delay := 0
  refreshScript := []
  sessionScript := []

namespace System

def filtering (shield : ShieldLevel) : Option Features := some { Features.none with shield }

/-- A refresh is about to store its certificate, and then a session is started. -/
def refreshing : List Event :=
  startingUp ++ asking (.user (filtering .malware)) ++ stepsOf 1 5

def sessionStarted : List Event :=
  .fork ⟨"selector", none⟩ :: stepsOf 2 5 ++ stepsOf 1 6

/-- The refresh behind a session keeps the features. -/
theorem session_keeps_features :
    gathered filings ((Outset.prompt.system.run refreshing).apply (.step 1)) sessionStarted =
        [(some 1, .afterSession (filtering .malware))] ∧
      ∀ part rest, sessionStarted = part ++ rest →
        (((Outset.prompt.system.run refreshing).apply (.step 1)).run part).store.features =
          filtering .malware := by
  obtain ⟨-, later⟩ := features_stay_iff .prompt refreshing (.step 1) (some 0)
    (.user (filtering .malware)) (by decide) (by decide)
  obtain ⟨-, stays⟩ := later sessionStarted (by decide)
  have filed : gathered filings ((Outset.prompt.system.run refreshing).apply (.step 1))
      sessionStarted = [(some 1, .afterSession (filtering .malware))] := by decide
  have own : (1, filtering .malware) ∈
      gathered ownRequests Outset.prompt.system (refreshing ++ .step 1 :: sessionStarted) := by
    decide
  rw [filed] at stays
  refine ⟨filed, (stays fun entry member => ?_).mpr fun id asked member _ => ?_⟩
  · obtain rfl := List.mem_singleton.mp member
    exact ⟨1, _, rfl, own⟩
  · obtain ⟨-, rfl⟩ := Prod.mk.inj (List.mem_singleton.mp member)
    rfl

/-- A refresh is about to store its certificate. A tick came before that, while the
features of an earlier one were recorded. -/
def tickedMeanwhile : List Event :=
  startingUp ++ asking (.user (filtering .off)) ++ stepsOf 1 6 ++
    asking (.user (filtering .malware)) ++ stepsOf 1 5 ++ [Event.fire]

/-- The tick takes the earlier features back. -/
theorem tick_takes_features_back :
    let start := (Outset.prompt.system.run tickedMeanwhile).apply (.step 1)
    let after := stepsOf 1 6
    filings (Outset.prompt.system.run tickedMeanwhile) (.step 1) =
        [(some 1, .user (filtering .malware))] ∧
      start.store.features = filtering .malware ∧
      gathered ownRequests Outset.prompt.system (tickedMeanwhile ++ .step 1 :: after) =
        [(2, filtering .off)] ∧
      gathered filings start after = [(some 2, .background (filtering .off))] ∧
      (start.run after).store.features = filtering .off := by
  decide

end System

end CertRenewal
