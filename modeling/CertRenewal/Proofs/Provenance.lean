import CertRenewal.Proofs.Attempts
import CertRenewal.Proofs.Recorded

/-!
Where the stored certificate and the recorded features come from. They are stored
together, in the moment in which a refresh ends well, and nothing else changes them.
-/

namespace CertRenewal

namespace Store

def pair (store : Store) : Option Certificate × Option Features :=
  (store.certificate, store.features)

end Store

/-- A refresh that has ended: the features it was asked for, the answer of the issuer,
and what the operation came to that had asked. -/
structure Completion where
  features : Option Features
  answer : Except RemoteFailure Certificate
  outcome : Option Outcome

namespace Completion

/-- What a store holds after a refresh that ended well. -/
def pair? (completion : Completion) (store : Store) :
    Option (Option Certificate × Option Features) :=
  match completion.outcome, completion.answer with
  | some (.ok ()), .ok certificate => some (some (store.recalled certificate), completion.features)
  | _, _ => none

end Completion

/-- What a store holds after these refreshes. The latest of them that ended well
decides. -/
def pairAfter (store : Store) (done : List Completion) : Option Certificate × Option Features :=
  (done.filterMap (·.pair? store)).getLast?.getD store.pair

theorem pair_after_concat (store : Store) (done : List Completion) (last : Completion) :
    pairAfter store (done ++ [last]) = (last.pair? store).getD (pairAfter store done) := by
  unfold pairAfter
  rw [List.filterMap_append]
  cases kept : last.pair? store <;> simp [kept]

namespace System

/-- The refresh that an event ends, if it ends one. -/
def completions (system : System) : Event → List Completion
  | .step task =>
    match system.attempt? task with
    | some (who, operation) =>
      if operation.stage = .concluding then
        [{ features := operation.request.features
           answer := (system.issuer.endRefresh system.now).1
           outcome := (system.apply (.step task)).outcome? task who }]
      else []
    | none => []
  | _ => []

variable {system next moved : System} {event : Event} {task : TaskId} {isCancelled : Bool}
  {operation after : Operation} {certificate : Certificate} {features : Option Features}

/-- What a step of an operation does to the refreshes of the issuer. -/
inductive Stride (system : System) (operation : Operation) (moved : System) (after : Operation) :
    Prop
  | stay (going : operation.stage ≠ .concluding)
      (refreshes : moved.issuer.refreshes = system.issuer.refreshes)
      (load : moved.issuer.inFlight = system.issuer.inFlight)
      (apart : after.stage.role.isRefreshing = operation.stage.role.isRefreshing)
  | call (publicKey : Bytes) (going : operation.stage ≠ .concluding)
      (refreshes : moved.issuer.refreshes =
        system.issuer.refreshes ++ [(publicKey, operation.request.features)])
      (load : moved.issuer.inFlight = system.issuer.inFlight + 1)
  | conclude (last : operation.stage = .concluding)
      (refreshes : moved.issuer.refreshes = system.issuer.refreshes)
      (load : moved.issuer.inFlight = system.issuer.inFlight - 1)

theorem OperationStep.stride
    (step : OperationStep system task isCancelled operation moved after) :
    Stride system operation moved after := by
  have answered := (end_refresh_load system.issuer system.now).1
  have ended := Issuer.refreshes_end_refresh system.issuer system.now
  cases step with
  | abandon early =>
      refine .stay ?_ rfl rfl ?_
      · rcases early with stage | stage <;> simp [stage]
      · rcases early with stage | stage <;> rw [stage] <;> rfl
  | call keys stage =>
      exact .call keys.publicKey (by simp [stage]) (Issuer.refreshes_begin_refresh _ _ _) rfl
  | fail failure stage => exact .conclude stage ended answered
  | save certificate stage =>
      rw [kept_frame]
      exact .conclude stage ended answered
  | lose certificate reason stage =>
      rw [kept_frame]
      exact .conclude stage ended answered
  | _ => refine .stay ?_ rfl rfl ?_ <;> simp [*, Operation.finish, Stage.role, Role.isRefreshing]

/-- Before its last step an operation does not touch the store, unless the keys that
it reads are unreadable. -/
theorem OperationStep.same_store
    (step : OperationStep system task isCancelled operation moved after)
    (going : operation.stage ≠ .concluding) :
    moved.store = system.store ∨ moved.store = system.store.keys.2 := by
  cases step with
  | keyless => exact .inr rfl
  | call => exact .inr rfl
  | save certificate stage => exact absurd stage going
  | lose certificate reason stage => exact absurd stage going
  | _ => exact .inl rfl

/-- What the last step of an operation in a call does to the store. -/
inductive Conclusion (system : System) (operation : Operation) (moved : System) :
    Outcome → Prop
  | fail (failure : RemoteFailure) (same : moved.store = system.store)
      (refused : (system.issuer.endRefresh system.now).1 = .error failure) :
      Conclusion system operation moved (.error (system.catalogue.classify failure))
  | save (certificate : Certificate)
      (issued : (system.issuer.endRefresh system.now).1 = .ok certificate)
      (saved : (system.storeCertificate certificate operation.request.features).1 = .ok ())
      (store : moved.store =
        (system.storeCertificate certificate operation.request.features).2.store) :
      Conclusion system operation moved (.ok ())
  | lose (certificate : Certificate) (reason : String)
      (issued : (system.issuer.endRefresh system.now).1 = .ok certificate)
      (lost : (system.storeCertificate certificate operation.request.features).1 = .error reason)
      (store : moved.store =
        (system.storeCertificate certificate operation.request.features).2.store) :
      Conclusion system operation moved (.error (unstored reason))

theorem OperationStep.conclusion
    (step : OperationStep system task isCancelled operation moved after)
    (last : operation.stage = .concluding) :
    ∃ outcome, after.stage = .ended outcome ∧ Conclusion system operation moved outcome := by
  have stored (certificate : Certificate) :=
    store_answered system certificate operation.request.features
  cases step with
  | fail failure stage refused => exact ⟨_, rfl, .fail failure rfl refused⟩
  | save certificate stage issued saved =>
      rw [(stored certificate).1] at saved
      exact ⟨_, rfl, .save certificate issued saved (stored certificate).2⟩
  | lose certificate reason stage issued lost =>
      rw [(stored certificate).1] at lost
      exact ⟨_, rfl, .lose certificate reason issued lost (stored certificate).2⟩
  | abandon early => rcases early with stage | stage <;> simp [stage] at last
  | _ => simp [*] at last

theorem storing_keeps (certificate : Certificate) (features : Option Features)
    (found : system.store.keys.1.isSome = true) :
    (system.storeCertificate certificate features).2.store.keys.1 = system.store.keys.1 ∧
      (system.storeCertificate certificate features).2.store.onDisk = system.store.onDisk := by
  rcases stored_cases system certificate features with ⟨reason, result⟩ | result
  · rw [result]
    exact ⟨rfl, rfl⟩
  · rw [result]
    exact ⟨Store.store_same_keys _ _ found, Store.store_on_disk _ _ _⟩

theorem saved_pair (saved : (system.storeCertificate certificate features).1 = .ok ())
    (timed : system.store.onDisk = true → certificate.IsTimed) :
    (system.storeCertificate certificate features).2.store.pair =
      (some (system.store.recalled certificate), features) := by
  obtain ⟨stored, same⟩ := saved_store saved
  rw [same]
  exact Prod.ext (Store.store_certificate stored timed) (Store.store_features stored)

theorem refused_pair {reason : String} (found : system.store.keys.1.isSome = true)
    (lost : (system.storeCertificate certificate features).1 = .error reason) :
    (system.storeCertificate certificate features).2.store.pair = system.store.pair := by
  obtain ⟨certificate, features⟩ := lost_keeps found lost
  exact Prod.ext certificate features

theorem completions_going {who : Option RequestId}
    (busy : system.attempt? task = some (who, operation)) (going : operation.stage ≠ .concluding) :
    system.completions (.step task) = [] := by
  simp only [completions, busy, if_neg going]

theorem completions_last {who : Option RequestId}
    (busy : system.attempt? task = some (who, operation)) (last : operation.stage = .concluding) :
    system.completions (.step task) =
      [⟨operation.request.features, (system.issuer.endRefresh system.now).1,
        (system.apply (.step task)).outcome? task who⟩] := by
  simp only [completions, busy, if_pos last]

theorem completions_idle (idle : ∀ task who operation, event = .step task →
      system.attempt? task = some (who, operation) → operation.stage ≠ .concluding) :
    system.completions event = [] := by
  cases event with
  | step task =>
      cases busy : system.attempt? task with
      | none => simp only [completions, busy]
      | some entry => exact completions_going busy (idle task _ _ rfl busy)
  | _ => rfl

/-- What is known about the store and the issuer after these refreshes. -/
structure Faithful (initial : Store) (done : List Completion) (system : System) : Prop where
  sound : system.Sound
  keyed : system.Keyed
  keys : system.store.keys.1 = initial.keys.1
  still : system.store.keys.2 = system.store
  disk : system.store.onDisk = initial.onDisk
  pair : system.store.pair = pairAfter initial done
  calls : ∃ flying, system.issuer.refreshes.map (·.2) = done.map (·.features) ++ flying ∧
    flying.length = system.issuer.inFlight
  current : ∀ operation, system.Engaged operation →
    operation.stage.role.isRefreshing = true →
    system.issuer.refreshes.map (·.2) = done.map (·.features) ++ [operation.request.features]

variable {initial : Store} {done : List Completion}

theorem Faithful.same_store (faithful : Faithful initial done system)
    (same : moved.store = system.store ∨ moved.store = system.store.keys.2) :
    moved.store = system.store :=
  same.elim id fun read => read.trans faithful.still

/-- Each refresh is ended by the operation that has asked for it. -/
theorem Faithful.calls_apply (faithful : Faithful initial done system)
    (untouched : event.leavesStore = true) :
    let next := system.apply event
    let ended := done ++ system.completions event
    (∃ flying, next.issuer.refreshes.map (·.2) = ended.map (·.features) ++ flying ∧
        flying.length = next.issuer.inFlight) ∧
      ∀ operation, next.Engaged operation → operation.stage.role.isRefreshing = true →
        next.issuer.refreshes.map (·.2) =
          ended.map (·.features) ++ [operation.request.features] := by
  intro next ended
  have sound : next.Sound := faithful.sound.apply event
  obtain ⟨flying, asked, count⟩ := faithful.calls
  cases apply_course system event untouched with
  | aside idle store refreshes load engaged =>
      have none : ended = done := by simp only [ended, completions_idle idle, List.append_nil]
      rw [none, refreshes, load]
      refine ⟨⟨flying, asked, count⟩, fun operation there refreshing => ?_⟩
      rcases engaged operation there with before | created
      · exact faithful.current operation before refreshing
      · rw [created] at refreshing
        cases refreshing
  | attempt task who operation after isCancelled moved own busy step store issuer settled engaged =>
      subst own
      have here := engaged_of_attempt busy
      cases step.stride with
      | stay going refreshes load apart =>
          have none : ended = done := by
            simp only [ended, completions_going busy going, List.append_nil]
          rw [none, issuer, refreshes, load]
          refine ⟨⟨flying, asked, count⟩, fun other there refreshing => ?_⟩
          rcases engaged other there with before | rfl
          · exact faithful.current other before refreshing
          · rw [apart] at refreshing
            rw [step.request]
            exact faithful.current operation here refreshing
      | call publicKey going refreshes load =>
          have none : ended = done := by
            simp only [ended, completions_going busy going, List.append_nil]
          have more : next.issuer.refreshes.map (·.2) =
              done.map (·.features) ++ (flying ++ [operation.request.features]) := by
            rw [issuer, refreshes, List.map_append, asked, List.append_assoc]
            rfl
          rw [← issuer] at load
          rw [none]
          refine ⟨⟨_, more, ?_⟩, fun other there refreshing => ?_⟩
          · rw [List.length_append, count]
            exact load.symm
          · -- nothing else was in flight, so it is this operation that is now
            have alone := sound.engaged_busy there refreshing
            have grounded : system.issuer.inFlight = 0 := by
              have total : next.issuer.inFlight = system.issuer.inFlight + 1 := load
              omega
            rcases engaged other there with before | rfl
            · have flies := faithful.sound.engaged_busy before refreshing
              omega
            · obtain rfl : flying = [] := List.eq_nil_of_length_eq_zero (count.trans grounded)
              rw [more, step.request]
              rfl
      | conclude last refreshes load =>
          have refreshing : operation.stage.role.isRefreshing = true := by rw [last]; rfl
          have one := faithful.sound.engaged_busy here refreshing
          have grounded : next.issuer.inFlight = 0 := by
            have total : next.issuer.inFlight = system.issuer.inFlight - 1 :=
              (congrArg Issuer.inFlight issuer).trans load
            omega
          refine ⟨⟨[], ?_, grounded.symm⟩, fun other there too => ?_⟩
          · have current := faithful.current operation here refreshing
            simp only [ended, completions_last busy last, List.map_append, List.append_nil]
            rw [issuer, refreshes, current]
            rfl
          · have flies := sound.engaged_busy there too
            omega

/-- An operation in the last step of its call has keys that can be read. -/
theorem keys_of_last {who : Option RequestId} (sound : system.Sound) (keyed : system.Keyed)
    (busy : system.attempt? task = some (who, operation)) (last : operation.stage = .concluding) :
    system.store.keys.1.isSome = true := by
  apply keyed
  rw [sound.engaged_busy (engaged_of_attempt busy) (by rw [last]; rfl)]
  exact Nat.one_ne_zero

/-- A store whose keys were not unreadable stays such a store, and keeps them. -/
theorem keys_apply (sound : system.Sound) (keyed : system.Keyed)
    (still : system.store.keys.2 = system.store) (untouched : event.leavesStore = true) :
    let next := system.apply event
    next.store.keys.1 = system.store.keys.1 ∧ next.store.keys.2 = next.store ∧
      next.store.onDisk = system.store.onDisk := by
  intro next
  have unchanged (same : next.store = system.store ∨ next.store = system.store.keys.2) :
      next.store.keys.1 = system.store.keys.1 ∧ next.store.keys.2 = next.store ∧
        next.store.onDisk = system.store.onDisk := by
    rw [still, or_self] at same
    rw [same]
    exact ⟨rfl, still, rfl⟩
  cases apply_course system event untouched with
  | aside idle store refreshes load engaged => exact unchanged (store.imp_right And.right)
  | attempt task who operation after isCancelled moved own busy step store issuer settled engaged =>
      by_cases last : operation.stage = .concluding
      · have found := keys_of_last sound keyed busy last
        have filed (certificate : Certificate) (kept : next.store =
            (system.storeCertificate certificate operation.request.features).2.store) :
            next.store.keys.1 = system.store.keys.1 ∧ next.store.keys.2 = next.store ∧
              next.store.onDisk = system.store.onDisk := by
          have holds := storing_keeps certificate operation.request.features found
          rw [kept]
          exact ⟨holds.1, Store.keys_kept (holds.1 ▸ found), holds.2⟩
        obtain ⟨outcome, -, conclusion⟩ := step.conclusion last
        cases conclusion with
        | fail failure same refused => exact unchanged (.inl (store.trans same))
        | save certificate issued saved stored => exact filed certificate (store.trans stored)
        | lose certificate reason issued lost stored =>
            exact filed certificate (store.trans stored)
      · exact unchanged ((step.same_store last).imp store.trans store.trans)

/-- A refresh that ends well stores its certificate with its features, and nothing else
touches what is stored. -/
theorem Faithful.pair_after (faithful : Faithful initial done system)
    (untouched : event.leavesStore = true)
    (timed : initial.onDisk = true → ∀ completion ∈ system.completions event,
      ∀ certificate, completion.answer = .ok certificate → certificate.IsTimed) :
    (system.apply event).store.pair = pairAfter initial (done ++ system.completions event) := by
  have unchanged (same : (system.apply event).store = system.store)
      (none : system.completions event = []) :
      (system.apply event).store.pair = pairAfter initial (done ++ system.completions event) := by
    rw [same, none, List.append_nil]
    exact faithful.pair
  cases apply_course system event untouched with
  | aside idle store refreshes load engaged =>
      exact unchanged (faithful.same_store (store.imp_right And.right)) (completions_idle idle)
  | attempt task who operation after isCancelled moved own busy step store issuer settled engaged =>
      subst own
      by_cases last : operation.stage = .concluding
      · have found := keys_of_last faithful.sound faithful.keyed busy last
        obtain ⟨outcome, ended, conclusion⟩ := step.conclusion last
        have done := completions_last busy last
        rw [settled outcome ended] at done
        rw [done] at timed ⊢
        rw [pair_after_concat, ← faithful.pair, store]
        cases conclusion with
        | fail failure same refused =>
            rw [same]
            rfl
        | save certificate issued saved filed =>
            have pair := saved_pair saved fun disk =>
              timed (faithful.disk ▸ disk) _ List.mem_cons_self certificate issued
            have same : system.store.recalled certificate = initial.recalled certificate := by
              simp only [Store.recalled, faithful.disk]
            rw [filed, pair, same]
            simp only [Completion.pair?, issued, Option.getD_some]
        | lose certificate reason issued lost filed =>
            rw [filed]
            exact refused_pair found lost
      · have same := faithful.same_store (step.same_store last)
        exact unchanged (store.trans same) (completions_going busy last)

theorem Faithful.apply (faithful : Faithful initial done system)
    (untouched : event.leavesStore = true)
    (timed : initial.onDisk = true → ∀ completion ∈ system.completions event,
      ∀ certificate, completion.answer = .ok certificate → certificate.IsTimed) :
    Faithful initial (done ++ system.completions event) (system.apply event) := by
  obtain ⟨calls, current⟩ := faithful.calls_apply untouched
  obtain ⟨keys, still, disk⟩ :=
    keys_apply faithful.sound faithful.keyed faithful.still untouched
  exact ⟨faithful.sound.apply event, faithful.keyed.apply untouched, keys.trans faithful.keys,
    still, disk.trans faithful.disk, faithful.pair_after untouched timed, calls, current⟩

theorem outset_faithful (outset : Outset) (readable : outset.store.keys.2 = outset.store) :
    Faithful outset.store [] outset.system where
  sound := outset_sound outset
  keyed flying := absurd rfl flying
  keys := rfl
  still := readable
  disk := rfl
  pair := rfl
  calls := ⟨[], rfl, rfl⟩
  current operation engaged := by
    rcases engaged with ⟨lane, id, current⟩ | ⟨task, isCancelled, found⟩
    · cases current
    · cases found

/-- The certificates that were issued have times that a store on disk can hold. -/
def Timed (initial : Store) (done : List Completion) : Prop :=
  initial.onDisk = true → ∀ completion ∈ done, ∀ certificate,
    completion.answer = .ok certificate → certificate.IsTimed

theorem run_faithful (outset : Outset) (readable : outset.store.keys.2 = outset.store)
    (events : List Event) (untouched : ∀ event ∈ events, event.leavesStore = true)
    (timed : Timed outset.store (gathered completions outset.system events)) :
    Faithful outset.store (gathered completions outset.system events)
      (outset.system.run events) := by
  induction events using List.reverseRecOn with
  | nil => exact outset_faithful outset readable
  | append_singleton events event induction =>
      rw [gathered_concat] at timed ⊢
      rw [run_concat]
      have earlier := induction
        (fun other member => untouched other (List.mem_append_left _ member))
        (fun disk completion member => timed disk completion (List.mem_append_left _ member))
      exact earlier.apply (untouched event (by simp)) fun disk completion member =>
        timed disk completion (List.mem_append_right _ member)

theorem completions_cases (system : System) (event : Event) :
    system.completions event = [] ∨ ∃ task who operation, event = .step task ∧
      system.attempt? task = some (who, operation) ∧ system.completions event =
        [⟨operation.request.features, (system.issuer.endRefresh system.now).1,
          (system.apply event).outcome? task who⟩] := by
  cases event with
  | step task =>
      cases busy : system.attempt? task with
      | none => exact .inl (by simp only [completions, busy])
      | some entry =>
          by_cases last : entry.2.stage = .concluding
          · exact .inr ⟨task, entry.1, entry.2, rfl, busy, completions_last busy last⟩
          · exact .inl (completions_going busy last)
  | _ => exact .inl rfl

theorem Completion.pair_cases {completion : Completion} {store : Store}
    {pair : Option Certificate × Option Features} (kept : completion.pair? store = some pair) :
    ∃ certificate, completion = ⟨completion.features, .ok certificate, some (.ok ())⟩ := by
  obtain ⟨features, answer, outcome⟩ := completion
  unfold Completion.pair? at kept
  split at kept
  · rename_i certificate ended issued
    exact ⟨certificate, by simp only at ended issued; rw [ended, issued]⟩
  · cases kept

/-- What is stored changes in the moment in which a refresh ends well. An operation that
comes to an error leaves it as it was. -/
theorem Faithful.pair_apply (faithful : Faithful initial done system)
    (after : Faithful initial (done ++ system.completions event) (system.apply event)) :
    ((system.apply event).store.pair = system.store.pair ∨ ∃ features certificate,
        system.completions event = [⟨features, .ok certificate, some (.ok ())⟩]) ∧
      ∀ task who operation failure, event = .step task →
        system.attempt? task = some (who, operation) →
        (system.apply event).outcome? task who = some (.error failure) →
          (system.apply event).store.pair = system.store.pair := by
  have pair := after.pair
  rcases completions_cases system event with
    none | ⟨task, who, operation, rfl, busy, ended⟩
  · rw [none, List.append_nil, ← faithful.pair] at pair
    exact ⟨.inl pair, fun _ _ _ _ _ _ _ => pair⟩
  · rw [ended, pair_after_concat, ← faithful.pair] at pair
    constructor
    · generalize (⟨operation.request.features, _, _⟩ : Completion) = completion at ended pair
      cases kept : completion.pair? initial with
      | none =>
          rw [kept] at pair
          exact .inl pair
      | some stored =>
          obtain ⟨certificate, same⟩ := Completion.pair_cases kept
          exact .inr ⟨completion.features, certificate, by rw [ended, ← same]⟩
    · intro other whose running failure own runs failed
      obtain rfl := Event.step.inj own
      rw [busy, Option.some.injEq, Prod.mk.injEq] at runs
      rw [runs.1, failed] at pair
      exact pair

/-- The stored certificate and the recorded features come from one refresh, the latest
that ended well; it was asked for with these features and answered with this
certificate. Nothing else changes them, and nothing changes the keys.

A store that finds a damaged document of keys removes it together with the certificate.
`readable` says that the first store is not such a one; no event makes it one. -/
theorem certificate_and_features_of_one_refresh (outset : Outset) (events : List Event)
    (readable : outset.store.keys.2 = outset.store)
    (untouched : ∀ event ∈ events, event.leavesStore = true)
    (timed : Timed outset.store (gathered completions outset.system events)) :
    let done := gathered completions outset.system events
    let system := outset.system.run events
    system.store.pair = pairAfter outset.store done ∧
      system.store.keys.1 = outset.store.keys.1 ∧
      (∃ flying, system.issuer.refreshes.map (·.2) = done.map (·.features) ++ flying ∧
        flying.length = system.issuer.inFlight) ∧
      ∀ before event after, events = before ++ event :: after →
        let earlier := outset.system.run before
        let later := earlier.apply event
        (later.store.pair = earlier.store.pair ∨ ∃ features certificate,
          earlier.completions event = [⟨features, .ok certificate, some (.ok ())⟩]) ∧
        ∀ task who operation failure, event = .step task →
          earlier.attempt? task = some (who, operation) →
          later.outcome? task who = some (.error failure) →
            later.store.pair = earlier.store.pair := by
  intro done system
  have faithful := run_faithful outset readable events untouched timed
  refine ⟨faithful.pair, faithful.keys, faithful.calls, ?_⟩
  rintro before event after rfl
  have split : before ++ event :: after = before ++ [event] ++ after := by simp
  rw [split, gathered_append] at timed
  have early := run_faithful outset readable (before ++ [event])
    (fun other member => untouched other (by rw [split]; exact List.mem_append_left _ member))
    (fun disk completion member => timed disk completion (List.mem_append_left _ member))
  have first := run_faithful outset readable before
    (fun other member => untouched other (List.mem_append_left _ member))
    (fun disk completion member => timed disk completion
      (List.mem_append_left _ (by rw [gathered_concat]; exact List.mem_append_left _ member)))
  rw [gathered_concat, run_concat] at early
  exact first.pair_apply early

/-- A request takes six steps, from the one that takes it up to its answer. -/
def served (features : Option Features) : List Event := asking (.user features) ++ stepsOf 1 6

/-- A certificate is stored; the one of a later refresh cannot be. -/
def refusedLater : List Event :=
  startingUp ++ .scriptRefresh (.ok ⟨[1], ⟨2⟩, ⟨1⟩⟩) :: served (filtering .malware) ++
    .refuseStoring (some "disk full") :: served (filtering .off)

theorem certificate_stays_when_refused :
    let system := Outset.prompt.system.run refusedLater
    system.issuer.refreshes = [([1], filtering .malware), ([1], filtering .off)] ∧
      system.answer? 1 = some (.error (unstored "disk full")) ∧
      system.store.pair = (some ⟨[1], ⟨2⟩, ⟨1⟩⟩, filtering .malware) := by
  obtain ⟨pair, -⟩ := certificate_and_features_of_one_refresh .prompt refusedLater (by decide)
    (by decide) nofun
  refine ⟨by decide, by decide, pair.trans ?_⟩
  decide

end System

end CertRenewal
