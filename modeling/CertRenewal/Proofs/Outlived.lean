import CertRenewal.Proofs.Draining
import CertRenewal.Proofs.Holdings
import CertRenewal.Proofs.Recorded

/-!
When a certificate outlives its key pair. A refresh looks at the keys before it calls the
issuer and not again when it stores the answer, so that keys deleted while it is in flight
leave the certificate behind. This is the only way.
-/

namespace CertRenewal

namespace Store

/-- The store holds a certificate and no key pair for it. -/
def HoldsOnlyCertificate (store : Store) : Prop :=
  store.certificate.isSome = true ∧ store.keys.1 = none

instance (store : Store) : Decidable store.HoldsOnlyCertificate :=
  inferInstanceAs (Decidable (_ ∧ _))

variable {store after : Store} {call : StoreCall}

theorem legible_of_keys (found : store.keys.1.isSome = true) : store.IsLegible := by
  cases store with
  | memory slots => trivial
  | directory held =>
      intro content text
      have there : held.keys.1.isSome = true := found
      unfold DirectoryStore.keys at there
      rw [text] at there
      cases understood : DirectoryStore.readKeys content with
      | some keys => rfl
      | none => simp [understood] at there

theorem Leaves.legible (leaves : Leaves store call after) (legible : store.IsLegible) :
    after.IsLegible := by
  cases leaves with
  | same keys certificate still => exact still legible
  | filed certificate features own saved keys held still => exact still legible
  | keyed keys own held certificate now => exact now
  | bared own keys certificate still => exact still legible
  | emptied own keys certificate now => exact now

/-- Only a call to delete the keys takes a key pair away. -/
theorem Leaves.keys_lost (leaves : Leaves store call after) (there : store.keys.1.isSome = true)
    (gone : after.keys.1 = none) : call = .deleteKeys := by
  have still (keys : after.keys.1 = store.keys.1) : False := by
    rw [← keys, gone] at there
    cases there
  cases leaves with
  | same keys => exact (still keys).elim
  | filed certificate features own saved keys => exact (still keys).elim
  | keyed keys own held => cases gone.symm.trans held
  | bared own keys => exact (still keys).elim
  | emptied own =>
      rcases own with deleted | ⟨-, -, none⟩
      · exact deleted
      · rw [none] at there
        cases there

theorem Leaves.begins (leaves : Leaves store call after) (before : ¬ store.HoldsOnlyCertificate)
    (alone : after.HoldsOnlyCertificate) : store.keys.1 = none ∧ ∃ certificate features,
      call = .store certificate features ∧ (store.store certificate features).1 = .ok () := by
  obtain ⟨certificate, none⟩ := alone
  cases leaves with
  | same keys held =>
      rw [held] at certificate
      rw [keys] at none
      exact absurd ⟨certificate, none⟩ before
  | filed certificate features own saved keys =>
      exact ⟨keys.symm.trans none, certificate, features, own, saved⟩
  | keyed keys own held => cases none.symm.trans held
  | bared own keys gone =>
      rw [gone] at certificate
      cases certificate
  | emptied own keys gone =>
      rw [gone] at certificate
      cases certificate

theorem Leaves.deleted (leaves : Leaves store call after)
    (own : call = .deleteKeys ∨ call = .deleteCertificate) : after.certificate = none := by
  cases leaves with
  | same keys held legible unfiled spared =>
      exact (own.elim spared.1 spared.2).elim
  | filed certificate features stored =>
      rw [stored] at own
      rcases own with own | own <;> cases own
  | keyed keys stored =>
      rw [stored] at own
      rcases own with own | own <;> cases own
  | bared own keys gone => exact gone
  | emptied own keys gone => exact gone

theorem Leaves.stored {certificate : Certificate} {features : Option Features}
    (leaves : Leaves store (.store certificate features) after)
    (saved : (store.store certificate features).1 = .ok ()) : after.certificate.isSome = true := by
  cases leaves with
  | same keys held legible unfiled => exact absurd saved (unfiled certificate features rfl)
  | filed certificate features own saved keys held => exact held
  | keyed keys own => cases own
  | bared own => cases own
  | emptied own => rcases own with own | ⟨own, -⟩ <;> cases own

theorem Leaves.stays (leaves : Leaves store call after) (legible : store.IsLegible)
    (spared : call ≠ .deleteKeys ∧ call ≠ .deleteCertificate)
    (held : store.certificate.isSome = true) : after.certificate.isSome = true := by
  cases leaves with
  | same keys same => rw [same, held]
  | filed certificate features own saved keys now => exact now
  | keyed keys own now same => rw [same, held]
  | bared own => exact absurd own spared.2
  | emptied own =>
      rcases own with own | ⟨-, damaged, -⟩
      · exact absurd own spared.1
      · exact absurd legible damaged

end Store

namespace System

variable {system : System} {event : Event} {task : TaskId}

/-- How an event comes to call the store. -/
inductive Access (system : System) (event : Event) : StoreCall → Prop
  | look : Access system event .readCertificate
  | read : Access system event .readKeys
  | attempt (certificate : Certificate) (features : Option Features)
      (refused : (system.store.store certificate features).1 ≠ .ok ()) :
      Access system event (.store certificate features)
  | file (certificate : Certificate) (features : Option Features)
      (files : system.filings event ≠ []) : Access system event (.store certificate features)
  | handOver (keys : KeyPair) : Access system event (.storeKeys keys)
  | deleteKeys (own : event = .deleteKeys) : Access system event .deleteKeys
  | deleteCertificate (own : event = .deleteCertificate) : Access system event .deleteCertificate

/-- The events with which the host brings no certificate of its own. -/
def StoresNone (event : Event) : Prop :=
  ∀ certificate features, event ≠ .storeCertificate certificate features

/-- What an event does to the store is one call on it. -/
theorem apply_access (system : System) (host : StoresNone event) :
    ∃ call, Access system event call ∧
      (system.apply event).store = (system.store.perform call).2 := by
  by_cases untouched : event.leavesStore = true
  · have records := apply_records system event untouched
    generalize filed : system.filings event = entries at records
    generalize system.apply event = next at records
    cases records with
    | kept store load =>
        rcases store with same | read
        · exact ⟨_, .look, same⟩
        · exact ⟨_, .read, read⟩
    | called found store => exact ⟨_, .read, store⟩
    | lost certificate features reason refused store load =>
        rcases stored_cases system certificate features with ⟨other, result⟩ | result
        · exact ⟨_, .look, by rw [store, result]; rfl⟩
        · refine ⟨_, .attempt certificate features fun saved => ?_, by rw [store, result]; rfl⟩
          rw [result, saved] at refused
          cases refused
    | filed who request certificate saved store load =>
        rcases stored_cases system certificate request.features with ⟨other, result⟩ | result
        · rw [result] at saved
          cases saved
        · refine ⟨_, .file certificate request.features ?_, by rw [store, result]; rfl⟩
          rw [filed]
          exact List.cons_ne_nil _ _
  · cases event with
    | storeCertificate certificate features => exact absurd rfl (host certificate features)
    | storeKeys keys => exact ⟨_, .handOver keys, rfl⟩
    | deleteKeys => exact ⟨_, .deleteKeys rfl, rfl⟩
    | deleteCertificate => exact ⟨_, .deleteCertificate rfl, rfl⟩
    | _ => exact absurd rfl untouched

theorem apply_leaves (placed : system.store.IsPlaced) (host : StoresNone event) :
    (system.apply event).store.IsPlaced ∧
      ∃ call, Access system event call ∧ system.store.Leaves call (system.apply event).store := by
  obtain ⟨call, access, performed⟩ := apply_access system host
  rw [performed]
  obtain ⟨still, leaves⟩ := Store.perform_leaves placed call
  exact ⟨still, call, access, leaves⟩

theorem run_placed (placed : system.store.IsPlaced) (events : List Event)
    (host : ∀ event ∈ events, StoresNone event) : (system.run events).store.IsPlaced := by
  refine @run_invariant_of (·.store.IsPlaced) StoresNone ?_ _ placed events host
  intro system event none placed
  exact (apply_leaves placed none).1

theorem step_of_filing (files : system.filings event ≠ []) : ∃ task, event = .step task := by
  cases event with
  | step task => exact ⟨task, rfl⟩
  | _ => exact absurd rfl files

theorem refreshing_of_filing (files : system.filings (.step task) ≠ []) :
    (system.role task).isRefreshing = true := by
  cases busy : system.attempt? task with
  | none => exact absurd (no_filings busy) files
  | some entry =>
      have concluding : entry.2.stage = .concluding := by
        by_contra other
        simp [filings, busy, files_other other] at files
      rw [(attempt_cases busy).1, concluding]
      rfl

/-- Keys are lost when the host deletes them. -/
theorem keys_lost (placed : system.store.IsPlaced) (host : StoresNone event)
    (there : system.store.keys.1.isSome = true) (gone : (system.apply event).store.keys.1 = none) :
    event = .deleteKeys := by
  obtain ⟨-, call, access, leaves⟩ := apply_leaves placed host
  obtain rfl := leaves.keys_lost there gone
  cases access with
  | deleteKeys own => exact own

/-- A certificate is left alone when a refresh stores it and the keys are gone. -/
theorem alone_begins (placed : system.store.IsPlaced) (host : StoresNone event)
    (before : ¬ system.store.HoldsOnlyCertificate)
    (alone : (system.apply event).store.HoldsOnlyCertificate) :
    ∃ task, event = .step task ∧ system.filings (.step task) ≠ [] ∧
      system.store.keys.1 = none := by
  obtain ⟨-, call, access, leaves⟩ := apply_leaves placed host
  obtain ⟨keys, certificate, features, rfl, saved⟩ := leaves.begins before alone
  cases access with
  | attempt certificate features refused => exact absurd saved refused
  | file certificate features files =>
      obtain ⟨task, rfl⟩ := step_of_filing files
      exact ⟨task, rfl, files, keys⟩

/-- A call for a certificate begins with a key pair. -/
theorem keys_of_call (crewed : system.Crewed) (host : StoresNone event)
    (idle : (system.role task).isRefreshing ≠ true)
    (calls : ((system.apply event).role task).isRefreshing = true) :
    (system.apply event).store.keys.1.isSome = true := by
  have more : (system.apply event).issuer.inFlight = system.issuer.inFlight + 1 := by
    obtain ⟨mover, move, others⟩ := apply_moves crewed event
    by_cases own : task = mover
    · subst own
      generalize system.role task = old at move idle
      generalize (system.apply event).role task = new at move calls
      generalize (system.apply event).token = token at move
      cases move with
      | handle move load apart => exact absurd (apart ▸ calls) idle
      | begin more most => exact more
      | finish fewer most => cases calls
    · rw [others task own] at calls
      exact absurd calls idle
  have untouched : event.leavesStore = true := by
    cases event with
    | storeCertificate certificate features => exact absurd rfl (host certificate features)
    | storeKeys keys => exact absurd more (Nat.ne_of_lt (Nat.lt_succ_self _))
    | deleteKeys => exact absurd more (Nat.ne_of_lt (Nat.lt_succ_self _))
    | deleteCertificate => exact absurd more (Nat.ne_of_lt (Nat.lt_succ_self _))
    | _ => rfl
  have records := apply_records system event untouched
  generalize system.filings event = filed at records
  generalize system.apply event = next at records more
  cases records with
  | called found store =>
      rw [store, Store.keys_kept found]
      exact found
  | kept store load => omega
  | lost certificate features reason refused store load => omega
  | filed who request certificate saved store load => omega

variable {outset : Outset} {events : List Event}

/-- Once the keys are gone they were deleted, and have been gone since then. -/
theorem keys_gone_since (placed : system.store.IsPlaced)
    (host : ∀ event ∈ events, StoresNone event) (there : system.store.keys.1.isSome = true)
    (gone : (system.run events).store.keys.1 = none) :
    ∃ before after, events = before ++ .deleteKeys :: after ∧
      (system.run before).store.keys.1.isSome = true ∧
      ∀ part rest, after = part ++ rest →
        (system.run (before ++ .deleteKeys :: part)).store.keys.1 = none := by
  let Deletes (system : System) (event : Event) : Prop :=
    event = .deleteKeys ∧ system.store.keys.1.isSome = true
  have start : ¬ system.store.keys.1 = none := Option.isSome_iff_ne_none.mp there
  have turn (part : List Event) (event : Event) (rest : List Event)
      (split : events = part ++ event :: rest)
      (missing : ((system.run part).apply event).store.keys.1 = none) :
      (system.run part).store.keys.1 = none ∨ Deletes (system.run part) event := by
    by_cases already : (system.run part).store.keys.1 = none
    · exact .inl already
    · have held := Option.isSome_iff_ne_none.mpr already
      have kept := run_placed placed part fun other member => host other (by simp [split, member])
      exact .inr ⟨keys_lost kept (host event (by simp [split])) held missing, held⟩
  obtain ⟨before, event, after, split, ⟨rfl, held⟩, since⟩ :=
    @run_since (·.store.keys.1 = none) Deletes system start events turn gone
  exact ⟨before, after, split, held, since⟩

/-- A call that is in flight began with a key pair, and has been in flight since then. -/
theorem in_flight_since (host : ∀ event ∈ events, StoresNone event)
    (calls : ((outset.system.run events).role task).isRefreshing = true) :
    ∃ before event after, events = before ++ event :: after ∧
      ((outset.system.run before).apply event).store.keys.1.isSome = true ∧
      ∀ part rest, after = part ++ rest →
        ((outset.system.run (before ++ event :: part)).role task).isRefreshing = true := by
  have turn (part : List Event) (event : Event) (rest : List Event)
      (split : events = part ++ event :: rest)
      (flies : (((outset.system.run part).apply event).role task).isRefreshing = true) :
      ((outset.system.run part).role task).isRefreshing = true ∨
        ((outset.system.run part).apply event).store.keys.1.isSome = true := by
    by_cases already : ((outset.system.run part).role task).isRefreshing = true
    · exact .inl already
    · exact .inr (keys_of_call (run_crewed outset part) (host event (by simp [split])) already
        flies)
  exact @run_since (fun system => (system.role task).isRefreshing = true)
    (fun system event => (system.apply event).store.keys.1.isSome = true) outset.system nofun
    events turn calls

/-- A certificate that is alone was stored by a step without keys, and has been alone
since then. -/
theorem alone_since (placed : outset.store.IsPlaced)
    (start : outset.store.certificate = none ∨ outset.store.keys.1.isSome = true)
    (host : ∀ event ∈ events, StoresNone event)
    (alone : (outset.system.run events).store.HoldsOnlyCertificate) :
    ∃ before task after, events = before ++ .step task :: after ∧
      (outset.system.run before).filings (.step task) ≠ [] ∧
      (outset.system.run before).store.keys.1 = none ∧
      ∀ part rest, after = part ++ rest →
        (outset.system.run (before ++ .step task :: part)).store.HoldsOnlyCertificate := by
  let Strands (system : System) (event : Event) : Prop :=
    ∃ task, event = .step task ∧ system.filings (.step task) ≠ [] ∧ system.store.keys.1 = none
  have begins : ¬ outset.system.store.HoldsOnlyCertificate := by
    rintro ⟨held, none⟩
    rcases start with bare | keyed
    · exact absurd held (by simp [Outset.system, bare])
    · exact absurd none (Option.isSome_iff_ne_none.mp keyed)
  have turn (part : List Event) (event : Event) (rest : List Event)
      (split : events = part ++ event :: rest)
      (only : ((outset.system.run part).apply event).store.HoldsOnlyCertificate) :
      (outset.system.run part).store.HoldsOnlyCertificate ∨
        Strands (outset.system.run part) event := by
    by_cases already : (outset.system.run part).store.HoldsOnlyCertificate
    · exact .inl already
    · have kept : (outset.system.run part).store.IsPlaced :=
        run_placed placed part fun other member => host other (by simp [split, member])
      exact .inr (alone_begins kept (host event (by simp [split])) already only)
  obtain ⟨before, event, after, split, ⟨task, rfl, files, none⟩, since⟩ :=
    @run_since (·.store.HoldsOnlyCertificate) Strands outset.system begins events turn alone
  exact ⟨before, task, after, split, files, none, since⟩

/-- While a certificate is held nothing has just been deleted. -/
theorem not_just_deleted (placed : system.store.IsPlaced)
    (held : (system.apply event).store.certificate.isSome = true) :
    event ≠ .deleteKeys ∧ event ≠ .deleteCertificate := by
  constructor
  · rintro rfl
    have none : (system.apply .deleteKeys).store.certificate = none :=
      (Store.perform_leaves placed .deleteKeys).2.deleted (.inl rfl)
    rw [none] at held
    cases held
  · rintro rfl
    have none : (system.apply .deleteCertificate).store.certificate = none :=
      (Store.perform_leaves placed .deleteCertificate).2.deleted (.inr rfl)
    rw [none] at held
    cases held

/-- A certificate stays while nothing is deleted, if the keys that the store found are not
damaged. -/
theorem certificate_stays (placed : system.store.IsPlaced) (legible : system.store.IsLegible)
    (host : ∀ event ∈ events, StoresNone event)
    (spared : ∀ event ∈ events, event ≠ .deleteKeys ∧ event ≠ .deleteCertificate)
    (held : system.store.certificate.isSome = true) :
    (system.run events).store.certificate.isSome = true := by
  let Holds (system : System) : Prop :=
    system.store.IsPlaced ∧ system.store.IsLegible ∧ system.store.certificate.isSome = true
  have kept (system : System) (event : Event) (quiet : StoresNone event ∧
      event ≠ .deleteKeys ∧ event ≠ .deleteCertificate) (now : Holds system) :
      Holds (system.apply event) := by
    obtain ⟨placed, legible, held⟩ := now
    obtain ⟨still, call, access, leaves⟩ := apply_leaves placed quiet.1
    refine ⟨still, leaves.legible legible, leaves.stays legible ?_ held⟩
    constructor
    · rintro rfl
      cases access with
      | deleteKeys own => exact quiet.2.1 own
    · rintro rfl
      cases access with
      | deleteCertificate own => exact quiet.2.2 own
  exact (run_invariant_of kept ⟨placed, legible, held⟩ events
    fun event member => ⟨host event member, spared event member⟩).2.2

theorem run_legible (placed : system.store.IsPlaced) (legible : system.store.IsLegible)
    (host : ∀ event ∈ events, StoresNone event) : (system.run events).store.IsLegible := by
  let Holds (system : System) : Prop := system.store.IsPlaced ∧ system.store.IsLegible
  have kept (system : System) (event : Event) (none : StoresNone event) (now : Holds system) :
      Holds (system.apply event) := by
    obtain ⟨still, call, -, leaves⟩ := apply_leaves now.1 none
    exact ⟨still, leaves.legible now.2⟩
  exact (run_invariant_of kept ⟨placed, legible⟩ events host).2

/-- A step that stores a certificate leaves one in the store. -/
theorem certificate_of_filing (placed : system.store.IsPlaced)
    (files : system.filings (.step task) ≠ []) :
    (system.apply (.step task)).store.certificate.isSome = true := by
  have records := apply_records system (.step task) rfl
  generalize system.filings (.step task) = filed at files records
  generalize system.apply (.step task) = next at records
  cases records with
  | kept store load => exact absurd rfl files
  | called found store => exact absurd rfl files
  | lost certificate features reason refused store load => exact absurd rfl files
  | filed who request certificate saved store load =>
      rcases stored_cases system certificate request.features with ⟨other, result⟩ | result
      · rw [result] at saved
        cases saved
      · rw [result] at store saved
        have leaves := (Store.perform_leaves placed (.store certificate request.features)).2
        cases stored : (system.store.store certificate request.features).1 with
        | error fault =>
            rw [stored] at saved
            cases saved
        | ok value =>
            rw [store]
            exact leaves.stored stored

/-- A refresh of `task` stores its certificate, after the keys were deleted while it was
in flight. Nothing was deleted since then, and no keys were brought. -/
structure Outlived (outset : Outset) (events : List Event) (task : TaskId)
    (before between after : List Event) : Prop where
  split : events = before ++ .deleteKeys :: (between ++ .step task :: after)
  keyed : (outset.system.run before).store.keys.1.isSome = true
  inFlight : ∀ part rest, .deleteKeys :: between = part ++ rest →
    ((outset.system.run (before ++ part)).role task).isRefreshing = true
  files : (outset.system.run (before ++ .deleteKeys :: between)).filings (.step task) ≠ []
  keyless : ∀ part rest, between ++ .step task :: after = part ++ rest →
    (outset.system.run (before ++ .deleteKeys :: part)).store.keys.1 = none
  spared : ∀ event ∈ after, event ≠ .deleteKeys ∧ event ≠ .deleteCertificate

theorem outlived_of_alone (placed : outset.store.IsPlaced)
    (start : outset.store.certificate = none ∨ outset.store.keys.1.isSome = true)
    (host : ∀ event ∈ events, StoresNone event)
    (alone : (outset.system.run events).store.HoldsOnlyCertificate) :
    ∃ task before between after, Outlived outset events task before between after := by
  obtain ⟨filing, task, after, rfl, files, keyless, since⟩ := alone_since placed start host alone
  obtain ⟨early, event, during, rfl, keyed, flying⟩ := in_flight_since
    (fun event member => host event (List.mem_append_left _ member)) (refreshing_of_filing files)
  -- from the beginning of the call on
  have joined (part : List Event) : outset.system.run (early ++ event :: part) =
      ((outset.system.run early).apply event).run part := run_append _ early (event :: part)
  have kept (part rest : List Event) (split : early ++ event :: during ++ .step task :: after =
      part ++ rest) : (outset.system.run part).store.IsPlaced :=
    run_placed placed part fun other member => host other (by rw [split]; simp [member])
  have begun : ((outset.system.run early).apply event).store.IsPlaced := by
    rw [← run_concat]
    exact kept (early ++ [event]) (during ++ .step task :: after) (by simp)
  obtain ⟨first, between, rfl, there, gone⟩ := keys_gone_since begun
    (fun other member => host other (by simp [member])) keyed (joined during ▸ keyless)
  have whole (part : List Event) : outset.system.run (early ++ event :: first ++ part) =
      ((outset.system.run early).apply event).run (first ++ part) := by
    rw [List.append_assoc, List.cons_append, joined]
  refine ⟨task, early ++ event :: first, between, after, by simp, ?_, ?_, ?_, ?_, ?_⟩
  · rw [joined]
    exact there
  · intro part rest cut
    have flies := flying (first ++ part) rest (by rw [cut, List.append_assoc])
    rw [whole, ← joined]
    exact flies
  · rw [whole, ← joined]
    exact files
  · intro part rest cut
    rcases List.append_eq_append_iff.mp cut with ⟨later, rfl, more⟩ | ⟨more, rfl, -⟩
    · cases later with
      | nil =>
          rw [List.append_nil, whole]
          exact gone between [] (by simp)
      | cons next part =>
          obtain ⟨rfl, same⟩ := List.cons.inj more
          simpa using (since part rest same).2
    · rw [whole]
      exact gone part more rfl
  · intro other member
    obtain ⟨part, rest, rfl⟩ := List.append_of_mem member
    have held := (since (part ++ [other]) rest (by simp)).1
    have last : early ++ event :: (first ++ .deleteKeys :: between) ++
        .step task :: (part ++ [other]) = early ++ event :: (first ++ .deleteKeys :: between) ++
          .step task :: part ++ [other] := by simp
    rw [last, run_concat] at held
    exact not_just_deleted (kept _ (other :: rest) (by simp)) held

theorem Outlived.alone {before between after : List Event} (placed : outset.store.IsPlaced)
    (host : ∀ event ∈ events, StoresNone event)
    (outlived : Outlived outset events task before between after) :
    (outset.system.run events).store.HoldsOnlyCertificate := by
  obtain ⟨rfl, keyed, -, files, keyless, spared⟩ := outlived
  let during := before ++ .deleteKeys :: between
  have whole : outset.system.run (before ++ .deleteKeys :: (between ++ .step task :: after)) =
      ((outset.system.run during).apply (.step task)).run after := by
    rw [← run_concat, ← run_append]
    simp [during]
  have begun : (outset.system.run during).apply (.step task) =
      (outset.system.run before).run (.deleteKeys :: (between ++ [.step task])) := by
    rw [← run_concat, ← run_append]
    simp [during]
  have start : (outset.system.run before).store.IsPlaced :=
    run_placed placed before fun event member => host event (by simp [member])
  have kept : (outset.system.run during).store.IsPlaced :=
    run_placed placed during fun event member => host event (by
      simp only [during, List.mem_append, List.mem_cons] at member ⊢
      tauto)
  have quiet : StoresNone (.step task) := fun _ _ => nofun
  have stored := (apply_leaves kept quiet).1
  have legible : ((outset.system.run during).apply (.step task)).store.IsLegible := by
    rw [begun]
    refine run_legible start (Store.legible_of_keys keyed) fun event member => host event ?_
    simp only [List.mem_append, List.mem_cons, List.not_mem_nil, or_false] at member ⊢
    tauto
  have held := certificate_stays stored legible
    (fun event member => host event (by simp [member])) spared (certificate_of_filing kept files)
  refine ⟨?_, keyless _ [] (by simp)⟩
  rw [whole]
  exact held

/-- A store comes to hold a certificate without its key pair exactly when the keys are
deleted while a refresh is in flight and that refresh stores its certificate. -/
theorem certificate_outlives_keys_iff (outset : Outset) (events : List Event)
    (placed : outset.store.IsPlaced)
    (start : outset.store.certificate = none ∨ outset.store.keys.1.isSome = true)
    (host : ∀ event ∈ events, StoresNone event) :
    (outset.system.run events).store.HoldsOnlyCertificate ↔
      ∃ task before between after, Outlived outset events task before between after := by
  constructor
  · exact outlived_of_alone placed start host
  · rintro ⟨task, before, between, after, outlived⟩
    exact outlived.alone placed host

/-- The keys are deleted while a request is in its call, and then the call ends. -/
def deletedMeanwhile : List Event :=
  startingUp ++ asking (.user none) ++ stepsOf 1 4 ++ .deleteKeys :: .permitRefreshes 1 ::
    stepsOf 1 2

theorem certificate_behind_deletion :
    ∃ task before between after,
      Outlived .guarded deletedMeanwhile task before between after := by
  refine (certificate_outlives_keys_iff .guarded deletedMeanwhile trivial (.inl rfl) ?_).mp ?_
  · intro event member certificate features same
    subst same
    simp [deletedMeanwhile, startingUp, asking, stepsOf] at member
  · decide

/-- The host brings no certificate, and there is none at the beginning, but in the end there
is one and no key pair. -/
theorem certificate_without_keys :
    Outset.guarded.store.certificate = none ∧ (∀ event ∈ deletedMeanwhile, StoresNone event) ∧
      (Outset.guarded.system.run deletedMeanwhile).store.certificate.isSome = true ∧
      (Outset.guarded.system.run deletedMeanwhile).store.keys.1 = none := by
  refine ⟨rfl, ?_, by decide, by decide⟩
  intro event member certificate features same
  subst same
  simp [deletedMeanwhile, startingUp, asking, stepsOf] at member

end System

end CertRenewal
