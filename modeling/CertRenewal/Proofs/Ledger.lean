import CertRenewal.Proofs.Keeping
import CertRenewal.Proofs.Verdict
import CertRenewal.Refresh.Step

/-!
What requests come to that are served one after another, while nothing else happens:
which calls are made, what is stored, and how each request is answered.
-/

namespace CertRenewal

/-- How a call of the issuer ends: its answer, and why a certificate cannot be stored at
that moment, if it cannot. -/
structure CallEnd where
  answer : Except RemoteFailure Certificate
  refusal : Option String

/-- How a request comes to its turn: it has the token at some moment, or it has waited
for it too long. -/
inductive Turn
  | taken (now : Instant)
  | missed
deriving DecidableEq, Repr

structure Ledger where
  store : Store
  calls : List (Bytes × Option Features)
  /-- How the requests were answered, each with what was stored then. -/
  served : List (Outcome × Store)
  /-- How the calls end that are still to come. -/
  script : List CallEnd

def Outset.margin (outset : Outset) : Span := Span.ofMillis outset.intervals.refreshEarlierBy

namespace Ledger

def reply (ledger : Ledger) (outcome : Outcome) : Ledger :=
  { ledger with served := ledger.served ++ [(outcome, ledger.store)] }

/-- The end of a call. One that has no end yet goes on. -/
def conclude (outset : Outset) (request : Request) (ledger : Ledger) : Ledger :=
  match ledger.script with
  | [] => ledger
  | ⟨.error failure, _⟩ :: script =>
    { ledger with script }.reply (.error (outset.catalogue.classify failure))
  | ⟨.ok _, some reason⟩ :: script => { ledger with script }.reply (.error (System.unstored reason))
  | ⟨.ok certificate, none⟩ :: script =>
    match ledger.store.store certificate request.features with
    | (.ok (), store) => { ledger with store, script }.reply (.ok ())
    | (.error fault, store) =>
      { ledger with store, script }.reply (.error (System.unstored fault.message))

def needsCall (outset : Outset) (request : Request) (now : Instant) (ledger : Ledger) : Bool :=
  request.forced || (Freshness.assess ledger.store.certificate ledger.store.features
    request.features now outset.margin).needsRefresh

/-- The whole of a request, from its turn to its answer. -/
def serve (outset : Outset) (ledger : Ledger) (request : Request) : Turn → Ledger
  | .missed => ledger.reply (.error .timedOut)
  | .taken now =>
    if ledger.needsCall outset request now then
      match ledger.store.keys with
      | (none, store) => { ledger with store }.reply (.error .needNewKeys)
      | (some keys, store) =>
        { ledger with
          store
          calls := ledger.calls ++ [(keys.publicKey, request.features)] }.conclude outset request
    else ledger.reply (.ok ())

def serveAll (outset : Outset) (ledger : Ledger) (turns : List (Request × Turn)) : Ledger :=
  turns.foldl (fun ledger turn => ledger.serve outset turn.1 turn.2) ledger

/-- The ledger behind these requests, when nothing came before them. -/
def after (outset : Outset) (script : List CallEnd) (turns : List (Request × Turn)) : Ledger :=
  serveAll outset ⟨outset.store, [], [], script⟩ turns

variable {outset : Outset} {ledger : Ledger} {request : Request} {now : Instant} {keys : KeyPair}
  {script : List CallEnd} {certificate : Certificate}

theorem serve_all_append (outset : Outset) (ledger : Ledger)
    (first second : List (Request × Turn)) : serveAll outset ledger (first ++ second) =
      serveAll outset (serveAll outset ledger first) second := List.foldl_append

theorem after_concat (outset : Outset) (script : List CallEnd) (turns : List (Request × Turn))
    (request : Request) (turn : Turn) : after outset script (turns ++ [(request, turn)]) =
      (after outset script turns).serve outset request turn :=
  serve_all_append outset _ turns [(request, turn)]

theorem serve_fresh (fresh : ledger.needsCall outset request now = false) :
    ledger.serve outset request (.taken now) = ledger.reply (.ok ()) := by
  simp [serve, fresh]

theorem serve_keyless (needed : ledger.needsCall outset request now = true)
    (missing : ledger.store.keys.1 = none) : ledger.serve outset request (.taken now) =
      { ledger with store := ledger.store.keys.2 }.reply (.error .needNewKeys) := by
  have split : ledger.store.keys = (none, ledger.store.keys.2) := Prod.ext missing rfl
  rw [serve, if_pos needed, split]

theorem serve_call (needed : ledger.needsCall outset request now = true)
    (found : ledger.store.keys.1 = some keys) : ledger.serve outset request (.taken now) =
      { ledger with
        store := ledger.store.keys.2
        calls := ledger.calls ++ [(keys.publicKey, request.features)] }.conclude outset
          request := by
  have split : ledger.store.keys = (some keys, ledger.store.keys.2) := Prod.ext found rfl
  rw [serve, if_pos needed, split]

variable {moment : Instant} {certificate : Certificate}

theorem concluded_well {stored : Store}
    (well : (ledger.conclude outset request).served = ledger.served ++ [(.ok (), stored)]) :
    ∃ certificate, (ledger.store.store certificate request.features).1 = .ok () ∧
      (ledger.conclude outset request).store =
        (ledger.store.store certificate request.features).2 := by
  unfold conclude at well ⊢
  split at well
  · simp at well
  · simp [reply] at well
  · simp [reply] at well
  · rename_i certificate script ends
    split at well
    · rename_i store filed
      exact ⟨certificate, by rw [filed], by rw [filed]; rfl⟩
    · simp [reply] at well

/-- A request that is not forced and was answered well leaves a certificate that serves
the next one like it, until its deadline. -/
theorem serves_next (unforced : request.forced = false)
    (well : (ledger.serve outset request (.taken now)).served =
      ledger.served ++ [(.ok (), (ledger.serve outset request (.taken now)).store)])
    (stored : (ledger.serve outset request (.taken now)).store.certificate = some certificate)
    (early : moment < Freshness.deadline certificate outset.margin) :
    (ledger.serve outset request (.taken now)).needsCall outset request moment = false := by
  cases needed : ledger.needsCall outset request now with
  | false =>
      rw [serve_fresh needed] at stored ⊢
      have same : ledger.store.certificate = some certificate := stored
      simp only [needsCall, unforced, Bool.false_or, same] at needed
      simp only [needsCall, reply, unforced, Bool.false_or, same]
      exact Freshness.serves_until_deadline needed early
  | true =>
      cases found : ledger.store.keys.1 with
      | none =>
          rw [serve_keyless needed found] at well
          simp [reply] at well
      | some keys =>
          have kept : ledger.store.keys.2 = ledger.store := Store.keys_kept (by rw [found]; rfl)
          rw [serve_call needed found, kept] at well stored ⊢
          obtain ⟨issued, saved, filed⟩ := concluded_well well
          have features : (ledger.store.store issued request.features).2.features =
              request.features := Store.store_features saved
          rw [filed] at stored
          simp only [needsCall, unforced, Bool.false_or, filed, stored, features]
          exact Freshness.serves_own_features early

/-- While a certificate serves, requests that need no call are answered well at once, and
nothing else happens. -/
theorem serve_all_fresh (outset : Outset) (ledger : Ledger) (burst : List (Request × Turn))
    (fresh : ∀ turn ∈ burst, ∃ now, turn.2 = .taken now ∧
      ledger.needsCall outset turn.1 now = false) :
    serveAll outset ledger burst = { ledger with
      served := ledger.served ++ burst.map fun _ => (.ok (), ledger.store) } := by
  induction burst generalizing ledger with
  | nil => simp [serveAll]
  | cons turn burst induction =>
      obtain ⟨request, turn⟩ := turn
      obtain ⟨now, taken, idle⟩ := fresh _ List.mem_cons_self
      obtain rfl : turn = .taken now := taken
      have rest := induction (ledger.reply (.ok ())) fun later member =>
        fresh later (List.mem_cons_of_mem _ member)
      have first : serveAll outset ledger ((request, .taken now) :: burst) =
          serveAll outset (ledger.reply (.ok ())) burst := by
        rw [← serve_fresh idle]
        rfl
      rw [first, rest]
      simp [reply]

/-- Of requests that are alike and not forced only the first one can need a call: once it
was answered well, the others are too, before the deadline of its certificate. -/
theorem burst_after_first (script : List CallEnd) (earlier burst : List (Request × Turn))
    (unforced : request.forced = false) :
    let first := after outset script (earlier ++ [(request, .taken now)])
    first.served = (after outset script earlier).served ++ [(.ok (), first.store)] →
      first.store.certificate = some certificate →
      (∀ turn ∈ burst, ∃ moment, turn = (request, .taken moment) ∧
        moment < Freshness.deadline certificate outset.margin) →
      after outset script (earlier ++ (request, .taken now) :: burst) = { first with
        served := first.served ++ burst.map fun _ => (.ok (), first.store) } := by
  intro first well stored alike
  have split : earlier ++ (request, Turn.taken now) :: burst =
      earlier ++ [(request, .taken now)] ++ burst := by simp
  have served : first = _ := after_concat outset script earlier request (.taken now)
  rw [split]
  refine (serve_all_append outset _ _ burst).trans (serve_all_fresh outset first burst ?_)
  intro turn member
  obtain ⟨moment, rfl, early⟩ := alike turn member
  refine ⟨moment, rfl, ?_⟩
  rw [served] at well stored ⊢
  exact serves_next unforced well stored early

end Ledger

end CertRenewal
