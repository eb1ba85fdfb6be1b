import CertRenewal.Api.Router
import CertRenewal.Http.Issuer
import CertRenewal.Proofs.Compact
import CertRenewal.Proofs.Whole

/-!
What the envelope of a failure says about the time to wait. A time to hold off is
reported in whole seconds and rounded down: one that is no whole number of seconds is
reported too short, by less than a second.
-/

namespace CertRenewal

open Json

/-! The envelope as a client reads it. -/

namespace ErrorBody

structure Draft where
  code : Option String
  message : Option String
  retryAfterSeconds : Option (Option Nat)
  recovery : Option (Option String)

def shape : Shape Draft ErrorBody where
  name := "ErrorBody"
  blank := ⟨none, none, none, none⟩
  fields :=
    [⟨"code", (·.code.isSome), fun draft => do
        return { draft with code := some (← Reader.string) }, false⟩,
     ⟨"message", (·.message.isSome), fun draft => do
        return { draft with message := some (← Reader.string) }, false⟩,
     ⟨"retry_after_secs", (·.retryAfterSeconds.isSome), fun draft => do
        return { draft with
          retryAfterSeconds := some (← Reader.optional Reader.uint64) }, true⟩,
     ⟨"recovery", (·.recovery.isSome), fun draft => do
        return { draft with recovery := some (← Reader.optional Reader.string) }, true⟩]
  finish draft :=
    match draft.code with
    | none => .error (.missingField "code")
    | some code =>
      match draft.message with
      | none => .error (.missingField "message")
      | some message =>
        .ok ⟨code, message, draft.retryAfterSeconds.getD none, draft.recovery.getD none⟩

def envelope : Shape (Option ErrorBody) ErrorBody where
  name := "ErrorResponse"
  blank := none
  fields := [⟨"error", Option.isSome, fun _ => do return some (← shape.read), false⟩]
  finish
    | none => .error (.missingField "error")
    | some body => .ok body

def ofBytes (bytes : Bytes) : Except Fault ErrorBody := readAll envelope.read bytes

/-- What stands in an envelope, in its order. -/
def members (body : ErrorBody) : List (String × Tree) :=
  [("code", .text body.code), ("message", .text body.message)]
    ++ Tree.member? "retry_after_secs"
      (body.retryAfterSeconds.map fun (seconds : Nat) => .number seconds)
    ++ Tree.member? "recovery" (body.recovery.map .text)

theorem number_starts (number : Nat) :
    ∃ byte, byte ≠ 110 ∧ Begins (toString (number : Int)).toList byte := by
  obtain ⟨first, more, written, digit, -⟩ := digits_written number
  refine ⟨first, (digit_solid digit).2.2, (digit_solid digit).1, more, ?_⟩
  rw [number_written, written]

theorem entered (body : ErrorBody)
    (small : ∀ seconds, body.retryAfterSeconds = some seconds → seconds ≤ Number.natLimit) :
    Enters shape.entry shape.blank body.members
      ⟨some body.code, some body.message, body.retryAfterSeconds.map some,
        body.recovery.map some⟩ := by
  obtain ⟨code, message, seconds?, recovery?⟩ := body
  let named : Draft := ⟨some code, some message, none, none⟩
  let timed : Draft := { named with retryAfterSeconds := seconds?.map some }
  have coded := (understands_string code).map
    fun code => (⟨some code, none, none, none⟩ : Draft)
  have told := (understands_string message).map
    fun message => (⟨some code, some message, none, none⟩ : Draft)
  have always : Enters shape.entry shape.blank
      [("code", .text code), ("message", .text message)] named :=
    .cons (takes_compact_field rfl rfl coded) (.cons (takes_compact_field rfl rfl told) (.nil _))
  have waits : Enters shape.entry named
      (Tree.member? "retry_after_secs" (seconds?.map fun (seconds : Nat) => .number seconds))
      timed := by
    cases seconds? with
    | none => exact .nil _
    | some seconds =>
        obtain ⟨byte, present, begins⟩ := number_starts seconds
        have counted := understands_natural Number.natLimit "u64" seconds (small seconds rfl)
          (Nat.le_refl _)
        have read := (counted.optional begins present).map
          fun seconds? => { named with retryAfterSeconds := some seconds? }
        exact .cons (takes_compact_field rfl rfl read) (.nil _)
  have advises : Enters shape.entry timed (Tree.member? "recovery" (recovery?.map .text))
      { timed with recovery := recovery?.map some } := by
    cases recovery? with
    | none => exact .nil _
    | some recovery =>
        have read := ((understands_string recovery).optional (quoted_begins recovery)
          (by decide)).map fun recovery? => { timed with recovery := some recovery? }
        exact .cons (takes_compact_field rfl rfl read) (.nil _)
  exact (always.append waits).append advises

/-- An envelope is read back, as long as its seconds fit in 64 bits. -/
theorem of_bytes_envelope (body : ErrorBody)
    (small : ∀ seconds, body.retryAfterSeconds = some seconds → seconds ≤ Number.natLimit) :
    ofBytes (Bytes.ofText body.toTree.compact) = .ok body := by
  have inside : Understands shape.read (Tree.compactChars (.object body.members)) body := by
    refine understands_compact_record (entered body small) ?_
    obtain ⟨code, message, seconds?, recovery?⟩ := body
    cases seconds? <;> cases recovery? <;> rfl
  have enters : Enters envelope.entry envelope.blank [("error", .object body.members)]
      (some body) :=
    .cons (takes_compact_field rfl rfl (inside.map some)) (.nil _)
  have tree : body.toTree = .object [("error", .object body.members)] := by
    obtain ⟨code, message, seconds?, recovery?⟩ := body
    cases seconds? <;> rfl
  rw [tree, Tree.compact, Bytes.of_text_chars]
  exact read_all_written (understands_compact_record enters rfl)

end ErrorBody

/-! Times in whole seconds. -/

namespace Span

/-- Whether a number of seconds tells the time exactly. -/
def IsWhole (span : Span) : Prop := ∃ count, span = ofSeconds count

/-- Whether the time has passed after so many seconds. -/
def PassesIn (span : Span) (seconds : Nat) : Prop := span.nanos ≤ (ofSeconds seconds).nanos

instance (span : Span) (seconds : Nat) : Decidable (span.PassesIn seconds) :=
  inferInstanceAs (Decidable (span.nanos ≤ (ofSeconds seconds).nanos))

theorem passes_in_next_second (span : Span) : span.PassesIn (span.wholeSeconds + 1) := by
  simp only [PassesIn, ofSeconds, wholeSeconds]
  omega

theorem whole_seconds_within (span : Span) :
    (ofSeconds span.wholeSeconds).nanos ≤ span.nanos := by
  simp only [ofSeconds, wholeSeconds]
  omega

theorem passes_in_whole_seconds_iff (span : Span) :
    span.PassesIn span.wholeSeconds ↔ span.IsWhole := by
  constructor
  · intro passes
    have same : span.nanos = (ofSeconds span.wholeSeconds).nanos :=
      Nat.le_antisymm passes span.whole_seconds_within
    exact ⟨span.wholeSeconds, congrArg Span.mk same⟩
  · rintro ⟨count, rfl⟩
    rw [wholeSeconds_ofSeconds]
    exact Nat.le_refl _

theorem millis_whole_iff (millis : Nat) : (ofMillis millis).IsWhole ↔ 1000 ∣ millis := by
  rw [← passes_in_whole_seconds_iff]
  simp only [PassesIn, ofSeconds, wholeSeconds, ofMillis]
  omega

end Span

/-! The time to wait that comes with an answer of the issuer. -/

theorem HttpIssuer.retry_after_whole {headers : List Header} {span : Span}
    (hinted : retryAfter headers = some span) :
    ∃ count, count ≤ Number.natLimit ∧ span = .ofSeconds count := by
  simp only [retryAfter, Option.bind_eq_bind, Option.bind_eq_some_iff] at hinted
  obtain ⟨value, -, text, -, hinted⟩ := hinted
  split at hinted
  · rename_i count read
    exact ⟨count, Whole.natural_le read, (Option.some.inj hinted).symm⟩
  · cases hinted

/-! From a failure at the issuer to the envelope. -/

theorem Catalogue.back_off_of_classified {catalogue : Catalogue} {remote : RemoteFailure}
    {standard span : Span}
    (backsOff : (catalogue.classify remote).recovery standard = .backOff span) :
    span = remote.retryAfter.getD standard := by
  rw [classify] at backsOff
  split at backsOff
  · rename_i kind known
    cases kind <;> simp_all [FailureKind.toFailure, Failure.recovery]
  · cases backsOff

/-- What a client is told about the time to wait after a failure at the issuer, which is to be
answered by `recovery` where a client waits `backoff` milliseconds unless told otherwise. -/
structure WaitReported (remote : RemoteFailure) (backoff : Nat) (recovery : Recovery)
    (reported : Option Nat) : Prop where
  absent : (∀ span, recovery ≠ .backOff span) → reported = none
  /-- The seconds that are full within the time to wait. -/
  rounded : ∀ span, recovery = .backOff span →
    ∃ seconds, reported = some seconds ∧
      (Span.ofSeconds seconds).nanos ≤ span.nanos ∧ span.PassesIn (seconds + 1)
  hinted : ∀ count, remote.retryAfter = some (.ofSeconds count) →
    ∀ span, recovery = .backOff span → span = .ofSeconds count ∧ reported = some count
  unhinted : remote.retryAfter = none →
    ∀ span, recovery = .backOff span → span = .ofMillis backoff
  /-- Whoever waits that long has waited long enough exactly if nothing was rounded. -/
  enough : ∀ span, recovery = .backOff span →
    ((∃ seconds, reported = some seconds ∧ span.PassesIn seconds) ↔ span.IsWhole)
  /-- The hints of the issuer are in whole seconds; the standard time need not be. -/
  issued : ∀ status headers content, remote = HttpIssuer.refusal status headers content →
    ∀ span, recovery = .backOff span →
      (span.IsWhole ↔ remote.retryAfter.isSome = true ∨ 1000 ∣ backoff)

theorem wait_reported (remote : RemoteFailure) (catalogue : Catalogue) (backoff : Nat) :
    WaitReported remote backoff ((catalogue.classify remote).recovery (.ofMillis backoff))
      ((catalogue.classify remote).body (.ofMillis backoff)).retryAfterSeconds where
  absent none := by
    show Recovery.retryAfterSeconds _ = _
    generalize Failure.recovery _ _ = recovery at none
    cases recovery with
    | backOff span => exact absurd rfl (none span)
    | _ => rfl
  rounded span backsOff :=
    ⟨span.wholeSeconds, by simp [Failure.body, backsOff, Recovery.retryAfterSeconds],
      span.whole_seconds_within, span.passes_in_next_second⟩
  hinted count hinted span backsOff := by
    obtain rfl : span = .ofSeconds count := by
      rw [Catalogue.back_off_of_classified backsOff, hinted, Option.getD_some]
    refine ⟨rfl, ?_⟩
    simp [Failure.body, backsOff, Recovery.retryAfterSeconds, Span.wholeSeconds_ofSeconds]
  unhinted unhinted span backsOff := by
    rw [Catalogue.back_off_of_classified backsOff, unhinted, Option.getD_none]
  enough span backsOff := by
    rw [← span.passes_in_whole_seconds_iff]
    simp [Failure.body, backsOff, Recovery.retryAfterSeconds]
  issued status headers content issued span backsOff := by
    rw [Catalogue.back_off_of_classified backsOff]
    cases hint : remote.retryAfter with
    | none => simpa using Span.millis_whole_iff backoff
    | some hinted =>
        have sent : HttpIssuer.retryAfter headers = some hinted := by
          rw [← hint, issued]
          rfl
        obtain ⟨count, -, rfl⟩ := HttpIssuer.retry_after_whole sent
        simp [Span.IsWhole]

theorem reported_small {remote : RemoteFailure} {catalogue : Catalogue} {backoff seconds : Nat}
    (configured : backoff ≤ Number.natLimit)
    (clocked : ∀ span, remote.retryAfter = some span → span.wholeSeconds ≤ Number.natLimit)
    (reported : ((catalogue.classify remote).body (.ofMillis backoff)).retryAfterSeconds =
      some seconds) : seconds ≤ Number.natLimit := by
  simp only [Failure.body] at reported
  cases recovery : (catalogue.classify remote).recovery (.ofMillis backoff) with
  | backOff span =>
      rw [recovery, Recovery.retryAfterSeconds] at reported
      obtain rfl : span.wholeSeconds = seconds := Option.some.inj reported
      rw [Catalogue.back_off_of_classified recovery]
      cases hint : remote.retryAfter with
      | none =>
          rw [Option.getD_none]
          simp only [Span.wholeSeconds, Span.ofMillis]
          omega
      | some hinted => exact clocked hinted hint
  | _ => simp [recovery, Recovery.retryAfterSeconds] at reported

/-- The envelope that answers a refresh tells the time to wait in whole seconds, rounded
down. It is long enough for every hint in whole seconds, and for the standard time to wait
exactly if that is a whole number of seconds. -/
theorem back_off_reported_in_whole_seconds (remote : RemoteFailure) (catalogue : Catalogue)
    (backoff : Nat) (success : String) (configured : backoff ≤ Number.natLimit)
    (clocked : ∀ span, remote.retryAfter = some span → span.wholeSeconds ≤ Number.natLimit) :
    ∃ body, ErrorBody.ofBytes (Bytes.ofText
        (Api.outcomeResponse backoff success (.error (catalogue.classify remote))).body) =
          .ok body ∧
      WaitReported remote backoff
        ((catalogue.classify remote).recovery (.ofMillis backoff)) body.retryAfterSeconds :=
  ⟨_, ErrorBody.of_bytes_envelope _ fun _ => reported_small configured clocked,
    wait_reported remote catalogue backoff⟩

/-- Too many requests, and nothing said about the time to wait. -/
def hurried : RemoteFailure := ⟨some 429, none, "", none⟩

/-- The issuer asks for two minutes, and two minutes are reported. -/
theorem hint_reported :
    ∃ body, ErrorBody.ofBytes (Bytes.ofText (Api.outcomeResponse 1500 "refreshed"
        (.error (Catalogue.builtIn.classify { hurried with
          retryAfter := some (.ofSeconds 120) }))).body) = .ok body ∧
      body.retryAfterSeconds = some 120 := by
  obtain ⟨body, read, waits⟩ := back_off_reported_in_whole_seconds
    { hurried with retryAfter := some (.ofSeconds 120) } .builtIn 1500 "refreshed" (by decide)
    (by rintro _ ⟨⟩; decide)
  exact ⟨body, read, (waits.hinted 120 rfl _ rfl).2⟩

/-- A client is to wait a second and a half, and is told to wait one second. -/
theorem second_and_a_half_reported_as_one :
    ∃ body, ErrorBody.ofBytes (Bytes.ofText (Api.outcomeResponse 1500 "refreshed"
        (.error (Catalogue.builtIn.classify hurried))).body) = .ok body ∧
      (Catalogue.builtIn.classify hurried).recovery (.ofMillis 1500) = .backOff (.ofMillis 1500) ∧
      body.retryAfterSeconds = some 1 ∧ ¬ (Span.ofMillis 1500).PassesIn 1 := by
  refine ⟨_, ErrorBody.of_bytes_envelope _ ?_, rfl, rfl, by decide⟩
  rintro _ ⟨⟩
  decide

end CertRenewal
