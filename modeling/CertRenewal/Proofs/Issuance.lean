import CertRenewal.Http.Issuer
import CertRenewal.Proofs.Document
import CertRenewal.Proofs.Yields

/-!
What the calls to an issuer come to, whatever answers them. A session is started or the
call fails. A certificate is given or the call fails, except where an answer of success
carries a certificate with a time beyond the last second that the clock can name: such a
time is neither given nor told as a failure.
-/

namespace CertRenewal

open Json

namespace HttpIssuer

/-- An answer of success carries a value that is read off its whole body. -/
inductive Carries {α : Type} (reader : Reader α) : Delivery → α → Prop
  | body {status : UInt16} {headers : List Header} {bytes : Bytes} {value : α}
      (succeeded : isSuccess status = true) (read : readAll reader bytes = .ok value) :
      Carries reader (.answered status headers (some bytes)) value

variable {α : Type} {reader : Reader α} {call : HttpCall} {delivery : Delivery} {value other : α}

theorem Carries.read_answer (carries : Carries reader delivery value) :
    readAnswer reader call delivery = .ok value := by
  obtain ⟨succeeded, read⟩ := carries
  simp only [readAnswer, succeeded, if_true, read]

theorem Carries.unique (first : Carries reader delivery value)
    (second : Carries reader delivery other) : value = other := by
  obtain ⟨-, read⟩ := first
  obtain ⟨-, again⟩ := second
  exact Except.ok.inj (read.symm.trans again)

theorem carries_of_read (answer : readAnswer reader call delivery = .ok value) :
    Carries reader delivery value := by
  cases delivery with
  | lost => cases answer
  | answered status headers body =>
      by_cases succeeded : isSuccess status = true
      · simp only [readAnswer, succeeded, if_true] at answer
        cases body with
        | none => cases answer
        | some bytes =>
            cases read : readAll reader bytes with
            | ok given =>
                simp only [read] at answer
                cases answer
                exact .body succeeded read
            | error fault => simp [read] at answer
      · simp [readAnswer, succeeded] at answer

/-! Certificates. -/

/-- Both times of a certificate lie within the seconds that the clock can name. -/
def IssuedCertificate.IsNameable (issued : IssuedCertificate) : Prop :=
  issued.expirationTime ≤ 9223372036854775807 ∧ issued.refreshTime ≤ 9223372036854775807

/-- The certificate with its times as moments. -/
def IssuedCertificate.timed (issued : IssuedCertificate) : Certificate where
  content := Bytes.ofText issued.certificate
  validUntil := Instant.epoch.after (.ofSeconds issued.expirationTime)
  refreshTime := Instant.epoch.after (.ofSeconds issued.refreshTime)

theorem moment_of_seconds {count : Nat} (nameable : count ≤ 9223372036854775807) :
    Instant.ofEpochSeconds? count = some (Instant.epoch.after (.ofSeconds count)) := by
  simp [Instant.ofEpochSeconds?, nameable, Instant.epoch, Instant.after, Span.ofSeconds]

theorem IssuedCertificate.IsNameable.certificate {issued : IssuedCertificate}
    (nameable : issued.IsNameable) : issued.certificate? = some issued.timed := by
  simp [IssuedCertificate.certificate?, moment_of_seconds nameable.1,
    moment_of_seconds nameable.2, IssuedCertificate.timed]

theorem certificate_out_of_range {issued : IssuedCertificate} (beyond : ¬ issued.IsNameable) :
    issued.certificate? = none := by
  unfold IssuedCertificate.IsNameable at beyond
  by_cases named : issued.expirationTime ≤ 9223372036854775807
  · have late : ¬ issued.refreshTime ≤ 9223372036854775807 := fun soon => beyond ⟨named, soon⟩
    simp [IssuedCertificate.certificate?, Instant.ofEpochSeconds?, late]
  · simp [IssuedCertificate.certificate?, Instant.ofEpochSeconds?, named]

theorem conclude_nameable {issued : IssuedCertificate}
    (carries : Carries certificateShape.read delivery issued) (nameable : issued.IsNameable) :
    concludeCertificate call delivery = .ok issued.timed := by
  simp only [concludeCertificate, carries.read_answer, nameable.certificate]

theorem conclude_out_of_range {issued : IssuedCertificate}
    (carries : Carries certificateShape.read delivery issued) (beyond : ¬ issued.IsNameable) :
    concludeCertificate call delivery = .error .timeOutOfRange := by
  simp only [concludeCertificate, carries.read_answer, certificate_out_of_range beyond]

/-- The times of a certificate that is read are numbers of 64 bits. -/
theorem issued_numbers : Yields certificateShape.read fun issued =>
    issued.expirationTime ≤ Number.natLimit ∧ issued.refreshTime ≤ Number.natLimit := by
  let Held (draft : CertificateDraft) : Prop :=
    (∀ time, draft.expirationTime = some time → time ≤ Number.natLimit) ∧
      ∀ time, draft.refreshTime = some time → time ≤ Number.natLimit
  have blank : Held certificateShape.blank := ⟨nofun, nofun⟩
  refine .record blank ?_ ?_
  · intro field member draft held
    simp only [certificateShape, List.mem_cons, List.not_mem_nil, or_false] at member
    rcases member with rfl | rfl | rfl
    · exact .behind fun _ => .pure held
    · refine .bind (.natural Number.natLimit "u64") fun time small => .pure ⟨?_, held.2⟩
      rintro _ ⟨⟩
      exact small
    · refine .bind (.natural Number.natLimit "u64") fun time small => .pure ⟨held.1, ?_⟩
      rintro _ ⟨⟩
      exact small
  · intro draft issued held finished
    obtain ⟨certificate, expirationTime, refreshTime⟩ := draft
    cases certificate <;> cases expirationTime <;> cases refreshTime <;> cases finished
    exact ⟨held.1 _ rfl, held.2 _ rfl⟩

/-- The body of an answer with a certificate. -/
def IssuedCertificate.body (issued : IssuedCertificate) : Bytes :=
  Bytes.ofText (Tree.pretty (.object
    [("Certificate", .text issued.certificate), ("ExpirationTime", .number issued.expirationTime),
     ("RefreshTime", .number issued.refreshTime)]))

/-- Every certificate with times of 64 bits can be in an answer. -/
theorem IssuedCertificate.read_body (issued : IssuedCertificate)
    (expiration : issued.expirationTime ≤ Number.natLimit)
    (refresh : issued.refreshTime ≤ Number.natLimit) :
    readAll certificateShape.read issued.body = .ok issued := by
  obtain ⟨certificate, expirationTime, refreshTime⟩ := issued
  have filled : Fills certificateShape certificateShape.blank
      [("Certificate", .text certificate), ("ExpirationTime", .number expirationTime),
        ("RefreshTime", .number refreshTime)]
      ⟨some certificate, some expirationTime, some refreshTime⟩ :=
    .cons _ rfl rfl (fun _ => (understands_string certificate).map
        fun certificate => (⟨some certificate, none, none⟩ : CertificateDraft))
      (.cons _ rfl rfl
        (fun _ => (understands_natural _ _ expirationTime expiration (Nat.le_refl _)).map
          fun expiration => (⟨some certificate, some expiration, none⟩ : CertificateDraft))
        (.single _ rfl rfl
          fun _ => (understands_natural _ _ refreshTime refresh (Nat.le_refl _)).map
            fun refresh =>
              (⟨some certificate, some expirationTime, some refresh⟩ : CertificateDraft)))
  rw [IssuedCertificate.body, Tree.pretty, Bytes.of_text_chars]
  exact read_all_written (understands_record filled (List.cons_ne_nil _ _) rfl 0)

/-! The two calls. -/

variable {issuer : HttpIssuer} {transport : Transport} {session : Session} {publicKey : Bytes}
  {features : Option Features}

/-- A call that starts a session is sent, and its answer carries what the session is
named by. -/
def Signs (issuer : HttpIssuer) (transport : Transport) (session : Session) (named : ApiSession) :
    Prop :=
  ∃ call, issuer.prepareSession session = .ok call ∧
    Carries sessionShape.read (transport call) named

/-- A request for a certificate is sent, and its answer carries one. -/
def Obtains (issuer : HttpIssuer) (transport : Transport) (publicKey : Bytes)
    (features : Option Features) (issued : IssuedCertificate) : Prop :=
  ∃ inUse call, issuer.session = some inUse ∧
    issuer.prepareCertificate inUse publicKey features = .ok call ∧
      Carries certificateShape.read (transport call) issued

theorem Obtains.unique {issued other : IssuedCertificate}
    (first : issuer.Obtains transport publicKey features issued)
    (second : issuer.Obtains transport publicKey features other) : issued = other := by
  obtain ⟨inUse, call, found, prepared, carries⟩ := first
  obtain ⟨again, same, foundAgain, preparedAgain, carriesAgain⟩ := second
  obtain rfl : inUse = again := Option.some.inj (found.symm.trans foundAgain)
  obtain rfl : call = same := Except.ok.inj (prepared.symm.trans preparedAgain)
  exact carries.unique carriesAgain

/-- What a call that starts a session comes to, and the issuer behind it. -/
inductive SessionOutcome (issuer : HttpIssuer) (transport : Transport) (session : Session) :
    Except RemoteFailure Unit × HttpIssuer → Prop
  | started (named : ApiSession) (signs : issuer.Signs transport session named) :
      SessionOutcome issuer transport session (.ok (), { issuer with session := some named })
  | failed (failure : RemoteFailure) (unsigned : ∀ named, ¬ issuer.Signs transport session named) :
      SessionOutcome issuer transport session (.error failure, issuer)

/-- What a request for a certificate comes to. -/
inductive CertificateOutcome (issuer : HttpIssuer) (transport : Transport) (publicKey : Bytes)
    (features : Option Features) : Except CertificateFault Certificate → Prop
  | given (issued : IssuedCertificate)
      (obtains : issuer.Obtains transport publicKey features issued)
      (nameable : issued.IsNameable) :
      CertificateOutcome issuer transport publicKey features (.ok issued.timed)
  | failed (failure : RemoteFailure)
      (nothing : ∀ issued, ¬ issuer.Obtains transport publicKey features issued) :
      CertificateOutcome issuer transport publicKey features (.error (.failure failure))
  /-- Neither a certificate nor a failure comes of it. -/
  | broken (issued : IssuedCertificate)
      (obtains : issuer.Obtains transport publicKey features issued)
      (beyond : ¬ issued.IsNameable) :
      CertificateOutcome issuer transport publicKey features (.error .timeOutOfRange)

theorem start_session_outcome (issuer : HttpIssuer) (transport : Transport) (session : Session) :
    SessionOutcome issuer transport session (issuer.startSession transport session) := by
  cases prepared : issuer.prepareSession session with
  | error failure =>
      have result : issuer.startSession transport session = (.error failure, issuer) := by
        simp only [startSession, prepared]
      rw [result]
      refine .failed failure ?_
      rintro named ⟨call, sent, -⟩
      rw [prepared] at sent
      cases sent
  | ok call =>
      have sends : issuer.startSession transport session =
          issuer.concludeSession call (transport call) := by
        simp only [startSession, prepared]
      rw [sends]
      cases answer : readAnswer sessionShape.read call (transport call) with
      | ok named =>
          simp only [concludeSession, answer]
          exact .started named ⟨call, prepared, carries_of_read answer⟩
      | error failure =>
          simp only [concludeSession, answer]
          refine .failed failure ?_
          rintro named ⟨sent, again, carries⟩
          obtain rfl : call = sent := Except.ok.inj (prepared.symm.trans again)
          rw [carries.read_answer] at answer
          cases answer

/-- A request for a certificate fails before it is sent, or it comes to what is made of the
answer. -/
theorem refresh_sent (issuer : HttpIssuer) (transport : Transport) (publicKey : Bytes)
    (features : Option Features) :
    (∃ failure, issuer.refreshCertificate transport publicKey features =
        .error (.failure failure) ∧
        ∀ issued, ¬ issuer.Obtains transport publicKey features issued) ∨
      ∃ call, issuer.refreshCertificate transport publicKey features =
          concludeCertificate call (transport call) ∧
        ∀ issued, issuer.Obtains transport publicKey features issued ↔
          Carries certificateShape.read (transport call) issued := by
  unfold refreshCertificate
  cases found : issuer.session with
  | none =>
      refine .inl ⟨notSignedIn, rfl, ?_⟩
      rintro issued ⟨inUse, call, same, -⟩
      rw [found] at same
      cases same
  | some inUse =>
      cases prepared : issuer.prepareCertificate inUse publicKey features with
      | error failure =>
          refine .inl ⟨failure, by simp only [prepared], ?_⟩
          rintro issued ⟨again, call, same, sent, -⟩
          obtain rfl : inUse = again := Option.some.inj (found.symm.trans same)
          rw [prepared] at sent
          cases sent
      | ok call =>
          refine .inr ⟨call, by simp only [prepared], fun issued => ?_⟩
          constructor
          · rintro ⟨again, sent, same, preparedAgain, carries⟩
            obtain rfl : inUse = again := Option.some.inj (found.symm.trans same)
            obtain rfl : call = sent := Except.ok.inj (prepared.symm.trans preparedAgain)
            exact carries
          · exact fun carries => ⟨inUse, call, found, prepared, carries⟩

theorem refresh_outcome (issuer : HttpIssuer) (transport : Transport) (publicKey : Bytes)
    (features : Option Features) :
    CertificateOutcome issuer transport publicKey features
      (issuer.refreshCertificate transport publicKey features) := by
  rcases issuer.refresh_sent transport publicKey features with
    ⟨failure, result, nothing⟩ | ⟨call, result, obtains⟩
  · rw [result]
    exact .failed failure nothing
  · rw [result]
    cases answer : readAnswer certificateShape.read call (transport call) with
    | error failure =>
        simp only [concludeCertificate, answer]
        refine .failed failure fun issued there => ?_
        rw [((obtains issued).mp there).read_answer] at answer
        cases answer
    | ok issued =>
        have carries := carries_of_read answer
        by_cases nameable : issued.IsNameable
        · rw [conclude_nameable carries nameable]
          exact .given issued ((obtains issued).mpr carries) nameable
        · rw [conclude_out_of_range carries nameable]
          exact .broken issued ((obtains issued).mpr carries) nameable

/-- What the calls to an issuer come to, whatever is answered. -/
structure AnswersCalls (issuer : HttpIssuer) (transport : Transport) : Prop where
  sessions : ∀ session,
    SessionOutcome issuer transport session (issuer.startSession transport session)
  certificates : ∀ publicKey features, CertificateOutcome issuer transport publicKey features
    (issuer.refreshCertificate transport publicKey features)
  /-- A request breaks off exactly when an answer of success carries a certificate with a
  time that the clock cannot name. -/
  broken : ∀ publicKey features,
    issuer.refreshCertificate transport publicKey features = .error .timeOutOfRange ↔
      ∃ issued, issuer.Obtains transport publicKey features issued ∧ ¬ issued.IsNameable
  /-- The times in an answer are numbers of 64 bits, and there is an answer for any two of
  them: with it the request breaks off or gives just these times. -/
  times : ∀ call status headers issued, isSuccess status = true →
    ((∃ bytes, readAll certificateShape.read bytes = .ok issued) ↔
      issued.expirationTime ≤ Number.natLimit ∧ issued.refreshTime ≤ Number.natLimit) ∧
    (issued.expirationTime ≤ Number.natLimit → issued.refreshTime ≤ Number.natLimit →
      (issued.IsNameable → concludeCertificate call
        (.answered status headers (some issued.body)) = .ok issued.timed) ∧
      (¬ issued.IsNameable → concludeCertificate call
        (.answered status headers (some issued.body)) = .error .timeOutOfRange))

theorem broken_iff (issuer : HttpIssuer) (transport : Transport) (publicKey : Bytes)
    (features : Option Features) :
    issuer.refreshCertificate transport publicKey features = .error .timeOutOfRange ↔
      ∃ issued, issuer.Obtains transport publicKey features issued ∧ ¬ issued.IsNameable := by
  have outcome := refresh_outcome issuer transport publicKey features
  constructor
  · intro broke
    rw [broke] at outcome
    cases outcome with
    | broken issued obtains beyond => exact ⟨issued, obtains, beyond⟩
  · rintro ⟨issued, obtains, beyond⟩
    generalize issuer.refreshCertificate transport publicKey features = result at outcome
    cases outcome with
    | given other same nameable => exact absurd (obtains.unique same ▸ nameable) beyond
    | failed failure nothing => exact absurd obtains (nothing issued)
    | broken other same late => rfl

theorem only_times_out_of_range_break_calls (issuer : HttpIssuer) (transport : Transport) :
    issuer.AnswersCalls transport where
  sessions := start_session_outcome issuer transport
  certificates := refresh_outcome issuer transport
  broken := broken_iff issuer transport
  times call status headers issued succeeded := by
    constructor
    · constructor
      · rintro ⟨bytes, read⟩
        exact issued_numbers.read_all read
      · rintro ⟨expiration, refresh⟩
        exact ⟨issued.body, issued.read_body expiration refresh⟩
    · intro expiration refresh
      have carries : Carries certificateShape.read
          (.answered status headers (some issued.body)) issued :=
        .body succeeded (issued.read_body expiration refresh)
      exact ⟨conclude_nameable carries, conclude_out_of_range carries⟩

/-- A server that lets everybody in and gives certificates until the last second that 64
bits can count. -/
def everlasting : Transport
  | ⟨"GET", _, _, _⟩ => .answered 200 [] (some (Bytes.ofText
      "\x7b\"UID\":\"user\",\"AccessToken\":\"token\"\x7d"))
  | _ => .answered 200 []
      (some (IssuedCertificate.body ⟨"certificate", 18446744073709551615, 1800003600⟩))

/-- An issuer as it is before the first session. -/
def nearby : HttpIssuer := new "http://127.0.0.1:8080" none none

/-- The session is started, and the request for a certificate breaks off. -/
theorem everlasting_certificate_breaks_call :
    nearby.startSession everlasting ⟨"first", none⟩ =
        (.ok (), { nearby with session := some ⟨"user", "token"⟩ }) ∧
      { nearby with session := some ⟨"user", "token"⟩ }.refreshCertificate everlasting
        [1, 2, 3] none = .error .timeOutOfRange := by
  constructor
  · decide +kernel
  · decide +kernel

end HttpIssuer

end CertRenewal
