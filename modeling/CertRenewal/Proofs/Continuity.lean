import CertRenewal.Proofs.Issuance

/-!
The session that an issuer is asked in, over a whole conversation with it. It is always
the last one that was granted: a start that fails and every answer to a request for a
certificate leave it as it is, and before the first one nothing is sent for a certificate.
-/

namespace CertRenewal

/-- A call asks in a session: its name and its token are in the headers, and no others. -/
structure HttpCall.Carries (call : HttpCall) (named : ApiSession) : Prop where
  uid : ∀ value, ⟨"x-pm-uid", value⟩ ∈ call.headers ↔ value = Bytes.ofText named.uid
  token : ∀ token, ⟨"authorization", Bytes.ofText ("Bearer " ++ token)⟩ ∈ call.headers ↔
    token = named.accessToken

namespace HttpIssuer

/-- What a host asks of an issuer. -/
inductive Demand
  | session (session : Session)
  | certificate (publicKey : Bytes) (features : Option Features)

/-- A demand, and what is answered to whatever is sent for it. -/
structure Talk where
  demand : Demand
  transport : Transport

/-- The issuer behind a demand. -/
def follow (issuer : HttpIssuer) (talk : Talk) : HttpIssuer :=
  match talk.demand with
  | .session session => (issuer.startSession talk.transport session).2
  | .certificate _ _ => issuer

def converse (issuer : HttpIssuer) (talks : List Talk) : HttpIssuer := talks.foldl follow issuer

variable {issuer : HttpIssuer} {talk : Talk} {talks before later : List Talk}
  {named other : ApiSession} {publicKey : Bytes} {features : Option Features} {call : HttpCall}
  {transport : Transport} {session : Session}

/-! What is sent. -/

/-- A demand is for a session, and an answer of success with a body that can be understood
grants one. -/
def Grants (issuer : HttpIssuer) (talk : Talk) (named : ApiSession) : Prop :=
  ∃ session, talk.demand = .session session ∧ issuer.Signs talk.transport session named

/-- The last session that was granted in the course of a conversation. -/
def LastGranted (issuer : HttpIssuer) (talks : List Talk) (named : ApiSession) : Prop :=
  ∃ before talk later, talks = before ++ talk :: later ∧ issuer.Grants talk named ∧
    ∀ talk ∈ later, ∀ other, ¬ issuer.Grants talk other

theorem Grants.unique (first : issuer.Grants talk named) (second : issuer.Grants talk other) :
    named = other := by
  obtain ⟨session, demanded, call, prepared, carries⟩ := first
  obtain ⟨same, demandedAgain, callAgain, preparedAgain, carriesAgain⟩ := second
  obtain rfl : session = same := Demand.session.inj (demanded.symm.trans demandedAgain)
  obtain rfl : call = callAgain := Except.ok.inj (prepared.symm.trans preparedAgain)
  exact carries.unique carriesAgain

/-- What a demand does to an issuer: it is in the session that was granted, or is what it
was. -/
inductive Follows (issuer : HttpIssuer) (talk : Talk) : HttpIssuer → Prop
  | granted (named : ApiSession) (grants : issuer.Grants talk named) :
      Follows issuer talk { issuer with session := some named }
  | kept (nothing : ∀ named, ¬ issuer.Grants talk named) : Follows issuer talk issuer

theorem follow_follows (issuer : HttpIssuer) (talk : Talk) :
    issuer.Follows talk (issuer.follow talk) := by
  obtain ⟨demand, transport⟩ := talk
  cases demand with
  | certificate publicKey features =>
      refine .kept ?_
      rintro named ⟨session, other, -⟩
      cases other
  | session session =>
      have outcome := issuer.start_session_outcome transport session
      show issuer.Follows _ (issuer.startSession transport session).2
      generalize issuer.startSession transport session = result at outcome ⊢
      cases outcome with
      | started named signs => exact .granted named ⟨session, rfl, signs⟩
      | failed failure unsigned =>
          refine .kept ?_
          rintro named ⟨same, demanded, signs⟩
          cases demanded
          exact unsigned named signs

/-- What is left of an issuer by a conversation. -/
inductive Stands (issuer : HttpIssuer) (talks : List Talk) : HttpIssuer → Prop
  | granted (named : ApiSession) (last : issuer.LastGranted talks named) :
      Stands issuer talks { issuer with session := some named }
  | untouched (nothing : ∀ talk ∈ talks, ∀ named, ¬ issuer.Grants talk named) :
      Stands issuer talks issuer

theorem LastGranted.append (last : issuer.LastGranted talks named)
    (nothing : ∀ other, ¬ issuer.Grants talk other) :
    issuer.LastGranted (talks ++ [talk]) named := by
  obtain ⟨before, granting, later, rfl, grants, quiet⟩ := last
  refine ⟨before, granting, later ++ [talk], by simp, grants, fun next member => ?_⟩
  rcases List.mem_append.mp member with earlier | itself
  · exact quiet next earlier
  · rw [List.mem_singleton.mp itself]
    exact nothing

/-- Whether a session is granted does not depend on the one in use. -/
theorem Stands.step {state after : HttpIssuer} (stands : issuer.Stands talks state)
    (follows : state.Follows talk after) : issuer.Stands (talks ++ [talk]) after := by
  have granted (named : ApiSession) (grants : issuer.Grants talk named) :
      issuer.LastGranted (talks ++ [talk]) named := ⟨talks, talk, [], rfl, grants, nofun⟩
  cases stands with
  | granted named last =>
      cases follows with
      | granted other grants => exact .granted other (granted other grants)
      | kept nothing => exact .granted named (last.append nothing)
  | untouched quiet =>
      cases follows with
      | granted named grants => exact .granted named (granted named grants)
      | kept nothing =>
          refine .untouched fun next member => ?_
          rcases List.mem_append.mp member with earlier | itself
          · exact quiet next earlier
          · rw [List.mem_singleton.mp itself]
            exact nothing

theorem Stands.run {state : HttpIssuer} (stands : issuer.Stands before state)
    (talks : List Talk) : issuer.Stands (before ++ talks) (state.converse talks) := by
  induction talks generalizing before state with
  | nil =>
      rw [List.append_nil]
      exact stands
  | cons talk talks induction =>
      have further := induction (stands.step (follow_follows state talk))
      rw [List.append_assoc] at further
      exact further

theorem started_iff : (issuer.startSession transport session).1 = .ok () ↔
    ∃ named, issuer.Signs transport session named := by
  have outcome := issuer.start_session_outcome transport session
  generalize issuer.startSession transport session = result at outcome
  cases outcome with
  | started named signs => exact ⟨fun _ => ⟨named, signs⟩, fun _ => rfl⟩
  | failed failure unsigned => exact ⟨nofun, fun ⟨named, signs⟩ => absurd signs (unsigned named)⟩

theorem Stands.outside {state : HttpIssuer} (stands : issuer.Stands talks state)
    (nothing : ∀ talk ∈ talks, ∀ named, ¬ issuer.Grants talk named) : state = issuer := by
  cases stands with
  | granted named last =>
      obtain ⟨before, talk, later, rfl, grants, -⟩ := last
      exact absurd grants (nothing talk (List.mem_append_right _ List.mem_cons_self) named)
  | untouched nothing => rfl

end HttpIssuer

end CertRenewal
