import CertRenewal.Rehearsal.Scene
import CertRenewal.Rehearsal.Setup

/-!
What the control interface lets a message do. Without the token a message is told so,
whatever it asks for and whatever state the program is in, and nothing happens; with it,
or where none is needed, only four of the paths make anything happen, and only when the
method is theirs and the body is accepted.
-/

namespace CertRenewal

open Http

namespace Bearer

theorem gathered_bits_zero (pairs : List (UInt8 × UInt8)) (bits : UInt8) :
    pairs.foldl (fun bits pair => bits ||| (pair.1 ^^^ pair.2)) bits = 0 ↔
      bits = 0 ∧ ∀ pair ∈ pairs, pair.1 = pair.2 := by
  induction pairs generalizing bits with
  | nil => simp
  | cons pair pairs induction =>
      rw [List.foldl_cons, induction, UInt8.or_eq_zero_iff, UInt8.xor_eq_zero_iff,
        List.forall_mem_cons, and_assoc]

theorem same_bytes_iff (first second : Bytes) : sameBytes first second = true ↔ first = second := by
  unfold sameBytes difference
  rw [Bool.and_eq_true, decide_eq_true_iff, decide_eq_true_iff, gathered_bits_zero]
  constructor
  · intro alike
    obtain ⟨length, -, pairs⟩ := alike
    apply List.ext_getElem length
    intro place here there
    have bound : place < (first.zip second).length := by
      rw [List.length_zip]
      exact Nat.lt_min.mpr ⟨here, there⟩
    have pair := pairs (first.zip second)[place] (List.getElem_mem bound)
    rw [List.getElem_zip] at pair
    exact pair
  · intro same
    subst same
    refine ⟨rfl, rfl, ?_⟩
    intro pair member
    obtain ⟨place, bound, found⟩ := List.mem_iff_getElem.mp member
    rw [List.getElem_zip] at found
    rw [← found]

theorem presented_iff (value rest : Bytes) :
    presented? value = some rest ↔ value = scheme ++ rest := by
  unfold presented?
  constructor
  · intro presented
    split at presented
    · rename_i begins
      have whole := List.take_append_drop scheme.length value
      rw [begins, Option.some.inj presented] at whole
      exact whole.symm
    · cases presented
  · intro same
    subst same
    rw [List.take_left, if_pos rfl, List.drop_left]

/-- Whether the value that is meant for it shows the token. -/
def Shows (headers : List Header) (token : String) : Prop :=
  Header.first? headers "authorization" = some (scheme ++ Bytes.ofText token)

/-- A token that is shown is accepted when the value can be read as text. -/
theorem allows_iff (headers : List Header) (token : String) :
    allows headers (some token) = true ↔
      Shows headers token ∧ (scheme ++ Bytes.ofText token).all Header.isVisible = true := by
  have accepted : allows headers (some token) = true ↔
      (Header.firstVisible? headers "authorization").bind presented? =
        some (Bytes.ofText token) := by
    unfold allows
    cases (Header.firstVisible? headers "authorization").bind presented? with
    | none => simp
    | some presented => simp [same_bytes_iff]
  rw [accepted, Option.bind_eq_some_iff]
  constructor
  · intro found
    obtain ⟨value, visible, presented⟩ := found
    obtain ⟨first, seen⟩ := Option.filter_eq_some_iff.mp visible
    rw [(presented_iff value _).mp presented] at first seen
    exact ⟨first, seen⟩
  · intro shown
    refine ⟨_, Option.filter_eq_some_iff.mpr shown, (presented_iff _ _).mpr rfl⟩

end Bearer

namespace Api

/-- The methods of a path that is known, when another one was tried. -/
def otherMethods? (message : Message) : Option String :=
  (Endpoint.ofPath? message.path).bind fun endpoint =>
    if endpoint.methods.contains message.method then none
    else some (",".intercalate endpoint.methods)

/-- The answer to a message that may not be looked at. It has no body when it was asked
for the head alone. -/
def denial (message : Message) : Response where
  status := 401
  contentType := some "application/json"
  allow := otherMethods? message
  body := if message.method = "HEAD" then "" else unauthorized.body

/-- What a message asks for: something at its path, in a body that is accepted. -/
inductive Asks (message : Message) : Event → Prop
  | refresh (request : Request) (path : message.path = Endpoint.refresh.path)
      (fits : message.body.length ≤ bodyLimit)
      (read : RefreshBody.ofBytes message.body = .ok request) :
      Asks message (.submit request true)
  | session (session : Session) (value : Bytes) (path : message.path = Endpoint.session.path)
      (typed : Header.firstVisible? message.headers "content-type" = some value)
      (json : MediaType.isJson value = true) (fits : message.body.length ≤ bodyLimit)
      (read : Session.ofBytes message.body = .ok session) :
      Asks message (.newSession session)
  | stop (path : message.path = Endpoint.stop.path) : Asks message .stop
  | start (path : message.path = Endpoint.start.path) : Asks message .start

/-- What a message has to be to make something happen. -/
structure Demands (token : Option String) (message : Message) (event : Event) : Prop where
  shown : ∀ secret, token = some secret → Bearer.Shows message.headers secret
  posted : message.method = "POST"
  asks : Asks message event

/-- What happens for a message that is not answered at once. -/
def Reception.event? : Reception → Option Event
  | .answered _ => none
  | .refresh asked => some (.submit asked true)
  | .session asked => some (.newSession asked)
  | .stop => some .stop
  | .start => some .start

variable {system : System} {token : Option String} {message : Message} {event : Event}

theorem receive_whole_denied (system : System) (barred : isAuthorized token message = false) :
    receiveWhole system token message =
      .answered { unauthorized with allow := otherMethods? message } := by
  unfold receiveWhole otherMethods?
  cases Endpoint.ofPath? message.path with
  | none =>
      simp only [barred]
      rfl
  | some endpoint =>
      cases known : endpoint.methods.contains message.method with
      | true =>
          simp only [known, barred, Option.bind_some]
          rfl
      | false =>
          simp only [known, barred, Option.bind_some]
          rfl

theorem receive_denied (system : System) (guarded : message.path ≠ Endpoint.health.path)
    (denied : Bearer.allows message.headers token = false) :
    receive system token message = .answered (denial message) := by
  have barred : isAuthorized token message = false := by
    unfold isAuthorized
    rw [denied, decide_eq_false guarded]
    rfl
  unfold receive denial
  rw [receive_whole_denied system barred]
  simp only
  split <;> rfl

example (system : System) :
    receive system (some "secret") ⟨"POST", "/api/v1/stop", [], []⟩ = .answered (.json 401
      "\x7b\"error\":\x7b\"code\":\"UNAUTHORIZED\",\"message\":\"unauthorized\"\x7d\x7d") := by
  rfl

theorem endpoint_path {endpoint : Endpoint}
    (found : Endpoint.ofPath? message.path = some endpoint) :
    message.path = endpoint.path := by
  have same := List.find?_some found
  exact (of_decide_eq_true same).symm

theorem receive_refresh_asks (path : message.path = Endpoint.refresh.path)
    (happens : (receiveRefresh message.body).event? = some event) : Asks message event := by
  unfold receiveRefresh at happens
  split at happens
  · cases happens
  · rename_i fits
    split at happens
    · rename_i request read
      obtain rfl := Option.some.inj happens
      exact .refresh request path (Nat.le_of_not_lt fits) read
    · cases happens

theorem receive_session_asks (path : message.path = Endpoint.session.path)
    (happens : (receiveSession message.headers message.body).event? = some event) :
    Asks message event := by
  unfold receiveSession at happens
  split at happens
  · cases happens
  · rename_i value typed
    obtain ⟨value, json⟩ := Option.filter_eq_some_iff.mp typed
    split at happens
    · cases happens
    · rename_i fits
      split at happens
      · rename_i session read
        obtain rfl := Option.some.inj happens
        exact .session session _ path value json (Nat.le_of_not_lt fits) read
      · simp only at happens
        split at happens <;> cases happens

theorem shown_of_authorized (guarded : message.path ≠ Endpoint.health.path)
    (authorized : isAuthorized token message = true) (secret : String)
    (needed : token = some secret) : Bearer.Shows message.headers secret := by
  unfold isAuthorized at authorized
  rw [decide_eq_false guarded, Bool.false_or, needed, Bearer.allows_iff] at authorized
  exact authorized.1

theorem receive_at_demands {endpoint : Endpoint} (path : message.path = endpoint.path)
    (known : endpoint.methods.contains message.method = true)
    (authorized : isAuthorized token message = true)
    (happens : (receiveAt system endpoint message).event? = some event) :
    Demands token message event := by
  have demands (other : endpoint.path ≠ Endpoint.health.path) (writes : endpoint.isRead = false)
      (asks : Asks message event) : Demands token message event := by
    refine ⟨shown_of_authorized (path ▸ other) authorized, ?_, asks⟩
    rw [Endpoint.methods, writes] at known
    simpa using known
  cases endpoint with
  | health => cases happens
  | certificate => cases happens
  | refresh => exact demands (by decide) rfl (receive_refresh_asks path happens)
  | session => exact demands (by decide) rfl (receive_session_asks path happens)
  | stop =>
      obtain rfl := Option.some.inj happens
      exact demands (by decide) rfl (.stop path)
  | start =>
      obtain rfl := Option.some.inj happens
      exact demands (by decide) rfl (.start path)

/-- Nothing happens for a message that does not demand it. -/
theorem receive_demands (happens : (receive system token message).event? = some event) :
    Demands token message event := by
  have whole : (receiveWhole system token message).event? = some event := by
    unfold receive at happens
    split at happens
    · cases happens
    · exact happens
  unfold receiveWhole at whole
  split at whole
  · cases whole
  · rename_i endpoint found
    split at whole
    · rename_i known
      split at whole
      · rename_i authorized
        exact receive_at_demands (endpoint_path found) known authorized whole
      · cases whole
    · cases whole

end Api

namespace Rehearsal.Scene

/-- A look that has one answer more to report, and is the same apart from that. -/
def Look.reporting (look : Look) (name : String) (response : Response) : Look :=
  { look with done := look.done ++ [(name, .response response)] }

/-- What happens for a message is what it was received as, and nothing else. -/
theorem send_system (scene : Scene) (name : String) (message : Message) :
    (scene.send name message).system =
      match (Api.receive scene.system scene.authToken message).event? with
      | some event => scene.system.apply event
      | none => scene.system := by
  unfold send
  cases Api.receive scene.system scene.authToken message <;> rfl

theorem collect_response (scene : Scene) (name : String) (response : Response) :
    (scene.expect name (.response response)).collect =
      (scene.collect.1 ++ [(name, .response response)], scene.collect.2) := by
  simp [collect, expect, report?, List.filterMap_append, List.filter_append]

theorem turn_answered {scene : Scene} {message : Message} {response : Response}
    (answered : Api.receive scene.system scene.authToken message = .answered response)
    (name : String) :
    scene.turn (.http name message) = (scene.turn .nothing).reporting name response := by
  have sent : scene.send name message = scene.expect name (.response response) := by
    unfold send
    rw [answered]
  let settled := scene.withSystem (Dispatch.settle scene.system)
  have collected := collect_response settled name response
  have settles : (scene.expect name (.response response)).withSystem
      (Dispatch.settle (scene.expect name (.response response)).system) =
        settled.expect name (.response response) := rfl
  simp only [turn, perform, sent, settles, collected]
  rfl

/-- A message does nothing that it is not entitled to. Without the token it is denied in
every state alike, unless it asks for health. Whatever is answered at once leaves
everything but that answer as it would be without the message. And what is not answered
at once was demanded by a message that shows the token, posts to a path of its own and
has a body that is accepted. -/
theorem control_needs_the_token (scene : Scene) (name : String) (message : Message) :
    (∀ token, scene.authToken = some token → message.path ≠ Api.Endpoint.health.path →
        ¬Bearer.Shows message.headers token →
      (∀ system, Api.receive system scene.authToken message =
          .answered (Api.denial message)) ∧
        scene.turn (.http name message) =
          (scene.turn .nothing).reporting name (Api.denial message)) ∧
      (∀ response, Api.receive scene.system scene.authToken message = .answered response →
        (scene.send name message).system = scene.system ∧
          scene.turn (.http name message) = (scene.turn .nothing).reporting name response) ∧
      ((∃ response, Api.receive scene.system scene.authToken message = .answered response) ∨
        ∃ event, Api.Demands scene.authToken message event ∧
          (scene.send name message).system = scene.system.apply event) := by
  have sent := scene.send_system name message
  refine ⟨?_, ?_, ?_⟩
  · intro token needed guarded hidden
    have denied : Bearer.allows message.headers scene.authToken = false := by
      rw [needed, Bool.eq_false_iff]
      intro allowed
      exact hidden ((Bearer.allows_iff _ _).mp allowed).1
    have answer (system : System) := Api.receive_denied system guarded denied
    exact ⟨answer, turn_answered (answer scene.system) name⟩
  · intro response answered
    rw [answered] at sent
    exact ⟨sent, turn_answered answered name⟩
  · cases received : Api.receive scene.system scene.authToken message with
    | answered response => exact .inl ⟨response, rfl⟩
    | _ =>
        rw [received] at sent
        exact .inr ⟨_, Api.receive_demands (by rw [received]; rfl), sent⟩

/-- A program that was started, and that a token is needed for. -/
def locked : Scene where
  system := System.run (Setup.system {
    origin := .epoch, keepsFiles := false, hasKeys := true, intervals := .standard
    tickSource := .host, catalogue := .empty, guardsRefreshes := false
    guardsSessions := false, delay := 0, refreshScript := [], sessionScript := []
    storeRefusal := none }) [.start, .step 0, .step 0]
  pending := []
  operations := []
  holders := []
  authToken := some "secret"

def stopMessage : Message := ⟨"POST", "/api/v1/stop", [], []⟩

theorem locked_stays_started :
    locked.turn (.http "stop" stopMessage) =
      (locked.turn .nothing).reporting "stop" (Api.denial stopMessage) := by
  obtain ⟨denied, -, -⟩ := control_needs_the_token locked "stop" stopMessage
  exact (denied "secret" rfl (by decide) nofun).2

end Rehearsal.Scene

end CertRenewal
