import CertRenewal.Api.Router
import CertRenewal.Refresh.Dispatch

/-!
Rehearsals: a host gives commands one after another, some of which are answered
later under a name that it chose. After each command everything happens that can
happen without time passing, and then the host looks at the program.
-/

namespace CertRenewal.Rehearsal

/-- What a call that goes on by itself waits for. -/
inductive Expectation
  | request (request : RequestId)
  | direct (task : TaskId)
  | fork (task : TaskId)
  | start (task : TaskId)
  | stop (task : TaskId)
  | close (task : TaskId)
  | hold (task : TaskId)
  | response (response : Http.Response)
  | refreshResponse (request : RequestId)
  | sessionResponse (task : TaskId)
  | lifecycleResponse (task : TaskId)

inductive Report
  | outcome (outcome : Outcome)
  | state (state : Lifecycle)
  | closed
  | held
  | response (response : Http.Response)

/-- A program in rehearsal, and the calls that were not answered yet. -/
structure Scene where
  system : System
  pending : List (String × Expectation)
  /-- The tasks that run operations outside of the queue, by name. -/
  operations : List (String × TaskId)
  /-- The tasks that took the token for the host, by name. -/
  holders : List (String × TaskId)
  authToken : Option String

inductive Command
  | nothing
  | advance (millis : Nat)
  | jump (millis : Nat)
  | awaitIdle (millis : Nat)
  /-- Something that happens and is not answered. -/
  | event (event : Event)
  | storeCertificate (certificate : Certificate) (features : Option Features)
  | storeExpired (features : Option Features)
  | storeKeys (keys : KeyPair)
  | readCertificate
  | readKeys
  | readFeatures
  | deleteKeys
  | deleteCertificate
  | writeFile (path : Path) (content : Bytes)
  | showFile (path : Path)
  | fire
  | lastPeriod
  | lastFeatures
  | intervals
  /-- Requests that are made at once, each under a name of its own. -/
  | enqueue (names : List String) (request : Request) (isForgotten : Bool)
  | start (name : String)
  | stop (name : String)
  | newSession (name : String) (session : Session)
  | http (name : String) (message : Http.Message)
  | close (name : String)
  | runOperation (name : String) (request : Request) (isCancelled : Bool)
  | cancel (name : String)
  | hold (name : String) (timeout : Nat)
  | tryHold (name : String)
  | release (name : String)
  | fork (name : String) (session : Session)
  /-- Ends the schedule, and forgets it or not. -/
  | disarm (forgets : Bool)

/-- What the host gets back at once. -/
inductive Result
  | nothing
  | done (result : Except String Unit)
  | flag (value : Bool)
  | count (value : Nat)
  | certificate (value : Option Certificate)
  | keys (value : Option KeyPair)
  | features (value : Option Features)
  | text (value : Option String)
  | millis (value : Option Nat)
  | intervals (value : Intervals)

namespace Scene

def withSystem (scene : Scene) (system : System) : Scene := { scene with system }

def happen (scene : Scene) (event : Event) : Scene := scene.withSystem (scene.system.apply event)

def expect (scene : Scene) (name : String) (expectation : Expectation) : Scene :=
  { scene with pending := scene.pending ++ [(name, expectation)] }

def begin (scene : Scene) (name : String) (event : Event)
    (expectation : TaskId → Expectation) : Scene :=
  (scene.happen event).expect name (expectation scene.system.tasks.length)

/-- Submits a request under a name, or forgets it at once. -/
def submit (scene : Scene) (name : Option String) (request : Request) : Scene :=
  let submitted := scene.happen (.submit request true)
  match name with
  | some name => submitted.expect name (.request scene.system.submitted)
  | none => submitted.happen (.forget scene.system.submitted)

def send (scene : Scene) (name : String) (message : Http.Message) : Scene :=
  match Api.receive scene.system scene.authToken message with
  | .answered response => scene.expect name (.response response)
  | .refresh request =>
    (scene.happen (.submit request true)).expect name (.refreshResponse scene.system.submitted)
  | .session session => scene.begin name (.newSession session) .sessionResponse
  | .stop => scene.begin name .stop .lifecycleResponse
  | .start => scene.begin name .start .lifecycleResponse

def expiredCertificate (now : Instant) : Certificate :=
  { content := Bytes.ofText "old-certificate"
    validUntil := now.before (Span.ofSeconds 60)
    refreshTime := now.before (Span.ofSeconds 600) }

/-- Stores a certificate for the host, with the result. -/
def store (scene : Scene) (certificate : Certificate) (features : Option Features) :
    Result × Scene :=
  (.done (scene.system.storeCertificate certificate features).1,
    scene.happen (.storeCertificate certificate features))

def isIdle (system : System) : Bool := system.issuer.inFlight = 0

def changeFiles (scene : Scene) (change : FileTree → Except FileFault FileTree) : Scene :=
  match scene.system.store with
  | .memory _ => scene
  | .directory held =>
    match change held.tree with
    | .ok tree => scene.withSystem { scene.system with store := .directory { held with tree } }
    | .error _ => scene

/-- The content of a file of a store that is kept on disk, when it is text. -/
def fileText (scene : Scene) (path : Path) : Option String :=
  match scene.system.store with
  | .memory _ => none
  | .directory held => (held.tree.read (held.directory ++ path)).toOption.bind Bytes.text?

/-- What a command does by itself, before anything else moves. -/
def perform (scene : Scene) : Command → Result × Scene
  | .nothing => (.nothing, scene)
  | .advance millis => (.nothing, scene.withSystem (Dispatch.advance scene.system millis))
  | .jump millis => (.nothing, scene.withSystem (Dispatch.jump scene.system millis))
  | .awaitIdle millis =>
    let (held, system) := Dispatch.await isIdle millis scene.system
    (.flag held, scene.withSystem system)
  | .event event => (.nothing, scene.happen event)
  | .storeCertificate certificate features => scene.store certificate features
  | .storeExpired features => scene.store (expiredCertificate scene.system.now) features
  | .storeKeys keys =>
    (.done ((scene.system.store.storeKeys keys).1.mapError FileFault.message),
      scene.happen (.storeKeys keys))
  | .readCertificate => (.certificate scene.system.store.certificate, scene)
  | .readKeys => (.keys scene.system.store.keys.1, scene.happen .readKeys)
  | .readFeatures => (.features scene.system.store.features, scene)
  | .deleteKeys => (.done (.ok ()), scene.happen .deleteKeys)
  | .deleteCertificate => (.done (.ok ()), scene.happen .deleteCertificate)
  | .writeFile path content => (.nothing, scene.changeFiles (·.write path content))
  | .showFile path => (.text (scene.fileText path), scene)
  | .fire => (.count scene.system.liveSchedules, scene.happen .fire)
  | .lastPeriod => (.millis (scene.system.schedules.getLast?.map (·.period)), scene)
  | .lastFeatures => (.features scene.system.issuer.lastFeatures, scene)
  | .intervals => (.intervals scene.system.intervals, scene)
  | .enqueue names request isForgotten =>
    (.nothing, names.foldl (fun scene name =>
      scene.submit (if isForgotten then none else some name) request) scene)
  | .start name => (.nothing, scene.begin name .start .start)
  | .stop name => (.nothing, scene.begin name .stop .stop)
  | .newSession name session => (.nothing, scene.begin name (.newSession session) .fork)
  | .http name message => (.nothing, scene.send name message)
  | .close name => (.nothing, scene.begin name .closeQueue .close)
  | .runOperation name request isCancelled =>
    let begun := scene.begin name (.direct request isCancelled) .direct
    (.flag true,
      { begun with operations := begun.operations ++ [(name, scene.system.tasks.length)] })
  | .cancel name =>
    (.nothing, match scene.operations.lookup name with
      | some task => scene.happen (.cancelDirect task)
      | none => scene)
  | .hold name timeout =>
    let begun := scene.begin name (.hold timeout) .hold
    (.nothing, { begun with holders := (name, scene.system.tasks.length) :: begun.holders })
  | .tryHold name =>
    if scene.system.token.isFree then
      let taken := scene.happen .tryHold
      (.flag true, { taken with holders := (name, scene.system.tasks.length) :: taken.holders })
    else (.flag false, scene)
  | .release name =>
    match scene.holders.lookup name with
    | some task =>
      match scene.system.tasks[task]? with
      | some (.holder .holding) => (.flag true, scene.happen (.release task))
      | _ => (.flag false, scene)
    | none => (.flag false, scene)
  | .fork name session => (.nothing, scene.begin name (.fork session) .fork)
  | .disarm true => (.nothing, scene.happen .disarm)
  | .disarm false =>
    if scene.system.armed.isSome then (.flag true, scene.happen .cancelSchedule)
    else (.nothing, scene)

def taskOutcome? (system : System) (task : TaskId) : Option Outcome :=
  match system.tasks[task]? with
  | some (.direct operation _) =>
    match operation.stage with
    | .ended outcome => some outcome
    | _ => none
  | some (.fork _ (.ended outcome)) => some outcome
  | _ => none

/-- The state in which a call to start or stop has ended. -/
def endState? (system : System) (task : TaskId) : Option Lifecycle :=
  match system.tasks[task]? with
  | some (.start (.ended state)) => some state
  | some (.stop (.ended state)) => some state
  | _ => none

/-- The answer to a call, once there is one. -/
def report? (system : System) : Expectation → Option Report
  | .request request => (system.heard? request).map .outcome
  | .direct task => (taskOutcome? system task).map .outcome
  | .fork task => (taskOutcome? system task).map .outcome
  | .start task => (endState? system task).map .state
  | .stop task => (endState? system task).map .state
  | .close task =>
    match system.tasks[task]? with
    | some (.close .ended) => some .closed
    | _ => none
  | .hold task =>
    match system.tasks[task]? with
    | some (.holder .timedOut) => some (.outcome (.error .timedOut))
    | some (.holder .holding) => some .held
    | some (.holder .released) => some .held
    | _ => none
  | .response response => some (.response response)
  | .refreshResponse request =>
    (system.heard? request).map fun outcome =>
      .response (Api.refreshResponse system.intervals.defaultBackoff outcome)
  | .sessionResponse task =>
    (taskOutcome? system task).map fun outcome =>
      .response (Api.sessionResponse system.intervals.defaultBackoff outcome)
  | .lifecycleResponse task =>
    (endState? system task).map fun state => .response (Api.lifecycleResponse state)

/-- The answers that have come, and the scene that waits for the others. -/
def collect (scene : Scene) : List (String × Report) × Scene :=
  (scene.pending.filterMap fun (name, expectation) =>
      (report? scene.system expectation).map fun report => (name, report),
    { scene with pending := scene.pending.filter fun entry =>
        (report? scene.system entry.2).isNone })

structure Look where
  result : Result
  done : List (String × Report)
  /-- The issuer calls that were begun meanwhile, in order. -/
  calls : List IssuerCall
  scene : Scene

/-- Gives a command, lets everything happen that can, and looks. -/
def turn (scene : Scene) (command : Command) : Look :=
  let callsBefore := scene.system.issuer.calls.length
  let (result, performed) := scene.perform command
  let settled := performed.withSystem (Dispatch.settle performed.system)
  let (done, waiting) := settled.collect
  let calls := waiting.system.issuer.calls
  { result, done, calls := (calls.take (calls.length - callsBefore)).reverse, scene := waiting }

/-- The names of the calls that were not answered yet, in order. -/
def pendingNames (scene : Scene) : List String :=
  (scene.pending.map (·.1)).mergeSort fun first second => first ≤ second

/-- The states of the operations outside of the queue, by name. -/
def operationStates (scene : Scene) : List (String × OperationState) :=
  scene.operations.filterMap fun (name, task) =>
    match scene.system.tasks[task]? with
    | some (.direct operation _) => some (name, operation.state)
    | _ => none

end Scene

end CertRenewal.Rehearsal
