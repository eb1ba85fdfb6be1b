import CertRenewal.Proofs.Flow
import CertRenewal.Proofs.Line
import Mathlib.Logic.Function.Basic

/-!
The calls that start and stop the program. They take the control token in turn, and
a call to stop keeps it until the lane that it shut is drained. So as long as the
host leaves the queue and the schedule to these calls, at most one lane is at work:
the open one, or the one that a call to stop waits for.
-/

namespace CertRenewal

/-- Where a call that starts or stops the program stands, if a task is one. -/
inductive Call
  | other
  | start (stage : StartStage)
  | stop (stage : StopStage)
  | close
deriving DecidableEq, Repr

def Call.stake : Call → Stake
  | start .waiting => .standing
  | start .opening => .holding
  | stop .waiting => .standing
  | stop .disarming => .holding
  | stop (.draining _) => .holding
  | _ => .idle

def Task.call : Task → Call
  | .start stage => .start stage
  | .stop stage => .stop stage
  | .close _ => .close
  | _ => .other

inductive Phase
  | serving
  | shut
  | drained
deriving DecidableEq, Repr

def Lane.phase (lane : Lane) : Phase :=
  if lane.isDrained then .drained else if lane.isShut then .shut else .serving

theorem Lane.drained_of_phase {lane : Lane} (phase : lane.phase = .drained) :
    lane.isDrained = true := by
  unfold Lane.phase at phase
  split at phase
  · assumption
  · split at phase <;> cases phase

/-- What calls to start and stop look at. -/
structure Helm where
  control : Token
  isArmed : Bool
  openLane : Option LaneId
  lanes : List Phase
  call : TaskId → Call

namespace Helm

/-- What an event does to it, as long as the host leaves the queue and the schedule
alone. -/
inductive Step (helm : Helm) : Helm → Prop
  | rest : Step helm helm
  | begin (task : TaskId) (call : Call) (absent : helm.call task = .other)
      (fresh : call = .start .asking ∨ call = .stop .asking) :
      Step helm { helm with call := Function.update helm.call task call }
  | move (task : TaskId) (control : Token) (after : Call)
      (moves : TokenMove task helm.control (helm.call task).stake control after.stake)
      (undrained : ∀ lane, helm.call task ≠ .stop (.draining lane))
      (going : ∀ lane, after ≠ .stop (.draining lane)) (lasting : after ≠ .close)
      (returns : ∀ state, after = .stop (.ended state) →
        helm.call task = .stop .disarming ∧ helm.isArmed = false) :
      Step helm { helm with control := control, call := Function.update helm.call task after }
  | opened (task : TaskId) (found : helm.call task = .start .opening)
      (isClosed : helm.openLane = none) (state : Lifecycle) :
      Step helm
        { control := helm.control.release task
          isArmed := true
          openLane := some helm.lanes.length
          lanes := helm.lanes ++ [.serving]
          call := Function.update helm.call task (.start (.ended state)) }
  | shut (task : TaskId) (lane : LaneId) (found : helm.call task = .stop .disarming)
      (isOpen : helm.openLane = some lane) :
      Step helm { helm with
        isArmed := false
        openLane := none
        lanes := helm.lanes.set lane .shut
        call := Function.update helm.call task (.stop (.draining lane)) }
  | finish (task : TaskId) (lane : LaneId) (found : helm.call task = .stop (.draining lane))
      (drained : helm.lanes[lane]? ≠ some .shut) :
      Step helm { helm with
        control := helm.control.release task
        call := Function.update helm.call task (.stop (.ended .stopped)) }
  | drain (lane : LaneId) (found : helm.lanes[lane]? = some .shut) :
      Step helm { helm with lanes := helm.lanes.set lane .drained }
  /-- The schedule and the queue apart, or closed by the host: `Managed` rules both out. -/
  | stray (next : Helm)
      (stray : helm.isArmed ≠ helm.openLane.isSome ∨ ∃ task, helm.call task = .close) :
      Step helm next

def stake (helm : Helm) (task : TaskId) : Stake := (helm.call task).stake

/-- The open lane is the one that serves, and one that is shut and not drained yet
has a call to stop that keeps the control token for it. -/
structure Managed (helm : Helm) : Prop where
  fits : helm.control.Fits helm.stake
  armed : helm.isArmed = helm.openLane.isSome
  serving : ∀ lane, helm.lanes[lane]? = some .serving ↔ helm.openLane = some lane
  shut : ∀ lane, helm.lanes[lane]? = some .shut → ∃ task, helm.call task = .stop (.draining lane)
  draining : ∀ task lane, helm.call task = .stop (.draining lane) → helm.openLane = none
  lasting : ∀ task, helm.call task ≠ .close

variable {helm next : Helm} {task : TaskId}

theorem Managed.holder_unique (managed : helm.Managed) {other : TaskId}
    (holds : helm.stake task = .holding) (too : helm.stake other = .holding) : task = other := by
  have mine := (managed.fits.holding task).mp holds
  have theirs := (managed.fits.holding other).mp too
  exact TokenPlace.held.inj (mine.symm.trans theirs)

theorem stake_found {call : Call} (found : helm.call task = call) :
    helm.stake task = call.stake := by
  unfold stake
  rw [found]

/-- No lane is being drained while another call holds the control token. -/
theorem Managed.not_draining (managed : helm.Managed) (holds : helm.stake task = .holding)
    (undrained : ∀ lane, helm.call task ≠ .stop (.draining lane)) (other : TaskId) (lane : LaneId) :
    helm.call other ≠ .stop (.draining lane) := by
  intro drains
  obtain rfl := managed.holder_unique holds (stake_found drains)
  exact undrained lane drains

theorem Managed.not_shut (managed : helm.Managed)
    (idle : ∀ other lane, helm.call other ≠ .stop (.draining lane)) (lane : LaneId) :
    helm.lanes[lane]? ≠ some .shut := by
  intro shut
  obtain ⟨other, drains⟩ := managed.shut lane shut
  exact idle other lane drains

theorem Managed.done (managed : helm.Managed) {lane : LaneId}
    (found : helm.call task = .stop (.draining lane)) (drained : helm.lanes[lane]? ≠ some .shut)
    (other : LaneId) : helm.lanes[other]? ≠ some .shut := by
  intro shut
  obtain ⟨drainer, drains⟩ := managed.shut other shut
  obtain rfl := managed.holder_unique (stake_found found) (stake_found drains)
  rw [found] at drains
  cases drains
  exact drained shut

theorem Managed.all_drained (managed : helm.Managed) (isClosed : helm.openLane = none)
    (unshut : ∀ lane : LaneId, helm.lanes[lane]? ≠ some .shut) {lane : LaneId} {phase : Phase}
    (found : helm.lanes[lane]? = some phase) : phase = .drained := by
  cases phase with
  | drained => rfl
  | shut => exact absurd found (unshut lane)
  | serving =>
      have isOpen := (managed.serving lane).mp found
      rw [isClosed] at isOpen
      cases isOpen

theorem Managed.undrained_cases (managed : helm.Managed) {lane : LaneId} {phase : Phase}
    (found : helm.lanes[lane]? = some phase) (busy : phase ≠ .drained) :
    helm.openLane = some lane ∨ ∃ task, helm.call task = .stop (.draining lane) := by
  cases phase with
  | serving => exact .inl ((managed.serving lane).mp found)
  | shut => exact .inr (managed.shut lane found)
  | drained => exact absurd rfl busy

/-- At most one lane is not drained. -/
theorem Managed.undrained_unique (managed : helm.Managed) {first second : LaneId}
    {one other : Phase} (found : helm.lanes[first]? = some one) (busy : one ≠ .drained)
    (there : helm.lanes[second]? = some other) (too : other ≠ .drained) : first = second := by
  have apart (task : TaskId) (lane opened : LaneId)
      (drains : helm.call task = .stop (.draining lane)) (isOpen : helm.openLane = some opened) :
      False := by
    rw [managed.draining task lane drains] at isOpen
    cases isOpen
  rcases managed.undrained_cases found busy with isOpen | ⟨task, drains⟩
  · rcases managed.undrained_cases there too with same | ⟨task, drains⟩
    · exact Option.some.inj (isOpen.symm.trans same)
    · exact (apart task second first drains isOpen).elim
  · rcases managed.undrained_cases there too with isOpen | ⟨rival, waits⟩
    · exact (apart task first second drains isOpen).elim
    · obtain rfl := managed.holder_unique (stake_found drains) (stake_found waits)
      have same := drains.symm.trans waits
      exact StopStage.draining.inj (Call.stop.inj same)

theorem update_stake (helm : Helm) (task : TaskId) (after : Call) (other : TaskId)
    (different : other ≠ task) :
    (Function.update helm.call task after other).stake = helm.stake other := by
  rw [Function.update_of_ne different]
  rfl

theorem update_same_stake {after : Call} (same : after.stake = helm.stake task) :
    (fun other => (Function.update helm.call task after other).stake) = helm.stake := by
  funext other
  by_cases itself : other = task
  · subst itself
    rw [Function.update_self, same]
  · exact update_stake helm task after other itself

theorem Managed.released (managed : helm.Managed) (holds : helm.stake task = .holding)
    {after : Call} (idle : after.stake = .idle) :
    (helm.control.release task).Fits fun other =>
      (Function.update helm.call task after other).stake := by
  have released := @TokenMove.release task helm.control
  refine released.fits managed.fits holds ?_ (update_stake helm task after)
  rw [Function.update_self]
  exact idle

theorem update_cases {Part : Type} {call : TaskId → Part} {after found : Part} {other : TaskId}
    (there : Function.update call task after other = found) :
    after = found ∨ call other = found := by
  by_cases itself : other = task
  · rw [itself, Function.update_self] at there
    exact .inl there
  · rw [Function.update_of_ne itself] at there
    exact .inr there

theorem Managed.lasting_update (managed : helm.Managed) {after : Call} (lasting : after ≠ .close)
    (other : TaskId) : Function.update helm.call task after other ≠ .close := by
  intro close
  rcases update_cases close with same | before
  · exact lasting same
  · exact managed.lasting other before

theorem update_kept {Part : Type} {call : TaskId → Part} {found : Part} (after : Part)
    {other : TaskId} (there : call other = found) (elsewhere : call task ≠ found) :
    Function.update call task after other = found := by
  have different : other ≠ task := by
    rintro rfl
    exact elsewhere there
  rw [Function.update_of_ne different, there]

theorem phase_concat {phases : List Phase} {lane : LaneId} {phase last : Phase} :
    (phases ++ [last])[lane]? = some phase ↔
      phases[lane]? = some phase ∨ lane = phases.length ∧ phase = last := by
  rcases Nat.lt_trichotomy lane phases.length with before | same | after
  · rw [List.getElem?_append_left before]
    simp [Nat.ne_of_lt before]
  · subst same
    simp [eq_comm]
  · have outside : (phases ++ [last]).length ≤ lane := by
      rw [List.length_append]
      exact after
    rw [List.getElem?_eq_none outside, List.getElem?_eq_none (Nat.le_of_lt after)]
    simp [Nat.ne_of_gt after]

section

variable {phases : List Phase} {openLane : Option LaneId} {lane : LaneId}
  (serving : ∀ lane : LaneId, phases[lane]? = some .serving ↔ openLane = some lane)

include serving

/-! Opening, shutting and draining a lane leave the open lane the one that serves. -/

theorem serving_opened (isClosed : openLane = none) (other : LaneId) :
    (phases ++ [.serving])[other]? = some .serving ↔ some phases.length = some other := by
  rw [phase_concat, serving, isClosed]
  simp [eq_comm]

theorem serving_shut (isOpen : openLane = some lane) (other : LaneId) :
    (phases.set lane .shut)[other]? = some .serving ↔ none = some other := by
  have closed : phases[other]? = some .serving → other = lane := by
    intro serves
    rw [serving, isOpen, Option.some.injEq] at serves
    exact serves.symm
  rw [List.getElem?_set]
  by_cases itself : lane = other
  · simp [itself]
  · simp only [if_neg itself]
    exact ⟨fun serves => absurd (closed serves).symm itself, fun none => nomatch none⟩

theorem serving_drained (found : phases[lane]? = some .shut) (other : LaneId) :
    (phases.set lane .drained)[other]? = some .serving ↔ openLane = some other := by
  have bound := (List.getElem?_eq_some_iff.mp found).1
  rw [← serving other, List.getElem?_set]
  by_cases itself : lane = other
  · subst itself
    rw [if_pos rfl, if_pos bound, found]
    simp
  · simp [itself]

end

theorem Managed.go_on (managed : helm.Managed) {control : Token} {after : Call}
    (fits : control.Fits fun other => (Function.update helm.call task after other).stake)
    (undrained : ∀ lane, helm.call task ≠ .stop (.draining lane))
    (going : ∀ lane, after ≠ .stop (.draining lane)) (lasting : after ≠ .close) :
    ({ helm with control := control, call := Function.update helm.call task after } : Helm).Managed
    where
  fits := fits
  armed := managed.armed
  serving := managed.serving
  shut lane shut := by
    obtain ⟨other, drains⟩ := managed.shut lane shut
    exact ⟨other, update_kept after drains (undrained lane)⟩
  draining other lane drains := by
    rcases update_cases drains with same | before
    · exact absurd same (going lane)
    · exact managed.draining other lane before
  lasting := managed.lasting_update lasting

theorem Step.managed (managed : helm.Managed) (step : Step helm next) : next.Managed := by
  cases step with
  | rest => exact managed
  | begin task call absent fresh =>
      have same : call.stake = helm.stake task := by
        rw [stake_found absent]
        rcases fresh with rfl | rfl <;> rfl
      refine managed.go_on ?_ (by simp [absent]) ?_ ?_
      · rw [update_same_stake same]
        exact managed.fits
      · rcases fresh with rfl | rfl <;> simp
      · rcases fresh with rfl | rfl <;> simp
  | move task control after moves undrained going lasting returns =>
      refine managed.go_on ?_ undrained going lasting
      refine moves.fits managed.fits rfl ?_ (update_stake helm task after)
      rw [Function.update_self]
  | opened task found isClosed state =>
      have holds : helm.stake task = .holding := stake_found found
      have idle := managed.not_draining holds (by simp [found])
      refine ⟨managed.released holds rfl, rfl, serving_opened managed.serving isClosed, ?_, ?_,
        managed.lasting_update (by simp)⟩
      · intro lane shut
        rcases phase_concat.mp shut with before | ⟨_, fresh⟩
        · exact absurd before (managed.not_shut idle lane)
        · cases fresh
      · intro other lane drains
        rcases update_cases drains with same | before
        · cases same
        · exact absurd before (idle other lane)
  | shut task lane found isOpen =>
      have holds : helm.stake task = .holding := stake_found found
      have idle := managed.not_draining holds (by simp [found])
      have same : (Call.stop (.draining lane)).stake = helm.stake task := holds.symm
      refine ⟨?_, rfl, serving_shut managed.serving isOpen, ?_, fun other there drains => rfl,
        managed.lasting_update (by simp)⟩
      · have fits := managed.fits
        rw [← update_same_stake same] at fits
        exact fits
      · intro other shut
        by_cases itself : other = lane
        · subst itself
          exact ⟨task, Function.update_self ..⟩
        · rw [List.getElem?_set_ne (Ne.symm itself)] at shut
          exact absurd shut (managed.not_shut idle other)
  | finish task lane found drained =>
      have holds : helm.stake task = .holding := stake_found found
      refine ⟨managed.released holds rfl, managed.armed, managed.serving,
        fun other shut => absurd shut (managed.done found drained other), ?_,
        managed.lasting_update (by simp)⟩
      intro other there drains
      rcases update_cases drains with same | before
      · cases same
      · exact managed.draining other there before
  | drain lane found =>
      have bound := (List.getElem?_eq_some_iff.mp found).1
      refine ⟨managed.fits, managed.armed, serving_drained managed.serving found, ?_,
        managed.draining, managed.lasting⟩
      intro other shut
      by_cases itself : lane = other
      · subst itself
        rw [List.getElem?_set_self bound] at shut
        cases shut
      · rw [List.getElem?_set_ne itself] at shut
        exact managed.shut other shut
  | stray next stray =>
      rcases stray with unequal | ⟨task, close⟩
      · exact absurd managed.armed unequal
      · exact absurd close (managed.lasting task)

/-- A call to stop returns only when every lane is drained. -/
theorem Step.returned (managed : helm.Managed) (step : Step helm next) {stage : StopStage}
    {state : Lifecycle} (found : helm.call task = .stop stage)
    (going : ∀ state, stage ≠ .ended state) (ended : next.call task = .stop (.ended state))
    {lane : LaneId} {phase : Phase} (there : next.lanes[lane]? = some phase) :
    phase = .drained := by
  have unended : helm.call task ≠ .stop (.ended state) := by
    rw [found]
    exact fun same => going state (Call.stop.inj same)
  cases step with
  | rest => exact absurd ended unended
  | begin other call absent fresh =>
      rcases update_cases ended with same | before
      · rcases fresh with rfl | rfl <;> cases same
      · exact absurd before unended
  | move other control after moves undrained started lasting returns =>
      rcases update_cases ended with same | before
      · obtain ⟨disarming, unarmed⟩ := returns state same
        have isClosed : helm.openLane = none := by
          have armed := managed.armed
          rw [unarmed] at armed
          simpa using armed.symm
        have idle := managed.not_draining (stake_found disarming) (by simp [disarming])
        exact managed.all_drained isClosed (managed.not_shut idle) there
      · exact absurd before unended
  | opened other started isClosed state =>
      rcases update_cases ended with same | before
      · cases same
      · exact absurd before unended
  | shut other lane disarming isOpen =>
      rcases update_cases ended with same | before
      · cases same
      · exact absurd before unended
  | finish other lane drains drained =>
      have isClosed := managed.draining other lane drains
      exact managed.all_drained isClosed (managed.done drains drained) there
  | drain lane shut => exact absurd ended unended
  | stray next stray =>
      rcases stray with unequal | ⟨other, close⟩
      · exact absurd managed.armed unequal
      · exact absurd close (managed.lasting other)

/-- The queue is opened again only together with a lane of its own. -/
theorem Step.lane_count (managed : helm.Managed) (step : Step helm next) :
    (next.lanes.length = helm.lanes.length ∧ (helm.openLane = none → next.openLane = none)) ∨
      next.lanes.length = helm.lanes.length + 1 := by
  cases step with
  | opened task found isClosed state => exact .inr (List.length_append ..)
  | shut task lane found isOpen => exact .inl ⟨List.length_set .., fun _ => rfl⟩
  | drain lane found => exact .inl ⟨List.length_set .., id⟩
  | stray next stray =>
      rcases stray with unequal | ⟨other, close⟩
      · exact absurd managed.armed unequal
      · exact absurd close (managed.lasting other)
  | _ => exact .inl ⟨rfl, id⟩

end Helm

/-- Whether the host leaves the queue and the schedule to the calls that start and
stop the program. -/
def Event.isManaged : Event → Bool
  | .openQueue => false
  | .closeQueue => false
  | .arm => false
  | .disarm => false
  | .cancelSchedule => false
  | _ => true

namespace System

def call (system : System) (task : TaskId) : Call :=
  match system.tasks[task]? with
  | some kind => kind.call
  | none => .other

def helm (system : System) : Helm where
  control := system.control
  isArmed := system.armed.isSome
  openLane := system.openLane
  lanes := system.lanes.map Lane.phase
  call := system.call

variable {system next moved : System} {task : TaskId}

section

variable {Part : Type} (part : Task → Part) (absent : Part)

/-- What is seen of a task, which is `absent` where there is none. -/
def readTask (system : System) (task : TaskId) : Part :=
  match system.tasks[task]? with
  | some kind => part kind
  | none => absent

theorem read_task_found {kind : Task} (found : system.tasks[task]? = some kind) :
    system.readTask part absent task = part kind := by
  unfold readTask
  rw [found]

theorem read_task_set {old : Task} (new : Task) (found : system.tasks[task]? = some old)
    (tasks : moved.tasks = system.tasks) : (moved.setTask task new).readTask part absent =
      Function.update (system.readTask part absent) task (part new) := by
  funext other
  by_cases itself : other = task
  · subst itself
    rw [Function.update_self]
    exact read_task_found part absent (set_task_itself new (tasks ▸ found))
  · rw [Function.update_of_ne itself]
    unfold readTask
    rw [set_task_other moved new itself, tasks]

theorem read_task_append {added : List Task} (tasks : next.tasks = system.tasks ++ added)
    (idle : ∀ kind ∈ added, part kind = absent) :
    next.readTask part absent = system.readTask part absent := by
  funext other
  unfold readTask
  rw [tasks, List.getElem?_append]
  by_cases old : other < system.tasks.length
  · rw [if_pos old]
  · rw [if_neg old, List.getElem?_eq_none (Nat.le_of_not_lt old)]
    cases found : added[other - system.tasks.length]? with
    | none => rfl
    | some kind => exact idle kind (List.mem_of_getElem? found)

theorem read_task_spawn (kind : Task) : (system.spawn kind).readTask part absent =
    Function.update (system.readTask part absent) system.tasks.length (part kind) := by
  funext other
  by_cases itself : other = system.tasks.length
  · subst itself
    rw [Function.update_self]
    exact read_task_found part absent (spawn_itself system kind)
  · rw [Function.update_of_ne itself]
    unfold readTask
    rw [spawn_other system kind itself]

theorem read_task_next : system.readTask part absent system.tasks.length = absent := by
  simp [readTask]

end

theorem call_found {kind : Task} (found : system.tasks[task]? = some kind) :
    system.call task = kind.call :=
  read_task_found Task.call .other found

theorem call_set_task {old : Task} (new : Task) (found : system.tasks[task]? = some old)
    (tasks : moved.tasks = system.tasks) :
    (moved.setTask task new).call = Function.update system.call task new.call :=
  read_task_set Task.call .other new found tasks

theorem call_append {added : List Task} (tasks : next.tasks = system.tasks ++ added)
    (idle : ∀ kind ∈ added, kind.call = .other) : next.call = system.call :=
  read_task_append Task.call .other tasks idle

theorem call_spawn (kind : Task) :
    (system.spawn kind).call = Function.update system.call system.tasks.length kind.call :=
  read_task_spawn Task.call .other kind

theorem helm_set_task {old : Task} (new : Task) (found : system.tasks[task]? = some old)
    (tasks : moved.tasks = system.tasks) : (moved.setTask task new).helm =
      { moved.helm with call := Function.update system.call task new.call } := by
  have calls := call_set_task new found tasks
  unfold helm
  rw [calls]
  rfl

/-- A call that goes on and touches nothing but the control token. -/
theorem helm_moves {old : Task} (new : Task) (control : Token)
    (found : system.tasks[task]? = some old) (tasks : moved.tasks = system.tasks)
    (moves : TokenMove task system.control old.call.stake control new.call.stake)
    (undrained : ∀ lane, old.call ≠ .stop (.draining lane))
    (going : ∀ lane, new.call ≠ .stop (.draining lane)) (lasting : new.call ≠ .close)
    (returns : ∀ state, new.call = .stop (.ended state) →
      old.call = .stop .disarming ∧ system.armed = none)
    (rest : moved.helm = { system.helm with control := control, call := moved.call }) :
    Helm.Step system.helm (moved.setTask task new).helm := by
  have called : system.helm.call task = old.call := call_found found
  rw [helm_set_task new found tasks, rest]
  refine .move task control new.call ?_ ?_ going lasting ?_
  · rw [called]
    exact moves
  · rw [called]
    exact undrained
  · intro state ended
    obtain ⟨disarming, unarmed⟩ := returns state ended
    rw [called]
    exact ⟨disarming, by simp [helm, unarmed]⟩

theorem phases_set {lane : LaneId} {held new : Lane} {lanes : List Lane}
    (found : lanes[lane]? = some held) (same : new.phase = held.phase) :
    (lanes.set lane new).map Lane.phase = lanes.map Lane.phase := by
  apply List.ext_getElem?
  intro other
  rw [List.getElem?_map, List.getElem?_map, List.getElem?_set]
  by_cases itself : lane = other
  · subst itself
    simp only [if_true, found, Option.map_some]
    split
    · simp [same]
    · rename_i outside
      exact absurd (List.getElem?_eq_some_iff.mp found).1 outside
  · rw [if_neg itself]

theorem submit_helm (system : System) (request : Request) (listens : Bool) :
    (system.submit request listens).helm = system.helm := by
  cases isOpen : system.openLane with
  | none =>
      rw [submit_closed isOpen]
      rfl
  | some lane =>
      rw [submit_open isOpen]
      have phases : (system.lanes.modify lane fun held =>
          { held with waiting := held.waiting ++ [⟨system.submitted, request⟩] }).map Lane.phase =
            system.lanes.map Lane.phase := by
        cases found : system.lanes[lane]? with
        | none => rw [List.modify_eq_self (List.getElem?_eq_none_iff.mp found)]
        | some held =>
            rw [modify_found found]
            exact phases_set found rfl
      unfold helm
      simp only [phases]
      rfl

/-- All that a worker does to the phases is to drain its lane. -/
theorem WorkerStep.phases {lane : LaneId} (step : WorkerStep system task lane next) :
    next.helm = { system.helm with lanes := next.helm.lanes } ∧
      (next.helm.lanes = system.helm.lanes ∨ system.helm.lanes[lane]? = some .shut ∧
        next.helm.lanes = system.helm.lanes.set lane .drained) := by
  cases step with
  | carry held id operation after moved found current moves going =>
      rw [moves.frame]
      exact ⟨rfl, .inl (phases_set found rfl)⟩
  | deliver held id operation after moved outcome found current moves ended =>
      rw [moves.frame]
      exact ⟨rfl, .inl (phases_set found rfl)⟩
  | takeUp held queued rest found idle waiting => exact ⟨rfl, .inl (phases_set found rfl)⟩
  | drain held found idle empty shut undrained =>
      refine ⟨rfl, .inr ⟨?_, ?_⟩⟩
      · simp [System.helm, found, Lane.phase, shut, undrained]
      · simp only [System.helm, setLane, List.map_set]
        rfl

theorem WorkerStep.helm {lane : LaneId}
    (step : WorkerStep system task lane next) : Helm.Step system.helm next.helm := by
  obtain ⟨rest, same | ⟨shut, drained⟩⟩ := step.phases
  · rw [rest, same]
    exact .rest
  · rw [rest, drained]
    exact .drain lane shut

theorem start_up_helm_unarmed (unarmed : system.armed = none) (isClosed : system.openLane = none) :
    system.startUp.helm = { system.helm with
      isArmed := true
      openLane := some system.helm.lanes.length
      lanes := system.helm.lanes ++ [.serving] } := by
  obtain ⟨added, tickers, frame⟩ := start_up_closed unarmed isClosed
  have calls : system.startUp.call = system.call := by
    have tasks : system.startUp.tasks = system.tasks ++ .worker system.lanes.length :: added := by
      rw [frame]
    refine call_append tasks fun kind member => ?_
    rcases List.mem_cons.mp member with rfl | later
    · rfl
    · obtain ⟨schedule, alarm, rfl⟩ := tickers kind later
      rfl
  unfold helm
  rw [calls, frame]
  simp [Lane.phase, Lane.fresh]

theorem StartStep.helm {stage after : StartStage}
    (found : system.tasks[task]? = some (.start stage))
    (step : StartStep system task stage moved after) :
    Helm.Step system.helm (moved.setTask task (.start after)).helm := by
  have called : system.helm.call task = .start stage := call_found found
  have plain (moved : System) (after : StartStage) (control : Token)
      (tasks : moved.tasks = system.tasks)
      (moves : TokenMove task system.control (Call.start stage).stake control
        (Call.start after).stake)
      (rest : moved.helm = { system.helm with control := control, call := moved.call }) :
      Helm.Step system.helm (moved.setTask task (.start after)).helm :=
    helm_moves (.start after) control found tasks moves (by simp [Task.call])
      (by simp [Task.call]) (by simp [Task.call]) (by simp [Task.call]) rest
  cases step with
  | enter free => exact plain _ _ _ rfl (.enter _ free) rfl
  | queue taken => exact plain _ _ _ rfl (.queue _ taken) rfl
  | accept granted => exact plain _ _ _ rfl (.accept _ granted) rfl
  | «open» =>
      cases armed : system.armed with
      | some schedule =>
          have same : system.startUp = system := by simp [startUp, armed]
          rw [same]
          exact plain _ _ _ rfl (.release _) rfl
      | none =>
          cases isOpen : system.openLane with
          | some lane =>
              refine .stray _ (.inl ?_)
              simp [System.helm, armed, isOpen]
          | none =>
              let ended : Task := .start (.ended system.startUp.lifecycle)
              let released := system.startUp.releaseControl task
              have set := @helm_set_task _ released task _ ended (start_up_found found) rfl
              have control : released.helm = { system.startUp.helm with
                  control := system.startUp.helm.control.release task } := rfl
              rw [control, start_up_helm_unarmed armed isOpen] at set
              have calls : system.startUp.call = system.call :=
                congrArg Helm.call (start_up_helm_unarmed armed isOpen)
              rw [calls] at set
              rw [set]
              exact .opened task called isOpen _

/-- The worker of the open lane, which is shut, cannot have ended before. -/
theorem shut_lane_phases (kept : system.traffic.Kept) {lane : LaneId}
    (isOpen : system.openLane = some lane) :
    (system.lanes.modify lane fun held => { held with isShut := true }).map Lane.phase =
      (system.lanes.map Lane.phase).set lane .shut := by
  obtain ⟨held, present, unshut⟩ := kept.opens lane isOpen
  have there : system.lanes[lane]? = some held := present
  have undrained : held.isDrained = false := by
    rw [Bool.eq_false_iff]
    intro drained
    rw [(kept.drained lane held there drained).1] at unshut
    cases unshut
  rw [modify_found there, List.map_set]
  simp [Lane.phase, undrained]

theorem shut_lane_helm (kept : system.traffic.Kept) {lane : LaneId}
    (isOpen : system.openLane = some lane) :
    (system.disarmArmed.shutLane lane).helm = { system.helm with
      isArmed := false
      openLane := none
      lanes := system.helm.lanes.set lane .shut } := by
  rw [disarm_armed_frame]
  unfold helm shutLane modifyLane
  simp only [shut_lane_phases kept isOpen]
  rfl

theorem drained_phase {lane : LaneId} (drained : system.isDrained lane = true) :
    system.helm.lanes[lane]? ≠ some .shut := by
  unfold isDrained at drained
  simp only [helm, List.getElem?_map]
  split at drained
  · rename_i held there
    simp [there, Lane.phase, drained]
  · rename_i missing
    simp [missing]

theorem StopStep.helm (kept : system.traffic.Kept) {stage after : StopStage}
    (found : system.tasks[task]? = some (.stop stage))
    (step : StopStep system task stage moved after) :
    Helm.Step system.helm (moved.setTask task (.stop after)).helm := by
  have called : system.helm.call task = .stop stage := call_found found
  have tasks : moved.tasks = system.tasks := by rw [step.frame]
  have plain (moved : System) (after : StopStage) (control : Token)
      (tasks : moved.tasks = system.tasks) (undrained : ∀ lane, stage ≠ .draining lane)
      (going : ∀ lane, after ≠ .draining lane)
      (returns : ∀ state, after = .ended state → stage = .disarming ∧ system.armed = none)
      (moves : TokenMove task system.control (Call.stop stage).stake control
        (Call.stop after).stake)
      (rest : moved.helm = { system.helm with control := control, call := moved.call }) :
      Helm.Step system.helm (moved.setTask task (.stop after)).helm :=
    helm_moves (.stop after) control found tasks moves (by simpa [Task.call] using undrained)
      (by simpa [Task.call] using going) (by simp [Task.call])
      (by simpa [Task.call] using returns) rest
  cases step with
  | enter free => exact plain _ _ _ rfl (by simp) (by simp) (by simp) (.enter _ free) rfl
  | queue taken => exact plain _ _ _ rfl (by simp) (by simp) (by simp) (.queue _ taken) rfl
  | accept granted => exact plain _ _ _ rfl (by simp) (by simp) (by simp) (.accept _ granted) rfl
  | idle unarmed =>
      exact plain _ _ _ rfl (by simp) (by simp) (fun _ _ => ⟨rfl, unarmed⟩) (.release _) rfl
  | shut schedule lane armed isOpen =>
      rw [helm_set_task (.stop (.draining lane)) found tasks, shut_lane_helm kept isOpen]
      exact .shut task lane called isOpen
  | closed schedule armed isClosed =>
      refine .stray _ (.inl ?_)
      simp [System.helm, armed, isClosed]
  | finish lane drained =>
      let stopped := { system with lifecycle := .stopped }.releaseControl task
      have ended := @helm_set_task _ stopped task _ (.stop (.ended .stopped)) found rfl
      rw [ended]
      exact .finish task lane called (drained_phase drained)

theorem helm_set_task_same {old : Task} (new : Task) (found : system.tasks[task]? = some old)
    (tasks : moved.tasks = system.tasks) (same : new.call = old.call)
    (rest : moved.helm = system.helm) : (moved.setTask task new).helm = system.helm := by
  rw [helm_set_task new found tasks, same, ← call_found found, Function.update_eq_self, rest]
  rfl

theorem spawn_helm (system : System) (kind : Task) : (system.spawn kind).helm =
    { system.helm with
      call := Function.update system.call system.tasks.length kind.call } := by
  have calls := @call_spawn system kind
  unfold helm
  rw [calls]
  rfl

theorem spawn_helm_same (system : System) {kind : Task} (other : kind.call = .other) :
    (system.spawn kind).helm = system.helm := by
  have absent : system.call system.tasks.length = .other := by simp [call]
  rw [spawn_helm, other, ← absent, Function.update_eq_self]
  rfl

theorem TaskStep.helm (kept : system.traffic.Kept) (step : TaskStep system task next) :
    Helm.Step system.helm next.helm := by
  have quiet {old : Task} (new : Task) (moved : System) (found : system.tasks[task]? = some old)
      (tasks : moved.tasks = system.tasks) (same : new.call = old.call)
      (rest : moved.helm = system.helm) :
      Helm.Step system.helm (moved.setTask task new).helm := by
    rw [helm_set_task_same new found tasks same rest]
    exact .rest
  cases step with
  | worker lane next found step => exact step.helm
  | direct operation after isCancelled moved found step =>
      rw [step.frame]
      exact quiet _ _ found rfl rfl rfl
  | holder stage after moved found step => cases step <;> exact quiet _ _ found rfl rfl rfl
  | fork session stage after moved found step =>
      cases step with
      | submit =>
          have same := submit_helm system (.afterSession system.store.features) false
          exact quiet _ _ found (submit_tasks _ _ _) rfl same
      | _ => exact quiet _ _ found rfl rfl rfl
  | start stage after moved found step => exact step.helm found
  | stop stage after moved found step => exact step.helm kept found
  | close stage after moved found step => exact .stray _ (.inr ⟨task, call_found found⟩)
  | ticker schedule alarm after moved found step =>
      cases step with
      | retire => exact quiet _ _ found rfl rfl rfl
      | tick =>
          have same := submit_helm system (.background system.store.features) false
          exact quiet _ _ found (submit_tasks _ _ _) rfl same

theorem apply_helm (kept : system.traffic.Kept) (event : Event)
    (managed : event.isManaged = true) : Helm.Step system.helm (system.apply event).helm := by
  have rule := apply_cases system event
  generalize system.apply event = next at rule
  cases rule with
  | step task next moves => exact moves.helm kept
  | stay => exact .rest
  | aside => exact .rest
  | begin event kind begun =>
      have absent : system.call system.tasks.length = .other := by simp [call]
      cases begun with
      | start =>
          rw [spawn_helm]
          exact .begin _ _ absent (.inl rfl)
      | stop =>
          rw [spawn_helm]
          exact .begin _ _ absent (.inr rfl)
      | close => cases managed
      | _ =>
          rw [spawn_helm_same _ rfl]
          exact .rest
  | submit request listens =>
      rw [submit_helm]
      exact .rest
  | fire =>
      have same : system.fire.helm = system.helm :=
        fire_invariant (fun next same => (submit_helm next _ _).trans same) rfl
      rw [same]
      exact .rest
  | openQueue => cases managed
  | arm => cases managed
  | disarm => cases managed
  | cancelSchedule => cases managed
  | tryHold free =>
      rw [spawn_helm_same _ rfl]
      exact .rest
  | release task found =>
      have tasks : (system.releaseToken task).tasks = system.tasks := rfl
      rw [helm_set_task_same (.holder .released) found tasks rfl rfl]
      exact .rest
  | cancelDirect task operation isCancelled found =>
      rw [helm_set_task_same (.direct operation true) found rfl rfl rfl]
      exact .rest

theorem outset_managed (outset : Outset) : outset.system.helm.Managed where
  fits := Token.initial_fits
  armed := rfl
  serving lane := by simp [helm, Outset.system]
  shut lane shut := by cases shut
  draining task lane drains := by cases drains
  lasting task close := by cases close

end System

end CertRenewal
