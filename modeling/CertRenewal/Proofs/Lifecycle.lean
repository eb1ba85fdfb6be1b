import CertRenewal.Proofs.Draining
import Mathlib.Data.List.Chain
import Mathlib.Tactic.TFAE

/-!
What the published state tells. A call to start opens the queue, arms a schedule and
publishes that the program runs, all in one step. A call to stop ends the schedule and
shuts the lane in one step as well, but publishes that the program is stopped only when
the lane is drained. So between these two steps, and only there, the program is said to
run although nothing takes requests or makes them.
-/

namespace CertRenewal

namespace Call

/-- Whether a call waits for the lane that it shut. -/
def isDraining : Call → Bool
  | stop (.draining _) => true
  | _ => false

/-- Whether the next step of a call leaves the published state alone. -/
def isSilent : Call → Bool
  | start .opening => false
  | stop (.draining _) => false
  | _ => true

theorem undrained {call : Call} (idle : call.isDraining = false) (lane : LaneId) :
    call ≠ .stop (.draining lane) := by
  intro same
  rw [same] at idle
  cases idle

theorem silent_undrained {call : Call} (silent : call.isSilent = true) :
    call.isDraining = false := by
  cases call with
  | stop stage => cases stage <;> first | rfl | cases silent
  | _ => rfl

end Call

namespace System

/-- Whether a call to stop waits for the lane that it shut. -/
def Draining (system : System) : Prop :=
  ∃ task lane, system.call task = .stop (.draining lane)

/-- Whether every call to start or to stop has returned. -/
structure Settled (system : System) : Prop where
  started : ∀ task stage, system.call task = .start stage → ∃ state, stage = .ended state
  stopped : ∀ task stage, system.call task = .stop stage → ∃ state, stage = .ended state

/-- The state that an event sets, whatever it was before. -/
def published (system : System) (event : Event) : List Lifecycle :=
  let behind (before : Lifecycle) := ({ system with lifecycle := before }.apply event).lifecycle
  if behind .stopped = behind .running then [behind .running] else []

/-- The state that the next step of a call sets, when the lane and the schedule go
together. -/
def setBy (system : System) : Call → Option Lifecycle
  | .start .opening => if system.armed.isNone then some .running else none
  | .stop (.draining lane) => if system.isDrained lane then some .stopped else none
  | _ => none

def sets? (system : System) : Event → Option Lifecycle
  | .step task => system.setBy (system.call task)
  | _ => none

/-- What an event does to the schedules and to the published state. -/
inductive Switch (system : System) (event : Event) (next : System) : Prop
  | rest (armed : next.armed = system.armed) (schedules : next.schedules = system.schedules)
      (lifecycle : next.lifecycle = system.lifecycle)
      (draining : next.Draining ↔ system.Draining) (silent : system.sets? event = none)
  | begin (period : Nat) (unarmed : system.armed = none) (idle : ¬system.Draining)
      (armed : next.armed = some system.schedules.length)
      (schedules : next.schedules = system.schedules ++ [⟨period, true⟩])
      (lifecycle : next.lifecycle = .running) (sets : system.sets? event = some .running)
  | shut (schedule : ScheduleId) (armed : system.armed = some schedule)
      (unarmed : next.armed = none)
      (schedules : next.schedules = system.schedules.modify schedule fun held =>
        { held with isLive := false })
      (lifecycle : next.lifecycle = system.lifecycle) (draining : next.Draining)
      (silent : system.sets? event = none)
  | finish (draining : system.Draining) (idle : ¬next.Draining)
      (armed : next.armed = system.armed) (schedules : next.schedules = system.schedules)
      (lifecycle : next.lifecycle = .stopped) (sets : system.sets? event = some .stopped)

/-- Neither a task nor what calls to start and to stop are about is touched. -/
structure Unmoved (system next : System) : Prop where
  tasks : next.tasks = system.tasks
  armed : next.armed = system.armed
  schedules : next.schedules = system.schedules
  lifecycle : next.lifecycle = system.lifecycle

variable {system next moved last : System} {event : Event} {task : TaskId} {lane : LaneId}

theorem Unmoved.trans (first : Unmoved system next) (second : Unmoved next last) :
    Unmoved system last where
  tasks := second.tasks.trans first.tasks
  armed := second.armed.trans first.armed
  schedules := second.schedules.trans first.schedules
  lifecycle := second.lifecycle.trans first.lifecycle

theorem unmoved_submit (system : System) (request : Request) (listens : Bool) :
    Unmoved system (system.submit request listens) := by
  cases isOpen : system.openLane with
  | none =>
      rw [submit_closed isOpen]
      exact ⟨rfl, rfl, rfl, rfl⟩
  | some lane =>
      rw [submit_open isOpen]
      exact ⟨rfl, rfl, rfl, rfl⟩

theorem draining_update {after : Call}
    (calls : next.call = Function.update system.call task after)
    (undrained : (system.call task).isDraining = false) (going : after.isDraining = false) :
    next.Draining ↔ system.Draining := by
  unfold Draining
  rw [calls]
  constructor
  · intro drains
    obtain ⟨other, lane, found⟩ := drains
    rcases Helm.update_cases found with same | before
    · exact absurd same (Call.undrained going lane)
    · exact ⟨other, lane, before⟩
  · intro drains
    obtain ⟨other, lane, found⟩ := drains
    exact ⟨other, lane, Helm.update_kept after found (Call.undrained undrained lane)⟩

theorem sets_of_call {call : Call} (called : system.call task = call)
    (silent : call.isSilent = true) : system.sets? (.step task) = none := by
  have same : system.sets? (.step task) = system.setBy call := congrArg system.setBy called
  rw [same]
  cases call with
  | start stage => cases stage <;> first | rfl | cases silent
  | stop stage => cases stage <;> first | rfl | cases silent
  | _ => rfl

theorem switch_of_unmoved (same : Unmoved system next) (silent : system.sets? event = none) :
    Switch system event next := by
  have calls : next.call = system.call := by
    funext task
    unfold call
    rw [same.tasks]
  refine .rest same.armed same.schedules same.lifecycle ?_ silent
  unfold Draining
  rw [calls]

/-- A task that goes on and leaves the schedules and the published state alone. -/
theorem switch_of_task {old : Task} (new : Task) (found : system.tasks[task]? = some old)
    (same : Unmoved system moved) (silent : old.call.isSilent = true)
    (going : new.call.isDraining = false) :
    Switch system (.step task) (moved.setTask task new) := by
  have called : system.call task = old.call := call_found found
  have calls := call_set_task new found same.tasks
  refine .rest same.armed same.schedules same.lifecycle (draining_update calls ?_ going) ?_
  · rw [called]
    exact Call.silent_undrained silent
  · exact sets_of_call called silent

theorem WorkerStep.switch (found : system.tasks[task]? = some (.worker lane))
    (step : WorkerStep system task lane next) : Switch system (.step task) next := by
  have silent : system.sets? (.step task) = none := sets_of_call (call_found found) rfl
  cases step with
  | carry held id operation after moved there current moves =>
      rw [moves.frame]
      exact switch_of_unmoved ⟨rfl, rfl, rfl, rfl⟩ silent
  | deliver held id operation after moved outcome there current moves =>
      rw [moves.frame]
      exact switch_of_unmoved ⟨rfl, rfl, rfl, rfl⟩ silent
  | takeUp => exact switch_of_unmoved ⟨rfl, rfl, rfl, rfl⟩ silent
  | drain => exact switch_of_unmoved ⟨rfl, rfl, rfl, rfl⟩ silent

theorem start_up_schedules (unarmed : system.armed = none) :
    ∃ period, system.startUp.schedules = system.schedules ++ [⟨period, true⟩] := by
  obtain ⟨added, -, frame⟩ := arm_frame system.openQueue
  have whole : system.startUp = { system.openQueue.arm with lifecycle := .running } := by
    simp only [startUp, unarmed]
  refine ⟨Schedule.keptPeriod system.openQueue.intervals.checkInterval, ?_⟩
  rw [whole, frame, open_queue_frame]

theorem unarmed_iff_closed (managed : system.helm.Managed) :
    system.armed = none ↔ system.openLane = none := by
  have together : system.armed.isSome = system.openLane.isSome := managed.armed
  rw [← Option.not_isSome_iff_eq_none, ← Option.not_isSome_iff_eq_none, together]

theorem StartStep.switch (managed : system.helm.Managed) {stage after : StartStage}
    (found : system.tasks[task]? = some (.start stage))
    (step : StartStep system task stage moved after) :
    Switch system (.step task) (moved.setTask task (.start after)) := by
  have called : system.call task = .start stage := call_found found
  cases step with
  | enter free => exact switch_of_task _ found ⟨rfl, rfl, rfl, rfl⟩ rfl rfl
  | queue taken => exact switch_of_task _ found ⟨rfl, rfl, rfl, rfl⟩ rfl rfl
  | accept granted => exact switch_of_task _ found ⟨rfl, rfl, rfl, rfl⟩ rfl rfl
  | «open» =>
      have opening : system.helm.call task = .start .opening := called
      have idle := managed.not_draining (Helm.stake_found opening) (by simp [opening])
      have rest : ¬system.Draining := fun ⟨other, lane, drains⟩ => idle other lane drains
      cases armed : system.armed with
      | some schedule =>
          have same : system.startUp = system := by simp [startUp, armed]
          rw [same]
          have calls := @call_set_task _ (system.releaseControl task) task _
            (.start (.ended system.lifecycle)) found rfl
          refine .rest rfl rfl rfl (draining_update calls ?_ rfl) ?_
          · rw [called]
            rfl
          · simp [sets?, setBy, called, armed]
      | none =>
          have isClosed := (unarmed_iff_closed managed).mp armed
          obtain ⟨added, -, frame⟩ := start_up_closed armed isClosed
          obtain ⟨period, schedules⟩ := start_up_schedules armed
          refine .begin period armed rest ?_ schedules ?_ ?_
          · exact congrArg System.armed frame
          · exact congrArg System.lifecycle frame
          · simp [sets?, setBy, called, armed]

theorem StopStep.switch (managed : system.helm.Managed) {stage after : StopStage}
    (found : system.tasks[task]? = some (.stop stage))
    (step : StopStep system task stage moved after) :
    Switch system (.step task) (moved.setTask task (.stop after)) := by
  have called : system.call task = .stop stage := call_found found
  have tasks : moved.tasks = system.tasks := by rw [step.frame]
  cases step with
  | enter free => exact switch_of_task _ found ⟨rfl, rfl, rfl, rfl⟩ rfl rfl
  | queue taken => exact switch_of_task _ found ⟨rfl, rfl, rfl, rfl⟩ rfl rfl
  | accept granted => exact switch_of_task _ found ⟨rfl, rfl, rfl, rfl⟩ rfl rfl
  | idle unarmed => exact switch_of_task _ found ⟨rfl, rfl, rfl, rfl⟩ rfl rfl
  | shut schedule lane armed isOpen =>
      have calls := call_set_task (.stop (.draining lane)) found tasks
      refine .shut schedule armed ?_ ?_ ?_ ⟨task, lane, ?_⟩ ?_
      · simp [disarmArmed, armed, shutLane, modifyLane, setTask]
      · simp [disarmArmed, armed, shutLane, modifyLane, setTask, disarm]
      · rw [disarm_armed_frame]
        rfl
      · rw [calls]
        exact Function.update_self ..
      · exact sets_of_call called rfl
  | closed schedule armed isClosed =>
      have unarmed := (unarmed_iff_closed managed).mpr isClosed
      rw [armed] at unarmed
      cases unarmed
  | finish lane drained =>
      have waits : system.helm.call task = .stop (.draining lane) := called
      let stopped := { system with lifecycle := .stopped }.releaseControl task
      have calls := @call_set_task _ stopped task _ (.stop (.ended .stopped)) found rfl
      refine .finish ⟨task, lane, called⟩ ?_ rfl rfl rfl ?_
      · intro drains
        obtain ⟨other, there, drains⟩ := drains
        rw [calls] at drains
        rcases Helm.update_cases drains with same | before
        · cases same
        · have too : system.helm.call other = .stop (.draining there) := before
          obtain rfl :=
            managed.holder_unique (Helm.stake_found waits) (Helm.stake_found too)
          rw [Function.update_self] at drains
          cases drains
      · simp [sets?, setBy, called, drained]

theorem TaskStep.switch (managed : system.helm.Managed) (step : TaskStep system task next) :
    Switch system (.step task) next := by
  cases step with
  | worker lane next found step => exact step.switch found
  | direct operation after isCancelled moved found step =>
      rw [step.frame]
      exact switch_of_task _ found ⟨rfl, rfl, rfl, rfl⟩ rfl rfl
  | holder stage after moved found step =>
      cases step <;> exact switch_of_task _ found ⟨rfl, rfl, rfl, rfl⟩ rfl rfl
  | fork session stage after moved found step =>
      cases step with
      | submit =>
          have same := unmoved_submit system (.afterSession system.store.features) false
          exact switch_of_task _ found same rfl rfl
      | _ => exact switch_of_task _ found ⟨rfl, rfl, rfl, rfl⟩ rfl rfl
  | start stage after moved found step => exact step.switch managed found
  | stop stage after moved found step => exact step.switch managed found
  | close stage after moved found step => exact absurd (call_found found) (managed.lasting task)
  | ticker schedule alarm after moved found step =>
      cases step with
      | retire => exact switch_of_task _ found ⟨rfl, rfl, rfl, rfl⟩ rfl rfl
      | tick =>
          -- what the tick counts besides is no part of what stays
          obtain ⟨tasks, armed, schedules, lifecycle⟩ :=
            unmoved_submit system (.background system.store.features) false
          exact switch_of_task _ found ⟨tasks, armed, schedules, lifecycle⟩ rfl rfl

theorem stuck_sets (stuck : system.step task = none) : system.sets? (.step task) = none := by
  cases found : system.tasks[task]? with
  | none =>
      have absent : system.call task = .other := by
        unfold call
        rw [found]
      exact sets_of_call absent rfl
  | some kind =>
      have called := call_found found
      cases kind with
      | start stage =>
          cases stage with
          | opening => simp [step, found, stepStart] at stuck
          | _ => exact sets_of_call called rfl
      | stop stage =>
          cases stage with
          | draining lane =>
              have undrained : system.isDrained lane = false := by
                simpa [step, found, stepStop] using stuck
              have same : system.sets? (.step task) = system.setBy (.stop (.draining lane)) :=
                congrArg system.setBy called
              rw [same, setBy, undrained]
              rfl
          | _ => exact sets_of_call called rfl
      | _ => exact sets_of_call called rfl

theorem step_switch (managed : system.helm.Managed) (task : TaskId) :
    Switch system (.step task) (system.apply (.step task)) := by
  cases stepped : system.step task with
  | none =>
      have stays : system.apply (.step task) = system := by simp [apply, stepped]
      rw [stays]
      exact .rest rfl rfl rfl Iff.rfl (stuck_sets stepped)
  | some next =>
      rw [step_applied stepped]
      exact (step_cases stepped).switch managed

theorem spawn_draining {kind : Task} (idle : kind.call.isDraining = false) :
    (system.spawn kind).Draining ↔ system.Draining := by
  have absent : system.call system.tasks.length = .other := by simp [call]
  refine draining_update (call_spawn kind) ?_ idle
  rw [absent]
  rfl

/-- What the host does itself leaves the schedules and the published state alone. -/
theorem host_switch (event : Event) (silent : system.sets? event = none)
    (host : ∀ task, event ≠ .step task) (managed : event.isManaged = true) :
    Switch system event (system.apply event) := by
  have rule := apply_cases system event
  generalize system.apply event = next at rule
  cases rule with
  | step task next moves => exact absurd rfl (host task)
  | stay => exact switch_of_unmoved ⟨rfl, rfl, rfl, rfl⟩ silent
  | aside => exact switch_of_unmoved ⟨rfl, rfl, rfl, rfl⟩ silent
  | begin event kind begun =>
      have idle : kind.call.isDraining = false := by cases begun <;> rfl
      exact .rest rfl rfl rfl (spawn_draining idle) silent
  | submit request listens =>
      exact switch_of_unmoved (unmoved_submit system request listens) silent
  | fire =>
      have same : Unmoved system system.fire :=
        fire_invariant (fun next same => same.trans (unmoved_submit next _ _))
          ⟨rfl, rfl, rfl, rfl⟩
      exact switch_of_unmoved same silent
  | openQueue => cases managed
  | arm => cases managed
  | disarm => cases managed
  | cancelSchedule => cases managed
  | tryHold free =>
      exact .rest rfl rfl rfl (@spawn_draining { system with
        token := system.token.ask system.tasks.length } (.holder .holding) rfl) silent
  | release task found =>
      have calls := @call_set_task _ (system.releaseToken task) task _ (.holder .released) found rfl
      have called : system.call task = .other := call_found found
      exact .rest rfl rfl rfl (draining_update calls (by rw [called]; rfl) rfl) silent
  | cancelDirect task operation isCancelled found =>
      have calls := @call_set_task _ system task _ (.direct operation true) found rfl
      have called : system.call task = .other := call_found found
      exact .rest rfl rfl rfl (draining_update calls (by rw [called]; rfl) rfl) silent

theorem apply_switch (reached : system.Reached) (event : Event)
    (managed : event.isManaged = true) : Switch system event (system.apply event) := by
  cases event with
  | step task => exact step_switch reached.managed task
  | _ => exact host_switch _ rfl (by simp) managed

theorem Switch.lifecycle (switch : Switch system event next) :
    next.lifecycle = (system.sets? event).getD system.lifecycle := by
  cases switch with
  | rest armed schedules lifecycle draining silent => rw [lifecycle, silent]; rfl
  | begin period unarmed idle armed schedules lifecycle sets => rw [lifecycle, sets]; rfl
  | shut schedule armed unarmed schedules lifecycle draining silent => rw [lifecycle, silent]; rfl
  | finish draining idle armed schedules lifecycle sets => rw [lifecycle, sets]; rfl

theorem Reached.alter (reached : system.Reached) (lifecycle : Lifecycle) :
    { system with lifecycle := lifecycle }.Reached where
  sound := ⟨reached.sound.crewed, reached.sound.fits, reached.sound.busy, reached.sound.still,
    reached.sound.most⟩
  kept := reached.kept
  managed := reached.managed
  placed := reached.placed

/-- Only the steps that set a state publish one. -/
theorem published_sets (reached : system.Reached) (event : Event)
    (managed : event.isManaged = true) : system.published event = (system.sets? event).toList := by
  have behind (before : Lifecycle) : ({ system with lifecycle := before }.apply event).lifecycle =
      (system.sets? event).getD before := by
    have switch := apply_switch (reached.alter before) event managed
    rw [switch.lifecycle]
    cases event <;> rfl
  unfold published
  simp only [behind]
  cases system.sets? event <;> simp

/-- All schedules have ended but the one that is armed, and the published state is that
of the schedule and of the lane. -/
structure Tended (system : System) : Prop where
  schedules : ∃ ended : List Schedule, (∀ held ∈ ended, held.isLive = false) ∧
    (system.armed = none ∧ system.schedules = ended ∨
      ∃ period, system.armed = some ended.length ∧ system.schedules = ended ++ [⟨period, true⟩])
  running : system.lifecycle = .running ↔ system.armed.isSome = true ∨ system.Draining

theorem Reached.unarmed (reached : system.Reached) (draining : system.Draining) :
    system.armed = none ∧ system.openLane = none := by
  obtain ⟨task, lane, drains⟩ := draining
  have isClosed : system.openLane = none := reached.managed.draining task lane drains
  exact ⟨(unarmed_iff_closed reached.managed).mpr isClosed, isClosed⟩

theorem disarmed_last {ended : List Schedule} {period : Nat} :
    (ended ++ [(⟨period, true⟩ : Schedule)]).modify ended.length
      (fun held => { held with isLive := false }) = ended ++ [⟨period, false⟩] := by
  rw [List.modify_eq_take_cons_drop (by simp)]
  simp

theorem Switch.tended (switch : Switch system event next) (reached : system.Reached)
    (tended : system.Tended) : next.Tended := by
  obtain ⟨ended, dead, schedules⟩ := tended.schedules
  have running := tended.running
  cases switch with
  | rest sameArmed sameSchedules sameLifecycle draining silent =>
      refine ⟨⟨ended, dead, ?_⟩, ?_⟩
      · rw [sameArmed, sameSchedules]
        exact schedules
      · rw [sameLifecycle, sameArmed, draining]
        exact running
  | begin period unarmed idle armed more lifecycle sets =>
      rcases schedules with ⟨-, all⟩ | ⟨_, armed, -⟩
      · refine ⟨⟨ended, dead, .inr ⟨period, ?_, ?_⟩⟩, ?_⟩
        · rw [armed, all]
        · rw [more, all]
        · simp [lifecycle, armed]
      · rw [unarmed] at armed
        cases armed
  | shut schedule armed unarmed fewer lifecycle draining silent =>
      rcases schedules with ⟨none, -⟩ | ⟨period, last, all⟩
      · rw [none] at armed
        cases armed
      · obtain rfl : ended.length = schedule := Option.some.inj (last.symm.trans armed)
        refine ⟨⟨ended ++ [⟨period, false⟩], ?_, .inl ⟨unarmed, ?_⟩⟩, ?_⟩
        · intro held member
          rcases List.mem_append.mp member with before | new
          · exact dead held before
          · rw [List.mem_singleton.mp new]
        · rw [fewer, all, disarmed_last]
        · have before : system.lifecycle = .running := running.mpr (.inl (by simp [armed]))
          simp [lifecycle, before, draining]
  | finish draining idle same all lifecycle sets =>
      have unarmed := (reached.unarmed draining).1
      refine ⟨⟨ended, dead, ?_⟩, ?_⟩
      · rw [same, all]
        exact schedules
      · simp [lifecycle, same, unarmed, idle]

/-- A state is published only when it is another one. -/
theorem Switch.changes (switch : Switch system event next) (tended : system.Tended)
    {state : Lifecycle} (sets : system.sets? event = some state) : system.lifecycle ≠ state := by
  cases switch with
  | rest armed schedules lifecycle draining silent => rw [silent] at sets; cases sets
  | begin period unarmed idle armed schedules lifecycle same =>
      obtain rfl : .running = state := Option.some.inj (same.symm.trans sets)
      rw [Ne, tended.running, unarmed]
      simp [idle]
  | shut schedule armed unarmed schedules lifecycle draining silent =>
      rw [silent] at sets
      cases sets
  | finish draining idle armed schedules lifecycle same =>
      obtain rfl : .stopped = state := Option.some.inj (same.symm.trans sets)
      rw [tended.running.mpr (.inr draining)]
      decide

theorem outset_tended (outset : Outset) : outset.system.Tended where
  schedules := ⟨[], by simp, .inl ⟨rfl, rfl⟩⟩
  running := by
    constructor
    · intro runs
      cases runs
    · intro either
      rcases either with armed | ⟨task, lane, drains⟩
      · cases armed
      · cases drains

theorem run_tended (outset : Outset) (events : List Event)
    (managed : ∀ event ∈ events, event.isManaged = true) : (outset.system.run events).Tended := by
  have kept (system : System) (event : Event) (allowed : event.isManaged = true)
      (holds : system.Reached ∧ system.Tended) :
      (system.apply event).Reached ∧ (system.apply event).Tended :=
    ⟨holds.1.apply event allowed, (apply_switch holds.1 event allowed).tended holds.1 holds.2⟩
  exact (run_invariant_of kept ⟨outset_reached outset, outset_tended outset⟩ events managed).2

/-- All states that were published, from the one at the outset on. -/
def announced (outset : Outset) (events : List Event) : List Lifecycle :=
  .stopped :: gathered published outset.system events

theorem announced_alternate (outset : Outset) (events : List Event)
    (managed : ∀ event ∈ events, event.isManaged = true) :
    (announced outset events).IsChain (· ≠ ·) ∧
      (announced outset events).getLast? = some (outset.system.run events).lifecycle := by
  induction events using List.reverseRecOn with
  | nil => exact ⟨.singleton _, rfl⟩
  | append_singleton events event induction =>
      have earlier (other : Event) (member : other ∈ events) : other.isManaged = true :=
        managed other (List.mem_append_left _ member)
      have allowed := managed event (by simp)
      obtain ⟨chain, last⟩ := induction earlier
      have reached := run_reached (outset_reached outset) events earlier
      have switch := apply_switch reached event allowed
      have more : announced outset (events ++ [event]) = announced outset events ++
          ((outset.system.run events).sets? event).toList := by
        unfold announced
        rw [gathered_concat, published_sets reached event allowed]
        rfl
      rw [more, run_concat, switch.lifecycle]
      cases sets : (outset.system.run events).sets? event with
      | none => simpa using ⟨chain, last⟩
      | some state =>
          have other := switch.changes (run_tended outset events earlier) sets
          refine ⟨chain.append (.singleton _) ?_, by simp⟩
          intro before final next new
          rw [last] at final
          obtain rfl := Option.some.inj final
          obtain rfl := Option.some.inj new
          exact other

theorem Tended.live (tended : system.Tended) :
    system.liveSchedules = if system.armed.isSome then 1 else 0 := by
  obtain ⟨ended, dead, schedules⟩ := tended.schedules
  have none : ended.filter (·.isLive) = [] := by
    rw [List.filter_eq_nil_iff]
    intro held member
    simp [dead held member]
  unfold liveSchedules
  rcases schedules with ⟨unarmed, all⟩ | ⟨period, armed, all⟩
  · simp [all, none, unarmed]
  · simp [all, none, armed]

theorem checks_submit (system : System) (times : List Nat) :
    (times.foldl (fun state _ => state.check) system).submitted =
      system.submitted + times.length := by
  induction times generalizing system with
  | nil => rfl
  | cons time times induction =>
      have once : system.check.submitted = system.submitted + 1 := by
        unfold check
        cases isOpen : system.openLane with
        | none => rw [submit_closed isOpen]
        | some lane => rw [submit_open isOpen]
      rw [List.foldl_cons, induction, once, List.length_cons, Nat.add_assoc, Nat.add_comm 1]

theorem fire_submits (kept : system.traffic.Kept) :
    (system.submissions .fire).length = system.liveSchedules := by
  have counted := (passage kept .fire).submitted
  have checked : (system.apply .fire).submitted = system.submitted + system.liveSchedules := by
    have all := checks_submit system (List.range system.liveSchedules)
    rw [List.length_range] at all
    exact all
  exact Nat.add_left_cancel (counted.symm.trans checked)

/-- What the published state tells about the queue, the schedules and the lanes. -/
structure Told (system : System) : Prop where
  single : system.liveSchedules ≤ 1
  stopped : system.lifecycle = .stopped → system.openLane = none ∧ system.liveSchedules = 0 ∧
    ∀ held ∈ system.lanes, held.current = none ∧ held.waiting = []
  running : system.lifecycle = .running →
    system.openLane.isSome = true ∧ system.liveSchedules = 1 ∧ system.armed.isSome = true ∨
      system.Draining ∧ system.openLane = none ∧ system.liveSchedules = 0
  settled : system.Settled → [system.lifecycle = .running, system.armed.isSome = true,
    system.openLane.isSome = true, system.liveSchedules = 1].TFAE
  /-- When the host makes the schedules tick, each live one makes one request. -/
  fired : (system.submissions .fire).length = system.liveSchedules

/-- A schedule that was ended, so that its ticks come to nothing, due or not. -/
structure Silent (system : System) (schedule : ScheduleId) : Prop where
  ended : ∃ held, system.schedules[schedule]? = some held ∧ held.isLive = false
  ticks : ∀ (task : TaskId) (alarm : Option Alarm),
    system.tasks[task]? = some (.ticker schedule alarm) → system.submissions (.step task) = []

theorem Settled.not_draining (settled : system.Settled) : ¬system.Draining := by
  intro draining
  obtain ⟨task, lane, drains⟩ := draining
  obtain ⟨state, ended⟩ := settled.stopped task _ drains
  cases ended

/-- While the queue is closed and no call drains a lane, no lane has anything to do. -/
theorem Reached.lanes_empty (reached : system.Reached) (isClosed : system.openLane = none)
    (idle : ¬system.Draining) {held : Lane} (member : held ∈ system.lanes) :
    held.current = none ∧ held.waiting = [] := by
  obtain ⟨lane, found⟩ := List.mem_iff_getElem?.mp member
  have phase : system.helm.lanes[lane]? = some held.phase := by simp [helm, found]
  have unshut := reached.managed.not_shut fun other lane drains => idle ⟨other, lane, drains⟩
  have drained := Lane.drained_of_phase (reached.managed.all_drained isClosed unshut phase)
  have empty := (reached.kept.drained lane held found drained).2
  simpa [Lane.pending, Lane.served, Option.toList_eq_nil_iff] using empty

theorem Tended.told (tended : system.Tended) (reached : system.Reached) : system.Told := by
  have together : system.armed.isSome = system.openLane.isSome := reached.managed.armed
  have live := tended.live
  have running := tended.running
  refine ⟨?_, ?_, ?_, ?_, fire_submits reached.kept⟩
  · rw [live]
    split <;> simp
  · intro stopped
    have neither : ¬(system.armed.isSome = true ∨ system.Draining) := by
      rw [← running, stopped]
      decide
    obtain ⟨unarmed, idle⟩ := not_or.mp neither
    have isClosed : system.openLane = none :=
      Option.not_isSome_iff_eq_none.mp fun opened => unarmed (together.trans opened)
    refine ⟨isClosed, ?_, fun held member => reached.lanes_empty isClosed idle member⟩
    rw [live, if_neg unarmed]
  · intro runs
    rcases running.mp runs with armed | draining
    · exact .inl ⟨together ▸ armed, by rw [live, if_pos armed], armed⟩
    · obtain ⟨unarmed, isClosed⟩ := reached.unarmed draining
      exact .inr ⟨draining, isClosed, by simp [live, unarmed]⟩
  · intro settled
    have idle := settled.not_draining
    tfae_have 1 ↔ 2 := by simpa [idle] using running
    tfae_have 2 ↔ 3 := by rw [together]
    tfae_have 2 ↔ 4 := by
      rw [live]
      cases system.armed <;> simp
    tfae_finish

theorem Switch.stays_ended (switch : Switch system event next) {schedule : ScheduleId}
    {held : Schedule} (found : system.schedules[schedule]? = some held)
    (ended : held.isLive = false) :
    ∃ held, next.schedules[schedule]? = some held ∧ held.isLive = false := by
  cases switch with
  | rest armed schedules lifecycle draining silent => exact ⟨held, schedules ▸ found, ended⟩
  | begin period unarmed idle armed schedules lifecycle sets =>
      rw [schedules, List.getElem?_append_left (List.getElem?_eq_some_iff.mp found).1]
      exact ⟨held, found, ended⟩
  | shut other armed unarmed schedules lifecycle draining silent =>
      rw [schedules, List.getElem?_modify, found]
      refine ⟨_, rfl, ?_⟩
      split
      · rfl
      · exact ended
  | finish draining idle armed schedules lifecycle sets => exact ⟨held, schedules ▸ found, ended⟩

theorem ended_ticks (kept : system.traffic.Kept) {schedule : ScheduleId} {held : Schedule}
    (found : system.schedules[schedule]? = some held) (ended : held.isLive = false)
    {alarm : Option Alarm} (ticks : system.tasks[task]? = some (.ticker schedule alarm)) :
    system.submissions (.step task) = [] := by
  have same : (system.apply (.step task)).submitted = system.submitted := by
    cases alarm with
    | none => simp [apply, step, ticks]
    | some alarm => simp [apply, step, ticks, stepTicker, found, ended, setTask]
  have counted := (passage kept (.step task)).submitted
  rw [same, Nat.left_eq_add, List.length_eq_zero_iff] at counted
  exact counted

/-- Whatever calls to start and to stop overlap, the published state tells what there is
of the queue, of the schedules and of operations; the states that are published alternate
from the first one on, the last one being the present one; and a schedule that was ended
makes no request any more. -/
theorem lifecycle_tells_queue_and_schedules (outset : Outset) (events : List Event)
    (managed : ∀ event ∈ events, event.isManaged = true) :
    (outset.system.run events).Told ∧
      (announced outset events).IsChain (· ≠ ·) ∧
      (announced outset events).getLast? = some (outset.system.run events).lifecycle ∧
      ∀ schedule held, (outset.system.run events).schedules[schedule]? = some held →
        held.isLive = false → ∀ later : List Event, (∀ event ∈ later, event.isManaged = true) →
          ((outset.system.run events).run later).Silent schedule := by
  have reached := run_reached (outset_reached outset) events managed
  have tended := run_tended outset events managed
  obtain ⟨chain, last⟩ := announced_alternate outset events managed
  refine ⟨tended.told reached, chain, last, ?_⟩
  intro schedule held found ended later allowed
  let Ended (system : System) : Prop :=
    system.Reached ∧ ∃ held, system.schedules[schedule]? = some held ∧ held.isLive = false
  have kept (system : System) (event : Event) (allowed : event.isManaged = true)
      (holds : Ended system) : Ended (system.apply event) := by
    obtain ⟨reached, held, found, ended⟩ := holds
    exact ⟨reached.apply event allowed,
      (apply_switch reached event allowed).stays_ended found ended⟩
  obtain ⟨after, held, found, ended⟩ :=
    run_invariant_of kept ⟨reached, held, found, ended⟩ later allowed
  exact ⟨⟨held, found, ended⟩, fun task alarm ticks => ended_ticks after.kept found ended ticks⟩

end System

/-- A program whose schedules the clock makes tick. -/
def Outset.ticking : Outset := { Outset.guarded with tickSource := .clock }

namespace System

/-- The program was started, and stopped before its schedule ticked for the first time. -/
def halted : System :=
  Outset.ticking.system.run [.start, .step 0, .step 0, .stop, .step 3, .step 3, .step 1, .step 3]

theorem overdue_tick_makes_no_request :
    (∃ alarm, halted.tasks[2]? = some (.ticker 0 (some alarm)) ∧ alarm.due ≤ halted.clock) ∧
      (announced .ticking [.start, .step 0, .step 0, .stop, .step 3, .step 3, .step 1,
        .step 3]).getLast? = some halted.lifecycle ∧
      ∀ later : List Event, (∀ event ∈ later, event.isManaged = true) →
        (halted.run later).Silent 0 := by
  obtain ⟨-, -, last, silent⟩ := lifecycle_tells_queue_and_schedules .ticking [.start, .step 0,
    .step 0, .stop, .step 3, .step 3, .step 1, .step 3] (by decide)
  obtain ⟨held, found, ended⟩ : ∃ held, halted.schedules[0]? = some held ∧
    held.isLive = false := ⟨_, rfl, rfl⟩
  exact ⟨⟨⟨0, 0⟩, rfl, Nat.le_refl 0⟩, last, silent 0 held found ended⟩

end System

end CertRenewal
