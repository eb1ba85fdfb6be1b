import CertRenewal.Proofs.Lifecycle

/-!
The schedules, and the tasks that tick on them. Whatever calls to start and to stop
overlap, and whatever the host does itself, a schedule has one task at most, and once it
has ended that task makes no call any more.
-/

namespace CertRenewal

/-- What a task ticks on, and the moment for which it is set. -/
structure Beat where
  schedule : ScheduleId
  due : Nat
deriving DecidableEq, Repr

def Task.beat : Task → Option Beat
  | .ticker schedule (some alarm) => some ⟨schedule, alarm.due⟩
  | _ => none

/-- A call that a schedule made: the moment that it was made for, and the one at which it
came. -/
structure Tick where
  due : Nat
  came : Nat
deriving DecidableEq, Repr

/-- The schedules, the tasks that tick on them, and the period that a new one gets. -/
structure Rota where
  period : Nat
  clock : Nat
  schedules : List Schedule
  beat : TaskId → Option Beat

namespace Rota

/-- The schedules there were are there with their periods, and none has come to life
again. -/
structure Lasts (before after : List Schedule) : Prop where
  count : after.length = before.length
  kept : ∀ (schedule : ScheduleId) (held : Schedule), before[schedule]? = some held →
    ∃ later, after[schedule]? = some later ∧ later.period = held.period ∧
      (later.isLive = true → held.isLive = true)

/-- What an event does, and the calls that it makes on each schedule. -/
inductive Step (rota : Rota) (made : ScheduleId → List Tick) : Rota → Prop
  | rest (clock : Nat) (schedules : List Schedule) (later : rota.clock ≤ clock)
      (lasts : Lasts rota.schedules schedules) (quiet : ∀ schedule, made schedule = []) :
      Step rota made { rota with clock, schedules }
  | begin (task : TaskId) (schedules : List Schedule) (fresh : rota.beat task = none)
      (lasts : Lasts rota.schedules schedules) (quiet : ∀ schedule, made schedule = []) :
      Step rota made { rota with
        schedules := schedules ++ [⟨rota.period, true⟩]
        beat := Function.update rota.beat task (some ⟨schedules.length, rota.clock⟩) }
  | tick (task : TaskId) (beat : Beat) (held : Schedule) (found : rota.beat task = some beat)
      (there : rota.schedules[beat.schedule]? = some held) (live : held.isLive = true)
      (due : beat.due ≤ rota.clock) (own : made beat.schedule = [⟨beat.due, rota.clock⟩])
      (others : ∀ schedule, schedule ≠ beat.schedule → made schedule = []) :
      Step rota made { rota with
        beat := Function.update rota.beat task
          (some ⟨beat.schedule, Schedule.nextDue held.period beat.due rota.clock⟩) }
  | retire (task : TaskId) (beat : Beat) (held : Schedule) (found : rota.beat task = some beat)
      (there : rota.schedules[beat.schedule]? = some held) (ended : held.isLive = false)
      (quiet : ∀ schedule, made schedule = []) :
      Step rota made { rota with beat := Function.update rota.beat task none }

/-- Each task ticks on a schedule that there is, and no two on the same one. -/
structure Kept (rota : Rota) : Prop where
  placed : ∀ task beat, rota.beat task = some beat → beat.schedule < rota.schedules.length
  single : ∀ task other beat there, rota.beat task = some beat → rota.beat other = some there →
    there.schedule = beat.schedule → other = task

/-- A schedule that there is, and that has ended. -/
def Ended (schedules : List Schedule) (schedule : ScheduleId) : Prop :=
  ∃ held, schedules[schedule]? = some held ∧ held.isLive = false

variable {rota next : Rota} {made : ScheduleId → List Tick} {schedule : ScheduleId}
  {task : TaskId} {schedules : List Schedule}

theorem lasts_refl (schedules : List Schedule) : Lasts schedules schedules where
  count := rfl
  kept _ held found := ⟨held, found, rfl, id⟩

theorem lasts_ended (schedules : List Schedule) (schedule : ScheduleId) :
    Lasts schedules (schedules.modify schedule fun held => { held with isLive := false }) where
  count := List.length_modify ..
  kept other held found := by
    rw [List.getElem?_modify, found]
    refine ⟨_, rfl, ?_⟩
    split
    · exact ⟨rfl, nofun⟩
    · exact ⟨rfl, id⟩

theorem Ended.append (ended : Ended schedules schedule) (more : List Schedule) :
    Ended (schedules ++ more) schedule := by
  obtain ⟨held, found, dead⟩ := ended
  exact ⟨held, (List.getElem?_append_left (List.getElem?_eq_some_iff.mp found).1).trans found, dead⟩

theorem Lasts.ended {after : List Schedule} (lasts : Lasts schedules after)
    (ended : Ended schedules schedule) : Ended after schedule := by
  obtain ⟨held, found, ended⟩ := ended
  obtain ⟨later, there, -, revived⟩ := lasts.kept schedule held found
  refine ⟨later, there, Bool.eq_false_iff.mpr fun live => ?_⟩
  rw [revived live] at ended
  cases ended

theorem beat_update {after : Option Beat} {other : TaskId} {beat : Beat}
    (found : Function.update rota.beat task after other = some beat) :
    other = task ∧ after = some beat ∨ other ≠ task ∧ rota.beat other = some beat := by
  by_cases itself : other = task
  · subst itself
    rw [Function.update_self] at found
    exact .inl ⟨rfl, found⟩
  · rw [Function.update_of_ne itself] at found
    exact .inr ⟨itself, found⟩

theorem Kept.set (kept : rota.Kept) {old : Beat} (found : rota.beat task = some old)
    (after : Option Beat) (same : ∀ beat, after = some beat → beat.schedule = old.schedule) :
    ({ rota with beat := Function.update rota.beat task after } : Rota).Kept where
  placed other beat there := by
    rcases beat_update there with ⟨-, now⟩ | ⟨-, before⟩
    · rw [same beat now]
      exact kept.placed task old found
    · exact kept.placed other beat before
  single first second one two found₁ found₂ alike := by
    rcases beat_update found₁ with ⟨rfl, now₁⟩ | ⟨-, before₁⟩ <;>
      rcases beat_update found₂ with ⟨rfl, now₂⟩ | ⟨-, before₂⟩
    · rfl
    · exact kept.single _ _ old two found before₂ (alike.trans (same one now₁))
    · exact (kept.single _ _ old one found before₁ (alike.symm.trans (same two now₂))).symm
    · exact kept.single _ _ one two before₁ before₂ alike

/-- A task that ticks on a schedule behind all the others has it for itself. -/
theorem Kept.begin (kept : rota.Kept) {schedules : List Schedule}
    (count : schedules.length = rota.schedules.length) (held : Schedule) (due : Nat) :
    ({ rota with
      schedules := schedules ++ [held]
      beat := Function.update rota.beat task (some ⟨schedules.length, due⟩) } : Rota).Kept := by
  have older {other : TaskId} {beat : Beat} (before : rota.beat other = some beat) :
      beat.schedule < schedules.length := count ▸ kept.placed other beat before
  refine ⟨fun other beat found => ?_, fun first second one two found₁ found₂ alike => ?_⟩
  · rw [List.length_append]
    rcases beat_update found with ⟨-, now⟩ | ⟨-, before⟩
    · obtain rfl := Option.some.inj now
      exact Nat.lt_succ_self _
    · exact Nat.lt_succ_of_lt (older before)
  · rcases beat_update found₁ with ⟨rfl, now₁⟩ | ⟨-, before₁⟩ <;>
      rcases beat_update found₂ with ⟨rfl, now₂⟩ | ⟨-, before₂⟩
    · rfl
    · obtain rfl := Option.some.inj now₁
      exact absurd alike (Nat.ne_of_lt (older before₂))
    · obtain rfl := Option.some.inj now₂
      exact absurd alike.symm (Nat.ne_of_lt (older before₁))
    · exact kept.single _ _ one two before₁ before₂ alike

theorem Step.kept (kept : rota.Kept) (step : Step rota made next) : next.Kept := by
  cases step with
  | rest clock schedules later lasts quiet =>
      refine ⟨fun task beat found => ?_, kept.single⟩
      rw [lasts.count]
      exact kept.placed task beat found
  | begin task schedules fresh lasts quiet => exact kept.begin lasts.count _ _
  | tick task beat held found there live due own others =>
      exact kept.set found _ fun after now => (congrArg Beat.schedule (Option.some.inj now)).symm
  | retire task beat held found there ended quiet =>
      exact kept.set found none fun after now => nomatch now

theorem Step.count (step : Step rota made next) :
    rota.schedules.length ≤ next.schedules.length := by
  cases step with
  | rest clock schedules later lasts quiet => exact Nat.le_of_eq lasts.count.symm
  | begin task schedules fresh lasts quiet =>
      show rota.schedules.length ≤ (schedules ++ [_]).length
      rw [List.length_append, lasts.count]
      exact Nat.le_add_right _ _
  | _ => exact Nat.le_refl _

/-- No call is made on a schedule that is not there yet. -/
theorem Step.none_before (kept : rota.Kept) (step : Step rota made next)
    (early : rota.schedules.length ≤ schedule) : made schedule = [] := by
  cases step with
  | tick task beat held found there live due own others =>
      refine others schedule fun same => ?_
      exact Nat.not_lt_of_le early (same ▸ kept.placed task beat found)
  | _ => exact ‹∀ schedule, made schedule = []› schedule

/-- A schedule that has ended stays so, and no call is made on it. -/
theorem Step.ended (step : Step rota made next) (ended : Ended rota.schedules schedule) :
    Ended next.schedules schedule ∧ made schedule = [] := by
  cases step with
  | rest clock schedules later lasts quiet => exact ⟨lasts.ended ended, quiet schedule⟩
  | begin task schedules fresh lasts quiet =>
      exact ⟨(lasts.ended ended).append _, quiet schedule⟩
  | tick task beat held found there live due own others =>
      refine ⟨ended, others schedule ?_⟩
      rintro rfl
      obtain ⟨other, same, dead⟩ := ended
      obtain rfl := Option.some.inj (there.symm.trans same)
      rw [live] at dead
      cases dead
  | retire task beat held found there dead quiet => exact ⟨ended, quiet schedule⟩

end Rota

namespace System

def beat (system : System) : TaskId → Option Beat := system.readTask Task.beat none

def rota (system : System) : Rota where
  period := Schedule.keptPeriod system.intervals.checkInterval
  clock := system.clock
  schedules := system.schedules
  beat := system.beat

/-- The calls that an event makes on a schedule: the requests that its task submits. -/
def ticks (schedule : ScheduleId) (system : System) : Event → List Tick
  | .step task =>
    match system.beat task with
    | some beat =>
      if beat.schedule = schedule then
        (system.submissions (.step task)).map fun _ => ⟨beat.due, system.clock⟩
      else []
    | none => []
  | _ => []

/-- Whether an event arms a schedule, which is then one more than there were. -/
def Arms (system : System) (event : Event) : Prop :=
  system.schedules.length < (system.apply event).schedules.length

instance (system : System) (event : Event) : Decidable (system.Arms event) :=
  inferInstanceAs (Decidable (_ < _))

/-- Whether the handle of a schedule is dropped or cancelled in an event. -/
inductive LetsGo (system : System) (schedule : ScheduleId) : Event → Prop
  | drop (armed : system.armed = some schedule) : LetsGo system schedule .disarm
  | cancel (armed : system.armed = some schedule) : LetsGo system schedule .cancelSchedule
  | replace (armed : system.armed = some schedule) : LetsGo system schedule .arm
  | stop (task : TaskId) (armed : system.armed = some schedule)
      (found : system.tasks[task]? = some (.stop .disarming)) :
      LetsGo system schedule (.step task)

variable {system next moved : System} {task : TaskId} {event : Event} {schedule : ScheduleId}

theorem beat_found {kind : Task} (found : system.tasks[task]? = some kind) :
    system.beat task = kind.beat :=
  read_task_found Task.beat none found

theorem beat_same (tasks : next.tasks = system.tasks) : next.beat = system.beat := by
  unfold beat readTask
  rw [tasks]

theorem beat_set_task {old : Task} (new : Task) (found : system.tasks[task]? = some old)
    (tasks : moved.tasks = system.tasks) :
    (moved.setTask task new).beat = Function.update system.beat task new.beat :=
  read_task_set Task.beat none new found tasks

theorem beat_set_idle {old : Task} (new : Task) (found : moved.tasks[task]? = some old)
    (idle : old.beat = none) (still : new.beat = none) :
    (moved.setTask task new).beat = moved.beat := by
  rw [beat_set_task new found rfl, still, ← idle, ← beat_found found, Function.update_eq_self]

theorem beat_append {added : List Task} (tasks : next.tasks = system.tasks ++ added)
    (idle : ∀ kind ∈ added, kind.beat = none) : next.beat = system.beat :=
  read_task_append Task.beat none tasks idle

/-- A task that does not tick makes no call. -/
theorem no_ticks (idle : system.beat task = none) (schedule : ScheduleId) :
    system.ticks schedule (.step task) = [] := by
  simp only [ticks, idle]

theorem ticks_of_beat {beat : Beat} (found : system.beat task = some beat)
    (schedule : ScheduleId) : system.ticks schedule (.step task) =
      if beat.schedule = schedule then
        List.replicate ((system.apply (.step task)).submitted - system.submitted)
          ⟨beat.due, system.clock⟩
      else [] := by
  have came : (system.submissions (.step task)).length =
      (system.apply (.step task)).submitted - system.submitted := by
    simp [submissions, Traffic.newcomers, traffic]
  simp only [ticks, found]
  rw [← came, List.map_const']

/-- An event in which no request is submitted makes no call. -/
theorem ticks_of_same (same : (system.apply event).submitted = system.submitted)
    (schedule : ScheduleId) : system.ticks schedule event = [] := by
  cases event with
  | step task =>
      cases found : system.beat task with
      | none => exact no_ticks found schedule
      | some beat =>
          rw [ticks_of_beat found, same, Nat.sub_self]
          exact ite_self _
  | _ => rfl

/-- Neither a schedule nor a task that ticks is touched. -/
theorem rota_rest (beats : next.beat = system.beat) (settings : next.settings = system.settings)
    (later : system.clock ≤ next.clock) (lasts : Rota.Lasts system.schedules next.schedules)
    (quiet : ∀ schedule, system.ticks schedule event = []) :
    Rota.Step system.rota (system.ticks · event) next.rota := by
  have intervals : next.intervals = system.intervals := congrArg Prod.fst settings
  have same : next.rota =
      { system.rota with clock := next.clock, schedules := next.schedules } := by
    unfold rota
    rw [intervals, beats]
  rw [same]
  exact .rest _ _ later lasts quiet

/-- A step that leaves the schedules alone and is not taken by a task that ticks. -/
theorem rota_idle {old : Task} (new : Task) (found : system.tasks[task]? = some old)
    (idle : old.beat = none) (still : new.beat = none) (tasks : moved.tasks = system.tasks)
    (settings : moved.settings = system.settings) (clock : moved.clock = system.clock)
    (lasts : Rota.Lasts system.schedules moved.schedules) :
    Rota.Step system.rota (system.ticks · (.step task)) (moved.setTask task new).rota := by
  refine rota_rest ?_ settings (Nat.le_of_eq clock.symm) lasts (no_ticks ?_)
  · rw [beat_set_idle new (tasks ▸ found) idle still, beat_same tasks]
  · rw [beat_found found, idle]

theorem disarm_armed_lasts (system : System) :
    Rota.Lasts system.schedules system.disarmArmed.schedules := by
  unfold disarmArmed
  split
  · exact Rota.lasts_ended system.schedules _
  · exact Rota.lasts_refl system.schedules

/-- A schedule that the clock drives is armed with a task of its own, set for now. -/
theorem arm_rota (clocked : system.tickSource = .clock) : system.arm.rota = { system.rota with
    schedules := system.schedules ++ [⟨system.rota.period, true⟩]
    beat := Function.update system.beat system.tasks.length
      (some ⟨system.schedules.length, system.clock⟩) } := by
  let alarm : Alarm := ⟨system.clock, system.alarmCount⟩
  have tasks : system.arm.tasks = (system.spawn (.ticker system.schedules.length alarm)).tasks := by
    simp [arm, clocked, setAlarm, spawn, alarm]
  have beats : system.arm.beat = Function.update system.beat system.tasks.length
      (some ⟨system.schedules.length, system.clock⟩) := by
    have spawned := @read_task_spawn system _ Task.beat none
      (.ticker system.schedules.length alarm)
    unfold beat readTask at spawned ⊢
    rw [tasks]
    exact spawned
  obtain ⟨added, -, frame⟩ := arm_frame system
  unfold rota
  rw [beats, frame]

theorem arm_begins (clocked : system.tickSource = .clock) {before : System}
    (beats : system.beat = before.beat) (settings : system.settings = before.settings)
    (clock : system.clock = before.clock)
    (lasts : Rota.Lasts before.schedules system.schedules)
    (quiet : ∀ schedule, before.ticks schedule event = []) :
    Rota.Step before.rota (before.ticks · event) system.arm.rota := by
  have intervals : system.intervals = before.intervals := congrArg Prod.fst settings
  have fresh : before.rota.beat system.tasks.length = none := by
    show before.beat system.tasks.length = none
    rw [← beats]
    exact read_task_next Task.beat none
  have begun := Rota.Step.begin system.tasks.length system.schedules fresh lasts quiet
  rw [arm_rota clocked]
  unfold rota at begun ⊢
  rw [intervals, beats, clock]
  exact begun

theorem open_queue_beat (system : System) : system.openQueue.beat = system.beat := by
  cases isOpen : system.openLane with
  | some lane => rw [open_queue_open isOpen]
  | none =>
      rw [open_queue_closed isOpen]
      exact beat_append rfl (by simp [Task.beat])

theorem start_up_rota (clocked : system.tickSource = .clock)
    (quiet : ∀ schedule, system.ticks schedule event = []) :
    Rota.Step system.rota (system.ticks · event) system.startUp.rota := by
  unfold startUp
  split
  · exact rota_rest rfl rfl (Nat.le_refl _) (Rota.lasts_refl _) quiet
  · have source : system.openQueue.tickSource = .clock := by
      rw [open_queue_frame]
      exact clocked
    have frame : system.openQueue.settings = system.settings ∧
        system.openQueue.clock = system.clock ∧
        system.openQueue.schedules = system.schedules := by
      rw [open_queue_frame]
      exact ⟨rfl, rfl, rfl⟩
    obtain ⟨settings, clock, schedules⟩ := frame
    refine arm_begins source (open_queue_beat system) settings clock ?_ quiet
    rw [schedules]
    exact Rota.lasts_refl _

theorem StartStep.rota (clocked : system.tickSource = .clock) {stage after : StartStage}
    (found : system.tasks[task]? = some (.start stage))
    (step : StartStep system task stage moved after) :
    Rota.Step system.rota (system.ticks · (.step task)) (moved.setTask task (.start after)).rota := by
  cases step with
  | «open» =>
      have there : (system.startUp.releaseControl task).tasks[task]? = some (.start .opening) :=
        start_up_found found
      have beats := beat_set_idle (.start (.ended system.startUp.lifecycle)) there rfl rfl
      have same : ((system.startUp.releaseControl task).setTask task
          (.start (.ended system.startUp.lifecycle))).rota = system.startUp.rota := by
        unfold System.rota
        rw [beats]
        rfl
      rw [same]
      exact start_up_rota clocked (no_ticks (beat_found found))
  | _ => exact rota_idle _ found rfl rfl rfl rfl rfl (Rota.lasts_refl _)

theorem TickerStep.rota {alarm : Alarm} {after : Option Alarm}
    (found : system.tasks[task]? = some (.ticker schedule (some alarm)))
    (step : TickerStep system schedule alarm moved after)
    (applied : system.apply (.step task) = moved.setTask task (.ticker schedule after)) :
    Rota.Step system.rota (system.ticks · (.step task))
      (moved.setTask task (.ticker schedule after)).rota := by
  have beats : system.rota.beat task = some ⟨schedule, alarm.due⟩ := beat_found found
  have made := ticks_of_beat beats
  rw [applied] at made
  cases step with
  | retire held there dead =>
      have after := beat_set_task (.ticker schedule none) found rfl
      have rule : Rota.Step system.rota (system.ticks · (.step task)) _ :=
        .retire task _ held beats there dead fun other => by
          rw [made other]
          simp [setTask]
      have same : (system.setTask task (.ticker schedule none)).rota = { system.rota with
          beat := Function.update system.rota.beat task none } := by
        unfold System.rota
        rw [after]
        rfl
      rw [same]
      exact rule
  | tick held next there live due at_next =>
      let ticked := { system.check with alarmCount := system.check.alarmCount + 1 }
      have tasks : ticked.tasks = system.tasks := submit_tasks system _ false
      have after := beat_set_task (.ticker schedule (some next)) found tasks
      have once : (ticked.setTask task (.ticker schedule (some next))).submitted =
          system.submitted + 1 := submit_count system _ false
      rw [once, Nat.add_sub_cancel_left] at made
      have rule : Rota.Step system.rota (system.ticks · (.step task)) _ :=
        .tick task _ held beats there live due (by rw [made, if_pos rfl]; rfl)
          fun other different => by rw [made, if_neg different.symm]
      have same : (ticked.setTask task (.ticker schedule (some next))).rota = { system.rota with
          beat := Function.update system.rota.beat task
            (some ⟨schedule, Schedule.nextDue held.period alarm.due system.clock⟩) } := by
        obtain ⟨settings, clock⟩ :=
          submit_settings system (.background system.store.features) false
        have intervals : ticked.intervals = system.intervals := congrArg Prod.fst settings
        have schedules : ticked.schedules = system.schedules :=
          (unmoved_submit system _ false).schedules
        have beat : (Task.ticker schedule (some next)).beat =
            some ⟨schedule, Schedule.nextDue held.period alarm.due system.clock⟩ := by
          simp only [Task.beat, at_next]
        unfold System.rota
        rw [after, beat]
        simp only [setTask, intervals, schedules]
        exact congrArg (fun clock => Rota.mk _ clock _ _) clock
      rw [same]
      exact rule

theorem WorkerStep.rota {lane : LaneId} (found : system.tasks[task]? = some (.worker lane))
    (step : WorkerStep system task lane next) :
    Rota.Step system.rota (system.ticks · (.step task)) next.rota := by
  obtain ⟨settings, clock⟩ := (TaskStep.worker lane next found step).settings
  have schedules : next.schedules = system.schedules := by
    cases step with
    | carry held id operation after moved there current moves =>
        rw [moves.frame]
        rfl
    | deliver held id operation after moved outcome there current moves =>
        rw [moves.frame]
        rfl
    | _ => rfl
  refine rota_rest (beat_same step.tasks) settings (Nat.le_of_eq clock.symm) ?_
    (no_ticks (beat_found found))
  rw [schedules]
  exact Rota.lasts_refl _

theorem StopStep.rota {stage after : StopStage} (found : system.tasks[task]? = some (.stop stage))
    (step : StopStep system task stage moved after) :
    Rota.Step system.rota (system.ticks · (.step task)) (moved.setTask task (.stop after)).rota := by
  have frame := step.frame
  have lasts : Rota.Lasts system.schedules moved.schedules := by
    cases step with
    | shut schedule lane armed isOpen => exact disarm_armed_lasts system
    | closed schedule armed isClosed => exact disarm_armed_lasts system
    | _ => exact Rota.lasts_refl _
  exact rota_idle _ found rfl rfl (by rw [frame]) (by rw [frame]; rfl) (by rw [frame]) lasts

theorem TaskStep.rota (clocked : system.tickSource = .clock) (step : TaskStep system task next)
    (applied : system.apply (.step task) = next) :
    Rota.Step system.rota (system.ticks · (.step task)) next.rota := by
  have lasts := Rota.lasts_refl system.schedules
  cases step with
  | worker lane next found step => exact step.rota found
  | direct operation after isCancelled moved found step =>
      rw [step.frame]
      exact rota_idle _ found rfl rfl rfl rfl rfl lasts
  | holder stage after moved found step =>
      rw [step.frame]
      exact rota_idle _ found rfl rfl rfl rfl rfl lasts
  | fork session stage after moved found step =>
      cases step with
      | submit =>
          obtain ⟨settings, clock⟩ :=
            submit_settings system (.afterSession system.store.features) false
          have schedules := (unmoved_submit system (.afterSession system.store.features)
            false).schedules
          refine rota_idle _ found rfl rfl (submit_tasks system _ false) settings clock ?_
          rw [schedules]
          exact lasts
      | _ => exact rota_idle _ found rfl rfl rfl rfl rfl lasts
  | start stage after moved found step => exact step.rota clocked found
  | stop stage after moved found step => exact step.rota found
  | close stage after moved found step =>
      rw [step.frame]
      exact rota_idle _ found rfl rfl rfl rfl rfl lasts
  | ticker schedule alarm after moved found step => exact step.rota found applied

/-- What any event does to the schedules and to the tasks that tick on them. -/
theorem apply_rota (clocked : system.tickSource = .clock) (event : Event) :
    Rota.Step system.rota (system.ticks · event) (system.apply event).rota := by
  have rule := apply_cases system event
  have settled := apply_settings system event
  generalize applied : system.apply event = next at rule settled
  obtain ⟨settings, later⟩ := settled
  have quiet (same : next.submitted = system.submitted) (schedule : ScheduleId) :
      system.ticks schedule event = [] := ticks_of_same (applied ▸ same) schedule
  have untouched (same : Unmoved system next) (silent : ∀ schedule, system.ticks schedule event = [])
      : Rota.Step system.rota (system.ticks · event) next.rota := by
    refine rota_rest ?_ settings later ?_ silent
    · exact beat_same same.tasks
    · rw [same.schedules]
      exact Rota.lasts_refl _
  cases rule with
  | step task next moves => exact moves.rota clocked applied
  | stay => exact untouched ⟨rfl, rfl, rfl, rfl⟩ (quiet rfl)
  | aside => exact untouched ⟨rfl, rfl, rfl, rfl⟩ (quiet rfl)
  | begin event kind begun =>
      refine rota_rest (beat_append rfl fun task member => ?_) settings later
        (Rota.lasts_refl _) (quiet rfl)
      rw [List.mem_singleton.mp member]
      cases begun <;> rfl
  | submit request listens =>
      exact untouched (unmoved_submit system request listens) fun _ => rfl
  | fire =>
      exact untouched (fire_invariant (fun next same => same.trans (unmoved_submit next _ _))
        ⟨rfl, rfl, rfl, rfl⟩) fun _ => rfl
  | openQueue =>
      refine rota_rest (open_queue_beat system) settings later ?_ fun _ => rfl
      rw [open_queue_frame]
      exact Rota.lasts_refl _
  | arm =>
      have frame := disarm_armed_frame system
      refine arm_begins ?_ ?_ ?_ ?_ (disarm_armed_lasts system) fun _ => rfl
      · rw [frame]
        exact clocked
      · rw [frame]
        rfl
      · rw [frame]
        rfl
      · rw [frame]
  | disarm =>
      refine rota_rest ?_ settings later (disarm_armed_lasts system) fun _ => rfl
      rw [disarm_armed_frame]
      rfl
  | cancelSchedule schedule =>
      exact rota_rest rfl settings later (Rota.lasts_ended system.schedules schedule) fun _ => rfl
  | tryHold free =>
      refine rota_rest (beat_append rfl fun task member => ?_) settings later
        (Rota.lasts_refl _) fun _ => rfl
      rw [List.mem_singleton.mp member]
      rfl
  | release task found =>
      have beats : ((system.releaseToken task).setTask task (.holder .released)).beat =
          system.beat := beat_set_idle (.holder .released) found rfl rfl
      exact rota_rest beats settings later (Rota.lasts_refl _) fun _ => rfl
  | cancelDirect task operation isCancelled found =>
      exact rota_rest (beat_set_idle (.direct operation true) found rfl rfl) settings later
        (Rota.lasts_refl _) fun _ => rfl

theorem run_clocked (outset : Outset) (clocked : outset.tickSource = .clock)
    (events : List Event) : (outset.system.run events).tickSource = .clock :=
  (congrArg (fun laid => laid.2.2.1) (run_settings outset events)).trans clocked

theorem run_rota (outset : Outset) (clocked : outset.tickSource = .clock) (events : List Event) :
    (outset.system.run events).rota.Kept := by
  induction events using List.reverseRecOn with
  | nil => exact ⟨nofun, nofun⟩
  | append_singleton events event induction =>
      rw [run_concat]
      exact (apply_rota (run_clocked outset clocked events) event).kept induction

theorem disarm_ended (there : schedule < system.schedules.length) :
    Rota.Ended (system.disarm schedule).schedules schedule :=
  ⟨{ system.schedules[schedule] with isLive := false }, by simp [disarm, there], rfl⟩

/-- A schedule whose handle is let go has ended. -/
theorem LetsGo.ended (letsGo : system.LetsGo schedule event)
    (there : schedule < system.schedules.length) :
    Rota.Ended (system.apply event).schedules schedule := by
  have dropped (armed : system.armed = some schedule) :
      Rota.Ended system.disarmArmed.schedules schedule := by
    simp only [disarmArmed, armed]
    exact disarm_ended there
  cases letsGo with
  | drop armed => exact dropped armed
  | cancel armed =>
      simp only [apply, cancelArmed, armed]
      exact disarm_ended there
  | replace armed =>
      obtain ⟨added, -, frame⟩ := arm_frame system.disarmArmed
      have schedules : (system.apply .arm).schedules = system.disarmArmed.schedules ++ _ :=
        congrArg schedules frame
      rw [schedules]
      exact (dropped armed).append _
  | stop task armed found =>
      have schedules : (system.apply (.step task)).schedules = system.disarmArmed.schedules := by
        simp only [apply, step, found, stepStop, armed]
        split <;> rfl
      rw [schedules]
      exact dropped armed

end System

end CertRenewal
