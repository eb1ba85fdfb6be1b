import CertRenewal.Proofs.Ledger
import CertRenewal.Proofs.Quiescence
import CertRenewal.Proofs.SingleLane

/-!
A program that is left alone, from its start until somebody calls for a certificate. Its
schedule ticks at every period, a tick before the window of the refresh comes to nothing,
and one inside it leads to a call at its own moment.
-/

namespace CertRenewal

/-- Whether the host starts the program and then leaves it alone. -/
def Event.isUnattended : Event → Bool
  | .step _ => true
  | .elapse _ => true
  | .forget _ => true
  | .start => true
  | .permitRefreshes _ => true
  | .permitSessions _ => true
  | .scriptRefresh _ => true
  | .scriptSession _ => true
  | .refuseStoring _ => true
  | .readKeys => true
  | _ => false

/-- How much time passes in an event, if it does. -/
def Event.elapsed? : Event → Option Nat
  | .elapse millis => some millis
  | _ => none

/-- A program that has a certificate and keys, and checks the certificate often enough. -/
structure Outset.Watches (outset : Outset) (certificate : Certificate) : Prop where
  clock : outset.tickSource = .clock
  held : outset.store.certificate = some certificate
  keyed : outset.store.keys.1.isSome = true
  period : 0 < outset.intervals.checkInterval
  often : outset.intervals.checkInterval ≤ outset.intervals.refreshEarlierBy
  /-- The clock can name the moment at which the window begins, or else it runs behind the
  epoch, where a moment that it cannot name has passed. -/
  named : (certificate.refreshTime.before? outset.margin).isSome = true ∨
    Instant.epoch ≤ outset.origin

namespace Outset

/-- The moment of a tick of the schedule, counted from zero, when it began at `start`. -/
def tick (outset : Outset) (start count : Nat) : Instant :=
  outset.origin.after (.ofMillis (start + count * outset.intervals.checkInterval))

/-- The moment from which a certificate is refreshed. -/
def opening (outset : Outset) (certificate : Certificate) : Instant :=
  certificate.refreshTime.before outset.margin

end Outset

/-- The first tick that lies in the window. -/
structure Outset.FirstInside (outset : Outset) (start : Nat) (certificate : Certificate)
    (tick : Nat) : Prop where
  inside : outset.opening certificate ≤ outset.tick start tick
  early : ∀ earlier < tick, outset.tick start earlier < outset.opening certificate

/-- A request is in the lane, and has not come to a call yet. -/
inductive Lane.Owes (request : Request) (held : Lane) : Prop
  | queued (id : RequestId) (free : held.current = none) (waiting : held.waiting = [⟨id, request⟩])
  | taken (id : RequestId) (operation : Operation) (current : held.current = some (id, operation))
      (alone : held.waiting = []) (asks : operation.request = request)
      (stage : operation.stage = .created ∨ operation.stage = .arriving ∨
        operation.stage = .admitted)

namespace System

/-- The moment at which an event begins a refresh call, if it does. -/
def callsBegun (system : System) (event : Event) : List Instant :=
  List.replicate ((system.apply event).issuer.refreshCalls - system.issuer.refreshCalls)
    system.now

/-- Time passes when nothing can move any more, and never beyond an alarm. -/
def Punctual (system : System) (event : Event) : Prop :=
  ∀ millis ∈ event.elapsed?, system.Quiescent ∧ ∀ task < system.tasks.length,
    ∀ alarm ∈ system.alarm? task, system.clock + millis ≤ alarm.due

instance (system : System) (event : Event) : Decidable (system.Punctual event) :=
  inferInstanceAs (Decidable (∀ millis ∈ event.elapsed?, _ ∧ _))

/-- Every event of a run comes at its time. -/
def RunsPunctually (system : System) : List Event → Prop
  | [] => True
  | event :: events => system.Punctual event ∧ (system.apply event).RunsPunctually events

instance decideRunsPunctually : (system : System) → (events : List Event) →
    Decidable (system.RunsPunctually events)
  | _, [] => .isTrue trivial
  | system, event :: events =>
      have := decideRunsPunctually (system.apply event) events
      inferInstanceAs (Decidable (_ ∧ _))

/-- One ticker is set for `due`, and the other tasks start the program or serve its lane. -/
def Clockwork (tasks : List Task) (due : Nat) : Prop :=
  ∃ (ticker : Nat) (alarm : Alarm), tasks[ticker]? = some (.ticker 0 (some alarm)) ∧
    alarm.due = due ∧ ∀ (other : Nat) (kind : Task), other ≠ ticker →
      tasks[other]? = some kind → kind = .worker 0 ∨ ∃ stage, kind = .start stage

/-- All tasks are calls to start the program that have not opened it yet. -/
def Starting (tasks : List Task) : Prop :=
  ∀ kind ∈ tasks, ∃ stage, kind = .start stage ∧ ∀ state, stage ≠ .ended state

/-- What was laid down is as it was, one lane is open and one schedule is armed. -/
structure Underway (outset : Outset) (system : System) : Prop where
  settings : system.settings = outset.system.settings
  store : system.store = outset.store
  openLane : system.openLane = some 0
  armed : system.armed = some 0
  schedules : system.schedules = [⟨outset.intervals.checkInterval, true⟩]

/-- How the lane stands at a time, behind so many ticks: all of them came to nothing, or the
last one has just come. -/
inductive Checked (outset : Outset) (start : Nat) (certificate : Certificate) (ticks clock : Nat)
    (held : Lane) : Prop
  | done (free : held.current = none) (empty : held.waiting = [])
      (early : ∀ tick < ticks, outset.tick start tick < outset.opening certificate)
      (since : start ≤ clock) (until_due : clock ≤ start + ticks * outset.intervals.checkInterval)
  | owed (last : Nat) (owes : held.Owes (.background outset.store.features))
      (again : ticks = last + 1) (now : clock = start + last * outset.intervals.checkInterval)
      (early : ∀ tick < last, outset.tick start tick < outset.opening certificate)

/-- Nobody has called for a certificate yet. The program is not opened, or it has ticked. -/
inductive Uncalled (outset : Outset) (start : Nat) (certificate : Certificate)
    (system : System) : Prop
  | unopened (settings : system.settings = outset.system.settings)
      (store : system.store = outset.store) (lanes : system.lanes = [])
      (isClosed : system.openLane = none) (unarmed : system.armed = none)
      (schedules : system.schedules = [])
      (starting : Starting system.tasks) (clock : system.tasks ≠ [] → system.clock = start)
  | ticking (ticks : Nat) (held : Lane) (underway : Underway outset system)
      (tasks : Clockwork system.tasks (start + ticks * outset.intervals.checkInterval))
      (lanes : system.lanes = [held]) (unshut : held.isShut = false)
      (checked : Checked outset start certificate ticks system.clock held)

/-- What comes next while nobody has called for a certificate: nobody does so now, or a call
begins at the first tick in the window. -/
inductive Follows (outset : Outset) (start : Nat) (certificate : Certificate)
    (system next : System) : Prop
  | rest (uncalled : Uncalled outset start certificate next)
      (calls : next.issuer.refreshCalls = system.issuer.refreshCalls)
  | call (tick : Nat) (now : system.clock = start + tick * outset.intervals.checkInterval)
      (calls : next.issuer.refreshCalls = system.issuer.refreshCalls + 1)
      (first : outset.FirstInside start certificate tick)

variable {outset : Outset} {start ticks due : Nat} {certificate : Certificate} {event : Event}
  {system moved next : System} {task : TaskId} {held : Lane} {tasks : List Task}

namespace Clockwork

/-- A call to start goes on. -/
theorem start_set (clockwork : Clockwork tasks due) {stage : StartStage} (after : StartStage)
    (found : tasks[task]? = some (.start stage)) :
    Clockwork (tasks.set task (.start after)) due := by
  obtain ⟨ticker, alarm, ticks, at_due, others⟩ := clockwork
  have apart : ticker ≠ task := by
    rintro rfl
    cases ticks.symm.trans found
  refine ⟨ticker, alarm, by rw [List.getElem?_set_ne apart.symm, ticks], at_due, ?_⟩
  intro other kind different there
  by_cases itself : other = task
  · subst itself
    have bound := (List.getElem?_eq_some_iff.mp found).1
    rw [List.getElem?_set_self bound] at there
    exact .inr ⟨after, (Option.some.inj there).symm⟩
  · rw [List.getElem?_set_ne (Ne.symm itself)] at there
    exact others other kind different there

theorem append_start (clockwork : Clockwork tasks due) (stage : StartStage) :
    Clockwork (tasks ++ [.start stage]) due := by
  obtain ⟨ticker, alarm, ticks, at_due, others⟩ := clockwork
  have bound := (List.getElem?_eq_some_iff.mp ticks).1
  refine ⟨ticker, alarm, by rw [List.getElem?_append_left bound, ticks], at_due, ?_⟩
  intro other kind different there
  rw [List.getElem?_append] at there
  split at there
  · exact others other kind different there
  · exact .inr ⟨stage, List.mem_singleton.mp (List.mem_of_getElem? there)⟩

theorem ticker_due (clockwork : Clockwork tasks due) {schedule : ScheduleId} {alarm : Alarm}
    (found : tasks[task]? = some (.ticker schedule (some alarm))) :
    schedule = 0 ∧ alarm.due = due ∧ ∀ (other : Nat) (kind : Task), other ≠ task →
      tasks[other]? = some kind → kind = .worker 0 ∨ ∃ stage, kind = .start stage := by
  obtain ⟨ticker, there, ticks, at_due, others⟩ := clockwork
  obtain rfl : task = ticker := by
    by_contra different
    rcases others task _ different found with served | ⟨stage, starts⟩
    · cases served
    · cases starts
  obtain ⟨rfl, same⟩ := Task.ticker.inj (Option.some.inj (found.symm.trans ticks))
  obtain rfl := Option.some.inj same
  exact ⟨rfl, at_due, others⟩

/-- The ticker is set anew. -/
theorem ticker_set (clockwork : Clockwork tasks due) {schedule : ScheduleId} {alarm : Alarm}
    (found : tasks[task]? = some (.ticker schedule (some alarm))) (next : Alarm) :
    Clockwork (tasks.set task (.ticker 0 (some next))) next.due := by
  obtain ⟨-, -, others⟩ := clockwork.ticker_due found
  have bound := (List.getElem?_eq_some_iff.mp found).1
  refine ⟨task, next, List.getElem?_set_self bound, rfl, ?_⟩
  intro other kind different place
  rw [List.getElem?_set_ne (Ne.symm different)] at place
  exact others other kind different place

end Clockwork

theorem Starting.set (starting : Starting tasks) {stage : StartStage}
    (going : ∀ state, stage ≠ .ended state) : Starting (tasks.set task (.start stage)) := by
  intro kind member
  rcases List.mem_or_eq_of_mem_set member with there | rfl
  · exact starting kind there
  · exact ⟨stage, rfl, going⟩

/-- Nothing has become of the schedule, the store and the time, and nobody has called. -/
structure Abides (system next : System) : Prop where
  settings : next.settings = system.settings
  store : next.store = system.store
  openLane : next.openLane = system.openLane
  armed : next.armed = system.armed
  schedules : next.schedules = system.schedules
  clock : next.clock = system.clock
  calls : next.issuer.refreshCalls = system.issuer.refreshCalls

theorem Abides.set_lane (abides : Abides system next) (lane : LaneId) (held : Lane) :
    Abides system (next.setLane lane held) :=
  ⟨abides.settings, abides.store, abides.openLane, abides.armed, abides.schedules, abides.clock,
    abides.calls⟩

theorem Abides.answer (abides : Abides system next) (id : RequestId) (outcome : Outcome) :
    Abides system (next.answer id outcome) :=
  ⟨abides.settings, abides.store, abides.openLane, abides.armed, abides.schedules, abides.clock,
    abides.calls⟩

theorem Underway.abide (underway : Underway outset system) (abides : Abides system next) :
    Underway outset next where
  settings := abides.settings.trans underway.settings
  store := abides.store.trans underway.store
  openLane := abides.openLane.trans underway.openLane
  armed := abides.armed.trans underway.armed
  schedules := abides.schedules.trans underway.schedules

/-- Only the tasks go on. -/
theorem Uncalled.abide (uncalled : Uncalled outset start certificate system)
    (abides : Abides system next) (idle : next.lanes = system.lanes)
    (same : next.tasks = [] ↔ system.tasks = [])
    (starting : Starting system.tasks → Starting next.tasks)
    (clockwork : ∀ due, Clockwork system.tasks due → Clockwork next.tasks due) :
    Follows outset start certificate system next := by
  refine .rest ?_ abides.calls
  cases uncalled with
  | unopened settings store lanes isClosed unarmed schedules starts clock =>
      exact .unopened (abides.settings.trans settings) (abides.store.trans store)
        (idle.trans lanes) (abides.openLane.trans isClosed) (abides.armed.trans unarmed)
        (abides.schedules.trans schedules) (starting starts)
        fun some => abides.clock.trans (clock (mt same.mpr some))
  | ticking ticks held underway tasks lanes unshut checked =>
      exact .ticking ticks held (underway.abide abides) (clockwork _ tasks)
        (idle.trans lanes) unshut (abides.clock ▸ checked)

/-- Opening the queue begins the schedule, whose first tick is due at once. -/
theorem start_up_opened (watches : outset.Watches certificate)
    (settings : system.settings = outset.system.settings) (store : system.store = outset.store)
    (lanes : system.lanes = []) (isClosed : system.openLane = none)
    (unarmed : system.armed = none) (schedules : system.schedules = []) :
    Underway outset system.startUp ∧ system.startUp.lanes = [Lane.fresh] ∧
      ∃ alarm, alarm.due = system.clock ∧
        system.startUp.tasks = system.tasks ++ [.worker 0, .ticker 0 (some alarm)] := by
  have intervals : system.intervals = outset.intervals := congrArg Prod.fst settings
  have source : system.tickSource = .clock :=
    (congrArg (fun laid => laid.2.2.1) settings).trans watches.clock
  have period : Schedule.keptPeriod system.intervals.checkInterval =
      outset.intervals.checkInterval := by
    rw [intervals]
    exact Nat.max_eq_left watches.period
  have laid : system.startUp.settings = system.settings := by
    rw [start_up_frame]
    rfl
  have kept : system.startUp.store = system.store := by rw [start_up_frame]
  have opened : system.startUp = { system.openQueue.arm with lifecycle := .running } := by
    rw [startUp, unarmed]
  have arms : system.startUp.openLane = some 0 ∧ system.startUp.armed = some 0 ∧
      system.startUp.schedules = [⟨outset.intervals.checkInterval, true⟩] ∧
      system.startUp.lanes = [Lane.fresh] ∧ system.startUp.tasks = system.tasks ++
        [.worker 0, .ticker 0 (some ⟨system.clock, system.alarmCount⟩)] := by
    rw [opened, open_queue_closed isClosed, lanes]
    simp [arm, source, setAlarm, spawn, schedules, period]
  obtain ⟨openLane, armed, schedules, lanes, tasks⟩ := arms
  exact ⟨⟨laid.trans settings, kept.trans store, openLane, armed, schedules⟩, lanes, _, rfl,
    tasks⟩

/-- The tasks of a program that was just opened. -/
theorem Starting.opened (starting : Starting tasks) {alarm : Alarm} :
    Clockwork (tasks ++ [.worker 0, .ticker 0 (some alarm)]) alarm.due := by
  refine ⟨tasks.length + 1, alarm, by simp, rfl, ?_⟩
  intro other kind different there
  rw [List.getElem?_append] at there
  split at there
  · obtain ⟨stage, starts, -⟩ := starting kind (List.mem_of_getElem? there)
    exact .inr ⟨stage, starts⟩
  · rename_i outside
    have inside := (List.getElem?_eq_some_iff.mp there).1
    simp only [List.length_cons, List.length_nil] at inside
    obtain rfl : other = tasks.length := by omega
    simp only [Nat.sub_self, List.getElem?_cons_zero, Option.some.injEq] at there
    exact .inl there.symm

/-- A call to start goes on, or it opens the program. -/
theorem Uncalled.start_step (watches : outset.Watches certificate)
    (uncalled : Uncalled outset start certificate system) {stage after : StartStage}
    (found : system.tasks[task]? = some (.start stage))
    (step : StartStep system task stage moved after) :
    Follows outset start certificate system (moved.setTask task (.start after)) := by
  have present : system.tasks ≠ [] := fun none => by simp [none] at found
  have goes_on (abides : Abides system (moved.setTask task (.start after)))
      (idle : moved.lanes = system.lanes) (same : moved.tasks = system.tasks)
      (going : ∀ state, after ≠ .ended state) :
      Follows outset start certificate system (moved.setTask task (.start after)) := by
    refine uncalled.abide abides idle ?_ ?_ ?_
    · simp [setTask, same]
    · intro starting
      rw [setTask, same]
      exact starting.set going
    · intro due clockwork
      rw [setTask, same]
      exact clockwork.start_set after found
  cases step with
  | enter free => exact goes_on ⟨rfl, rfl, rfl, rfl, rfl, rfl, rfl⟩ rfl rfl (by simp)
  | queue taken => exact goes_on ⟨rfl, rfl, rfl, rfl, rfl, rfl, rfl⟩ rfl rfl (by simp)
  | accept granted => exact goes_on ⟨rfl, rfl, rfl, rfl, rfl, rfl, rfl⟩ rfl rfl (by simp)
  | «open» =>
      cases uncalled with
      | ticking ticks held underway tasks lanes unshut checked =>
          have opened : system.startUp = system := by rw [startUp, underway.armed]
          rw [opened]
          exact .rest (.ticking ticks held
            (underway.abide ⟨rfl, rfl, rfl, rfl, rfl, rfl, rfl⟩) (tasks.start_set _ found)
            lanes unshut checked) rfl
      | unopened settings store lanes isClosed unarmed schedules starting clock =>
          obtain ⟨underway, opened, alarm, at_once, tasks⟩ :=
            start_up_opened watches settings store lanes isClosed unarmed schedules
          have now : system.startUp.clock = start := by
            rw [start_up_frame]
            exact clock present
          have clockwork : Clockwork system.startUp.tasks
              (start + 0 * outset.intervals.checkInterval) := by
            rw [Nat.zero_mul, Nat.add_zero, ← clock present, ← at_once, tasks]
            exact starting.opened
          refine .rest (.ticking 0 Lane.fresh
            (underway.abide ⟨rfl, rfl, rfl, rfl, rfl, rfl, rfl⟩)
            (clockwork.start_set _ (start_up_found found)) opened rfl
            (.done rfl rfl (by simp) (Nat.le_of_eq now.symm) ?_)) ?_
          · rw [Nat.zero_mul]
            exact Nat.le_of_eq now
          · simp only [setTask, releaseControl]
            rw [start_up_frame]

/-- The next step of an operation that has not called the issuer yet, when it is not
cancelled and there are keys. -/
inductive Approach (system moved : System) (operation after : Operation) : Prop
  | near (store : moved.store = system.store) (issuer : moved.issuer = system.issuer)
      (request : after.request = operation.request)
      (stage : after.stage = .arriving ∨ after.stage = .admitted)
  | wait (alarm : Alarm) (stage : after.stage = .waiting alarm)
  | serve (store : moved.store = system.store) (issuer : moved.issuer = system.issuer)
      (fresh : system.needsCall operation.request = false) (outcome : Outcome)
      (ended : after.stage = .ended outcome)
  | call (needed : system.needsCall operation.request = true)
      (calls : moved.issuer.refreshCalls = system.issuer.refreshCalls + 1)

theorem OperationStep.approach {operation after : Operation}
    (keyed : system.store.keys.1.isSome = true)
    (before : operation.stage = .created ∨ operation.stage = .arriving ∨
      operation.stage = .admitted)
    (step : OperationStep system task false operation moved after) :
    Approach system moved operation after := by
  cases step with
  | arrive stage going => exact .near rfl rfl rfl (.inl rfl)
  | enter stage going free => exact .near rfl rfl rfl (.inr rfl)
  | queue stage going taken => exact .wait _ rfl
  | skip stage going fresh => exact .serve rfl rfl fresh _ rfl
  | keyless stage going needed missing =>
      rw [missing] at keyed
      cases keyed
  | call keys stage going needed found => exact .call needed rfl
  | abandon early cancelled => cases cancelled
  | turnBack stage cancelled => cases cancelled
  | withdraw alarm stage cancelled => cases cancelled
  | accept alarm stage => simp [stage] at before
  | expire alarm stage => simp [stage] at before
  | pass gate stage => simp [stage] at before
  | delay gate stage => simp [stage] at before
  | wake alarm stage => simp [stage] at before
  | fail failure stage => simp [stage] at before
  | save certificate stage => simp [stage] at before
  | lose certificate reason stage => simp [stage] at before

/-- A tick of the schedule calls the issuer in the window and nowhere else. -/
theorem Underway.needs_call (watches : outset.Watches certificate)
    (underway : Underway outset system) {count : Nat}
    (now : system.clock = start + count * outset.intervals.checkInterval) :
    system.needsCall (.background outset.store.features) = true ↔
      outset.opening certificate ≤ outset.tick start count := by
  have intervals : system.intervals = outset.intervals := congrArg Prod.fst underway.settings
  have origin : system.origin = outset.origin := congrArg (fun laid => laid.2.2.2) underway.settings
  have moment : system.now = outset.tick start count := by
    rw [System.now, origin, now]
    rfl
  have behind (epoch : Instant.epoch ≤ outset.origin) : Instant.epoch ≤ outset.tick start count :=
    Int.le_trans epoch (Int.le_add_of_nonneg_right (Int.natCast_nonneg _))
  have reached := Freshness.deadline_reached (watches.named.imp_right behind)
  have due := @Freshness.own_features_due (outset.tick start count) outset.margin certificate
    outset.store.features
  have verdict : system.needsCall (.background outset.store.features) =
      (Freshness.assess (some certificate) outset.store.features outset.store.features
        (outset.tick start count) outset.margin).needsRefresh := by
    unfold needsCall
    rw [underway.store, watches.held, moment, intervals]
    rfl
  rw [verdict, due, reached]
  rfl

theorem OperationStep.abides {isCancelled : Bool} {operation after : Operation}
    (step : OperationStep system task isCancelled operation moved after)
    (store : moved.store = system.store) (issuer : moved.issuer = system.issuer) :
    Abides system moved ∧ moved.tasks = system.tasks ∧ moved.lanes = system.lanes := by
  have frame := step.frame
  rw [store, issuer] at frame
  rw [frame]
  exact ⟨⟨rfl, rfl, rfl, rfl, rfl, rfl, rfl⟩, rfl, rfl⟩

/-- The request of the last tick has come to nothing, since the tick was not in the window. -/
theorem Checked.lapse (watches : outset.Watches certificate) (underway : Underway outset system)
    {last : Nat} (now : system.clock = start + last * outset.intervals.checkInterval)
    (early : ∀ tick < last, outset.tick start tick < outset.opening certificate)
    (fresh : system.needsCall (.background outset.store.features) = false)
    (free : held.current = none) (empty : held.waiting = []) :
    Checked outset start certificate (last + 1) system.clock held := by
  refine .done free empty (fun tick before => ?_) ?_ ?_
  · rcases Nat.lt_succ_iff_lt_or_eq.mp before with less | rfl
    · exact early tick less
    · refine Int.not_le.mp fun inside => ?_
      rw [(underway.needs_call watches now).mpr inside] at fresh
      cases fresh
  · rw [now]
    exact Nat.le_add_right _ _
  · rw [now, Nat.succ_mul]
    omega

/-- The operation that the lane serves is for the last tick. -/
theorem Checked.taken {clock : Nat} {id : RequestId} {operation : Operation}
    (checked : Checked outset start certificate ticks clock held)
    (current : held.current = some (id, operation)) :
    ∃ last, ticks = last + 1 ∧ clock = start + last * outset.intervals.checkInterval ∧
      (∀ tick < last, outset.tick start tick < outset.opening certificate) ∧
      held.waiting = [] ∧ operation.request = .background outset.store.features ∧
      (operation.stage = .created ∨ operation.stage = .arriving ∨
        operation.stage = .admitted) := by
  cases checked with
  | done free => cases free.symm.trans current
  | owed last owes again now early =>
      cases owes with
      | queued other free => cases free.symm.trans current
      | taken other running serves alone asks stage =>
          obtain ⟨rfl, rfl⟩ := Prod.mk.inj (Option.some.inj (serves.symm.trans current))
          exact ⟨last, again, now, early, alone, asks, stage⟩

/-- The request of the last tick is taken up. -/
theorem Checked.take_up {clock : Nat} {queued : Queued} {rest : List Queued}
    (checked : Checked outset start certificate ticks clock held) (idle : held.current = none)
    (waiting : held.waiting = queued :: rest) :
    Checked outset start certificate ticks clock
      { held with waiting := rest, current := some (queued.id, .start queued.request) } := by
  cases checked with
  | done free empty => cases empty.symm.trans waiting
  | owed last owes again now early =>
      cases owes with
      | taken id operation current => cases idle.symm.trans current
      | queued id free line =>
          obtain ⟨rfl, rfl⟩ := List.cons.inj (waiting.symm.trans line)
          exact .owed last (.taken id _ rfl rfl rfl (.inl rfl)) again now early

/-- The lane goes on, and nobody has called. -/
theorem Underway.goes_on (underway : Underway outset system)
    (tasks : Clockwork system.tasks (start + ticks * outset.intervals.checkInterval))
    (lanes : system.lanes = [held]) (after : Lane) (unshut : after.isShut = false)
    (abides : Abides system next) (sameTasks : next.tasks = system.tasks)
    (stands : next.lanes = system.lanes.set 0 after)
    (checked : Checked outset start certificate ticks system.clock after) :
    Follows outset start certificate system next := by
  refine .rest (.ticking ticks after (underway.abide abides) (sameTasks ▸ tasks) ?_ unshut
    (abides.clock ▸ checked)) abides.calls
  rw [stands, lanes]
  rfl

/-- The operation for the last tick goes on towards its call. -/
theorem Underway.carries (watches : outset.Watches certificate)
    (underway : Underway outset system)
    (tasks : Clockwork system.tasks (start + ticks * outset.intervals.checkInterval))
    (lanes : system.lanes = [held]) (unshut : held.isShut = false)
    (checked : Checked outset start certificate ticks system.clock held)
    (found : system.tasks[task]? = some (.worker 0)) {id : RequestId} {operation after : Operation}
    (current : held.current = some (id, operation))
    (moves : OperationStep system task false operation moved after)
    (going : ∀ outcome, after.stage ≠ .ended outcome)
    (unwaited : (moved.setLane 0 { held with current := some (id, after) }).role task ≠
      .standing) :
    Follows outset start certificate system
      (moved.setLane 0 { held with current := some (id, after) }) := by
  obtain ⟨last, again, now, early, alone, asks, stage⟩ := checked.taken current
  let carried : Lane := { held with current := some (id, after) }
  cases moves.approach (underway.store ▸ watches.keyed) stage with
  | near sameStore sameIssuer sameRequest next =>
      obtain ⟨abides, sameTasks, sameLanes⟩ := moves.abides sameStore sameIssuer
      have owes : carried.Owes (.background outset.store.features) :=
        .taken id after rfl alone (sameRequest.trans asks) (.inr next)
      refine underway.goes_on tasks lanes carried unshut (abides.set_lane 0 carried) sameTasks ?_
        (.owed last owes again now early)
      rw [← sameLanes]
      rfl
  | wait alarm waits =>
      -- nobody else ever takes the token, so there is no line to stand in
      obtain ⟨sameTasks, sameLanes⟩ : moved.tasks = system.tasks ∧
          moved.lanes = system.lanes := by
        rw [moves.frame]
        exact ⟨rfl, rfl⟩
      have serves : (moved.setLane 0 carried).lanes[0]? = some carried := by
        simp [setLane, sameLanes, lanes]
      have worker : (moved.setLane 0 carried).tasks[task]? = some (.worker 0) :=
        (congrArg (·[task]?) sameTasks).trans found
      have stands : carried.role = .standing := by
        simp [carried, Lane.role, waits, Stage.role]
      exact absurd ((worker_role worker serves).trans stands) unwaited
  | serve sameStore sameIssuer fresh outcome ended => exact absurd ended (going outcome)
  | call needed calls =>
      rw [asks, underway.needs_call watches now] at needed
      exact .call last now calls ⟨needed, early⟩

/-- The operation for the last tick ends without a call. -/
theorem Underway.delivers (watches : outset.Watches certificate)
    (underway : Underway outset system)
    (tasks : Clockwork system.tasks (start + ticks * outset.intervals.checkInterval))
    (lanes : system.lanes = [held]) (unshut : held.isShut = false)
    (checked : Checked outset start certificate ticks system.clock held)
    {id : RequestId} {operation after : Operation} {outcome : Outcome}
    (current : held.current = some (id, operation))
    (moves : OperationStep system task false operation moved after)
    (ended : after.stage = .ended outcome) :
    Follows outset start certificate system
      ((moved.setLane 0 { held with current := none }).answer id outcome) := by
  obtain ⟨last, again, now, early, alone, asks, stage⟩ := checked.taken current
  cases moves.approach (underway.store ▸ watches.keyed) stage with
  | near sameStore sameIssuer sameRequest next =>
      rw [ended] at next
      rcases next with next | next <;> cases next
  | wait alarm waits => cases ended.symm.trans waits
  | serve sameStore sameIssuer fresh =>
      obtain ⟨abides, sameTasks, sameLanes⟩ := moves.abides sameStore sameIssuer
      rw [asks] at fresh
      subst again
      let idle : Lane := { held with current := none }
      have lapsed : Checked outset start certificate (last + 1) system.clock idle :=
        .lapse watches underway now early fresh rfl alone
      refine underway.goes_on tasks lanes idle unshut
        ((abides.set_lane 0 idle).answer id outcome) sameTasks ?_ lapsed
      rw [← sameLanes]
      rfl
  | call needed calls =>
      rw [asks, underway.needs_call watches now] at needed
      exact .call last now calls ⟨needed, early⟩

/-- The worker goes on with the request of a tick, which comes to nothing outside the
window. -/
theorem Uncalled.worker_step (watches : outset.Watches certificate)
    (uncalled : Uncalled outset start certificate system) {lane : LaneId}
    (found : system.tasks[task]? = some (.worker lane)) (step : WorkerStep system task lane next)
    (unwaited : ∀ task, next.role task ≠ .standing) :
    Follows outset start certificate system next := by
  cases uncalled with
  | unopened settings store lanes isClosed unarmed schedules starting clock =>
      obtain ⟨stage, starts, -⟩ := starting _ (List.mem_of_getElem? found)
      cases starts
  | ticking ticks held underway tasks lanes unshut checked =>
      have only {other : Lane} (there : system.lanes[lane]? = some other) :
          lane = 0 ∧ other = held := by
        rw [lanes] at there
        have bound := (List.getElem?_eq_some_iff.mp there).1
        obtain rfl : lane = 0 := Nat.lt_one_iff.mp bound
        exact ⟨rfl, (Option.some.inj there).symm⟩
      cases step with
      | drain other there idle empty shut =>
          obtain ⟨rfl, rfl⟩ := only there
          cases unshut.symm.trans shut
      | takeUp other queued rest there idle waiting =>
          obtain ⟨rfl, rfl⟩ := only there
          let begun : Lane :=
            { other with waiting := rest, current := some (queued.id, .start queued.request) }
          exact underway.goes_on tasks lanes begun unshut ⟨rfl, rfl, rfl, rfl, rfl, rfl, rfl⟩ rfl
            rfl (checked.take_up idle waiting)
      | carry other id operation after moved there current moves going =>
          obtain ⟨rfl, rfl⟩ := only there
          rw [unshut] at moves
          exact underway.carries watches tasks lanes unshut checked found current moves going
            (unwaited task)
      | deliver other id operation after moved outcome there current moves ended =>
          obtain ⟨rfl, rfl⟩ := only there
          rw [unshut] at moves
          exact underway.delivers watches tasks lanes unshut checked current moves ended

/-- A tick comes at its moment, and finds the lane empty. -/
theorem Uncalled.ticker_step (watches : outset.Watches certificate)
    (uncalled : Uncalled outset start certificate system) {schedule : ScheduleId} {alarm : Alarm}
    {following : Option Alarm}
    (found : system.tasks[task]? = some (.ticker schedule (some alarm)))
    (step : TickerStep system schedule alarm moved following) :
    Follows outset start certificate system
      (moved.setTask task (.ticker schedule following)) := by
  cases uncalled with
  | unopened settings store lanes isClosed unarmed schedules starting clock =>
      obtain ⟨stage, starts, -⟩ := starting _ (List.mem_of_getElem? found)
      cases starts
  | ticking ticks held underway tasks lanes unshut checked =>
      obtain ⟨rfl, at_due, -⟩ := tasks.ticker_due found
      have only {schedule : Schedule} (there : system.schedules[0]? = some schedule) :
          schedule = ⟨outset.intervals.checkInterval, true⟩ := by
        rw [underway.schedules, List.getElem?_cons_zero, Option.some.injEq] at there
        exact there.symm
      cases step with
      | retire schedule there dead =>
          rw [only there] at dead
          cases dead
      | tick schedule next there live late at_next =>
          have period := watches.period
          rw [only there, at_due] at at_next
          rw [at_due] at late
          cases checked with
          | owed last owes again now early =>
              -- no time has passed since the last tick, so the next one is a period ahead
              rw [now, again, Nat.succ_mul] at late
              omega
          | done free empty early since until_due =>
              have now := Nat.le_antisymm until_due late
              have following : next.due =
                  start + (ticks + 1) * outset.intervals.checkInterval := by
                rw [at_next, now, Schedule.nextDue, if_neg (by omega), Nat.succ_mul, Nat.add_assoc]
              let request : Request := .background outset.store.features
              let asked : Lane := { held with waiting := [⟨system.submitted, request⟩] }
              have submitted : system.check = { system with
                  submitted := system.submitted + 1
                  lanes := [asked] } := by
                rw [check, submit_open underway.openLane, lanes, underway.store]
                simp [asked, request, empty]
              have clockwork := tasks.ticker_set found next
              rw [following] at clockwork
              have owes : asked.Owes request := .queued system.submitted free rfl
              rw [submitted]
              exact .rest (.ticking (ticks + 1) asked
                (underway.abide ⟨rfl, rfl, rfl, rfl, rfl, rfl, rfl⟩) clockwork rfl unshut
                (.owed ticks owes rfl now early)) rfl

/-- While a request is owed its worker can move. -/
theorem Orderly.owes_nothing (orderly : system.Orderly) (quiet : system.Quiescent)
    (lanes : system.lanes = [held]) {request : Request} : ¬ held.Owes request := by
  intro owes
  have found : system.lanes[0]? = some held := by rw [lanes]; rfl
  have pending : held.pending ≠ [] := by
    cases owes with
    | queued id free waiting => simp [Lane.pending, waiting]
    | taken id operation current => simp [Lane.pending, Lane.served, current]
  obtain ⟨id, operation, current, calls⟩ := orderly.lane_waits quiet found pending
  cases owes with
  | queued other free => cases free.symm.trans current
  | taken other running serves alone asks stage =>
      obtain ⟨rfl, rfl⟩ := Prod.mk.inj (Option.some.inj (serves.symm.trans current))
      rcases calls with refreshing | ⟨-, ⟨alarm, waiting⟩, -⟩
      · rcases stage with stage | stage | stage <;> rw [stage] at refreshing <;> cases refreshing
      · rw [waiting] at stage
        rcases stage with stage | stage | stage <;> cases stage

/-- A tick that is due can come. -/
theorem Underway.ticks_ahead (underway : Underway outset system) (quiet : system.Quiescent)
    (tasks : Clockwork system.tasks due) : system.clock < due := by
  obtain ⟨ticker, alarm, found, rfl, -⟩ := tasks
  refine Nat.lt_of_not_le fun late => ?_
  have stuck := @Quiescent.stuck _ ticker quiet (by rw [role_found found]; rfl)
  simp [step, found, stepTicker, underway.schedules, late] at stuck

/-- When nothing can move any more, the program is open, all ticks have come to nothing, and
the next one is still ahead. -/
theorem Uncalled.settled (uncalled : Uncalled outset start certificate system)
    (orderly : system.Orderly) (quiet : system.Quiescent) (present : system.tasks ≠ []) :
    ∃ ticks held, Underway outset system ∧
      Clockwork system.tasks (start + ticks * outset.intervals.checkInterval) ∧
      system.lanes = [held] ∧ held.isShut = false ∧ held.current = none ∧ held.waiting = [] ∧
      (∀ tick < ticks, outset.tick start tick < outset.opening certificate) ∧
      start ≤ system.clock ∧ system.clock < start + ticks * outset.intervals.checkInterval := by
  cases uncalled with
  | unopened settings store lanes isClosed unarmed schedules starting clock =>
      obtain ⟨kind, member⟩ := List.exists_mem_of_ne_nil _ present
      obtain ⟨stage, rfl, going⟩ := starting kind member
      obtain ⟨task, found⟩ := List.mem_iff_getElem?.mp member
      obtain ⟨-, other, lane, stops, -⟩ := orderly.start_unfinished quiet found going
      obtain ⟨stage, starts, -⟩ := starting _ (List.mem_of_getElem? stops)
      cases starts
  | ticking ticks held underway tasks lanes unshut checked =>
      cases checked with
      | owed last owes => exact absurd owes (orderly.owes_nothing quiet lanes)
      | done free empty early since until_due =>
          exact ⟨ticks, held, underway, tasks, lanes, unshut, free, empty, early, since,
            underway.ticks_ahead quiet tasks⟩

/-- Time passes up to the next tick at most. -/
theorem Uncalled.elapse (uncalled : Uncalled outset start certificate system)
    (orderly : system.Orderly) {millis : Nat} (punctual : system.Punctual (.elapse millis))
    (present : system.tasks ≠ []) :
    Follows outset start certificate system (system.apply (.elapse millis)) := by
  obtain ⟨quiet, bounded⟩ := punctual millis rfl
  obtain ⟨ticks, held, underway, tasks, lanes, unshut, free, empty, early, since, -⟩ :=
    uncalled.settled orderly quiet present
  have ahead : system.clock + millis ≤ start + ticks * outset.intervals.checkInterval := by
    obtain ⟨ticker, alarm, found, at_due, -⟩ := tasks
    have inside := (List.getElem?_eq_some_iff.mp found).1
    rw [← at_due]
    exact bounded ticker inside alarm (by simp [alarm?, found])
  obtain ⟨settings, store, openLane, armed, schedules⟩ := underway
  exact .rest (.ticking ticks held ⟨settings, store, openLane, armed, schedules⟩ tasks lanes unshut
    (.done free empty early (Nat.le_trans since (Nat.le_add_right _ _)) ahead)) rfl

/-- A host that leaves the program alone makes steps, lets time pass and starts it; all else
leaves everything where it is. -/
theorem unattended_cases (keyed : system.store.keys.1.isSome = true)
    (allowed : event.isUnattended = true) :
    (∃ task next, system.step task = some next ∧ system.apply event = next) ∨
      (∃ millis, event = .elapse millis) ∨ event = .start ∨
      Abides system (system.apply event) ∧ (system.apply event).lanes = system.lanes ∧
        (system.apply event).tasks = system.tasks := by
  have rests {stays : Prop} {first second third : Prop} (still : stays) :
      first ∨ second ∨ third ∨ stays := .inr (.inr (.inr still))
  cases event with
  | step task =>
      cases stepped : system.step task with
      | some next => exact .inl ⟨task, next, stepped, by simp only [apply, stepped]; rfl⟩
      | none =>
          have stays : system.apply (.step task) = system := by simp only [apply, stepped]; rfl
          rw [stays]
          exact rests ⟨⟨rfl, rfl, rfl, rfl, rfl, rfl, rfl⟩, rfl, rfl⟩
  | elapse millis => exact .inr (.inl ⟨millis, rfl⟩)
  | start => exact .inr (.inr (.inl rfl))
  | readKeys =>
      have same : system.store.keys.2 = system.store := Store.keys_kept keyed
      exact rests ⟨⟨rfl, same, rfl, rfl, rfl, rfl, rfl⟩, rfl, rfl⟩
  | forget => exact rests ⟨⟨rfl, rfl, rfl, rfl, rfl, rfl, rfl⟩, rfl, rfl⟩
  | permitRefreshes => exact rests ⟨⟨rfl, rfl, rfl, rfl, rfl, rfl, rfl⟩, rfl, rfl⟩
  | permitSessions => exact rests ⟨⟨rfl, rfl, rfl, rfl, rfl, rfl, rfl⟩, rfl, rfl⟩
  | scriptRefresh => exact rests ⟨⟨rfl, rfl, rfl, rfl, rfl, rfl, rfl⟩, rfl, rfl⟩
  | scriptSession => exact rests ⟨⟨rfl, rfl, rfl, rfl, rfl, rfl, rfl⟩, rfl, rfl⟩
  | refuseStoring => exact rests ⟨⟨rfl, rfl, rfl, rfl, rfl, rfl, rfl⟩, rfl, rfl⟩
  | _ => cases allowed

theorem unattended_queueing (allowed : event.isUnattended = true) :
    event.isQueueing = true ∧ event.takesToken = false ∧ event.isCoordinated = true := by
  cases event <;> first | exact ⟨rfl, rfl, rfl⟩ | cases allowed

theorem Uncalled.kind_cases (uncalled : Uncalled outset start certificate system) {kind : Task}
    (found : system.tasks[task]? = some kind) :
    (∃ lane, kind = .worker lane) ∨ (∃ stage, kind = .start stage) ∨
      ∃ schedule alarm, kind = .ticker schedule alarm := by
  cases uncalled with
  | unopened settings store lanes isClosed unarmed schedules starting clock =>
      obtain ⟨stage, starts, -⟩ := starting kind (List.mem_of_getElem? found)
      exact .inr (.inl ⟨stage, starts⟩)
  | ticking ticks held underway tasks =>
      obtain ⟨ticker, alarm, there, -, others⟩ := tasks
      by_cases itself : task = ticker
      · subst itself
        exact .inr (.inr ⟨0, some alarm, Option.some.inj (found.symm.trans there)⟩)
      · exact (others task kind itself found).imp (fun same => ⟨0, same⟩) .inl

theorem Uncalled.step (watches : outset.Watches certificate)
    (uncalled : Uncalled outset start certificate system)
    (unwaited : ∀ task, next.role task ≠ .standing) (step : TaskStep system task next) :
    Follows outset start certificate system next := by
  cases step with
  | worker lane next found step => exact uncalled.worker_step watches found step unwaited
  | start stage after moved found step => exact uncalled.start_step watches found step
  | ticker schedule alarm following moved found step =>
      exact uncalled.ticker_step watches found step
  | direct operation after isCancelled moved found =>
      obtain ⟨_, same⟩ | ⟨_, same⟩ | ⟨_, _, same⟩ := uncalled.kind_cases found <;> cases same
  | holder stage after moved found =>
      obtain ⟨_, same⟩ | ⟨_, same⟩ | ⟨_, _, same⟩ := uncalled.kind_cases found <;> cases same
  | fork session stage after moved found =>
      obtain ⟨_, same⟩ | ⟨_, same⟩ | ⟨_, _, same⟩ := uncalled.kind_cases found <;> cases same
  | stop stage after moved found =>
      obtain ⟨_, same⟩ | ⟨_, same⟩ | ⟨_, _, same⟩ := uncalled.kind_cases found <;> cases same
  | close stage after moved found =>
      obtain ⟨_, same⟩ | ⟨_, same⟩ | ⟨_, _, same⟩ := uncalled.kind_cases found <;> cases same

/-- What an event does while nobody has called for a certificate. -/
theorem Uncalled.apply (watches : outset.Watches certificate)
    (uncalled : Uncalled outset start certificate system) (orderly : system.Orderly)
    (unwaited : ∀ task, (system.apply event).role task ≠ .standing)
    (present : system.tasks ≠ []) (allowed : event.isUnattended = true)
    (punctual : system.Punctual event) :
    Follows outset start certificate system (system.apply event) := by
  have store : system.store = outset.store := by
    cases uncalled with
    | unopened settings store => exact store
    | ticking ticks held underway => exact underway.store
  rcases unattended_cases (store ▸ watches.keyed) allowed with
    ⟨task, next, stepped, same⟩ | ⟨millis, rfl⟩ | rfl | ⟨abides, idle, same⟩
  · rw [same] at unwaited ⊢
    exact uncalled.step watches unwaited (step_cases stepped)
  · exact uncalled.elapse orderly punctual present
  · refine uncalled.abide ⟨rfl, rfl, rfl, rfl, rfl, rfl, rfl⟩ rfl ?_ ?_ ?_
    · simp [System.apply, spawn, present]
    · intro starting kind member
      rcases List.mem_append.mp member with there | new
      · exact starting kind there
      · exact ⟨.asking, List.mem_singleton.mp new, by simp⟩
    · exact fun due clockwork => clockwork.append_start .asking
  · refine uncalled.abide abides idle ?_ ?_ ?_
    · rw [same]
    · rw [same]
      exact id
    · rw [same]
      exact fun _ => id

end System

end CertRenewal
