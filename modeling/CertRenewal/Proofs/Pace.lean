import CertRenewal.Proofs.Rota

/-!
How the calls of a schedule lie in time. A schedule is always set for one of the moments
that lie whole periods behind its beginning, and each call sets it for a later one: the
next of them, or behind a long delay the first that is still to come. So there are never
more calls than such moments have passed, however time passes.
-/

namespace CertRenewal

namespace Schedule

variable {period start slot came : Nat} {ticks : List Tick}

/-- The moment that a schedule is set for behind the calls that it has made. -/
def nextOf (period start : Nat) (ticks : List Tick) : Nat :=
  match ticks.getLast? with
  | none => start
  | some tick => nextDue period tick.due tick.came

/-- The calls of a schedule, each made for the moment that it was set for. -/
inductive Course (period start : Nat) : List Tick → Prop
  | idle : Course period start []
  | call (ticks : List Tick) (came : Nat) (course : Course period start ticks)
      (due : nextOf period start ticks ≤ came) (later : ∀ tick ∈ ticks, tick.came ≤ came) :
      Course period start (ticks ++ [⟨nextOf period start ticks, came⟩])

/-- A call comes after another one: at the next moment, or behind a long delay at the
first one that is still to come. -/
structure Follows (period : Nat) (tick next : Tick) : Prop where
  on_time : tick.came ≤ tick.due + tolerance → next.due = tick.due + period
  late : tick.due + tolerance < tick.came →
    tick.came < next.due ∧ next.due ≤ tick.came + period

/-- Calls that do not pile up. -/
structure KeepsPace (period start : Nat) (ticks : List Tick) : Prop where
  first : ∀ tick, ticks.head? = some tick → tick.due = start
  /-- Each call is made for a moment of its own, in their order. -/
  slots : ∃ slots : List Nat, slots.Pairwise (· < ·) ∧
    ticks.map (·.due) = slots.map fun slot => start + slot * period
  follows : ticks.IsChain (Follows period)
  /-- No call comes before its moment, and none before the schedule began. -/
  due : ∀ tick ∈ ticks, start ≤ tick.due ∧ tick.due ≤ tick.came
  ordered : ticks.Pairwise fun tick next => tick.came ≤ next.came
  /-- There are no more calls than moments that have passed. -/
  few : ∀ now, start ≤ now →
    (ticks.filter (·.came ≤ now)).length ≤ (now - start) / period + 1

theorem kept_period_pos (asked : Nat) : 0 < keptPeriod asked := Nat.le_max_right asked 1

/-- The moments behind a call are moments of the schedule again. -/
theorem next_due_slot (due : start + slot * period ≤ came) :
    ∃ next, slot < next ∧ nextDue period (start + slot * period) came = start + next * period := by
  unfold nextDue
  split
  · let late := came - (start + slot * period)
    have whole : late / period * period + late % period = late := Nat.div_add_mod' late period
    refine ⟨slot + late / period + 1, Nat.lt_succ_of_le (Nat.le_add_right ..), ?_⟩
    calc came + period - late % period
        _ = start + (slot * period + late / period * period + period) := by omega
        _ = start + (slot + late / period + 1) * period := by
          rw [Nat.add_one_mul, Nat.add_mul]
  · exact ⟨slot + 1, Nat.lt_succ_self slot, by rw [Nat.add_one_mul, Nat.add_assoc]⟩

theorem next_due_follows (positive : 0 < period) (tick : Tick) (came : Nat) :
    Follows period tick ⟨nextDue period tick.due tick.came, came⟩ := by
  have rest : (tick.came - tick.due) % period < period := Nat.mod_lt _ positive
  constructor
  · intro on_time
    exact if_neg (Nat.not_lt_of_le on_time)
  · intro late
    have next : nextDue period tick.due tick.came =
        tick.came + period - (tick.came - tick.due) % period := if_pos late
    simp only [next]
    omega

theorem next_of_concat (tick : Tick) :
    nextOf period start (ticks ++ [tick]) = nextDue period tick.due tick.came := by
  simp [nextOf]

/-- The moments of the calls so far are some of those before the one that is next. -/
theorem Course.slots (course : Course period start ticks) : ∃ (slots : List Nat) (next : Nat),
    slots.Pairwise (· < ·) ∧ (∀ slot ∈ slots, slot < next) ∧ slots.length ≤ next ∧
      ticks.map (·.due) = slots.map (fun slot => start + slot * period) ∧
      nextOf period start ticks = start + next * period := by
  induction course with
  | idle => exact ⟨[], 0, .nil, nofun, Nat.le_refl 0, rfl, by simp [nextOf]⟩
  | call ticks came course due later induction =>
      obtain ⟨slots, slot, ascending, below, enough, moments, now⟩ := induction
      obtain ⟨next, more, set⟩ := next_due_slot (now ▸ due)
      refine ⟨slots ++ [slot], next, ?_, ?_, ?_, ?_, ?_⟩
      · refine List.pairwise_append.mpr ⟨ascending, List.pairwise_singleton .., ?_⟩
        intro earlier member last single
        rw [List.mem_singleton.mp single]
        exact below earlier member
      · intro other member
        rcases List.mem_append.mp member with earlier | single
        · exact Nat.lt_trans (below other earlier) more
        · rw [List.mem_singleton.mp single]
          exact more
      · rw [List.length_append]
        exact Nat.lt_of_le_of_lt enough more
      · rw [List.map_append, List.map_append, moments]
        simp only [List.map_cons, List.map_nil, now]
      · rw [next_of_concat]
        simp only [now]
        exact set

theorem Course.first (course : Course period start ticks) (tick : Tick)
    (head : ticks.head? = some tick) : tick.due = start := by
  induction course with
  | idle => cases head
  | call ticks came course due later induction =>
      cases ticks with
      | nil =>
          obtain rfl := Option.some.inj head
          rfl
      | cons earlier ticks => exact induction head

theorem Course.follows (positive : 0 < period) (course : Course period start ticks) :
    ticks.IsChain (Follows period) := by
  induction course with
  | idle => exact .nil
  | call ticks came course due later induction =>
      refine induction.append (.singleton _) ?_
      intro tick last next single
      obtain rfl := Option.some.inj single
      have set : nextOf period start ticks = nextDue period tick.due tick.came := by
        simp [nextOf, Option.mem_def.mp last]
      rw [set]
      exact next_due_follows positive tick came

theorem Course.due (course : Course period start ticks) :
    ∀ tick ∈ ticks, start ≤ tick.due ∧ tick.due ≤ tick.came := by
  induction course with
  | idle => nofun
  | call ticks came course due later induction =>
      intro tick member
      rcases List.mem_append.mp member with earlier | single
      · exact induction tick earlier
      · obtain ⟨slots, next, -, -, -, -, set⟩ := course.slots
        rw [List.mem_singleton.mp single]
        exact ⟨set ▸ Nat.le_add_right .., due⟩

theorem Course.ordered (course : Course period start ticks) :
    ticks.Pairwise fun tick next => tick.came ≤ next.came := by
  induction course with
  | idle => exact .nil
  | call ticks came course due later induction =>
      refine List.pairwise_append.mpr ⟨induction, List.pairwise_singleton .., ?_⟩
      intro tick earlier last single
      rw [List.mem_singleton.mp single]
      exact later tick earlier

/-- The last call that has come by a time was made for a moment before it, and there are
no more calls before that one than moments. -/
theorem Course.few (positive : 0 < period) (course : Course period start ticks) (now : Nat) :
    (ticks.filter (·.came ≤ now)).length ≤ (now - start) / period + 1 := by
  induction course with
  | idle => exact Nat.zero_le _
  | call ticks came course due later induction =>
      by_cases past : came ≤ now
      · obtain ⟨slots, next, -, -, enough, moments, set⟩ := course.slots
        have count : ticks.length = slots.length := by
          simpa using congrArg List.length moments
        have passed : next * period ≤ now - start := by omega
        have slot : next ≤ (now - start) / period := (Nat.le_div_iff_mul_le positive).mpr passed
        refine Nat.le_trans (List.length_filter_le ..) ?_
        rw [List.length_append, count]
        exact Nat.succ_le_succ (Nat.le_trans enough slot)
      · rw [List.filter_append, List.filter_singleton]
        simpa [past] using induction

theorem Course.keeps_pace (positive : 0 < period) (course : Course period start ticks) :
    KeepsPace period start ticks := by
  obtain ⟨slots, -, ascending, -, -, moments, -⟩ := course.slots
  exact ⟨course.first, ⟨slots, ascending, moments⟩, course.follows positive, course.due,
    course.ordered, fun now _ => course.few positive now⟩

end Schedule

namespace Rota

open Schedule (Course nextOf next_of_concat)

/-- A schedule is on its course: as long as it lives a task is set for its next moment, and
no other task ticks on it. -/
structure OnCourse (schedule : ScheduleId) (period start : Nat) (ticks : List Tick) (rota : Rota) :
    Prop where
  course : Course period start ticks
  past : ∀ tick ∈ ticks, tick.came ≤ rota.clock
  held : ∃ held, rota.schedules[schedule]? = some held ∧ held.period = period ∧
    (held.isLive = true → ∃ task, rota.beat task = some ⟨schedule, nextOf period start ticks⟩)
  set : ∀ task beat, rota.beat task = some beat → beat.schedule = schedule →
    beat.due = nextOf period start ticks

variable {rota next : Rota} {made : ScheduleId → List Tick} {schedule : ScheduleId}
  {period start : Nat} {ticks : List Tick}

theorem OnCourse.there (onCourse : OnCourse schedule period start ticks rota) :
    schedule < rota.schedules.length := by
  obtain ⟨held, found, -⟩ := onCourse.held
  exact (List.getElem?_eq_some_iff.mp found).1

/-- What happens to other tasks leaves a schedule on its course. -/
theorem OnCourse.aside (onCourse : OnCourse schedule period start ticks rota) {task : TaskId}
    {after : Option Beat}
    (before : ∀ beat, rota.beat task = some beat → beat.schedule ≠ schedule)
    (other : ∀ beat, after = some beat → beat.schedule ≠ schedule) :
    OnCourse schedule period start ticks
      { rota with beat := Function.update rota.beat task after } := by
  obtain ⟨held, found, same, set⟩ := onCourse.held
  refine ⟨onCourse.course, onCourse.past, ⟨held, found, same, fun live => ?_⟩, ?_⟩
  · obtain ⟨ticker, ticks⟩ := set live
    refine ⟨ticker, Helm.update_kept after ticks fun here => ?_⟩
    exact before _ here rfl
  · intro ticker beat there mine
    rcases beat_update there with ⟨-, now⟩ | ⟨-, earlier⟩
    · exact absurd mine (other beat now)
    · exact onCourse.set ticker beat earlier mine

theorem OnCourse.lasts (onCourse : OnCourse schedule period start ticks rota)
    {schedules : List Schedule} {clock : Nat} (later : rota.clock ≤ clock)
    (lasts : Lasts rota.schedules schedules) :
    OnCourse schedule period start ticks { rota with clock, schedules } := by
  obtain ⟨held, found, same, set⟩ := onCourse.held
  obtain ⟨now, there, alike, lived⟩ := lasts.kept schedule held found
  exact ⟨onCourse.course, fun tick member => Nat.le_trans (onCourse.past tick member) later,
    ⟨now, there, alike.trans same, fun live => set (lived live)⟩, onCourse.set⟩

theorem OnCourse.period_eq (onCourse : OnCourse schedule period start ticks rota)
    {held : Schedule} (there : rota.schedules[schedule]? = some held) : held.period = period := by
  obtain ⟨other, same, period, -⟩ := onCourse.held
  rw [Option.some.inj (there.symm.trans same), period]

/-- A schedule that makes its call is set for the moment behind it. -/
theorem OnCourse.call (onCourse : OnCourse schedule period start ticks rota) (kept : rota.Kept)
    {task : TaskId} {due : Nat} {held : Schedule}
    (found : rota.beat task = some ⟨schedule, due⟩)
    (there : rota.schedules[schedule]? = some held) (reached : due ≤ rota.clock) :
    OnCourse schedule period start (ticks ++ [⟨due, rota.clock⟩]) { rota with
      beat := Function.update rota.beat task
        (some ⟨schedule, Schedule.nextDue held.period due rota.clock⟩) } := by
  have same := onCourse.period_eq there
  have set : due = nextOf period start ticks := onCourse.set task _ found rfl
  have now : nextOf period start (ticks ++ [⟨due, rota.clock⟩]) =
      Schedule.nextDue held.period due rota.clock := by rw [next_of_concat, same]
  refine ⟨?_, ?_, ⟨held, there, same, fun _ => ⟨task, ?_⟩⟩, ?_⟩
  · rw [set]
    exact .call ticks rota.clock onCourse.course (set ▸ reached) onCourse.past
  · intro tick member
    rcases List.mem_append.mp member with earlier | single
    · exact onCourse.past tick earlier
    · rw [List.mem_singleton.mp single]
  · rw [now]
    exact Function.update_self ..
  · intro ticker other there mine
    rw [now]
    rcases beat_update there with ⟨-, ticked⟩ | ⟨apart, before⟩
    · rw [← Option.some.inj ticked]
    · exact absurd (kept.single task ticker _ other found before mine) apart

/-- A schedule that has ended needs no task any more. -/
theorem OnCourse.retire (onCourse : OnCourse schedule period start ticks rota)
    (ended : Ended rota.schedules schedule) (task : TaskId) :
    OnCourse schedule period start ticks
      { rota with beat := Function.update rota.beat task none } := by
  obtain ⟨held, there, dead⟩ := ended
  refine ⟨onCourse.course, onCourse.past,
    ⟨held, there, onCourse.period_eq there, fun live => ?_⟩, ?_⟩
  · rw [dead] at live
    cases live
  · intro ticker beat found mine
    rcases beat_update found with ⟨-, none⟩ | ⟨-, before⟩
    · cases none
    · exact onCourse.set ticker beat before mine

theorem Step.on_course (kept : rota.Kept) (step : Step rota made next)
    (onCourse : OnCourse schedule period start ticks rota) :
    OnCourse schedule period start (ticks ++ made schedule) next := by
  cases step with
  | rest clock schedules later lasts quiet =>
      rw [quiet, List.append_nil]
      exact onCourse.lasts later lasts
  | begin task schedules fresh lasts quiet =>
      rw [quiet, List.append_nil]
      have bound : schedule < schedules.length := lasts.count ▸ onCourse.there
      have still : OnCourse schedule period start ticks { rota with
          schedules
          beat := Function.update rota.beat task (some ⟨schedules.length, rota.clock⟩) } := by
        refine (onCourse.lasts (Nat.le_refl _) lasts).aside (fun beat found => ?_) fun beat now => ?_
        · rw [fresh] at found
          cases found
        · rw [← Option.some.inj now]
          exact Nat.ne_of_gt bound
      obtain ⟨held, found, rest⟩ := still.held
      exact ⟨still.course, still.past,
        ⟨held, (List.getElem?_append_left bound).trans found, rest⟩, still.set⟩
  | tick task beat held found there live due own others =>
      by_cases mine : beat.schedule = schedule
      · subst mine
        rw [own]
        exact onCourse.call kept found there due
      · rw [others schedule (Ne.symm mine), List.append_nil]
        refine onCourse.aside (fun other same => ?_) fun other ticked => ?_
        · rw [Option.some.inj (same.symm.trans found)]
          exact mine
        · rw [← Option.some.inj ticked]
          exact mine
  | retire task beat held found there dead quiet =>
      rw [quiet, List.append_nil]
      by_cases mine : beat.schedule = schedule
      · exact onCourse.retire ⟨held, mine ▸ there, dead⟩ task
      · refine onCourse.aside (fun other same => ?_) nofun
        rw [Option.some.inj (same.symm.trans found)]
        exact mine

/-- A schedule that has just begun is set for the present moment. -/
theorem Step.begins (kept : rota.Kept) (step : Step rota made next)
    (more : rota.schedules.length < next.schedules.length) :
    OnCourse rota.schedules.length rota.period rota.clock [] next := by
  cases step with
  | begin task schedules fresh lasts quiet =>
      have found : (schedules ++ [(⟨rota.period, true⟩ : Schedule)])[rota.schedules.length]? =
          some ⟨rota.period, true⟩ := by
        rw [← lasts.count]
        simp
      refine ⟨.idle, nofun, ⟨_, found, rfl, fun _ => ⟨task, ?_⟩⟩, ?_⟩
      · rw [← lasts.count]
        exact Function.update_self ..
      · intro ticker beat there new
        rcases beat_update there with ⟨-, now⟩ | ⟨-, before⟩
        · rw [← Option.some.inj now]
          rfl
        · exact absurd new (Nat.ne_of_lt (kept.placed ticker beat before))
  | rest clock schedules later lasts quiet => exact absurd lasts.count (Nat.ne_of_gt more)
  | _ => exact absurd more (Nat.lt_irrefl _)

end Rota

namespace System

variable {outset : Outset} {schedule : ScheduleId}

/-- No call is made on a schedule before it was armed. -/
theorem no_ticks_before (clocked : outset.tickSource = .clock) (events : List Event)
    (early : (outset.system.run events).schedules.length ≤ schedule) :
    gathered (ticks schedule) outset.system events = [] := by
  induction events using List.reverseRecOn with
  | nil => rfl
  | append_singleton events event induction =>
      have step := apply_rota (run_clocked outset clocked events) event
      rw [run_concat] at early
      have earlier := Nat.le_trans step.count early
      rw [gathered_concat, induction earlier, List.nil_append]
      exact step.none_before (run_rota outset clocked events) earlier

/-- No call is made on a schedule that has ended. -/
theorem no_ticks_behind (clocked : outset.tickSource = .clock) (events later : List Event)
    (ended : Rota.Ended (outset.system.run events).schedules schedule) :
    gathered (ticks schedule) (outset.system.run events) later = [] := by
  induction later generalizing events with
  | nil => rfl
  | cons event later induction =>
      have step := apply_rota (run_clocked outset clocked events) event
      obtain ⟨still, quiet⟩ := step.ended ended
      rw [← run_concat] at still
      simp only [gathered]
      rw [quiet, ← run_concat, induction _ still]
      rfl

/-- A schedule that was armed stays on its course. -/
theorem run_on_course (clocked : outset.tickSource = .clock) (before after : List Event)
    (arming : Event) (arms : (outset.system.run before).Arms arming) :
    Rota.OnCourse (outset.system.run before).schedules.length
      (Schedule.keptPeriod outset.intervals.checkInterval) (outset.system.run before).clock
      (gathered (ticks (outset.system.run before).schedules.length) outset.system
        (before ++ arming :: after))
      (outset.system.run (before ++ arming :: after)).rota := by
  induction after using List.reverseRecOn with
  | nil =>
      have kept := run_rota outset clocked before
      have step := apply_rota (run_clocked outset clocked before) arming
      have none : ticks (outset.system.run before).schedules.length
          (outset.system.run before) arming = [] := step.none_before kept (Nat.le_refl _)
      have intervals : (outset.system.run before).intervals = outset.intervals :=
        congrArg Prod.fst (run_settings outset before)
      have begun := step.begins kept arms
      rw [gathered_concat, no_ticks_before clocked before (Nat.le_refl _), run_concat, none,
        ← intervals]
      exact begun
  | append_singleton after event induction =>
      rw [← List.cons_append, ← List.append_assoc, gathered_concat, run_concat]
      exact (apply_rota (run_clocked outset clocked _) event).on_course
        (run_rota outset clocked _) induction

variable {system : System} {task : TaskId} {due : Nat}

theorem ticker_of_beat (beats : system.beat task = some ⟨schedule, due⟩) :
    ∃ alarm, system.tasks[task]? = some (.ticker schedule (some alarm)) ∧ alarm.due = due := by
  cases found : system.tasks[task]? with
  | none => simp [beat, readTask, found] at beats
  | some kind =>
      rw [beat_found found] at beats
      cases kind with
      | ticker other alarm =>
          cases alarm with
          | none => cases beats
          | some alarm =>
              obtain ⟨rfl, rfl⟩ := Beat.mk.inj (Option.some.inj beats)
              exact ⟨alarm, rfl, rfl⟩
      | _ => cases beats

/-- A task makes its call as soon as the moment has come that it is set for. -/
theorem ticks_when_due {held : Schedule} (beats : system.beat task = some ⟨schedule, due⟩)
    (found : system.schedules[schedule]? = some held) (live : held.isLive = true)
    (past : due ≤ system.clock) :
    system.ticks schedule (.step task) = [⟨due, system.clock⟩] := by
  obtain ⟨alarm, ticker, rfl⟩ := ticker_of_beat beats
  have once : (system.apply (.step task)).submitted = system.submitted + 1 := by
    simp only [apply, step, ticker, stepTicker, found, live, past, setAlarm]
    exact submit_count system _ false
  rw [ticks_of_beat beats, once, Nat.add_sub_cancel_left, if_pos rfl]
  rfl

/-- As long as a schedule lives, a task is set for the moment of its next call, and makes
that call as soon as the moment has come. -/
def IsSetFor (system : System) (schedule : ScheduleId) (next : Nat) : Prop :=
  ∀ held, system.schedules[schedule]? = some held → held.isLive = true →
    ∃ task alarm, system.tasks[task]? = some (.ticker schedule (some alarm)) ∧ alarm.due = next ∧
      (next ≤ system.clock → system.ticks schedule (.step task) = [⟨next, system.clock⟩])

/-- However time passes, and whatever else happens meanwhile, a schedule makes its calls at
moments of its own that lie whole periods behind its beginning, no more of them than such
moments have passed. The calls that it missed in a pause are left out, and none comes
once its handle was let go, due or not. -/
theorem calls_never_pile_up (outset : Outset) (clocked : outset.tickSource = .clock)
    (before after : List Event) (arming : Event)
    (arms : (outset.system.run before).Arms arming) :
    let begun := outset.system.run before
    let schedule := begun.schedules.length
    let period := max outset.intervals.checkInterval 1
    let system := outset.system.run (before ++ arming :: after)
    let made := gathered (ticks schedule) outset.system (before ++ arming :: after)
    Schedule.KeepsPace period begun.clock made ∧
      (∀ tick ∈ made, tick.came ≤ system.clock) ∧
      system.IsSetFor schedule (Schedule.nextOf period begun.clock made) ∧
      ∀ part letting rest, after = part ++ letting :: rest →
        (outset.system.run (before ++ arming :: part)).LetsGo schedule letting →
          gathered (ticks schedule) (outset.system.run (before ++ arming :: part ++ [letting]))
            rest = [] := by
  intro begun schedule period system made
  have onCourse : Rota.OnCourse schedule period begun.clock made system.rota :=
    run_on_course clocked before after arming arms
  have positive : 0 < period := Schedule.kept_period_pos _
  refine ⟨onCourse.course.keeps_pace positive, onCourse.past, ?_, ?_⟩
  · intro held found live
    obtain ⟨other, same, -, set⟩ := onCourse.held
    obtain rfl := Option.some.inj (found.symm.trans same)
    obtain ⟨task, beats⟩ := set live
    obtain ⟨alarm, ticker, due⟩ := ticker_of_beat beats
    exact ⟨task, alarm, ticker, due, ticks_when_due beats found live⟩
  · intro part letting rest split letsGo
    have there := (run_on_course clocked before part arming arms).there
    have ended := letsGo.ended there
    rw [← run_concat] at ended
    exact no_ticks_behind clocked _ rest ended

end System

/-- A program whose schedules are asked to tick without a pause. -/
def Outset.restless : Outset := { Outset.ticking with intervals := ⟨10, 0, 10, 10⟩ }

namespace System

/-- A schedule ticks at once and makes up for a short pause, but not for a long one. Behind
another pause it is due again. -/
def hesitating : List Event :=
  [.step 0, .elapse 3, .step 0, .step 0, .step 0, .elapse 10, .step 0, .elapse 6]

theorem overdue_call_never_comes :
    (∃ alarm, (Outset.restless.system.run ([.elapse 5] ++ .arm :: hesitating)).alarm? 0 =
        some alarm ∧ alarm.due = 19) ∧
      (Outset.restless.system.run ([.elapse 5] ++ .arm :: hesitating)).clock = 24 ∧
      Schedule.KeepsPace 1 5 [⟨5, 5⟩, ⟨6, 8⟩, ⟨7, 8⟩, ⟨8, 8⟩, ⟨9, 18⟩] ∧
      gathered (ticks 0) (Outset.restless.system.run
        ([.elapse 5] ++ .arm :: hesitating ++ [.disarm])) [.step 0, .elapse 1, .step 0] = [] := by
  have made : gathered (ticks 0) Outset.restless.system ([.elapse 5] ++ .arm ::
      (hesitating ++ .disarm :: [.step 0, .elapse 1, .step 0])) =
        [⟨5, 5⟩, ⟨6, 8⟩, ⟨7, 8⟩, ⟨8, 8⟩, ⟨9, 18⟩] := by decide
  obtain ⟨pace, -, -, behind⟩ := calls_never_pile_up .restless rfl [.elapse 5]
    (hesitating ++ .disarm :: [.step 0, .elapse 1, .step 0]) .arm (by decide)
  have letsGo : (Outset.restless.system.run ([.elapse 5] ++ .arm :: hesitating)).LetsGo 0
      .disarm := .drop rfl
  have quiet := behind hesitating .disarm [.step 0, .elapse 1, .step 0] rfl letsGo
  exact ⟨⟨_, rfl, rfl⟩, rfl, made ▸ pace, quiet⟩

end System

end CertRenewal
