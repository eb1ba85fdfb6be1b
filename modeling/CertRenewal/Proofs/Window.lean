import CertRenewal.Proofs.Ticking
import Mathlib.Data.Nat.Find

/-!
When a program that is left alone refreshes its certificate: at the first tick in the
window, which comes in time when it checks at least as often as its margin is long.
-/

namespace CertRenewal

namespace System

variable {outset : Outset} {start ticks : Nat} {certificate : Certificate} {system : System}
  {event : Event}

/-- How far a run has come: nobody has called yet, or the first call began at the first tick
in the window. -/
inductive Milestone (outset : Outset) (start : Nat) (certificate : Certificate) (system : System)
    (moments : List Instant) : Prop
  | waiting (none : moments = []) (present : system.tasks ≠ [])
      (uncalled : Uncalled outset start certificate system)
  | called (tick : Nat) (first : outset.FirstInside start certificate tick)
      (begun : moments.head? = some (outset.tick start tick))
      (later : ∀ moment ∈ moments, outset.tick start tick ≤ moment)
      (past : start + tick * outset.intervals.checkInterval ≤ system.clock)

theorem present_apply (present : system.tasks ≠ []) : (system.apply event).tasks ≠ [] := by
  obtain ⟨kind, member⟩ := List.exists_mem_of_ne_nil _ present
  obtain ⟨task, found⟩ := List.mem_iff_getElem?.mp member
  obtain ⟨new, there, -⟩ := apply_becomes system event found
  exact List.ne_nil_of_mem (List.mem_of_getElem? there)

/-- A call that an event begins, begins at the present moment. -/
theorem calls_begun_now {moment : Instant} (begun : moment ∈ system.callsBegun event) :
    moment = system.now :=
  List.eq_of_mem_replicate begun

/-- One event takes the program on. -/
theorem Milestone.apply (watches : outset.Watches certificate) {moments : List Instant}
    (milestone : Milestone outset start certificate system moments) (orderly : system.Orderly)
    (unwaited : ∀ task, (system.apply event).role task ≠ .standing)
    (settings : system.settings = outset.system.settings)
    (allowed : event.isUnattended = true) (punctual : system.Punctual event) :
    Milestone outset start certificate (system.apply event)
      (moments ++ system.callsBegun event) := by
  have origin : system.origin = outset.origin := congrArg (fun laid => laid.2.2.2) settings
  have onwards := (apply_settings system event).2
  cases milestone with
  | waiting none present uncalled =>
      subst none
      cases uncalled.apply watches orderly unwaited present allowed punctual with
      | rest uncalled calls =>
          refine .waiting ?_ (present_apply present) uncalled
          rw [callsBegun, calls, Nat.sub_self]
          rfl
      | call tick now calls first =>
          have moment : system.now = outset.tick start tick := by
            rw [System.now, origin, now]
            rfl
          have begun : system.callsBegun event = [outset.tick start tick] := by
            rw [callsBegun, calls, Nat.add_sub_cancel_left, moment]
            rfl
          rw [begun]
          refine .called tick first rfl ?_ (now ▸ onwards)
          intro other member
          rw [List.mem_singleton.mp member]
          exact Int.le_refl _
  | called tick first begun later past =>
      refine .called tick first (by rw [List.head?_append, begun]; rfl) ?_
        (Nat.le_trans past onwards)
      intro moment member
      rcases List.mem_append.mp member with earlier | now
      · exact later moment earlier
      · rw [calls_begun_now now, System.now, origin]
        have past : (start + tick * outset.intervals.checkInterval) * 1000000 ≤
            system.clock * 1000000 := Nat.mul_le_mul_right _ past
        exact Int.add_le_add_left (Int.ofNat_le.mpr past) _

/-- Nobody has called for the program to start. -/
structure Unstarted (outset : Outset) (system : System) : Prop where
  settings : system.settings = outset.system.settings
  store : system.store = outset.store
  lanes : system.lanes = []
  isClosed : system.openLane = none
  unarmed : system.armed = none
  schedules : system.schedules = []
  tasks : system.tasks = []

theorem Unstarted.apply (watches : outset.Watches certificate)
    (unstarted : Unstarted outset system) (allowed : event.isUnattended = true)
    (other : event ≠ .start) :
    Unstarted outset (system.apply event) ∧ system.callsBegun event = [] := by
  have idle (same : (system.apply event).issuer.refreshCalls = system.issuer.refreshCalls) :
      system.callsBegun event = [] := by
    rw [callsBegun, same, Nat.sub_self]
    rfl
  obtain ⟨settings, store, lanes, isClosed, unarmed, schedules, tasks⟩ := unstarted
  rcases unattended_cases (store ▸ watches.keyed) allowed with
    ⟨task, next, stepped, -⟩ | ⟨millis, rfl⟩ | start | ⟨abides, sameLanes, sameTasks⟩
  · simp [step, tasks] at stepped
  · exact ⟨⟨settings, store, lanes, isClosed, unarmed, schedules, tasks⟩, idle rfl⟩
  · exact absurd start other
  · exact ⟨⟨abides.settings.trans settings, abides.store.trans store, sameLanes.trans lanes,
      abides.openLane.trans isClosed, abides.armed.trans unarmed,
      abides.schedules.trans schedules, sameTasks.trans tasks⟩, idle abides.calls⟩

theorem run_unstarted (watches : outset.Watches certificate) {before : List Event}
    (allowed : ∀ event ∈ before, event.isUnattended = true) (unstarted : .start ∉ before) :
    Unstarted outset (outset.system.run before) ∧
      gathered callsBegun outset.system before = [] := by
  induction before using List.reverseRecOn with
  | nil => exact ⟨⟨rfl, rfl, rfl, rfl, rfl, rfl, rfl⟩, rfl⟩
  | append_singleton before event induction =>
      obtain ⟨still, none⟩ := induction
        (fun event member => allowed event (List.mem_append_left _ member))
        (fun member => unstarted (List.mem_append_left _ member))
      have other : event ≠ .start := by
        rintro rfl
        exact unstarted (by simp)
      have next := still.apply watches (allowed event (by simp)) other
      rw [run_concat, gathered_concat, none]
      exact next

/-- The call to start is the first task there is. -/
theorem Unstarted.begins (unstarted : Unstarted outset system) :
    Uncalled outset system.clock certificate (system.apply .start) := by
  have tasks : (system.apply .start).tasks = [.start .asking] := by
    simp [System.apply, spawn, unstarted.tasks]
  refine .unopened unstarted.settings unstarted.store unstarted.lanes unstarted.isClosed
    unstarted.unarmed unstarted.schedules ?_ fun _ => rfl
  intro kind member
  rw [tasks] at member
  exact ⟨.asking, List.mem_singleton.mp member, by simp⟩

theorem runs_punctually_append {before after : List Event} :
    system.RunsPunctually (before ++ after) ↔
      system.RunsPunctually before ∧ (system.run before).RunsPunctually after := by
  induction before generalizing system with
  | nil => exact ⟨fun runs => ⟨trivial, runs⟩, fun runs => runs.2⟩
  | cons event before induction =>
      simp only [List.cons_append, RunsPunctually, induction, and_assoc]
      rfl

/-- How far a run has come behind the first call to start. -/
theorem run_milestone (watches : outset.Watches certificate) {before after : List Event}
    (allowed : ∀ event ∈ before ++ .start :: after, event.isUnattended = true)
    (unstarted : .start ∉ before)
    (punctual : outset.system.RunsPunctually (before ++ .start :: after)) :
    Milestone outset (outset.system.run before).clock certificate
      (outset.system.run (before ++ .start :: after))
      (gathered callsBegun outset.system (before ++ .start :: after)) := by
  induction after using List.reverseRecOn with
  | nil =>
      obtain ⟨still, none⟩ := run_unstarted watches
        (fun event member => allowed event (List.mem_append_left _ member)) unstarted
      rw [run_concat, gathered_concat, none]
      refine .waiting ?_ ?_ still.begins
      · simp [callsBegun, System.apply, spawn]
      · simp [System.apply, spawn]
  | append_singleton after event induction =>
      rw [← List.cons_append, ← List.append_assoc] at allowed punctual ⊢
      obtain ⟨earlier, now⟩ := runs_punctually_append.mp punctual
      have events (other : Event) (member : other ∈ before ++ .start :: after) :=
        allowed other (List.mem_append_left _ member)
      have reached := induction events earlier
      have queueing (other : Event) (member : other ∈ before ++ .start :: after ++ [event]) :=
        unattended_queueing (allowed other member)
      have unrivalled := run_unrivalled outset (before ++ .start :: after ++ [event])
        (fun other member => (queueing other member).1)
        (fun other member => (queueing other member).2.1)
      have orderly := run_orderly outset (before ++ .start :: after)
        fun other member => (queueing other (List.mem_append_left _ member)).2.2
      have settings := run_settings outset (before ++ .start :: after)
      have unwaited := unrivalled.unwaited
      rw [run_concat] at unwaited
      rw [run_concat, gathered_concat]
      exact reached.apply watches orderly unwaited settings (allowed event (by simp)) now.1

/-- There is a first tick in the window. -/
theorem exists_first_inside (outset : Outset) (start : Nat) (certificate : Certificate)
    (period : 0 < outset.intervals.checkInterval) :
    ∃ tick, outset.FirstInside start certificate tick := by
  have some : ∃ tick, outset.opening certificate ≤ outset.tick start tick := by
    let wait := ((outset.opening certificate).nanos - outset.origin.nanos).toNat
    refine ⟨wait, ?_⟩
    have ticks : wait ≤ wait * outset.intervals.checkInterval := Nat.le_mul_of_pos_right _ period
    have waited : (outset.opening certificate).nanos ≤ outset.origin.nanos + wait :=
      by omega
    show (outset.opening certificate).nanos ≤ outset.origin.nanos +
      (((start + wait * outset.intervals.checkInterval) * 1000000 : Nat) : Int)
    omega
  refine ⟨Nat.find some, Nat.find_spec some, fun earlier before => ?_⟩
  exact Int.not_le.mp (Nat.find_min some before)

/-- No more ticks have come to nothing than there are ahead of the window. -/
theorem first_inside_bounds {tick : Nat} (first : outset.FirstInside start certificate tick)
    (early : ∀ earlier < ticks, outset.tick start earlier < outset.opening certificate) :
    ticks ≤ tick := by
  refine Nat.le_of_not_lt fun past => ?_
  exact absurd first.inside (Int.not_le.mpr (early tick past))

/-- Until somebody calls the clock has not gone beyond the first tick in the window. -/
theorem Uncalled.ahead (uncalled : Uncalled outset start certificate system)
    (present : system.tasks ≠ []) {tick : Nat}
    (first : outset.FirstInside start certificate tick) :
    system.clock ≤ start + tick * outset.intervals.checkInterval := by
  have up_to (ticks : Nat) (bound : ticks ≤ tick) :
      start + ticks * outset.intervals.checkInterval ≤
        start + tick * outset.intervals.checkInterval :=
    Nat.add_le_add_left (Nat.mul_le_mul_right _ bound) _
  cases uncalled with
  | unopened settings store lanes isClosed unarmed schedules starting clock =>
      rw [clock present]
      exact Nat.le_add_right _ _
  | ticking ticks held underway tasks lanes unshut checked =>
      cases checked with
      | done free empty early since until_due =>
          exact Nat.le_trans until_due (up_to ticks (first_inside_bounds first early))
      | owed last owes again now early =>
          rw [now]
          exact up_to last (first_inside_bounds first early)

/-- When a program that began at `start` refreshes its certificate, where `moments` are those
of the calls that it has begun. -/
structure RefreshesInWindow (outset : Outset) (certificate : Certificate) (start tick : Nat)
    (system : System) (moments : List Instant) : Prop where
  /-- The tick is the first one in the window. -/
  first : outset.FirstInside start certificate tick
  /-- No call begins ahead of the window. -/
  inside : ∀ moment ∈ moments, outset.opening certificate ≤ moment
  /-- The first call begins at the tick. -/
  exact : ∀ moment, moments.head? = some moment → moment = outset.tick start tick
  /-- No time passes beyond the tick before the call. -/
  ahead : moments = [] → system.clock ≤ start + tick * outset.intervals.checkInterval
  /-- When nothing can move any more at the tick, the call has begun. -/
  at_rest : moments = [] → system.Quiescent →
    system.clock < start + tick * outset.intervals.checkInterval
  /-- Nothing is left to be refreshed behind the refresh time. -/
  in_time : certificate.refreshTime ≤ system.now → start < system.clock → moments ≠ []
  /-- Who begins ahead of the window refreshes ahead of the refresh time. -/
  before_refresh_time : outset.tick start 0 ≤ outset.opening certificate →
    outset.tick start tick < certificate.refreshTime

/-- The window is at least as wide as the time between two ticks. -/
theorem tick_before_refresh_time (watches : outset.Watches certificate) {tick millis : Nat}
    (early : outset.tick start tick < outset.opening certificate)
    (ahead : millis ≤ start + (tick + 1) * outset.intervals.checkInterval) :
    outset.origin.after (.ofMillis millis) < certificate.refreshTime := by
  have early : outset.origin.nanos +
      (((start + tick * outset.intervals.checkInterval) * 1000000 : Nat) : Int) <
        certificate.refreshTime.nanos -
          ((outset.intervals.refreshEarlierBy * 1000000 : Nat) : Int) := early
  have often := watches.often
  rw [Int.natCast_mul, Int.natCast_mul] at early
  rw [Nat.succ_mul] at ahead
  have late : outset.origin.nanos + ((millis * 1000000 : Nat) : Int) <
      certificate.refreshTime.nanos := by
    rw [Int.natCast_mul]
    omega
  exact late

/-- How the first call comes about, seen from any point of the run. -/
theorem Milestone.refreshes (watches : outset.Watches certificate) {moments : List Instant}
    (milestone : Milestone outset start certificate system moments) (orderly : system.Orderly)
    (origin : system.origin = outset.origin) :
    ∃ tick, RefreshesInWindow outset certificate start tick system moments := by
  have soon {tick : Nat} (first : outset.FirstInside start certificate tick)
      (begins : outset.tick start 0 ≤ outset.opening certificate) :
      outset.tick start tick < certificate.refreshTime := by
    cases tick with
    | succ last =>
        exact tick_before_refresh_time watches (first.early last (Nat.lt_succ_self last))
          (Nat.le_refl _)
    | zero =>
        have period := watches.period
        have often := watches.often
        have opening : (outset.opening certificate).nanos = certificate.refreshTime.nanos -
          ((outset.intervals.refreshEarlierBy * 1000000 : Nat) : Int) := rfl
        have before : (outset.opening certificate).nanos < certificate.refreshTime.nanos := by
          omega
        exact Int.lt_of_le_of_lt begins before
  cases milestone with
  | called tick first begun later past =>
      have some : moments ≠ [] := fun none => by simp [none] at begun
      refine ⟨tick, first, fun moment member => Int.le_trans first.inside (later moment member), ?_,
        fun none => absurd none some, fun none => absurd none some, fun _ _ => some, soon first⟩
      intro moment head
      exact Option.some.inj (head.symm.trans begun)
  | waiting none present uncalled =>
      obtain ⟨tick, first⟩ := exists_first_inside outset start certificate watches.period
      have ahead := uncalled.ahead present first
      refine ⟨tick, first, ?_, ?_, fun _ => ahead, fun _ quiet => ?_, ?_, soon first⟩
      · rw [none]
        nofun
      · rw [none]
        nofun
      · obtain ⟨ticks, held, -, -, -, -, -, -, early, -, coming⟩ :=
          uncalled.settled orderly quiet present
        exact Nat.lt_of_lt_of_le coming (Nat.add_le_add_left
          (Nat.mul_le_mul_right _ (first_inside_bounds first early)) _)
      · intro late past
        cases tick with
        | zero => omega
        | succ last =>
            have before := tick_before_refresh_time watches
              (first.early last (Nat.lt_succ_self last)) ahead
            rw [System.now, origin] at late
            exact absurd late (Int.not_le.mpr before)

/-- A program that checks at least as often as its margin is long, and is left alone from its
start on, refreshes at the first tick in the window. -/
theorem first_tick_in_window_refreshes (outset : Outset) (before after : List Event)
    (certificate : Certificate) (watches : outset.Watches certificate)
    (unstarted : .start ∉ before)
    (allowed : ∀ event ∈ before ++ .start :: after, event.isUnattended = true)
    (punctual : outset.system.RunsPunctually (before ++ .start :: after)) :
    ∃ tick, RefreshesInWindow outset certificate (outset.system.run before).clock tick
      (outset.system.run (before ++ .start :: after))
      (gathered callsBegun outset.system (before ++ .start :: after)) := by
  have orderly := run_orderly outset (before ++ .start :: after)
    fun event member => (unattended_queueing (allowed event member)).2.2
  have origin : (outset.system.run (before ++ .start :: after)).origin = outset.origin :=
    congrArg (fun laid => laid.2.2.2) (run_settings outset _)
  exact (run_milestone watches allowed unstarted punctual).refreshes watches orderly origin

end System

/-- A certificate that is to be refreshed at the moment 25. -/
def Certificate.brief : Certificate := ⟨[3], .ofEpochMillis 40, .ofEpochMillis 25⟩

/-- A program that ticks every ten milliseconds, with a margin of as many. -/
def Outset.watching : Outset where
  intervals := ⟨10, 10, 10, 10⟩
  catalogue := .empty
  tickSource := .clock
  origin := .epoch
  store := .memory ((Slots.withKeys ⟨[1], [2]⟩).store .brief none)
  storeRefusal := none
  refreshGate := .unguarded
  sessionGate := .unguarded
  delay := 0
  refreshScript := []
  sessionScript := []

namespace System

/-- The program ticks for the first time ahead of the window, and once more at its
beginning. -/
def tickedTwice : List Event :=
  stepsOf 0 2 ++ stepsOf 2 1 ++ stepsOf 1 4 ++ .elapse 10 :: stepsOf 2 1 ++ stepsOf 1 6

theorem second_tick_refreshes :
    ∃ tick, RefreshesInWindow .watching .brief 5 tick
      (Outset.watching.system.run ([.elapse 5] ++ .start :: tickedTwice))
      [.ofEpochMillis 15] := by
  have begun : gathered callsBegun Outset.watching.system
      ([.elapse 5] ++ .start :: tickedTwice) = [.ofEpochMillis 15] := by decide
  have watches : Outset.watching.Watches .brief :=
    ⟨rfl, rfl, rfl, by decide, by decide, .inl rfl⟩
  rw [← begun]
  exact first_tick_in_window_refreshes .watching [.elapse 5] tickedTwice .brief watches
    (by simp) (by decide) (by decide)

end System

end CertRenewal
