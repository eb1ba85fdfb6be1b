import CertRenewal.Proofs.Absence
import CertRenewal.Proofs.Deeds

/-!
How long operations and sessions wait for the token. Whoever stands in line gives up when
its time is over, at the latest in the moment in which nothing else can move. It was not
granted the token then and never gets it; and the others were and are served as if it
had not stood in line.
-/

namespace CertRenewal

/-- Whether an operation has not got the token, nor comes to it any more. -/
def Stage.isUnserved : Stage → Bool
  | created => true
  | arriving => true
  | waiting _ => true
  | ended (.error .timedOut) => true
  | _ => false

/-- Whether a session has not got the token yet. -/
def ForkStage.isUnserved : ForkStage → Bool
  | checking => true
  | arriving => true
  | waiting _ => true
  | _ => false

namespace System

variable {system next : System} {event : Event} {task : TaskId} {alarm : Alarm}

/-- An operation, or a session before its start, stands in line for the token until the
alarm goes off. -/
def StandsUntil (system : System) (task : TaskId) (alarm : Alarm) : Prop :=
  (∃ who operation, system.attempt? task = some (who, operation) ∧
      operation.stage = .waiting alarm) ∨
    ∃ session, system.tasks[task]? = some (.fork session (.waiting alarm))

/-- A task that asks for the token while it is taken, and stands at the end of the line. -/
structure LinesUp (system next : System) (task : TaskId) (alarm : Alarm) : Prop where
  idle : system.role task = .idle
  taken : system.token.place ≠ .free
  token : next.token = system.token.ask task
  due : alarm.due = system.clock + system.intervals.waitTimeout

theorem role_of_attempt {who : Option RequestId} {operation : Operation}
    (busy : system.attempt? task = some (who, operation)) :
    system.role task = operation.stage.role := by
  cases who with
  | some id =>
      obtain ⟨lane, held, worker, found, current⟩ := worker_of_attempt busy
      exact serving_role worker found current
  | none =>
      obtain ⟨isCancelled, found⟩ := direct_of_attempt busy
      exact role_found found

theorem StandsUntil.role (stands : system.StandsUntil task alarm) :
    system.role task = .standing := by
  rcases stands with ⟨who, operation, busy, stage⟩ | ⟨session, found⟩
  · rw [role_of_attempt busy, stage]
    rfl
  · rw [role_found found]
    rfl

/-- Who stands in line has stood there before, or lines up. -/
theorem stood_or_lines_up (crewed : system.Crewed)
    (stands : (system.apply event).StandsUntil task alarm) :
    system.StandsUntil task alarm ∨
      event = .step task ∧ LinesUp system (system.apply event) task alarm := by
  rcases stands with ⟨who, operation, busy, stage⟩ | ⟨session, found⟩
  · cases apply_turn crewed event task with
    | rest same idle => exact .inl (.inl ⟨who, operation, same ▸ busy, stage⟩)
    | begin served request free begun =>
        obtain ⟨-, rfl⟩ := Prod.mk.inj (Option.some.inj (begun.symm.trans busy))
        cases stage
    | settle id before after moved outcome own there moves carries ended free =>
        exact (nomatch free.symm.trans busy)
    | move served before after moved own there moves carries goes =>
        obtain ⟨-, rfl⟩ := Prod.mk.inj (Option.some.inj (goes.symm.trans busy))
        refine .inr ⟨own, ?_⟩
        have idle (arriving : before.stage = .arriving) : system.role task = .idle := by
          rw [role_of_attempt there, arriving]
          rfl
        cases step_operation_cases moves with
        | queue arriving going taken =>
            obtain rfl := Stage.waiting.inj stage
            exact ⟨idle arriving, taken, carries.token, rfl⟩
        | _ => cases stage
  · cases apply_comes system event found with
    | stay kind before => exact .inl (.inr ⟨session, before⟩)
    | begin kind begun => cases begun
    | move old new before alike other => exact absurd rfl other
    | fork session before after moved own there step applied =>
        have idle (arriving : before = .arriving) : system.role task = .idle := by
          rw [role_found there, arriving]
          rfl
        cases step with
        | queue taken =>
            exact .inr ⟨own, idle rfl, taken, by rw [applied]; rfl, rfl⟩

/-- Who stands in line has lined up at some moment, and stood there since then. -/
theorem stands_since (outset : Outset) (events : List Event)
    (stands : (outset.system.run events).StandsUntil task alarm) :
    ∃ before after, events = before ++ .step task :: after ∧
      LinesUp (outset.system.run before) (outset.system.run (before ++ [.step task])) task alarm ∧
      ∀ part rest, after = part ++ rest →
        (outset.system.run (before ++ .step task :: part)).StandsUntil task alarm := by
  let Stands (system : System) : Prop := system.StandsUntil task alarm
  let Begins (system : System) (event : Event) : Prop :=
    event = .step task ∧ LinesUp system (system.apply event) task alarm
  have start : ¬ Stands outset.system := by
    rintro (⟨who, operation, busy, -⟩ | ⟨session, found⟩)
    · cases busy
    · cases found
  have turn (part : List Event) (event : Event) (rest : List Event)
      (_ : events = part ++ event :: rest) :=
    @stood_or_lines_up (outset.system.run part) event task alarm (run_crewed outset part)
  obtain ⟨before, event, after, split, ⟨rfl, linesUp⟩, since⟩ :=
    @run_since Stands Begins _ start events turn stands
  refine ⟨before, after, split, ?_, since⟩
  rw [run_concat]
  exact linesUp

/-- Whoever was granted the token has it until he takes it up. -/
theorem granted_stays (sound : system.Sound) (granted : system.token.place = .granted task)
    (stands : (system.apply event).role task = .standing) :
    (system.apply event).token.place = .granted task := by
  obtain ⟨mover, move, others⟩ := apply_moves sound.crewed event
  have owner : system.token.owner? = some task := by simp [Token.owner?, granted]
  have fits := (sound.apply event).fits
  have waits : (system.apply event).stake task = .standing := by rw [stake, stands]; rfl
  have keeps (owns : (system.apply event).token.owner? = some task) :
      (system.apply event).token.place = .granted task := by
    cases place : (system.apply event).token.place with
    | free => simp [Token.owner?, place] at owns
    | granted other =>
        simp only [Token.owner?, place, Option.some.injEq] at owns
        rw [owns]
    | held other =>
        simp only [Token.owner?, place, Option.some.injEq] at owns
        have holds := (fits.holding task).mpr (by rw [place, owns])
        rw [waits] at holds
        cases holds
  rcases move.token_move.owner_cases sound.fits rfl with
    ⟨same, -⟩ | ⟨owns, gone, -⟩ | ⟨free, -, -⟩
  · exact keeps (same.trans owner)
  · obtain rfl := Option.some.inj (owner.symm.trans owns)
    rw [stands] at gone
    cases gone
  · rw [owner] at free
    cases free

theorem granted_stays_in_run (sound : system.Sound) (granted : system.token.place = .granted task)
    (events : List Event)
    (stands : ∀ part rest, events = part ++ rest → (system.run part).role task = .standing) :
    (system.run events).token.place = .granted task := by
  induction events generalizing system with
  | nil => exact granted
  | cons event events induction =>
      have next := granted_stays sound granted (stands [event] events rfl)
      refine induction (sound.apply event) next fun part rest split => ?_
      exact stands (event :: part) rest (by rw [split]; rfl)

/-- Who gives up after having lined up so many events ago. -/
structure TimesOut (outset : Outset) (events : List Event) (task : TaskId)
    (before between after : List Event) : Prop where
  split : events = before ++ .step task :: (between ++ .step task :: after)
  linesUp : ∃ alarm, LinesUp (outset.system.run before)
    (outset.system.run (before ++ [.step task])) task alarm
  /-- All the time it stands in line, and is not granted the token. -/
  ungranted : ∀ part rest, between = part ++ rest →
    (outset.system.run (before ++ .step task :: part)).role task = .standing ∧
      (outset.system.run (before ++ .step task :: part)).token.place ≠ .granted task
  patient : (outset.system.run before).clock + outset.intervals.waitTimeout ≤
    (outset.system.run (before ++ .step task :: between)).clock
  /-- Meanwhile everything happens as it does when the task does not line up. -/
  unnoticed : ({ outset.system.run (before ++ [Event.step task]) with
      token := (outset.system.run before).token }).run between =
    (outset.system.run (before ++ .step task :: between)).without task
  /-- Behind it the token and its line are as they are then. -/
  gone : (outset.system.run (before ++ .step task :: (between ++ [.step task]))).token =
    ((outset.system.run (before ++ .step task :: between)).without task).token

theorem run_intervals (outset : Outset) (events : List Event) :
    (outset.system.run events).intervals = outset.intervals :=
  congrArg Prod.fst (run_settings outset events)

/-- Who stands at the end of the line is out of it once it is taken out of it. -/
theorem LinesUp.undone (linesUp : LinesUp system next task alarm) (sound : system.Sound) :
    next.without task = { next with token := system.token } := by
  have absent : task ∉ system.token.line := by
    intro member
    have stands := (sound.fits.standing task).mpr (Token.mem_standing.mpr (.inr member))
    rw [stake, linesUp.idle] at stands
    cases stands
  have others : (system.token.line ++ [task]).filter (· ≠ task) = system.token.line := by
    have apart : ∀ other ∈ system.token.line, other ≠ task := by
      rintro other member rfl
      exact absent member
    simpa [List.filter_append] using apart
  simp only [without, linesUp.token, Token.ask_taken linesUp.taken, Token.without, others]

theorem times_out {outset : Outset} {events past after : List Event}
    (split : events = past ++ .step task :: after)
    (stands : (outset.system.run past).StandsUntil task alarm)
    (ungranted : (outset.system.run past).token.place ≠ .granted task)
    (due : alarm.due ≤ (outset.system.run past).clock)
    (left : (outset.system.run (past ++ [.step task])).token =
      (outset.system.run past).token.leave task) :
    ∃ before between, past = before ++ .step task :: between ∧
      TimesOut outset events task before between after := by
  obtain ⟨before, between, rfl, linesUp, since⟩ := stands_since outset past stands
  refine ⟨before, between, rfl, ?_⟩
  have same : before ++ .step task :: between = before ++ [.step task] ++ between := by simp
  -- a grant would last until now
  have never (part rest : List Event) (cut : between = part ++ rest) :
      (outset.system.run (before ++ .step task :: part)).role task = .standing ∧
        (outset.system.run (before ++ .step task :: part)).token.place ≠ .granted task := by
    refine ⟨(since part rest cut).role, fun granted => ungranted ?_⟩
    have sound := run_sound outset (before ++ .step task :: part)
    have lasts := granted_stays_in_run sound granted rest fun more others again => by
      have longer := (since (part ++ more) others (by rw [cut, again]; simp)).role
      rw [← run_append]
      simpa using longer
    rw [← run_append] at lasts
    rw [cut]
    simpa using lasts
  have alike := @run_without (outset.system.run (before ++ [.step task])) task between
    fun part rest cut => by
      have there := never part rest cut
      rw [← run_append]
      simpa using there
  rw [linesUp.undone (run_sound outset before), ← run_append, ← same] at alike
  refine ⟨by rw [split]; simp, ⟨alarm, linesUp⟩, never, ?_, alike, ?_⟩
  · rw [← run_intervals outset before, ← linesUp.due]
    exact due
  · have rest : before ++ .step task :: (between ++ [.step task]) =
        before ++ .step task :: between ++ [.step task] := by simp
    rw [rest, left, Token.leave_ungranted ungranted]
    rfl

/-- A step that leads an operation on without the token. -/
theorem OperationStep.unserved {moved : System} {isCancelled : Bool} {operation after : Operation}
    (step : OperationStep system task isCancelled operation moved after)
    (unserved : after.stage.isUnserved = true) :
    operation.stage.isUnserved = true ∧ moved.issuer = system.issuer ∧
      moved.submitted = system.submitted := by
  cases step with
  | arrive stage going => exact ⟨by rw [stage]; rfl, rfl, rfl⟩
  | queue stage going taken => exact ⟨by rw [stage]; rfl, rfl, rfl⟩
  | expire alarm stage going ungranted due => exact ⟨by rw [stage]; rfl, rfl, rfl⟩
  | fail failure stage refused =>
      -- no answer of the issuer is taken for a time-out
      have other := (system.catalogue.classify_answered failure).1
      simp only [Operation.finish] at unserved
      unfold Stage.isUnserved at unserved
      split at unserved <;> simp_all
  | _ => cases unserved

theorem unserved_role {stage : Stage} (unserved : stage.isUnserved = true) :
    stage.role.stake ≠ .holding := by
  cases stage <;> first | (cases unserved; done) | simp [Stage.role, Role.stake]

end System

/-- A step of an operation that leads it on without the token and asks for nothing. -/
structure Deed.Unserved (deed : Deed) : Prop where
  stage : deed.after.stage.isUnserved = true
  issuer : deed.moved.issuer = deed.system.issuer
  submitted : deed.moved.submitted = deed.system.submitted

namespace Life

variable {task : TaskId} {request : Request} {deeds : List Deed} {operation : Operation}

theorem unserved (life : Life task request deeds operation)
    (unserved : operation.stage.isUnserved = true) : ∀ deed ∈ deeds, deed.Unserved := by
  induction life with
  | begin => exact fun deed member => nomatch member
  | move deeds system moved isCancelled before after life moves induction =>
      obtain ⟨earlier, issuer, submitted⟩ := (System.step_operation_cases moves).unserved unserved
      intro deed member
      rcases List.mem_append.mp member with old | new
      · exact induction earlier deed old
      · rw [List.mem_singleton.mp new]
        exact ⟨unserved, issuer, submitted⟩

/-- A time-out is the end of a wait in line. -/
theorem expiry (life : Life task request deeds operation)
    (ended : operation.stage = .ended (.error .timedOut)) :
    ∃ deed ∈ deeds, ∃ alarm, deed.before.stage = .waiting alarm ∧
      deed.system.token.place ≠ .granted task ∧ alarm.due ≤ deed.system.clock ∧
      deed.moved.token = deed.system.token.leave task ∧ deed.after = operation := by
  cases life with
  | begin => cases ended
  | move deeds system moved isCancelled before after life moves =>
      refine ⟨_, List.mem_append_right _ (List.mem_singleton.mpr rfl), ?_⟩
      cases System.step_operation_cases moves with
      | expire alarm stage going ungranted due => exact ⟨alarm, stage, ungranted, due, rfl, rfl⟩
      | fail failure stage refused =>
          have same := Except.error.inj (Stage.ended.inj ended)
          exact absurd same (system.catalogue.classify_answered failure).1
      | _ => cases ended

/-- An operation that has taken no step is where it was begun. -/
theorem last (life : Life task request deeds operation) :
    operation.stage = .created ∨ ∃ deed ∈ deeds, deed.after = operation := by
  cases life with
  | begin => exact .inl rfl
  | move deeds system moved isCancelled before after life moves =>
      exact .inr ⟨_, List.mem_append_right _ (List.mem_singleton.mpr rfl), rfl⟩

end Life

namespace System

variable {system : System} {task : TaskId}

/-- An operation that a task runs, and that never comes to the token. -/
structure NeverServed (outset : Outset) (events : List Event) (task : TaskId)
    (who : Option RequestId) : Prop where
  deeds : ∀ deed ∈ gathered (deedsOf task who) outset.system events, deed.Unserved
  place : ∀ part rest operation, events = part ++ rest →
    (outset.system.run part).attempt? task = some (who, operation) →
      (outset.system.run part).token.place ≠ .held task

/-- The step in which an operation is told that its time ran out ends its wait in line. -/
theorem operation_gives_up {outset : Outset} {events : List Event} {who : Option RequestId}
    {operation : Operation} (life : Life task operation.request
      (gathered (deedsOf task who) outset.system events) operation)
    (ended : operation.stage = .ended (.error .timedOut)) :
    ∃ deed ∈ gathered (deedsOf task who) outset.system events, ∃ before between after,
      TimesOut outset events task before between after ∧
        deed.system = outset.system.run (before ++ .step task :: between) := by
  obtain ⟨deed, member, alarm, stage, ungranted, due, left, -⟩ := life.expiry ended
  obtain ⟨past, after, taken⟩ := deed_taken member
  have stands : (outset.system.run past).StandsUntil task alarm :=
    .inl ⟨who, deed.before, taken.system ▸ taken.busy, stage⟩
  have token := taken.carries.token
  rw [left, taken.system, ← run_concat] at token
  rw [taken.system] at ungranted due
  obtain ⟨before, between, rfl, timesOut⟩ := times_out taken.split stands ungranted due token
  exact ⟨deed, member, before, between, after, timesOut, taken.system⟩

theorem operation_times_out {outset : Outset} {events : List Event} {who : Option RequestId}
    {operation : Operation} (life : Life task operation.request
      (gathered (deedsOf task who) outset.system events) operation)
    (ended : operation.stage = .ended (.error .timedOut)) :
    (∃ before between after, TimesOut outset events task before between after) ∧
      NeverServed outset events task who := by
  have unserved := life.unserved (by rw [ended]; rfl)
  constructor
  · obtain ⟨-, -, before, between, after, timesOut, -⟩ := operation_gives_up life ended
    exact ⟨before, between, after, timesOut⟩
  · refine ⟨unserved, fun part rest running split busy held => ?_⟩
    have role := role_of_attempt busy
    have holds := ((run_sound outset part).fits.holding task).mpr held
    rw [stake, role] at holds
    refine unserved_role ?_ holds
    rcases ((run_followed outset part task who).inHand running busy).last with
      created | ⟨deed, member, rfl⟩
    · rw [created]
      rfl
    · refine (unserved deed ?_).stage
      rw [split, gathered_append]
      exact List.mem_append_left _ member

/-- A task that is not there yet, or a session that has not got the token yet. -/
def Unserved (system : System) (task : TaskId) : Prop :=
  ∀ kind, system.tasks[task]? = some kind →
    ∃ session stage, kind = .fork session stage ∧ stage.isUnserved = true

theorem ForkStep.unserved {session : Session} {stage after : ForkStage} {moved : System}
    (step : ForkStep system task session stage moved after) (unserved : after.isUnserved = true) :
    stage.isUnserved = true := by
  cases step with
  | proceed running => rfl
  | queue taken => rfl
  | _ => cases unserved

/-- Who has the token at some moment, or has had it, is never again somebody who has not. -/
theorem unserved_before (event : Event) (unserved : (system.apply event).Unserved task) :
    system.Unserved task := by
  intro kind found
  obtain ⟨new, there, becomes⟩ := apply_becomes system event found
  obtain ⟨session, stage, same, early⟩ := unserved new there
  cases becomes with
  | stay => exact ⟨session, stage, same, early⟩
  | move old new alike other =>
      rw [same] at alike
      exact absurd alike.symm other
  | fork session before after moved own step =>
      obtain ⟨rfl, rfl⟩ := Task.fork.inj same
      exact ⟨session, before, rfl, step.unserved early⟩

theorem unserved_before_run (events : List Event) (unserved : (system.run events).Unserved task) :
    system.Unserved task := by
  induction events using List.reverseRecOn with
  | nil => exact unserved
  | append_singleton events event induction =>
      rw [run_concat] at unserved
      exact induction (unserved_before event unserved)

/-- A session that comes to an end without the token, and asks for nothing. -/
structure NeverStarted (outset : Outset) (events : List Event) (task : TaskId) : Prop where
  steps : ∀ part rest, events = part ++ .step task :: rest →
    (outset.system.run (part ++ [.step task])).issuer = (outset.system.run part).issuer ∧
      (outset.system.run (part ++ [.step task])).submitted = (outset.system.run part).submitted
  place : ∀ part rest, events = part ++ rest → (outset.system.run part).token.place ≠ .held task

/-- A session has ended. -/
def Ended (system : System) (task : TaskId) : Prop :=
  ∃ session outcome, system.tasks[task]? = some (.fork session (.ended outcome))

theorem ended_stays (event : Event) (ended : system.Ended task) :
    (system.apply event).Ended task := by
  obtain ⟨session, outcome, found⟩ := ended
  obtain ⟨new, there, becomes⟩ := apply_becomes system event found
  cases becomes with
  | stay => exact ⟨session, outcome, there⟩
  | move old new alike other => exact absurd rfl other
  | fork session before after moved own step => cases step

theorem ended_stays_in_run (ended : system.Ended task) (events : List Event) :
    (system.run events).Ended task := by
  let Holds (system : System) : Prop := system.Ended task
  have kept (system : System) (event : Event) (ended : Holds system) :
      Holds (system.apply event) := ended_stays event ended
  have start : Holds system := ended
  exact run_invariant kept start events

/-- Neither a session that has not got the token nor one that has ended asks for anything. -/
theorem quiet_step (quiet : system.Unserved task ∨ system.Ended task) :
    (system.apply (.step task)).issuer = system.issuer ∧
      (system.apply (.step task)).submitted = system.submitted := by
  simp only [apply]
  cases stepped : system.step task with
  | none => exact ⟨rfl, rfl⟩
  | some next =>
      cases found : system.tasks[task]? with
      | none => simp [step, found] at stepped
      | some kind =>
          obtain ⟨session, stage, rfl, state⟩ : ∃ session stage, kind = .fork session stage ∧
              (stage.isUnserved = true ∨ ∃ outcome, stage = .ended outcome) := by
            rcases quiet with unserved | ⟨session, outcome, there⟩
            · obtain ⟨session, stage, same, early⟩ := unserved kind found
              exact ⟨session, stage, same, .inl early⟩
            · obtain rfl := Option.some.inj (there.symm.trans found)
              exact ⟨session, _, rfl, .inr ⟨outcome, rfl⟩⟩
          simp only [step, found] at stepped
          obtain ⟨moved, after, rule, rfl⟩ := step_fork_cases stepped
          cases rule with
          | refuse => exact ⟨rfl, rfl⟩
          | proceed => exact ⟨rfl, rfl⟩
          | enter => exact ⟨rfl, rfl⟩
          | queue => exact ⟨rfl, rfl⟩
          | accept => exact ⟨rfl, rfl⟩
          | expire => exact ⟨rfl, rfl⟩
          | _ => rcases state with early | ⟨outcome, ended⟩ <;> first | cases early | cases ended

theorem quiet_place (sound : system.Sound) (quiet : system.Unserved task ∨ system.Ended task) :
    system.token.place ≠ .held task := by
  intro held
  have holds := (sound.fits.holding task).mpr held
  rcases quiet with unserved | ⟨session, outcome, found⟩
  · unfold stake role at holds
    cases found : system.tasks[task]? with
    | none =>
        rw [found] at holds
        cases holds
    | some kind =>
        obtain ⟨session, stage, rfl, early⟩ := unserved kind found
        rw [found] at holds
        cases stage <;> first | cases early; done | cases holds
  · rw [stake, role_found found] at holds
    cases holds

/-- A session that gives up in line has stood there for the time limit, and is never served. -/
theorem fork_gives_up {outset : Outset} {events past after : List Event} {session : Session}
    {alarm : Alarm} (split : events = past ++ .step task :: after)
    (found : (outset.system.run past).tasks[task]? = some (.fork session (.waiting alarm)))
    (ungranted : (outset.system.run past).token.place ≠ .granted task)
    (due : alarm.due ≤ (outset.system.run past).clock)
    (left : (outset.system.run (past ++ [.step task])).token =
      (outset.system.run past).token.leave task)
    (done : (outset.system.run (past ++ [.step task])).Ended task) :
    (∃ before between after, TimesOut outset events task before between after) ∧
      NeverStarted outset events task := by
  obtain ⟨before, between, -, timesOut⟩ :=
    times_out split (.inr ⟨session, found⟩) ungranted due left
  refine ⟨⟨before, between, after, timesOut⟩, ?_⟩
  have waits : (outset.system.run past).Unserved task := by
    intro kind there
    obtain rfl := Option.some.inj (found.symm.trans there)
    exact ⟨session, _, rfl, rfl⟩
  -- before the time is over it has not got the token, and behind that it has ended
  have quiet (part rest : List Event) (cut : events = part ++ rest) :
      (outset.system.run part).Unserved task ∨ (outset.system.run part).Ended task := by
    rw [split] at cut
    rcases List.append_eq_append_iff.mp cut with ⟨more, rfl, tail⟩ | ⟨more, rfl, -⟩
    · cases more with
      | nil =>
          rw [List.append_nil]
          exact .inl waits
      | cons event more =>
          obtain ⟨rfl, -⟩ := List.cons.inj tail
          have whole : past ++ .step task :: more = past ++ [.step task] ++ more := by simp
          rw [whole, run_append]
          exact .inr (ended_stays_in_run done more)
    · rw [run_append] at waits
      exact .inl (unserved_before_run more waits)
  constructor
  · intro part rest cut
    rw [run_concat]
    exact quiet_step (quiet part _ cut)
  · intro part rest cut
    exact quiet_place (run_sound outset part) (quiet part rest cut)

/-- A session that has ended has done so in a step of its own. -/
theorem ended_by {outset : Outset} {events : List Event} {session : Session} {outcome : Outcome}
    (ended : (outset.system.run events).tasks[task]? = some (.fork session (.ended outcome))) :
    ∃ past after stage moved, events = past ++ .step task :: after ∧
      (outset.system.run past).tasks[task]? = some (.fork session stage) ∧
      ForkStep (outset.system.run past) task session stage moved (.ended outcome) ∧
      outset.system.run (past ++ [.step task]) =
        moved.setTask task (.fork session (.ended outcome)) := by
  let Over (system : System) : Prop :=
    system.tasks[task]? = some (.fork session (.ended outcome))
  let Ends (system : System) (event : Event) : Prop :=
    event = .step task ∧ ∃ stage last moved, system.tasks[task]? = some (.fork session stage) ∧
      ForkStep system task session stage moved last ∧ last = .ended outcome ∧
      system.apply event = moved.setTask task (.fork session last)
  have start : ¬ Over outset.system := nofun
  have turn (part : List Event) (event : Event) (rest : List Event)
      (_ : events = part ++ event :: rest) (gone : Over ((outset.system.run part).apply event)) :
      Over (outset.system.run part) ∨ Ends (outset.system.run part) event := by
    cases apply_comes (outset.system.run part) event gone with
    | stay kind found => exact .inl found
    | begin kind begun => cases begun
    | move old new found alike other => exact absurd rfl other
    | fork session before after moved own found step applied =>
        exact .inr ⟨own, before, _, moved, found, step, rfl, applied⟩
  obtain ⟨past, event, after, split, ends, -⟩ := @run_since Over Ends _ start events turn ended
  obtain ⟨rfl, stage, last, moved, found, step, rfl, applied⟩ := ends
  exact ⟨past, after, stage, moved, split, found, step, by rw [run_concat, applied]⟩

theorem fork_times_out {outset : Outset} {events : List Event} {session : Session}
    (ended : (outset.system.run events).tasks[task]? =
      some (.fork session (.ended (.error .timedOut)))) :
    (∃ past request after, events = past ++ .step task :: after ∧
        (outset.system.run past).tasks[task]? = some (.fork session (.awaiting request)) ∧
        (outset.system.run past).answer? request = some (.error .timedOut)) ∨
      (∃ before between after, TimesOut outset events task before between after) ∧
        NeverStarted outset events task := by
  obtain ⟨past, after, stage, moved, split, found, step, applied⟩ := ended_by ended
  have done : (outset.system.run (past ++ [.step task])).Ended task := by
    rw [applied]
    exact ⟨session, _, set_task_itself _ (step.lane_roles.1 ▸ found)⟩
  generalize gaveUp : ForkStage.ended (.error .timedOut) = last at step applied
  cases step with
  | fail failure refused =>
      have same := Except.error.inj (ForkStage.ended.inj gaveUp)
      exact absurd same.symm ((outset.system.run past).catalogue.classify_answered failure).1
  | finish request outcome replied =>
      obtain rfl := ForkStage.ended.inj gaveUp
      exact .inl ⟨past, request, after, split, found, replied⟩
  | expire alarm ungranted due =>
      have left : (outset.system.run (past ++ [.step task])).token =
          (outset.system.run past).token.leave task := by
        rw [applied]
        rfl
      exact .inr (fork_gives_up split found ungranted due left done)
  | _ => cases gaveUp

/-- How long operations and sessions have waited for the token after a run. -/
structure WaitsAreBounded (outset : Outset) (events : List Event) : Prop where
  /-- When nothing else can move, whoever stands in line has lined up less than the time
  limit ago. -/
  recent : (outset.system.run events).Quiescent → ∀ task alarm,
    (outset.system.run events).StandsUntil task alarm →
      ∃ before after, events = before ++ .step task :: after ∧
        LinesUp (outset.system.run before) (outset.system.run (before ++ [.step task])) task alarm ∧
        (∀ part rest, after = part ++ rest →
          (outset.system.run (before ++ .step task :: part)).StandsUntil task alarm) ∧
        (outset.system.run events).clock <
          (outset.system.run before).clock + outset.intervals.waitTimeout
  requests : ∀ id, (outset.system.run events).answer? id = some (.error .timedOut) →
    ∃ task, (∃ before between after, TimesOut outset events task before between after) ∧
      NeverServed outset events task (some id)
  directs : ∀ (task : TaskId) operation isCancelled,
    (outset.system.run events).tasks[task]? = some (.direct operation isCancelled) →
      operation.stage = .ended (.error .timedOut) →
        (∃ before between after, TimesOut outset events task before between after) ∧
          NeverServed outset events task none
  /-- A session that has got the token hands on the answer to the request that follows,
  and this may be that its time ran out. -/
  sessions : ∀ (task : TaskId) session, (outset.system.run events).tasks[task]? =
      some (.fork session (.ended (.error .timedOut))) →
    (∃ past request after, events = past ++ .step task :: after ∧
        (outset.system.run past).tasks[task]? = some (.fork session (.awaiting request)) ∧
        (outset.system.run past).answer? request = some (.error .timedOut)) ∨
      (∃ before between after, TimesOut outset events task before between after) ∧
        NeverStarted outset events task

theorem stuck_early {alarm : Alarm} (stuck : system.step task = none)
    (stands : system.StandsUntil task alarm) : system.clock < alarm.due := by
  rcases stands with ⟨who, operation, busy, stage⟩ | ⟨session, found⟩
  · have still (cancelled : Bool)
        (none : system.stepOperation task cancelled operation = none) :
        system.clock < alarm.due := by
      have state := step_operation_none none
      rw [stage] at state
      exact state.2.2
    cases who with
    | some id =>
        obtain ⟨lane, held, worker, there, current⟩ := worker_of_attempt busy
        exact still held.isShut (by simpa [step, worker, stepWorker, there, current] using stuck)
    | none =>
        obtain ⟨isCancelled, found⟩ := direct_of_attempt busy
        exact still isCancelled (by simpa [step, found] using stuck)
  · have waits : ForkStage.Waits system task (.waiting alarm) :=
      step_fork_none (by simpa [step, found] using stuck)
    exact waits.2

/-- Nobody waits for the token longer than the time limit, and whoever is told that his
time ran out has waited so long in vain, gets nothing, and is not missed in line. -/
theorem waiting_for_the_token_is_bounded (outset : Outset) (events : List Event) :
    WaitsAreBounded outset events where
  recent quiet task alarm stands := by
    obtain ⟨before, after, split, linesUp, since⟩ := stands_since outset events stands
    have stuck := @Quiescent.stuck _ task quiet (by rw [stands.role]; rfl)
    have early := stuck_early stuck stands
    rw [linesUp.due, run_intervals] at early
    exact ⟨before, after, split, linesUp, since, early⟩
  requests id answered := by
    rcases answer_of_operation answered with ⟨refused, -⟩ | ⟨task, operation, life, ended⟩
    · cases refused
    · exact ⟨task, operation_times_out life ended⟩
  directs task operation isCancelled found ended := by
    have busy : (outset.system.run events).attempt? task = some (none, operation) := by
      simp [attempt?, found]
    exact operation_times_out ((run_followed outset events task none).inHand operation busy) ended
  sessions task session ended := fork_times_out ended

end System

end CertRenewal
