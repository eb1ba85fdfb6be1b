import CertRenewal.Proofs.Sessions

/-!
What the start of a session does, in the order in which it does it. It goes one of a few
ways: it is not let pass, or its time in line runs out, or it takes the token, calls the
issuer once and gives the token back, and asks for a refresh when that call has ended well.
-/

namespace CertRenewal

/-- What the start of a session does that others can see. -/
inductive SessionAct
  | takes
  | calls (call : IssuerCall)
  /-- Its call of the issuer ends with this answer. -/
  | learns (answer : Except RemoteFailure Unit)
  | givesBack
  /-- Submits a request, while this lane is open or none. -/
  | asks (id : RequestId) (lane? : Option LaneId)
  | ends (outcome : Outcome)

/-- The call of the issuer that an act begins, if it does. -/
def SessionAct.call? : SessionAct → Option IssuerCall
  | calls call => some call
  | _ => none

def ForkStage.outcome? : ForkStage → Option Outcome
  | ended outcome => some outcome
  | _ => none

/-- Where a session stands when this is what it has done so far, and these are the answers
to requests so far. -/
inductive ForkStage.Trail (session : Session) (catalogue : Catalogue)
    (answers : List (RequestId × Outcome)) : ForkStage → List SessionAct → Prop
  | checking : Trail session catalogue answers .checking []
  | arriving : Trail session catalogue answers .arriving []
  | waiting (alarm : Alarm) : Trail session catalogue answers (.waiting alarm) []
  | admitted : Trail session catalogue answers .admitted [.takes]
  | atGate : Trail session catalogue answers .atGate [.takes, .calls (.session session)]
  | concluding : Trail session catalogue answers .concluding [.takes, .calls (.session session)]
  | started : Trail session catalogue answers .started
      [.takes, .calls (.session session), .learns (.ok ()), .givesBack]
  | awaiting (id : RequestId) (lane? : Option LaneId) :
      Trail session catalogue answers (.awaiting id)
        [.takes, .calls (.session session), .learns (.ok ()), .givesBack, .asks id lane?]
  | refused : Trail session catalogue answers (.ended (.error .cancelled))
      [.ends (.error .cancelled)]
  | expired : Trail session catalogue answers (.ended (.error .timedOut))
      [.ends (.error .timedOut)]
  | failed (failure : RemoteFailure) :
      Trail session catalogue answers (.ended (.error (catalogue.classify failure)))
        [.takes, .calls (.session session), .learns (.error failure), .givesBack,
          .ends (.error (catalogue.classify failure))]
  | refreshed (id : RequestId) (lane? : Option LaneId) (outcome : Outcome)
      (answered : (id, outcome) ∈ answers) :
      Trail session catalogue answers (.ended outcome)
        [.takes, .calls (.session session), .learns (.ok ()), .givesBack, .asks id lane?,
          .ends outcome]

theorem ForkStage.Trail.kept {session : Session} {catalogue : Catalogue}
    {answers more : List (RequestId × Outcome)} {stage : ForkStage} {acts : List SessionAct}
    (trail : stage.Trail session catalogue answers acts)
    (kept : ∀ entry ∈ answers, entry ∈ more) : stage.Trail session catalogue more acts := by
  cases trail with
  | refreshed id lane? outcome answered => exact .refreshed id lane? outcome (kept _ answered)
  | waiting alarm => exact .waiting alarm
  | awaiting id lane? => exact .awaiting id lane?
  | failed failure => exact .failed failure
  | _ => constructor

/-- Who takes the token calls the issuer once, and nobody else calls it. -/
theorem ForkStage.Trail.calls {session : Session} {catalogue : Catalogue}
    {answers : List (RequestId × Outcome)} {stage : ForkStage} {acts : List SessionAct}
    (trail : stage.Trail session catalogue answers acts) :
    (acts.filterMap SessionAct.call?).length ≤ 1 ∧
      (stage ≠ .admitted →
        (acts.filterMap SessionAct.call? = [.session session] ↔ .takes ∈ acts)) := by
  cases trail <;> simp [SessionAct.call?, List.filterMap_cons]

namespace System

/-- What was said to the issuer meanwhile: the calls that were begun, and the answer with
which the start of a session has ended. -/
def sayings (system next : System) : List SessionAct :=
  (next.issuer.calls.take (next.issuer.calls.length - system.issuer.calls.length)).reverse.map
      .calls ++
    if next.issuer.sessionCalls = system.issuer.sessionCalls then []
    else [.learns system.issuer.endSession.1]

def sessionOutcome? (system : System) (task : TaskId) : Option Outcome :=
  match system.tasks[task]? with
  | some (.fork _ stage) => stage.outcome?
  | _ => none

/-- Whether an event is a step of a task. -/
def isStepOf (task : TaskId) : Event → Bool
  | .step mover => mover = task
  | _ => false

/-- What a task does in an event as the start of a session. What happens at once stands
in the order in which the task does it. The token may come and go in any event, and all
else is a step of the task itself. -/
def sessionActs (task : TaskId) (system : System) (event : Event) : List SessionAct :=
  let next := system.apply event
  let held := system.token.place = .held task
  let holds := next.token.place = .held task
  (if ¬ held ∧ holds then [.takes] else []) ++
    (if isStepOf task event then sayings system next else []) ++
    (if held ∧ ¬ holds then [.givesBack] else []) ++
    (if isStepOf task event then
      (system.submissions event).map (fun entry => .asks entry.1 entry.2) ++
        (if system.sessionOutcome? task = none then next.sessionOutcome? task else none).toList.map
          .ends
      else [])

variable {system next moved : System} {event : Event} {task : TaskId} {session : Session}
  {stage : ForkStage}

/-- Who holds the token before an event and behind it, or does not, and takes no step of
its own in it, has done nothing. -/
theorem session_acts_elsewhere (elsewhere : event ≠ .step task)
    (same : (system.apply event).token.place = .held task ↔ system.token.place = .held task) :
    system.sessionActs task event = [] := by
  have foreign : isStepOf task event = false := by
    cases event with
    | step mover => exact decide_eq_false fun same => elsewhere (congrArg Event.step same)
    | _ => rfl
  unfold sessionActs
  simp [same, foreign]

theorem submissions_count (system : System) (event : Event) :
    system.submissions event = (List.range' system.submitted
      ((system.apply event).submitted - system.submitted)).map fun id => (id, system.openLane) :=
  rfl

theorem end_session_calls (issuer : Issuer) :
    issuer.endSession.2.calls = issuer.calls ∧
      issuer.endSession.2.sessionCalls = issuer.sessionCalls + 1 := by
  unfold Issuer.endSession
  split <;> exact ⟨rfl, rfl⟩

theorem fork_holds (sound : system.Sound)
    (found : system.tasks[task]? = some (.fork session stage)) :
    system.token.place = .held task ↔ stage.role.stake = .holding := by
  rw [← sound.fits.holding task, stake, role_found found]
  rfl

/-- A step asks the issuer for something, or hears its answer, at two stages. -/
theorem ForkStep.said {after : ForkStage}
    (step : ForkStep system task session stage moved after) :
    sayings system moved =
      match stage with
      | .admitted => [.calls (.session session)]
      | .concluding => [.learns system.issuer.endSession.1]
      | _ => [] := by
  obtain ⟨calls, count⟩ := end_session_calls system.issuer
  cases step with
  | call => simp [sayings, Issuer.beginSession]
  | fail failure refused => simp [sayings, releaseToken, calls, count]
  | succeed accepted => simp [sayings, releaseToken, calls, count]
  | submit => simp [sayings, (submit_store _ _ _).2]
  | _ => simp [sayings, acceptToken, leaveLine]

theorem ForkStep.asked {after : ForkStage}
    (step : ForkStep system task session stage moved after) :
    moved.submitted - system.submitted = if stage = .started then 1 else 0 := by
  cases step with
  | submit => simp [submit_count]
  | _ => simp [acceptToken, leaveLine, releaseToken]

/-- What a session does in a step is read off the stages before the step and behind it. -/
theorem ForkStep.session_acts {after : ForkStage}
    (step : ForkStep system task session stage moved after) (sound : system.Sound)
    (found : system.tasks[task]? = some (.fork session stage))
    (applied : system.apply (.step task) = moved.setTask task (.fork session after)) :
    system.sessionActs task (.step task) =
      (if ¬ stage.role.stake = .holding ∧ after.role.stake = .holding then [.takes] else []) ++
        sayings system moved ++
        (if stage.role.stake = .holding ∧ ¬ after.role.stake = .holding then [.givesBack]
          else []) ++
        ((List.range' system.submitted (moved.submitted - system.submitted)).map
            (fun id => .asks id system.openLane) ++
          after.outcome?.toList.map .ends) := by
  have there : (moved.setTask task (.fork session after)).tasks[task]? =
      some (.fork session after) := set_task_itself _ (step.lane_roles.1 ▸ found)
  have held := fork_holds sound found
  have holds := fork_holds (applied ▸ sound.apply (.step task)) there
  have going : system.sessionOutcome? task = none := by
    unfold sessionOutcome?
    rw [found]
    cases step <;> rfl
  have ended : (moved.setTask task (.fork session after)).sessionOutcome? task =
      after.outcome? := by
    unfold sessionOutcome?
    rw [there]
  have count : system.submissions (.step task) = (List.range' system.submitted
      (moved.submitted - system.submitted)).map fun id => (id, system.openLane) := by
    rw [submissions_count, applied]
    rfl
  have said : sayings system (moved.setTask task (.fork session after)) =
      sayings system moved := rfl
  have itself : isStepOf task (.step task) = true := decide_eq_true rfl
  simp only [sessionActs, itself, if_true, applied, held, holds, going, count, ended, said,
    List.map_map, Function.comp_def]

/-- What the rules of a step do, from the stage at which the session stands to the next
one. -/
theorem ForkStep.acts {after : ForkStage} {acts : List SessionAct}
    (step : ForkStep system task session stage moved after) (sound : system.Sound)
    (found : system.tasks[task]? = some (.fork session stage))
    (applied : system.apply (.step task) = moved.setTask task (.fork session after))
    (trail : stage.Trail session system.catalogue system.answers acts) :
    after.Trail session system.catalogue system.answers
      (acts ++ system.sessionActs task (.step task)) := by
  rw [step.session_acts sound found applied, step.said, step.asked]
  cases step with
  | refuse stopped =>
      cases trail
      exact .refused
  | proceed running =>
      cases trail
      exact .arriving
  | enter free =>
      cases trail
      exact .admitted
  | queue taken =>
      cases trail
      exact .waiting _
  | accept alarm granted =>
      cases trail
      exact .admitted
  | expire alarm ungranted due =>
      cases trail
      exact .expired
  | call =>
      cases trail
      exact .atGate
  | pass gate passes =>
      cases trail
      exact .concluding
  | fail failure refused =>
      cases trail
      rw [refused]
      exact .failed failure
  | succeed accepted =>
      cases trail
      rw [accepted]
      exact .started
  | submit =>
      cases trail
      exact .awaiting _ _
  | finish request outcome replied =>
      cases trail
      obtain ⟨front, rest, record, -⟩ := List.lookup_eq_some_iff.mp replied
      exact .refreshed _ _ _ (by simp [record])

/-- An event leaves a session where it stands, or it is a step of the session by the
rules. -/
theorem fork_turn (found : system.tasks[task]? = some (.fork session stage)) (event : Event) :
    ((event ≠ .step task ∨ system.apply event = system) ∧
        (system.apply event).tasks[task]? = some (.fork session stage)) ∨
      ∃ moved after, event = .step task ∧ ForkStep system task session stage moved after ∧
        system.apply event = moved.setTask task (.fork session after) := by
  by_cases own : event = .step task
  · subst own
    cases stepped : system.step task with
    | none =>
        have still : system.apply (.step task) = system := by simp [apply, stepped]
        exact .inl ⟨.inr still, still.symm ▸ found⟩
    | some next =>
        have moves : system.stepFork task session stage = some next := by
          simpa [step, found] using stepped
        obtain ⟨moved, after, rule, same⟩ := step_fork_cases moves
        exact .inr ⟨moved, after, rfl, rule, by simp [apply, stepped, same]⟩
  · obtain ⟨new, there, becomes⟩ := apply_becomes system event found
    cases becomes with
    | stay => exact .inl ⟨.inl own, there⟩
    | move old new alike other => exact absurd rfl other
    | fork session before after moved mine step => exact absurd mine own

/-- A session has done what leads to where it stands, and a task that is not there yet
has done nothing. -/
structure Journaled (system : System) (task : TaskId) (catalogue : Catalogue)
    (acts : List SessionAct) : Prop where
  absent : system.tasks[task]? = none → acts = []
  trail : ∀ session stage, system.tasks[task]? = some (.fork session stage) →
    stage.Trail session catalogue system.answers acts

/-- Who neither has to do with the token before an event nor behind it does nothing. -/
theorem session_acts_idle (sound : system.Sound) (elsewhere : event ≠ .step task)
    (before : system.role task = .idle) (after : (system.apply event).role task = .idle) :
    system.sessionActs task event = [] := by
  have free {other : System} (fits : other.Sound) (idle : other.role task = .idle) :
      other.token.place ≠ .held task := by
    intro held
    have holds := (fits.fits.holding task).mpr held
    rw [stake, idle] at holds
    cases holds
  refine session_acts_elsewhere elsewhere ?_
  exact iff_of_false (free (sound.apply event) after) (free sound before)

/-- What changes nothing is nothing done. -/
theorem session_acts_still (still : system.apply event = system) :
    system.sessionActs task event = [] := by
  have none : system.submissions event = [] := by
    rw [submissions_count, still, Nat.sub_self]
    rfl
  simp [sessionActs, still, none, sayings]

theorem absent_before (absent : (system.apply event).tasks[task]? = none) :
    system.tasks[task]? = none := by
  cases here : system.tasks[task]? with
  | none => rfl
  | some kind =>
      obtain ⟨new, present, -⟩ := apply_becomes system event here
      exact (nomatch absent.symm.trans present)

theorem step_of_absent (absent : system.tasks[task]? = none) :
    system.apply (.step task) = system := by
  simp [apply, step, absent]

/-- A session that is there behind an event was there before, or begins with nothing done. -/
theorem fork_before (found : (system.apply event).tasks[task]? = some (.fork session stage)) :
    (system.tasks[task]? = none ∧ event ≠ .step task ∧
        (stage = .checking ∨ stage = .arriving)) ∨
      ∃ before, system.tasks[task]? = some (.fork session before) := by
  cases there : system.tasks[task]? with
  | none =>
      left
      refine ⟨rfl, fun own => ?_, ?_⟩
      · rw [own, step_of_absent there, there] at found
        cases found
      · cases apply_comes system event found with
        | stay kind before => exact (nomatch there.symm.trans before)
        | begin kind begun =>
            cases begun with
            | session session => exact .inl rfl
            | fork session => exact .inr rfl
        | move old new before => exact (nomatch there.symm.trans before)
        | fork session before after moved own present => exact (nomatch there.symm.trans present)
  | some kind =>
      right
      obtain ⟨new, present, becomes⟩ := apply_becomes system event there
      obtain rfl := Option.some.inj (found.symm.trans present)
      cases becomes with
      | stay => exact ⟨stage, rfl⟩
      | move old new alike other => exact absurd alike.symm other
      | fork session before after moved own step => exact ⟨before, rfl⟩

theorem Journaled.apply {acts : List SessionAct}
    (journaled : system.Journaled task system.catalogue acts) (sound : system.Sound)
    (kept : system.traffic.Kept) (event : Event) :
    (system.apply event).Journaled task system.catalogue
      (acts ++ system.sessionActs task event) where
  absent gone := by
    have absent := absent_before gone
    rw [journaled.absent absent, List.nil_append]
    by_cases own : event = .step task
    · exact session_acts_still (own ▸ step_of_absent absent)
    · exact session_acts_idle sound own (role_absent absent) (role_absent gone)
  trail session stage found := by
    rcases fork_before found with ⟨absent, elsewhere, begins⟩ | ⟨before, there⟩
    · have idle : (system.apply event).role task = .idle := by
        rw [role_found found]
        rcases begins with rfl | rfl <;> rfl
      rw [journaled.absent absent, session_acts_idle sound elsewhere (role_absent absent) idle]
      rcases begins with rfl | rfl
      · exact .checking
      · exact .arriving
    · have trail := journaled.trail session before there
      rcases fork_turn there event with ⟨quiet, same⟩ | ⟨moved, after, rfl, step, applied⟩
      · obtain ⟨-, rfl⟩ := Task.fork.inj (Option.some.inj (same.symm.trans found))
        have none : system.sessionActs task event = [] := by
          rcases quiet with elsewhere | still
          · refine session_acts_elsewhere elsewhere ?_
            rw [fork_holds (sound.apply event) found, fork_holds sound there]
          · exact session_acts_still still
        rw [none, List.append_nil]
        exact trail.kept fun entry given => answers_kept kept event given
      · have last := (step.acts sound there applied trail).kept fun entry given =>
          answers_kept kept (.step task) given
        rw [applied, set_task_itself _ (step.lane_roles.1 ▸ there)] at found
        obtain ⟨-, rfl⟩ := Task.fork.inj (Option.some.inj found)
        exact last

theorem run_catalogue (outset : Outset) (events : List Event) :
    (outset.system.run events).catalogue = outset.catalogue :=
  congrArg (·.2.1) (run_settings outset events)

theorem run_journaled (outset : Outset) (events : List Event) (task : TaskId) :
    (outset.system.run events).Journaled task outset.catalogue
      (gathered (sessionActs task) outset.system events) := by
  induction events using List.reverseRecOn with
  | nil => exact ⟨fun _ => rfl, fun session stage found => nomatch found⟩
  | append_singleton events event induction =>
      rw [gathered_concat, run_concat]
      rw [← run_catalogue outset events] at induction ⊢
      exact induction.apply (run_sound outset events) (run_kept outset events) event

theorem ForkStep.store {after : ForkStage}
    (step : ForkStep system task session stage moved after) : moved.store = system.store := by
  cases step with
  | submit => exact (submit_store _ _ _).1
  | _ => rfl

/-- A session that is there after a run was there before it, or was begun in it. -/
theorem fork_earlier (events : List Event)
    (found : (system.run events).tasks[task]? = some (.fork session stage)) :
    system.tasks[task]? = none ∨
      ∃ before, system.tasks[task]? = some (.fork session before) := by
  induction events generalizing system with
  | nil => exact .inr ⟨stage, found⟩
  | cons event events induction =>
      rcases induction found with absent | ⟨later, there⟩
      · exact .inl (absent_before absent)
      · rcases fork_before there with ⟨absent, -⟩ | before
        · exact .inl absent
        · exact .inr before

/-- What a step of a task comes to that is the start of a session later on. -/
theorem session_step {outset : Outset} {events before after : List Event}
    (found : (outset.system.run events).tasks[task]? = some (.fork session stage))
    (split : events = before ++ .step task :: after) :
    (outset.system.run before).apply (.step task) = outset.system.run before ∨
      ∃ first moved last, (outset.system.run before).tasks[task]? = some (.fork session first) ∧
        ForkStep (outset.system.run before) task session first moved last ∧
        (outset.system.run before).apply (.step task) =
          moved.setTask task (.fork session last) := by
  rw [split, run_append] at found
  rcases fork_earlier _ found with absent | ⟨first, there⟩
  · exact .inl (step_of_absent absent)
  · rcases fork_turn there (.step task) with ⟨quiet, -⟩ | ⟨moved, last, -, step, applied⟩
    · exact .inl (quiet.resolve_left fun elsewhere => elsewhere rfl)
    · exact .inr ⟨first, moved, last, there, step, applied⟩

theorem step_of_own (own : isStepOf task event = true) : event = .step task := by
  cases event with
  | step mover => rw [of_decide_eq_true own]
  | _ => cases own

theorem mem_sayings {act : SessionAct} (member : act ∈ sayings system next) :
    (∃ call, act = .calls call) ∨ ∃ answer, act = .learns answer := by
  rcases List.mem_append.mp member with called | learnt
  · obtain ⟨call, -, same⟩ := List.mem_map.mp called
    exact .inl ⟨call, same.symm⟩
  · split at learnt
    · cases learnt
    · exact .inr ⟨_, List.mem_singleton.mp learnt⟩

/-- A task submits a request in a step of its own. -/
theorem mem_asks {id : RequestId} {lane? : Option LaneId}
    (member : .asks id lane? ∈ system.sessionActs task event) :
    event = .step task ∧ (id, lane?) ∈ system.submissions event := by
  unfold sessionActs at member
  simp only [List.mem_append] at member
  rcases member with ((taken | said) | back) | asked
  · split at taken <;> simp at taken
  · split at said
    · rcases mem_sayings said with ⟨call, same⟩ | ⟨answer, same⟩ <;> cases same
    · cases said
  · split at back <;> simp at back
  · split at asked
    · rename_i own
      exact ⟨step_of_own own, by simpa using asked⟩
    · cases asked

end System

end CertRenewal
