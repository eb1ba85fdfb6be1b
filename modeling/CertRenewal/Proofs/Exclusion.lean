import CertRenewal.Proofs.Roles
import Mathlib.Data.List.Perm.Subperm

/-!
One caller of the issuer at a time. Whatever happens in whatever order, a task in a
call holds the token, so no two calls overlap; and the token is never lost or
doubled: who is given it gives it back, once, before the next one is given it.
-/

namespace CertRenewal

inductive Handover
  | given (task : TaskId)
  | back (task : TaskId)
deriving DecidableEq, Repr

namespace System

def stake (system : System) (task : TaskId) : Stake := (system.role task).stake

def tasksWith (system : System) (test : Role → Bool) : List TaskId :=
  (List.range system.tasks.length).filter fun task => test (system.role task)

/-- The tasks in a call of the issuer, of either kind. -/
def callers (system : System) : List TaskId := system.tasksWith Role.isCalling

def refreshers (system : System) : List TaskId := system.tasksWith Role.isRefreshing

/-- The tasks that believe to hold the token. -/
def holders (system : System) : List TaskId := system.tasksWith (·.stake = .holding)

def waiters (system : System) : List TaskId := system.tasksWith (·.stake = .standing)

/-- The token is free and nobody waits for it, or it was granted to one of those
who wait, or one task holds it. -/
def Accounted (system : System) : Prop :=
  match system.token.place with
  | .free => system.holders = [] ∧ system.waiters = []
  | .granted task => system.holders = [] ∧ system.waiters.Perm (task :: system.token.line)
  | .held task => system.holders = [task] ∧ system.waiters.Perm system.token.line

/-- What an event makes of the token: its owner has nothing to do with it any more,
or somebody else has it. -/
def handovers (system : System) (event : Event) : List Handover :=
  let next := system.apply event
  let backs := match system.token.owner? with
    | some owner => if next.role owner = .idle then [.back owner] else []
    | none => []
  let gifts := match next.token.owner? with
    | some owner => if system.token.owner? = some owner then [] else [.given owner]
    | none => []
  backs ++ gifts

/-- What holds between any two events. -/
structure Sound (system : System) : Prop where
  crewed : system.Crewed
  fits : system.token.Fits system.stake
  busy : ∀ task, (system.role task).isRefreshing = true → system.issuer.inFlight = 1
  still : (∀ task, (system.role task).isRefreshing = false) → system.issuer.inFlight = 0
  most : system.issuer.maxInFlight ≤ 1

variable {system next : System} {task : TaskId}

theorem outset_sound (outset : Outset) : outset.system.Sound where
  crewed := outset_crewed outset
  fits := Token.initial_fits
  busy task refreshing := by cases refreshing
  still _ := rfl
  most := Nat.zero_le 1

theorem Sound.holder_unique (sound : system.Sound) {other : TaskId}
    (holds : system.stake task = .holding) (too : system.stake other = .holding) :
    task = other := by
  have mine := (sound.fits.holding task).mp holds
  have theirs := (sound.fits.holding other).mp too
  exact TokenPlace.held.inj (mine.symm.trans theirs)

theorem refreshing_holds (refreshing : (system.role task).isRefreshing = true) :
    system.stake task = .holding := by
  unfold stake
  cases role : system.role task <;> simp [role, Role.isRefreshing] at refreshing
  rfl

theorem Sound.apply (sound : system.Sound) (event : Event) : (system.apply event).Sound := by
  have crewed := apply_crewed system event sound.crewed
  obtain ⟨task, move, others⟩ := apply_moves sound.crewed event
  generalize system.apply event = next at *
  have fits : next.token.Fits next.stake := by
    refine move.token_move.fits sound.fits rfl rfl fun other different => ?_
    unfold stake
    rw [others other different]
  have refreshes : ∀ other, other ≠ task →
      (next.role other).isRefreshing = (system.role other).isRefreshing :=
    fun other different => by rw [others other different]
  -- only the role of the mover changes, so what it was and becomes decides about the load
  generalize before : system.role task = old at move
  generalize becomes : next.role task = new at move
  generalize next.token = token at move
  cases move with
  | handle move load apart =>
      have same : ∀ other, (next.role other).isRefreshing = (system.role other).isRefreshing := by
        intro other
        by_cases itself : other = task
        · rw [itself, before, becomes, apart]
        · exact refreshes other itself
      refine ⟨crewed, fits, ?_, ?_, ?_⟩
      · intro other refreshing
        rw [load.1]
        exact sound.busy other (same other ▸ refreshing)
      · intro none
        rw [load.1]
        exact sound.still fun other => same other ▸ none other
      · rw [load.2]
        exact sound.most
  | begin more most =>
      have holds : system.stake task = .holding := by
        unfold stake
        rw [before]
        rfl
      have none : ∀ other, (system.role other).isRefreshing = false := by
        intro other
        rw [Bool.eq_false_iff]
        intro refreshing
        obtain rfl := sound.holder_unique holds (refreshing_holds refreshing)
        rw [before] at refreshing
        cases refreshing
      have empty := sound.still none
      refine ⟨crewed, fits, ?_, ?_, ?_⟩
      · intro _ _
        rw [more, empty]
      · intro none
        have still := none task
        rw [becomes] at still
        cases still
      · rw [most, empty]
        exact Nat.max_le.mpr ⟨sound.most, Nat.le_refl 1⟩
  | finish fewer most =>
      have refreshing : (system.role task).isRefreshing = true := by rw [before]; rfl
      have none : ∀ other, (next.role other).isRefreshing = false := by
        intro other
        by_cases itself : other = task
        · rw [itself, becomes]
          rfl
        · rw [refreshes other itself, Bool.eq_false_iff]
          intro too
          exact itself (sound.holder_unique (refreshing_holds too) (refreshing_holds refreshing))
      refine ⟨crewed, fits, ?_, ?_, ?_⟩
      · intro other too
        rw [none other] at too
        cases too
      · intro _
        rw [fewer, sound.busy task refreshing]
      · rw [most]
        exact sound.most

theorem run_sound (outset : Outset) (events : List Event) : (outset.system.run events).Sound :=
  run_invariant (fun _ event sound => sound.apply event) (outset_sound outset) events

theorem mem_tasks_with {test : Role → Bool} (idle : test .idle = false) :
    task ∈ system.tasksWith test ↔ test (system.role task) = true := by
  unfold tasksWith
  rw [List.mem_filter, List.mem_range, and_iff_right_iff_imp]
  intro passes
  by_contra outside
  have absent : system.tasks[task]? = none := List.getElem?_eq_none (Nat.le_of_not_lt outside)
  rw [role_absent absent, idle] at passes
  cases passes

theorem tasks_with_nodup (system : System) (test : Role → Bool) :
    (system.tasksWith test).Nodup := List.nodup_range.filter _

theorem mem_holders : task ∈ system.holders ↔ system.stake task = .holding := by
  unfold holders
  rw [mem_tasks_with rfl, decide_eq_true_iff]
  rfl

theorem mem_waiters : task ∈ system.waiters ↔ system.stake task = .standing := by
  unfold waiters
  rw [mem_tasks_with rfl, decide_eq_true_iff]
  rfl

theorem length_of_single {Item : Type} {items : List Item} (once : items.Nodup) (item : Item)
    (only : ∀ other ∈ items, other = item) : items.length ≤ 1 := by
  have within : items ⊆ [item] := fun other member => by simp [only other member]
  exact (List.Nodup.subperm once within).length_le

theorem Sound.waiters_perm (sound : system.Sound) :
    system.waiters.Perm system.token.standing := by
  refine (List.perm_ext_iff_of_nodup (tasks_with_nodup _ _) sound.fits.once).mpr fun task => ?_
  exact mem_waiters.trans (sound.fits.standing task)

theorem Sound.accounted (sound : system.Sound) : system.Accounted := by
  have waiting := sound.waiters_perm
  have held (task : TaskId) : task ∈ system.holders ↔ system.token.place = .held task :=
    mem_holders.trans (sound.fits.holding task)
  unfold Accounted
  unfold Token.standing at waiting
  cases place : system.token.place with
  | free =>
      simp only [place, sound.fits.empty place] at waiting
      refine ⟨List.eq_nil_iff_forall_not_mem.mpr fun task member => ?_, waiting.eq_nil⟩
      rw [held, place] at member
      cases member
  | granted owner =>
      simp only [place] at waiting
      refine ⟨List.eq_nil_iff_forall_not_mem.mpr fun task member => ?_, waiting⟩
      rw [held, place] at member
      cases member
  | held owner =>
      simp only [place] at waiting
      refine ⟨?_, waiting⟩
      refine List.perm_singleton.mp ((List.perm_ext_iff_of_nodup (tasks_with_nodup _ _)
        (List.nodup_singleton owner)).mpr fun task => ?_)
      rw [List.mem_singleton]
      refine (held task).trans ⟨fun same => ?_, fun same => ?_⟩
      · rw [place] at same
        exact (TokenPlace.held.inj same).symm
      · rw [place, same]

theorem Sound.caller_holds (sound : system.Sound) (caller : task ∈ system.callers) :
    system.token.place = .held task := by
  have calling := (mem_tasks_with rfl).mp caller
  exact (sound.fits.holding task).mp (Role.calling_holds calling)

theorem Sound.callers_length (sound : system.Sound) : system.callers.length ≤ 1 := by
  cases listed : system.callers with
  | nil => exact Nat.zero_le 1
  | cons first rest =>
      rw [← listed]
      have present : first ∈ system.callers := by rw [listed]; exact List.mem_cons_self
      have place := sound.caller_holds present
      refine length_of_single (tasks_with_nodup _ _) first fun other member => ?_
      exact TokenPlace.held.inj ((sound.caller_holds member).symm.trans place)

/-- The issuer counts as many refreshes in flight as there are tasks in one. -/
theorem Sound.in_flight (sound : system.Sound) :
    system.issuer.inFlight = system.refreshers.length := by
  cases listed : system.refreshers with
  | nil =>
      refine sound.still fun task => ?_
      rw [Bool.eq_false_iff]
      intro refreshing
      have present : task ∈ system.refreshers := (mem_tasks_with rfl).mpr refreshing
      rw [listed] at present
      cases present
  | cons first rest =>
      have refreshing (task : TaskId) (member : task ∈ system.refreshers) :
          (system.role task).isRefreshing = true := (mem_tasks_with rfl).mp member
      have present : first ∈ system.refreshers := by rw [listed]; exact List.mem_cons_self
      have atMost : system.refreshers.length ≤ 1 := by
        refine length_of_single (tasks_with_nodup _ _) first fun other member => ?_
        exact sound.holder_unique (refreshing_holds (refreshing other member))
          (refreshing_holds (refreshing first present))
      rw [listed, List.length_cons] at atMost
      rw [sound.busy first (refreshing first present), List.length_cons]
      omega

/-- An event leaves the token to its owner, or its owner gives it back and at most
one other is given it, or somebody takes it while nobody has it. -/
theorem Sound.handover_cases (sound : system.Sound) (event : Event) :
    (system.handovers event = [] ∧
        (system.apply event).token.owner? = system.token.owner?) ∨
      (∃ owner, system.token.owner? = some owner ∧ system.handovers event =
        .back owner :: (system.apply event).token.owner?.toList.map .given) ∨
      (system.token.owner? = none ∧
        system.handovers event = (system.apply event).token.owner?.toList.map .given) := by
  obtain ⟨task, move, others⟩ := apply_moves sound.crewed event
  have stays (owner : TaskId) (owns : system.token.owner? = some owner) (different : owner ≠ task) :
      (system.apply event).role owner ≠ .idle := by
    intro idle
    rw [others owner different] at idle
    apply sound.fits.owner_stake owns
    unfold stake
    rw [idle]
    rfl
  rcases move.token_move.owner_cases sound.fits rfl with
    ⟨same, keeps⟩ | ⟨owns, gone, passed⟩ | ⟨free, holds, takes⟩
  · refine .inl ⟨?_, same⟩
    unfold handovers
    cases owns : system.token.owner? with
    | none => simp [same, owns]
    | some owner =>
        have active : (system.apply event).role owner ≠ .idle := by
          by_cases itself : owner = task
          · subst itself
            intro idle
            rw [idle] at keeps
            exact keeps owns rfl
          · exact stays owner owns itself
        simp [same, owns, active]
  · refine .inr (.inl ⟨task, owns, ?_⟩)
    have idle : (system.apply event).role task = .idle := by
      generalize (system.apply event).role task = role at gone
      cases role <;> first | rfl | cases gone
    have absent := sound.fits.next owns
    have follows : (system.apply event).token.owner? = system.token.line.head? := by
      rw [passed, Token.pass_on_owner]
    simp only [handovers, follows]
    cases line : system.token.line with
    | nil => simp [owns, idle]
    | cons following rest =>
        have different : task ≠ following := by
          rintro rfl
          exact absent (by simp [line])
        simp [owns, idle, different]
  · refine .inr (.inr ⟨free, ?_⟩)
    unfold handovers
    simp [free, takes]

/-- Nobody comes to wait for the token as long as one task at most has to do with it. -/
theorem Sound.nobody_waits (sound : system.Sound) (event : Event)
    (alone : ∀ first second, (system.apply event).role first ≠ .idle →
      (system.apply event).role second ≠ .idle → first = second)
    (unwaited : ∀ task, system.role task ≠ .standing) (task : TaskId) :
    (system.apply event).role task ≠ .standing := by
  intro stands
  obtain ⟨mover, move, others⟩ := apply_moves sound.crewed event
  by_cases itself : task = mover
  · subst itself
    have tokenMove := move.token_move
    rw [stands] at tokenMove
    generalize before : (system.role task).stake = stake at tokenMove
    generalize (system.apply event).token = token at tokenMove
    cases tokenMove with
    | rest => exact unwaited task (Role.standing_of_stake before)
    | queue taken =>
        -- whoever has the token is another task, and goes on having it
        obtain ⟨owner, active⟩ := sound.fits.taken taken
        have different : owner ≠ task := by
          rintro rfl
          exact active before
        have busy : (system.apply event).role owner ≠ .idle := by
          rw [others owner different]
          intro idle
          exact active (by unfold stake; rw [idle]; rfl)
        have waits : (system.apply event).role task ≠ .idle := by
          rw [stands]
          nofun
        exact different (alone owner task busy waits)
  · rw [others task itself] at stands
    exact unwaited task stands

/-- In the course of a run everybody who was given the token has given it back
before the next one was given it, except for the one who has it now. -/
theorem handovers_alternate (outset : Outset) (events : List Event) :
    ∃ tasks : List TaskId, gathered handovers outset.system events =
      (tasks.flatMap fun task => [.given task, .back task]) ++
        (outset.system.run events).token.owner?.toList.map .given := by
  induction events using List.reverseRecOn with
  | nil => exact ⟨[], rfl⟩
  | append_singleton events event induction =>
      obtain ⟨tasks, record⟩ := induction
      rw [gathered_concat, run_concat, record]
      rcases (run_sound outset events).handover_cases event with
        ⟨none, same⟩ | ⟨owner, owns, record⟩ | ⟨free, record⟩
      · exact ⟨tasks, by rw [none, same, List.append_nil]⟩
      · refine ⟨tasks ++ [owner], ?_⟩
        rw [owns, record]
        simp
      · refine ⟨tasks, ?_⟩
        rw [free, record]
        simp

/-- One caller at a time, who holds the token; and the token is with one task, or
granted to one, or free, and is given back once by everybody who was given it. -/
theorem one_caller_holds_the_one_token (outset : Outset) (events : List Event) :
    let system := outset.system.run events
    system.callers.length ≤ 1 ∧
      (∀ task ∈ system.callers, system.token.place = .held task) ∧
      system.issuer.inFlight = system.refreshers.length ∧ system.issuer.maxInFlight ≤ 1 ∧
      system.Accounted ∧
      ∃ tasks : List TaskId, gathered handovers outset.system events =
        (tasks.flatMap fun task => [.given task, .back task]) ++
          system.token.owner?.toList.map .given := by
  intro system
  have sound := run_sound outset events
  exact ⟨sound.callers_length, fun task => sound.caller_holds, sound.in_flight, sound.most,
    sound.accounted, handovers_alternate outset events⟩

end System

end CertRenewal
