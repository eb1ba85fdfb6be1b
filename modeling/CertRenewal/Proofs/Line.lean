import CertRenewal.Refresh.Token
import Mathlib.Data.List.Nodup

/-!
A token together with what the tasks themselves believe about it: whether they
hold it, stand in line for it, or have nothing to do with it. The two accounts
agree, and every move of a task keeps them in agreement. In particular a token
that was handed over is given back by its owner and by nobody else.
-/

namespace CertRenewal

inductive Stake
  | idle
  /-- Stands in line, or was granted the token and has not taken it up yet. -/
  | standing
  | holding
deriving DecidableEq, Repr

/-- What one task can do to a token and to its own stake. -/
inductive TokenMove (task : TaskId) : Token → Stake → Token → Stake → Prop
  | rest (token : Token) (stake : Stake) : TokenMove task token stake token stake
  | enter (token : Token) (free : token.place = .free) :
      TokenMove task token .idle (token.ask task) .holding
  | queue (token : Token) (taken : token.place ≠ .free) :
      TokenMove task token .idle (token.ask task) .standing
  | accept (token : Token) (granted : token.place = .granted task) :
      TokenMove task token .standing (token.accept task) .holding
  | leave (token : Token) : TokenMove task token .standing (token.leave task) .idle
  | release (token : Token) : TokenMove task token .holding (token.release task) .idle

namespace Token

/-- The task that has the token, taken up or not. -/
def owner? (token : Token) : Option TaskId :=
  match token.place with
  | .free => none
  | .granted task => some task
  | .held task => some task

/-- The tasks that wait, first the one that the token was granted to. -/
def standing (token : Token) : List TaskId :=
  match token.place with
  | .granted task => task :: token.line
  | _ => token.line

/-- The token says of every task what the task believes. -/
structure Fits (token : Token) (stake : TaskId → Stake) : Prop where
  holding : ∀ task, stake task = .holding ↔ token.place = .held task
  standing : ∀ task, stake task = .standing ↔ task ∈ token.standing
  once : token.standing.Nodup
  empty : token.place = .free → token.line = []

theorem initial_fits : initial.Fits fun _ => .idle where
  holding task := by simp [initial]
  standing task := by simp [initial, standing]
  once := by simp [initial, standing]
  empty := by simp [initial]

variable {token : Token} {stake : TaskId → Stake} {task : TaskId}

theorem ask_free (free : token.place = .free) :
    token.ask task = { token with place := .held task } := by
  simp [ask, free]

theorem ask_taken (taken : token.place ≠ .free) :
    token.ask task = { token with line := token.line ++ [task] } := by
  unfold ask
  split
  · contradiction
  · rfl

theorem accept_granted (granted : token.place = .granted task) :
    token.accept task = { token with place := .held task } := if_pos granted

theorem leave_granted (granted : token.place = .granted task) :
    token.leave task = token.passOn := if_pos granted

theorem leave_ungranted (ungranted : token.place ≠ .granted task) :
    token.leave task = { token with line := token.line.filter (· ≠ task) } := if_neg ungranted

theorem release_held (held : token.place = .held task) :
    token.release task = token.passOn := if_pos held

theorem pass_on_place (token : Token) (task : TaskId) : token.passOn.place ≠ .held task := by
  unfold passOn
  split <;> simp

theorem pass_on_standing (token : Token) : token.passOn.standing = token.line := by
  unfold passOn
  split <;> simp [standing, *]

theorem pass_on_empty (free : token.passOn.place = .free) : token.passOn.line = [] := by
  unfold passOn at free ⊢
  split at free <;> simp_all

theorem pass_on_owner (token : Token) : token.passOn.owner? = token.line.head? := by
  unfold passOn
  split <;> simp [owner?, *]

theorem Fits.owner_stake (fits : token.Fits stake) (owner : token.owner? = some task) :
    stake task ≠ .idle := by
  intro idle
  unfold owner? at owner
  cases place : token.place with
  | free => simp [place] at owner
  | granted other =>
      simp only [place, Option.some.injEq] at owner
      have stands : stake task = .standing := (fits.standing task).mpr (by
        simp [Token.standing, place, owner])
      rw [idle] at stands
      cases stands
  | held other =>
      simp only [place, Option.some.injEq] at owner
      have holds : stake task = .holding := (fits.holding task).mpr (by rw [place, owner])
      rw [idle] at holds
      cases holds

/-- A token that is taken is with somebody who knows about it. -/
theorem Fits.taken (fits : token.Fits stake) (taken : token.place ≠ .free) :
    ∃ owner, stake owner ≠ .idle := by
  cases place : token.place with
  | free => exact absurd place taken
  | granted owner => exact ⟨owner, fits.owner_stake (by simp [owner?, place])⟩
  | held owner => exact ⟨owner, fits.owner_stake (by simp [owner?, place])⟩

theorem Fits.next (fits : token.Fits stake) (owner : token.owner? = some task) :
    task ∉ token.line := by
  unfold owner? at owner
  cases place : token.place with
  | free => simp [place] at owner
  | granted other =>
      simp only [place, Option.some.injEq] at owner
      have once := fits.once
      simp only [Token.standing, place, owner, List.nodup_cons] at once
      exact once.1
  | held other =>
      simp only [place, Option.some.injEq] at owner
      intro member
      have stands := (fits.standing task).mpr (by simpa [Token.standing, place] using member)
      have holds := (fits.holding task).mpr (by rw [place, owner])
      rw [stands] at holds
      cases holds

theorem mem_standing {other : TaskId} :
    other ∈ token.standing ↔ token.place = .granted other ∨ other ∈ token.line := by
  unfold standing
  cases token.place <;> simp [eq_comm]

theorem Fits.line_once (fits : token.Fits stake) : token.line.Nodup := by
  have once := fits.once
  unfold Token.standing at once
  split at once
  · exact (List.nodup_cons.mp once).2
  · exact once

section

variable {after : TaskId → Stake} (fits : token.Fits stake)
  (others : ∀ other, other ≠ task → after other = stake other)

include fits others

/-- The token passed on when its owner gives up its stake. -/
theorem Fits.pass_on (owner : token.owner? = some task) (done : after task = .idle) :
    token.passOn.Fits after := by
  have absent := fits.next owner
  have notGranted : ∀ other, other ≠ task → token.place ≠ .granted other := by
    intro other different granted
    simp only [owner?, granted, Option.some.injEq] at owner
    exact different owner
  have notHeld : ∀ other, other ≠ task → stake other ≠ .holding := by
    intro other different holds
    have place := (fits.holding other).mp holds
    simp only [owner?, place, Option.some.injEq] at owner
    exact different owner
  constructor
  · intro other
    have place := pass_on_place token other
    by_cases same : other = task
    · subst same
      simp [done, place]
    · simp [others other same, notHeld other same, place]
  · intro other
    rw [pass_on_standing]
    by_cases same : other = task
    · subst same
      simp [done, absent]
    · simp [others other same, fits.standing, mem_standing, notGranted other same]
  · rw [pass_on_standing]
    exact fits.line_once
  · exact pass_on_empty

theorem Fits.take (place : token.place = .free ∨ token.place = .granted task)
    (takes : after task = .holding) : ({ token with place := .held task } : Token).Fits after := by
  have notHeld : ∀ other, stake other ≠ .holding := by
    intro other
    rw [Ne, fits.holding]
    rcases place with free | granted <;> simp [*]
  have notGranted : ∀ other, other ≠ task → token.place ≠ .granted other := by
    intro other different
    rcases place with free | granted <;> simp [*, Ne.symm different]
  have absent : task ∉ token.line := by
    rcases place with free | granted
    · simp [fits.empty free]
    · exact fits.next (by simp [owner?, granted])
  constructor
  · intro other
    by_cases itself : other = task
    · subst itself
      simp [takes]
    · simp [others other itself, notHeld other, Ne.symm itself]
  · intro other
    by_cases itself : other = task
    · subst itself
      simp [takes, mem_standing, absent]
    · simp [others other itself, fits.standing, mem_standing, notGranted other itself]
  · exact fits.line_once
  · simp

theorem Fits.line_up (taken : token.place ≠ .free) (was : stake task = .idle)
    (stands : after task = .standing) :
    ({ token with line := token.line ++ [task] } : Token).Fits after := by
  have absent : task ∉ token.standing := by
    rw [← fits.standing, was]
    simp
  have notHeld : token.place ≠ .held task := by
    rw [Ne, ← fits.holding, was]
    simp
  have longer : ({ token with line := token.line ++ [task] } : Token).standing =
      token.standing ++ [task] := by
    unfold Token.standing
    split <;> simp_all
  constructor
  · intro other
    by_cases itself : other = task
    · subst itself
      simp [stands, notHeld]
    · rw [others other itself]
      exact fits.holding other
  · intro other
    rw [longer]
    by_cases itself : other = task
    · subst itself
      simp [stands]
    · rw [others other itself, fits.standing]
      simp [itself]
  · rw [longer, ← List.concat_eq_append]
    exact fits.once.concat absent
  · intro free
    exact absurd free taken

theorem Fits.step_out (ungranted : token.place ≠ .granted task) (was : stake task = .standing)
    (done : after task = .idle) :
    ({ token with line := token.line.filter (· ≠ task) } : Token).Fits after := by
  have notHeld : token.place ≠ .held task := by
    rw [Ne, ← fits.holding, was]
    simp
  constructor
  · intro other
    by_cases itself : other = task
    · subst itself
      simp [done, notHeld]
    · rw [others other itself]
      exact fits.holding other
  · intro other
    by_cases itself : other = task
    · subst itself
      simp [done, mem_standing, ungranted]
    · simp [others other itself, fits.standing, mem_standing, itself]
  · have shorter : ({ token with line := token.line.filter (· ≠ task) } : Token).standing =
        token.standing.filter (· ≠ task) := by
      obtain ⟨place, line⟩ := token
      cases place with
      | granted other =>
          have different : other ≠ task := fun same => ungranted (same ▸ rfl)
          simp [Token.standing, different]
      | _ => rfl
    rw [shorter]
    exact fits.once.filter _
  · intro free
    simp [fits.empty free]

end

end Token

namespace TokenMove

variable {token next : Token} {task : TaskId} {before after : Stake} {stake stakes : TaskId → Stake}

theorem fits (move : TokenMove task token before next after) (held : token.Fits stake)
    (was : stake task = before) (becomes : stakes task = after)
    (others : ∀ other, other ≠ task → stakes other = stake other) : next.Fits stakes := by
  cases move with
  | rest =>
      have same : stakes = stake := by
        funext other
        by_cases itself : other = task
        · rw [itself, was, becomes]
        · exact others other itself
      rw [same]
      exact held
  | enter free =>
      rw [Token.ask_free free]
      exact held.take others (.inl free) becomes
  | queue taken =>
      rw [Token.ask_taken taken]
      exact held.line_up others taken was becomes
  | accept granted =>
      rw [Token.accept_granted granted]
      exact held.take others (.inr granted) becomes
  | leave =>
      by_cases granted : token.place = .granted task
      · rw [Token.leave_granted granted]
        exact held.pass_on others (by simp [Token.owner?, granted]) becomes
      · rw [Token.leave_ungranted granted]
        exact held.step_out others granted was becomes
  | release =>
      have place := (held.holding task).mp was
      rw [Token.release_held place]
      exact held.pass_on others (by simp [Token.owner?, place]) becomes

/-- A move leaves the token to its owner, or gives it back because its owner gives
up its stake, or takes a token that was free. -/
theorem owner_cases (move : TokenMove task token before next after) (held : token.Fits stake)
    (was : stake task = before) :
    (next.owner? = token.owner? ∧ (token.owner? = some task → after ≠ .idle)) ∨
      (token.owner? = some task ∧ after = .idle ∧ next = token.passOn) ∨
      (token.owner? = none ∧ after = .holding ∧ next.owner? = some task) := by
  cases move with
  | rest =>
      exact .inl ⟨rfl, fun owner => was ▸ held.owner_stake owner⟩
  | enter free =>
      rw [Token.ask_free free]
      exact .inr (.inr ⟨by simp [Token.owner?, free], rfl, rfl⟩)
  | queue taken =>
      rw [Token.ask_taken taken]
      exact .inl ⟨rfl, by simp⟩
  | accept granted =>
      rw [Token.accept_granted granted]
      exact .inl ⟨by simp [Token.owner?, granted], by simp⟩
  | leave =>
      by_cases granted : token.place = .granted task
      · exact .inr (.inl ⟨by simp [Token.owner?, granted], rfl, Token.leave_granted granted⟩)
      · rw [Token.leave_ungranted granted]
        refine .inl ⟨rfl, fun owner => ?_⟩
        have notHeld : token.place ≠ .held task := by
          rw [Ne, ← held.holding, was]
          simp
        unfold Token.owner? at owner
        split at owner <;> simp_all
  | release =>
      have place := (held.holding task).mp was
      exact .inr (.inl ⟨by simp [Token.owner?, place], rfl, Token.release_held place⟩)

end TokenMove

end CertRenewal
