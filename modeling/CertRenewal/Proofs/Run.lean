import CertRenewal.Refresh.Event
import Mathlib.Data.List.Induction

/-!
Runs of the program from the state in which nothing has happened yet, and what
is seen in the course of them. A property that holds at the outset and that every
event keeps holds after every run.
-/

namespace CertRenewal.System

theorem run_append (system : System) (first second : List Event) :
    system.run (first ++ second) = (system.run first).run second := by
  exact List.foldl_append

theorem run_concat (system : System) (events : List Event) (event : Event) :
    system.run (events ++ [event]) = (system.run events).apply event := by
  rw [run_append]
  rfl

theorem run_invariant {Holds : System → Prop} (kept : ∀ system event, Holds system →
    Holds (system.apply event)) {system : System} (start : Holds system) (events : List Event) :
    Holds (system.run events) := by
  induction events generalizing system with
  | nil => exact start
  | cons event events induction => exact induction (kept system event start)

/-- A property that every event of some kind keeps. -/
theorem run_invariant_of {Holds : System → Prop} {Allowed : Event → Prop}
    (kept : ∀ system event, Allowed event → Holds system → Holds (system.apply event))
    {system : System} (start : Holds system) (events : List Event)
    (allowed : ∀ event ∈ events, Allowed event) : Holds (system.run events) := by
  induction events generalizing system with
  | nil => exact start
  | cons event events induction =>
      have next := kept system event (allowed event (by simp)) start
      exact induction next (fun later member => allowed later (by simp [member]))

/-- A property that every event keeps from some state of a run on. -/
theorem run_onward (Holds : System → Prop) (outset : Outset) {before : List Event}
    (kept : ∀ events event, Holds (outset.system.run events) →
      Holds ((outset.system.run events).apply event))
    (start : Holds (outset.system.run before)) (after : List Event) :
    Holds (outset.system.run (before ++ after)) := by
  induction after using List.reverseRecOn with
  | nil =>
      rw [List.append_nil]
      exact start
  | append_singleton after event induction =>
      rw [← List.append_assoc, run_concat]
      exact kept _ event induction

/-- A task takes so many steps, one after another. -/
def stepsOf (task : TaskId) (count : Nat) : List Event := List.replicate count (.step task)

/-- The first task is a call to start, which goes on up to its end. -/
def startingUp : List Event := .start :: stepsOf 0 2

/-- A host submits a request and listens for the answer. -/
def asking (request : Request) : List Event := [.submit request true]

/-- What is seen in the course of a run, where `see` says what is seen of one
event in the state before it. -/
def gathered {Item : Type} (see : System → Event → List Item) :
    System → List Event → List Item
  | _, [] => []
  | system, event :: events => see system event ++ gathered see (system.apply event) events

theorem gathered_append {Item : Type} (see : System → Event → List Item) (system : System)
    (first second : List Event) :
    gathered see system (first ++ second) =
      gathered see system first ++ gathered see (system.run first) second := by
  induction first generalizing system with
  | nil => rfl
  | cons event first induction =>
      simp only [List.cons_append, gathered, List.append_assoc]
      rw [induction]
      rfl

theorem gathered_concat {Item : Type} (see : System → Event → List Item) (system : System)
    (events : List Event) (event : Event) :
    gathered see system (events ++ [event]) =
      gathered see system events ++ see (system.run events) event := by
  rw [gathered_append]
  simp [gathered]

theorem mem_gathered {Item : Type} {see : System → Event → List Item} {system : System}
    {events : List Event} {item : Item} (member : item ∈ gathered see system events) :
    ∃ part event rest, events = part ++ event :: rest ∧ item ∈ see (system.run part) event := by
  induction events generalizing system with
  | nil => cases member
  | cons event events induction =>
      rcases List.mem_append.mp member with now | later
      · exact ⟨[], event, events, rfl, now⟩
      · obtain ⟨part, other, rest, same, found⟩ := induction later
        exact ⟨event :: part, other, rest, by rw [same]; rfl, found⟩

/-- What holds after a run and did not hold at its beginning has begun with some event
and has held since then. -/
theorem run_since {Holds : System → Prop} {Begins : System → Event → Prop} {system : System}
    (start : ¬ Holds system) (events : List Event)
    (turn : ∀ part event rest, events = part ++ event :: rest →
      Holds ((system.run part).apply event) →
        Holds (system.run part) ∨ Begins (system.run part) event)
    (holds : Holds (system.run events)) :
    ∃ before event after, events = before ++ event :: after ∧ Begins (system.run before) event ∧
      ∀ part rest, after = part ++ rest → Holds (system.run (before ++ event :: part)) := by
  induction events using List.reverseRecOn with
  | nil => exact absurd holds start
  | append_singleton events last induction =>
      have now := holds
      rw [run_concat] at holds
      rcases turn events last [] rfl holds with held | begins
      · obtain ⟨before, event, after, split, begins, since⟩ := induction
          (fun part event rest split => turn part event (rest ++ [last]) (by simp [split])) held
        refine ⟨before, event, after ++ [last], by simp [split], begins, ?_⟩
        intro part rest cut
        rcases List.eq_nil_or_concat rest with rfl | ⟨init, final, rfl⟩
        · rw [List.append_nil] at cut
          rw [split] at now
          rw [← cut]
          simpa using now
        · rw [List.concat_eq_append, ← List.append_assoc] at cut
          exact since part init (List.append_inj' cut rfl).1
      · refine ⟨events, last, [], rfl, begins, fun part rest cut => ?_⟩
        rw [(List.append_eq_nil_iff.mp cut.symm).1]
        exact now

end CertRenewal.System
