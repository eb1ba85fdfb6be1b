import CertRenewal.Json.Decode
import Mathlib.Data.List.Forall2

/-!
Two readers that read alike: they stop at the same places and with the same faults, and
the values of the second one are those of the first one, changed. What two records are
read into can so be compared field by field, whatever is read.
-/

namespace CertRenewal.Json

/-- The second reader reads what the first one reads, and changes the value. -/
def Renders {α β : Type} (change : α → β) (reader : Reader α) (other : Reader β) : Prop :=
  ∀ cursor, other cursor = ((reader cursor).1.map change, (reader cursor).2)

namespace Renders

variable {α β γ δ σ τ : Type} {change : α → β} {turn : γ → δ} {reader : Reader α}
  {other : Reader β} {next : α → Reader γ} {further : β → Reader δ}

theorem pure (value : α) : Renders change (pure value) (pure (change value)) := fun _ => rfl

theorem throw (fault : Fault) :
    Renders change (throw fault : Reader α) (throw fault : Reader β) := fun _ => rfl

theorem fail (problem : Problem) : Renders change (Reader.fail problem) (Reader.fail problem) :=
  fun _ => rfl

theorem fail_at_next (problem : Problem) :
    Renders change (Reader.failAtNext problem) (Reader.failAtNext problem) := fun _ => rfl

theorem same (reader : Reader α) : Renders id reader reader := by
  intro cursor
  cases reader cursor with
  | mk outcome after => cases outcome <;> rfl

theorem bind (first : Renders change reader other)
    (second : ∀ value, Renders turn (next value) (further (change value))) :
    Renders turn (reader >>= next) (other >>= further) := by
  intro cursor
  simp only [Bind.bind, ExceptT.bind, ExceptT.mk, StateT.bind, first cursor]
  cases reader cursor with
  | mk outcome after =>
      cases outcome with
      | error fault => rfl
      | ok value => exact second value after

/-- What comes first is read by both. -/
theorem behind {next : α → Reader γ} {further : α → Reader δ}
    (second : ∀ value, Renders turn (next value) (further value)) :
    Renders turn (reader >>= next) (reader >>= further) :=
  (same reader).bind second

theorem settled (renders : Renders change reader other) :
    Renders change (Reader.settled reader) (Reader.settled other) := by
  intro cursor
  simp only [Reader.settled, renders cursor]
  cases reader cursor with
  | mk outcome after => cases outcome <;> rfl

theorem within (step : Inside) (renders : Renders change reader other) :
    Renders change (Reader.within step reader) (Reader.within step other) := by
  intro cursor
  simp only [Reader.within, renders cursor]
  cases reader cursor with
  | mk outcome after => cases outcome <;> rfl

theorem attempt (renders : Renders change reader other) :
    Renders (Except.map change) (Reader.attempt reader) (Reader.attempt other) := by
  intro cursor
  simp only [Reader.attempt, renders cursor]
  rfl

theorem resume (outcome : Except Fault α) :
    Renders change (Reader.resume outcome) (Reader.resume (outcome.map change)) := by
  cases outcome <;> exact fun _ => rfl

theorem enclosed (renders : Renders change reader other) (close : Reader Unit) :
    Renders change (Reader.enclosed reader close) (Reader.enclosed other close) := by
  refine .settled (.behind fun _ => renders.attempt.bind fun outcome => .behind fun closed => ?_)
  exact (resume outcome).bind fun value => .behind fun _ => .pure value

theorem wrong_type (expected : String) :
    Renders change (Reader.wrongType expected) (Reader.wrongType expected) := by
  refine .behind fun byte => ?_
  cases byte with
  | none => exact .fail_at_next _
  | some byte =>
      simp only
      repeat' split
      all_goals first
        | exact .fail _
        | exact .fail_at_next _
        | exact .behind fun _ => .behind fun _ => .fail _
        | exact .behind fun _ => .fail _

theorem entries {step : σ → τ} {entry : σ → Reader σ} {twin : τ → Reader τ}
    (alike : ∀ state, Renders step (entry state) (twin (step state))) (fuel : Nat) (first : Bool)
    (state : σ) : Renders step (Reader.entriesFrom entry fuel first state)
      (Reader.entriesFrom twin fuel first (step state)) := by
  induction fuel generalizing first state with
  | zero => exact .pure state
  | succ fuel induction =>
      refine .behind fun another => ?_
      cases another with
      | true => exact (alike state).bind fun next => induction false next
      | false => exact .pure state

/-- Two maps that grow alike from the same entries. -/
theorem number_map {κ : Type} {step : σ → τ} {key : Reader κ} {value : Reader α}
    {insert : κ → α → σ → σ} {add : κ → α → τ → τ}
    (alike : ∀ number value state, add number value (step state) =
      step (insert number value state)) (start : σ) :
    Renders step (Reader.numberMap key value insert start)
      (Reader.numberMap key value add (step start)) := by
  refine .behind fun byte => ?_
  split
  · refine .enclosed (.behind fun steps => entries (fun state => ?_) _ true start) _
    refine .behind fun number => .behind fun _ => .behind fun value => ?_
    rw [alike]
    exact .pure _
  · exact .wrong_type _

theorem read_all (renders : Renders change reader other) (bytes : Bytes) :
    readAll other bytes = (readAll reader bytes).map change := by
  have outcome {first : Reader α} {second : Reader β} (alike : Renders change first second) :
      (second (Cursor.start bytes)).1 = (first (Cursor.start bytes)).1.map change :=
    congrArg Prod.fst (alike _)
  refine outcome (renders.settled.bind fun value => .behind fun token => ?_)
  cases token with
  | none => exact .pure value
  | some byte => exact .fail_at_next _

/-! Records. -/

/-- Two fields that stand for each other in two records. -/
structure Twins (step : σ → τ) (field : Field σ) (twin : Field τ) : Prop where
  name : twin.name = field.name
  set : ∀ state, twin.isSet (step state) = field.isSet state
  read : ∀ state, Renders step (field.read state) (twin.read (step state))
  mayEnd : twin.mayEnd = field.mayEnd

/-- Two records that are written alike. -/
structure Shapes (step : σ → τ) (change : α → β) (shape : Shape σ α) (other : Shape τ β) :
    Prop where
  name : other.name = shape.name
  blank : other.blank = step shape.blank
  fields : List.Forall₂ (Twins step) shape.fields other.fields
  finish : ∀ state, other.finish (step state) = (shape.finish state).map change

variable {step : σ → τ} {shape : Shape σ α} {twin : Shape τ β}

theorem twins_found {fields : List (Field σ)} {twins : List (Field τ)}
    (paired : List.Forall₂ (Twins step) fields twins) (key : String) :
    Option.Rel (Twins step) (fields.find? (·.name = key)) (twins.find? (·.name = key)) := by
  induction paired with
  | nil => exact .none
  | @cons field twin fields twins alike further induction =>
      simp only [List.find?_cons, alike.name]
      by_cases named : field.name = key
      · simp only [named, decide_true]
        exact .some alike
      · simp only [named, decide_false]
        exact induction

theorem entry (shapes : Shapes step change shape twin) (state : σ) :
    Renders step (shape.entry state) (twin.entry (step state)) := by
  refine .behind fun _ => .behind fun key => ?_
  have found := twins_found shapes.fields key
  generalize shape.fields.find? (·.name = key) = first at found
  generalize twin.fields.find? (·.name = key) = second at found
  cases found with
  | none => exact .behind fun _ => .behind fun _ => .pure state
  | some alike =>
      simp only [alike.set]
      split
      · exact .throw _
      · exact .behind fun _ => .within _ (alike.read state)

theorem elements (shapes : Shapes step change shape twin) {fields : List (Field σ)}
    {twins : List (Field τ)} (paired : List.Forall₂ (Twins step) fields twins) (index : Nat)
    (state : σ) : Renders step (shape.elements index fields state)
      (twin.elements index twins (step state)) := by
  induction paired generalizing index state with
  | nil => exact .pure state
  | cons alike further induction =>
      have described : twin.describeLength = shape.describeLength := by
        simp only [Shape.describeLength, Shape.describe, shapes.name, shapes.fields.length_eq]
      refine .behind fun another => ?_
      cases another with
      | true =>
          exact (Renders.within _ (alike.read state)).bind fun next => induction (index + 1) next
      | false =>
          simp only [Bool.false_eq_true, if_false, alike.mayEnd, described]
          split
          · exact induction (index + 1) state
          · exact .throw _

theorem complete (shapes : Shapes step change shape twin) (state : σ) :
    Renders change (shape.complete state) (twin.complete (step state)) := by
  unfold Shape.complete
  rw [shapes.finish]
  cases shape.finish state with
  | ok value => exact .pure value
  | error problem => exact .throw _

theorem record (shapes : Shapes step change shape twin) :
    Renders change shape.read twin.read := by
  refine .behind fun byte => ?_
  rw [shapes.blank]
  split
  · exact .enclosed (.behind fun steps =>
      (entries (entry shapes) _ true _).bind fun state => complete shapes state) _
  split
  · exact .enclosed ((elements shapes shapes.fields 0 _).bind fun state =>
      complete shapes state) _
  · unfold Shape.describe
    rw [shapes.name]
    exact wrong_type _

end Renders

end CertRenewal.Json
