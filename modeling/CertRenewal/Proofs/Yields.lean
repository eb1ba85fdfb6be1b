import CertRenewal.Proofs.Reading
import CertRenewal.Json.Decode

/-!
What can be said of every value that a reader gives, whatever it reads. A record that
is read is made of what its fields gave, in whichever order and form they were written.
-/

namespace CertRenewal.Json

/-- Every value that a reader gives is of one kind. -/
def Yields {α : Type} (reader : Reader α) (kind : α → Prop) : Prop :=
  ∀ cursor value, (reader cursor).1 = .ok value → kind value

namespace Yields

variable {α β σ : Type} {reader : Reader α} {next : α → Reader β} {kind : α → Prop}
  {other : β → Prop}

theorem any (reader : Reader α) : Yields reader fun _ => True :=
  fun _ _ _ => trivial

theorem pure {value : α} (right : kind value) : Yields (pure value) kind := by
  intro cursor given read
  obtain rfl : value = given := Except.ok.inj read
  exact right

theorem throw (fault : Fault) : Yields (throw fault : Reader α) kind :=
  fun _ _ read => nomatch (read : Except.error fault = _)

theorem fail (problem : Problem) : Yields (Reader.fail problem) kind :=
  fun _ _ read => nomatch (read : Except.error _ = _)

/-- A value that two readers give one after the other comes of the second one. -/
theorem bind_outcome {cursor : Cursor} {result : β}
    (read : ((reader >>= next) cursor).1 = .ok result) :
    ∃ value between, (reader cursor).1 = .ok value ∧ (next value between).1 = .ok result := by
  simp only [Bind.bind, ExceptT.bind, ExceptT.mk, StateT.bind] at read
  cases start : reader cursor with
  | mk outcome between =>
      rw [start] at read
      cases outcome with
      | error fault => exact (nomatch (read : Except.error fault = _))
      | ok value => exact ⟨value, between, rfl, read⟩

theorem bind (first : Yields reader kind)
    (second : ∀ value, kind value → Yields (next value) other) :
    Yields (reader >>= next) other := by
  intro cursor result read
  obtain ⟨value, between, given, read⟩ := bind_outcome read
  exact second value (first cursor value given) between result read

/-- What comes first may give anything. -/
theorem behind (second : ∀ value, Yields (next value) other) : Yields (reader >>= next) other :=
  (any reader).bind fun value _ => second value

/-- A reader that gives what another one gives, with other faults. -/
theorem altered {changed : Reader α} (yields : Yields reader kind)
    (same : ∀ cursor value after, reader cursor = (.ok value, after) →
      (changed cursor).1 = .ok value)
    (faulty : ∀ cursor fault after, reader cursor = (.error fault, after) →
      ∃ other, (changed cursor).1 = .error other) : Yields changed kind := by
  intro cursor value read
  cases start : reader cursor with
  | mk outcome after =>
      cases outcome with
      | error fault =>
          obtain ⟨other, broken⟩ := faulty cursor fault after start
          cases broken.symm.trans read
      | ok given =>
          obtain rfl := Except.ok.inj ((same cursor given after start).symm.trans read)
          exact yields cursor given (by rw [start])

theorem settled (yields : Yields reader kind) : Yields (Reader.settled reader) kind :=
  yields.altered (fun _ _ _ start => by simp only [Reader.settled, start])
    fun _ fault after start => ⟨fault.settle after.index, by simp only [Reader.settled, start]⟩

theorem within (step : Inside) (yields : Yields reader kind) :
    Yields (Reader.within step reader) kind :=
  yields.altered (fun _ _ _ start => by simp only [Reader.within, start])
    fun _ fault _ start => ⟨fault.within step, by simp only [Reader.within, start]⟩

theorem attempt (yields : Yields reader kind) :
    Yields (Reader.attempt reader) fun outcome => ∀ value, outcome = .ok value → kind value := by
  intro cursor outcome read value same
  subst same
  exact yields cursor value (Except.ok.inj read)

theorem resume {outcome : Except Fault α} (right : ∀ value, outcome = .ok value → kind value) :
    Yields (Reader.resume outcome) kind := by
  cases outcome with
  | ok value => exact .pure (right value rfl)
  | error fault => exact .throw fault

theorem enclosed (yields : Yields reader kind) (close : Reader Unit) :
    Yields (Reader.enclosed reader close) kind := by
  refine .settled (.behind fun _ =>
    .bind yields.attempt fun outcome right => .behind fun closed => ?_)
  exact .bind (.resume right) fun value right => .behind fun _ => .pure right

theorem read_all {bytes : Bytes} {value : α} (yields : Yields reader kind)
    (read : readAll reader bytes = .ok value) : kind value := by
  refine (?_ : Yields _ kind) (Cursor.start bytes) value read
  refine .bind yields.settled fun value right => .behind fun token => ?_
  cases token with
  | none => exact .pure right
  | some byte => exact .behind fun _ => .throw _

theorem wrong_type (expected : String) : Yields (Reader.wrongType expected) kind := by
  refine .behind fun byte => ?_
  cases byte with
  | none => exact .behind fun _ => .throw _
  | some byte =>
      simp only
      repeat' split
      all_goals first
        | exact .fail _
        | exact .behind fun _ => .throw _
        | exact .behind fun _ => .fail _
        | exact .behind fun _ => .behind fun _ => .fail _

/-- A whole number that is read lies within its limit. -/
theorem natural (limit : Nat) (expected : String) :
    Yields (Reader.natural limit expected) (· ≤ limit) := by
  refine .behind fun number => ?_
  cases number with
  | natural value =>
      simp only
      split
      · exact .pure ‹_›
      · exact .fail _
  | negative size => exact .fail _
  | real value => exact .fail _

/-! Records. -/

variable {kind : σ → Prop} {shape : Shape σ α} {state : σ} {whole : α → Prop}

/-- Whatever a field is read into keeps to a kind of states. -/
def Fields (shape : Shape σ α) (kind : σ → Prop) : Prop :=
  ∀ field ∈ shape.fields, ∀ state, kind state → Yields (field.read state) kind

theorem entry (fields : Fields shape kind) (held : kind state) :
    Yields (shape.entry state) kind := by
  refine .behind fun _ => .behind fun key => ?_
  cases found : shape.fields.find? (·.name = key) with
  | none => exact .behind fun _ => .behind fun _ => .pure held
  | some field =>
      simp only
      split
      · exact .throw _
      · exact .behind fun _ => .within _ (fields field (List.mem_of_find?_eq_some found) state held)

theorem entries (fields : Fields shape kind) (fuel : Nat) (first : Bool) (held : kind state) :
    Yields (Reader.entriesFrom shape.entry fuel first state) kind := by
  induction fuel generalizing first state with
  | zero => exact .pure held
  | succ fuel induction =>
      refine .behind fun another => ?_
      cases another with
      | true => exact .bind (entry fields held) fun next held => induction false held
      | false => exact .pure held

theorem elements {rest : List (Field σ)} (fields : Fields shape kind)
    (known : ∀ field ∈ rest, field ∈ shape.fields) (index : Nat) (held : kind state) :
    Yields (shape.elements index rest state) kind := by
  induction rest generalizing index state with
  | nil => exact .pure held
  | cons field rest induction =>
      have later (other : Field σ) (member : other ∈ rest) : other ∈ shape.fields :=
        known other (List.mem_cons_of_mem _ member)
      refine .behind fun another => ?_
      cases another with
      | true =>
          exact .bind (.within _ (fields field (known field List.mem_cons_self) state held))
            fun next held => induction later (index + 1) held
      | false =>
          simp only [Bool.false_eq_true, if_false]
          split
          · exact induction later (index + 1) held
          · exact .throw _

theorem complete
    (finished : ∀ state value, kind state → shape.finish state = .ok value → whole value)
    (held : kind state) : Yields (shape.complete state) whole := by
  unfold Shape.complete
  cases finish : shape.finish state with
  | ok value => exact .pure (finished state value held finish)
  | error problem => exact .throw _

/-- A record is of a kind when its fields keep to one of states, the blank state is of
that one, and so are the values that such states become. -/
theorem record (blank : kind shape.blank) (fields : Fields shape kind)
    (finished : ∀ state value, kind state → shape.finish state = .ok value → whole value) :
    Yields shape.read whole := by
  refine .behind fun byte => ?_
  split
  · exact .enclosed (.behind fun steps =>
      .bind (entries fields _ true blank) fun _ held => complete finished held) _
  split
  · exact .enclosed (.bind (elements fields (fun _ member => member) 0 blank)
      fun _ held => complete finished held) _
  · exact wrong_type _

end Yields

end CertRenewal.Json
