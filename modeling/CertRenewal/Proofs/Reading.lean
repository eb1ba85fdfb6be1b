import CertRenewal.Json.Decode

/-!
What it means that a reader takes a value off the beginning of a text, and how this
goes together for readers that are made of others.
-/

namespace CertRenewal.Json

/-- A reader takes a value off some bytes and leaves the rest. -/
def Takes {α : Type} (reader : Reader α) (bytes : Bytes) (value : α) (rest : Bytes) : Prop :=
  ∀ index, ∃ after, reader ⟨bytes, index⟩ = (.ok value, ⟨rest, after⟩)

namespace Takes

variable {α β : Type} {reader : Reader α} {next : α → Reader β} {value : α} {result : β}
  {bytes middle rest : Bytes} {byte : UInt8}

theorem pure (value : α) (bytes : Bytes) : Takes (pure value) bytes value bytes :=
  fun index => ⟨index, rfl⟩

theorem bind (first : Takes reader bytes value middle)
    (second : Takes (next value) middle result rest) :
    Takes (reader >>= next) bytes result rest := by
  intro index
  obtain ⟨between, taken⟩ := first index
  obtain ⟨after, read⟩ := second between
  refine ⟨after, ?_⟩
  rw [← read]
  simp [Bind.bind, ExceptT.bind, ExceptT.mk, ExceptT.bindCont, StateT.bind, taken]

theorem get {next : Cursor → Reader β}
    (second : ∀ index, Takes (next ⟨bytes, index⟩) bytes result rest) :
    Takes (get >>= next) bytes result rest := by
  intro index
  exact second index index

theorem set (cursor : Cursor) (bytes : Bytes) : Takes (set cursor) bytes () cursor.rest :=
  fun _ => ⟨cursor.index, rfl⟩

theorem peek (bytes : Bytes) : Takes Reader.peek bytes bytes.head? bytes :=
  fun index => ⟨index, rfl⟩

theorem skip_byte (byte : UInt8) (rest : Bytes) : Takes Reader.skipByte (byte :: rest) () rest :=
  fun index => ⟨index + 1, rfl⟩

theorem next_byte (byte : UInt8) (rest : Bytes) :
    Takes Reader.next (byte :: rest) (some byte) rest :=
  fun index => ⟨index + 1, rfl⟩

theorem remaining (bytes : Bytes) : Takes Reader.remaining bytes bytes.length bytes :=
  fun index => ⟨index, rfl⟩

theorem skip_while (test : UInt8 → Bool) (bytes : Bytes) :
    Takes (Reader.skipWhile test) bytes (bytes.takeWhile test).length (bytes.dropWhile test) :=
  fun index => ⟨index + (bytes.takeWhile test).length, rfl⟩

theorem settled (taken : Takes reader bytes value rest) :
    Takes (Reader.settled reader) bytes value rest := by
  intro index
  obtain ⟨after, read⟩ := taken index
  exact ⟨after, by simp [Reader.settled, read]⟩

theorem within (step : Inside) (taken : Takes reader bytes value rest) :
    Takes (Reader.within step reader) bytes value rest := by
  intro index
  obtain ⟨after, read⟩ := taken index
  exact ⟨after, by simp [Reader.within, read]⟩

theorem attempt (taken : Takes reader bytes value rest) :
    Takes (Reader.attempt reader) bytes (.ok value) rest := by
  intro index
  obtain ⟨after, read⟩ := taken index
  exact ⟨after, by simp [Reader.attempt, read]⟩

theorem resume (value : α) (bytes : Bytes) : Takes (Reader.resume (.ok value)) bytes value bytes :=
  fun index => ⟨index, rfl⟩

theorem outcome (taken : Takes reader bytes value rest) :
    (reader (Cursor.start bytes)).1 = .ok value := by
  obtain ⟨after, read⟩ := taken 0
  unfold Cursor.start
  rw [read]

end Takes

/-- Bytes between values. -/
def Blank (bytes : Bytes) : Prop := ∀ byte ∈ bytes, isBlank byte = true

/-- What can come behind a number without being a part of it. -/
def Ends (rest : Bytes) : Prop :=
  ∀ byte, rest.head? = some byte →
    isDigit byte = false ∧ byte ≠ 46 ∧ Reader.isExponentMark byte = false

theorem Blank.nil : Blank [] := fun _ member => (nomatch member)

theorem Ends.nil : Ends [] := fun _ found => (nomatch found)

theorem Ends.cons {byte : UInt8} {rest : Bytes} (digit : isDigit byte = false) (point : byte ≠ 46)
    (mark : Reader.isExponentMark byte = false) : Ends (byte :: rest) := by
  intro other found
  obtain rfl := Option.some.inj found
  exact ⟨digit, point, mark⟩

variable {blanks rest : Bytes} {byte : UInt8}

theorem takes_peek_token (blank : Blank blanks) (solid : isBlank byte = false) :
    Takes Reader.peekToken (blanks ++ byte :: rest) (some byte) (byte :: rest) := by
  have skipped : (blanks ++ byte :: rest).dropWhile isBlank = byte :: rest := by
    rw [List.dropWhile_append_of_pos blank, List.dropWhile_cons_of_neg (by simp [solid])]
  refine .bind (.skip_while isBlank _) ?_
  rw [skipped]
  exact .peek _

theorem takes_value_start (blank : Blank blanks) (solid : isBlank byte = false) :
    Takes Reader.valueStart (blanks ++ byte :: rest) byte (byte :: rest) :=
  .bind (takes_peek_token blank solid) (.pure byte _)

theorem takes_word (letters rest : Bytes) :
    Takes (Reader.word letters) (letters ++ rest) () rest := by
  induction letters with
  | nil => exact .pure () rest
  | cons letter letters induction =>
      refine .bind (.next_byte letter _) ?_
      simp only [if_true]
      exact induction

theorem takes_colon (rest : Bytes) : Takes Reader.colon (58 :: rest) () rest := by
  refine .bind (takes_peek_token Blank.nil (by decide)) ?_
  simp only [if_true]
  exact .skip_byte 58 rest

end CertRenewal.Json
