import CertRenewal.Text.Whole

/-!
Whole numbers as they are typed. What is read is within its limit, and a number within the
limit is read back from its digits.
-/

namespace CertRenewal.Whole

theorem read_digits_le {limit : Nat} {tooFar : Fault} {digits : List Char}
    {value number : Nat} (small : value ≤ limit)
    (read : readDigits limit tooFar digits value = .ok number) : number ≤ limit := by
  induction digits generalizing value with
  | nil =>
      cases read
      exact small
  | cons char rest further =>
      simp only [readDigits] at read
      split at read
      · split at read
        · rename_i grown
          exact further grown read
        · cases read
      · cases read

theorem read_some_le {limit : Nat} {tooFar : Fault} {digits : List Char} {number : Nat}
    (read : readSome limit tooFar digits = .ok number) : number ≤ limit := by
  rw [readSome] at read
  split at read
  · cases read
  · exact read_digits_le (Nat.zero_le _) read

theorem natural_le {limit : Nat} {text : String} {number : Nat}
    (read : natural limit text = .ok number) : number ≤ limit := by
  rw [natural] at read
  split at read
  · cases read
  · exact read_some_le read
  · exact read_some_le read

theorem read_digits_append (limit : Nat) (tooFar : Fault) (front back : List Char) (value : Nat) :
    readDigits limit tooFar (front ++ back) value =
      (readDigits limit tooFar front value).bind (readDigits limit tooFar back) := by
  induction front generalizing value with
  | nil => rfl
  | cons char front induction =>
      simp only [List.cons_append, readDigits]
      split
      · split
        · exact induction _
        · rfl
      · rfl

theorem read_digit {limit value digit : Nat} (tooFar : Fault) (small : digit < 10)
    (within : value * 10 + digit ≤ limit) :
    readDigits limit tooFar [digit.digitChar] value = .ok (value * 10 + digit) := by
  have letter : ∀ digit < 10, '0' ≤ digit.digitChar ∧ digit.digitChar ≤ '9' ∧
      digit.digitChar.toNat - 48 = digit := by decide
  obtain ⟨least, most, same⟩ := letter digit small
  simp only [readDigits, least, most, and_self, if_true, same, within]

theorem read_digits_written {limit number : Nat} (tooFar : Fault) (within : number ≤ limit) :
    readDigits limit tooFar (Nat.toDigits 10 number) 0 = .ok number := by
  induction number using Nat.strongRecOn with
  | ind number induction =>
      by_cases small : number < 10
      · rw [Nat.toDigits_of_lt_base small]
        simpa using @read_digit limit 0 number tooFar small (by omega)
      · rw [Nat.toDigits_of_base_le (by decide) (by omega), read_digits_append,
          induction (number / 10) (by omega) (by omega)]
        refine (read_digit tooFar (Nat.mod_lt _ (by decide)) (by omega)).trans ?_
        exact congrArg Except.ok (by omega)

theorem read_some_written {limit number : Nat} (tooFar : Fault) (within : number ≤ limit) :
    readSome limit tooFar (Nat.toDigits 10 number) = .ok number := by
  have some : (Nat.toDigits 10 number).isEmpty = false := by
    rw [List.isEmpty_eq_false_iff]
    exact Nat.toDigits_ne_nil
  rw [readSome, some]
  exact read_digits_written tooFar within

/-- The digits of a number are neither none nor do they begin with a sign. -/
theorem begins_with_digit (number : Nat) : ∃ first more,
    (toString number).toList = first :: more ∧ Nat.toDigits 10 number = first :: more ∧
      first ≠ '+' ∧ first ≠ '-' := by
  have same : (toString number).toList = Nat.toDigits 10 number := Nat.toList_repr
  cases digits : Nat.toDigits 10 number with
  | nil => exact absurd digits Nat.toDigits_ne_nil
  | cons first more =>
      have member : first ∈ Nat.toDigits 10 number := by simp [digits]
      have digit := Nat.isDigit_of_mem_toDigits (by decide) (by decide) member
      refine ⟨first, more, same.trans digits, rfl, ?_, ?_⟩ <;>
        · rintro rfl
          exact absurd digit (by decide)

theorem natural_written {limit number : Nat} (within : number ≤ limit) :
    natural limit (toString number) = .ok number := by
  obtain ⟨first, more, text, digits, unsigned, -⟩ := begins_with_digit number
  have read := read_some_written .tooLarge within
  rw [digits] at read
  unfold natural
  rw [text]
  split
  · rename_i none
    cases none
  · rename_i signed
    exact absurd (List.cons.inj signed).1 unsigned
  · exact read

theorem integer_written {number : Nat} (within : number ≤ 9223372036854775807) :
    integer (toString number) = .ok number := by
  obtain ⟨first, more, text, digits, unsigned, positive⟩ := begins_with_digit number
  have read := read_some_written .tooLarge within
  rw [digits] at read
  unfold integer
  rw [text]
  split
  · rename_i none
    cases none
  · rename_i signed
    exact absurd (List.cons.inj signed).1 positive
  · rename_i signed
    exact absurd (List.cons.inj signed).1 unsigned
  · rw [read]
    rfl

end CertRenewal.Whole
