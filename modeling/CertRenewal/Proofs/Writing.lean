import CertRenewal.Json.Printer
import CertRenewal.Proofs.Reading
import CertRenewal.Proofs.Utf8
import Mathlib.Data.List.Basic

/-!
The plain values as they are written, and that the readers take them back: strings
with their escapes, and whole numbers.
-/

namespace CertRenewal.Json

variable {blanks rest more : Bytes} {byte : UInt8} {text : String}

def Plain (byte : UInt8) : Prop := 32 ≤ byte.toNat ∧ byte.toNat ≠ 34 ∧ byte.toNat ≠ 92

theorem takes_plain (plain read : Bytes) (fuel : Nat) (clean : ∀ byte ∈ plain, Plain byte)
    (taken : Takes (Reader.stringFrom fuel (plain.reverse ++ read)) more text rest) :
    Takes (Reader.stringFrom (fuel + plain.length) read) (plain ++ more) text rest := by
  induction plain generalizing read with
  | nil => exact taken
  | cons byte plain induction =>
      obtain ⟨control, quote, slash⟩ := clean byte List.mem_cons_self
      have notQuote : byte ≠ 34 := fun same => quote (same ▸ rfl)
      have notSlash : byte ≠ 92 := fun same => slash (same ▸ rfl)
      have notControl : ¬ byte < 32 := by
        rw [UInt8.lt_iff_toNat_lt]
        exact Nat.not_lt.mpr control
      refine .bind (.peek _) ?_
      simp only [List.cons_append, List.head?_cons, if_neg notQuote, if_neg notSlash,
        if_neg notControl]
      refine .bind (.skip_byte byte _) ?_
      apply induction (byte :: read) fun other member => clean other (List.mem_cons_of_mem _ member)
      rw [List.reverse_cons, List.append_assoc] at taken
      exact taken

theorem takes_quote (fuel : Nat) {read : Bytes} (decoded : Bytes.text? read.reverse = some text)
    (rest : Bytes) : Takes (Reader.stringFrom (fuel + 1) read) (34 :: rest) text rest := by
  refine .bind (.peek _) ?_
  simp only [List.head?_cons, if_true, decoded]
  exact .bind (.skip_byte 34 rest) (.pure text rest)

theorem takes_escaped {escaped meant read : Bytes} (fuel : Nat)
    (escape : Takes Reader.escape (escaped ++ more) meant more)
    (taken : Takes (Reader.stringFrom fuel (meant.reverse ++ read)) more text rest) :
    Takes (Reader.stringFrom (fuel + 1) read) (92 :: escaped ++ more) text rest := by
  refine .bind (.peek _) ?_
  simp only [List.cons_append, List.head?_cons, if_neg (by decide : ¬ (92 : UInt8) = 34), if_true]
  exact .bind (.skip_byte 92 _) (.bind escape taken)

theorem hex_letter (digit : Nat) (small : digit < 16) :
    ∃ byte, String.utf8EncodeChar (Tree.hexLetter digit) = [byte] ∧
      hexDigit? byte = some digit := by
  have all : ∀ digit < 16, hexDigit? (UInt8.ofNat (Tree.hexLetter digit).toNat) = some digit ∧
      String.utf8EncodeChar (Tree.hexLetter digit) =
        [UInt8.ofNat (Tree.hexLetter digit).toNat] := by decide
  exact ⟨_, (all digit small).2, (all digit small).1⟩

theorem takes_short_escape {letter meant : UInt8} (found : shortEscape? letter = some meant)
    (notUnicode : letter ≠ 117) (rest : Bytes) :
    Takes Reader.escape (letter :: rest) [meant] rest := by
  refine .bind (.next_byte letter rest) ?_
  simp only [if_neg notUnicode, found]
  exact .pure [meant] rest

theorem takes_hex_escape {a b c d : UInt8} {w x y z : Nat} (first : hexDigit? a = some w)
    (second : hexDigit? b = some x) (third : hexDigit? c = some y) (fourth : hexDigit? d = some z)
    (rest : Bytes) :
    Takes Reader.hexEscape (a :: b :: c :: d :: rest) (((w * 16 + x) * 16 + y) * 16 + z) rest := by
  refine .get fun index => .bind (.set ⟨rest, index + 4⟩ _) ?_
  simp only [first, second, third, fourth]
  exact .pure _ rest

/-- A control character without an escape of its own is written by its number. -/
theorem takes_number_escape (char : Char) (control : char.toNat < 32) (rest : Bytes) :
    Takes Reader.escape (Bytes.ofChars ['u', '0', '0', Tree.hexLetter (char.toNat / 16),
      Tree.hexLetter (char.toNat % 16)] ++ rest) (String.utf8EncodeChar char) rest := by
  obtain ⟨high, highLetter, highDigit⟩ := hex_letter (char.toNat / 16) (by omega)
  obtain ⟨low, lowLetter, lowDigit⟩ := hex_letter (char.toNat % 16) (by omega)
  have bytes : Bytes.ofChars ['u', '0', '0', Tree.hexLetter (char.toNat / 16),
      Tree.hexLetter (char.toNat % 16)] = [117, 48, 48, high, low] := by
    simp only [Bytes.ofChars, List.flatMap_cons, highLetter, lowLetter]
    rfl
  have number : ((0 * 16 + 0) * 16 + char.toNat / 16) * 16 + char.toNat % 16 = char.toNat := by
    omega
  have taken := @takes_hex_escape 48 48 high low 0 0 _ _ rfl rfl highDigit lowDigit rest
  rw [number] at taken
  have notLow : isLowSurrogate char.toNat = false := by
    simp only [isLowSurrogate, Bool.and_eq_false_imp, decide_eq_true_eq]
    omega
  have notHigh : isHighSurrogate char.toNat = false := by
    simp only [isHighSurrogate, Bool.and_eq_false_imp, decide_eq_true_eq]
    omega
  rw [bytes]
  refine .bind (.next_byte 117 _) ?_
  simp only [if_true]
  refine .bind taken ?_
  simp only [notLow, notHigh, Bool.false_eq_true, if_false, Char.ofNat_toNat]
  exact .pure _ rest

/-- How a character can stand inside quotes. -/
inductive Escapes (char : Char) : List Char → Prop
  | plain (clean : ∀ byte ∈ String.utf8EncodeChar char, Plain byte) : Escapes char [char]
  | escaped (chars : List Char) (bytes : Bytes) (written : Bytes.ofChars chars = 92 :: bytes)
      (taken : ∀ rest, Takes Reader.escape (bytes ++ rest) (String.utf8EncodeChar char) rest) :
      Escapes char chars

theorem Escapes.short {char letter : Char} {byte meant : UInt8}
    (written : String.utf8EncodeChar letter = [byte]) (found : shortEscape? byte = some meant)
    (notUnicode : byte ≠ 117) (encoded : String.utf8EncodeChar char = [meant]) :
    Escapes char ['\\', letter] := by
  refine .escaped _ [byte] ?_ fun rest => ?_
  · rw [Bytes.of_chars_cons, Bytes.of_chars_cons, written]
    rfl
  · rw [encoded]
    exact takes_short_escape found notUnicode rest

/-- Every character is written in one of these ways. -/
theorem escape_escapes (char : Char) : Escapes char (Tree.escape char) := by
  have encoded := Bytes.encoded_bytes char
  have numbered (code : Nat) (small : code < 128) (same : char.toNat = code) :
      String.utf8EncodeChar char = [UInt8.ofNat code] := by
    rw [same] at encoded
    exact encoded.elim (·.1) fun large => absurd large.1 (by omega)
  have quoteNumber (quote : char = '"') : char.toNat = 34 := by rw [quote]; rfl
  have slashNumber (slash : char = '\\') : char.toNat = 92 := by rw [slash]; rfl
  unfold Tree.escape
  split
  · rename_i quote
    exact .short rfl rfl (by decide) (numbered 34 (by decide) (quoteNumber quote))
  split
  · rename_i slash
    exact .short rfl rfl (by decide) (numbered 92 (by decide) (slashNumber slash))
  split
  · exact .short rfl rfl (by decide) (numbered 8 (by decide) ‹_›)
  split
  · exact .short rfl rfl (by decide) (numbered 9 (by decide) ‹_›)
  split
  · exact .short rfl rfl (by decide) (numbered 10 (by decide) ‹_›)
  split
  · exact .short rfl rfl (by decide) (numbered 12 (by decide) ‹_›)
  split
  · exact .short rfl rfl (by decide) (numbered 13 (by decide) ‹_›)
  split
  · rename_i control
    exact .escaped _ _ (Bytes.of_chars_cons _ _) (takes_number_escape char control)
  · rename_i quote slash _ _ _ _ _ control
    refine .plain fun byte member => ?_
    rcases encoded with ⟨single, small⟩ | ⟨_, large⟩
    · rw [single, List.mem_singleton] at member
      have number : byte.toNat = char.toNat := by rw [member, Bytes.byte_number (by omega)]
      have notQuote : char.toNat ≠ 34 := fun same =>
        quote (by rw [← Char.ofNat_toNat char, same])
      have notSlash : char.toNat ≠ 92 := fun same =>
        slash (by rw [← Char.ofNat_toNat char, same])
      rw [Plain, number]
      exact ⟨Nat.not_lt.mp control, notQuote, notSlash⟩
    · have high := large byte member
      exact ⟨by omega, by omega, by omega⟩

theorem takes_chars (chars read : List Char) (fuel : Nat) (rest : Bytes)
    (enough : (Bytes.ofChars (chars.flatMap Tree.escape)).length < fuel) :
    Takes (Reader.stringFrom fuel (Bytes.ofChars read).reverse)
      (Bytes.ofChars (chars.flatMap Tree.escape) ++ 34 :: rest)
      (String.ofList (read ++ chars)) rest := by
  induction chars generalizing read fuel with
  | nil =>
      obtain ⟨fuel, rfl⟩ := Nat.exists_eq_add_of_le' (Nat.zero_lt_of_lt enough)
      refine takes_quote fuel ?_ rest
      rw [List.reverse_reverse, List.append_nil]
      exact Bytes.text_encoded read
  | cons char chars induction =>
      rw [List.flatMap_cons, Bytes.of_chars_append] at enough ⊢
      rw [List.length_append] at enough
      rw [List.append_assoc]
      have further (fuel : Nat)
          (enough : (Bytes.ofChars (chars.flatMap Tree.escape)).length < fuel) :
          Takes (Reader.stringFrom fuel
            ((String.utf8EncodeChar char).reverse ++ (Bytes.ofChars read).reverse))
            (Bytes.ofChars (chars.flatMap Tree.escape) ++ 34 :: rest)
            (String.ofList (read ++ char :: chars)) rest := by
        have taken := induction (read ++ [char]) fuel enough
        rw [Bytes.of_chars_append, List.reverse_append, List.append_assoc] at taken
        simpa [Bytes.ofChars] using taken
      have way := escape_escapes char
      generalize Tree.escape char = written at way enough ⊢
      cases way with
      | plain clean =>
          have single : Bytes.ofChars [char] = String.utf8EncodeChar char := by simp [Bytes.ofChars]
          rw [single] at enough ⊢
          obtain ⟨fuel, rfl⟩ := Nat.exists_eq_add_of_le'
            (by omega : (String.utf8EncodeChar char).length ≤ fuel)
          exact takes_plain _ _ fuel clean (further fuel (by omega))
      | escaped _ bytes written taken =>
          rw [written] at enough ⊢
          obtain ⟨fuel, rfl⟩ := Nat.exists_eq_add_of_le' (by omega : 1 ≤ fuel)
          rw [List.length_cons] at enough
          exact takes_escaped fuel (taken _) (further fuel (by omega))

theorem takes_string_body (text : String) (rest : Bytes) :
    Takes Reader.stringBody
      (Bytes.ofChars (text.toList.flatMap Tree.escape) ++ 34 :: rest) text rest := by
  refine .get fun index => ?_
  have taken := takes_chars text.toList [] _ rest
    (by rw [List.length_append]; omega :
      _ < (Bytes.ofChars (text.toList.flatMap Tree.escape) ++ 34 :: rest).length + 1)
  rw [List.nil_append, String.ofList_toList] at taken
  exact taken

/-- A reader understands what is written as a value, whatever blanks come before it
and whatever comes behind it. -/
def Understands {α : Type} (reader : Reader α) (written : List Char) (value : α) : Prop :=
  ∀ blanks rest : Bytes, Blank blanks → Ends rest →
    Takes reader (blanks ++ Bytes.ofChars written ++ rest) value rest

/-- What is written begins with this byte, which is not a blank. -/
def Begins (written : List Char) (byte : UInt8) : Prop :=
  isBlank byte = false ∧ ∃ more, Bytes.ofChars written = byte :: more

theorem quoted_bytes (text : String) (rest : Bytes) : Bytes.ofChars (Tree.quoted text) ++ rest =
    34 :: (Bytes.ofChars (text.toList.flatMap Tree.escape) ++ 34 :: rest) := by
  have ends : Bytes.ofChars ['"'] = [34] := rfl
  have begins : String.utf8EncodeChar '"' = [34] := rfl
  simp only [Tree.quoted, List.cons_append, Bytes.of_chars_cons, Bytes.of_chars_append, begins,
    ends, List.append_assoc, List.nil_append]

theorem quoted_begins (text : String) : Begins (Tree.quoted text) 34 := by
  have bytes := quoted_bytes text []
  rw [List.append_nil] at bytes
  exact ⟨rfl, _, bytes⟩

theorem understands_string (text : String) : Understands Reader.string (Tree.quoted text) text := by
  intro blanks rest blank ends
  rw [List.append_assoc, quoted_bytes]
  refine .bind (takes_value_start blank rfl) ?_
  simp only [if_true]
  exact .bind (.skip_byte 34 _) (takes_string_body text rest)

theorem true_written : Bytes.ofChars "true".toList = [116, 114, 117, 101] := by decide

theorem false_written : Bytes.ofChars "false".toList = [102, 97, 108, 115, 101] := by decide

theorem understands_bool (value : Bool) :
    Understands Reader.bool (if value then "true" else "false").toList value := by
  intro blanks rest blank ends
  rw [List.append_assoc]
  cases value with
  | true =>
      rw [if_pos rfl, true_written, List.cons_append]
      refine .bind (takes_value_start blank rfl) ?_
      simp only [if_true]
      exact .bind (.skip_byte 116 _) (.bind (takes_word [114, 117, 101] rest) (.pure true rest))
  | false =>
      rw [if_neg (by decide), false_written, List.cons_append]
      refine .bind (takes_value_start blank rfl) ?_
      simp only [if_neg (by decide : ¬ (102 : UInt8) = 116), if_true]
      exact .bind (.skip_byte 102 _)
        (.bind (takes_word [97, 108, 115, 101] rest) (.pure false rest))

theorem bool_begins (value : Bool) :
    ∃ byte, byte ≠ 110 ∧ Begins (if value then "true" else "false").toList byte := by
  cases value with
  | true => exact ⟨116, by decide, rfl, _, true_written⟩
  | false => exact ⟨102, by decide, rfl, _, false_written⟩

/-- The number that digits add up to behind those that were read before. -/
def joinDigits (read : Nat) (digits : Bytes) : Nat :=
  digits.foldl (fun value digit => value * 10 + Reader.digitValue digit) read

theorem le_join_digits (read : Nat) (digits : Bytes) : read ≤ joinDigits read digits := by
  induction digits generalizing read with
  | nil => exact Nat.le_refl _
  | cons digit digits induction =>
      have further := induction (read * 10 + Reader.digitValue digit)
      exact Nat.le_trans (by omega) further

theorem takes_digits (limit read fuel : Nat) (digits rest : Bytes)
    (all : ∀ digit ∈ digits, isDigit digit = true) (ends : Ends rest)
    (within : joinDigits read digits ≤ limit) (enough : digits.length ≤ fuel) :
    Takes (Reader.digitsWithin limit fuel read) (digits ++ rest) (joinDigits read digits) rest := by
  induction digits generalizing read fuel with
  | nil =>
      cases fuel with
      | zero => exact .pure read rest
      | succ fuel =>
          refine .bind (.peek _) ?_
          rw [List.nil_append]
          cases next : rest.head? with
          | none => exact .pure read rest
          | some byte =>
              have other := (ends byte next).1
              simp only [other, Bool.false_eq_true, false_and, if_false]
              exact .pure read rest
  | cons digit digits induction =>
      rw [List.length_cons] at enough
      obtain ⟨fuel, rfl⟩ := Nat.exists_eq_add_of_le' (by omega : 1 ≤ fuel)
      have isDigit := all digit List.mem_cons_self
      have fits : read * 10 + Reader.digitValue digit ≤ limit :=
        Nat.le_trans (le_join_digits _ digits) within
      refine .bind (.peek _) ?_
      simp only [List.cons_append, List.head?_cons, isDigit, fits, and_self, if_true]
      refine .bind (.skip_byte digit _) (induction _ fuel
        (fun other member => all other (List.mem_cons_of_mem _ member)) within (by omega))

/-- The digits of a number as they are written: no zero comes first unless it is the
only one. -/
theorem digits_written (number : Nat) : ∃ first more,
    Bytes.ofChars (Nat.toDigits 10 number) = first :: more ∧ isDigit first = true ∧
      (∀ digit ∈ more, isDigit digit = true) ∧ (first = 48 → more = []) ∧
      joinDigits (Reader.digitValue first) more = number := by
  have letter : ∀ digit < 10, ∃ byte, String.utf8EncodeChar digit.digitChar = [byte] ∧
      isDigit byte = true ∧ Reader.digitValue byte = digit := by
    have all : ∀ digit < 10, String.utf8EncodeChar digit.digitChar = [UInt8.ofNat (digit + 48)] ∧
        isDigit (UInt8.ofNat (digit + 48)) = true ∧
        Reader.digitValue (UInt8.ofNat (digit + 48)) = digit := by decide
    exact fun digit small => ⟨_, all digit small⟩
  induction number using Nat.strongRecOn with
  | ind number induction =>
      by_cases small : number < 10
      · obtain ⟨byte, encoded, isDigit, value⟩ := letter number small
        refine ⟨byte, [], ?_, isDigit, fun _ member => (nomatch member), fun _ => rfl, value⟩
        simp [Nat.toDigits_of_lt_base small, Bytes.ofChars, encoded]
      · obtain ⟨first, more, written, isDigit, all, zero, joined⟩ :=
          induction (number / 10) (by omega)
        obtain ⟨last, encoded, lastDigit, value⟩ := letter (number % 10) (by omega)
        refine ⟨first, more ++ [last], ?_, isDigit, ?_, ?_, ?_⟩
        · rw [Nat.toDigits_of_base_le (by decide) (by omega), Bytes.of_chars_append, written]
          simp [Bytes.ofChars, encoded]
        · intro digit member
          rcases List.mem_append.mp member with before | itself
          · exact all digit before
          · rw [List.mem_singleton.mp itself]
            exact lastDigit
        · intro isZero
          rw [zero isZero, isZero] at joined
          have nothing : Reader.digitValue 48 = number / 10 := joined
          have none : Reader.digitValue 48 = 0 := rfl
          omega
        · have joins : joinDigits (Reader.digitValue first) (more ++ [last]) =
              joinDigits (Reader.digitValue first) more * 10 + Reader.digitValue last := by
            simp [joinDigits]
          rw [joins, joined, value]
          omega

theorem takes_number (negated : Bool) (number : Nat) (small : number ≤ Number.natLimit)
    (rest : Bytes) (ends : Ends rest) :
    Takes (Reader.number negated) (Bytes.ofChars (Nat.toDigits 10 number) ++ rest)
      (Number.whole negated number) rest := by
  obtain ⟨first, more, written, isDigit, all, zero, joined⟩ := digits_written number
  rw [written, List.cons_append]
  refine .bind (.next_byte first _) ?_
  simp only [isDigit, Bool.not_true, Bool.false_eq_true, if_false]
  by_cases isZero : first = 48
  · rw [zero isZero, isZero] at joined
    have none : number = 0 := joined.symm
    rw [zero isZero, List.nil_append, if_pos isZero, none]
    refine .bind (.peek _) ?_
    cases next : rest.head? with
    | none => exact .pure _ rest
    | some byte =>
        obtain ⟨digit, point, mark⟩ := ends byte next
        simp only [digit, point, mark, Bool.false_eq_true, if_false]
        exact .pure _ rest
  · rw [if_neg isZero]
    refine .bind (.remaining _) ?_
    have taken := takes_digits Number.natLimit (Reader.digitValue first) (more ++ rest).length more
      rest all ends (joined.symm ▸ small) (by rw [List.length_append]; omega)
    rw [joined] at taken
    refine .bind taken ?_
    have still : rest.dropWhile Json.isDigit = rest ∧ (rest.takeWhile Json.isDigit).length = 0 := by
      cases rest with
      | nil => exact ⟨rfl, rfl⟩
      | cons byte rest =>
          have other := (ends byte rfl).1
          simp [other]
    have skipped := Takes.skip_while Json.isDigit rest
    rw [still.1, still.2] at skipped
    refine .bind skipped (.bind (.peek _) ?_)
    cases next : rest.head? with
    | none =>
        simp only [ne_eq, not_true_eq_false, if_false]
        exact .pure _ rest
    | some byte =>
        obtain ⟨_, point, mark⟩ := ends byte next
        simp only [point, mark, ne_eq, not_true_eq_false, Bool.false_eq_true, or_self, if_false]
        exact .pure _ rest

theorem digit_solid {byte : UInt8} (digit : isDigit byte = true) :
    isBlank byte = false ∧ byte ≠ 45 ∧ byte ≠ 110 := by
  simp only [isDigit, Bool.and_eq_true, decide_eq_true_eq, UInt8.le_iff_toNat_le] at digit
  have least : 48 ≤ byte.toNat := digit.1
  have most : byte.toNat ≤ 57 := digit.2
  have other (number : UInt8) (outside : number.toNat < 48 ∨ 57 < number.toNat) :
      byte ≠ number := by
    rintro rfl
    omega
  refine ⟨?_, other 45 (by decide), other 110 (by decide)⟩
  simp [isBlank, other 32 (by decide), other 10 (by decide), other 9 (by decide),
    other 13 (by decide)]

theorem number_written (number : Nat) :
    (toString (number : Int)).toList = Nat.toDigits 10 number := Nat.toList_repr

theorem negative_written (size : Nat) :
    (toString (Int.negSucc size)).toList = '-' :: Nat.toDigits 10 (size + 1) := by
  have repr : toString (Int.negSucc size) = "-" ++ Nat.repr (size + 1) := rfl
  rw [repr, String.toList_append, Nat.toList_repr]
  rfl

theorem understands_natural_number (expected : String) (number : Nat)
    (small : number ≤ Number.natLimit) :
    Understands (Reader.anyNumber expected) (Nat.toDigits 10 number) (.natural number) := by
  intro blanks rest blank ends
  have taken := takes_number false number small rest ends
  obtain ⟨first, more, written, digit, -⟩ := digits_written number
  rw [written, List.append_assoc, List.cons_append]
  rw [written, List.cons_append] at taken
  refine .bind (takes_value_start blank (digit_solid digit).1) ?_
  simp only [if_neg (digit_solid digit).2.1, digit, if_true]
  exact taken

theorem understands_negative_number (expected : String) (size : Nat) (nonzero : 1 ≤ size)
    (small : size ≤ 9223372036854775808) :
    Understands (Reader.anyNumber expected) ('-' :: Nat.toDigits 10 size) (.negative size) := by
  intro blanks rest blank ends
  have within : size ≤ Number.natLimit := by
    unfold Number.natLimit
    omega
  have taken := takes_number true size within rest ends
  have whole : Number.whole true size = .negative size := by
    simp only [Number.whole, if_true, nonzero, small, and_self]
  have sign : String.utf8EncodeChar '-' = [45] := rfl
  rw [whole] at taken
  rw [Bytes.of_chars_cons, sign, List.append_assoc, List.append_assoc, List.singleton_append]
  refine .bind (takes_value_start blank rfl) ?_
  simp only [if_true]
  exact .bind (.skip_byte 45 _) taken

theorem understands_natural (limit : Nat) (expected : String) (number : Nat)
    (small : number ≤ limit) (bound : limit ≤ Number.natLimit) :
    Understands (Reader.natural limit expected) (toString (number : Int)).toList number := by
  intro blanks rest blank ends
  rw [number_written]
  refine .bind (understands_natural_number expected number (Nat.le_trans small bound) blanks rest
    blank ends) ?_
  simp only [if_pos small]
  exact .pure number rest

/-- A whole number that fits in 64 bits with a sign is read back. -/
theorem understands_int64 (number : Int) (least : -9223372036854775808 ≤ number)
    (most : number ≤ 9223372036854775807) :
    Understands Reader.int64 (toString number).toList number := by
  intro blanks rest blank ends
  cases number with
  | ofNat size =>
      have fits : size ≤ 9223372036854775807 := Int.ofNat_le.mp most
      have within : size ≤ Number.natLimit := Nat.le_trans fits (by decide)
      have digits : (toString (Int.ofNat size)).toList = Nat.toDigits 10 size := number_written size
      rw [digits]
      refine .bind (understands_natural_number "i64" size within blanks rest blank ends) ?_
      simp only [if_pos fits]
      exact .pure (size : Int) rest
  | negSucc size =>
      have fits : size + 1 ≤ 9223372036854775808 := by omega
      rw [negative_written]
      refine .bind (understands_negative_number "i64" (size + 1) (Nat.succ_pos size) fits blanks
        rest blank ends) ?_
      exact .pure (-(size + 1 : Nat) : Int) rest

end CertRenewal.Json
