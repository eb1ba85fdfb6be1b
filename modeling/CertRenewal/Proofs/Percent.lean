import CertRenewal.Proofs.Utf8
import CertRenewal.Url.Segments

/-!
What was encoded is read back from its encoding, and a mark that must be encoded does not
stand in it. An encoded segment is one of dots only if these dots were encoded.
-/

namespace CertRenewal

namespace Percent

theorem hex_letter_value : ∀ digit < 16, Digit.value? (hexLetter digit) = some digit := by decide

theorem decode_byte (byte : UInt8) (rest : List Char) :
    decode (encodeByte byte ++ rest) = byte :: decode rest := by
  have bound : byte.toNat < 256 := byte.toNat_lt
  have high := hex_letter_value (byte.toNat / 16) (by omega)
  have low := hex_letter_value (byte.toNat % 16) (by omega)
  have whole : byte.toNat / 16 * 16 + byte.toNat % 16 = byte.toNat := by omega
  show decode ('%' :: hexLetter (byte.toNat / 16) :: hexLetter (byte.toNat % 16) :: rest) = _
  rw [decode]
  simp only [high, low, whole, UInt8.ofNat_toNat]

theorem decode_bytes (bytes : Bytes) (rest : List Char) :
    decode (bytes.flatMap encodeByte ++ rest) = bytes ++ decode rest := by
  induction bytes with
  | nil => rfl
  | cons byte bytes ih =>
      rw [List.flatMap_cons, List.append_assoc, decode_byte, ih, List.cons_append]

theorem decode_char {char : Char} (noPercent : char ≠ '%') (rest : List Char) :
    decode (char :: rest) = String.utf8EncodeChar char ++ decode rest := by
  rw [decode]
  intro high low _ percent _
  exact noPercent percent

variable {mustEncode : Char → Bool}

theorem encode_cons (char : Char) (text : List Char) :
    encode mustEncode (char :: text) =
      (if mustEncode char then (String.utf8EncodeChar char).flatMap encodeByte else [char]) ++
        encode mustEncode text := List.flatMap_cons

theorem decode_encode (percent : mustEncode '%' = true) (text : List Char) :
    decode (encode mustEncode text) = Bytes.ofChars text := by
  induction text with
  | nil => rw [encode, List.flatMap_nil, decode]; rfl
  | cons char text ih =>
      rw [encode_cons, Bytes.of_chars_cons]
      by_cases must : mustEncode char = true
      · rw [if_pos must, decode_bytes, ih]
      · have noPercent : char ≠ '%' := fun same => must (same ▸ percent)
        rw [if_neg must, List.singleton_append, decode_char noPercent, ih]

theorem absent_from_byte {mark : Char} (noDigit : Digit.value? mark = none) (noPercent : mark ≠ '%')
    (byte : UInt8) : mark ∉ encodeByte byte := by
  have bound : byte.toNat < 256 := byte.toNat_lt
  have noLetter : ∀ digit < 16, mark ≠ hexLetter digit := by
    intro digit small same
    have value := hex_letter_value digit small
    rw [← same, noDigit] at value
    cases value
  simp only [encodeByte, List.mem_cons, List.not_mem_nil, or_false, not_or]
  exact ⟨noPercent, noLetter _ (by omega), noLetter _ (by omega)⟩

theorem absent_from_encoded {mark : Char} (must : mustEncode mark = true)
    (noDigit : Digit.value? mark = none) (noPercent : mark ≠ '%') (text : List Char) :
    mark ∉ encode mustEncode text := by
  intro inside
  obtain ⟨char, -, written⟩ := List.mem_flatMap.mp inside
  by_cases encoded : mustEncode char = true
  · rw [if_pos encoded] at written
    obtain ⟨byte, -, letter⟩ := List.mem_flatMap.mp written
    exact absent_from_byte noDigit noPercent byte letter
  · rw [if_neg encoded, List.mem_singleton] at written
    exact encoded (written ▸ must)

end Percent

namespace Segments

open Percent

theorem before_lowering {char small : Char} (lower : char.toLower = small) :
    char = small ∨ 65 ≤ char.toNat ∧ char.toNat + 32 = small.toNat := by
  unfold Char.toLower at lower
  split at lower
  next capital =>
      have least : 65 ≤ char.val.toNat := UInt32.le_iff_toNat_le.mp capital.1
      have most : char.val.toNat ≤ 90 := UInt32.le_iff_toNat_le.mp capital.2
      refine .inr ⟨least, ?_⟩
      subst lower
      show char.val.toNat + 32 = (char.val + 32).toNat
      simp only [UInt32.toNat_add, UInt32.reduceToNat]
      omega
  next => exact .inl lower

theorem mark_before_lowering {char mark : Char} (lower : char.toLower = mark)
    (noLetter : mark.toNat < 97) : char = mark := by
  obtain same | ⟨least, shifted⟩ := before_lowering lower
  · exact same
  · omega

theorem value_before_lowering {char : Char} (lower : char.toLower = 'e') :
    Digit.value? char = some 14 := by
  obtain rfl | ⟨least, shifted⟩ := before_lowering lower
  · rfl
  · have code : char.toNat = 69 := Nat.add_right_cancel shifted
    simp [Digit.value?, code]

/-- A dot as it may be written in a segment. -/
def IsDot (text : List Char) : Prop :=
  text.map Char.toLower = ['.'] ∨ text.map Char.toLower = ['%', '2', 'e']

theorem IsDot.decodes {text : List Char} (dot : IsDot text) (rest : List Char) :
    decode (text ++ rest) = 0x2E :: decode rest := by
  rcases dot with bare | encoded
  · obtain ⟨char, _, rfl, lower, nothing⟩ := List.map_eq_cons_iff.mp bare
    obtain rfl := List.map_eq_nil_iff.mp nothing
    obtain rfl := mark_before_lowering lower (by decide)
    exact decode_char (by decide) rest
  · obtain ⟨percent, _, rfl, lowerPercent, digits⟩ := List.map_eq_cons_iff.mp encoded
    obtain ⟨two, _, rfl, lowerTwo, letters⟩ := List.map_eq_cons_iff.mp digits
    obtain ⟨letter, _, rfl, lowerLetter, nothing⟩ := List.map_eq_cons_iff.mp letters
    obtain rfl := List.map_eq_nil_iff.mp nothing
    obtain rfl := mark_before_lowering lowerPercent (by decide)
    obtain rfl := mark_before_lowering lowerTwo (by decide)
    have high : Digit.value? '2' = some 2 := rfl
    show decode ('%' :: '2' :: letter :: rest) = _
    rw [decode]
    simp only [high, value_before_lowering lowerLetter]
    rfl

theorem single_is_dot {segment : List Char} (single : isSingle segment = true) :
    IsDot segment := by
  simp only [isSingle, List.contains_cons, List.contains_nil, Bool.or_false, Bool.or_eq_true,
    beq_iff_eq, ← String.toList_inj, String.toList_ofList] at single
  exact single

theorem double_of_dots {segment : List Char} (double : isDouble segment = true) :
    ∃ first second, segment = first ++ second ∧ IsDot first ∧ IsDot second := by
  have parts : ∀ one other : List Char, segment.map Char.toLower = one ++ other →
      one = ['.'] ∨ one = ['%', '2', 'e'] → other = ['.'] ∨ other = ['%', '2', 'e'] →
        ∃ first second, segment = first ++ second ∧ IsDot first ∧ IsDot second := by
    intro one other lowered oneDot otherDot
    obtain ⟨first, second, rfl, rfl, rfl⟩ := List.map_eq_append_iff.mp lowered
    exact ⟨first, second, rfl, oneDot, otherDot⟩
  simp only [isDouble, List.contains_cons, List.contains_nil, Bool.or_false, Bool.or_eq_true,
    beq_iff_eq, ← String.toList_inj, String.toList_ofList] at double
  rcases double with bare | second | first | both
  · exact parts ['.'] ['.'] bare (.inl rfl) (.inl rfl)
  · exact parts ['.'] ['%', '2', 'e'] second (.inl rfl) (.inr rfl)
  · exact parts ['%', '2', 'e'] ['.'] first (.inr rfl) (.inl rfl)
  · exact parts ['%', '2', 'e'] ['%', '2', 'e'] both (.inr rfl) (.inr rfl)

variable {text : List Char}

theorem encoded_single (single : isSingle (encode inSpecialSegment text) = true) :
    text = ['.'] := by
  have decoded := (single_is_dot single).decodes []
  rw [List.append_nil, decode_encode rfl, decode] at decoded
  exact Bytes.of_chars_injective decoded

theorem encoded_double (double : isDouble (encode inSpecialSegment text) = true) :
    text = ['.', '.'] := by
  obtain ⟨first, second, written, firstDot, secondDot⟩ := double_of_dots double
  have decoded : decode (encode inSpecialSegment text) = [0x2E, 0x2E] := by
    have last := secondDot.decodes []
    rw [List.append_nil, decode] at last
    rw [written, firstDot.decodes, last]
  rw [decode_encode rfl] at decoded
  exact Bytes.of_chars_injective decoded

end Segments

end CertRenewal
