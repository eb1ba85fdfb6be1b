import CertRenewal.Proofs.Utf8
import CertRenewal.Text.Base64

/-!
Bytes that were written in Base64 are read back, whatever they are and however many, and
no other text is read as them.
-/

namespace CertRenewal.Base64

theorem value_letter (number : Nat) (small : number < 64) :
    value? (letter number) = some number := by
  have all : ∀ digit : Fin 64, value? (letter digit) = some digit.val := by decide
  exact all ⟨number, small⟩

theorem letter_not_pad (number : Nat) (small : number < 64) : letter number ≠ '=' := by
  have all : ∀ digit : Fin 64, letter digit ≠ '=' := by decide
  exact all ⟨number, small⟩

/-- Four letters of which the last is no padding are three bytes. -/
theorem decode_group {a b c d : Char} {w x y z : Nat} {bytes : Bytes} {rest : List Char}
    (first : value? a = some w) (second : value? b = some x) (third : value? c = some y)
    (fourth : value? d = some z) (unpadded : d ≠ '=') (decoded : decode rest = some bytes) :
    decode (a :: b :: c :: d :: rest) =
      some (UInt8.ofNat ((((w * 64 + x) * 64 + y) * 64 + z) / 65536)
        :: UInt8.ofNat ((((w * 64 + x) * 64 + y) * 64 + z) / 256 % 256)
        :: UInt8.ofNat ((((w * 64 + x) * 64 + y) * 64 + z) % 256) :: bytes) := by
  rw [decode]
  · simp [first, second, third, fourth, decoded]
  · intro same
    exact fun pad => absurd pad unpadded
  · intro pad
    exact absurd pad unpadded

theorem decode_encode (bytes : Bytes) : decode (encode bytes) = some bytes := by
  induction bytes using encode.induct with
  | case1 => rfl
  | case2 a =>
      have bound := a.toNat_lt
      have first := value_letter (a.toNat * 16 / 64) (by omega)
      have second := value_letter (a.toNat * 16 % 64) (by omega)
      have group : a.toNat * 16 / 64 * 64 + a.toNat * 16 % 64 = a.toNat * 16 :=
        Nat.div_add_mod' _ _
      have byte : a.toNat * 16 / 16 = a.toNat := Nat.mul_div_cancel _ (by decide)
      have spare : a.toNat * 16 % 16 = 0 := Nat.mul_mod_left _ _
      simp [encode, decode, first, second, group, byte, spare]
  | case3 a b =>
      have low := a.toNat_lt
      have high := b.toNat_lt
      let group := (a.toNat * 256 + b.toNat) * 4
      have first := value_letter (group / 4096) (by omega)
      have second := value_letter (group / 64 % 64) (by omega)
      have third := value_letter (group % 64) (by omega)
      have unpadded := letter_not_pad (group % 64) (by omega)
      have joined : (group / 4096 * 64 + group / 64 % 64) * 64 + group % 64 = group := by omega
      have one : UInt8.ofNat (group / 1024) = a := Bytes.byte_of_number (by omega)
      have two : UInt8.ofNat (group / 4 % 256) = b := Bytes.byte_of_number (by omega)
      have spare : group % 4 = 0 := Nat.mul_mod_left _ _
      have written : encode [a, b] = [letter (group / 4096), letter (group / 64 % 64),
        letter (group % 64), '='] := rfl
      rw [written, decode]
      · simp [first, second, third, joined, one, two, spare]
      · exact unpadded
  | case4 a b c rest induction =>
      have high := a.toNat_lt
      have middle := b.toNat_lt
      have low := c.toNat_lt
      let group := (a.toNat * 256 + b.toNat) * 256 + c.toNat
      have joined : ((group / 262144 * 64 + group / 4096 % 64) * 64 + group / 64 % 64) * 64 +
        group % 64 = group := by omega
      have one : UInt8.ofNat (group / 65536) = a := Bytes.byte_of_number (by omega)
      have two : UInt8.ofNat (group / 256 % 256) = b := Bytes.byte_of_number (by omega)
      have three : UInt8.ofNat (group % 256) = c := Bytes.byte_of_number (by omega)
      have decoded := decode_group (value_letter (group / 262144) (by omega))
        (value_letter (group / 4096 % 64) (by omega)) (value_letter (group / 64 % 64) (by omega))
        (value_letter (group % 64) (by omega)) (letter_not_pad _ (by omega)) induction
      rw [joined, one, two, three] at decoded
      exact decoded

theorem letter_value {char : Char} {number : Nat} (found : value? char = some number) :
    letter number = char ∧ number < 64 := by
  have back : Char.ofNat char.toNat = char := Char.ofNat_toNat char
  unfold value? at found
  simp only at found
  split at found
  · obtain rfl := Option.some.inj found
    refine ⟨?_, by omega⟩
    rw [letter, if_pos (by omega), Nat.sub_add_cancel (by omega), back]
  split at found
  · obtain rfl := Option.some.inj found
    refine ⟨?_, by omega⟩
    rw [letter, if_neg (by omega), if_pos (by omega), Nat.sub_add_cancel (by omega), back]
  split at found
  · obtain rfl := Option.some.inj found
    refine ⟨?_, by omega⟩
    rw [letter, if_neg (by omega), if_neg (by omega), if_pos (by omega), Nat.add_sub_cancel, back]
  split at found
  · obtain rfl := Option.some.inj found
    subst char
    exact ⟨rfl, by decide⟩
  split at found
  · obtain rfl := Option.some.inj found
    subst char
    exact ⟨rfl, by decide⟩
  · cases found

/-- Nothing else than what is written for some bytes is read as them. -/
theorem encode_decode {chars : List Char} {bytes : Bytes} (decoded : decode chars = some bytes) :
    encode bytes = chars := by
  induction chars using decode.induct generalizing bytes with
  | case1 =>
      obtain rfl := Option.some.inj decoded
      rfl
  | case2 a b =>
      obtain ⟨w, first, behind⟩ := Option.bind_eq_some_iff.mp decoded
      obtain ⟨x, second, grouped⟩ := Option.bind_eq_some_iff.mp behind
      obtain ⟨rfl, high⟩ := letter_value first
      obtain ⟨rfl, low⟩ := letter_value second
      dsimp only at grouped
      split at grouped
      · rename_i spare
        obtain rfl := Option.some.inj grouped
        have number := Bytes.byte_number (by omega : (w * 64 + x) / 16 < 256)
        have one : (w * 64 + x) / 16 * 16 / 64 = w := by omega
        have two : (w * 64 + x) / 16 * 16 % 64 = x := by omega
        simp only [encode, number, one, two]
      · cases grouped
  | case3 a b c unpadded =>
      rw [decode] at decoded
      obtain ⟨w, first, behind⟩ := Option.bind_eq_some_iff.mp decoded
      obtain ⟨x, second, onward⟩ := Option.bind_eq_some_iff.mp behind
      obtain ⟨y, third, grouped⟩ := Option.bind_eq_some_iff.mp onward
      obtain ⟨rfl, high⟩ := letter_value first
      obtain ⟨rfl, middle⟩ := letter_value second
      obtain ⟨rfl, low⟩ := letter_value third
      dsimp only at grouped
      split at grouped
      · rename_i spare
        obtain rfl := Option.some.inj grouped
        let group := (w * 64 + x) * 64 + y
        have one := Bytes.byte_number (by omega : group / 1024 < 256)
        have two := Bytes.byte_number (by omega : group / 4 % 256 < 256)
        have joined : (group / 1024 * 256 + group / 4 % 256) * 4 = group := by omega
        have lead : group / 4096 = w := by omega
        have next : group / 64 % 64 = x := by omega
        have last : group % 64 = y := by omega
        simp only [encode, group, one, two, joined, lead, next, last]
      · cases grouped
      · exact unpadded
  | case4 a b c d rest unpadded other induction =>
      rw [decode] at decoded
      · obtain ⟨w, first, behind⟩ := Option.bind_eq_some_iff.mp decoded
        obtain ⟨x, second, onward⟩ := Option.bind_eq_some_iff.mp behind
        obtain ⟨y, third, along⟩ := Option.bind_eq_some_iff.mp onward
        obtain ⟨z, fourth, grouped⟩ := Option.bind_eq_some_iff.mp along
        obtain ⟨more, further, joint⟩ := Option.bind_eq_some_iff.mp grouped
        obtain ⟨rfl, high⟩ := letter_value first
        obtain ⟨rfl, upper⟩ := letter_value second
        obtain ⟨rfl, lower⟩ := letter_value third
        obtain ⟨rfl, low⟩ := letter_value fourth
        obtain rfl := Option.some.inj joint
        let group := ((w * 64 + x) * 64 + y) * 64 + z
        have one := Bytes.byte_number (by omega : group / 65536 < 256)
        have two := Bytes.byte_number (by omega : group / 256 % 256 < 256)
        have three := Bytes.byte_number (by omega : group % 256 < 256)
        have joined : (group / 65536 * 256 + group / 256 % 256) * 256 + group % 256 = group := by
          omega
        have lead : group / 262144 = w := by omega
        have next : group / 4096 % 64 = x := by omega
        have inner : group / 64 % 64 = y := by omega
        have last : group % 64 = z := by omega
        simp only [encode, group, one, two, three, joined, lead, next, inner, last,
          induction further]
      · exact unpadded
      · exact other
  | case5 chars empty two one four =>
      rw [decode] at decoded
      · cases decoded
      · exact empty
      · exact two
      · exact one
      · exact four

theorem decode_text_encode_text (bytes : Bytes) : decodeText (encodeText bytes) = some bytes := by
  rw [decodeText, encodeText, String.toList_ofList, decode_encode]

/-- The one text that is read as some bytes is the one written for them. -/
theorem decode_text_iff {text : String} {bytes : Bytes} :
    decodeText text = some bytes ↔ text = encodeText bytes := by
  constructor
  · intro decoded
    rw [encodeText, encode_decode decoded, String.ofList_toList]
  · rintro rfl
    exact decode_text_encode_text bytes

end CertRenewal.Base64
