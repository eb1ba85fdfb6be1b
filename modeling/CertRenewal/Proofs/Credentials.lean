import CertRenewal.Proofs.Access
import CertRenewal.Proofs.Utf8
import Mathlib.Data.List.Forall2

/-!
Which headers open the control interface: those whose first value that is meant for the
token can be read as text and is the scheme with the expected token behind it, byte for
byte. The comparison that does not show where two texts differ tells any two apart.
-/

namespace CertRenewal

namespace Header

/-- Two characters that are the same, or the two forms of one ASCII letter. -/
inductive Alike : Char → Char → Prop
  | same (char : Char) : Alike char char
  | capital (place : Nat) (letter : place < 26) :
      Alike (Char.ofNat (65 + place)) (Char.ofNat (97 + place))
  | small (place : Nat) (letter : place < 26) :
      Alike (Char.ofNat (97 + place)) (Char.ofNat (65 + place))

/-- Two names that differ in the case of ASCII letters at most. -/
def SameName (first second : String) : Prop :=
  List.Forall₂ Alike first.toList second.toList

/-- The value that headers have under a name: that of the first one that has this name. -/
inductive First (name : String) (value : Bytes) : List Header → Prop
  | here (header : Header) (rest : List Header) (named : SameName header.name name)
      (found : header.value = value) : First name value (header :: rest)
  | behind (header : Header) (rest : List Header) (other : ¬SameName header.name name)
      (first : First name value rest) : First name value (header :: rest)

theorem lower_capital {char : Char} (capital : 'A' ≤ char ∧ char ≤ 'Z') :
    ∃ place < 26, char = Char.ofNat (65 + place) ∧ lower char = Char.ofNat (97 + place) := by
  have least : 65 ≤ char.toNat := capital.1
  have most : char.toNat ≤ 90 := capital.2
  have place : 65 + (char.toNat - 65) = char.toNat := by omega
  have small : 97 + (char.toNat - 65) = char.toNat + 32 := by omega
  refine ⟨char.toNat - 65, by omega, ?_, ?_⟩
  · rw [place, Char.ofNat_toNat]
  · rw [lower, if_pos capital, small]

theorem lower_forms : ∀ place < 26,
    lower (Char.ofNat (65 + place)) = lower (Char.ofNat (97 + place)) := by
  decide

theorem lower_eq_iff (first second : Char) : lower first = lower second ↔ Alike first second := by
  constructor
  · intro same
    by_cases one : 'A' ≤ first ∧ first ≤ 'Z' <;> by_cases other : 'A' ≤ second ∧ second ≤ 'Z'
    · obtain ⟨place, bound, rfl, small⟩ := lower_capital one
      obtain ⟨there, limit, rfl, form⟩ := lower_capital other
      have codes : (Char.ofNat (97 + place)).val.toNat = (Char.ofNat (97 + there)).val.toNat :=
        congrArg (·.val.toNat) (small.symm.trans (same.trans form))
      rw [Bytes.char_number (.inl (by omega)), Bytes.char_number (.inl (by omega))] at codes
      obtain rfl : place = there := by omega
      exact .same _
    · obtain ⟨place, bound, rfl, small⟩ := lower_capital one
      have kept : lower second = second := if_neg other
      rw [← kept, ← same, small]
      exact .capital place bound
    · obtain ⟨place, bound, rfl, small⟩ := lower_capital other
      have kept : lower first = first := if_neg one
      rw [← kept, same, small]
      exact .small place bound
    · have kept : lower first = first := if_neg one
      have still : lower second = second := if_neg other
      rw [← kept, same, still]
      exact .same second
  · intro alike
    cases alike with
    | same => rfl
    | capital place letter => exact lower_forms place letter
    | small place letter => exact (lower_forms place letter).symm

theorem same_name_iff (first second : String) :
    lowerName first = lowerName second ↔ SameName first second := by
  unfold lowerName SameName
  rw [← List.forall₂_eq_eq_eq, List.forall₂_map_left_iff, List.forall₂_map_right_iff]
  simp only [lower_eq_iff]

theorem first_iff (headers : List Header) (name : String) (value : Bytes) :
    first? headers name = some value ↔ First name value headers := by
  induction headers with
  | nil => exact ⟨nofun, nofun⟩
  | cons header rest induction =>
      by_cases named : SameName header.name name
      · have found : first? (header :: rest) name = some header.value := by
          simp [first?, (same_name_iff ..).mpr named]
        rw [found, Option.some.injEq]
        constructor
        · exact .here header rest named
        · intro first
          cases first with
          | here _ _ _ found => exact found
          | behind _ _ other _ => exact absurd named other
      · have passed : first? (header :: rest) name = first? rest name := by
          simp [first?, mt (same_name_iff ..).mp named]
        rw [passed, induction]
        constructor
        · exact .behind header rest named
        · intro first
          cases first with
          | here _ _ other _ => exact absurd other named
          | behind _ _ _ first => exact first

theorem visible_iff (byte : UInt8) :
    isVisible byte = true ↔ byte = 9 ∨ 0x20 ≤ byte ∧ byte ≤ 0x7e := by
  have below : byte < 127 ↔ byte ≤ 0x7e := by
    rw [UInt8.lt_iff_toNat_lt, UInt8.le_iff_toNat_le]
    exact Nat.lt_succ_iff
  simp [isVisible, below]

end Header

namespace Bearer

theorem scheme_before (token : String) :
    Bytes.ofText ("Bearer " ++ token) = scheme ++ Bytes.ofText token := by
  simp [Bytes.ofText, scheme, String.toList_append]

/-- Headers are let in exactly when no token is expected, or the first value that is meant
for it is plain text, namely the scheme and behind it the expected token. Two texts are
taken for the same only if they are, so nothing else that is shown is let in, be it a part
of the token, longer than it or as long. -/
theorem exactly_the_token_is_let_in (headers : List Header) (expected : Option String) :
    (allows headers expected = true ↔ expected = none ∨ ∃ token value, expected = some token ∧
        Header.First "authorization" value headers ∧
        (∀ byte ∈ value, byte = 9 ∨ 0x20 ≤ byte ∧ byte ≤ 0x7e) ∧
        value = Bytes.ofText ("Bearer " ++ token)) ∧
      (∀ first second : String,
        sameBytes (Bytes.ofText first) (Bytes.ofText second) = true ↔ first = second) ∧
      ∀ token shown, expected = some token →
        Header.First "authorization" (Bytes.ofText "Bearer " ++ shown) headers →
          shown ≠ Bytes.ofText token → allows headers expected = false := by
  have accepted (token : String) : allows headers (some token) = true ↔
      Header.First "authorization" (Bytes.ofText ("Bearer " ++ token)) headers ∧
        ∀ byte ∈ Bytes.ofText ("Bearer " ++ token), byte = 9 ∨ 0x20 ≤ byte ∧ byte ≤ 0x7e := by
    rw [allows_iff, Shows, Header.first_iff, ← scheme_before, List.all_eq_true]
    simp only [Header.visible_iff]
  refine ⟨?_, ?_, ?_⟩
  · cases expected with
    | none => exact ⟨fun _ => .inl rfl, fun _ => rfl⟩
    | some token =>
        rw [accepted]
        constructor
        · intro shown
          exact .inr ⟨token, _, rfl, shown.1, shown.2, rfl⟩
        · intro rule
          rcases rule with none | ⟨other, value, same, first, visible, rfl⟩
          · cases none
          · obtain rfl := Option.some.inj same
            exact ⟨first, visible⟩
  · intro first second
    rw [same_bytes_iff]
    exact ⟨Bytes.of_text_injective, congrArg Bytes.ofText⟩
  · intro token shown needed first different
    rw [needed, Bool.eq_false_iff]
    intro allowed
    have whole := (Header.first_iff ..).mpr ((accepted token).mp allowed).1
    rw [(Header.first_iff ..).mpr first, scheme_before] at whole
    exact different (List.append_cancel_left (Option.some.inj whole))

-- The first value decides, under whatever capitals its name is written.
example : [("AUTHORIZATION", "authorization"), ("X-Authorization", "Authorization")].map
    (fun names => allows [⟨names.1, Bytes.ofText "Bearer key"⟩,
      ⟨names.2, Bytes.ofText "Bearer ke"⟩] (some "key")) = [true, false] := by decide +kernel

end Bearer

end CertRenewal
