import CertRenewal.Proofs.Utf8
import CertRenewal.Text.Terminal

/-!
A terminal is shown nothing that it would obey. Every character of a text that is shown
is beyond ASCII, visible or spacing; a text of such characters is shown as it is, and of
others less is shown. So showing a text once more changes nothing.
-/

namespace CertRenewal.Terminal

/-- A character that is no control character, except for tabs and the ends of lines and
pages. -/
def IsPlain (char : Char) : Prop :=
  32 ≤ char.toNat ∧ char.toNat ≠ 127 ∨ char.toNat ∈ [9, 10, 12, 13]

instance : DecidablePred IsPlain := fun char =>
  inferInstanceAs (Decidable (32 ≤ char.toNat ∧ char.toNat ≠ 127 ∨ char.toNat ∈ [9, 10, 12, 13]))

/-- A text of such characters. -/
def IsPlainText (text : String) : Prop := ∀ char ∈ text.toList, IsPlain char

instance : DecidablePred IsPlainText := fun text => List.decidableBAll IsPlain text.toList

/-- A byte of such a character. -/
def IsPlainByte (byte : UInt8) : Prop := 128 ≤ byte.toNat ∨ isVisible byte = true

variable {stage : Stage} {byte : UInt8} {bytes rest : Bytes} {text : String}

/-- Within ASCII these are the characters that are shown. -/
theorem plain_iff {char : Char} :
    IsPlain char ↔ 128 ≤ char.toNat ∨ isVisible (UInt8.ofNat char.toNat) = true := by
  by_cases beyond : 128 ≤ char.toNat
  · simp only [IsPlain, beyond, true_or, iff_true]
    omega
  · have small : (UInt8.ofNat char.toNat).toNat = char.toNat := Bytes.byte_number (by omega)
    simp only [IsPlain, isVisible, isSpacing, ← UInt8.toNat_inj, UInt8.le_iff_toNat_le, small,
      UInt8.reduceToNat, Bool.or_eq_true, Bool.and_eq_true, decide_eq_true_eq, List.mem_cons,
      List.not_mem_nil, or_false]
    omega

theorem plain_append {first second : String} (front : IsPlainText first)
    (back : IsPlainText second) : IsPlainText (first ++ second) := by
  intro char member
  rw [String.toList_append] at member
  exact (List.mem_append.mp member).elim (front char) (back char)

theorem Stage.plain_of_shows (shows : stage.shows byte = true) : IsPlainByte byte := by
  have spacing (spaces : isSpacing byte = true) : IsPlainByte byte :=
    .inr (by simp [isVisible, spaces])
  cases stage with
  | text =>
      simp only [Stage.shows, Bool.or_eq_true, decide_eq_true_eq, UInt8.le_iff_toNat_le] at shows
      exact shows.symm
  | ground =>
      simp only [Stage.shows, Bool.or_eq_true, decide_eq_true_eq, UInt8.le_iff_toNat_le] at shows
      exact shows.elim .inr fun high => .inl (Nat.le_trans (by decide) high)
  | escape | short | control => exact spacing shows
  | _ => cases shows

theorem shown_bytes_plain (stage : Stage) (bytes : Bytes) :
    ∀ byte ∈ shownFrom stage bytes, IsPlainByte byte := by
  induction bytes generalizing stage with
  | nil => exact nofun
  | cons first rest induction =>
      intro byte member
      unfold shownFrom at member
      split at member
      · rename_i shows
        rcases List.mem_cons.mp member with rfl | behind
        · exact Stage.plain_of_shows shows
        · exact induction .text byte behind
      · exact induction _ byte member

theorem shown_plain (text : String) : IsPlainText (shown text) := by
  intro char member
  unfold shown Bytes.lossyText at member
  rw [String.toList_ofList] at member
  rcases Bytes.mem_repaired member with none | rfl | inside
  · cases none
  · decide
  · refine plain_iff.mpr ?_
    rcases Bytes.encoded_bytes char with ⟨encoded, low⟩ | ⟨beyond, -⟩
    · have among := inside (UInt8.ofNat char.toNat) (by simp [encoded])
      refine (shown_bytes_plain .ground (Bytes.ofText text) _ among).imp_left fun high => ?_
      rw [Bytes.byte_number (by omega)] at high
      omega
    · exact .inl beyond

theorem shown_behind_text (plain : ∀ byte ∈ bytes, IsPlainByte byte) :
    shownFrom .text bytes = bytes := by
  induction bytes with
  | nil => rfl
  | cons first rest induction =>
      have shows : Stage.text.shows first = true := by
        rcases plain first List.mem_cons_self with high | visible
        · simp [Stage.shows, UInt8.le_iff_toNat_le, high]
        · simp [Stage.shows, visible]
      rw [shownFrom, if_pos shows, induction fun byte member => plain byte (by simp [member])]

theorem plain_bytes {chars : List Char} (plain : ∀ char ∈ chars, IsPlain char) :
    ∀ byte ∈ Bytes.ofChars chars, IsPlainByte byte := by
  intro byte member
  obtain ⟨char, among, inside⟩ := List.mem_flatMap.mp member
  rcases Bytes.encoded_bytes char with ⟨encoded, low⟩ | ⟨beyond, high⟩
  · rw [encoded, List.mem_singleton] at inside
    rw [inside]
    exact .inr ((plain_iff.mp (plain char among)).resolve_left (by omega))
  · exact .inl (high byte inside)

theorem shown_of_plain (plain : IsPlainText text) : shown text = text := by
  have same : shownFrom .ground (Bytes.ofText text) = Bytes.ofText text := by
    have whole : Bytes.ofText text = Bytes.ofChars text.toList := rfl
    rw [whole]
    have bytes := plain_bytes plain
    cases chars : text.toList with
    | nil => rfl
    | cons char chars =>
        rw [chars] at bytes
        rw [Bytes.of_chars_cons] at bytes ⊢
        have itself := plain_iff.mp (plain char (by simp [chars]))
        -- the first byte of a character is shown wherever one stands outside of a sequence
        obtain ⟨first, more, encoded, shows⟩ : ∃ first more,
            String.utf8EncodeChar char = first :: more ∧ Stage.ground.shows first = true := by
          rcases Bytes.encoded_bytes char with ⟨encoded, low⟩ | ⟨beyond, -⟩
          · refine ⟨_, _, encoded, ?_⟩
            simp [Stage.shows, itself.resolve_left (by omega)]
          · obtain ⟨first, more, encoded, high, -⟩ := Bytes.encoded_beyond beyond
            exact ⟨first, more, encoded, by simp [Stage.shows, UInt8.le_iff_toNat_le, high]⟩
        rw [encoded, List.cons_append] at bytes ⊢
        rw [shownFrom, if_pos shows,
          shown_behind_text fun byte member => bytes byte (List.mem_cons_of_mem _ member)]
  rw [shown, same, Bytes.lossy_text_of_text]

theorem shown_iff : shown text = text ↔ IsPlainText text :=
  ⟨fun same => same ▸ shown_plain text, shown_of_plain⟩

theorem shown_shown (text : String) : shown (shown text) = shown text :=
  shown_of_plain (shown_plain text)

theorem unspaced (solid : 0x20 ≤ byte.toNat) : isSpacing byte = false := by
  simp only [isSpacing, ← UInt8.toNat_inj, UInt8.reduceToNat, Bool.or_eq_false_iff,
    decide_eq_false_iff_not]
  omega

/-- A sequence that is opened with a bracket shows nothing, from the escape character up to
its last byte. -/
theorem control_sequence_unseen {parameters : Bytes} {last : UInt8}
    (inside : ∀ byte ∈ parameters, 0x20 ≤ byte.toNat ∧ byte.toNat ≤ 0x3F)
    (ends : 0x40 ≤ last.toNat ∧ last.toNat ≤ 0x7E) (rest : Bytes) :
    shownFrom .ground (0x1B :: 0x5B :: (parameters ++ last :: rest)) = shownFrom .ground rest := by
  have opened : shownFrom .ground (0x1B :: 0x5B :: (parameters ++ last :: rest)) =
      shownFrom .control (parameters ++ last :: rest) := rfl
  rw [opened]
  clear opened
  induction parameters with
  | nil =>
      have unseen : Stage.control.shows last = false := unspaced (Nat.le_trans (by decide) ends.1)
      have next : Stage.control.next last = .ground := by
        simp only [Stage.next, ← UInt8.toNat_inj, UInt8.reduceToNat, UInt8.le_iff_toNat_le,
          Bool.or_eq_true, Bool.and_eq_true, decide_eq_true_eq]
        rw [if_neg (by omega), if_neg (by omega), if_pos ends]
      rw [List.nil_append, shownFrom, unseen, if_neg Bool.false_ne_true, next]
  | cons byte parameters induction =>
      have bounds := inside byte List.mem_cons_self
      have unseen : Stage.control.shows byte = false := unspaced bounds.1
      have next : Stage.control.next byte = .control := by
        simp only [Stage.next, ← UInt8.toNat_inj, UInt8.reduceToNat, UInt8.le_iff_toNat_le,
          Bool.or_eq_true, Bool.and_eq_true, decide_eq_true_eq]
        rw [if_neg (by omega), if_neg (by omega), if_neg (by omega)]
      rw [List.cons_append, shownFrom, unseen, if_neg Bool.false_ne_true, next]
      exact induction fun other member => inside other (List.mem_cons_of_mem _ member)

example : shown "\x1b[31mred" = "red" := by decide

end CertRenewal.Terminal
