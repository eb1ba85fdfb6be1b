import CertRenewal.Log
import CertRenewal.Proofs.Compact
import Mathlib.Data.List.TakeWhile

/-!
What the lines of the log can hold. In a line of text no character of a message is left
that a terminal would obey, and a message without any is written as it is. In JSON an entry
is one line, whatever its message holds.
-/

namespace CertRenewal

open Json

namespace LogEntry

/-- A character that a terminal obeys rather than shows, and that ends no line. -/
def IsObeyed (char : Char) : Prop :=
  char.toNat ∈ [0x07, 0x08, 0x0C, 0x1B, 0x7F] ∨ 0x80 ≤ char.toNat ∧ char.toNat ≤ 0x9F

instance : DecidablePred IsObeyed := fun char =>
  inferInstanceAs (Decidable
    (char.toNat ∈ [0x07, 0x08, 0x0C, 0x1B, 0x7F] ∨ 0x80 ≤ char.toNat ∧ char.toNat ≤ 0x9F))

def IsUnobeyed (text : List Char) : Prop := ∀ char ∈ text, ¬ IsObeyed char

instance : DecidablePred IsUnobeyed := fun text => List.decidableBAll (¬ IsObeyed ·) text

variable {entry : LogEntry} {char : Char} {message : String}

theorem write_char_unobeyed (unobeyed : ¬ IsObeyed char) : writeChar char = [char] := by
  unfold IsObeyed at unobeyed
  simp only [List.mem_cons, List.not_mem_nil, or_false, not_or] at unobeyed
  obtain ⟨⟨bell, back, page, escape, delete⟩, upper⟩ := unobeyed
  simp only [writeChar, if_neg bell, if_neg back, if_neg page, if_neg escape, if_neg delete,
    if_neg upper]

theorem codes_unobeyed : ∀ code : Fin 0xA0, IsObeyed (Char.ofNat code) →
    IsUnobeyed (writeChar (Char.ofNat code)) := by
  decide +kernel

theorem write_char_obeyed (obeyed : IsObeyed char) : IsUnobeyed (writeChar char) := by
  have small : char.toNat < 0xA0 := by
    unfold IsObeyed at obeyed
    simp only [List.mem_cons, List.not_mem_nil, or_false] at obeyed
    omega
  have codes := codes_unobeyed ⟨char.toNat, small⟩
  rw [Char.ofNat_toNat] at codes
  exact codes obeyed

theorem message_unobeyed (message : String) : IsUnobeyed (writeMessage message).toList := by
  intro char member
  rw [writeMessage, String.toList_ofList] at member
  obtain ⟨origin, -, inside⟩ := List.mem_flatMap.mp member
  by_cases obeyed : IsObeyed origin
  · exact write_char_obeyed obeyed char inside
  · rw [write_char_unobeyed obeyed, List.mem_singleton] at inside
    exact inside ▸ obeyed

theorem message_kept_iff :
    writeMessage message = message ↔ IsUnobeyed message.toList := by
  constructor
  · intro same
    rw [← same]
    exact message_unobeyed message
  · intro unobeyed
    rw [writeMessage, List.flatMap_congr fun char member =>
      write_char_unobeyed (unobeyed char member), List.flatMap_singleton', String.ofList_toList]

theorem message_written_once (message : String) :
    writeMessage (writeMessage message) = writeMessage message :=
  message_kept_iff.mpr (message_unobeyed message)

/-- What is written around the message of an entry as it is. -/
structure IsHarmless (entry : LogEntry) : Prop where
  target : IsUnobeyed entry.target.toList
  names : ∀ value ∈ entry.values, IsUnobeyed value.1.toList

theorem digits_unobeyed (number : Nat) : IsUnobeyed (toString number).toList := by
  intro char member
  have digit : char.isDigit = true :=
    Nat.isDigit_of_mem_toDigits (by decide) (by decide) (Nat.toList_repr ▸ member)
  simp only [Char.isDigit, Bool.and_eq_true, decide_eq_true_eq, UInt32.le_iff_toNat_le] at digit
  have least : 48 ≤ char.toNat := digit.1
  have most : char.toNat ≤ 57 := digit.2
  unfold IsObeyed
  simp only [List.mem_cons, List.not_mem_nil, or_false]
  omega

theorem level_unobeyed (level : LogLevel) : IsUnobeyed level.name.toList := by
  cases level <;> decide

/-- In text no character of an entry is left that a terminal would obey. -/
theorem text_unobeyed (harmless : entry.IsHarmless) :
    IsUnobeyed (entry.write .text).toList := by
  have blank : IsUnobeyed " ".toList := by decide
  have colon : IsUnobeyed ": ".toList := by decide
  have equals : IsUnobeyed "=".toList := by decide
  intro char member
  simp only [write, String.toList_append, String.toList_join, List.mem_append,
    List.mem_flatMap, List.mem_map] at member
  rcases member with ((((level | space) | target) | mark) | message) |
    ⟨_, ⟨value, among, rfl⟩, inside⟩
  · exact level_unobeyed _ char level
  · exact blank char space
  · exact harmless.target char target
  · exact colon char mark
  · exact message_unobeyed _ char message
  · simp only [String.toList_append, List.mem_append] at inside
    rcases inside with ((space | name) | sign) | number
    · exact blank char space
    · exact harmless.names value among char name
    · exact equals char sign
    · exact digits_unobeyed _ char number

end LogEntry

namespace Json.Tree

/-- A text whose characters are no ASCII controls. -/
def IsSolid (text : List Char) : Prop := ∀ char ∈ text, 32 ≤ char.toNat

instance : DecidablePred IsSolid := fun text =>
  List.decidableBAll (fun char : Char => 32 ≤ char.toNat) text

theorem solid_append {front back : List Char} (first : IsSolid front) (second : IsSolid back) :
    IsSolid (front ++ back) :=
  fun char member => (List.mem_append.mp member).elim (first char) (second char)

theorem solid_cons {char : Char} {rest : List Char} (itself : 32 ≤ char.toNat)
    (others : IsSolid rest) : IsSolid (char :: rest) :=
  List.forall_mem_cons.mpr ⟨itself, others⟩

theorem control_solid : ∀ code : Fin 32, IsSolid (escape (Char.ofNat code)) := by
  decide +kernel

theorem escape_solid (char : Char) : IsSolid (escape char) := by
  by_cases small : char.toNat < 32
  · have control := control_solid ⟨char.toNat, small⟩
    rwa [Char.ofNat_toNat] at control
  by_cases quote : char = '"'
  · subst quote
    decide
  by_cases slash : char = '\\'
  · subst slash
    decide
  have itself : escape char = [char] := by
    unfold escape
    rw [if_neg quote, if_neg slash, if_neg (by omega), if_neg (by omega), if_neg (by omega),
      if_neg (by omega), if_neg (by omega), if_neg small]
  rw [itself]
  exact solid_cons (by omega) nofun

theorem quoted_solid (text : String) : IsSolid (quoted text) := by
  refine solid_append (solid_cons (by decide) fun char member => ?_) (by decide)
  obtain ⟨origin, -, inside⟩ := List.mem_flatMap.mp member
  exact escape_solid origin char inside

/-- A number is written in characters that are written as they are in quotes. -/
theorem number_solid (number : Int) : IsSolid (toString number).toList := by
  intro char member
  rw [← number_unescaped] at member
  obtain ⟨origin, -, inside⟩ := List.mem_flatMap.mp member
  exact escape_solid origin char inside

mutual

theorem compact_solid : (tree : Tree) → IsSolid tree.compactChars
  | .null => by decide
  | .bool true => by decide
  | .bool false => by decide
  | .number value => number_solid value
  | .text value => quoted_solid value
  | .object members =>
    solid_append (solid_cons (by decide) (compact_members_solid members)) (by decide)

theorem compact_members_solid : (members : List (String × Tree)) →
    IsSolid (compactMembers members)
  | [] => nofun
  | [only] => compact_member_solid only
  | first :: second :: rest => solid_append (compact_member_solid first)
      (solid_cons (by decide) (compact_members_solid (second :: rest)))

theorem compact_member_solid : (member : String × Tree) → IsSolid (compactMember member)
  | (name, value) => solid_append (quoted_solid name)
      (solid_cons (by decide) (compact_solid value))

end

end Json.Tree

namespace Line

theorem without_return_of_absent {line : List Char} (absent : '\r' ∉ line) :
    withoutReturn line = line := by
  unfold withoutReturn
  rw [if_neg]
  exact fun last => absent (List.mem_of_getLast? last)

theorem mem_without_return {line : List Char} {char : Char}
    (member : char ∈ withoutReturn line) : char ∈ line := by
  unfold withoutReturn at member
  split at member
  · exact List.dropLast_subset _ member
  · exact member

/-- A text without the ends of lines is one line. -/
theorem split_solid {text : String} (solid : Json.Tree.IsSolid text.toList) :
    split text = [text] := by
  have absent {char : Char} (control : char.toNat < 32) : char ∉ text.toList := fun member =>
    absurd (solid char member) (by omega)
  unfold split
  rw [List.splitOn_eq_singleton (absent (by decide)), List.map_singleton,
    without_return_of_absent (absent (by decide)), String.ofList_toList]

theorem first_unbroken (text : String) : '\n' ∉ (first text).toList := by
  intro member
  unfold first at member
  rw [String.toList_ofList] at member
  simpa using List.mem_takeWhile_imp (mem_without_return member)

theorem mem_first {text : String} {char : Char} (member : char ∈ (first text).toList) :
    char ∈ text.toList := by
  unfold first at member
  rw [String.toList_ofList] at member
  exact List.takeWhile_subset (· ≠ '\n') (mem_without_return member)

theorem mem_part {chars part : List Char} {mark char : Char} (among : part ∈ chars.splitOn mark)
    (member : char ∈ part) : char ∈ chars := by
  induction chars generalizing part with
  | nil =>
      rw [List.splitOn, List.splitOnP_nil, List.mem_singleton] at among
      exact among ▸ member
  | cons first rest induction =>
      rw [List.splitOn, List.splitOnP_cons_eq_if_modifyHead] at among
      split at among
      · rcases List.mem_cons.mp among with rfl | among
        · cases member
        · exact List.mem_cons_of_mem _ (induction among member)
      · cases parts : rest.splitOnP (· == mark) with
        | nil =>
            rw [parts] at among
            cases among
        | cons head tail =>
            have inside (other : List Char) (found : other ∈ head :: tail) :
                other ∈ rest.splitOn mark := by
              rw [List.splitOn, parts]
              exact found
            rw [parts, List.modifyHead_cons] at among
            rcases List.mem_cons.mp among with rfl | among
            · rcases List.mem_cons.mp member with rfl | member
              · exact List.mem_cons_self
              · exact List.mem_cons_of_mem _ (induction (inside head List.mem_cons_self) member)
            · exact List.mem_cons_of_mem _
                (induction (inside part (List.mem_cons_of_mem _ among)) member)

theorem mem_split {text line : String} {char : Char} (among : line ∈ split text)
    (member : char ∈ line.toList) : char ∈ text.toList := by
  obtain ⟨part, found, rfl⟩ := List.mem_map.mp among
  rw [String.toList_ofList] at member
  exact mem_part found (mem_without_return member)

end Line

namespace LogEntry

/-- In JSON an entry is one line. -/
theorem json_line (entry : LogEntry) : entry.lines .json = [entry.write .json] := by
  refine Line.split_solid ?_
  unfold write Json.Tree.compact
  rw [String.toList_ofList]
  exact Json.Tree.compact_solid _

end LogEntry

end CertRenewal
