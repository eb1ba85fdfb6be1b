import CertRenewal.Proofs.Compact
import CertRenewal.Proofs.Layers

/-!
How the kinds of failures are spelled. The texts that are accepted are exactly the tags
of the kinds, and a catalogue is read back from its text, in whatever order its entries
are written.
-/

namespace CertRenewal

open Json

/-! Tags. -/

/-- A look-up by tags finds what has the tag, as soon as it finds everything by its own. -/
theorem find_spelled_iff {Kind : Type} {all : List Kind} {tag : Kind → String} {kind : Kind}
    (listed : all.find? (tag · = tag kind) = some kind) {text : String} :
    all.find? (tag · = text) = some kind ↔ text = tag kind := by
  constructor
  · intro found
    have same := List.find?_some (p := fun kind => decide (tag kind = text)) found
    exact (of_decide_eq_true same).symm
  · rintro rfl
    exact listed

theorem PolicyBreach.of_tag_iff {text : String} {breach : PolicyBreach} :
    ofTag? text = some breach ↔ text = breach.tag :=
  find_spelled_iff (by cases breach <;> rfl)

theorem SystemFault.of_tag_iff {text : String} {fault : SystemFault} :
    ofTag? text = some fault ↔ text = fault.tag :=
  find_spelled_iff (by cases fault <;> rfl)

namespace FailureKind

variable {text : String} {kind : FailureKind} {chars family detail : List Char}

theorem clean_before_colon (chars : List Char) : ':' ∉ chars.takeWhile (· ≠ ':') := by
  intro member
  have solid := List.all_eq_true.mp (List.all_takeWhile (p := (· ≠ ':'))) ':' member
  simp at solid

theorem split_at_colon_iff :
    splitAtColon chars = some (family, detail) ↔
      chars = family ++ ':' :: detail ∧ ':' ∉ family := by
  constructor
  · intro split
    have whole := List.takeWhile_append_dropWhile (p := (· ≠ ':')) (l := chars)
    have colon := List.head?_dropWhile_not (· ≠ ':') chars
    unfold splitAtColon at split
    split at split
    · cases split
    · rename_i first after found
      cases split
      rw [found] at whole colon
      obtain rfl : first = ':' := by simpa using colon
      exact ⟨whole.symm, clean_before_colon chars⟩
  · rintro ⟨rfl, clean⟩
    have solid : ∀ char ∈ family, decide (char ≠ ':') = true := by
      intro char member
      simp only [ne_eq, decide_not, Bool.not_eq_true', decide_eq_false_iff_not]
      rintro rfl
      exact clean member
    have taken : (family ++ ':' :: detail).takeWhile (· ≠ ':') = family := by
      rw [List.takeWhile_append_of_pos solid]
      simp
    have left : (family ++ ':' :: detail).dropWhile (· ≠ ':') = ':' :: detail := by
      rw [List.dropWhile_append_of_pos solid]
      simp
    unfold splitAtColon
    rw [taken, left]

/-- A detailed kind is spelled as its family, a colon and its detail. -/
theorem detailed_iff {family : String} (tag : String) (clean : ':' ∉ family.toList) :
    splitAtColon text.toList = some (family.toList, tag.toList) ↔ text = family ++ ":" ++ tag := by
  rw [split_at_colon_iff, ← String.toList_inj, String.toList_append, String.toList_append,
    List.append_assoc]
  exact and_iff_left clean

theorem policy_split_iff (breach : PolicyBreach) :
    splitAtColon text.toList = some ("policy_violation".toList, breach.tag.toList) ↔
      text = (policyViolation breach).tag :=
  detailed_iff breach.tag (by decide)

theorem system_split_iff (fault : SystemFault) :
    splitAtColon text.toList = some ("system_error".toList, fault.tag.toList) ↔
      text = (systemError fault).tag :=
  detailed_iff fault.tag (by decide)

/-- The texts that are accepted are the tags. -/
theorem of_tag_iff : ofTag? text = some kind ↔ text = kind.tag := by
  constructor
  · intro found
    unfold ofTag? at found
    cases parts : splitAtColon text.toList with
    | none =>
        simp only [parts] at found
        repeat' split at found
        all_goals cases found <;> assumption
    | some pair =>
        obtain ⟨family, detail⟩ := pair
        simp only [parts] at found
        split at found
        · rename_i policy
          obtain ⟨breach, known, rfl⟩ := Option.map_eq_some_iff.mp found
          have spelled : detail = breach.tag.toList := by
            rw [← PolicyBreach.of_tag_iff.mp known, String.toList_ofList]
          exact (policy_split_iff breach).mp (by rw [parts, policy, spelled])
        split at found
        · rename_i system
          obtain ⟨fault, known, rfl⟩ := Option.map_eq_some_iff.mp found
          have spelled : detail = fault.tag.toList := by
            rw [← SystemFault.of_tag_iff.mp known, String.toList_ofList]
          exact (system_split_iff fault).mp (by rw [parts, system, spelled])
        · cases found
  · rintro rfl
    unfold ofTag?
    cases kind with
    | policyViolation breach =>
        simp only [(policy_split_iff breach).mpr rfl, if_true, String.ofList_toList,
          PolicyBreach.of_tag_iff.mpr rfl, Option.map_some]
    | systemError fault =>
        have other : ¬ "system_error".toList = "policy_violation".toList := by decide
        simp only [(system_split_iff fault).mpr rfl, if_neg other, if_true, String.ofList_toList,
          SystemFault.of_tag_iff.mpr rfl, Option.map_some]
    | _ => rfl

end FailureKind

/-! Catalogues. -/

theorem understands_kind (kind : FailureKind) :
    Understands Catalogue.readKind (Tree.quoted kind.tag) kind := by
  intro blanks rest blank ends
  refine .bind (understands_string kind.tag blanks rest blank ends) ?_
  simp only [FailureKind.of_tag_iff.mpr rfl]
  exact .pure kind rest

theorem understands_code (code : Int64) :
    Understands Catalogue.readCode (toString (Numbered.number code)).toList code := by
  have least : -9223372036854775808 ≤ code.toInt := code.le_toInt
  have most : code.toInt ≤ 9223372036854775807 := Int.lt_add_one_iff.mp code.toInt_lt
  have understood := (understands_int64 code.toInt least most).map Int64.ofInt
  rw [Int64.ofInt_toInt] at understood
  exact understood

theorem understands_status (status : UInt16) :
    Understands Catalogue.readStatus (toString (Numbered.number status)).toList status := by
  have small : status.toNat ≤ 65535 := Nat.le_of_lt_succ status.toNat_lt
  have understood := (understands_natural 65535 "u16" status.toNat small (by decide)).map
    UInt16.ofNat
  rw [UInt16.ofNat_toNat] at understood
  exact understood

namespace Listing

/-- Entries as they are written, in the order in which they are listed. -/
def entryTrees {κ : Type} [Numbered κ] (list : List (κ × FailureKind)) : List (String × Tree) :=
  list.map fun entry => (toString (Numbered.number entry.1), .text entry.2.tag)

def toTree (listing : Listing) : Tree :=
  .object [("codes", .object (entryTrees listing.codes)),
    ("statuses", .object (entryTrees listing.statuses))]

def toBytes (listing : Listing) : Bytes := Bytes.ofText listing.toTree.compact

theorem understands_entries {κ : Type} [Numbered κ] {key : Reader κ}
    (numbered : ∀ number : κ, Understands key (toString (Numbered.number number)).toList number)
    (list : List (κ × FailureKind)) :
    Understands (Reader.numberMap key Catalogue.readKind note [])
      (Tree.compactChars (.object (entryTrees list))) list := by
  have entered (before : List (κ × FailureKind)) :
      Enters (fun map => do
        let number ← Reader.numericKey key
        Reader.colon
        return note number (← Catalogue.readKind) map)
      before (entryTrees list) (before ++ list) := by
    induction list generalizing before with
    | nil =>
        rw [List.append_nil]
        exact .nil before
    | cons entry list induction =>
        obtain ⟨number, kind⟩ := entry
        have further := induction (note number kind before)
        rw [note, List.append_assoc, List.singleton_append] at further
        exact .cons (takes_numeric_entry (numbered number) (understands_kind kind) before) further
  exact understands_number_map (entered [])

/-- What is listed is read back in its order, repeated entries included. -/
theorem of_bytes_to_bytes (listing : Listing) : ofBytes listing.toBytes = .ok listing := by
  obtain ⟨codes, statuses⟩ := listing
  have coded := (understands_entries understands_code codes).map
    fun codes => (⟨some codes, none⟩ : Draft)
  have filled := (understands_entries understands_status statuses).map
    fun statuses => (⟨some codes, some statuses⟩ : Draft)
  rw [toBytes, Tree.compact, Bytes.of_text_chars]
  have enters : Enters shape.entry shape.blank
      [("codes", .object (entryTrees codes)), ("statuses", .object (entryTrees statuses))]
      ⟨some codes, some statuses⟩ :=
    .cons (takes_compact_field rfl rfl coded)
      (.cons (takes_compact_field rfl rfl filled) (.nil _))
  exact read_all_written (understands_compact_record enters rfl)

/-- A listing has the entries of a catalogue, in whatever order. -/
structure Lists (listing : Listing) (catalogue : Catalogue) : Prop where
  codes : listing.codes.Perm catalogue.codes.entries
  statuses : listing.statuses.Perm catalogue.statuses.entries

theorem Lists.read_back {listing : Listing} {catalogue : Catalogue}
    (lists : listing.Lists catalogue) : Catalogue.ofBytes listing.toBytes = .ok catalogue := by
  have same : listing.catalogue = catalogue := by
    obtain ⟨codes, statuses⟩ := catalogue
    unfold Listing.catalogue
    rw [NumberMap.of_list_perm codes lists.codes, NumberMap.of_list_perm statuses lists.statuses]
  rw [of_bytes_catalogue, of_bytes_to_bytes, Except.map, same]

end Listing

/-- A catalogue is read back from its text, in whatever order its entries are written, and
the texts that name a kind are exactly the tags. -/
theorem Catalogue.texts_and_tags_read_back :
    (∀ (catalogue : Catalogue) (listing : Listing), listing.Lists catalogue →
      ofBytes listing.toBytes = .ok catalogue) ∧
    (∀ catalogue : Catalogue, ofBytes catalogue.toBytes = .ok catalogue) ∧
    ∀ (text : String) (kind : FailureKind),
      FailureKind.ofTag? text = some kind ↔ text = kind.tag := by
  refine ⟨fun catalogue listing lists => lists.read_back, fun catalogue => ?_,
    fun text kind => FailureKind.of_tag_iff⟩
  have lists : Listing.Lists ⟨catalogue.codes.entries, catalogue.statuses.entries⟩ catalogue :=
    ⟨.refl _, .refl _⟩
  exact lists.read_back

/-- The least code, the greatest one and a status, each with a kind of its own. -/
def Catalogue.outermost : Catalogue where
  codes := .ofList [(-9223372036854775808, .needNewKeys), (9223372036854775807, .tooManyRequests)]
  statuses := .ofList [(65535, .systemError .splitTcp)]

theorem outermost_read_back :
    Listing.Lists ⟨Catalogue.outermost.codes.entries.reverse, [(65535, .systemError .splitTcp)]⟩
        Catalogue.outermost ∧
      Catalogue.ofBytes (Listing.toBytes
        ⟨Catalogue.outermost.codes.entries.reverse, [(65535, .systemError .splitTcp)]⟩) =
        .ok Catalogue.outermost := by
  have lists : Listing.Lists
      ⟨Catalogue.outermost.codes.entries.reverse, [(65535, .systemError .splitTcp)]⟩
      Catalogue.outermost :=
    ⟨List.reverse_perm _, .refl _⟩
  exact ⟨lists, Catalogue.texts_and_tags_read_back.1 _ _ lists⟩

end CertRenewal
