import CertRenewal.NumberMap

/-!
What is found in a map of numbers. Of entries that are put in one after another the last
one under each key is found, and what is laid over a map hides only what has the same key.
-/

namespace CertRenewal.NumberMap

variable {κ α : Type} [Numbered κ] {key : κ} {value : α} {list : List (κ × α)}

/-- What the first entry under a key holds. -/
def find? (list : List (κ × α)) (key : κ) : Option α :=
  (list.find? fun entry => Numbered.number entry.1 = Numbered.number key).map (·.2)

theorem find_cons (other : κ) (held : α) (list : List (κ × α)) (key : κ) :
    find? ((other, held) :: list) key =
      if Numbered.number other = Numbered.number key then some held else find? list key := by
  by_cases same : Numbered.number other = Numbered.number key <;> simp [find?, same]

theorem find_insert_entry (key : κ) (value : α) (list : List (κ × α)) (other : κ) :
    find? (insertEntry key value list) other =
      if Numbered.number key = Numbered.number other then some value else find? list other := by
  induction list with
  | nil => exact find_cons key value [] other
  | cons entry list induction =>
      obtain ⟨first, held⟩ := entry
      unfold insertEntry
      split
      · exact find_cons key value _ other
      split
      · rename_i same
        simp only [find_cons, ← same]
        split <;> rfl
      · rename_i apart
        simp only [find_cons, induction]
        by_cases named : Numbered.number key = Numbered.number other
        · have notFirst : ¬ Numbered.number first = Numbered.number other := fun found =>
            apart (named.trans found.symm)
          simp only [named, if_true, if_neg notFirst]
        · simp only [if_neg named]

theorem get_insert (key : κ) (value : α) (map : NumberMap κ α) (other : κ) :
    (map.insert key value).get? other =
      if Numbered.number key = Numbered.number other then some value else map.get? other :=
  find_insert_entry key value map.entries other

/-- What the last entry under a key holds. -/
def last? (list : List (κ × α)) (key : κ) : Option α := find? list.reverse key

theorem last_cons (other : κ) (held : α) (list : List (κ × α)) (key : κ) :
    last? ((other, held) :: list) key = (last? list key).or (find? [(other, held)] key) := by
  unfold last? find?
  rw [List.reverse_cons, List.find?_append]
  cases list.reverse.find? fun entry => Numbered.number entry.1 = Numbered.number key <;> rfl

theorem last_absent (absent : ∀ value, (key, value) ∉ list) : last? list key = none := by
  refine Option.map_eq_none_iff.mpr (List.find?_eq_none.mpr fun entry member same => ?_)
  obtain rfl : entry.1 = key := Numbered.number_injective (of_decide_eq_true same)
  exact absent entry.2 (List.mem_reverse.mp member)

/-- Entries that are put into a map hide those with the same keys, and each other. -/
theorem get_fold (list : List (κ × α)) (map : NumberMap κ α) (key : κ) :
    (list.foldl (fun map entry => map.insert entry.1 entry.2) map).get? key =
      (last? list key).or (map.get? key) := by
  induction list generalizing map with
  | nil => rfl
  | cons entry list induction =>
      obtain ⟨other, held⟩ := entry
      rw [List.foldl_cons, induction, get_insert, last_cons, find_cons]
      cases last? list key with
      | some found => rfl
      | none =>
          by_cases same : Numbered.number other = Numbered.number key
          · simp [same]
          · simp [same, find?]

theorem get_of_list (list : List (κ × α)) (key : κ) : (ofList list).get? key = last? list key := by
  have found := get_fold list empty key
  have nothing : (empty : NumberMap κ α).get? key = none := rfl
  rw [nothing, Option.or_none] at found
  exact found

/-- An entry with a number of its own is one more entry. -/
theorem insert_entry_perm
    (apart : ∀ entry ∈ list, Numbered.number entry.1 ≠ Numbered.number key) :
    (insertEntry key value list).Perm ((key, value) :: list) := by
  induction list with
  | nil => exact .refl _
  | cons entry list induction =>
      obtain ⟨first, held⟩ := entry
      have other : Numbered.number first ≠ Numbered.number key := apart _ List.mem_cons_self
      unfold insertEntry
      split
      · exact .refl _
      rw [if_neg (Ne.symm other)]
      have further := induction fun entry member => apart entry (List.mem_cons_of_mem _ member)
      exact (further.cons _).trans (.swap ..)

/-- Entries whose numbers are told apart are all in the map that they are put into. -/
theorem fold_perm (list : List (κ × α)) (map : NumberMap κ α)
    (apart : (map.entries ++ list).Pairwise fun first second =>
      Numbered.number first.1 ≠ Numbered.number second.1) :
    (list.foldl (fun map entry => map.insert entry.1 entry.2) map).entries.Perm
      (map.entries ++ list) := by
  induction list generalizing map with
  | nil => exact .of_eq (List.append_nil _).symm
  | cons entry list induction =>
      obtain ⟨key, value⟩ := entry
      have fresh (entry : κ × α) (member : entry ∈ map.entries) :
          Numbered.number entry.1 ≠ Numbered.number key :=
        (List.pairwise_append.mp apart).2.2 entry member _ List.mem_cons_self
      have put : (map.insert key value).entries.Perm ((key, value) :: map.entries) :=
        insert_entry_perm fresh
      have joined : ((map.insert key value).entries ++ list).Perm
          (map.entries ++ (key, value) :: list) :=
        (put.append_right list).trans List.perm_middle.symm
      rw [List.foldl_cons]
      refine (induction _ ?_).trans joined
      exact (joined.pairwise_iff fun apart => Ne.symm apart).mpr apart

/-- A map is made of its entries, in whatever order they come. -/
theorem of_list_perm (map : NumberMap κ α) (listed : list.Perm map.entries) :
    ofList list = map := by
  have apart : list.Pairwise fun first second =>
      Numbered.number first.1 ≠ Numbered.number second.1 :=
    (listed.pairwise_iff fun apart => Ne.symm apart).mpr (map.ascending.imp Int.ne_of_lt)
  have same : (ofList list).entries.Perm map.entries := (fold_perm list empty apart).trans listed
  refine ext (same.eq_of_pairwise (fun first second _ _ less more => ?_) (ofList list).ascending
    map.ascending)
  exact absurd more (Int.lt_asymm less)

/-- A map is made of its own entries. -/
theorem of_list_entries (map : NumberMap κ α) : ofList map.entries = map :=
  of_list_perm map (.refl _)

/-- What is laid over a map is found first. -/
theorem get_overlay (base upper : NumberMap κ α) (key : κ) :
    (base.overlay upper).get? key = (upper.get? key).or (base.get? key) := by
  have found := get_fold upper.entries base key
  rw [← get_of_list, of_list_entries] at found
  exact found

end CertRenewal.NumberMap
