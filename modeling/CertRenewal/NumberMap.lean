/-!
Finite maps whose keys are numbers, kept as a list in ascending order of the
keys. Two maps with the same entries are equal.
-/

namespace CertRenewal

/-- A type whose values are numbers, told apart by them. -/
class Numbered (κ : Type) where
  number : κ → Int
  number_injective : ∀ {first second : κ}, number first = number second → first = second

instance : Numbered Int64 := ⟨Int64.toInt, fun same => Int64.toInt_inj.mp same⟩

instance : Numbered UInt16 :=
  ⟨fun value => value.toNat, fun same => UInt16.toNat_inj.mp (Int.ofNat.inj same)⟩

structure NumberMap (κ α : Type) [Numbered κ] where
  entries : List (κ × α)
  ascending : entries.Pairwise fun first second =>
    Numbered.number first.1 < Numbered.number second.1

namespace NumberMap

variable {κ α : Type} [Numbered κ]

theorem ext {first second : NumberMap κ α} (same : first.entries = second.entries) :
    first = second := by
  cases first; cases second; cases same; rfl

instance [DecidableEq κ] [DecidableEq α] : DecidableEq (NumberMap κ α) := fun first second =>
  if same : first.entries = second.entries then isTrue (ext same)
  else isFalse fun equal => same (congrArg entries equal)

def empty : NumberMap κ α := ⟨[], .nil⟩

/-- Puts an entry in its place in an ascending list, over one with the same key. -/
def insertEntry (key : κ) (value : α) : List (κ × α) → List (κ × α)
  | [] => [(key, value)]
  | (other, held) :: rest =>
    if Numbered.number key < Numbered.number other then (key, value) :: (other, held) :: rest
    else if Numbered.number key = Numbered.number other then (key, value) :: rest
    else (other, held) :: insertEntry key value rest

theorem mem_insertEntry {key : κ} {value : α} {list : List (κ × α)} {entry : κ × α}
    (member : entry ∈ insertEntry key value list) : entry = (key, value) ∨ entry ∈ list := by
  induction list with
  | nil => simpa [insertEntry] using member
  | cons first rest induction =>
    obtain ⟨other, held⟩ := first
    unfold insertEntry at member
    split at member
    · simpa using member
    · split at member
      · rcases List.mem_cons.mp member with same | inside
        · exact Or.inl same
        · exact Or.inr (List.mem_cons_of_mem _ inside)
      · rcases List.mem_cons.mp member with same | inside
        · exact Or.inr (same ▸ List.mem_cons_self)
        · rcases induction inside with same | inside
          · exact Or.inl same
          · exact Or.inr (List.mem_cons_of_mem _ inside)

theorem insertEntry_ascending (key : κ) (value : α) {list : List (κ × α)}
    (ordered : list.Pairwise fun first second =>
      Numbered.number first.1 < Numbered.number second.1) :
    (insertEntry key value list).Pairwise fun first second =>
      Numbered.number first.1 < Numbered.number second.1 := by
  induction list with
  | nil => simp [insertEntry]
  | cons first rest induction =>
    obtain ⟨other, held⟩ := first
    obtain ⟨least, later⟩ := List.pairwise_cons.mp ordered
    unfold insertEntry
    split
    · rename_i less
      refine List.pairwise_cons.mpr ⟨fun entry member => ?_, ordered⟩
      rcases List.mem_cons.mp member with same | inside
      · exact same ▸ less
      · exact Int.lt_trans less (least entry inside)
    · split
      · rename_i equal
        exact List.pairwise_cons.mpr ⟨fun entry member => by
          show Numbered.number key < _
          exact equal ▸ least entry member, later⟩
      · rename_i notLess notEqual
        refine List.pairwise_cons.mpr ⟨fun entry member => ?_, induction later⟩
        rcases mem_insertEntry member with same | inside
        · subst same
          show Numbered.number other < Numbered.number key
          omega
        · exact least entry inside

def insert (key : κ) (value : α) (map : NumberMap κ α) : NumberMap κ α :=
  ⟨insertEntry key value map.entries, insertEntry_ascending key value map.ascending⟩

def get? (map : NumberMap κ α) (key : κ) : Option α :=
  (map.entries.find? fun entry => Numbered.number entry.1 = Numbered.number key).map (·.2)

def ofList (entries : List (κ × α)) : NumberMap κ α :=
  entries.foldl (fun map entry => map.insert entry.1 entry.2) empty

def overlay (base upper : NumberMap κ α) : NumberMap κ α :=
  upper.entries.foldl (fun map entry => map.insert entry.1 entry.2) base

end NumberMap

end CertRenewal
