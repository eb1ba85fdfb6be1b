import CertRenewal.Proofs.Document

/-!
An object that is written on one line is read back, whether its keys are the names of
fields or numbers.
-/

namespace CertRenewal.Json

variable {α κ σ : Type} {rest : Bytes} {state next final : σ} {members : List (String × Tree)}
  {entry : σ → Reader σ}

/-- Members on one line, one after another, take what was read to something else. -/
inductive Enters (entry : σ → Reader σ) : σ → List (String × Tree) → σ → Prop
  | nil (state : σ) : Enters entry state [] state
  | cons {state next final : σ} {member : String × Tree} {members : List (String × Tree)}
      (taken : ∀ rest, Ends rest →
        Takes (entry state) (Bytes.ofChars (Tree.compactMember member) ++ rest) next rest)
      (further : Enters entry next members final) : Enters entry state (member :: members) final

theorem Enters.append {others : List (String × Tree)} {last : σ}
    (enters : Enters entry state members next) (more : Enters entry next others last) :
    Enters entry state (members ++ others) last := by
  induction enters with
  | nil => exact more
  | cons taken further induction => exact .cons taken (induction more)

/-! Members behind commas. -/

def trailing : List (String × Tree) → List Char
  | [] => []
  | member :: members => ',' :: Tree.compactMembers (member :: members)

theorem compact_members (member : String × Tree) (members : List (String × Tree)) :
    Tree.compactMembers (member :: members) = Tree.compactMember member ++ trailing members := by
  cases members with
  | nil => simp [Tree.compactMembers, trailing]
  | cons second rest => rfl

theorem compact_begins (member : String × Tree) :
    ∃ inner, Bytes.ofChars (Tree.compactMember member) = 34 :: inner := by
  obtain ⟨name, value⟩ := member
  have bytes := quoted_bytes name (Bytes.ofChars (':' :: Tree.compactChars value))
  rw [← Bytes.of_chars_append] at bytes
  exact ⟨_, bytes⟩

theorem trailing_ends (members : List (String × Tree)) (rest : Bytes) :
    Ends (Bytes.ofChars (trailing members) ++ 125 :: rest) := by
  cases members with
  | nil => exact .cons rfl (by decide) rfl
  | cons member members => exact .cons rfl (by decide) rfl

theorem trailing_length (members : List (String × Tree)) :
    members.length ≤ (Bytes.ofChars (trailing members)).length := by
  induction members with
  | nil => exact Nat.zero_le _
  | cons member members induction =>
      have comma : (String.utf8EncodeChar ',').length = 1 := rfl
      rw [trailing, compact_members, Bytes.of_chars_cons, Bytes.of_chars_append,
        List.length_append, List.length_append, List.length_cons, comma]
      omega

theorem takes_trailing (enters : Enters entry state members final) (fuel : Nat)
    (enough : members.length < fuel) :
    Takes (Reader.entriesFrom entry fuel false state)
      (Bytes.ofChars (trailing members) ++ 125 :: rest) final (125 :: rest) := by
  induction enters generalizing fuel with
  | nil state =>
      obtain ⟨fuel, rfl⟩ := Nat.exists_eq_add_of_le' (Nat.zero_lt_of_lt enough)
      exact .bind (takes_last_key Blank.nil) (.pure state _)
  | @cons state next final member members taken further induction =>
      rw [List.length_cons] at enough
      obtain ⟨fuel, rfl⟩ := Nat.exists_eq_add_of_le' (Nat.zero_lt_of_lt enough)
      have behind := induction fuel (by omega)
      have read := taken _ (trailing_ends members rest)
      obtain ⟨inner, bytes⟩ := compact_begins member
      have comma : String.utf8EncodeChar ',' = [44] := rfl
      rw [trailing, compact_members, Bytes.of_chars_cons, Bytes.of_chars_append, comma,
        List.append_assoc, List.append_assoc, List.singleton_append]
      rw [bytes, List.cons_append] at read ⊢
      refine .bind (takes_next_key Blank.nil) ?_
      simp only [if_true]
      exact .bind read behind

theorem takes_object_members (enters : Enters entry state members final) (fuel : Nat)
    (enough : members.length < fuel) :
    Takes (Reader.entriesFrom entry fuel true state)
      (Bytes.ofChars (Tree.compactMembers members) ++ 125 :: rest) final (125 :: rest) := by
  obtain ⟨fuel, rfl⟩ := Nat.exists_eq_add_of_le' (Nat.zero_lt_of_lt enough)
  cases enters with
  | nil => exact .bind (takes_last_key Blank.nil) (.pure state _)
  | @cons _ next _ member members taken further =>
      rw [List.length_cons] at enough
      have read := taken _ (trailing_ends members rest)
      obtain ⟨inner, bytes⟩ := compact_begins member
      rw [compact_members, Bytes.of_chars_append, List.append_assoc]
      rw [bytes, List.cons_append] at read ⊢
      refine .bind (takes_first_key Blank.nil) ?_
      simp only [if_true]
      exact .bind read (takes_trailing further fuel (by omega))

/-- The bytes that are left are enough steps for the members in them. -/
theorem members_length (members : List (String × Tree)) (rest : Bytes) :
    members.length < (Bytes.ofChars (Tree.compactMembers members) ++ 125 :: rest).length + 1 := by
  rw [List.length_append, List.length_cons]
  cases members with
  | nil => exact Nat.succ_pos _
  | cons member members =>
      have longer := trailing_length members
      rw [compact_members, Bytes.of_chars_append, List.length_append, List.length_cons]
      omega

theorem object_bytes (members : List (String × Tree)) (rest : Bytes) :
    Bytes.ofChars (Tree.compactChars (.object members)) ++ rest =
      123 :: (Bytes.ofChars (Tree.compactMembers members) ++ 125 :: rest) := by
  have opened : String.utf8EncodeChar '\x7b' = [123] := rfl
  have closed : Bytes.ofChars ['\x7d'] = [125] := rfl
  rw [Tree.compactChars, List.cons_append, Bytes.of_chars_cons, Bytes.of_chars_append, opened,
    closed, List.append_assoc, List.append_assoc]
  rfl

/-! Records. -/

variable {shape : Shape σ α} {value : α}

/-- A record on one line is understood from its members. -/
theorem understands_compact_record (enters : Enters shape.entry shape.blank members final)
    (finished : shape.finish final = .ok value) :
    Understands shape.read (Tree.compactChars (.object members)) value := by
  intro blanks rest blank ends
  rw [List.append_assoc, object_bytes]
  refine .bind (takes_value_start blank rfl) ?_
  simp only [if_true]
  refine takes_enclosed ?_ (takes_end_object rest)
  refine .bind (.remaining _)
    (.bind (takes_object_members enters _ (members_length members rest)) ?_)
  simp only [Shape.complete, finished]
  exact .pure value _

theorem takes_compact_field {name : String} {tree : Tree} {field : Field σ}
    (found : shape.fields.find? (·.name = name) = some field) (unset : field.isSet state = false)
    (understood : Understands (field.read state) (Tree.compactChars tree) next)
    (rest : Bytes) (ends : Ends rest) :
    Takes (shape.entry state) (Bytes.ofChars (Tree.compactMember (name, tree)) ++ rest) next
      rest := by
  have taken := takes_field Blank.nil found unset understood ends
  have colon : String.utf8EncodeChar ':' = [58] := rfl
  rw [List.nil_append] at taken
  rw [Tree.compactMember, Bytes.of_chars_append, Bytes.of_chars_cons, colon, List.append_assoc,
    List.append_assoc, List.singleton_append]
  exact taken

/-! Objects whose keys are numbers. -/

theorem digit_unescaped {char : Char} (digit : char.isDigit = true) :
    Tree.escape char = [char] := by
  simp only [Char.isDigit, Bool.and_eq_true, decide_eq_true_eq, UInt32.le_iff_toNat_le] at digit
  have least : 48 ≤ char.toNat := digit.1
  have apart (other : Char) (small : other.toNat < 48 ∨ 57 < other.toNat) : char ≠ other := by
    have most : char.toNat ≤ 57 := digit.2
    rintro rfl
    omega
  unfold Tree.escape
  rw [if_neg (apart '"' (by decide)), if_neg (apart '\\' (by decide)), if_neg (by omega),
    if_neg (by omega), if_neg (by omega), if_neg (by omega), if_neg (by omega), if_neg (by omega)]

/-- A number is written in digits, perhaps behind a sign, so that quotes leave it as it is. -/
theorem number_unescaped (number : Int) :
    (toString number).toList.flatMap Tree.escape = (toString number).toList := by
  have digits (size : Nat) :
      (Nat.toDigits 10 size).flatMap Tree.escape = Nat.toDigits 10 size := by
    have same : (Nat.toDigits 10 size).flatMap Tree.escape =
        (Nat.toDigits 10 size).flatMap fun char => [char] :=
      List.flatMap_congr fun char member =>
        digit_unescaped (Nat.isDigit_of_mem_toDigits (by decide) (by decide) member)
    rw [same, List.flatMap_singleton']
  cases number with
  | ofNat size =>
      have written : (toString (Int.ofNat size)).toList = Nat.toDigits 10 size :=
        number_written size
      rw [written, digits]
  | negSucc size =>
      rw [negative_written, List.flatMap_cons, digits]
      rfl

theorem number_begins (number : Int) : ∃ first more,
    Bytes.ofChars (toString number).toList = first :: more ∧
      (isDigit first = true ∨ first = 45) := by
  cases number with
  | ofNat size =>
      obtain ⟨first, more, written, digit, -⟩ := digits_written size
      have same : (toString (Int.ofNat size)).toList = Nat.toDigits 10 size := number_written size
      exact ⟨first, more, by rw [same, written], .inl digit⟩
  | negSucc size =>
      refine ⟨45, Bytes.ofChars (Nat.toDigits 10 (size + 1)), ?_, .inr rfl⟩
      rw [negative_written]
      rfl

theorem takes_numeric_key {reader : Reader κ} {key : κ} {number : Int}
    (understood : Understands reader (toString number).toList key) (rest : Bytes) :
    Takes (Reader.numericKey reader)
      (Bytes.ofChars (Tree.quoted (toString number)) ++ rest) key rest := by
  have ends : Ends (34 :: rest) := .cons rfl (by decide) rfl
  have taken := understood [] (34 :: rest) Blank.nil ends
  obtain ⟨first, more, written, numeric⟩ := number_begins number
  rw [quoted_bytes, number_unescaped]
  rw [List.nil_append, written, List.cons_append] at taken
  rw [written, List.cons_append]
  refine .bind (.skip_byte 34 _) (.bind (.peek _) ?_)
  simp only [List.head?_cons, if_pos numeric]
  refine .bind taken (.bind (.peek _) ?_)
  simp only [List.head?_cons, if_true]
  exact .bind (.skip_byte 34 _) (.pure key rest)

section

variable {keyReader : Reader κ} {reader : Reader α} {insert : κ → α → σ → σ} {key : κ}
  {number : Int} {tree : Tree}

theorem takes_numeric_entry (numbered : Understands keyReader (toString number).toList key)
    (understood : Understands reader (Tree.compactChars tree) value) (map : σ) (rest : Bytes)
    (ends : Ends rest) :
    Takes (do
        let number ← Reader.numericKey keyReader
        Reader.colon
        return insert number (← reader) map)
      (Bytes.ofChars (Tree.compactMember (toString number, tree)) ++ rest) (insert key value map)
      rest := by
  have colon : String.utf8EncodeChar ':' = [58] := rfl
  rw [Tree.compactMember, Bytes.of_chars_append, Bytes.of_chars_cons, colon, List.append_assoc,
    List.append_assoc, List.singleton_append]
  exact .bind (takes_numeric_key numbered _)
    (.bind (takes_colon _) (.bind (understood [] rest Blank.nil ends) (.pure _ rest)))

/-- An object with numeric keys is understood from its members. -/
theorem understands_number_map {empty : σ}
    (enters : Enters (fun map => do
      let number ← Reader.numericKey keyReader
      Reader.colon
      return insert number (← reader) map) empty members final) :
    Understands (Reader.numberMap keyReader reader insert empty)
      (Tree.compactChars (.object members)) final := by
  intro blanks rest blank ends
  rw [List.append_assoc, object_bytes]
  refine .bind (takes_value_start blank rfl) ?_
  simp only [if_true]
  refine takes_enclosed (.bind (.remaining _) ?_) (takes_end_object rest)
  exact takes_object_members enters _ (members_length members rest)

end

end CertRenewal.Json
