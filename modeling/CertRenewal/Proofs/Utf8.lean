import CertRenewal.Bytes

/-!
Text that was encoded is read back. The first character of encoded text is found
whatever follows it, and bytes of characters outside of ASCII are not ASCII. Bytes that
are read as text are the ones that this text is encoded in.
-/

namespace CertRenewal.Bytes

def ofChars (chars : List Char) : Bytes := chars.flatMap String.utf8EncodeChar

theorem of_chars_cons (char : Char) (chars : List Char) :
    ofChars (char :: chars) = String.utf8EncodeChar char ++ ofChars chars := rfl

theorem of_chars_append (first second : List Char) :
    ofChars (first ++ second) = ofChars first ++ ofChars second := List.flatMap_append

theorem of_text_chars (chars : List Char) : ofText (String.ofList chars) = ofChars chars := by
  simp [ofText, ofChars]

theorem byte_number {number : Nat} (small : number < 256) :
    (UInt8.ofNat number).toNat = number := by
  simp only [UInt8.toNat_ofNat']
  omega

theorem tail_iff (byte : UInt8) : isTail byte = true ↔ 0x80 ≤ byte.toNat ∧ byte.toNat ≤ 0xBF := by
  simp [isTail, UInt8.le_iff_toNat_le]

/-- The byte that continues a character with the six lowest bits of a number. -/
theorem tail_number (number : Nat) :
    (UInt8.ofNat (number % 64 + 128)).toNat = number % 64 + 128 := byte_number (by omega)

variable {first second third fourth : UInt8} {rest : Bytes}

theorem lead_one (most : first.toNat ≤ 0x7F) : lead? first = some (1, 0x80, 0xBF) := by
  simp [lead?, UInt8.le_iff_toNat_le, most]

theorem lead_two (least : 0xC2 ≤ first.toNat) (most : first.toNat ≤ 0xDF) :
    lead? first = some (2, 0x80, 0xBF) := by
  simp only [lead?, UInt8.le_iff_toNat_le, UInt8.lt_iff_toNat_lt, UInt8.reduceToNat]
  rw [if_neg (by omega), if_neg (by omega), if_pos most]

/-- The second byte of three is narrowed down where a shorter form or a surrogate
would come out. -/
theorem lead_three (least : 0xE0 ≤ first.toNat) (most : first.toNat ≤ 0xEF) :
    ∃ low high, lead? first = some (3, low, high) ∧
      (isTail second = true → (first.toNat = 0xE0 → 0xA0 ≤ second.toNat) →
        (first.toNat = 0xED → second.toNat ≤ 0x9F) → low ≤ second ∧ second ≤ high) := by
  simp only [lead?, UInt8.le_iff_toNat_le, UInt8.lt_iff_toNat_lt, tail_iff, ← UInt8.toNat_inj,
    UInt8.reduceToNat]
  rw [if_neg (by omega), if_neg (by omega), if_neg (by omega)]
  by_cases shortest : first.toNat = 0xE0
  · rw [if_pos shortest]
    refine ⟨0xA0, 0xBF, rfl, ?_⟩
    intro tail narrow _
    simp only [UInt8.reduceToNat]
    exact ⟨narrow shortest, tail.2⟩
  · rw [if_neg shortest]
    by_cases surrogate : first.toNat = 0xED
    · rw [if_pos surrogate]
      refine ⟨0x80, 0x9F, rfl, ?_⟩
      intro tail _ narrow
      simp only [UInt8.reduceToNat]
      exact ⟨tail.1, narrow surrogate⟩
    · rw [if_neg surrogate, if_pos most]
      exact ⟨0x80, 0xBF, rfl, fun tail _ _ => tail⟩

theorem lead_four (least : 0xF0 ≤ first.toNat) (most : first.toNat ≤ 0xF4) :
    ∃ low high, lead? first = some (4, low, high) ∧
      (isTail second = true → (first.toNat = 0xF0 → 0x90 ≤ second.toNat) →
        (first.toNat = 0xF4 → second.toNat ≤ 0x8F) → low ≤ second ∧ second ≤ high) := by
  simp only [lead?, UInt8.le_iff_toNat_le, UInt8.lt_iff_toNat_lt, tail_iff, ← UInt8.toNat_inj,
    UInt8.reduceToNat]
  rw [if_neg (by omega), if_neg (by omega), if_neg (by omega), if_neg (by omega),
    if_neg (by omega), if_neg (by omega)]
  by_cases shortest : first.toNat = 0xF0
  · rw [if_pos shortest]
    refine ⟨0x90, 0xBF, rfl, ?_⟩
    intro tail narrow _
    simp only [UInt8.reduceToNat]
    exact ⟨narrow shortest, tail.2⟩
  · rw [if_neg shortest]
    by_cases last : first.toNat = 0xF4
    · rw [if_neg (by omega), if_pos last]
      refine ⟨0x80, 0x8F, rfl, ?_⟩
      intro tail _ narrow
      simp only [UInt8.reduceToNat]
      exact ⟨tail.1, narrow last⟩
    · rw [if_pos (by omega)]
      exact ⟨0x80, 0xBF, rfl, fun tail _ _ => tail⟩

variable {low high : UInt8}

theorem next_char_two (lead : lead? first = some (2, low, high))
    (within : low ≤ second ∧ second ≤ high) :
    nextChar (first :: second :: rest) =
      some (.ok (Char.ofNat (joinTail (first.toNat % 32) second), rest)) := by
  simp [nextChar, lead, within]

theorem next_char_three (lead : lead? first = some (3, low, high))
    (within : low ≤ second ∧ second ≤ high) (tail : isTail third = true) :
    nextChar (first :: second :: third :: rest) =
      some (.ok (Char.ofNat (joinTail (joinTail (first.toNat % 16) second) third), rest)) := by
  simp [nextChar, lead, within, tail]

theorem next_char_four (lead : lead? first = some (4, low, high))
    (within : low ≤ second ∧ second ≤ high) (tail : isTail third = true)
    (last : isTail fourth = true) :
    nextChar (first :: second :: third :: fourth :: rest) =
      some (.ok (Char.ofNat
        (joinTail (joinTail (joinTail (first.toNat % 8) second) third) fourth), rest)) := by
  simp [nextChar, lead, within, tail, last]

theorem tail_of_number (number : Nat) : isTail (UInt8.ofNat (number % 64 + 128)) = true := by
  rw [tail_iff, tail_number]
  omega

theorem next_char_encoded (char : Char) (rest : Bytes) :
    nextChar (String.utf8EncodeChar char ++ rest) = some (.ok (char, rest)) := by
  have valid : char.toNat < 0xD800 ∨ 0xDFFF < char.toNat ∧ char.toNat < 0x110000 := char.valid
  have back : Char.ofNat char.toNat = char := Char.ofNat_toNat char
  have same : char.val.toNat = char.toNat := rfl
  unfold String.utf8EncodeChar
  simp only [same]
  generalize char.toNat = code at *
  -- one case for each length of the encoding, from one byte to four
  split
  · have first := @byte_number code (by omega)
    rw [List.singleton_append, nextChar, lead_one (by omega)]
    simp only [if_true, first, back]
  split
  · have first := @byte_number (code / 64 % 32 + 192) (by omega)
    have tail := (tail_iff _).mp (tail_of_number code)
    have joined :
        joinTail ((code / 64 % 32 + 192) % 32) (UInt8.ofNat (code % 64 + 128)) = code := by
      rw [joinTail, tail_number]
      omega
    have found := @next_char_two _ (UInt8.ofNat (code % 64 + 128)) rest 0x80 0xBF
      (@lead_two (UInt8.ofNat (code / 64 % 32 + 192)) (by omega) (by omega)) tail
    rw [first, joined, back] at found
    exact found
  split
  · have first := @byte_number (code / 4096 % 16 + 224) (by omega)
    have second := tail_number (code / 64)
    obtain ⟨low, high, lead, within⟩ := @lead_three (UInt8.ofNat (code / 4096 % 16 + 224))
      (UInt8.ofNat (code / 64 % 64 + 128)) (by omega) (by omega)
    have joined : joinTail (joinTail ((code / 4096 % 16 + 224) % 16)
        (UInt8.ofNat (code / 64 % 64 + 128))) (UInt8.ofNat (code % 64 + 128)) = code := by
      rw [joinTail, joinTail, second, tail_number]
      omega
    have found := @next_char_three _ _ _ rest low high lead
      (within (tail_of_number _) (by omega) (by omega)) (tail_of_number code)
    rw [first, joined, back] at found
    exact found
  · have first := @byte_number (code / 262144 % 8 + 240) (by omega)
    have second := tail_number (code / 4096)
    have third := tail_number (code / 64)
    obtain ⟨low, high, lead, within⟩ := @lead_four (UInt8.ofNat (code / 262144 % 8 + 240))
      (UInt8.ofNat (code / 4096 % 64 + 128)) (by omega) (by omega)
    have joined : joinTail (joinTail (joinTail ((code / 262144 % 8 + 240) % 8)
        (UInt8.ofNat (code / 4096 % 64 + 128))) (UInt8.ofNat (code / 64 % 64 + 128)))
          (UInt8.ofNat (code % 64 + 128)) = code := by
      rw [joinTail, joinTail, joinTail, second, third, tail_number]
      omega
    have found := @next_char_four _ _ _ _ rest low high lead
      (within (tail_of_number _) (by omega) (by omega)) (tail_of_number (code / 64))
      (tail_of_number code)
    rw [first, joined, back] at found
    exact found

theorem encoded_length (char : Char) : 1 ≤ (String.utf8EncodeChar char).length :=
  List.length_pos_iff.mpr String.utf8EncodeChar_ne_nil

theorem read_chars_encoded (chars : List Char) (fuel : Nat) (read : List Char)
    (enough : (ofChars chars).length ≤ fuel) :
    readChars? fuel (ofChars chars) read = some (read.reverse ++ chars) := by
  induction chars generalizing fuel read with
  | nil =>
      rw [List.append_nil]
      cases fuel <;> rfl
  | cons char chars induction =>
      have longer := encoded_length char
      rw [of_chars_cons, List.length_append] at enough
      obtain ⟨fuel, rfl⟩ := Nat.exists_eq_add_of_le' (Nat.le_trans longer (by omega : _ ≤ fuel))
      rw [of_chars_cons, readChars?, next_char_encoded]
      simp only
      rw [induction fuel (char :: read) (by omega), List.reverse_cons, List.append_assoc,
        List.singleton_append]

theorem text_encoded (chars : List Char) : text? (ofChars chars) = some (String.ofList chars) := by
  rw [text?, read_chars_encoded chars _ [] (Nat.le_refl _)]
  rfl

/-- Bytes of a character that are ASCII are its only ones. -/
theorem encoded_bytes (char : Char) :
    String.utf8EncodeChar char = [UInt8.ofNat char.toNat] ∧ char.toNat < 128 ∨
      128 ≤ char.toNat ∧ ∀ byte ∈ String.utf8EncodeChar char, 128 ≤ byte.toNat := by
  have same : char.val.toNat = char.toNat := rfl
  unfold String.utf8EncodeChar
  simp only [same]
  generalize char.toNat = code at *
  split
  · exact .inl ⟨rfl, by omega⟩
  · right
    refine ⟨by omega, ?_⟩
    split
    · simp
      omega
    split
    · simp
      omega
    · simp
      omega

/-! Bytes that can be read as text. -/

/-- What the first byte of a character says of the bytes behind it. -/
inductive Led (first : UInt8) : Nat → UInt8 → UInt8 → Prop
  | one (most : first.toNat ≤ 0x7F) : Led first 1 0x80 0xBF
  | two (least : 0xC2 ≤ first.toNat) (most : first.toNat ≤ 0xDF) : Led first 2 0x80 0xBF
  | three {low high : UInt8} (least : 0xE0 ≤ first.toNat) (most : first.toNat ≤ 0xEF)
      (tail : 0x80 ≤ low.toNat ∧ high.toNat ≤ 0xBF)
      (shortest : first.toNat = 0xE0 → 0xA0 ≤ low.toNat)
      (surrogate : first.toNat = 0xED → high.toNat ≤ 0x9F) : Led first 3 low high
  | four {low high : UInt8} (least : 0xF0 ≤ first.toNat) (most : first.toNat ≤ 0xF4)
      (tail : 0x80 ≤ low.toNat ∧ high.toNat ≤ 0xBF)
      (shortest : first.toNat = 0xF0 → 0x90 ≤ low.toNat)
      (last : first.toNat = 0xF4 → high.toNat ≤ 0x8F) : Led first 4 low high

theorem led_of_lead {size : Nat} (lead : lead? first = some (size, low, high)) :
    Led first size low high := by
  simp only [lead?, UInt8.le_iff_toNat_le, UInt8.lt_iff_toNat_lt, ← UInt8.toNat_inj,
    UInt8.reduceToNat] at lead
  split at lead
  · cases lead
    exact .one ‹_›
  split at lead
  · cases lead
  split at lead
  · cases lead
    exact .two (by omega) ‹_›
  split at lead
  · cases lead
    exact .three (by omega) (by omega) (by decide) (fun _ => by decide) (fun _ => by omega)
  split at lead
  · cases lead
    exact .three (by omega) (by omega) (by decide) (fun _ => by omega) (fun _ => by decide)
  split at lead
  · cases lead
    exact .three (by omega) (by omega) (by decide) (fun _ => by omega) (fun _ => by omega)
  split at lead
  · cases lead
    exact .four (by omega) (by omega) (by decide) (fun _ => by decide) (fun _ => by omega)
  split at lead
  · cases lead
    exact .four (by omega) (by omega) (by decide) (fun _ => by omega) (fun _ => by omega)
  split at lead
  · cases lead
    exact .four (by omega) (by omega) (by decide) (fun _ => by omega) (fun _ => by decide)
  · cases lead

theorem char_number {code : Nat} (valid : code < 0xD800 ∨ 0xDFFF < code ∧ code < 0x110000) :
    (Char.ofNat code).val.toNat = code := by
  have isValid : code.isValidChar := valid
  rw [Char.ofNat, dif_pos isValid]
  rfl

theorem byte_of_number {byte : UInt8} {number : Nat} (same : number = byte.toNat) :
    UInt8.ofNat number = byte := by
  rw [same, UInt8.ofNat_toNat]

theorem encoded_one (most : first.toNat ≤ 0x7F) :
    String.utf8EncodeChar (Char.ofNat first.toNat) = [first] := by
  have number := @char_number first.toNat (by omega)
  simp only [String.utf8EncodeChar, number]
  rw [if_pos most, byte_of_number rfl]

theorem encoded_two (least : 0xC2 ≤ first.toNat) (most : first.toNat ≤ 0xDF)
    (tail : isTail second = true) :
    String.utf8EncodeChar (Char.ofNat (joinTail (first.toNat % 32) second)) = [first, second] := by
  obtain ⟨lower, upper⟩ := (tail_iff second).mp tail
  have number := @char_number (joinTail (first.toNat % 32) second) (by rw [joinTail]; omega)
  simp only [String.utf8EncodeChar, number]
  rw [joinTail, if_neg (by omega), if_pos (by omega), @byte_of_number first _ (by omega),
    @byte_of_number second _ (by omega)]

theorem encoded_three (least : 0xE0 ≤ first.toNat) (most : first.toNat ≤ 0xEF)
    (tail : isTail second = true) (shortest : first.toNat = 0xE0 → 0xA0 ≤ second.toNat)
    (surrogate : first.toNat = 0xED → second.toNat ≤ 0x9F) (last : isTail third = true) :
    String.utf8EncodeChar
      (Char.ofNat (joinTail (joinTail (first.toNat % 16) second) third)) =
        [first, second, third] := by
  obtain ⟨lower, upper⟩ := (tail_iff second).mp tail
  obtain ⟨low, high⟩ := (tail_iff third).mp last
  have number := @char_number (joinTail (joinTail (first.toNat % 16) second) third)
    (by rw [joinTail, joinTail]; omega)
  simp only [String.utf8EncodeChar, number]
  rw [joinTail, joinTail, if_neg (by omega), if_neg (by omega), if_pos (by omega),
    @byte_of_number first _ (by omega), @byte_of_number second _ (by omega),
    @byte_of_number third _ (by omega)]

theorem encoded_four (least : 0xF0 ≤ first.toNat) (most : first.toNat ≤ 0xF4)
    (tail : isTail second = true) (shortest : first.toNat = 0xF0 → 0x90 ≤ second.toNat)
    (final : first.toNat = 0xF4 → second.toNat ≤ 0x8F) (next : isTail third = true)
    (last : isTail fourth = true) :
    String.utf8EncodeChar (Char.ofNat
      (joinTail (joinTail (joinTail (first.toNat % 8) second) third) fourth)) =
        [first, second, third, fourth] := by
  obtain ⟨lower, upper⟩ := (tail_iff second).mp tail
  obtain ⟨low, high⟩ := (tail_iff third).mp next
  obtain ⟨floor, ceiling⟩ := (tail_iff fourth).mp last
  have number := @char_number (joinTail (joinTail (joinTail (first.toNat % 8) second) third) fourth)
    (by rw [joinTail, joinTail, joinTail]; omega)
  simp only [String.utf8EncodeChar, number]
  rw [joinTail, joinTail, joinTail, if_neg (by omega), if_neg (by omega), if_neg (by omega),
    @byte_of_number first _ (by omega), @byte_of_number second _ (by omega),
    @byte_of_number third _ (by omega), @byte_of_number fourth _ (by omega)]

/-- A byte that goes on with a character is there and within its bounds. -/
theorem continued {α : Type} {bytes : Bytes} {allowed : UInt8 → Bool} {broken : Nat}
    {further : UInt8 → Bytes → Option (Except Nat α)} {result : α}
    (found : (match bytes with
      | [] => some (.error broken)
      | byte :: rest => if ! allowed byte then some (.error broken) else further byte rest) =
        some (.ok result)) :
    ∃ byte rest, bytes = byte :: rest ∧ allowed byte = true ∧
      further byte rest = some (.ok result) := by
  cases bytes with
  | nil => cases found
  | cons byte rest =>
      cases fits : allowed byte with
      | false => simp [fits] at found
      | true => exact ⟨byte, rest, rfl, fits, by simpa [fits] using found⟩

/-- The first character that is found is in the bytes as it would be written. -/
theorem encoded_of_next_char {bytes rest : Bytes} {char : Char}
    (found : nextChar bytes = some (.ok (char, rest))) :
    bytes = String.utf8EncodeChar char ++ rest := by
  cases bytes with
  | nil => cases found
  | cons first more =>
      cases lead : lead? first with
      | none => simp [nextChar, lead] at found
      | some told =>
          obtain ⟨size, low, high⟩ := told
          simp only [nextChar, lead] at found
          cases led_of_lead lead with
          | one most =>
              simp only [if_true, Option.some.injEq, Except.ok.injEq, Prod.mk.injEq] at found
              obtain ⟨rfl, rfl⟩ := found
              rw [encoded_one most, List.singleton_append]
          | two least most =>
              rw [if_neg (by decide)] at found
              obtain ⟨second, more, rfl, within, found⟩ := continued found
              have tail : isTail second = true := within
              cases found
              rw [encoded_two least most tail]
              rfl
          | three least most bounds shortest surrogate =>
              rw [if_neg (by decide)] at found
              obtain ⟨second, more, rfl, within, found⟩ := continued found
              rw [if_neg (by decide)] at found
              obtain ⟨third, more, rfl, last, found⟩ := continued found
              simp only [Bool.and_eq_true, decide_eq_true_eq, UInt8.le_iff_toNat_le] at within
              have tail : isTail second = true := (tail_iff second).mpr (by omega)
              cases found
              rw [encoded_three least most tail (by omega) (by omega) last]
              rfl
          | four least most bounds shortest final =>
              rw [if_neg (by decide)] at found
              obtain ⟨second, more, rfl, within, found⟩ := continued found
              rw [if_neg (by decide)] at found
              obtain ⟨third, more, rfl, next, found⟩ := continued found
              rw [if_neg (by decide)] at found
              obtain ⟨fourth, more, rfl, last, found⟩ := continued found
              simp only [Bool.and_eq_true, decide_eq_true_eq, UInt8.le_iff_toNat_le] at within
              have tail : isTail second = true := (tail_iff second).mpr (by omega)
              cases found
              rw [encoded_four least most tail (by omega) (by omega) next last]
              rfl

theorem next_char_end {bytes : Bytes} (found : nextChar bytes = none) : bytes = [] := by
  cases bytes with
  | nil => rfl
  | cons first more =>
      exfalso
      cases lead : lead? first with
      | none => simp [nextChar, lead] at found
      | some told =>
          simp only [nextChar, lead] at found
          repeat' split at found
          all_goals cases found

theorem chars_read {fuel : Nat} {bytes : Bytes} {read chars : List Char}
    (enough : bytes.length ≤ fuel) (found : readChars? fuel bytes read = some chars) :
    ∃ more, chars = read.reverse ++ more ∧ bytes = ofChars more := by
  induction fuel generalizing bytes read with
  | zero =>
      obtain rfl := Option.some.inj found
      exact ⟨[], (List.append_nil _).symm, List.length_eq_zero_iff.mp (Nat.le_zero.mp enough)⟩
  | succ fuel induction =>
      unfold readChars? at found
      split at found
      · rename_i ended
        obtain rfl := Option.some.inj found
        exact ⟨[], (List.append_nil _).symm, next_char_end ended⟩
      · cases found
      · rename_i char rest next
        obtain rfl := encoded_of_next_char next
        have longer := encoded_length char
        rw [List.length_append] at enough
        obtain ⟨more, rfl, rfl⟩ := induction (by omega) found
        exact ⟨char :: more, by simp, rfl⟩

/-- Bytes that are read as a text are the ones that it is written with. -/
theorem text_iff {bytes : Bytes} {text : String} :
    text? bytes = some text ↔ bytes = ofText text := by
  constructor
  · intro found
    obtain ⟨chars, read, rfl⟩ := Option.map_eq_some_iff.mp found
    obtain ⟨more, same, rfl⟩ := chars_read (Nat.le_refl _) read
    rw [of_text_chars, same]
    rfl
  · rintro rfl
    have chars : ofText text = ofChars text.toList := rfl
    rw [chars, text_encoded, String.ofList_toList]

/-- Some bytes are a text. -/
def IsText (bytes : Bytes) : Prop := ∃ text, bytes = ofText text

theorem text_found_iff {bytes : Bytes} : (text? bytes).isSome = true ↔ bytes.IsText := by
  rw [Option.isSome_iff_exists]
  exact exists_congr fun _ => text_iff

/-- Two texts that are written with the same bytes are the same. -/
theorem of_text_injective {first second : String} (same : ofText first = ofText second) :
    first = second :=
  Option.some.inj ((text_iff.mpr rfl).symm.trans (text_iff.mpr same))

theorem of_chars_injective {first second : List Char} (same : ofChars first = ofChars second) :
    first = second := by
  rw [← of_text_chars, ← of_text_chars] at same
  exact String.ofList_injective (of_text_injective same)

/-- A character beyond ASCII is written with a byte that begins one, and bytes beyond ASCII
behind it. -/
theorem encoded_beyond {char : Char} (beyond : 128 ≤ char.toNat) : ∃ first rest,
    String.utf8EncodeChar char = first :: rest ∧ 0xC0 ≤ first.toNat ∧
      ∀ byte ∈ rest, 128 ≤ byte.toNat := by
  have bytes := ((encoded_bytes char).resolve_left fun ⟨_, low⟩ => by omega).2
  have read := next_char_encoded char []
  rw [List.append_nil] at read
  cases encoded : String.utf8EncodeChar char with
  | nil => exact absurd encoded String.utf8EncodeChar_ne_nil
  | cons first rest =>
      rw [encoded] at bytes read
      refine ⟨first, rest, rfl, ?_, fun byte member => bytes byte (List.mem_cons_of_mem _ member)⟩
      cases lead : lead? first with
      | none => simp [nextChar, lead] at read
      | some told =>
          obtain ⟨size, low, high⟩ := told
          have beyond := bytes first List.mem_cons_self
          cases led_of_lead lead <;> omega

/-- Where nothing is broken nothing is repaired. -/
theorem repaired_of_read {fuel : Nat} {bytes : Bytes} {read chars : List Char}
    (found : readChars? fuel bytes read = some chars) : repairChars fuel bytes read = chars := by
  induction fuel generalizing bytes read with
  | zero => exact Option.some.inj found
  | succ fuel induction =>
      unfold readChars? at found
      unfold repairChars
      split at found
      · exact Option.some.inj found
      · cases found
      · exact induction found

/-- A text is read as itself also where other bytes would be repaired. -/
theorem lossy_text_of_text (text : String) : lossyText (ofText text) = text := by
  have chars : ofText text = ofChars text.toList := rfl
  rw [lossyText, chars, repaired_of_read (read_chars_encoded text.toList _ [] (Nat.le_refl _))]
  exact String.ofList_toList

/-- A character of repaired bytes is written with bytes among them, if it does not stand for
broken ones. -/
theorem mem_repaired {fuel : Nat} {bytes : Bytes} {read : List Char} {char : Char}
    (member : char ∈ repairChars fuel bytes read) :
    char ∈ read ∨ char = '\uFFFD' ∨ ∀ byte ∈ String.utf8EncodeChar char, byte ∈ bytes := by
  induction fuel generalizing bytes read with
  | zero => exact .inl (List.mem_reverse.mp member)
  | succ fuel induction =>
      unfold repairChars at member
      split at member
      · exact .inl (List.mem_reverse.mp member)
      · rename_i broken found
        rcases induction member with before | replaced | inside
        · rcases List.mem_cons.mp before with itself | before
          · exact .inr (.inl itself)
          · exact .inl before
        · exact .inr (.inl replaced)
        · exact .inr (.inr fun byte among => List.mem_of_mem_drop (inside byte among))
      · rename_i next rest found
        have whole := encoded_of_next_char found
        rcases induction member with before | replaced | inside
        · rcases List.mem_cons.mp before with rfl | before
          · refine .inr (.inr fun byte among => ?_)
            rw [whole]
            exact List.mem_append_left _ among
          · exact .inl before
        · exact .inr (.inl replaced)
        · refine .inr (.inr fun byte among => ?_)
          rw [whole]
          exact List.mem_append_right _ (inside byte among)

end CertRenewal.Bytes
