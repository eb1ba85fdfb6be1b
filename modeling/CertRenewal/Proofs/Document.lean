import CertRenewal.Proofs.Base64
import CertRenewal.Proofs.Writing
import CertRenewal.Store.Document

/-!
A record that is written with each member on a line of its own is read back. So are
the features and the documents of a key pair and of a certificate.
-/

namespace CertRenewal.Json

variable {α β σ : Type} {reader : Reader α} {written : List Char} {value : α}
  {blanks rest more : Bytes} {byte : UInt8} {text : String}

theorem Understands.map (understood : Understands reader written value) (change : α → β) :
    Understands (do return change (← reader)) written (change value) := by
  intro blanks rest blank ends
  exact .bind (understood blanks rest blank ends) (.pure _ rest)

theorem Understands.optional (understood : Understands reader written value)
    (begins : Begins written byte) (present : byte ≠ 110) :
    Understands (Reader.optional reader) written (some value) := by
  intro blanks rest blank ends
  obtain ⟨solid, more, bytes⟩ := begins
  have taken := understood [] rest Blank.nil ends
  rw [List.nil_append, bytes, List.cons_append] at taken
  rw [List.append_assoc, bytes, List.cons_append]
  refine .bind (takes_peek_token blank solid) ?_
  simp only [if_neg present]
  exact .bind taken (.pure _ rest)

theorem understands_variant {variants : List (String × α)} {name : String}
    (known : variants.lookup name = some value) :
    Understands (Reader.variant variants) (Tree.quoted name) value := by
  intro blanks rest blank ends
  rw [List.append_assoc, quoted_bytes]
  refine .bind (takes_value_start blank rfl) ?_
  simp only [if_neg (by decide : ¬ (34 : UInt8) = 123), if_true]
  refine .bind (takes_value_start Blank.nil rfl) ?_
  simp only [if_true]
  refine .bind (.skip_byte 34 _) (.bind (takes_string_body name rest) ?_)
  simp only [known]
  exact .pure value rest

theorem takes_enclosed {inside : Reader α} {close : Reader Unit} {inner : Bytes}
    (taken : Takes inside more value inner) (closed : Takes close inner () rest) :
    Takes (Reader.enclosed inside close) (byte :: more) value rest := by
  refine .settled (.bind (.skip_byte byte _) (.bind taken.attempt (.bind closed.attempt ?_)))
  exact .bind (.resume value rest) (.bind (.resume () rest) (.pure value rest))

theorem takes_end_object (rest : Bytes) : Takes Reader.endObject (125 :: rest) () rest := by
  refine .bind (takes_peek_token Blank.nil rfl) ?_
  simp only [if_true]
  exact .skip_byte 125 rest

def following (depth : Nat) : List (String × Tree) → List Char
  | [] => []
  | member :: members => ',' :: Tree.prettyMembers depth (member :: members)

theorem pretty_members (depth : Nat) (member : String × Tree) (members : List (String × Tree)) :
    Tree.prettyMembers depth (member :: members) =
      Tree.newLine depth ++ Tree.prettyMember depth member ++ following depth members := by
  cases members with
  | nil => simp [Tree.prettyMembers, following]
  | cons second rest => rfl

theorem new_line_blank (depth : Nat) : Blank (Bytes.ofChars (Tree.newLine depth)) := by
  intro byte member
  simp only [Tree.newLine, Bytes.ofChars, List.mem_flatMap, List.mem_cons, List.mem_replicate]
    at member
  obtain ⟨char, rfl | ⟨_, rfl⟩, inside⟩ := member
  · rw [List.mem_singleton.mp inside]
    rfl
  · rw [List.mem_singleton.mp inside]
    rfl

theorem Ends.of_blank (ends : Ends rest) (blank : Blank blanks) : Ends (blanks ++ rest) := by
  cases blanks with
  | nil => exact ends
  | cons byte blanks =>
      have isBlank := blank byte List.mem_cons_self
      simp only [Json.isBlank, Bool.or_eq_true, decide_eq_true_eq] at isBlank
      rcases isBlank with ((rfl | rfl) | rfl) | rfl <;> exact .cons rfl (by decide) rfl

/-- Members, one after another, take a state of reading to another one. -/
inductive Fills (shape : Shape σ α) : σ → List (String × Tree) → σ → Prop
  | nil (state : σ) : Fills shape state [] state
  | cons {state next final : σ} {name : String} {value : Tree}
      {members : List (String × Tree)} (field : Field σ)
      (found : shape.fields.find? (·.name = name) = some field)
      (unset : field.isSet state = false)
      (understood : ∀ depth, Understands (field.read state) (Tree.prettyChars depth value) next)
      (further : Fills shape next members final) :
      Fills shape state ((name, value) :: members) final

variable {shape : Shape σ α} {state next final : σ} {members : List (String × Tree)}

/-- A field is read from its name on, with blanks before its value or without. -/
theorem takes_field {name : String} {field : Field σ} (blank : Blank blanks)
    (found : shape.fields.find? (·.name = name) = some field) (unset : field.isSet state = false)
    (understood : Understands (field.read state) written next) (ends : Ends rest) :
    Takes (shape.entry state)
      (Bytes.ofChars (Tree.quoted name) ++ 58 :: (blanks ++ Bytes.ofChars written ++ rest)) next
      rest := by
  rw [quoted_bytes]
  refine .bind (.skip_byte 34 _) (.bind (takes_string_body name _) ?_)
  simp only [found, unset, Bool.false_eq_true, if_false]
  exact .bind (takes_colon _) (.within (.field name) (understood blanks rest blank ends))

theorem takes_entry {name : String} {value : Tree} {field : Field σ}
    (found : shape.fields.find? (·.name = name) = some field) (unset : field.isSet state = false)
    (depth : Nat) (understood : Understands (field.read state) (Tree.prettyChars depth value) next)
    (ends : Ends rest) :
    Takes (shape.entry state) (Bytes.ofChars (Tree.prettyMember depth (name, value)) ++ rest) next
      rest := by
  have blank : Blank [32] := by
    intro byte member
    rw [List.mem_singleton.mp member]
    rfl
  have taken := takes_field blank found unset understood ends
  have bytes : Bytes.ofChars (Tree.prettyMember depth (name, value)) ++ rest =
      Bytes.ofChars (Tree.quoted name) ++
        58 :: ([32] ++ Bytes.ofChars (Tree.prettyChars depth value) ++ rest) := by
    rw [Tree.prettyMember, Bytes.of_chars_append, List.append_assoc]
    rfl
  rw [bytes]
  exact taken

theorem member_begins (depth : Nat) (member : String × Tree) :
    ∃ inner, Bytes.ofChars (Tree.prettyMember depth member) = 34 :: inner := by
  obtain ⟨name, value⟩ := member
  have bytes := quoted_bytes name (Bytes.ofChars (':' :: ' ' :: Tree.prettyChars depth value))
  rw [← Bytes.of_chars_append] at bytes
  exact ⟨_, bytes⟩

theorem takes_first_key (blank : Blank blanks) :
    Takes (Reader.anotherKey true) (blanks ++ 34 :: more) true (34 :: more) := by
  refine .bind (takes_peek_token blank rfl) ?_
  simp only [if_neg (by decide : ¬ (34 : UInt8) = 125), if_true]
  exact .pure true _

theorem takes_next_key (blank : Blank blanks) :
    Takes (Reader.anotherKey false) (44 :: (blanks ++ 34 :: more)) true (34 :: more) := by
  refine .bind (takes_peek_token Blank.nil rfl) ?_
  simp only [if_neg (by decide : ¬ (44 : UInt8) = 125), Bool.false_eq_true, if_false, if_true]
  refine .bind (.skip_byte 44 _) (.bind (takes_peek_token blank rfl) ?_)
  simp only [if_true]
  exact .pure true _

theorem takes_last_key {first : Bool} (blank : Blank blanks) :
    Takes (Reader.anotherKey first) (blanks ++ 125 :: rest) false (125 :: rest) := by
  refine .bind (takes_peek_token blank rfl) ?_
  simp only [if_true]
  exact .pure false _

theorem takes_member {name : String} {value : Tree} {field : Field σ} {first : Bool}
    (found : shape.fields.find? (·.name = name) = some field) (unset : field.isSet state = false)
    (depth fuel : Nat)
    (understood : Understands (field.read state) (Tree.prettyChars depth value) next)
    (ends : Ends more)
    (another : ∀ inner, Takes (Reader.anotherKey first) (blanks ++ 34 :: inner) true (34 :: inner))
    (further : Takes (Reader.entriesFrom shape.entry fuel false next) more final rest) :
    Takes (Reader.entriesFrom shape.entry (fuel + 1) first state)
      (blanks ++ (Bytes.ofChars (Tree.prettyMember depth (name, value)) ++ more)) final rest := by
  have entry := takes_entry found unset depth understood ends
  obtain ⟨inner, bytes⟩ := member_begins depth (name, value)
  rw [bytes, List.cons_append] at entry ⊢
  refine .bind (another _) ?_
  simp only [if_true]
  exact .bind entry further

theorem following_ends (depth : Nat) (members : List (String × Tree)) (blank : Blank blanks) :
    Ends (Bytes.ofChars (following depth members) ++ (blanks ++ 125 :: rest)) := by
  cases members with
  | nil =>
      have ends : Ends (125 :: rest) := .cons rfl (by decide) rfl
      exact ends.of_blank blank
  | cons member members =>
      have ends : Ends (44 :: (Bytes.ofChars (Tree.prettyMembers depth (member :: members)) ++
        (blanks ++ 125 :: rest))) := .cons rfl (by decide) rfl
      exact ends

theorem takes_following (fills : Fills shape state members final) (depth fuel : Nat)
    (blank : Blank blanks) (enough : members.length < fuel) :
    Takes (Reader.entriesFrom shape.entry fuel false state)
      (Bytes.ofChars (following depth members) ++ (blanks ++ 125 :: rest)) final (125 :: rest) := by
  obtain ⟨fuel, rfl⟩ := Nat.exists_eq_add_of_le' (by omega : 1 ≤ fuel)
  induction fills generalizing fuel with
  | nil state => exact .bind (takes_last_key blank) (.pure state _)
  | @cons state next final name value members field found unset understood further induction =>
      rw [List.length_cons] at enough
      obtain ⟨fuel, rfl⟩ := Nat.exists_eq_add_of_le' (by omega : 1 ≤ fuel)
      have behind := induction fuel (by omega)
      have taken := @takes_member _ _ (44 :: Bytes.ofChars (Tree.newLine depth)) _ _ _ _ _ _ _ _ _
        false found unset depth (fuel + 1) (understood depth)
        (following_ends depth members blank) (fun inner => takes_next_key (new_line_blank depth))
        behind
      have bytes : Bytes.ofChars (following depth ((name, value) :: members)) =
          44 :: Bytes.ofChars (Tree.newLine depth) ++
            (Bytes.ofChars (Tree.prettyMember depth (name, value)) ++
              Bytes.ofChars (following depth members)) := by
        rw [following, pretty_members, Bytes.of_chars_cons, Bytes.of_chars_append,
          Bytes.of_chars_append, List.append_assoc]
        rfl
      rw [bytes, List.append_assoc, List.append_assoc]
      exact taken

theorem takes_members {name : String} {value : Tree}
    (fills : Fills shape state ((name, value) :: members) final) (depth fuel : Nat)
    (blank : Blank blanks) (enough : members.length < fuel) :
    Takes (Reader.entriesFrom shape.entry (fuel + 1) true state)
      (Bytes.ofChars (Tree.prettyMembers depth ((name, value) :: members)) ++
        (blanks ++ 125 :: rest)) final (125 :: rest) := by
  rw [pretty_members, Bytes.of_chars_append, Bytes.of_chars_append, List.append_assoc,
    List.append_assoc]
  cases fills with
  | cons field found unset understood further =>
      exact takes_member found unset depth fuel (understood depth)
        (following_ends depth members blank) (fun inner => takes_first_key (new_line_blank depth))
        (takes_following further depth fuel blank enough)

theorem following_length (depth : Nat) (members : List (String × Tree)) :
    members.length ≤ (Bytes.ofChars (following depth members)).length := by
  induction members with
  | nil => exact Nat.zero_le _
  | cons member members induction =>
      have comma : (String.utf8EncodeChar ',').length = 1 := rfl
      rw [following, pretty_members, Bytes.of_chars_cons, Bytes.of_chars_append,
        List.length_append, List.length_append, List.length_cons, comma]
      omega

theorem Fills.append {others : List (String × Tree)} {last : σ}
    (fills : Fills shape state members next) (more : Fills shape next others last) :
    Fills shape state (members ++ others) last := by
  induction fills with
  | nil => exact more
  | cons field found unset understood further induction =>
      exact .cons field found unset understood (induction more)

theorem Fills.single {name : String} {value : Tree} (field : Field σ)
    (found : shape.fields.find? (·.name = name) = some field) (unset : field.isSet state = false)
    (understood : ∀ depth, Understands (field.read state) (Tree.prettyChars depth value) next) :
    Fills shape state [(name, value)] next :=
  .cons field found unset understood (.nil next)

/-- A record is understood from its members. -/
theorem understands_record {members : List (String × Tree)}
    (fills : Fills shape shape.blank members final) (named : members ≠ [])
    (finished : shape.finish final = .ok value) (depth : Nat) :
    Understands shape.read (Tree.prettyChars depth (.object members)) value := by
  intro blanks rest blank ends
  obtain ⟨⟨name, tree⟩, members, rfl⟩ := List.exists_cons_of_ne_nil named
  have bytes : Bytes.ofChars (Tree.prettyChars depth (.object ((name, tree) :: members))) ++ rest =
      123 :: (Bytes.ofChars (Tree.prettyMembers (depth + 1) ((name, tree) :: members)) ++
        (Bytes.ofChars (Tree.newLine depth) ++ 125 :: rest)) := by
    have close : Bytes.ofChars ['\x7d'] = [125] := rfl
    rw [Tree.prettyChars, List.append_assoc, List.cons_append, Bytes.of_chars_cons,
      Bytes.of_chars_append, Bytes.of_chars_append, close]
    simp only [List.append_assoc]
    rfl
  rw [List.append_assoc, bytes]
  refine .bind (takes_value_start blank rfl) ?_
  simp only [if_true]
  refine takes_enclosed ?_ (takes_end_object rest)
  -- the bytes left are the fuel, and every member takes at least one
  refine .bind (.remaining _)
    (.bind (takes_members fills (depth + 1) _ (new_line_blank depth) ?_) ?_)
  · have longer := following_length (depth + 1) members
    rw [pretty_members, Bytes.of_chars_append]
    simp only [List.length_append, List.length_cons]
    omega
  · simp only [Shape.complete, finished]
    exact .pure value _

theorem read_all_written (understood : Understands reader written value) :
    readAll reader (Bytes.ofChars written) = .ok value := by
  have taken := understood [] [] Blank.nil Ends.nil
  rw [List.nil_append, List.append_nil] at taken
  have last : Takes Reader.peekToken [] none [] := fun index => ⟨index, rfl⟩
  exact Takes.outcome (.bind taken.settled (.bind last (.pure value [])))

end CertRenewal.Json

namespace CertRenewal

open Json

theorem shield_known (level : ShieldLevel) :
    (ShieldLevel.all.map fun level => (level.name, level)).lookup level.name = some level := by
  cases level <;> decide

theorem nat_known (mode : NatMode) :
    (NatMode.all.map fun mode => (mode.name, mode)).lookup mode.name = some mode := by
  cases mode <;> decide

theorem features_filled (features : Features) :
    Fills Features.shape Features.shape.blank
      ([("netshield", .text features.shield.name),
        ("vpn_accelerator", .bool features.accelerator),
        ("nat_type", .text features.nat.name)]
        ++ Tree.member? "bouncing" (features.bouncing.map .text)
        ++ Tree.member? "safe_mode" (features.safeMode.map .bool))
      ⟨some features.shield, some features.accelerator, some features.nat,
        features.bouncing.map some, features.safeMode.map some⟩ := by
  obtain ⟨shield, accelerator, nat, bouncing, safeMode⟩ := features
  let named : Features.Draft := ⟨some shield, some accelerator, some nat, none, none⟩
  let bounced : Features.Draft := { named with bouncing := bouncing.map some }
  have always : Fills Features.shape Features.shape.blank
      [("netshield", .text shield.name), ("vpn_accelerator", .bool accelerator),
        ("nat_type", .text nat.name)] named :=
    .cons _ rfl rfl (fun _ => (understands_variant (shield_known shield)).map
        fun shield => (⟨some shield, none, none, none, none⟩ : Features.Draft))
      (.cons _ rfl rfl (fun _ => (understands_bool accelerator).map
          fun accelerator => (⟨some shield, some accelerator, none, none, none⟩ : Features.Draft))
        (.cons _ rfl rfl (fun _ => (understands_variant (nat_known nat)).map
          fun nat => (⟨some shield, some accelerator, some nat, none, none⟩ : Features.Draft))
          (.nil _)))
  have bounces : Fills Features.shape named (Tree.member? "bouncing" (bouncing.map .text))
      bounced := by
    cases bouncing with
    | none => exact .nil _
    | some target =>
        refine .single _ rfl rfl fun _ => ?_
        exact ((understands_string target).optional (quoted_begins target) (by decide)).map
          fun bouncing => { named with bouncing := some bouncing }
  refine (always.append bounces).append ?_
  cases safeMode with
  | none => exact .nil _
  | some mode =>
      obtain ⟨byte, present, begins⟩ := bool_begins mode
      refine .single _ rfl rfl fun _ => ?_
      exact ((understands_bool mode).optional begins present).map
        fun safeMode => { bounced with safeMode := some safeMode }

theorem understands_features (features : Features) (depth : Nat) :
    Understands Features.shape.read (Tree.prettyChars depth features.toTree) features := by
  refine understands_record (features_filled features) (List.cons_ne_nil _ _) ?_ depth
  obtain ⟨shield, accelerator, nat, bouncing, safeMode⟩ := features
  cases bouncing <;> cases safeMode <;> rfl

theorem features_begin (features : Features) (depth : Nat) :
    Begins (Tree.prettyChars depth features.toTree) 123 := ⟨rfl, _, rfl⟩

theorem certificate_filled (document : CertificateDocument)
    (valid : document.validUntil ≤ Number.natLimit)
    (refresh : document.refreshTime ≤ Number.natLimit) :
    Fills CertificateDocument.shape CertificateDocument.shape.blank
      ([("certificate", .text document.certificate),
        ("valid_until_ms", .number document.validUntil),
        ("refresh_time_ms", .number document.refreshTime)]
        ++ Tree.member? "features" (document.features.map Features.toTree))
      ⟨some document.certificate, some document.validUntil, some document.refreshTime,
        document.features.map some⟩ := by
  obtain ⟨certificate, validUntil, refreshTime, features⟩ := document
  let timed : CertificateDocument.Draft :=
    ⟨some certificate, some validUntil, some refreshTime, none⟩
  have always : Fills CertificateDocument.shape CertificateDocument.shape.blank
      [("certificate", .text certificate), ("valid_until_ms", .number validUntil),
        ("refresh_time_ms", .number refreshTime)] timed :=
    .cons _ rfl rfl (fun _ => (understands_string certificate).map
        fun certificate => (⟨some certificate, none, none, none⟩ : CertificateDocument.Draft))
      (.cons _ rfl rfl (fun _ => (understands_natural _ _ validUntil valid (Nat.le_refl _)).map
          fun valid => (⟨some certificate, some valid, none, none⟩ : CertificateDocument.Draft))
        (.cons _ rfl rfl (fun _ => (understands_natural _ _ refreshTime refresh (Nat.le_refl _)).map
          fun refresh => (⟨some certificate, some validUntil, some refresh, none⟩ :
            CertificateDocument.Draft)) (.nil _)))
  refine always.append ?_
  cases features with
  | none => exact .nil _
  | some features =>
      refine .single _ rfl rfl fun depth => ?_
      exact ((understands_features features depth).optional (features_begin features depth)
        (by decide)).map fun features => { timed with features := some features }

/-- The document of a certificate is read back from the bytes of its file. -/
theorem CertificateDocument.of_bytes_to_bytes (document : CertificateDocument)
    (valid : document.validUntil ≤ Number.natLimit)
    (refresh : document.refreshTime ≤ Number.natLimit) :
    ofBytes document.toBytes = .ok document := by
  rw [toBytes, Tree.pretty, Bytes.of_text_chars]
  refine read_all_written (understands_record (certificate_filled document valid refresh)
    (List.cons_ne_nil _ _) ?_ 0)
  obtain ⟨certificate, validUntil, refreshTime, features⟩ := document
  cases features <;> rfl

theorem CertificateDocument.text_to_bytes (document : CertificateDocument) :
    (Bytes.text? document.toBytes).isSome = true := by
  rw [toBytes, Tree.pretty, Bytes.of_text_chars, Bytes.text_encoded]
  rfl

theorem keys_filled (document : KeyDocument) :
    Fills KeyDocument.shape KeyDocument.shape.blank
      [("public_key", .text document.publicKey), ("private_key", .text document.privateKey)]
      ⟨some document.publicKey, some document.privateKey⟩ :=
  .cons _ rfl rfl (fun _ => (understands_string document.publicKey).map
      fun publicKey => (⟨some publicKey, none⟩ : KeyDocument.Draft))
    (.cons _ rfl rfl (fun _ => (understands_string document.privateKey).map
      fun privateKey => (⟨some document.publicKey, some privateKey⟩ : KeyDocument.Draft))
      (.nil _))

/-- The document of a key pair is read back from the bytes of its file. -/
theorem KeyDocument.of_bytes_to_bytes (document : KeyDocument) :
    ofBytes document.toBytes = .ok document := by
  rw [toBytes, Tree.pretty, Bytes.of_text_chars]
  exact read_all_written (understands_record (keys_filled document) (List.cons_ne_nil _ _) rfl 0)

theorem KeyDocument.text_to_bytes (document : KeyDocument) :
    (Bytes.text? document.toBytes).isSome = true := by
  rw [toBytes, Tree.pretty, Bytes.of_text_chars, Bytes.text_encoded]
  rfl

theorem KeyDocument.keys_of_keys (keys : KeyPair) : (ofKeys keys).keys? = some keys := by
  simp [keys?, ofKeys, Base64.decode_text_encode_text]

/-- What a moment is read back as once it was written. -/
def Instant.persisted (instant : Instant) : Instant := ofEpochMillis instant.epochMillis

/-- A moment that whole milliseconds since the epoch in 64 bits can name, or that lies
less than one behind such a moment. -/
def Instant.IsNamed (instant : Instant) : Prop :=
  0 ≤ instant.nanos ∧ instant.nanos < 18446744073709551616 * 1000000

/-- The last whole millisecond up to a moment. -/
def Instant.floorMillis (instant : Instant) : Instant := ⟨instant.nanos / 1000000 * 1000000⟩

theorem Instant.IsNamed.persisted {instant : Instant} (named : instant.IsNamed) :
    instant.persisted = instant.floorMillis := by
  obtain ⟨after, before⟩ := named
  have count : ((instant.nanos.toNat / 1000000 : Nat) : Int) = instant.nanos / 1000000 := by omega
  have small : instant.nanos.toNat / 1000000 < 18446744073709551616 := by omega
  unfold Instant.persisted ofEpochMillis epochMillis floorMillis
  rw [Nat.mod_eq_of_lt small, count]

/-- A certificate whose times a document can hold. -/
def Certificate.IsTimed (certificate : Certificate) : Prop :=
  certificate.validUntil.IsNamed ∧ certificate.refreshTime.IsNamed

/-- A certificate with its times in whole milliseconds. -/
def Certificate.floorMillis (certificate : Certificate) : Certificate :=
  { certificate with
    validUntil := certificate.validUntil.floorMillis
    refreshTime := certificate.refreshTime.floorMillis }

/-- What a certificate is read back as once it was written. -/
def Certificate.persisted (certificate : Certificate) : Certificate :=
  { certificate with
    validUntil := certificate.validUntil.persisted
    refreshTime := certificate.refreshTime.persisted }

/-- A moment that whole milliseconds since the epoch in 64 bits name. -/
def Instant.IsWhole (instant : Instant) : Prop :=
  ∃ millis, millis < 18446744073709551616 ∧ instant = .ofEpochMillis millis

theorem Instant.IsWhole.named {instant : Instant} (whole : instant.IsWhole) : instant.IsNamed := by
  obtain ⟨millis, small, rfl⟩ := whole
  simp only [IsNamed, ofEpochMillis]
  omega

theorem Instant.IsWhole.floor_millis {instant : Instant} (whole : instant.IsWhole) :
    instant.floorMillis = instant := by
  obtain ⟨millis, -, rfl⟩ := whole
  simp [floorMillis, ofEpochMillis]

def Certificate.IsWhole (certificate : Certificate) : Prop :=
  certificate.validUntil.IsWhole ∧ certificate.refreshTime.IsWhole

theorem Certificate.IsWhole.timed {certificate : Certificate} (whole : certificate.IsWhole) :
    certificate.IsTimed :=
  ⟨whole.1.named, whole.2.named⟩

theorem Certificate.IsWhole.floor_millis {certificate : Certificate}
    (whole : certificate.IsWhole) : certificate.floorMillis = certificate := by
  simp only [Certificate.floorMillis, whole.1.floor_millis, whole.2.floor_millis]

theorem Certificate.IsTimed.persisted {certificate : Certificate} (timed : certificate.IsTimed) :
    certificate.persisted = certificate.floorMillis := by
  simp only [Certificate.persisted, Certificate.floorMillis, timed.1.persisted, timed.2.persisted]

theorem CertificateDocument.certificate_persisted (certificate : Certificate)
    (features : Option Features) :
    (ofCertificate certificate features).certificate? = some certificate.persisted := by
  simp [certificate?, ofCertificate, Base64.decode_text_encode_text, Certificate.persisted,
    Instant.persisted]

theorem CertificateDocument.certificate_of_certificate {certificate : Certificate}
    (features : Option Features) (timed : certificate.IsTimed) :
    (ofCertificate certificate features).certificate? = some certificate.floorMillis := by
  rw [certificate_persisted, timed.persisted]

end CertRenewal
