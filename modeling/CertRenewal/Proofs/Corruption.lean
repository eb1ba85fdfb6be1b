import CertRenewal.Proofs.Holdings
import CertRenewal.Proofs.Yields

/-!
What is made of the two documents of a store, whatever bytes are in their files. Keys that
are text but cannot be understood are deleted together with the certificate. A key file
that is not even text is passed over, and both files stay.
-/

namespace CertRenewal

namespace KeyDocument

/-- A text is the document of a key pair, both keys in Base64. -/
def Spells (content : Bytes) (keys : KeyPair) : Prop :=
  content.IsText ∧ ofBytes content = .ok (.ofKeys keys)

theorem keys_iff {document : KeyDocument} {keys : KeyPair} :
    document.keys? = some keys ↔ document = .ofKeys keys := by
  constructor
  · intro decoded
    obtain ⟨publicKey, first, behind⟩ := Option.bind_eq_some_iff.mp decoded
    obtain ⟨privateKey, second, joined⟩ := Option.bind_eq_some_iff.mp behind
    obtain rfl := Option.some.inj joined
    obtain ⟨publicText, privateText⟩ := document
    obtain rfl : publicText = _ := Base64.decode_text_iff.mp first
    obtain rfl : privateText = _ := Base64.decode_text_iff.mp second
    rfl
  · rintro rfl
    exact keys_of_keys keys

end KeyDocument

namespace CertificateDocument

open Json

/-- The times of a certificate that is read are numbers of 64 bits. -/
theorem document_numbers : Yields shape.read fun document =>
    document.validUntil ≤ Number.natLimit ∧ document.refreshTime ≤ Number.natLimit := by
  let Held (draft : Draft) : Prop :=
    (∀ time, draft.validUntil = some time → time ≤ Number.natLimit) ∧
      ∀ time, draft.refreshTime = some time → time ≤ Number.natLimit
  have blank : Held shape.blank := ⟨nofun, nofun⟩
  refine .record blank ?_ ?_
  · intro field member draft held
    simp only [shape, List.mem_cons, List.not_mem_nil, or_false] at member
    rcases member with rfl | rfl | rfl | rfl
    · exact .behind fun _ => .pure held
    · refine .bind (.natural Number.natLimit "u64") fun time small => .pure ⟨?_, held.2⟩
      rintro _ ⟨⟩
      exact small
    · refine .bind (.natural Number.natLimit "u64") fun time small => .pure ⟨held.1, ?_⟩
      rintro _ ⟨⟩
      exact small
    · exact .behind fun _ => .pure held
  · intro draft document held finished
    obtain ⟨certificate, validUntil, refreshTime, features⟩ := draft
    cases certificate <;> cases validUntil <;> cases refreshTime <;> cases finished
    exact ⟨held.1 _ rfl, held.2 _ rfl⟩

end CertificateDocument

/-- The clock can name a moment. -/
def Instant.IsNameable (instant : Instant) : Prop :=
  Instant.earliest ≤ instant ∧ instant ≤ Instant.latest

theorem Instant.of_epoch_millis_nameable {millis : Nat} (small : millis ≤ Json.Number.natLimit) :
    (Instant.ofEpochMillis millis).IsNameable := by
  unfold Json.Number.natLimit at small
  constructor
  · show (-9223372036854775808 * 1000000000 : Int) ≤ millis * 1000000
    omega
  · show (millis * 1000000 : Int) ≤ 9223372036854775807 * 1000000000 + 999999999
    omega

namespace DirectoryStore

variable {held : DirectoryStore} {content : Bytes}

theorem certificate_nameable {certificate : Certificate}
    (found : held.certificate = some certificate) :
    certificate.validUntil.IsNameable ∧ certificate.refreshTime.IsNameable := by
  obtain ⟨document, there, timed⟩ := Option.bind_eq_some_iff.mp found
  obtain ⟨bytes, -, understood⟩ := Option.bind_eq_some_iff.mp there
  cases read : CertificateDocument.ofBytes bytes with
  | error fault => simp [read, Except.toOption] at understood
  | ok same =>
      obtain rfl : same = document := by simpa [read, Except.toOption] using understood
      obtain ⟨valid, refresh⟩ := CertificateDocument.document_numbers.read_all read
      obtain ⟨bytes, -, made⟩ := Option.bind_eq_some_iff.mp timed
      obtain rfl := Option.some.inj made
      exact ⟨Instant.of_epoch_millis_nameable valid, Instant.of_epoch_millis_nameable refresh⟩

theorem read_keys_iff {keys : KeyPair} :
    readKeys content = some keys ↔ KeyDocument.ofBytes content = .ok (.ofKeys keys) := by
  unfold readKeys
  cases read : KeyDocument.ofBytes content with
  | error fault => simp [Except.toOption]
  | ok document => simp [Except.toOption, KeyDocument.keys_iff]

theorem read_text_of_text (file : held.tree.read held.keysPath = .ok content)
    (isText : content.IsText) : held.readText held.keysPath = some content := by
  simp only [readText, file, Bytes.text_found_iff.mpr isText, if_true]

theorem keys_of_spelled {keys : KeyPair} (file : held.tree.read held.keysPath = .ok content)
    (spells : KeyDocument.Spells content keys) : held.keys = (some keys, held) := by
  unfold DirectoryStore.keys
  simp only [read_text_of_text file spells.1, read_keys_iff.mpr spells.2]

theorem keys_of_broken (file : held.tree.read held.keysPath = .ok content)
    (isText : content.IsText) (broken : ∀ keys, ¬ KeyDocument.Spells content keys) :
    held.keys = (none, held.deleteKeys) := by
  have unknown : readKeys content = none := by
    by_contra known
    obtain ⟨keys, understood⟩ := Option.ne_none_iff_exists'.mp known
    exact broken keys ⟨isText, read_keys_iff.mp understood⟩
  unfold DirectoryStore.keys
  simp only [read_text_of_text file isText, unknown]

theorem keys_of_unreadable (file : held.tree.read held.keysPath = .ok content)
    (unreadable : ¬ content.IsText) : held.keys = (none, held) := by
  have passed : held.readText held.keysPath = none := by
    simp only [readText, file]
    rw [if_neg (mt Bytes.text_found_iff.mp unreadable)]
  unfold DirectoryStore.keys
  simp only [passed]

/-- What is left when the keys were deleted. -/
structure Bared (held after : DirectoryStore) : Prop where
  keys : after.tree.get? held.keysPath = none
  certificate : after.tree.get? held.certificatePath = none
  others : ∀ path, path ≠ held.keysPath → path ≠ held.certificatePath →
    after.tree.get? path = held.tree.get? path
  unread : after.keys = (none, after) ∧ after.certificate = none ∧ after.features = none

/-- The way to the certificate stays free when the keys are removed. -/
theorem certificate_way (clear : held.tree.obstacle held.keysPath = none)
    (others : ∀ other, other ≠ held.keysPath →
      (held.tree.remove held.keysPath).get? other = held.tree.get? other) :
    (held.tree.remove held.keysPath).obstacle held.certificatePath = none := by
  have same : (held.tree.remove held.keysPath).obstacle held.certificatePath =
      held.tree.obstacle held.certificatePath := by
    refine FileTree.obstacle_congr fun other shorter => others other ?_
    rintro rfl
    simp [keysPath, certificatePath] at shorter
  rw [same, ← clear]
  exact FileTree.obstacle_beside held.directory "certificate.json" "keys.json"

/-- Nothing is read where neither document is there. -/
theorem unread_of_absent (keys : held.tree.get? held.keysPath = none)
    (certificate : held.tree.get? held.certificatePath = none) :
    held.keys = (none, held) ∧ held.certificate = none ∧ held.features = none := by
  have keyless : held.readText held.keysPath = none := read_text_absent (FileTree.read_absent keys)
  have bare : held.readText held.certificatePath = none :=
    read_text_absent (FileTree.read_absent certificate)
  have document : held.certificateDocument = none := by
    unfold certificateDocument
    exact congrArg (Option.bind · _) bare
  obtain ⟨none, still⟩ : held.keys.1 = none ∧ _ := keys_absent keyless
  refine ⟨Prod.ext none still.keys, certificate_absent bare, ?_⟩
  simp only [DirectoryStore.features, document, Option.bind_eq_bind, Option.bind_none]

theorem keys_deleted (file : held.tree.read held.keysPath = .ok content)
    (beside : held.tree.get? held.certificatePath ≠ some .directory) :
    Bared held held.deleteKeys := by
  obtain ⟨keysNamed, -, apart, certificateNamed, -⟩ := held.keys_elsewhere
  have clear := FileTree.clear_of_read file
  have regular : held.tree.get? held.keysPath ≠ some .directory := by
    intro directory
    simp [FileTree.read, clear, directory] at file
  obtain ⟨gone, others⟩ := FileTree.get_removed keysNamed clear regular
  have still : (held.tree.remove held.keysPath).get? held.certificatePath ≠ some .directory := by
    rw [others _ apart.symm]
    exact beside
  obtain ⟨alsoGone, rest⟩ :=
    FileTree.get_removed certificateNamed (certificate_way clear others) still
  have keys : held.deleteKeys.tree.get? held.keysPath = none := (rest _ apart).trans gone
  refine ⟨keys, alsoGone, fun path notKeys notCertificate => ?_, unread_of_absent keys alsoGone⟩
  exact (rest path notCertificate).trans (others path notKeys)

/-- What a look at the two documents comes to. -/
structure DocumentsRead (held : DirectoryStore) (content : Bytes) : Prop where
  /-- A key pair is found exactly when the key file is text that spells it. -/
  found : ∀ keys, held.keys.1 = some keys ↔ KeyDocument.Spells content keys
  kept : ∀ keys, KeyDocument.Spells content keys → held.keys = (some keys, held)
  /-- Text that spells no key pair is deleted, and the certificate with it. -/
  broken : content.IsText → (∀ keys, ¬ KeyDocument.Spells content keys) →
    held.keys.1 = none ∧ Bared held held.keys.2
  /-- What is no text is passed over. -/
  unreadable : ¬ content.IsText → held.keys = (none, held)
  /-- A certificate is read without a change to the store, and the clock can name its times. -/
  certificate : (Store.directory held).perform .readCertificate =
      (.certificate held.certificate, .directory held) ∧
    ∀ certificate, held.certificate = some certificate →
      certificate.validUntil.IsNameable ∧ certificate.refreshTime.IsNameable
  features : (Store.directory held).perform .readFeatures =
    (.features held.features, .directory held)

/-- Keys that cannot be understood take the certificate with them, as long as their file
is text. -/
theorem broken_keys_take_certificate (held : DirectoryStore) (content : Bytes)
    (file : held.tree.read held.keysPath = .ok content)
    (beside : held.tree.get? held.certificatePath ≠ some .directory) :
    held.DocumentsRead content where
  found keys := by
    constructor
    · intro found
      by_cases isText : content.IsText
      · by_cases spelled : ∃ other, KeyDocument.Spells content other
        · obtain ⟨other, spells⟩ := spelled
          rw [keys_of_spelled file spells] at found
          exact Option.some.inj found ▸ spells
        · rw [keys_of_broken file isText (not_exists.mp spelled)] at found
          cases found
      · rw [keys_of_unreadable file isText] at found
        cases found
    · intro spells
      rw [keys_of_spelled file spells]
  kept keys := keys_of_spelled file
  broken isText broken := by
    rw [keys_of_broken file isText broken]
    exact ⟨rfl, keys_deleted file beside⟩
  unreadable := keys_of_unreadable file
  certificate := ⟨rfl, fun _ => certificate_nameable⟩
  features := rfl

/-- A store with a certificate, and a key file with the given bytes. -/
def withKeyFile (content : Bytes) : DirectoryStore where
  directory := []
  tree := ⟨[(["keys.json"], .file content), (["certificate.json"],
    .file (CertificateDocument.ofCertificate ⟨[1], ⟨0⟩, ⟨0⟩⟩ none).toBytes)]⟩

/-- Where an empty object stands in place of the keys, both files are deleted. -/
theorem empty_keys_deleted :
    (withKeyFile (Bytes.ofText "\x7b\x7d")).keys.1 = none ∧
      Bared (withKeyFile (Bytes.ofText "\x7b\x7d"))
        (withKeyFile (Bytes.ofText "\x7b\x7d")).keys.2 := by
  refine (broken_keys_take_certificate _ _ rfl (by decide)).broken ⟨_, rfl⟩ ?_
  rintro keys ⟨-, spelled⟩
  cases spelled

/-- A byte that belongs to no text stands in place of the keys. They are not found, but
both files stay, and the certificate is still given. -/
theorem unreadable_keys_stay :
    (withKeyFile [0xFF]).keys = (none, withKeyFile [0xFF]) ∧
      (withKeyFile [0xFF]).keys.2.certificate = some ⟨[1], ⟨0⟩, ⟨0⟩⟩ := by
  constructor
  · rfl
  · decide +kernel

end DirectoryStore

end CertRenewal
