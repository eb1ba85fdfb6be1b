import CertRenewal.Proofs.Keeping

/-!
A store in a directory behaves as one in memory. What is kept of the slots in memory is
two documents, and each call replaces, removes or reads one of them.
-/

namespace CertRenewal

/-- The calls on a store. It may be opened again at any time, and finds what was left. -/
inductive StoreCall
  | store (certificate : Certificate) (features : Option Features)
  | storeKeys (keys : KeyPair)
  | deleteKeys
  | deleteCertificate
  | readCertificate
  | readKeys
  | readFeatures
  | reopen
deriving DecidableEq, Repr

inductive StoreReply
  | nothing
  | stored (result : Except FileFault Unit)
  | certificate (held : Option Certificate)
  | keys (held : Option KeyPair)
  | features (held : Option Features)

/-- The times that a call brings are whole milliseconds. -/
def StoreCall.IsWhole : StoreCall → Prop
  | .store certificate _ => certificate.IsWhole
  | _ => True

namespace Store

/-- A store that is opened anew has the files that the one before it left. -/
def reopened : Store → Store
  | memory slots => memory slots
  | directory store => directory ⟨store.directory, store.tree⟩

def perform (self : Store) : StoreCall → StoreReply × Store
  | .store certificate features =>
    let (result, after) := self.store certificate features
    (.stored result, after)
  | .storeKeys keys =>
    let (result, after) := self.storeKeys keys
    (.stored result, after)
  | .deleteKeys => (.nothing, self.deleteKeys)
  | .deleteCertificate => (.nothing, self.deleteCertificate)
  | .readCertificate => (.certificate self.certificate, self)
  | .readKeys =>
    let (keys, after) := self.keys
    (.keys keys, after)
  | .readFeatures => (.features self.features, self)
  | .reopen => (.nothing, self.reopened)

def replies : Store → List StoreCall → List StoreReply
  | _, [] => []
  | self, call :: calls => (self.perform call).1 :: (self.perform call).2.replies calls

end Store

namespace Slots

/-- What a file of a store holds, by its name. -/
def document? (slots : Slots) (name : String) : Option Bytes :=
  if name = "keys.json" then slots.keys.map fun keys => (KeyDocument.ofKeys keys).toBytes
  else if name = "certificate.json" then
    slots.certificate.map fun certificate =>
      (CertificateDocument.ofCertificate certificate slots.features).toBytes
  else none

theorem document_text {slots : Slots} {name : String} {content : Bytes}
    (found : slots.document? name = some content) : (Bytes.text? content).isSome = true := by
  unfold document? at found
  split at found
  · obtain ⟨keys, -, rfl⟩ := Option.map_eq_some_iff.mp found
    exact KeyDocument.text_to_bytes _
  · split at found
    · obtain ⟨certificate, -, rfl⟩ := Option.map_eq_some_iff.mp found
      exact CertificateDocument.text_to_bytes _
    · cases found

variable (slots : Slots) (name : String)

theorem document_store (certificate : Certificate) (features : Option Features) :
    (slots.store certificate features).document? name =
      if name = "certificate.json" then
        some (CertificateDocument.ofCertificate certificate features).toBytes
      else slots.document? name := by
  by_cases itself : name = "certificate.json"
  · simp [document?, store, itself]
  · simp only [document?, store, if_neg itself]

theorem document_store_keys (keys : KeyPair) :
    (slots.storeKeys keys).document? name =
      if name = "keys.json" then some (KeyDocument.ofKeys keys).toBytes
      else slots.document? name := by
  by_cases itself : name = "keys.json"
  · simp [document?, storeKeys, itself]
  · simp only [document?, storeKeys, if_neg itself]

theorem document_delete_certificate :
    slots.deleteCertificate.document? name =
      if name = "certificate.json" then none else slots.document? name := by
  by_cases itself : name = "certificate.json"
  · simp [document?, deleteCertificate, itself]
  · simp only [document?, deleteCertificate, if_neg itself]

/-- Without a certificate no features are recorded, and the times are whole
milliseconds. -/
structure IsKept (slots : Slots) : Prop where
  bare : slots.certificate = none → slots.features = none
  whole : ∀ certificate, slots.certificate = some certificate → certificate.IsWhole

theorem kept_of_bare {slots : Slots} (absent : slots.certificate = none)
    (bare : slots.features = none) : slots.IsKept where
  bare _ := bare
  whole certificate found := by
    rw [absent] at found
    cases found

end Slots

namespace DirectoryStore

/-- The directory holds the documents of the slots and nothing else. It is there as soon
as one of them is. -/
structure Mirrors (slots : Slots) (store : DirectoryStore) : Prop where
  passable : store.tree.Passable store.directory
  documents : ∀ name,
    store.tree.get? (store.directory ++ [name]) = (slots.document? name).map .file
  reached : ∀ name content, slots.document? name = some content →
    store.tree.Reaches store.directory

variable {slots after : Slots} {store : DirectoryStore} {name draft : String} {content : Bytes}

theorem Mirrors.read_text (mirrors : Mirrors slots store) (name : String) :
    store.readText (store.directory ++ [name]) = slots.document? name := by
  have there := mirrors.documents name
  unfold readText FileTree.read
  cases found : slots.document? name with
  | none =>
      rw [found] at there
      cases store.tree.obstacle (store.directory ++ [name]) <;> simp [there]
  | some content =>
      have clear := (mirrors.reached name content found).clear name
      rw [found] at there
      simp [clear, there, Slots.document_text found]

theorem Mirrors.no_directory (mirrors : Mirrors slots store) (name : String) :
    store.tree.get? (store.directory ++ [name]) ≠ some .directory := by
  rw [mirrors.documents]
  cases slots.document? name <;> simp

theorem Mirrors.replaced (mirrors : Mirrors slots store) (different : draft ≠ name)
    (undrafted : slots.document? draft = none)
    (changed : ∀ other, after.document? other =
      if other = name then some content else slots.document? other) :
    ∃ tree, replace store.tree store.directory (store.directory ++ [draft])
        (store.directory ++ [name]) content = (.ok (), tree) ∧
      Mirrors after ⟨store.directory, tree⟩ := by
  obtain ⟨tree, replaced, reached, gets⟩ := replace_passable content mirrors.passable different
    (mirrors.no_directory draft) (mirrors.no_directory name)
  refine ⟨tree, replaced, ⟨reached.passable, fun other => ?_, fun _ _ _ => reached⟩⟩
  rw [gets, changed]
  by_cases itself : other = name
  · simp only [if_pos itself, Option.map_some]
  · simp only [if_neg itself]
    by_cases drafted : other = draft
    · rw [if_pos drafted, drafted, undrafted]
      rfl
    · rw [if_neg drafted]
      exact mirrors.documents other

theorem Mirrors.removed (mirrors : Mirrors slots store)
    (changed : ∀ other, after.document? other =
      if other = name then none else slots.document? other) :
    Mirrors after ⟨store.directory, store.tree.remove (store.directory ++ [name])⟩ := by
  have there := mirrors.documents name
  cases found : slots.document? name with
  | none =>
      have same (other : String) : after.document? other = slots.document? other := by
        rw [changed]
        split
        · rename_i itself
          rw [itself, found]
        · rfl
      rw [found] at there
      rw [FileTree.remove_absent there]
      refine ⟨mirrors.passable, fun other => ?_, fun other content held => ?_⟩
      · rw [same]
        exact mirrors.documents other
      · rw [same] at held
        exact mirrors.reached other content held
  | some content =>
      have reached := mirrors.reached name content found
      rw [found] at there
      rw [FileTree.remove_file (reached.clear name) there]
      have still := reached.erase name
      refine ⟨still.passable, fun other => ?_, fun _ _ _ => still⟩
      rw [FileTree.get_erase _ (by simp), changed]
      by_cases itself : other = name
      · simp [itself]
      · rw [if_neg itself, if_neg (by simpa using itself)]
        exact mirrors.documents other

theorem Mirrors.keys (mirrors : Mirrors slots store) : store.keys = (slots.keys, store) := by
  have text := mirrors.read_text "keys.json"
  unfold DirectoryStore.keys keysPath
  rw [text]
  cases held : slots.keys with
  | none => simp [Slots.document?, held]
  | some keys =>
      have document : slots.document? "keys.json" = some (KeyDocument.ofKeys keys).toBytes := by
        simp [Slots.document?, held]
      have understood : readKeys (KeyDocument.ofKeys keys).toBytes = some keys := by
        simp [readKeys, KeyDocument.of_bytes_to_bytes, Except.toOption, KeyDocument.keys_of_keys]
      simp only [document, understood]

theorem Mirrors.certificate_document (mirrors : Mirrors slots store) :
    store.certificateDocument =
      slots.certificate.map fun certificate => .ofCertificate certificate slots.features := by
  have text := mirrors.read_text "certificate.json"
  cases held : slots.certificate with
  | none =>
      have absent : slots.document? "certificate.json" = none := by simp [Slots.document?, held]
      unfold certificateDocument certificatePath
      rw [text, absent]
      rfl
  | some certificate =>
      apply certificate_document_of_text
      unfold certificatePath
      rw [text]
      simp [Slots.document?, held]

theorem Mirrors.certificate (mirrors : Mirrors slots store) (kept : slots.IsKept) :
    store.certificate = slots.certificate := by
  unfold DirectoryStore.certificate
  rw [mirrors.certificate_document]
  cases held : slots.certificate with
  | none => rfl
  | some certificate =>
      have whole := kept.whole certificate held
      simp [CertificateDocument.certificate_of_certificate _ whole.timed, whole.floor_millis]

theorem Mirrors.features (mirrors : Mirrors slots store) (kept : slots.IsKept) :
    store.features = slots.features := by
  unfold DirectoryStore.features
  rw [mirrors.certificate_document]
  cases held : slots.certificate with
  | none => simp [kept.bare held]
  | some certificate => rfl

theorem Mirrors.stored (mirrors : Mirrors slots store) (certificate : Certificate)
    (features : Option Features) :
    ∃ written, store.store certificate features = (.ok (), written) ∧
      Mirrors (slots.store certificate features) written := by
  obtain ⟨tree, replaced, mirrored⟩ := mirrors.replaced (by decide : "certificate.tmp" ≠ _) rfl
    (slots.document_store · certificate features)
  refine ⟨⟨store.directory, tree⟩, ?_, mirrored⟩
  unfold DirectoryStore.store certificateDraftPath certificatePath
  rw [replaced]

theorem Mirrors.keys_stored (mirrors : Mirrors slots store) (keys : KeyPair) :
    ∃ written, store.storeKeys keys = (.ok (), written) ∧
      Mirrors (slots.storeKeys keys) written := by
  obtain ⟨tree, replaced, mirrored⟩ := mirrors.replaced (by decide : "keys.tmp" ≠ _) rfl
    (slots.document_store_keys · keys)
  refine ⟨⟨store.directory, tree⟩, ?_, mirrored⟩
  unfold DirectoryStore.storeKeys keysDraftPath keysPath
  rw [replaced]

theorem Mirrors.certificate_deleted (mirrors : Mirrors slots store) :
    Mirrors slots.deleteCertificate store.deleteCertificate :=
  mirrors.removed slots.document_delete_certificate

/-- The keys go first, and the certificate with them. -/
theorem Mirrors.keys_deleted (mirrors : Mirrors slots store) :
    Mirrors slots.deleteKeys store.deleteKeys := by
  have keyless : Mirrors { slots with keys := none }
      ⟨store.directory, store.tree.remove store.keysPath⟩ := by
    refine mirrors.removed fun other => ?_
    by_cases itself : other = "keys.json"
    · simp [Slots.document?, itself]
    · simp only [Slots.document?, if_neg itself]
  exact keyless.certificate_deleted

theorem Mirrors.of_empty {tree : FileTree} {directory : Path} (passable : tree.Passable directory)
    (empty : ∀ name, tree.get? (directory ++ [name]) = none) :
    Mirrors .empty ⟨directory, tree⟩ := by
  have none (name : String) : Slots.empty.document? name = none := by
    simp [Slots.document?, Slots.empty]
  refine ⟨passable, fun name => ?_, fun name content found => ?_⟩
  · rw [none]
    exact empty name
  · rw [none] at found
    cases found

end DirectoryStore

namespace Store

open DirectoryStore

/-- Each call finds the same, and leaves what the next one finds. -/
theorem perform_mirrored {slots : Slots} {store : DirectoryStore} {call : StoreCall}
    (mirrors : Mirrors slots store) (kept : slots.IsKept) (whole : call.IsWhole) :
    ∃ reply slots' store', (memory slots).perform call = (reply, memory slots') ∧
      (directory store).perform call = (reply, directory store') ∧
      Mirrors slots' store' ∧ slots'.IsKept := by
  cases call with
  | store certificate features =>
      obtain ⟨written, stored, mirrored⟩ := mirrors.stored certificate features
      refine ⟨_, _, written, rfl, ?_, mirrored, ?_⟩
      · simp only [perform, Store.store, stored]
      · constructor
        · intro absent
          cases absent
        · intro other same
          obtain rfl := Option.some.inj same
          exact whole
  | storeKeys keys =>
      obtain ⟨written, stored, mirrored⟩ := mirrors.keys_stored keys
      refine ⟨_, _, written, rfl, ?_, mirrored, ⟨kept.bare, kept.whole⟩⟩
      simp only [perform, Store.storeKeys, stored]
  | deleteKeys =>
      exact ⟨_, _, _, rfl, rfl, mirrors.keys_deleted, Slots.kept_of_bare rfl rfl⟩
  | deleteCertificate =>
      exact ⟨_, _, _, rfl, rfl, mirrors.certificate_deleted, Slots.kept_of_bare rfl rfl⟩
  | readCertificate =>
      refine ⟨_, slots, store, rfl, ?_, mirrors, kept⟩
      simp only [perform, Store.certificate, mirrors.certificate kept]
  | readKeys =>
      refine ⟨_, slots, store, rfl, ?_, mirrors, kept⟩
      simp only [perform, Store.keys, mirrors.keys]
  | readFeatures =>
      refine ⟨_, slots, store, rfl, ?_, mirrors, kept⟩
      simp only [perform, Store.features, mirrors.features kept]
  | reopen => exact ⟨_, slots, store, rfl, rfl, mirrors, kept⟩

theorem replies_mirrored {slots : Slots} {store : DirectoryStore} {calls : List StoreCall}
    (mirrors : Mirrors slots store) (kept : slots.IsKept)
    (whole : ∀ call ∈ calls, call.IsWhole) :
    (directory store).replies calls = (memory slots).replies calls := by
  induction calls generalizing slots store with
  | nil => rfl
  | cons call calls induction =>
      obtain ⟨reply, slots', store', remembered, filed, mirrored, still⟩ :=
        perform_mirrored mirrors kept (whole call List.mem_cons_self)
      have rest := induction mirrored still fun call later => whole call (.tail _ later)
      simp only [replies, remembered, filed, rest]

/-- In a directory that is empty or missing, a store answers all calls as one in memory,
whatever the bytes and features and however often it is opened again. -/
theorem directory_answers_as_memory {tree : FileTree} {directory : Path} {calls : List StoreCall}
    (passable : tree.Passable directory) (empty : ∀ name, tree.get? (directory ++ [name]) = none)
    (whole : ∀ call ∈ calls, call.IsWhole) :
    (Store.directory ⟨directory, tree⟩).replies calls = (Store.memory .empty).replies calls :=
  replies_mirrored (.of_empty passable empty) (Slots.kept_of_bare rfl rfl) whole

/-- What is stored outlives two restarts, and what is deleted stays deleted. -/
def restarted : List StoreCall :=
  [.storeKeys ⟨[1, 2], []⟩,
    .store ⟨[0, 255], .ofEpochMillis 1, .ofEpochMillis 0⟩
      (some { Features.none with bouncing := some "\"\\\n\x00" }),
    .reopen, .readCertificate, .readFeatures, .deleteCertificate, .reopen, .readCertificate,
    .readKeys, .deleteKeys, .readKeys]

theorem missing_directory_answers_as_memory :
    FileTree.empty.Passable ["var", "state"] ∧ (∀ call ∈ restarted, call.IsWhole) ∧
      (Store.directory ⟨["var", "state"], .empty⟩).replies restarted =
        (Store.memory .empty).replies restarted := by
  have passable : FileTree.empty.Passable ["var", "state"] := by
    intro part _ content
    cases part <;> simp [FileTree.get?, FileTree.empty]
  have whole : ∀ call ∈ restarted, call.IsWhole := by
    have timed : Certificate.IsWhole ⟨[0, 255], .ofEpochMillis 1, .ofEpochMillis 0⟩ :=
      ⟨⟨1, by decide, rfl⟩, ⟨0, by decide, rfl⟩⟩
    simp [restarted, StoreCall.IsWhole, timed]
  exact ⟨passable, whole, directory_answers_as_memory passable (fun _ => rfl) whole⟩

end Store

end CertRenewal
