import CertRenewal.Proofs.Holdings

/-!
A document is replaced as a whole or not at all. A call that fails, or that breaks off
before its draft takes the place of the document, leaves a store that answers as the one
before the call did, however much of the draft was written. What lies about of drafts is
never read.
-/

namespace CertRenewal

/-- A call that writes neither of the two documents. -/
def StoreCall.writesNothing : StoreCall → Bool
  | .store _ _ => false
  | .storeKeys _ => false
  | _ => true

/-- A document to be written: the names of its draft and of itself, and its content. -/
structure Writing where
  draft : String
  name : String
  content : Bytes

/-- What a call writes. -/
def StoreCall.writing? : StoreCall → Option Writing
  | .store certificate features => some ⟨"certificate.tmp", "certificate.json",
      (CertificateDocument.ofCertificate certificate features).toBytes⟩
  | .storeKeys keys => some ⟨"keys.tmp", "keys.json", (KeyDocument.ofKeys keys).toBytes⟩
  | _ => none

/-- For as long as nothing is written, two stores cannot be told apart. -/
def Store.AnswersAs (first second : Store) : Prop :=
  ∀ calls : List StoreCall, (∀ call ∈ calls, call.writesNothing = true) →
    first.replies calls = second.replies calls

/-- Only a call that writes tells how it went. -/
theorem writing_of_stored {store : Store} {call : StoreCall} {result : Except FileFault Unit}
    (told : (store.perform call).1 = .stored result) : ∃ writing, call.writing? = some writing := by
  cases call with
  | store certificate features => exact ⟨_, rfl⟩
  | storeKeys keys => exact ⟨_, rfl⟩
  | _ => cases told

namespace DirectoryStore

/-- What is in the tree of files when a writing breaks off before its draft is renamed:
some of the directories were made, or all of them and as much of the draft as was
written. -/
inductive BrokenOff (tree : FileTree) (directory : Path) (writing : Writing) : FileTree → Prop
  | making {way : Path} {grown : FileTree} (within : way <+: directory)
      (made : tree.makeDirectories way = .ok grown) : BrokenOff tree directory writing grown
  | drafting {grown drafted : FileTree} {part : Bytes} (partly : part <+: writing.content)
      (made : tree.makeDirectories directory = .ok grown)
      (written : grown.write (directory ++ [writing.draft]) part = .ok drafted) :
      BrokenOff tree directory writing drafted

/-- Two stores whose documents read the same. -/
structure Alike (first second : DirectoryStore) : Prop where
  directory : first.directory = second.directory
  keys : (first.tree.read first.keysPath).toOption = (second.tree.read second.keysPath).toOption
  certificate : (first.tree.read first.certificatePath).toOption =
    (second.tree.read second.certificatePath).toOption

namespace Alike

variable {first second : DirectoryStore}

theorem keys_text (alike : Alike first second) :
    first.readText first.keysPath = second.readText second.keysPath := by
  have same : first.keysPath = second.keysPath := by
    simp only [keysPath, alike.directory]
  have reads := alike.keys
  rw [same] at reads ⊢
  exact read_text_congr reads

theorem certificate_text (alike : Alike first second) :
    first.readText first.certificatePath = second.readText second.certificatePath := by
  have same : first.certificatePath = second.certificatePath := by
    simp only [certificatePath, alike.directory]
  have reads := alike.certificate
  rw [same] at reads ⊢
  exact read_text_congr reads

theorem certificate_document (alike : Alike first second) :
    first.certificateDocument = second.certificateDocument := by
  unfold certificateDocument
  rw [alike.certificate_text]

/-- A deletion reads the same afterwards, whatever there was. -/
theorem deleted_certificate (alike : Alike first second) :
    Alike first.deleteCertificate second.deleteCertificate := by
  have beside (store : DirectoryStore) :
      (store.deleteCertificate.tree.read store.keysPath) = store.tree.read store.keysPath := by
    obtain ⟨named, -, apart, -⟩ := store.keys_elsewhere
    exact FileTree.read_remove_elsewhere named apart (by simp [keysPath, certificatePath])
  have gone (store : DirectoryStore) :
      (store.deleteCertificate.tree.read store.certificatePath).toOption = none := by
    obtain ⟨-, -, -, named, -⟩ := store.keys_elsewhere
    exact FileTree.read_removed named
  refine ⟨alike.directory, ?_, (gone first).trans (gone second).symm⟩
  have reads := alike.keys
  rw [← beside first, ← beside second] at reads
  exact reads

theorem deleted_keys (alike : Alike first second) : Alike first.deleteKeys second.deleteKeys := by
  have gone (store : DirectoryStore) :
      ((store.tree.remove store.keysPath).read store.keysPath).toOption = none := by
    obtain ⟨named, -⟩ := store.keys_elsewhere
    exact FileTree.read_removed named
  have beside (store : DirectoryStore) :
      (store.tree.remove store.keysPath).read store.certificatePath =
        store.tree.read store.certificatePath := by
    obtain ⟨-, -, apart, named, -⟩ := store.keys_elsewhere
    exact FileTree.read_remove_elsewhere named apart.symm (by simp [keysPath, certificatePath])
  have reads := alike.certificate
  rw [← beside first, ← beside second] at reads
  have without : Alike { first with tree := first.tree.remove first.keysPath }
      { second with tree := second.tree.remove second.keysPath } :=
    ⟨alike.directory, (gone first).trans (gone second).symm, reads⟩
  exact without.deleted_certificate

/-- The keys that are read are the same, and so is what is left when they cannot be
understood. -/
theorem keys_read (alike : Alike first second) :
    first.keys.1 = second.keys.1 ∧ Alike first.keys.2 second.keys.2 := by
  unfold DirectoryStore.keys
  rw [alike.keys_text]
  cases second.readText second.keysPath with
  | none => exact ⟨rfl, alike⟩
  | some content =>
      cases understood : readKeys content with
      | some keys =>
          simp only [understood]
          exact ⟨trivial, alike⟩
      | none =>
          simp only [understood]
          exact ⟨trivial, alike.deleted_keys⟩

/-- Stores that read the same answer the same for as long as nothing is written. -/
theorem answers (alike : Alike first second) :
    (Store.directory first).AnswersAs (.directory second) := by
  intro calls reading
  induction calls generalizing first second with
  | nil => rfl
  | cons call calls induction =>
      have later (other : StoreCall) (member : other ∈ calls) : other.writesNothing = true :=
        reading other (List.mem_cons_of_mem _ member)
      have document := alike.certificate_document
      cases call with
      | store certificate features => cases reading _ List.mem_cons_self
      | storeKeys keys => cases reading _ List.mem_cons_self
      | deleteKeys => exact congrArg (_ :: ·) (induction alike.deleted_keys later)
      | deleteCertificate => exact congrArg (_ :: ·) (induction alike.deleted_certificate later)
      | readCertificate =>
          have held : first.certificate = second.certificate := by
            simp only [DirectoryStore.certificate, document]
          exact congrArg₂ (StoreReply.certificate · :: ·) held (induction alike later)
      | readKeys =>
          obtain ⟨held, still⟩ := alike.keys_read
          exact congrArg₂ (StoreReply.keys · :: ·) held (induction still later)
      | readFeatures =>
          have held : first.features = second.features := by
            simp only [DirectoryStore.features, document]
          exact congrArg₂ (StoreReply.features · :: ·) held (induction alike later)
      | reopen => exact congrArg (_ :: ·) (induction alike later)

end Alike

variable {held : DirectoryStore} {writing : Writing} {left : FileTree}

/-- The directory of a store is not touched by a writing that breaks off, but for the
draft. -/
theorem BrokenOff.reads (broken : BrokenOff held.tree held.directory writing left)
    (settled : held.tree.Settled held.directory) {name : String} (apart : name ≠ writing.draft) :
    (left.read (held.directory ++ [name])).toOption =
      (held.tree.read (held.directory ++ [name])).toOption := by
  cases broken with
  | making within made => exact settled.read_grown within made name
  | @drafting grown _ part _ made written =>
      obtain ⟨-, rfl⟩ := FileTree.write_cases written
      rw [FileTree.read_put_elsewhere _ (by simp) (by simpa using apart) (by simp)]
      exact settled.read_grown (List.prefix_refl _) made name

theorem BrokenOff.alike (broken : BrokenOff held.tree held.directory writing left)
    (settled : held.tree.Settled held.directory)
    (apart : writing.draft ≠ "keys.json" ∧ writing.draft ≠ "certificate.json") :
    Alike { held with tree := left } held :=
  ⟨rfl, broken.reads settled apart.1.symm, broken.reads settled apart.2.symm⟩

/-- A replacement that fails has broken off on the way. -/
theorem broken_off_of_refused {tree : FileTree} {directory : Path} {fault : FileFault}
    (refused : (replace tree directory (directory ++ [writing.draft])
      (directory ++ [writing.name]) writing.content).1 = .error fault) :
    BrokenOff tree directory writing (replace tree directory (directory ++ [writing.draft])
      (directory ++ [writing.name]) writing.content).2 := by
  unfold replace at refused ⊢
  cases made : tree.makeDirectories directory with
  | error reason => exact .making (List.nil_prefix) rfl
  | ok grown =>
      simp only [made] at refused ⊢
      cases written : grown.write (directory ++ [writing.draft]) writing.content with
      | error reason => exact .making (List.prefix_refl _) made
      | ok drafted =>
          simp only [written] at refused ⊢
          cases renamed : drafted.rename (directory ++ [writing.draft])
              (directory ++ [writing.name]) with
          | error reason => exact .drafting (List.prefix_refl _) made written
          | ok final =>
              simp only [renamed] at refused
              cases refused

/-- What a call that writes does is to replace its document. -/
theorem perform_writing {call : StoreCall} (writes : call.writing? = some writing) :
    (Store.directory held).perform call =
      (.stored (replace held.tree held.directory (held.directory ++ [writing.draft])
          (held.directory ++ [writing.name]) writing.content).1,
        .directory { held with tree := (replace held.tree held.directory
          (held.directory ++ [writing.draft]) (held.directory ++ [writing.name])
            writing.content).2 }) := by
  cases call with
  | store certificate features =>
      obtain rfl := Option.some.inj writes
      simp only [Store.perform, Store.store, DirectoryStore.store, certificateDraftPath,
        certificatePath]
  | storeKeys keys =>
      obtain rfl := Option.some.inj writes
      simp only [Store.perform, Store.storeKeys, DirectoryStore.storeKeys, keysDraftPath, keysPath]
  | _ => cases writes

/-- Drafts are not documents. -/
theorem drafts_apart {call : StoreCall} (writes : call.writing? = some writing) :
    writing.draft ≠ "keys.json" ∧ writing.draft ≠ "certificate.json" := by
  cases call with
  | store certificate features =>
      obtain rfl := Option.some.inj writes
      exact ⟨by simp, by simp⟩
  | storeKeys keys =>
      obtain rfl := Option.some.inj writes
      exact ⟨by simp, by simp⟩
  | _ => cases writes

/-- Trees that differ in drafts only have the same documents. -/
theorem alike_beside_drafts {tree : FileTree}
    (same : ∀ path, ¬ held.keysDraftPath <+: path → ¬ held.certificateDraftPath <+: path →
      tree.get? path = held.tree.get? path) : Alike { held with tree } held := by
  have outside (name draft : String) (apart : draft ≠ name) (part : Path)
      (short : part.length ≤ (held.directory ++ [name]).length)
      (own : part.length = (held.directory ++ [name]).length → part = held.directory ++ [name]) :
      ¬ held.directory ++ [draft] <+: part := by
    intro within
    have long := within.length_le
    have full : part.length = (held.directory ++ [name]).length := by
      rw [List.length_append, List.length_singleton] at short long ⊢
      omega
    have equal := within.eq_of_length (by simp [full])
    exact apart (by simpa [own full] using equal)
  have read (name : String) (first : "keys.tmp" ≠ name) (second : "certificate.tmp" ≠ name) :
      tree.read (held.directory ++ [name]) = held.tree.read (held.directory ++ [name]) := by
    refine FileTree.read_congr (fun part shorter => ?_) ?_
    · refine same part (outside name _ first part (Nat.le_of_lt shorter) ?_)
        (outside name _ second part (Nat.le_of_lt shorter) ?_)
      · exact fun full => absurd full (Nat.ne_of_lt shorter)
      · exact fun full => absurd full (Nat.ne_of_lt shorter)
    · exact same _ (outside name _ first _ (Nat.le_refl _) fun _ => rfl)
        (outside name _ second _ (Nat.le_refl _) fun _ => rfl)
  exact ⟨rfl, congrArg Except.toOption (read "keys.json" (by decide) (by decide)),
    congrArg Except.toOption (read "certificate.json" (by decide) (by decide))⟩

/-- What comes of writing to a store, whatever stands in its directory. -/
structure WritesWhole (held : DirectoryStore) : Prop where
  /-- Until the draft is renamed, whatever was done of the call is not seen. -/
  brokenOff : ∀ call writing left, StoreCall.writing? call = some writing →
    BrokenOff held.tree held.directory writing left →
      (Store.directory { held with tree := left }).AnswersAs (.directory held)
  refused : ∀ call fault after,
    (Store.directory held).perform call = (.stored (.error fault), after) →
      after.AnswersAs (.directory held)
  certificate : ∀ certificate features after,
    held.store certificate features = (.ok (), after) →
      (certificate.IsTimed → after.certificate = some certificate.floorMillis) ∧
        after.features = features ∧ after.keys.1 = held.keys.1
  keys : ∀ keys after, held.storeKeys keys = (.ok (), after) →
    after.keys = (some keys, after) ∧ after.certificate = held.certificate ∧
      after.features = held.features
  /-- Drafts that lie about, or whatever else is in their places, are not read. -/
  drafts : ∀ tree : FileTree,
    (∀ path, ¬ held.keysDraftPath <+: path → ¬ held.certificateDraftPath <+: path →
      tree.get? path = held.tree.get? path) →
      (Store.directory { held with tree }).AnswersAs (.directory held)

theorem stored_certificate {certificate : Certificate} {features : Option Features}
    {after : DirectoryStore} (settled : held.tree.Settled held.directory)
    (stored : held.store certificate features = (.ok (), after)) :
    after.certificateDocument = some (.ofCertificate certificate features) ∧
      after.keys.1 = held.keys.1 := by
  have exchange := replace_exchange settled (by decide : "certificate.tmp" ≠ "certificate.json")
    (CertificateDocument.ofCertificate certificate features).toBytes
  obtain ⟨saved, rfl⟩ := Prod.mk.inj stored
  have keys : (held.store certificate features).2.readText held.keysPath =
      held.readText held.keysPath :=
    read_text_congr (exchange.others "keys.json" (by decide) (by decide))
  have still : (held.store certificate features).2.keys.1 = held.keys.1 := (keys_congr keys).1
  exact ⟨store_saved saved, still⟩

theorem stored_keys {keys : KeyPair} {after : DirectoryStore}
    (settled : held.tree.Settled held.directory)
    (stored : held.storeKeys keys = (.ok (), after)) :
    after.keys = (some keys, after) ∧ after.certificateDocument = held.certificateDocument := by
  have exchange := replace_exchange settled (by decide : "keys.tmp" ≠ "keys.json")
    (KeyDocument.ofKeys keys).toBytes
  obtain ⟨saved, rfl⟩ := Prod.mk.inj stored
  have whole : (held.storeKeys keys).2.tree.read held.keysPath =
      .ok (KeyDocument.ofKeys keys).toBytes := exchange.saved saved
  have written : (held.storeKeys keys).2.readText held.keysPath =
      some (KeyDocument.ofKeys keys).toBytes := by
    simp only [readText, whole, KeyDocument.text_to_bytes, if_true]
  have document : (held.storeKeys keys).2.readText held.certificatePath =
      held.readText held.certificatePath :=
    read_text_congr (exchange.others "certificate.json" (by decide) (by decide))
  obtain ⟨there, legible⟩ : (held.storeKeys keys).2.keys.1 = some keys ∧ _ := keys_written written
  refine ⟨Prod.ext there legible.keys, ?_⟩
  have same : (held.storeKeys keys).2.certificateDocument = held.certificateDocument := by
    unfold certificateDocument
    rw [← document]
    rfl
  exact same

/-- Each of the two documents is written as a whole or stays as it was. -/
theorem documents_written_whole (held : DirectoryStore)
    (settled : held.tree.Settled held.directory) : held.WritesWhole := by
  have unseen (call : StoreCall) (writing : Writing) (left : FileTree)
      (writes : call.writing? = some writing)
      (broken : BrokenOff held.tree held.directory writing left) :
      (Store.directory { held with tree := left }).AnswersAs (.directory held) :=
    (broken.alike settled (drafts_apart writes)).answers
  constructor
  · exact unseen
  · intro call fault after refused
    obtain ⟨writing, writes⟩ := writing_of_stored (congrArg Prod.fst refused)
    rw [perform_writing writes] at refused
    obtain ⟨failed, rfl⟩ := Prod.mk.inj refused
    exact unseen call writing _ writes (broken_off_of_refused (StoreReply.stored.inj failed))
  · intro certificate features after stored
    obtain ⟨document, keys⟩ := stored_certificate settled stored
    refine ⟨fun timed => ?_, ?_, keys⟩
    · simp only [DirectoryStore.certificate, document, Option.bind_eq_bind, Option.bind_some,
        CertificateDocument.certificate_of_certificate features timed]
    · simp only [DirectoryStore.features, document, Option.bind_eq_bind, Option.bind_some,
        CertificateDocument.ofCertificate]
  · intro keys after stored
    obtain ⟨there, document⟩ := stored_keys settled stored
    refine ⟨there, ?_, ?_⟩
    · simp only [DirectoryStore.certificate, document]
    · simp only [DirectoryStore.features, document]
  · intro tree same
    exact (alike_beside_drafts same).answers

/-- A store with a key pair, in whose directory another one stands in the place of a
draft. -/
def obstructed : DirectoryStore where
  directory := ["keeper"]
  tree := ⟨[(["keeper"], .directory), (["keeper", "certificate.tmp"], .directory),
    (["keeper", "keys.json"], .file (KeyDocument.ofKeys ⟨[1], [2]⟩).toBytes)]⟩

/-- The certificate cannot be stored and is not seen afterwards, while other keys are. -/
theorem certificate_refused_keys_stored :
    let refused := (Store.directory obstructed).perform (.store ⟨[3], ⟨0⟩, ⟨0⟩⟩ none)
    let rekeyed := obstructed.storeKeys ⟨[4], [5]⟩
    refused.1 = .stored (.error .isDirectory) ∧
      refused.2.AnswersAs (.directory obstructed) ∧
      rekeyed.1 = .ok () ∧ rekeyed.2.keys.1 = some ⟨[4], [5]⟩ := by
  have reached : obstructed.tree.Reaches obstructed.directory := by
    have path : obstructed.directory = [] ++ ["keeper"] := rfl
    rw [path]
    intro part within
    rcases List.prefix_concat_iff.mp within with rfl | before
    · rfl
    · rw [List.prefix_nil.mp before]
      rfl
  have whole := documents_written_whole obstructed reached.settled
  intro refused rekeyed
  have failed : refused.1 = .stored (.error .isDirectory) := rfl
  have saved : rekeyed.1 = .ok () := rfl
  have there := (whole.keys ⟨[4], [5]⟩ rekeyed.2 (Prod.ext saved rfl)).1
  exact ⟨failed, whole.refused _ _ _ (Prod.ext failed rfl), saved, congrArg Prod.fst there⟩

end DirectoryStore

end CertRenewal
