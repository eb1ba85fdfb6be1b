import CertRenewal.Proofs.Keeping
import CertRenewal.Proofs.Mirror

/-!
What each call leaves of the key pair and of the certificate that a store holds, whatever
else is in its directory and whichever of its files cannot be written.
-/

namespace CertRenewal

namespace FileTree

variable {tree : FileTree} {path other : Path}

/-- There is something in a directory only when the directory is there. -/
def Settled (tree : FileTree) (directory : Path) : Prop :=
  ∀ name entry, tree.get? (directory ++ [name]) = some entry → tree.Reaches directory

theorem Reaches.settled (reached : tree.Reaches path) : tree.Settled path :=
  fun _ _ _ => reached

theorem read_absent (absent : tree.get? path = none) : (tree.read path).toOption = none := by
  unfold read
  rw [absent]
  cases tree.obstacle path <;> rfl

/-- Where there is something in a directory, nothing is made on the way to it. -/
theorem Settled.nothing_made {way : Path} {name : String} {entry : FileEntry} {grown : FileTree}
    (settled : tree.Settled path) (there : tree.get? (path ++ [name]) = some entry)
    (within : way <+: path) (made : tree.makeDirectories way = .ok grown) : grown = tree := by
  have reached : tree.Reaches way := fun part before =>
    settled name entry there part (before.trans within)
  have same := make_directories_clear name (reached.clear name)
  exact Except.ok.inj (made.symm.trans same)

/-- Making a directory, or those on the way to it, does not bring anything into it. -/
theorem Settled.read_grown {way : Path} {grown : FileTree} (settled : tree.Settled path)
    (within : way <+: path) (made : tree.makeDirectories way = .ok grown) (name : String) :
    (grown.read (path ++ [name])).toOption = (tree.read (path ++ [name])).toOption := by
  cases there : tree.get? (path ++ [name]) with
  | some entry => rw [settled.nothing_made there within made]
  | none =>
      have outside : ¬ path ++ [name] <+: way := fun before =>
        not_within path name (before.trans within)
      have still := (make_directories_reached made).2 _ outside
      rw [read_absent there, read_absent (still.trans there)]

theorem Settled.remove (settled : tree.Settled path) (name : String) :
    (tree.remove (path ++ [name])).Settled path := by
  unfold FileTree.remove
  split
  · intro other entry there
    rw [get_erase _ (by simp)] at there
    split at there
    · cases there
    · exact (settled other entry there).erase name
  · exact settled

theorem read_removed (named : path ≠ []) : ((tree.remove path).read path).toOption = none := by
  cases found : tree.read path with
  | ok content =>
      simp only [remove, found]
      exact read_absent (by rw [get_erase path named, if_pos rfl])
  | error fault => simp only [remove, found, Except.toOption]

theorem read_remove_elsewhere (named : other ≠ []) (different : other ≠ path)
    (asLong : other.length ≤ path.length) : (tree.remove path).read other = tree.read other := by
  unfold remove
  split
  · exact read_erase_elsewhere named different asLong
  · rfl

end FileTree

namespace DirectoryStore

/-- What replacing a document comes to for the files of its directory. -/
structure Exchange (tree : FileTree) (directory : Path) (draft name : String) (content : Bytes)
    (result : Except FileFault Unit × FileTree) : Prop where
  settled : result.2.Settled directory
  others : ∀ other, other ≠ draft → other ≠ name →
    (result.2.read (directory ++ [other])).toOption = (tree.read (directory ++ [other])).toOption
  refused : ∀ fault, result.1 = .error fault →
    (result.2.read (directory ++ [name])).toOption = (tree.read (directory ++ [name])).toOption
  saved : result.1 = .ok () → result.2.read (directory ++ [name]) = .ok content

theorem replace_exchange {tree : FileTree} {directory : Path} {draft name : String}
    (settled : tree.Settled directory) (different : draft ≠ name) (content : Bytes) :
    Exchange tree directory draft name content
      (replace tree directory (directory ++ [draft]) (directory ++ [name]) content) := by
  cases made : tree.makeDirectories directory with
  | error fault =>
      simp only [replace, made]
      refine ⟨settled, fun _ _ _ => rfl, fun _ _ => rfl, fun saved => ?_⟩
      cases saved
  | ok grown =>
      have beside : (directory ++ [draft]).length = (directory ++ [name]).length := by simp
      have reached : grown.Reaches directory := (FileTree.make_directories_reached made).1
      have replaced : Replaced grown (directory ++ [draft]) (directory ++ [name]) content
          (replace tree directory (directory ++ [draft]) (directory ++ [name]) content) :=
        replace_made made content
      generalize replace tree _ _ _ _ = result at replaced
      refine ⟨?_, fun other undrafted unnamed => ?_, fun fault failed => ?_, fun saved => ?_⟩
      · cases replaced with
        | unwritten fault => exact reached.settled
        | unnamed fault => exact (reached.put draft _).settled
        | renamed clear => exact (((reached.put draft _).erase draft).put name _).settled
      · rw [replaced.elsewhere (by simp) (by simpa using undrafted) (by simpa using unnamed) beside
          (by simp)]
        exact settled.read_grown (List.prefix_refl _) made other
      · rw [replaced.refused failed (by simp) (by simpa using different.symm) beside]
        exact settled.read_grown (List.prefix_refl _) made name
      · exact replaced.saved saved (by simp) beside

variable {store after : DirectoryStore}

theorem read_text_congr {path : Path}
    (same : (after.tree.read path).toOption = (store.tree.read path).toOption) :
    after.readText path = store.readText path := by
  unfold readText
  cases before : store.tree.read path <;> cases now : after.tree.read path <;>
    rw [before, now] at same
  · cases same
  · cases same
  · rw [Option.some.inj same]

theorem read_text_absent {path : Path} (absent : (store.tree.read path).toOption = none) :
    store.readText path = none := by
  unfold readText
  cases found : store.tree.read path with
  | ok content =>
      rw [found] at absent
      cases absent
  | error fault => rfl

/-- The keys that are in the file, if any, can be understood. -/
def Legible (store : DirectoryStore) : Prop :=
  ∀ content, store.readText store.keysPath = some content → (readKeys content).isSome = true

theorem Legible.keys (legible : store.Legible) : store.keys.2 = store := by
  unfold DirectoryStore.keys
  cases read : store.readText store.keysPath with
  | none => rfl
  | some content =>
      obtain ⟨keys, understood⟩ := Option.isSome_iff_exists.mp (legible content read)
      simp only [understood]

/-- Two directories in which the key files read the same. -/
theorem keys_congr (same : after.readText after.keysPath = store.readText store.keysPath) :
    after.keys.1 = store.keys.1 ∧ (store.Legible → after.Legible) := by
  constructor
  · unfold DirectoryStore.keys
    rw [same]
    cases store.readText store.keysPath with
    | none => rfl
    | some content => cases understood : readKeys content <;> simp only [understood]
  · intro legible content read
    exact legible content (same ▸ read)

theorem keys_absent (absent : store.readText store.keysPath = none) :
    store.keys.1 = none ∧ store.Legible := by
  refine ⟨?_, fun content read => (nomatch absent.symm.trans read)⟩
  unfold DirectoryStore.keys
  rw [absent]

theorem keys_written {keys : KeyPair}
    (written : store.readText store.keysPath = some (KeyDocument.ofKeys keys).toBytes) :
    store.keys.1 = some keys ∧ store.Legible := by
  have understood : readKeys (KeyDocument.ofKeys keys).toBytes = some keys := by
    simp [readKeys, KeyDocument.of_bytes_to_bytes, Except.toOption, KeyDocument.keys_of_keys]
  constructor
  · unfold DirectoryStore.keys
    simp only [written, understood]
  · intro content read
    rw [← Option.some.inj (written.symm.trans read), understood]
    rfl

theorem certificate_congr
    (same : after.readText after.certificatePath = store.readText store.certificatePath) :
    after.certificate = store.certificate := by
  unfold certificate certificateDocument
  rw [same]

theorem certificate_absent (absent : store.readText store.certificatePath = none) :
    store.certificate = none := by
  unfold certificate certificateDocument
  rw [absent]
  rfl

theorem certificate_written {certificate : Certificate} {features : Option Features}
    (written : store.readText store.certificatePath =
      some (CertificateDocument.ofCertificate certificate features).toBytes) :
    store.certificate.isSome = true := by
  unfold DirectoryStore.certificate
  rw [certificate_document_of_text written]
  simp [CertificateDocument.certificate?, CertificateDocument.ofCertificate,
    Base64.decode_text_encode_text]

end DirectoryStore

namespace Store

/-- Whatever is kept in the directory of a store, the directory is there. -/
def IsPlaced : Store → Prop
  | memory _ => True
  | directory held => held.tree.Settled held.directory

def IsLegible : Store → Prop
  | memory _ => True
  | directory held => held.Legible

/-- What a call leaves of a store, told from what it held before. -/
inductive Leaves (store : Store) (call : StoreCall) (after : Store) : Prop
  | same (keys : after.keys.1 = store.keys.1) (certificate : after.certificate = store.certificate)
      (legible : store.IsLegible → after.IsLegible)
      (unfiled : ∀ certificate features, call = .store certificate features →
        (store.store certificate features).1 ≠ .ok ())
      (spared : call ≠ .deleteKeys ∧ call ≠ .deleteCertificate)
  | filed (certificate : Certificate) (features : Option Features)
      (own : call = .store certificate features)
      (saved : (store.store certificate features).1 = .ok ())
      (keys : after.keys.1 = store.keys.1) (held : after.certificate.isSome = true)
      (legible : store.IsLegible → after.IsLegible)
  | keyed (keys : KeyPair) (own : call = .storeKeys keys) (held : after.keys.1 = some keys)
      (certificate : after.certificate = store.certificate) (legible : after.IsLegible)
  | bared (own : call = .deleteCertificate) (keys : after.keys.1 = store.keys.1)
      (certificate : after.certificate = none) (legible : store.IsLegible → after.IsLegible)
  | emptied (own : call = .deleteKeys ∨ call = .readKeys ∧ ¬ store.IsLegible ∧ store.keys.1 = none)
      (keys : after.keys.1 = none) (certificate : after.certificate = none)
      (legible : after.IsLegible)

variable {store after : Store}

/-- A call that changes nothing. -/
theorem leaves_itself (store : Store) {call : StoreCall}
    (unfiled : ∀ certificate features, call ≠ .store certificate features)
    (spared : call ≠ .deleteKeys ∧ call ≠ .deleteCertificate) : Leaves store call store :=
  .same rfl rfl id (fun certificate features own => absurd own (unfiled certificate features))
    spared

theorem leaves_filed {held : DirectoryStore} (settled : held.tree.Settled held.directory)
    (certificate : Certificate) (features : Option Features) :
    (directory (held.store certificate features).2).IsPlaced ∧
      Leaves (directory held) (.store certificate features)
        (directory (held.store certificate features).2) := by
  have exchange := DirectoryStore.replace_exchange settled
    (by decide : "certificate.tmp" ≠ "certificate.json")
    (CertificateDocument.ofCertificate certificate features).toBytes
  have text : (held.store certificate features).2.readText held.keysPath =
      held.readText held.keysPath :=
    DirectoryStore.read_text_congr (exchange.others "keys.json" (by decide) (by decide))
  obtain ⟨keys, legible⟩ : (held.store certificate features).2.keys.1 = held.keys.1 ∧ _ :=
    DirectoryStore.keys_congr text
  refine ⟨exchange.settled, ?_⟩
  cases result : (held.store certificate features).1 with
  | ok value =>
      refine .filed certificate features rfl result keys ?_ legible
      have whole : (held.store certificate features).2.tree.read held.certificatePath =
        .ok (CertificateDocument.ofCertificate certificate features).toBytes :=
          exchange.saved result
      have written : (held.store certificate features).2.readText held.certificatePath =
          some (CertificateDocument.ofCertificate certificate features).toBytes := by
        simp only [DirectoryStore.readText, whole, CertificateDocument.text_to_bytes, if_true]
      exact DirectoryStore.certificate_written written
  | error fault =>
      refine .same keys ?_ legible (fun _ _ own saved => ?_) ⟨by simp, by simp⟩
      · have still : (held.store certificate features).2.readText held.certificatePath =
            held.readText held.certificatePath :=
          DirectoryStore.read_text_congr (exchange.refused fault result)
        exact DirectoryStore.certificate_congr still
      · obtain ⟨rfl, rfl⟩ := StoreCall.store.inj own
        cases result.symm.trans saved

theorem leaves_keyed {held : DirectoryStore} (settled : held.tree.Settled held.directory)
    (keys : KeyPair) : (directory (held.storeKeys keys).2).IsPlaced ∧
      Leaves (directory held) (.storeKeys keys) (directory (held.storeKeys keys).2) := by
  have exchange := DirectoryStore.replace_exchange settled
    (by decide : "keys.tmp" ≠ "keys.json") (KeyDocument.ofKeys keys).toBytes
  have document : (held.storeKeys keys).2.readText held.certificatePath =
      held.readText held.certificatePath :=
    DirectoryStore.read_text_congr (exchange.others "certificate.json" (by decide) (by decide))
  have certificate : (held.storeKeys keys).2.certificate = held.certificate :=
    DirectoryStore.certificate_congr document
  refine ⟨exchange.settled, ?_⟩
  cases result : (held.storeKeys keys).1 with
  | ok value =>
      have whole : (held.storeKeys keys).2.tree.read held.keysPath =
        .ok (KeyDocument.ofKeys keys).toBytes := exchange.saved result
      have written : (held.storeKeys keys).2.readText held.keysPath =
          some (KeyDocument.ofKeys keys).toBytes := by
        simp only [DirectoryStore.readText, whole, KeyDocument.text_to_bytes, if_true]
      obtain ⟨there, legible⟩ : (held.storeKeys keys).2.keys.1 = some keys ∧ _ :=
        DirectoryStore.keys_written written
      exact .keyed keys rfl there certificate legible
  | error fault =>
      have text : (held.storeKeys keys).2.readText held.keysPath = held.readText held.keysPath :=
        DirectoryStore.read_text_congr (exchange.refused fault result)
      obtain ⟨still, legible⟩ : (held.storeKeys keys).2.keys.1 = held.keys.1 ∧ _ :=
        DirectoryStore.keys_congr text
      exact .same still certificate legible (by simp) ⟨by simp, by simp⟩

theorem leaves_bared {held : DirectoryStore} (settled : held.tree.Settled held.directory) :
    (directory held.deleteCertificate).IsPlaced ∧
      Leaves (directory held) .deleteCertificate (directory held.deleteCertificate) := by
  obtain ⟨named, -, apart, free, -⟩ := held.keys_elsewhere
  have asLong : held.keysPath.length ≤ held.certificatePath.length := by
    simp [DirectoryStore.keysPath, DirectoryStore.certificatePath]
  have same : held.deleteCertificate.tree.read held.keysPath = held.tree.read held.keysPath :=
    FileTree.read_remove_elsewhere named apart asLong
  have text : held.deleteCertificate.readText held.keysPath = held.readText held.keysPath :=
    DirectoryStore.read_text_congr (congrArg Except.toOption same)
  obtain ⟨keys, legible⟩ : held.deleteCertificate.keys.1 = held.keys.1 ∧ _ :=
    DirectoryStore.keys_congr text
  refine ⟨settled.remove "certificate.json", .bared rfl keys ?_ legible⟩
  exact DirectoryStore.certificate_absent
    (DirectoryStore.read_text_absent (FileTree.read_removed free))

theorem leaves_emptied {held : DirectoryStore} {call : StoreCall}
    (settled : held.tree.Settled held.directory)
    (own : call = .deleteKeys ∨
      call = .readKeys ∧ ¬ (directory held).IsLegible ∧ (directory held).keys.1 = none) :
    (directory held.deleteKeys).IsPlaced ∧
      Leaves (directory held) call (directory held.deleteKeys) := by
  let without : DirectoryStore := { held with tree := held.tree.remove held.keysPath }
  obtain ⟨named, -, apart, free, -⟩ := held.keys_elsewhere
  have asLong : held.keysPath.length ≤ held.certificatePath.length := by
    simp [DirectoryStore.keysPath, DirectoryStore.certificatePath]
  have still : held.deleteKeys.tree.read held.keysPath = without.tree.read held.keysPath :=
    FileTree.read_remove_elsewhere named apart asLong
  have absent : held.deleteKeys.readText held.keysPath = none := by
    apply DirectoryStore.read_text_absent
    rw [still]
    exact FileTree.read_removed named
  obtain ⟨none, legible⟩ := DirectoryStore.keys_absent absent
  refine ⟨(settled.remove "keys.json").remove "certificate.json",
    .emptied own none ?_ legible⟩
  exact DirectoryStore.certificate_absent
    (DirectoryStore.read_text_absent (FileTree.read_removed free))

/-- Every call, on a store of either make. -/
theorem perform_leaves (placed : store.IsPlaced) (call : StoreCall) :
    (store.perform call).2.IsPlaced ∧ Leaves store call (store.perform call).2 := by
  cases store with
  | memory slots =>
      cases call with
      | store certificate features =>
          exact ⟨trivial, .filed certificate features rfl rfl rfl rfl fun _ => trivial⟩
      | storeKeys keys => exact ⟨trivial, .keyed keys rfl rfl rfl trivial⟩
      | deleteKeys => exact ⟨trivial, .emptied (.inl rfl) rfl rfl trivial⟩
      | deleteCertificate => exact ⟨trivial, .bared rfl rfl rfl fun _ => trivial⟩
      | _ => exact ⟨trivial, leaves_itself _ nofun ⟨nofun, nofun⟩⟩
  | directory held =>
      cases call with
      | store certificate features => exact leaves_filed placed certificate features
      | storeKeys keys => exact leaves_keyed placed keys
      | deleteKeys => exact leaves_emptied placed (.inl rfl)
      | deleteCertificate => exact leaves_bared placed
      | readKeys =>
          have read : ((directory held).perform .readKeys).2 = directory held.keys.2 := rfl
          by_cases legible : held.Legible
          · rw [read, legible.keys]
            exact ⟨placed, leaves_itself _ nofun ⟨nofun, nofun⟩⟩
          · have illegible := legible
            unfold DirectoryStore.Legible at legible
            push Not at legible
            obtain ⟨content, text, unknown⟩ := legible
            rw [ne_eq, Bool.not_eq_true, Option.isSome_eq_false_iff,
              Option.isNone_iff_eq_none] at unknown
            have keys : held.keys = (none, held.deleteKeys) := by
              simp only [DirectoryStore.keys, text, unknown]
            rw [read, keys]
            refine leaves_emptied placed (.inr ⟨rfl, illegible, ?_⟩)
            simp only [Store.keys, keys]
      | _ => exact ⟨placed, leaves_itself _ nofun ⟨nofun, nofun⟩⟩

end Store

end CertRenewal
