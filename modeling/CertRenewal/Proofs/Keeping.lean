import CertRenewal.Proofs.Document
import CertRenewal.Proofs.Files
import CertRenewal.Store

/-!
What a store of either make holds after a certificate was stored, as long as it has
keys that can be read.
-/

namespace CertRenewal

namespace DirectoryStore

variable {store : DirectoryStore} {certificate : Certificate} {features : Option Features}

/-- A certificate is read back from the file that a store writes for it. -/
theorem certificate_document_of_text
    (read : store.readText store.certificatePath =
      some (CertificateDocument.ofCertificate certificate features).toBytes) :
    store.certificateDocument = some (.ofCertificate certificate features) := by
  have small (instant : Instant) : instant.epochMillis ≤ Json.Number.natLimit := by
    have less : instant.epochMillis < 18446744073709551616 := Nat.mod_lt _ (by decide)
    exact Nat.le_of_lt_succ less
  have understood := (CertificateDocument.ofCertificate certificate features).of_bytes_to_bytes
    (small certificate.validUntil) (small certificate.refreshTime)
  simp only [certificateDocument, read, Option.bind_eq_bind, Option.bind_some, understood]
  rfl

theorem store_saved (saved : (store.store certificate features).1 = .ok ()) :
    (store.store certificate features).2.certificateDocument =
      some (.ofCertificate certificate features) := by
  have whole : (store.store certificate features).2.tree.read store.certificatePath =
    .ok (CertificateDocument.ofCertificate certificate features).toBytes := replace_saved saved
  have path : (store.store certificate features).2.certificatePath = store.certificatePath := rfl
  apply certificate_document_of_text
  simp only [readText, path, whole, CertificateDocument.text_to_bytes, if_true]

end DirectoryStore

namespace Store

variable {store : Store} {certificate : Certificate} {features : Option Features}

theorem keys_kept (found : store.keys.1.isSome = true) : store.keys.2 = store := by
  cases store with
  | memory slots => rfl
  | directory held =>
      have same : held.keys.2 = held := (DirectoryStore.keys_found found).1
      simp only [keys, same]

theorem store_same_keys (certificate : Certificate) (features : Option Features)
    (found : store.keys.1.isSome = true) :
    (store.store certificate features).2.keys.1 = store.keys.1 := by
  cases store with
  | memory slots => rfl
  | directory held => exact DirectoryStore.store_same_keys certificate features found

theorem store_keeps_keys (certificate : Certificate) (features : Option Features)
    (found : store.keys.1.isSome = true) :
    (store.store certificate features).2.keys.1.isSome = true := by
  rw [store_same_keys certificate features found]
  exact found

theorem store_features (saved : (store.store certificate features).1 = .ok ()) :
    (store.store certificate features).2.features = features := by
  cases store with
  | memory slots => rfl
  | directory held =>
      have document := DirectoryStore.store_saved saved
      simp only [Store.store, Store.features, DirectoryStore.features, document]
      rfl

theorem refused_features {fault : FileFault} (found : store.keys.1.isSome = true)
    (failed : (store.store certificate features).1 = .error fault) :
    (store.store certificate features).2.features = store.features := by
  cases store with
  | memory slots => cases failed
  | directory held =>
      have document := DirectoryStore.store_refused found failed
      simp only [Store.store, Store.features, DirectoryStore.features, document]

def onDisk : Store → Bool
  | memory _ => false
  | directory _ => true

/-- What becomes of a certificate that is stored: a document holds its times in whole
milliseconds. -/
def recalled (store : Store) (certificate : Certificate) : Certificate :=
  if store.onDisk then certificate.floorMillis else certificate

/-- What a certificate that is stored is read back as, however late its times are. -/
def readBack (store : Store) (certificate : Certificate) : Certificate :=
  if store.onDisk then certificate.persisted else certificate

theorem read_back_recalled (timed : store.onDisk = true → certificate.IsTimed) :
    store.readBack certificate = store.recalled certificate := by
  unfold readBack recalled
  split
  · rename_i disk
    exact (timed disk).persisted
  · rfl

theorem store_on_disk (store : Store) (certificate : Certificate) (features : Option Features) :
    (store.store certificate features).2.onDisk = store.onDisk := by
  cases store <;> rfl

theorem store_read_back (saved : (store.store certificate features).1 = .ok ()) :
    (store.store certificate features).2.certificate = some (store.readBack certificate) := by
  cases store with
  | memory slots => rfl
  | directory held =>
      have document := DirectoryStore.store_saved saved
      simp only [Store.store, Store.certificate, DirectoryStore.certificate, document]
      exact CertificateDocument.certificate_persisted certificate features

theorem store_certificate (saved : (store.store certificate features).1 = .ok ())
    (timed : store.onDisk = true → certificate.IsTimed) :
    (store.store certificate features).2.certificate = some (store.recalled certificate) := by
  rw [store_read_back saved, read_back_recalled timed]

theorem refused_certificate {fault : FileFault} (found : store.keys.1.isSome = true)
    (failed : (store.store certificate features).1 = .error fault) :
    (store.store certificate features).2.certificate = store.certificate := by
  cases store with
  | memory slots => cases failed
  | directory held =>
      have document := DirectoryStore.store_refused found failed
      simp only [Store.store, Store.certificate, DirectoryStore.certificate, document]

end Store

end CertRenewal
