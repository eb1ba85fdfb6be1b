import CertRenewal.Store.Directory
import CertRenewal.Store.Memory

/-!
A store of either make. Only reading the keys can change a store that is kept on
disk, and only writing can fail.
-/

namespace CertRenewal

inductive Store
  | memory (slots : Slots)
  | directory (store : DirectoryStore)
deriving DecidableEq, Repr

namespace Store

def certificate : Store → Option Certificate
  | memory slots => slots.certificate
  | directory store => store.certificate

def features : Store → Option Features
  | memory slots => slots.features
  | directory store => store.features

/-- The key pair, and the store after it was read. -/
def keys : Store → Option KeyPair × Store
  | memory slots => (slots.keys, memory slots)
  | directory store => let (keys, after) := store.keys; (keys, directory after)

def store (self : Store) (certificate : Certificate) (features : Option Features) :
    Except FileFault Unit × Store :=
  match self with
  | memory slots => (.ok (), memory (slots.store certificate features))
  | directory store =>
    let (result, after) := store.store certificate features
    (result, directory after)

def storeKeys (self : Store) (keys : KeyPair) : Except FileFault Unit × Store :=
  match self with
  | memory slots => (.ok (), memory (slots.storeKeys keys))
  | directory store => let (result, after) := store.storeKeys keys; (result, directory after)

def deleteKeys : Store → Store
  | memory slots => memory slots.deleteKeys
  | directory store => directory store.deleteKeys

def deleteCertificate : Store → Store
  | memory slots => memory slots.deleteCertificate
  | directory store => directory store.deleteCertificate

end Store

end CertRenewal
