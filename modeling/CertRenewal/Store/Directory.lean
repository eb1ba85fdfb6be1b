import CertRenewal.Files.Tree
import CertRenewal.Store.Document

/-!
A store kept as two documents in a directory. A document is written beside its
place and then renamed into it, so that a failure on the way leaves the earlier
document as it was. Keys that cannot be understood are deleted, and the
certificate with them.
-/

namespace CertRenewal

/-- A tree of files and the directory in it where a store lives. -/
structure DirectoryStore where
  directory : Path
  tree : FileTree
deriving DecidableEq, Repr

namespace DirectoryStore

def keysPath (store : DirectoryStore) : Path := store.directory ++ ["keys.json"]

def keysDraftPath (store : DirectoryStore) : Path := store.directory ++ ["keys.tmp"]

def certificatePath (store : DirectoryStore) : Path := store.directory ++ ["certificate.json"]

def certificateDraftPath (store : DirectoryStore) : Path :=
  store.directory ++ ["certificate.tmp"]

def readText (store : DirectoryStore) (path : Path) : Option Bytes :=
  match store.tree.read path with
  | .ok content => if (Bytes.text? content).isSome then some content else none
  | .error _ => none

/-- The document of the certificate, when there is one that can be read. -/
def certificateDocument (store : DirectoryStore) : Option CertificateDocument := do
  (CertificateDocument.ofBytes (← store.readText store.certificatePath)).toOption

def certificate (store : DirectoryStore) : Option Certificate := do
  (← store.certificateDocument).certificate?

def features (store : DirectoryStore) : Option Features := do
  (← store.certificateDocument).features

def deleteCertificate (store : DirectoryStore) : DirectoryStore :=
  { store with tree := store.tree.remove store.certificatePath }

def deleteKeys (store : DirectoryStore) : DirectoryStore :=
  ({ store with tree := store.tree.remove store.keysPath } : DirectoryStore).deleteCertificate

def readKeys (content : Bytes) : Option KeyPair := do
  (← (KeyDocument.ofBytes content).toOption).keys?

/-- The key pair, and the store after it was read. -/
def keys (store : DirectoryStore) : Option KeyPair × DirectoryStore :=
  match store.readText store.keysPath with
  | none => (none, store)
  | some content =>
    match readKeys content with
    | some keys => (some keys, store)
    | none => (none, store.deleteKeys)

/-- Writes a document beside its place and renames it. The tree is given back
in any case, since a failure may come after the first of these steps. -/
def replace (tree : FileTree) (directory draft path : Path) (content : Bytes) :
    Except FileFault Unit × FileTree :=
  match tree.makeDirectories directory with
  | .error fault => (.error fault, tree)
  | .ok grown =>
    match grown.write draft content with
    | .error fault => (.error fault, grown)
    | .ok written =>
      match written.rename draft path with
      | .error fault => (.error fault, written)
      | .ok renamed => (.ok (), renamed)

def store (store : DirectoryStore) (certificate : Certificate) (features : Option Features) :
    Except FileFault Unit × DirectoryStore :=
  let (result, tree) := replace store.tree store.directory store.certificateDraftPath
    store.certificatePath (CertificateDocument.ofCertificate certificate features).toBytes
  (result, { store with tree })

def storeKeys (store : DirectoryStore) (keys : KeyPair) :
    Except FileFault Unit × DirectoryStore :=
  let (result, tree) := replace store.tree store.directory store.keysDraftPath
    store.keysPath (KeyDocument.ofKeys keys).toBytes
  (result, { store with tree })

end DirectoryStore

end CertRenewal
