import CertRenewal.Files.Tree

/-!
What the program asks of the machine that it runs on, whatever that machine is.
One such machine is a tree of files.
-/

namespace CertRenewal

inductive ListenFault
  | addressInUse
  | addressNotAvailable
  | unknownHost
  | networkUnreachable
deriving DecidableEq, Repr

def ListenFault.message : ListenFault → String
  | .addressInUse => "Address already in use (os error 98)"
  | .addressNotAvailable => "Cannot assign requested address (os error 99)"
  | .unknownHost =>
    "failed to lookup address information: Temporary failure in name resolution"
  | .networkUnreachable => "Network is unreachable (os error 101)"

/-- A machine, with what it does in a monad. -/
structure Machine (m : Type → Type) where
  /-- Creates a directory and those on the way to it. -/
  makeDirectories : String → m (Except FileFault Unit)
  read : String → m (Except FileFault Bytes)
  listen : String → UInt16 → m (Except ListenFault Unit)

namespace FileTree

/-- The names in a path and whether it begins at the root. -/
def splitPath (text : String) : Bool × List String :=
  let isAbsolute := text.toList.head? = some '/'
  let names := (text.toList.splitOn '/').filter fun name => !name.isEmpty && name ≠ ['.']
  (isAbsolute, names.map String.ofList)

/-- Follows names from a directory; two dots lead back to the directory before. -/
def follow (tree : FileTree) (place : Path) : List String → Except FileFault Path
  | [] => .ok place
  | ".." :: names =>
    match tree.get? place with
    | some .directory => follow tree place.dropLast names
    | some (.file _) => .error .notDirectory
    | none => .error .notFound
  | name :: names => follow tree (place ++ [name]) names

/-- Where a path leads, seen from a directory. -/
def locate (tree : FileTree) (directory : Path) (text : String) : Except FileFault Path :=
  match splitPath text with
  | (true, names) => tree.follow [] names
  | (false, names) => tree.follow directory names

end FileTree

namespace Machine

def isByte (part : List Char) : Bool :=
  match part with
  | [] => false
  | ['0'] => true
  | '0' :: _ => false
  | digits =>
    digits.length ≤ 3 && digits.all Char.isDigit
      && (digits.foldl (fun value digit => value * 10 + (digit.toNat - 48)) 0) ≤ 255

def isNumericHost (host : String) : Bool :=
  let parts := host.toList.splitOn '.'
  parts.length = 4 && parts.all isByte

def isOwnHost (host : String) : Bool :=
  ["localhost", "::1", "::", "[::1]", "[::]", "0.0.0.0"].contains host
    || isNumericHost host && "127.".toList.isPrefixOf host.toList

/-- Why a machine without a network cannot take requests on a host. -/
def listenAlone (host : String) : Except ListenFault Unit :=
  if isOwnHost host then .ok ()
  else if isNumericHost host then .error .addressNotAvailable
  else .error .unknownHost

/-- A machine that is a tree of files seen from one of its directories. -/
def ofTree (directory : Path) (listen : String → UInt16 → Except ListenFault Unit) :
    Machine (StateM FileTree) where
  makeDirectories text tree :=
    match tree.locate directory text with
    | .error fault => (.error fault, tree)
    | .ok path =>
      match tree.makeDirectories path with
      | .error fault => (.error fault, tree)
      | .ok grown => (.ok (), grown)
  read text tree :=
    match tree.locate directory text with
    | .error fault => (.error fault, tree)
    | .ok path => (tree.read path, tree)
  listen host port tree := (listen host port, tree)

end Machine

end CertRenewal
