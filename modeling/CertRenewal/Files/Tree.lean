import CertRenewal.Bytes
import CertRenewal.Files.Fault

/-!
A tree of files below a directory that always exists. An operation on a path
first needs every directory on the way to it.
-/

namespace CertRenewal

abbrev Path := List String

inductive FileEntry
  | file (content : Bytes)
  | directory
deriving DecidableEq, Repr

structure FileTree where
  entries : List (Path × FileEntry)
deriving DecidableEq, Repr

namespace FileTree

def empty : FileTree := ⟨[]⟩

def get? (tree : FileTree) (path : Path) : Option FileEntry :=
  match path with
  | [] => some .directory
  | _ => tree.entries.lookup path

def erase (tree : FileTree) (path : Path) : FileTree :=
  ⟨tree.entries.filter fun entry => entry.1 ≠ path⟩

def put (tree : FileTree) (path : Path) (entry : FileEntry) : FileTree :=
  ⟨(path, entry) :: (tree.erase path).entries⟩

/-- What stands in the way to a path: `before` is a directory, and the names
after it are still to be followed, the last one not into anything. -/
def obstacleFrom (tree : FileTree) (before : Path) : List String → Option FileFault
  | [] => none
  | [_] => none
  | name :: next :: names =>
    match tree.get? (before ++ [name]) with
    | none => some .notFound
    | some (.file _) => some .notDirectory
    | some .directory => obstacleFrom tree (before ++ [name]) (next :: names)

def obstacle (tree : FileTree) (path : Path) : Option FileFault := tree.obstacleFrom [] path

def read (tree : FileTree) (path : Path) : Except FileFault Bytes :=
  match tree.obstacle path with
  | some fault => .error fault
  | none =>
    match tree.get? path with
    | none => .error .notFound
    | some .directory => .error .isDirectory
    | some (.file content) => .ok content

def write (tree : FileTree) (path : Path) (content : Bytes) : Except FileFault FileTree :=
  match tree.obstacle path with
  | some fault => .error fault
  | none =>
    match tree.get? path with
    | some .directory => .error .isDirectory
    | _ => .ok (tree.put path (.file content))

def makeDirectory (tree : FileTree) (path : Path) : Except FileFault FileTree :=
  match tree.obstacle path with
  | some fault => .error fault
  | none =>
    match tree.get? path with
    | some _ => .error .exists
    | none => .ok (tree.put path .directory)

/-- Creates a directory unless it is there. -/
def ensureDirectory (tree : FileTree) (path : Path) : Except FileFault FileTree :=
  match tree.get? path with
  | some .directory => .ok tree
  | _ => tree.makeDirectory path

/-- Creates the directories that the names lead through, after those of
`before`. -/
def ensureFrom (tree : FileTree) (before : Path) : List String → Except FileFault FileTree
  | [] => .ok tree
  | name :: names => do
    let grown ← tree.ensureDirectory (before ++ [name])
    grown.ensureFrom (before ++ [name]) names

/-- Creates a directory and those on the way to it. A file in its own place is
told from one on the way. -/
def makeDirectories (tree : FileTree) (path : Path) : Except FileFault FileTree :=
  match path with
  | [] => .ok tree
  | _ => do
    let way ←
      match tree.ensureFrom [] path.dropLast with
      | .ok grown => .ok grown
      | .error .exists => .error .notDirectory
      | .error fault => .error fault
    way.ensureDirectory path

/-- Gives a file another name, in place of any file that has it. -/
def rename (tree : FileTree) (source target : Path) : Except FileFault FileTree := do
  let content ← tree.read source
  match tree.obstacle target with
  | some fault => .error fault
  | none =>
    match tree.get? target with
    | some .directory => .error .isDirectory
    | _ => .ok ((tree.erase source).put target (.file content))

/-- Takes a file away; anything else stays as it is. -/
def remove (tree : FileTree) (path : Path) : FileTree :=
  match tree.read path with
  | .ok _ => tree.erase path
  | .error _ => tree

/-- The names in a directory, in order; none when it is not one. -/
def names? (tree : FileTree) (path : Path) : Option (List String) :=
  if (tree.obstacle path).isNone && tree.get? path = some .directory then
    some <| (tree.entries.filterMap fun entry =>
      match entry.1.getLast? with
      | some name => if entry.1.dropLast = path then some name else none
      | none => none).mergeSort fun first second => first ≤ second
  else none

end FileTree

end CertRenewal
