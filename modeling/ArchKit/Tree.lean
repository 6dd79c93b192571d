import ArchKit.Sdk
import Mathlib.Algebra.Order.Group.Nat

/-! A directory tree and how the operating system finds a path in it: component by
component, through symbolic links and parent directories. -/

namespace ArchKit

namespace Path

/-- The components between the slashes. -/
def pieces (path : Path) : List Bytes := (path.bytes.splitOn 47).filter (· ≠ [])

def isAbsolute (path : Path) : Bool := path.bytes.head? = some 47

def endsInSlash (path : Path) : Bool := path.bytes.getLast? = some 47

/-- The name of a new file: the last component, if it is a name and no slash follows. -/
def newName? (path : Path) : Option Bytes :=
  if path.endsInSlash then none else path.pieces.getLast?.filter (fun name => name ≠ [46] ∧ name ≠ [46, 46])

end Path

/-- What is found under a name in a directory. -/
inductive Item (δ : Type) where
  | file (contents : Bytes)
  | directory (location : δ)
  | symlink (target : Path)
  deriving DecidableEq

/-- The directories, the working directory of the process, and what the process may do in
each directory. -/
structure Tree (δ : Type) where
  root : δ
  cwd : δ
  parent : δ → δ
  searchable : δ → Bool
  writable : δ → Bool
  entries : δ → Bytes → Option (Item δ)

namespace Tree
variable {δ : Type}

def noEntry : IoError := ⟨.notFound, "No such file or directory (os error 2)"⟩
def denied : IoError := ⟨.permissionDenied, "Permission denied (os error 13)"⟩
def exists' : IoError := ⟨.alreadyExists, "File exists (os error 17)"⟩
def notDirectory : IoError := ⟨.other, "Not a directory (os error 20)"⟩
def isDirectory : IoError := ⟨.other, "Is a directory (os error 21)"⟩
def tooManyLinks : IoError := ⟨.other, "Too many levels of symbolic links (os error 40)"⟩

variable (tree : Tree δ)

/-- The directory in which the components of a path start. -/
def start (base : δ) (path : Path) : δ := if path.isAbsolute then tree.root else base

/-- The directory that the components lead to. A symbolic link among them is followed with
the components that are left. -/
def walk (follow : δ → Path → List Bytes → Except IoError δ) : δ → List Bytes → Except IoError δ
  | location, [] => .ok location
  | location, name :: rest =>
    if !tree.searchable location then .error denied
    else if name = [46] then walk follow location rest
    else if name = [46, 46] then walk follow (tree.parent location) rest
    else
      match tree.entries location name with
      | none => .error noEntry
      | some (.file _) => .error notDirectory
      | some (.directory next) => walk follow next rest
      | some (.symlink target) => follow location target rest

/-- Walk with the given number of symbolic links at most. -/
def resolve : Nat → δ → List Bytes → Except IoError δ
  | 0 => tree.walk fun _ _ _ => .error tooManyLinks
  | links + 1 => tree.walk fun location target rest =>
    if target.bytes = [] then .error noEntry else resolve links (tree.start location target) (target.pieces ++ rest)

/-- Linux follows forty symbolic links. -/
def directoryOf (path : Path) (names : List Bytes) : Except IoError δ := tree.resolve 40 (tree.start tree.cwd path) names

/-- The directory that holds the last component of a path. -/
def parentOf (path : Path) : Except IoError δ := tree.directoryOf path path.pieces.dropLast

/-- `lstat`. A path without a name of its own, such as one that ends in a slash, is a directory. -/
def lstat (path : Path) : Except IoError Unit :=
  if path.bytes = [] then .error noEntry
  else
    match tree.parentOf path, path.newName? with
    | .error error, _ => .error error
    | .ok _, none => (tree.directoryOf path path.pieces).map fun _ => ()
    | .ok location, some name =>
      if !tree.searchable location then .error denied
      else if (tree.entries location name).isSome then .ok ()
      else .error noEntry

/-- Where `open` with `O_CREAT | O_EXCL` creates a file. -/
def creates (path : Path) : Except IoError (δ × Bytes) :=
  if path.bytes = [] then .error noEntry
  else
    match tree.parentOf path, path.newName? with
    | .error error, _ => .error error
    | .ok _, none => .error isDirectory
    | .ok location, some name =>
      if !tree.searchable location then .error denied
      else if (tree.entries location name).isSome then .error exists'
      else if !tree.writable location then .error denied
      else .ok (location, name)

/-- The place a path names. -/
def slot (path : Path) : Option (δ × Bytes) :=
  match tree.parentOf path, path.newName? with
  | .ok location, some name => some (location, name)
  | _, _ => none

variable [DecidableEq δ]

def put (place : δ × Bytes) (contents : Bytes) : Tree δ :=
  let changed := Function.update (tree.entries place.1) place.2 (some (.file contents))
  { tree with entries := Function.update tree.entries place.1 changed }

/-- The operating system on a quiet machine: nobody else uses the tree and no operation
fails for a reason outside of it. A write may take a part of the buffer. -/
def Serves (sdk : Sdk) (before : Tree δ) : (operation : Request) → operation.Reply → Tree δ → Prop
  | .symlinkMetadata path, reply, after => after = before ∧ reply = before.lstat path
  | .createNew path, reply, after =>
    match before.creates path with
    | .ok place => reply = .ok ⟨path⟩ ∧ after = before.put place []
    | .error error => reply = .error error ∧ after = before
  | .write file buffer, reply, after =>
    ∃ place contents count, before.slot file.path = some place ∧ before.entries place.1 place.2 = some (.file contents) ∧
      reply = .ok count ∧ count ≤ buffer.length ∧ (buffer ≠ [] → 0 < count) ∧
      after = before.put place (contents ++ buffer.take count)
  | .syncAll _, reply, after => after = before ∧ reply = .ok ()
  | .generateNewKeypair _, reply, after => after = before ∧ reply.2 = sdk.xOnlyPublicKey reply.1
  | _, _, after => after = before

end Tree
end ArchKit
