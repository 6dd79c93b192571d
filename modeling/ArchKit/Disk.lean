import ArchKit.Keys

/-! A file system shared by concurrent runs. Paths are compared as they are spelled, and
no run removes or renames anything. -/

namespace ArchKit

/-- What is found at a path. A file that a run created remembers that run. -/
inductive Node (ι : Type) where
  | file (contents : Bytes) (writer : Option ι)
  | directory
  | symlink (target : Path)

abbrev Disk (ι : Type) := Path → Option (Node ι)

namespace Disk
variable {ι : Type}

/-- Where a path leads after the given number of symbolic links at most. -/
def follow (disk : Disk ι) : Nat → Path → Option Path
  | 0, _ => none
  | links + 1, path =>
    match disk path with
    | none => none
    | some (.symlink target) => disk.follow links target
    | some _ => some path

/-- Linux gives up after forty symbolic links. -/
def resolve (disk : Disk ι) (path : Path) : Option Path := disk.follow 41 path

/-- The file a path leads to, with its contents and the run that created it. -/
def Opens (disk : Disk ι) (path location : Path) (contents : Bytes) (writer : Option ι) : Prop :=
  disk.resolve path = some location ∧ disk location = some (.file contents writer)

def put (disk : Disk ι) (path : Path) (contents : Bytes) (writer : Option ι) : Disk ι :=
  Function.update disk path (some (.file contents writer))

/-- What the operating system may do with a request. Only an absent path is created,
and not through a symbolic link. Reading a file that a run has created may see any part
of it from its start; every other file is read whole. -/
def Serves (sdk : Sdk) (client : ι) (before : Disk ι) : (operation : Request) → operation.Reply → Disk ι → Prop
  | .symlinkMetadata path, reply, after => after = before ∧
      match reply with
      | .ok () => (before path).isSome
      | .error source => source.kind = .notFound → before path = none
  | .isFile path, reply, after => after = before ∧
      (reply = true → ∃ location contents writer, before.Opens path location contents writer)
  | .read path, reply, after => after = before ∧ ∀ bytes, reply = .ok bytes →
      ∃ location contents writer, before.Opens path location contents writer ∧
        if writer.isSome then bytes <+: contents else bytes = contents
  | .createNew path, reply, after =>
      match reply with
      | .ok file => file = ⟨path⟩ ∧ before path = none ∧ after = before.put path [] (some client)
      | .error _ => after = before
  | .write file buffer, reply, after =>
      match reply with
      | .ok count => count ≤ buffer.length ∧ ∃ contents writer, before file.path = some (.file contents writer) ∧
          after = before.put file.path (contents ++ buffer.take count) writer
      | .error _ => after = before
  | .generateNewKeypair _, reply, after => after = before ∧ reply.2 = sdk.xOnlyPublicKey reply.1
  | _, _, after => after = before

/-- One way to serve a request: truthfully and in full, or with a part of the buffer, or
by drawing a given key. -/
inductive Choice where
  | honest
  | part (count : Nat)
  | draw (keypair : Keypair)

/-- The contents of the file a path leads to. -/
def contents? (disk : Disk ι) (path : Path) : Option Bytes :=
  match (disk.resolve path).bind disk with
  | some (.file contents _) => some contents
  | _ => none

/-- The reply and the effect that a choice stands for, where it is possible. -/
def attempt (sdk : Sdk) (client : ι) (disk : Disk ι) : Choice → (operation : Request) → Option (operation.Reply × Disk ι)
  | .honest, .symlinkMetadata path =>
    match disk path with
    | some _ => some (.ok (), disk)
    | none => some (.error ⟨.notFound, "No such file or directory (os error 2)"⟩, disk)
  | .honest, .isFile path => some ((disk.contents? path).isSome, disk)
  | .honest, .read path =>
    match disk.contents? path with
    | some contents => some (.ok contents, disk)
    | none => some (.error ⟨.other, "Is a directory (os error 21)"⟩, disk)
  | .honest, .createNew path =>
    match disk path with
    | some _ => some (.error ⟨.alreadyExists, "File exists (os error 17)"⟩, disk)
    | none => some (.ok ⟨path⟩, disk.put path [] (some client))
  | .part count, .write file buffer =>
    match disk file.path with
    | some (.file contents writer) =>
      if count ≤ buffer.length then some (.ok count, disk.put file.path (contents ++ buffer.take count) writer) else none
    | _ => none
  | .honest, .syncAll _ => some (.ok (), disk)
  | .draw keypair, .generateNewKeypair _ => some ((keypair, sdk.xOnlyPublicKey keypair), disk)
  | _, _ => none

theorem contents?_eq_some {disk : Disk ι} {path : Path} {contents : Bytes} (found : disk.contents? path = some contents) :
    ∃ location writer, disk.Opens path location contents writer := by
  unfold contents? at found
  split at found
  next text writer opened =>
    cases found
    obtain ⟨location, resolved, present⟩ := Option.bind_eq_some_iff.mp opened
    exact ⟨location, writer, resolved, present⟩
  next => cases found

theorem attempt_serves {sdk : Sdk} {client : ι} {disk after : Disk ι} {choice : Choice} {operation : Request}
    {reply : operation.Reply} (attempted : attempt sdk client disk choice operation = some (reply, after)) :
    Serves sdk client disk operation reply after := by
  unfold attempt at attempted
  split at attempted
  next path =>
    split at attempted
    next found => cases attempted; exact ⟨rfl, by rw [found]; rfl⟩
    next absent => cases attempted; exact ⟨rfl, fun _ => absent⟩
  next path =>
    cases attempted
    refine ⟨rfl, fun present => ?_⟩
    obtain ⟨contents, found⟩ := Option.isSome_iff_exists.mp present
    obtain ⟨location, writer, opened⟩ := contents?_eq_some found
    exact ⟨location, contents, writer, opened⟩
  next path =>
    split at attempted
    next contents found =>
      cases attempted
      refine ⟨rfl, fun bytes received => ?_⟩
      cases received
      obtain ⟨location, writer, opened⟩ := contents?_eq_some found
      refine ⟨location, contents, writer, opened, ?_⟩
      split
      · exact List.prefix_refl _
      · rfl
    next => cases attempted; exact ⟨rfl, fun _ received => by cases received⟩
  next path =>
    split at attempted
    next => cases attempted; rfl
    next absent => cases attempted; exact ⟨rfl, absent, rfl⟩
  next count file buffer =>
    split at attempted
    next contents writer found =>
      split at attempted
      next fits => cases attempted; exact ⟨fits, contents, writer, found, rfl⟩
      next => cases attempted
    next => cases attempted
  next => cases attempted; rfl
  next => cases attempted; exact ⟨rfl, rfl⟩
  next => cases attempted

end Disk
end ArchKit
