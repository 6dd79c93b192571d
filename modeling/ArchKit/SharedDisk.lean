import ArchKit.CommandLine
import ArchKit.Disk

/-! The file system under all commands at once. Two spellings of a path may lead to one
place: directories, and links in the middle of a path, are what `locate` resolves. A link
at the end of a path is kept in the disk, with the place that its target leads to. -/

namespace ArchKit.Disk
variable {ι : Type}

/-- What the operating system may do with a request of a run. Only an absent place is
filled, and a new directory appears only where nothing was. Reading a file that a run has
created may see any part of it from its start. What building or writing an IDL does to
the disk is left open. -/
def Hosts (locate : Path → Path) (client : ι) (before : Disk ι) : (operation : Demand) → toolkit.Reply operation → Disk ι → Prop
  | .inl (.read path), reply, after => after = before ∧ ∀ bytes, reply = .ok bytes →
      ∃ location contents writer, before.Opens (locate path) location contents writer ∧
        if writer.isSome then bytes <+: contents else bytes = contents
  | .inl (.createNew path), reply, after =>
      match reply with
      | .ok file => file = ⟨path⟩ ∧ before (locate path) = none ∧ after = before.put (locate path) [] (some client)
      | .error _ => after = before
  | .inl (.write file buffer), reply, after =>
      match reply with
      | .ok count => count ≤ buffer.length ∧ ∃ contents writer, before (locate file.path) = some (.file contents writer) ∧
          after = before.put (locate file.path) (contents ++ buffer.take count) writer
      | .error _ => after = before
  | .inr (.createDirAll _), _, after => ∀ location,
      after location = before location ∨ before location = none ∧ after location = some .directory
  | .inr (.buildIdl _), _, _ | .inr (.writeFile ..), _, _ => True
  | _, _, after => after = before

end ArchKit.Disk
