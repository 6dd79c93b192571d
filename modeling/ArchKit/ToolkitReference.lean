import ArchKit.Proofs.SharedChain
import ArchKit.Sessions
import ArchKit.SharedDisk
import ArchKit.Effects.Footprint

/-! A toolkit whose commands can be run, on a file system that can be played. -/

namespace ArchKit
open Effects

namespace Disk
variable {ι : Type} {sdk : Sdk} {client : ι} {before after : Disk ι}

/-- A file system on which a path leads to itself is one for all commands. -/
theorem Serves.hosts {operation : Request} {reply : operation.Reply} (serves : Serves sdk client before operation reply after) :
    Hosts id client before (.inl operation) reply after := by
  cases operation with
  | symlinkMetadata | isFile | generateNewKeypair => exact serves.1
  | _ => exact serves

/-- A new directory. -/
def createDir (disk : Disk ι) (path : Path) : Except IoError Unit × Disk ι :=
  match disk path with
  | none => (.ok (), Function.update disk path (some .directory))
  | some .directory => (.ok (), disk)
  | some _ => (.error ⟨.alreadyExists, "File exists (os error 17)"⟩, disk)

/-- One way to serve a request of any command. -/
def attemptAny (sdk : Sdk) (client : ι) (disk : Disk ι) (choice : Choice) :
    (operation : Demand) → Option (toolkit.Reply operation × Disk ι)
  | .inl operation => attempt sdk client disk choice operation
  | .inr (.createDirAll path) => some (createDir disk path)
  | .inr (.println _) => some ((), disk)
  | .inr _ => none

theorem attemptAny_hosts {choice : Choice} {operation : Demand} {reply : toolkit.Reply operation}
    (attempted : attemptAny sdk client before choice operation = some (reply, after)) :
    Hosts id client before operation reply after := by
  rcases operation with operation | operation
  · exact (attempt_serves attempted).hosts
  · cases operation with
    | createDirAll path =>
      intro location
      have made : after = (createDir before path).2 := by rw [Option.some.inj attempted]
      rw [made]
      unfold createDir
      split
      next absent =>
        by_cases here : location = path
        · subst here
          exact .inr ⟨absent, Function.update_self ..⟩
        · exact .inl (Function.update_of_ne here ..)
      next => exact .inl rfl
      next => exact .inl rfl
    | println text =>
      cases attempted
      rfl
    | _ => cases attempted

end Disk

namespace Session
variable {ι : Type} [DecidableEq ι] {process : Processor} {desk : Node.Desk} {client : ι} {before after : Session ι}

/-- One way to serve a request of a user, on a chain that cannot be searched. -/
def respond (process : Processor) (desk : Node.Desk) (client : ι) (before : Session ι) :
    (operation : Demand) → Option (toolkit.Reply operation × Session ι)
  | .inl (.getProgramAccounts ..) => none
  | .inl (.getMultipleAccounts addresses) => some (.ok (before.world.ledger.several addresses), before)
  | .inl operation => (Node.respond process desk client before.world operation).map fun answer => (answer.1, ⟨answer.2, before.screen⟩)
  | .inr (.println line) => some ((), ⟨before.world, Function.update before.screen client (before.screen client ++ [line])⟩)
  | .inr _ => none

theorem respond_serves {operation : Demand} {reply : toolkit.Reply operation}
    (responded : respond process desk client before operation = some (reply, after)) :
    Serves process True client before operation reply after := by
  rcases operation with operation | operation
  · cases operation with
    | getProgramAccounts => cases responded
    | getMultipleAccounts addresses =>
      cases responded
      exact ⟨rfl, fun infos same => by cases same; rfl⟩
    | _ =>
      unfold respond at responded
      obtain ⟨⟨answer, world⟩, answered, same⟩ := Option.map_eq_some_iff.mp responded
      cases same
      exact ⟨rfl, Node.respond_serves answered⟩
  · cases operation with
    | println line => cases responded; rfl
    | _ => cases responded

end Session

namespace CommandLine.Example
open Reference

def template : Init.Dir :=
  .mk ⟨[]⟩ [.mk ⟨utf8 "src"⟩ [] [⟨⟨utf8 "src/lib.rs"⟩, utf8 "mod error;\n"⟩]] [⟨⟨utf8 "README.md.j2"⟩, utf8 "A program."⟩]

/-- The templates name no variables, and no vanity search ends. -/
def library (tools : ToolSdk) : Libraries :=
  { tools with
    bpfLoader := .fromSlice [1]
    programDataOffset := 40
    extendBytesMaxLen := 1000
    accountFundingAmount := 1000000
    codec := site.codec
    templates := ⟨fun _ source _ => .ok source⟩
    simpleProgramTemplate := template
    pretty := fun _ => .ok "null"
    messages := ⟨fun _ _ => none, fun _ => none⟩
    availableThreads := 1
    runSearch := fun _ => throw (.vanitySearch "no search") }

def shipped : Libraries := library Submission.Example.tools

def programKey : Path := ⟨utf8 "program.key"⟩

def offline (command : Subcommand) : CommandLine := ⟨"", .regtest, false, command, fun _ => none⟩

def initializing : CommandLine := offline (.init ⟨⟨utf8 "demo"⟩, programKey⟩)

/-- The first key would take the place of a file of the project. -/
def generating : CommandLine := offline (.keygen ⟨none, none, [⟨utf8 "demo/README.md"⟩, ⟨utf8 "wallet.key"⟩]⟩)

def looking : CommandLine :=
  ⟨"http://localhost:9002", .regtest, false,
    .tokenBalance ⟨toString TokenTransfer.Example.authority, toString TokenTransfer.Example.mint⟩, fun _ => none⟩

/-- A payment from the account that the other command looks at. -/
def paying : CommandLine :=
  { looking with command := .tokenTransfer ⟨toString TokenTransfer.Example.recipient, toString TokenTransfer.Example.mint, "1.5",
      .file ⟨utf8 "transfer.key"⟩, none⟩ }

theorem searches (search : Vanity.VanitySearch) :
    Fallible.Uses (I := api) (fun operation => ∃ network, operation = .generateNewKeypair network) (shipped.runSearch search) :=
  Fallible.Within.throw _

/-- A computer on which there are no files but the key, and everything works. -/
def granting : Oracle toolkit := fun _ operation =>
  match operation with
  | .inl (.isFile _) => true
  | .inl (.read _) => .ok (utf8 (Keys.encodedSecret firstBuffer))
  | .inl (.symlinkMetadata _) => .error ⟨.notFound, "No such file or directory (os error 2)"⟩
  | .inl (.createNew path) => .ok ⟨path⟩
  | .inl (.write _ buffer) => .ok buffer.length
  | .inl (.syncAll _) => .ok ()
  | .inl operation => Node.pretend Submission.Example.start.ledger Submission.Example.desk [] operation
  | .inr (.isNodeReady _) => .ok (some true)
  | .inr (.getBlockCount _) => .ok 0
  | .inr (.buildIdl _) => .error "no such project"
  | .inr (.createDirAll _) | .inr (.writeFile ..) | .inr (.writeStdout _) => .ok ()
  | .inr .readStdin => .ok []
  | .inr .drawNonce => .error "no entropy"
  | .inr (.sleep _) | .inr (.println _) => ()

/-- The file that an exchange creates. -/
def created? : Exchange toolkit → Option Path
  | ⟨.inl (.createNew path), _⟩ => some path
  | _ => none

end CommandLine.Example
end ArchKit
