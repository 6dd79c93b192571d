import ArchKit.Proofs.OneTransaction
import ArchKit.TokenReference

/-! Executable stand-ins for the System program's transfers and for a node. -/

namespace ArchKit
open Effects Radix

namespace Reference

section Transfer
variable (system : Pubkey)

/-- The tag of a transfer among the instructions of the System program. -/
def transferTag : Bytes := [2, 0, 0, 0]

def transfer (source destination : Pubkey) (lamports : UInt64) : Instruction :=
  .invoke system [.new source true, .new destination false] (transferTag ++ Layout.word.encode lamports)

def readTransfer : Instruction → Option (Pubkey × Pubkey × UInt64)
  | .invoke program [source, destination] data =>
    if program = system ∧ data.take 4 = transferTag then
      (Layout.word.decode (data.drop 4)).map fun lamports => (source.pubkey, destination.pubkey, lamports)
    else none
  | _ => none

variable {system} (source destination : Pubkey) (lamports : UInt64)

theorem readTransfer_transfer : readTransfer system (transfer system source destination lamports) = some (source, destination, lamports) := by
  have tagged : (transferTag ++ Layout.word.encode lamports).take 4 = transferTag := List.take_left' rfl
  have amount : (transferTag ++ Layout.word.encode lamports).drop 4 = Layout.word.encode lamports := List.drop_left' rfl
  rw [transfer, readTransfer, if_pos ⟨rfl, tagged⟩, amount, Layout.word.decode_encode]
  rfl

/-- Nobody but the source signs. -/
theorem transfer_signs {key : Pubkey} (other : key ≠ source) : signs system [transfer system source destination lamports] key = false := by
  simp [signs, named, transfer, Instruction.accounts, AccountMeta.new, AccountMeta.newReadonly, Ne.symm other]

theorem compile_transfer : (compile system [transfer system source destination lamports] (some source)).1 = 1 ∧
    (compile system [transfer system source destination lamports] (some source)).2.head? = some source := by
  have alone : ordered system [transfer system source destination lamports] (some source)
      (signs system [transfer system source destination lamports]) = [] := by
    have silent : (keys system [transfer system source destination lamports] (some source)).filter
        (signs system [transfer system source destination lamports]) = [] := by
      apply List.filter_eq_nil_iff.mpr
      intro key member
      have listed := List.mem_dedup.mp ((List.mem_insertionSort _).mp member)
      have other : key ≠ source := by simpa using (List.mem_filter.mp listed).2
      rw [transfer_signs source destination lamports other]
      exact Bool.false_ne_true
    rw [ordered, silent]
    rfl
  simp only [compile, alone]
  exact ⟨rfl, rfl⟩

end Transfer

/-- The System program beside the others. -/
def TokenPrograms.tools (programs : TokenPrograms)
    (compiles : programs.signing.messageKeys = compile programs.signing.systemProgram) : ToolSdk where
  toTokenSdk := programs.sdk
  transfer := transfer programs.signing.systemProgram
  readTransfer := readTransfer programs.signing.systemProgram
  readTransfer_transfer := readTransfer_transfer
  transfer_signers source destination lamports := by
    change (programs.signing.messageKeys _ _).1 = 1
    rw [compiles]
    exact (compile_transfer source destination lamports).1
  transfer_payer source destination lamports := by
    change (programs.signing.messageKeys _ _).2.head? = some source
    rw [compiles]
    exact (compile_transfer source destination lamports).2

end Reference

namespace Node
variable {ι : Type}

/-- A machine with some files, on which every message is signed with the same bytes. -/
structure Desk where
  files : Path → Option Bytes
  signature : Signature

/-- A node that executes what it is sent, in front of some machine. -/
def respond (process : Processor) (desk : Desk) (client : ι) (world : World ι) (operation : Request) :
    Option (operation.Reply × World ι) :=
  match operation with
  | .isFile path => some ((desk.files path).isSome, world)
  | .read path => (desk.files path).map fun bytes => (.ok bytes, world)
  | .signMessageBip322 .. => some (.ok desk.signature, world)
  | .readAccountInfo address => (world.ledger.accounts address).map fun info => (.ok info, world)
  | .getBestFinalizedBlockHash => some (.ok world.nextId, world)
  | .sendTransaction transaction =>
    match process world.ledger transaction with
    | some ledger => some (.ok world.nextId, world.commit client transaction ledger)
    | none => some (.ok world.nextId, world.reject client transaction "instruction failed")
  | .waitForProcessedTransaction id => (world.log[id.number]?).map fun entry => (.ok ⟨entry.status⟩, world)
  | _ => none

/-- A node that shows a ledger and acknowledges whatever it is sent, and a machine on
which no file can be written. -/
def pretend (ledger : Ledger) (desk : Desk) : Oracle api := fun _ operation =>
  match operation with
  | .readAccountInfo address =>
    match ledger.accounts address with
    | some info => .ok info
    | none => .error (.notFound "account not found")
  | .getProgramAccounts .. => .ok []
  | .getMultipleAccounts addresses => .ok (addresses.map fun _ => none)
  | .getBestFinalizedBlockHash => .ok ⟨0⟩
  | .sendTransaction _ => .ok ⟨0⟩
  | .waitForProcessedTransaction _ => .ok ⟨.processed⟩
  | .createAndFundAccountWithFaucet _ => .ok ()
  | .tryDeployProgram .. => .error "unsupported"
  | .generateNewKeypair _ => (Reference.authorityKeypair, Reference.publicKey Reference.authorityKeypair)
  | .isFile path => (desk.files path).isSome
  | .read path =>
    match desk.files path with
    | some bytes => .ok bytes
    | none => .error ⟨.notFound, "no such file"⟩
  | .symlinkMetadata _ | .createNew _ | .write .. | .syncAll _ => .error ⟨.permissionDenied, "permission denied"⟩
  | .signMessageBip322 .. => .ok desk.signature
  | .post .. => .error "unsupported"

theorem respond_serves {process : Processor} {desk : Desk} {client : ι} {before after : World ι} {operation : Request}
    {reply : operation.Reply} (responded : respond process desk client before operation = some (reply, after)) :
    Serves process True client before operation reply after := by
  cases operation with
  | readAccountInfo address =>
    obtain ⟨info, present, same⟩ := Option.map_eq_some_iff.mp responded
    cases same
    exact ⟨rfl, present⟩
  | sendTransaction transaction =>
    simp only [respond] at responded
    split at responded
    next ledger done => cases responded; exact .inr ⟨.inl rfl, .inl ⟨ledger, done, rfl⟩⟩
    next refused => cases responded; exact .inr ⟨.inl rfl, .inr ⟨_, rfl⟩⟩
  | waitForProcessedTransaction id =>
    obtain ⟨entry, recorded, same⟩ := Option.map_eq_some_iff.mp responded
    cases same
    exact ⟨rfl, .inl ⟨entry, recorded, rfl⟩⟩
  | read path =>
    obtain ⟨bytes, _, same⟩ := Option.map_eq_some_iff.mp responded
    cases same
    rfl
  | isFile | getBestFinalizedBlockHash | signMessageBip322 => cases responded; rfl
  | _ => cases responded

end Node
end ArchKit
