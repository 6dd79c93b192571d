import ArchKit.CommandError
import ArchKit.Node
import ArchKit.Utils

/-! The command `transfer-arch`, and the transfers of the System program on the chain. -/

namespace ArchKit
open Effects Token Transaction

/-- What the System program makes of a transfer. Its sender alone signs. -/
structure NativeSdk extends SigningSdk where
  transfer : (source destination : Pubkey) → (lamports : UInt64) → Instruction
  readTransfer : Instruction → Option (Pubkey × Pubkey × UInt64)
  readTransfer_transfer : ∀ source destination lamports,
    readTransfer (transfer source destination lamports) = some (source, destination, lamports)
  transfer_signers : ∀ source destination lamports,
    (messageKeys [transfer source destination lamports] (some source)).1 = 1
  transfer_payer : ∀ source destination lamports,
    (messageKeys [transfer source destination lamports] (some source)).2.head? = some source

namespace TransferArch

def archDecimals : UInt8 := 9

def baseFeePerSignature : UInt64 := 5000

structure Args where
  destination : String
  amount : String
  signer : SignerSource

def requireDistinctAccounts (source destination : Pubkey) : Except CommandError Unit :=
  if source ≠ destination then .ok () else .error (.nativeTransfer s!"source and destination are both {source}")

variable (sdk : NativeSdk)

def transferInstruction (source destination : Pubkey) (amount : UInt64) : Instruction := sdk.transfer source destination amount

def validateSourceAccount (address : Pubkey) (account : AccountInfo) (requiredBalance : UInt64) : Except CommandError Unit := do
  if account.owner ≠ sdk.systemProgram then
    throw (.nativeTransfer
      s!"source account {address} is owned by {account.owner}, expected system program {sdk.systemProgram}")
  if account.data ≠ [] then
    throw (.nativeTransfer s!"source account {address} contains data and cannot fund a native ARCH transfer")
  if account.isExecutable then
    throw (.nativeTransfer s!"source account {address} is executable and cannot fund a native ARCH transfer")
  if account.lamports < requiredBalance.toNat then
    throw (.nativeTransfer
      s!"source account {address} has {account.lamports} lamports, but the transfer and fee require {requiredBalance.toNat}")

/-- `checked_add` of the amount and the fee. -/
def requiredBalance (amount : UInt64) : Except CommandError UInt64 :=
  match checkedAdd amount baseFeePerSignature with
  | some total => .ok total
  | none => .error (.nativeTransfer "amount plus fee overflows u64")

def readSource (source : Pubkey) : Cli AccountInfo := do Cli.rpc (← Cli.readAccountInfo source)

def run (shell : Shell) (args : Args) : Command Unit := do
  let signer ← (args.signer.resolve sdk.toSigningSdk shell "native-arch-transfer" "transfer key").wrap CommandError.cli
  let source := signer.pubkey
  let destination ← Fallible.ofExcept (wrapError CommandError.cli (parsePubkey args.destination "destination"))
  Fallible.ofExcept (requireDistinctAccounts source destination)
  let amount ← Fallible.ofExcept (wrapError CommandError.cli (Utils.parseAmount args.amount archDecimals))
  let required ← Fallible.ofExcept (requiredBalance amount)
  let sourceAccount ← (readSource source).wrap CommandError.cli
  Fallible.ofExcept (validateSourceAccount sdk source sourceAccount required)
  let instruction := transferInstruction sdk source destination amount
  let _ ← (sendAndConfirm "native ARCH transfer" [instruction] source [signer]).wrap CommandError.cli

end TransferArch

/-! The chain: none of the following is code of the toolkit. -/

namespace SystemProgram
variable (sdk : NativeSdk) (ledger : Ledger)

/-- Where nothing is, a transfer opens an account. -/
def credit (destination : Pubkey) (lamports : Nat) : Option Ledger :=
  match ledger.accounts destination with
  | none => some (ledger.store destination ⟨lamports, sdk.systemProgram, [], false⟩)
  | some receiver =>
    if receiver.lamports + lamports < 2 ^ 64 then
      some (ledger.store destination { receiver with lamports := receiver.lamports + lamports })
    else none

def debit (payer : Pubkey) (lamports : Nat) : Option Ledger :=
  match ledger.accounts payer with
  | none => none
  | some sender =>
    if lamports ≤ sender.lamports then some (ledger.store payer { sender with lamports := sender.lamports - lamports }) else none

/-- An account without data that belongs to the System program. -/
def Wallet (account : AccountInfo) : Prop := account.owner = sdk.systemProgram ∧ account.data = []

instance (account : AccountInfo) : Decidable (Wallet sdk account) := inferInstanceAs (Decidable (_ ∧ _))

def transfer (source destination : Pubkey) (lamports : Nat) : Option Ledger := do
  let sender ← ledger.accounts source
  guard (Wallet sdk sender)
  let paid ← debit ledger source lamports
  credit sdk paid destination lamports

def processInstruction (instruction : Instruction) : Option Ledger := do
  let (source, destination, lamports) ← sdk.readTransfer instruction
  transfer sdk ledger source destination lamports.toNat

/-- The first account of a transaction pays a fee for each signature. -/
def chargeFee (feePerSignature : Nat) (message : ArchMessage) : Option Ledger := do
  let payer ← message.accountKeys.head?
  debit ledger payer (feePerSignature * message.numRequiredSignatures)

/-- The fee and all instructions, or nothing. -/
def process (feePerSignature : Nat) : Processor := fun ledger transaction => do
  let charged ← chargeFee ledger feePerSignature transaction.message
  transaction.message.instructions.foldlM (processInstruction sdk) charged

end SystemProgram
end ArchKit
