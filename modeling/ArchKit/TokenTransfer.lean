import ArchKit.TokenAccounts
import ArchKit.Utils

/-! The commands `token-transfer` and `token-transfer-to-account`. -/

namespace ArchKit.TokenTransfer
open Effects Token Transaction

structure UserArgs where
  recipient : String
  mint : String
  amount : String
  signer : SignerSource
  source : Option String

structure AccountArgs where
  destination : String
  mint : String
  amount : String
  signer : SignerSource
  source : Option String

inductive Destination where
  | user (recipient : Pubkey)
  | account (destination : Pubkey)

structure TransferArgs where
  destination : Destination
  mint : String
  amount : String
  signer : SignerSource
  source : Option String

def requireInitialized (address : Pubkey) (state : AccountState) (label : String) : Except CliError Unit :=
  if state = .initialized then .ok ()
  else .error (.tokenTransfer s!"{label} account {address} is {accountStateName state}")

def validateSource (address : Pubkey) (account : TokenAccount) (authority mint : Pubkey) (amount : UInt64) :
    Except CliError Unit := do
  if account.mint ≠ mint then
    throw (.tokenTransfer s!"source account {address} uses mint {account.mint}, expected {mint}")
  if account.owner ≠ authority then
    throw (.tokenTransfer s!"source account {address} is owned by {account.owner}, expected signer {authority}")
  requireInitialized address account.state "source"
  if account.amount < amount then
    throw (.tokenTransfer
      s!"source account {address} balance {account.amount.toNat} is smaller than requested amount {amount.toNat}")

def validateDestination (address : Pubkey) (account : TokenAccount) (mint : Pubkey) : Except CliError Unit := do
  if account.mint ≠ mint then
    throw (.tokenTransfer s!"destination account {address} uses mint {account.mint}, expected {mint}")
  requireInitialized address account.state "destination"

def requireDistinctAccounts (source destination : Pubkey) : Except CliError Unit :=
  if source ≠ destination then .ok () else .error (.tokenTransfer s!"source and destination are both {source}")

variable (sdk : TokenSdk)

def transferInstructions (source destination : Pubkey) (recipient : Option Pubkey) (mint authority : Pubkey)
    (amount : UInt64) (decimals : UInt8) : Except CliError (List Instruction) := do
  let mut instructions := []
  if let some recipient := recipient then
    instructions := instructions ++ [sdk.createAssociatedTokenAccountIdempotent authority destination recipient mint
      sdk.tokenProgram sdk.systemProgram]
  let transfer ← (sdk.transferChecked sdk.tokenProgram source mint destination authority [] amount decimals).mapError
    fun error => .tokenTransfer ("could not build transfer instruction: " ++ error)
  return instructions ++ [transfer]

/-- The account to credit, and the recipient for whom it may have to be created. -/
def resolveDestination (mintAddress : Pubkey) : Destination → Cli (Pubkey × Option Pubkey)
  | .user recipient => return ((associatedTokenAddress sdk recipient mintAddress).1, some recipient)
  | .account destination => do
    let destinationState ← readTokenAccountState sdk destination
    Fallible.ofExcept (validateDestination destination destinationState mintAddress)
    return (destination, none)

def run (shell : Shell) (args : TransferArgs) : Cli Unit := do
  let signer ← args.signer.resolve sdk.toSigningSdk shell "token-transfer" "transfer key"
  let authority := signer.pubkey
  let mintAddress ← Fallible.ofExcept (parsePubkey args.mint "mint")
  let mint ← readMint sdk mintAddress
  if !mint.state.isInitialized then
    throw (.tokenTransfer s!"mint {mintAddress} is not initialized")
  let amount ← Fallible.ofExcept (Utils.parseAmount args.amount mint.state.decimals)
  let given ← Fallible.ofExcept (args.source.mapM fun value => parsePubkey value "source token account")
  let source := given.getD (associatedTokenAddress sdk authority mintAddress).1
  let sourceState ← readTokenAccountState sdk source
  Fallible.ofExcept (validateSource source sourceState authority mintAddress amount)
  let (destination, recipient) ← resolveDestination sdk mintAddress args.destination
  Fallible.ofExcept (requireDistinctAccounts source destination)
  let instructions ← Fallible.ofExcept
    (transferInstructions sdk source destination recipient mintAddress authority amount mint.state.decimals)
  let _ ← sendAndConfirm "token transfer" instructions authority [signer]

def runToUser (shell : Shell) (args : UserArgs) : Cli Unit := do
  let recipient ← Fallible.ofExcept (parsePubkey args.recipient "recipient")
  run sdk shell ⟨.user recipient, args.mint, args.amount, args.signer, args.source⟩

def runToAccount (shell : Shell) (args : AccountArgs) : Cli Unit := do
  let destination ← Fallible.ofExcept (parsePubkey args.destination "destination token account")
  run sdk shell ⟨.account destination, args.mint, args.amount, args.signer, args.source⟩

end ArchKit.TokenTransfer
