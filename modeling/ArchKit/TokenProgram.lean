import ArchKit.Chain
import ArchKit.TokenAccounts

/-! The on-chain side of the token commands: the token program, the program of the
associated accounts and the atomic execution of a transaction, with the semantics these
programs document. None of this is code of the toolkit. Wrapping the native currency is
left out: an account that is created here is not native. -/

namespace ArchKit

/-- `u64::checked_add`. -/
def checkedAdd (first second : UInt64) : Option UInt64 :=
  if first.toNat + second.toNat < 2 ^ 64 then some (first + second) else none

def checkedSub (first second : UInt64) : Option UInt64 :=
  if second ≤ first then some (first - second) else none

/-- Change an account that exists. -/
def Ledger.modify (ledger : Ledger) (address : Pubkey) (change : AccountInfo → AccountInfo) : Ledger :=
  { ledger with accounts := Function.update ledger.accounts address ((ledger.accounts address).map change) }

def Ledger.lamportsAt (ledger : Ledger) (address : Pubkey) : Nat :=
  ((ledger.accounts address).map AccountInfo.lamports).getD 0

namespace TokenProgram
variable (sdk : TokenSdk) (ledger : Ledger)

/-- The initialized value that an account of the token program holds. -/
def held {α : Type} {isInitialized : α → Bool} {blank : α} (pack : Pack isInitialized blank) (info : AccountInfo) : Option α :=
  if info.owner = sdk.tokenProgram then (pack.unpack info.data).toOption else none

def mintAt (address : Pubkey) : Option Mint := (ledger.accounts address).bind (held sdk sdk.mints)

def accountAt (address : Pubkey) : Option TokenAccount := (ledger.accounts address).bind (held sdk sdk.accounts)

def balanceAt (address : Pubkey) : Nat := ((accountAt sdk ledger address).map (·.amount.toNat)).getD 0

def initializeMint (mint mintAuthority : Pubkey) (freezeAuthority : Option Pubkey) (decimals : UInt8) : Option Ledger := do
  let info ← ledger.accounts mint
  let state ← (sdk.mints.unpackUnchecked info.data).toOption
  guard (info.owner = sdk.tokenProgram ∧ state.isInitialized = false ∧ sdk.minimumRent info.data.length ≤ info.lamports)
  return ledger.modify mint fun info => { info with
    data := sdk.mints.pack { state with mintAuthority := some mintAuthority, decimals, isInitialized := true, freezeAuthority } }

/-- The lamports at an address where an account may be opened. -/
def vacant? (address : Pubkey) : Option Nat :=
  match ledger.accounts address with
  | none => some 0
  | some info => if info.owner = sdk.systemProgram ∧ info.data = [] then some info.lamports else none

/-- A new account is exempt from rent; the payer pays for what is missing. -/
def openAccount (payer address : Pubkey) (funded : Nat) (account : TokenAccount) : Ledger :=
  let lamports := max funded (sdk.minimumRent sdk.accounts.len)
  { accounts := Function.update ledger.accounts address (some ⟨lamports, sdk.tokenProgram, sdk.accounts.pack account, false⟩)
    balances := Function.update ledger.balances payer (ledger.balances payer - (lamports - funded : Nat)) }

/-- Idempotent: an account that is there has to have the owner and the mint. -/
def createAssociated (payer associated owner mint : Pubkey) : Option Ledger :=
  if associated ≠ (Token.associatedTokenAddress sdk owner mint).1 then none
  else
    match accountAt sdk ledger associated with
    | some account => if account.owner = owner ∧ account.mint = mint then some ledger else none
    | none => do
      let funded ← vacant? sdk ledger associated
      let _ ← mintAt sdk ledger mint
      return openAccount sdk ledger payer associated funded { mint, owner, state := .initialized }

def mintToChecked (mint destination authority : Pubkey) (amount : UInt64) (decimals : UInt8) : Option Ledger := do
  let account ← accountAt sdk ledger destination
  let state ← mintAt sdk ledger mint
  guard (account.state ≠ .frozen ∧ account.isNative = none ∧ account.mint = mint ∧ state.decimals = decimals ∧
    state.mintAuthority = some authority)
  let total ← checkedAdd account.amount amount
  let supply ← checkedAdd state.supply amount
  return (ledger.modify destination fun info => { info with data := sdk.accounts.pack { account with amount := total } }).modify
    mint fun info => { info with data := sdk.mints.pack { state with supply } }

def setMintAuthority (mint : Pubkey) (newAuthority : Option Pubkey) (authority : Pubkey) : Option Ledger := do
  let state ← mintAt sdk ledger mint
  guard (state.mintAuthority = some authority)
  return ledger.modify mint fun info => { info with data := sdk.mints.pack { state with mintAuthority := newAuthority } }

/-- A delegate spends its allowance, and the owner needs none. -/
def charge (account : TokenAccount) (authority : Pubkey) (amount : UInt64) : Option TokenAccount :=
  if account.delegate = some authority then do
    let delegatedAmount ← checkedSub account.delegatedAmount amount
    return { account with delegatedAmount, delegate := if delegatedAmount = 0 then none else account.delegate }
  else if account.owner = authority then some account else none

/-- The lamports that go with the tokens of a native account. -/
def wrapped (account : TokenAccount) (amount : UInt64) : Nat := if account.isNative.isSome then amount.toNat else 0

def transferChecked (source mint destination authority : Pubkey) (amount : UInt64) (decimals : UInt8) : Option Ledger := do
  let sender ← accountAt sdk ledger source
  let receiver ← accountAt sdk ledger destination
  let state ← mintAt sdk ledger mint
  guard (sender.state ≠ .frozen ∧ receiver.state ≠ .frozen ∧ sender.mint = receiver.mint ∧ sender.mint = mint ∧
    state.decimals = decimals)
  let rest ← checkedSub sender.amount amount
  let charged ← charge sender authority amount
  -- a transfer to itself is checked like any other and moves nothing
  if source = destination then return ledger
  let total ← checkedAdd receiver.amount amount
  let lamports := wrapped sender amount
  guard (sender.isNative.isSome → lamports ≤ ledger.lamportsAt source ∧ ledger.lamportsAt destination + lamports < 2 ^ 64)
  return (ledger.modify source fun info => { info with
      data := sdk.accounts.pack { charged with amount := rest }, lamports := info.lamports - lamports }).modify
    destination fun info => { info with
      data := sdk.accounts.pack { receiver with amount := total }, lamports := info.lamports + lamports }

def execute : TokenInstruction → Option Ledger
  | .initializeMint mint mintAuthority freezeAuthority decimals =>
    initializeMint sdk ledger mint mintAuthority freezeAuthority decimals
  | .createAssociated payer associated owner mint => createAssociated sdk ledger payer associated owner mint
  | .mintToChecked mint destination authority amount decimals =>
    mintToChecked sdk ledger mint destination authority amount decimals
  | .setMintAuthority mint newAuthority authority => setMintAuthority sdk ledger mint newAuthority authority
  | .transferChecked source mint destination authority amount decimals =>
    transferChecked sdk ledger source mint destination authority amount decimals

def processInstruction : Instruction → Option Ledger
  | .createAccount payer address lamports space owner =>
    match ledger.accounts address with
    | some _ => none
    | none => some (ledger.create payer address ⟨lamports, owner, List.replicate space 0, false⟩)
  | .assign address owner =>
    match ledger.accounts address with
    | some account => if account.owner = sdk.systemProgram then some (ledger.store address { account with owner }) else none
    | none => none
  | .invoke programId accounts data => (sdk.read programId accounts data).bind (execute sdk ledger)

/-- All instructions or none. -/
def processInstructions (instructions : List Instruction) : Option Ledger :=
  instructions.foldlM (processInstruction sdk) ledger

end TokenProgram

/-- A transaction that was sent and never executed. -/
def World.lose {ι : Type} (world : World ι) (client : ι) (transaction : RuntimeTransaction) : World ι :=
  { world with log := world.log ++ [⟨client, transaction, .queued⟩] }

namespace TokenProgram
variable {ι : Type} (sdk : TokenSdk)

/-- What the chain and the network may do with a request. Every transaction that is sent
is recorded, also one that got lost. In a reliable network the sender of a transaction
that was executed learns that. -/
def Serves (reliable : Prop) (client : ι) (before : World ι) : (operation : Request) → operation.Reply → World ι → Prop
  | .readAccountInfo address, reply, after => after = before ∧
      match reply with
      | .ok account => before.ledger.accounts address = some account
      | .error (.notFound _) => before.ledger.accounts address = none
      | .error _ => True
  | .sendTransaction transaction, reply, after =>
      (after = before.lose client transaction ∧ ∃ error, reply = .error error) ∨
      ((reply = .ok before.nextId ∨ (¬reliable ∧ ∃ error, reply = .error error)) ∧
        ((∃ ledger, processInstructions sdk before.ledger transaction.message.instructions = some ledger ∧
            after = before.commit client transaction ledger) ∨
          ∃ reason, after = before.reject client transaction reason))
  | .waitForProcessedTransaction id, reply, after => after = before ∧
      ((∃ entry, before.log[id.number]? = some entry ∧ reply = .ok ⟨entry.status⟩) ∨
        ((reliable → before.log[id.number]? = none) ∧ ∃ error, reply = .error error))
  | _, _, after => after = before

end TokenProgram
end ArchKit
