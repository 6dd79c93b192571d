import ArchKit.Minting
import ArchKit.Proofs.TokenCommands
import ArchKit.TokenTransfer
import ArchKit.TransferArch

/-! The commands that submit one transaction. Whatever they are told, they send at most
one, it is the one their command line describes, and they succeed only after they were
told that it was processed. -/

namespace ArchKit
open Effects Fallible Token Transaction

/-- How far a command is with its transaction. -/
inductive Phase where
  | fresh
  /-- The sender saw an error, so the transaction may have arrived or not. -/
  | unknown
  | sent (id : Hash)
  | confirmed
  | refused
  deriving DecidableEq

namespace Phase

def observe : Phase → (operation : Request) → operation.Reply → Phase
  | _, .sendTransaction _, .ok id => .sent id
  | _, .sendTransaction _, .error _ => .unknown
  | .sent id, .waitForProcessedTransaction other, reply =>
    if other = id then
      match reply with
      | .ok processed => if processed.status = .processed then .confirmed else .refused
      | .error _ => .refused
    else .sent id
  | phase, _, _ => phase

/-- The command has succeeded if and only if it knows that its transaction was processed. -/
def Ends {α ε : Type} (phase : Phase) : Except ε α → Prop
  | .ok _ => phase = .confirmed
  | .error _ => phase = .fresh ∨ phase = .unknown ∨ phase = .refused

end Phase

/-- At most one transaction is sent, and it is as described. -/
def once (described : RuntimeTransaction → Prop) : Monitor api Phase where
  allows
    | phase, .sendTransaction transaction => phase = .fresh ∧ described transaction
    | _, _ => True
  observe := Phase.observe

section Silent
variable {α β ε κ : Type} {described : RuntimeTransaction → Prop} {post : Phase → Except ε β → Prop}

theorem once_allows {phase : Phase} {operation : Request} (quiet : (!operation.submits) = true) :
    (once described).allows phase operation := by
  cases operation with
  | sendTransaction transaction => cases quiet
  | _ => trivial

theorem once_ignores {operation : Request} {reply : operation.Reply} (quiet : (!operation.submits) = true) :
    Phase.observe .fresh operation reply = .fresh := by
  cases operation with
  | sendTransaction transaction => cases quiet
  | _ => rfl

/-- A command that has sent nothing yet may do anything but send. -/
theorem keeps_silent {program : Fallible api ε α} (silent : Offline (I := api) (fun operation => !operation.submits) program)
    {next : α → Fallible api ε β} (rest : ∀ value, Keeps (once described) post (next value) .fresh)
    (failed : ∀ error, post .fresh (.error error)) : Keeps (once described) post (program >>= next) .fresh :=
  .offline silent (fun _ quiet => once_allows quiet) (fun _ _ quiet => once_ignores quiet) rest failed

theorem keeps_rpc {reply : Except ArchError α} {next : α → Cli β} {phase : Phase} {post : Phase → Except CliError β → Prop}
    (rest : ∀ value, reply = .ok value → Keeps (once described) post (next value) phase)
    (failed : ∀ error, reply = .error error → post phase (.error (.archRpc error))) :
    Keeps (once described) post (Cli.rpc reply >>= next) phase := by
  cases reply with
  | ok value => exact rest value rfl
  | error error => exact failed error rfl

theorem keeps_discard {program : Fallible api ε α} {phase : Phase} (keeps : Keeps (once described) Phase.Ends program phase) :
    Keeps (once described) Phase.Ends (do let _ ← program) phase := by
  apply keeps.bind
  · intro phase value ended
    exact ended
  · intro phase error ended
    exact ended

theorem keeps_converted {convert : ε → κ} {program : Fallible api ε α} {phase : Phase}
    (keeps : Keeps (once described) Phase.Ends program phase) :
    Keeps (once described) Phase.Ends (program.wrap convert) phase := by
  rw [keeps_wrap]
  apply keeps.mono
  intro phase outcome ended
  cases outcome <;> exact ended

end Silent

section Send
variable {sdk : SigningSdk} {described : RuntimeTransaction → Prop} {instructions : List Instruction} {payer : Pubkey}

theorem signTransaction_keeps (message : ArchMessage) (signers : List (ArchSigner sdk)) :
    Keeps (once described) (fun phase outcome => phase = .fresh ∧
      ∀ transaction, outcome = .ok transaction → transaction.message = message) (signTransaction message signers) .fresh := by
  apply keeps_silent (signAll_silent message signers _)
  · intro signatures
    refine ⟨rfl, ?_⟩
    intro transaction same
    cases same
    rfl
  · exact fun error => ⟨rfl, fun transaction same => by cases same⟩

theorem confirm_keeps (action : String) (id : Hash) :
    Keeps (once described) Phase.Ends (do
      let processed ← Cli.rpc (← Cli.waitForProcessedTransaction id)
      if processed.status ≠ .processed then
        throw (.transactionFailed action processed.status.debug)
      return id) (.sent id) := by
  refine ⟨trivial, ?_⟩
  intro reply
  change Keeps _ _ _ (Phase.observe (.sent id) (.waitForProcessedTransaction id) reply)
  cases reply with
  | error error =>
    simp only [Phase.observe, if_true]
    exact .inr (.inr rfl)
  | ok processed =>
    simp only [Phase.observe, if_true]
    apply keeps_rpc _ (fun error failed => by cases failed)
    intro value same
    cases same
    by_cases done : processed.status = .processed
    · simp only [done, if_true, ne_eq, not_true_eq_false, if_false]
      exact rfl
    · simp only [done, if_false, ne_eq, not_false_eq_true, if_true]
      exact .inr (.inr rfl)

theorem sendAndConfirm_keeps (action : String) (signers : List (ArchSigner sdk))
    (fits : ∀ blockhash transaction, transaction.message = .new sdk.toSdk instructions (some payer) blockhash →
      described transaction) :
    Keeps (once described) Phase.Ends (sendAndConfirm action instructions payer signers) .fresh := by
  refine ⟨trivial, ?_⟩
  intro reply
  apply keeps_rpc _ (fun error _ => .inl rfl)
  intro blockhash _
  apply (signTransaction_keeps (.new sdk.toSdk instructions (some payer) blockhash) signers).bind
  · intro phase transaction signed
    obtain ⟨same, carries⟩ := signed
    subst same
    refine ⟨⟨rfl, fits blockhash transaction (carries transaction rfl)⟩, ?_⟩
    intro reply
    cases reply with
    | error error => exact .inr (.inl rfl)
    | ok id => exact confirm_keeps action id
  · intro phase error signed
    exact .inl signed.1

end Send

/-! What a command line describes. The signer and what the chain is said to hold are left
open, since anybody may have answered. -/

namespace CreateMint

structure Asked (sdk : TokenSdk) (args : Args) where
  authority : Pubkey
  mint : Pubkey
  freezeAuthority : Option Pubkey
  initialSupply : Option UInt64
  instructions : List Instruction
  distinct : authority ≠ mint
  frozenBy : (args.freezeAuthority.mapM fun value => parsePubkey value "freeze authority") = .ok freezeAuthority
  supplied : (args.initialSupply.mapM fun amount => Utils.parseAmount amount args.decimals) = .ok initialSupply
  built : createMintInstructions sdk mint authority freezeAuthority args.decimals initialSupply args.fixedSupply =
    .ok instructions

end CreateMint

namespace MintTokens

structure Asked (sdk : TokenSdk) (args : Args) where
  authority : Pubkey
  recipient : Pubkey
  mint : Pubkey
  decimals : UInt8
  amount : UInt64
  destination : Pubkey
  instructions : List Instruction
  credited : parsePubkey args.recipient "recipient" = .ok recipient
  named : parsePubkey args.mint "mint" = .ok mint
  parsed : Utils.parseAmount args.amount decimals = .ok amount
  built : mintToUserInstructions sdk authority recipient mint authority amount decimals = .ok (destination, instructions)

end MintTokens

namespace TokenTransfer

/-- The account to credit, and the recipient for whom it may have to be opened. -/
inductive Aims (sdk : TokenSdk) (mint : Pubkey) : Destination → Pubkey → Option Pubkey → Prop where
  | user {recipient : Pubkey} : Aims sdk mint (.user recipient) (associatedTokenAddress sdk recipient mint).1 (some recipient)
  | account {destination : Pubkey} : Aims sdk mint (.account destination) destination none

structure Asked (sdk : TokenSdk) (args : TransferArgs) where
  authority : Pubkey
  mint : Pubkey
  decimals : UInt8
  amount : UInt64
  given : Option Pubkey
  destination : Pubkey
  recipient : Option Pubkey
  instructions : List Instruction
  named : parsePubkey args.mint "mint" = .ok mint
  parsed : Utils.parseAmount args.amount decimals = .ok amount
  chosen : (args.source.mapM fun value => parsePubkey value "source token account") = .ok given
  aims : Aims sdk mint args.destination destination recipient
  distinct : given.getD (associatedTokenAddress sdk authority mint).1 ≠ destination
  built : transferInstructions sdk (given.getD (associatedTokenAddress sdk authority mint).1) destination recipient mint
    authority amount decimals = .ok instructions

/-- The account to debit: the given one, or that of the signer. -/
def Asked.source {sdk : TokenSdk} {args : TransferArgs} (asked : Asked sdk args) : Pubkey :=
  asked.given.getD (associatedTokenAddress sdk asked.authority asked.mint).1

end TokenTransfer

namespace TransferArch

structure Asked (sdk : NativeSdk) (args : Args) where
  source : Pubkey
  destination : Pubkey
  amount : UInt64
  named : parsePubkey args.destination "destination" = .ok destination
  parsed : Utils.parseAmount args.amount archDecimals = .ok amount
  covered : amount.toNat + baseFeePerSignature.toNat < 2 ^ 64
  distinct : source ≠ destination

def Asked.instructions {sdk : NativeSdk} {args : Args} (asked : Asked sdk args) : List Instruction :=
  [transferInstruction sdk asked.source asked.destination asked.amount]

end TransferArch

/-- The libraries of all commands. -/
structure ToolSdk extends TokenSdk, NativeSdk

/-- A command that submits one transaction. -/
inductive Submission where
  | createMint (args : CreateMint.Args)
  | mintTokens (args : MintTokens.Args)
  | tokenTransfer (args : TokenTransfer.UserArgs)
  | tokenTransferToAccount (args : TokenTransfer.AccountArgs)
  | transferArch (args : TransferArch.Args)

namespace Submission
variable (sdk : ToolSdk)

def run (shell : Shell) : Submission → Command Unit
  | .createMint args => (CreateMint.run sdk.toTokenSdk shell args).wrap .cli
  | .mintTokens args => (MintTokens.run sdk.toTokenSdk shell args).wrap .cli
  | .tokenTransfer args => (TokenTransfer.runToUser sdk.toTokenSdk shell args).wrap .cli
  | .tokenTransferToAccount args => (TokenTransfer.runToAccount sdk.toTokenSdk shell args).wrap .cli
  | .transferArch args => TransferArch.run sdk.toNativeSdk shell args

/-- The message of a transaction is the one compiled from the instructions for the payer. -/
def Carries (transaction : RuntimeTransaction) (instructions : List Instruction) (payer : Pubkey) : Prop :=
  ∃ blockhash, transaction.message = .new sdk.toSdk instructions (some payer) blockhash

/-- What a token transfer asks for once its first argument is read. -/
inductive Requests : Submission → TokenTransfer.TransferArgs → Prop where
  | toUser {args : TokenTransfer.UserArgs} {recipient : Pubkey} (parsed : parsePubkey args.recipient "recipient" = .ok recipient) :
      Requests (.tokenTransfer args) ⟨.user recipient, args.mint, args.amount, args.signer, args.source⟩
  | toAccount {args : TokenTransfer.AccountArgs} {destination : Pubkey}
      (parsed : parsePubkey args.destination "destination token account" = .ok destination) :
      Requests (.tokenTransferToAccount args) ⟨.account destination, args.mint, args.amount, args.signer, args.source⟩

inductive Describes : Submission → RuntimeTransaction → Prop where
  | createMint {args : CreateMint.Args} {transaction : RuntimeTransaction} (asked : CreateMint.Asked sdk.toTokenSdk args)
      (carries : Carries sdk transaction asked.instructions asked.authority) : Describes (.createMint args) transaction
  | mintTokens {args : MintTokens.Args} {transaction : RuntimeTransaction} (asked : MintTokens.Asked sdk.toTokenSdk args)
      (carries : Carries sdk transaction asked.instructions asked.authority) : Describes (.mintTokens args) transaction
  | transfer {submission : Submission} {args : TokenTransfer.TransferArgs} {transaction : RuntimeTransaction}
      (requests : submission.Requests args) (asked : TokenTransfer.Asked sdk.toTokenSdk args)
      (carries : Carries sdk transaction asked.instructions asked.authority) : Describes submission transaction
  | transferArch {args : TransferArch.Args} {transaction : RuntimeTransaction} (asked : TransferArch.Asked sdk.toNativeSdk args)
      (carries : Carries sdk transaction asked.instructions asked.source) : Describes (.transferArch args) transaction

end Submission

section Commands
variable {sdk : ToolSdk} (shell : Shell) {described : RuntimeTransaction → Prop}

theorem CreateMint.run_keeps (args : Args)
    (fits : ∀ (asked : Asked sdk.toTokenSdk args) transaction, Submission.Carries sdk transaction asked.instructions asked.authority →
      described transaction) : Keeps (once described) Phase.Ends (run sdk.toTokenSdk shell args) .fresh := by
  apply keeps_silent (SignerSource.resolve_silent ..) _ (fun _ => .inl rfl)
  intro authoritySigner
  apply keeps_silent (SignerSource.resolve_silent ..) _ (fun _ => .inl rfl)
  intro mintSigner
  apply Keeps.ofExcept _ (fun _ _ => .inl rfl)
  intro _ distinct
  apply Keeps.ofExcept _ (fun _ _ => .inl rfl)
  intro freezeAuthority frozenBy
  apply Keeps.ofExcept _ (fun _ _ => .inl rfl)
  intro initialSupply supplied
  apply Keeps.ofExcept _ (fun _ _ => .inl rfl)
  intro instructions built
  have apart : authoritySigner.pubkey ≠ mintSigner.pubkey := by
    intro same
    rw [requireDistinctAccounts, if_pos same] at distinct
    cases distinct
  apply keeps_discard
  apply sendAndConfirm_keeps
  intro blockhash transaction carries
  exact fits ⟨_, _, freezeAuthority, initialSupply, instructions, apart, frozenBy, supplied, built⟩ transaction ⟨blockhash, carries⟩

theorem readMint_silent (address : Pubkey) : Cli.Silent (readMint sdk.toTokenSdk address) := by
  apply Fallible.Offline.perform (I := api) rfl
  intro reply
  cases reply with
  | ok info => exact .ofExcept _
  | error error => exact .throw _

theorem readTokenAccountState_silent (address : Pubkey) : Cli.Silent (readTokenAccountState sdk.toTokenSdk address) := by
  apply Fallible.Offline.perform (I := api) rfl
  intro reply
  cases reply with
  | ok info => exact .ofExcept _
  | error error => exact .throw _

theorem MintTokens.run_keeps (args : Args)
    (fits : ∀ (asked : Asked sdk.toTokenSdk args) transaction, Submission.Carries sdk transaction asked.instructions asked.authority →
      described transaction) : Keeps (once described) Phase.Ends (run sdk.toTokenSdk shell args) .fresh := by
  apply keeps_silent (SignerSource.resolve_silent ..) _ (fun _ => .inl rfl)
  intro signer
  apply Keeps.ofExcept _ (fun _ _ => .inl rfl)
  intro recipient credited
  apply Keeps.ofExcept _ (fun _ _ => .inl rfl)
  intro mintAddress named
  apply keeps_silent (readMint_silent mintAddress) _ (fun _ => .inl rfl)
  intro mint
  apply Keeps.ofExcept _ (fun _ _ => .inl rfl)
  intro _ _
  apply Keeps.ofExcept _ (fun _ _ => .inl rfl)
  intro amount parsed
  apply Keeps.ofExcept _ (fun _ _ => .inl rfl)
  intro made built
  obtain ⟨destination, instructions⟩ := made
  apply keeps_discard
  apply sendAndConfirm_keeps
  intro blockhash transaction carries
  exact fits ⟨_, recipient, mintAddress, _, amount, destination, instructions, credited, named, parsed, built⟩ transaction
    ⟨blockhash, carries⟩

namespace TokenTransfer

theorem resolveDestination_keeps (mint : Pubkey) (named : Destination) :
    Keeps (once described) (fun phase outcome => phase = .fresh ∧
      ∀ target, outcome = .ok target → Aims sdk.toTokenSdk mint named target.1 target.2)
      (resolveDestination sdk.toTokenSdk mint named) .fresh := by
  have failed : ∀ (error : CliError) (target : Pubkey × Option Pubkey), Except.error error = .ok target →
      Aims sdk.toTokenSdk mint named target.1 target.2 := fun _ _ same => by cases same
  cases named with
  | user recipient =>
    refine ⟨rfl, ?_⟩
    intro target same
    cases same
    exact .user
  | account destination =>
    apply keeps_silent (readTokenAccountState_silent destination) _ (fun error => ⟨rfl, failed error⟩)
    intro state
    apply Keeps.ofExcept _ (fun error _ => ⟨rfl, failed error⟩)
    intro _ _
    refine ⟨rfl, ?_⟩
    intro target same
    cases same
    exact .account

theorem run_keeps (args : TransferArgs)
    (fits : ∀ (asked : Asked sdk.toTokenSdk args) transaction, Submission.Carries sdk transaction asked.instructions asked.authority →
      described transaction) : Keeps (once described) Phase.Ends (run sdk.toTokenSdk shell args) .fresh := by
  apply keeps_silent (SignerSource.resolve_silent ..) _ (fun _ => .inl rfl)
  intro signer
  apply Keeps.ofExcept _ (fun _ _ => .inl rfl)
  intro mintAddress named
  apply keeps_silent (readMint_silent mintAddress) _ (fun _ => .inl rfl)
  intro mint
  dsimp only
  split
  · exact .inl rfl
  apply Keeps.ofExcept _ (fun _ _ => .inl rfl)
  intro amount parsed
  apply Keeps.ofExcept _ (fun _ _ => .inl rfl)
  intro given chosen
  apply keeps_silent (readTokenAccountState_silent _) _ (fun _ => .inl rfl)
  intro sourceState
  apply Keeps.ofExcept _ (fun _ _ => .inl rfl)
  intro _ _
  apply (resolveDestination_keeps mintAddress args.destination).bind _ (fun _ _ holds => .inl holds.1)
  intro phase target holds
  obtain ⟨same, aims⟩ := holds
  subst same
  obtain ⟨destination, recipient⟩ := target
  apply Keeps.ofExcept _ (fun _ _ => .inl rfl)
  intro _ distinct
  have apart : given.getD (associatedTokenAddress sdk.toTokenSdk signer.pubkey mintAddress).1 ≠ destination := by
    intro same
    rw [requireDistinctAccounts, if_neg (not_not.mpr same)] at distinct
    cases distinct
  apply Keeps.ofExcept _ (fun _ _ => .inl rfl)
  intro instructions built
  apply keeps_discard
  apply sendAndConfirm_keeps
  intro blockhash transaction carries
  exact fits ⟨_, mintAddress, _, amount, given, destination, recipient, instructions, named, parsed, chosen, aims _ rfl, apart, built⟩
    transaction ⟨blockhash, carries⟩

end TokenTransfer

theorem TransferArch.run_keeps (args : Args)
    (fits : ∀ (asked : Asked sdk.toNativeSdk args) transaction, Submission.Carries sdk transaction asked.instructions asked.source →
      described transaction) : Keeps (once described) Phase.Ends (run sdk.toNativeSdk shell args) .fresh := by
  apply keeps_silent (SignerSource.resolve_silent ..).wrap _ (fun _ => .inl rfl)
  intro signer
  apply Keeps.ofExcept _ (fun _ _ => .inl rfl)
  intro destination named
  apply Keeps.ofExcept _ (fun _ _ => .inl rfl)
  intro _ distinct
  apply Keeps.ofExcept _ (fun _ _ => .inl rfl)
  intro amount parsed
  generalize sum : requiredBalance amount = outcome
  apply Keeps.ofExcept _ (fun _ _ => .inl rfl)
  intro required covered
  rw [covered] at sum
  have reads : Cli.Silent (readSource signer.pubkey) := by
    apply Fallible.Offline.perform (I := api) rfl
    intro reply
    cases reply with
    | ok info => exact .pure _
    | error error => exact .throw _
  apply keeps_silent reads.wrap _ (fun _ => .inl rfl)
  intro account
  apply Keeps.ofExcept _ (fun _ _ => .inl rfl)
  intro _ _
  have apart : signer.pubkey ≠ destination := by
    intro same
    rw [requireDistinctAccounts, if_neg (not_not.mpr same)] at distinct
    cases distinct
  have fitting : amount.toNat + baseFeePerSignature.toNat < 2 ^ 64 := by
    unfold requiredBalance at sum
    split at sum
    next total added =>
      rw [← checkedAdd_eq_some.mp added]
      exact total.toNat_lt
    next => cases sum
  apply keeps_discard
  apply keeps_converted
  apply sendAndConfirm_keeps
  intro blockhash transaction carries
  exact fits ⟨_, destination, amount, wrapError_eq_ok.mp named, wrapError_eq_ok.mp parsed, fitting, apart⟩ transaction
    ⟨blockhash, carries⟩

end Commands

/-- Every command that submits one transaction keeps to the discipline. -/
theorem Submission.run_keeps {sdk : ToolSdk} (shell : Shell) (submission : Submission) :
    Keeps (once (submission.Describes sdk)) Phase.Ends (submission.run sdk shell) .fresh := by
  cases submission with
  | createMint args => exact keeps_converted (CreateMint.run_keeps shell args fun asked _ => .createMint asked)
  | mintTokens args => exact keeps_converted (MintTokens.run_keeps shell args fun asked _ => .mintTokens asked)
  | tokenTransfer args =>
    apply keeps_converted
    apply Keeps.ofExcept _ (fun _ _ => .inl rfl)
    intro recipient parsed
    exact TokenTransfer.run_keeps shell _ fun asked _ => .transfer (.toUser parsed) asked
  | tokenTransferToAccount args =>
    apply keeps_converted
    apply Keeps.ofExcept _ (fun _ _ => .inl rfl)
    intro destination parsed
    exact TokenTransfer.run_keeps shell _ fun asked _ => .transfer (.toAccount parsed) asked
  | transferArch args => exact TransferArch.run_keeps shell args fun asked _ => .transferArch asked

end ArchKit
