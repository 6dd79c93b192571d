import ArchKit.Proofs.Footprints

/-! The footprints of the commands that ask for nothing but the shared requests. -/

namespace ArchKit
open Effects Fallible

variable {allowed : Request → Prop}

theorem Idl.prepare_uses {codec : Codec} {path : Path} (opens : Opens allowed path) (program : Pubkey) (requested : Option Nat) :
    Uses (I := api) allowed (prepare codec path program requested) := by
  unfold prepare
  apply Within.perform (I := api) opens.isFile
  intro present
  cases present with
  | false => exact Within.throw _
  | true =>
    apply Within.perform (I := api) opens.read
    intro reply
    cases reply with
    | error source => exact Within.throw _
    | ok raw => exact Uses.ofExcept

namespace Deploy
variable {context : Context} {args : Args}

theorem ensureFile_uses {path : Path} (looks : allowed (.isFile path)) (label : String) :
    Uses (I := api) allowed (ensureFile path label) := by
  unfold ensureFile
  apply Within.perform (I := api) looks
  intro present
  cases present with
  | false => exact Within.throw _
  | true => exact Within.pure trivial

theorem readElf_uses {path : Path} (reads : allowed (.read path)) : Uses (I := api) allowed (readElf path) := by
  unfold readElf
  apply Within.perform (I := api) reads
  intro reply
  cases reply with
  | error source => exact Within.throw _
  | ok contents => exact Within.pure trivial

theorem preparedIdl_uses {codec : Codec} {idl : Option Path} (opens : ∀ path, idl = some path → Opens allowed path) (program : Pubkey)
    (requested : Option Nat) : Uses (I := api) allowed (idl.mapM fun path => Idl.prepare codec path program requested) := by
  cases idl with
  | none => exact Within.pure trivial
  | some path => exact Uses.bind (Idl.prepare_uses (opens path rfl) program requested) fun _ => Within.pure trivial

theorem balanceOf_uses {authority : Pubkey} (account : allowed (.readAccountInfo authority)) :
    Uses (I := api) allowed (balanceOf authority) := by
  unfold balanceOf
  apply Within.perform (I := api) account
  intro reply
  cases reply with
  | ok account => exact Within.pure trivial
  | error error =>
    cases error with
    | notFound message => exact Within.pure trivial
    | transactionError message => exact Within.throw _
    | other message => exact Within.throw _

theorem assignProgramAccount_uses (submits : Submits allowed) (account : ∀ address, allowed (.readAccountInfo address))
    {programKeypair authorityKeypair : Keypair} (program authority : Pubkey) :
    Uses (I := api) allowed (assignProgramAccount context program authority programKeypair authorityKeypair) := by
  unfold assignProgramAccount
  apply Cli.uses_reply submits.blockhash
  intro blockhash
  apply Uses.bind (Cli.rpc_uses _)
  intro transaction
  apply Cli.uses_reply (submits.send transaction)
  intro id
  apply Cli.uses_reply (submits.wait id)
  intro processed
  split
  next => exact Within.throw _
  next =>
    apply Cli.uses_reply (account program)
    intro assigned
    split
    next => exact Within.throw _
    next => exact Within.pure trivial

/-- What a deployment asks for. -/
structure Deploys (allowed : Request → Prop) (args : Args) (network : Network) : Prop
    extends Publisher.MayPublish allowed network where
  elf : Opens allowed args.elf
  programKey : Opens allowed args.programKey
  authority : Opens allowed args.authority
  idl : ∀ path, args.idl = some path → Opens allowed path
  generates : args.generateIfMissing = true → Creates allowed args.programKey ∧ Creates allowed args.authority
  funds : args.fundAuthority = true → ∀ keypair, allowed (.createAndFundAccountWithFaucet keypair)
  load : ∀ name program authority path, args.elf.toStr = some path → allowed (.tryDeployProgram name program authority path)

variable (deploys : Deploys allowed args context.network)
include deploys

theorem localInputs_uses : Uses (I := api) allowed (localInputs context args) := by
  have draws := deploys.draw
  unfold localInputs
  apply Uses.bind Uses.ofExcept
  intro expectedProgram
  apply Uses.bind (ensureFile_uses deploys.elf.isFile _)
  intro _
  apply Uses.bind (readElf_uses deploys.elf.read)
  intro elf
  apply Uses.bind (Keys.loadOrGenerateKey_uses _ deploys.programKey (fun generate => ⟨(deploys.generates generate).1, draws⟩) _)
  intro program
  dsimp only
  split
  next => exact Within.throw _
  next =>
    apply Uses.bind (Keys.loadOrGenerateKey_uses _ deploys.authority (fun generate => ⟨(deploys.generates generate).2, draws⟩) _)
    intro authority
    exact Uses.bind (preparedIdl_uses deploys.idl _ _) fun _ => Within.pure trivial

theorem fundAuthority_uses (funding : args.fundAuthority = true) (inputs : Inputs) :
    Uses (I := api) allowed (fundAuthority context args inputs) := by
  have tops (keypair : Keypair) (authority : Pubkey) (target balance : Nat) :
      Uses (I := api) allowed (topUp keypair authority target balance) := by
    fun_induction topUp keypair authority target balance with
    | case1 balance short ih =>
      apply Cli.uses_reply (deploys.funds funding keypair)
      intro _
      apply Cli.uses_reply (deploys.account authority)
      intro funded
      split
      next raised => exact ih funded raised
      next => exact Within.throw _
    | case2 => exact Within.pure trivial
  unfold fundAuthority
  exact Uses.bind (balanceOf_uses (deploys.account _)) fun balance => tops _ _ _ _

theorem prepareProgramAccount_uses (programKeypair authorityKeypair : Keypair) :
    Uses (I := api) allowed (prepareProgramAccount context programKeypair authorityKeypair) := by
  unfold prepareProgramAccount
  dsimp only
  split
  next => exact Within.throw _
  next =>
    apply Within.perform (I := api) (deploys.account _)
    intro reply
    cases reply with
    | error error =>
      cases error with
      | notFound message => exact Within.pure trivial
      | transactionError message => exact Within.throw _
      | other message => exact Within.throw _
    | ok account =>
      dsimp only
      split
      next => exact Within.pure trivial
      next =>
        split
        next => exact Within.throw _
        next => exact assignProgramAccount_uses deploys.toSubmits deploys.account _ _

theorem deploy_uses (inputs : Inputs) : Uses (I := api) allowed (deploy context args inputs) := by
  unfold deploy
  apply Within.establish (fun path => args.elf.toStr = some path)
  · apply Within.ofExcept
    intro path spelled
    unfold pathString at spelled
    split at spelled
    next found =>
      cases spelled
      exact found
    next => cases spelled
  intro path spelled
  apply Uses.bind (prepareProgramAccount_uses deploys _ _)
  intro _
  apply Uses.bind
  · unfold deployProgram
    apply Within.perform (I := api) (deploys.load _ _ _ path spelled)
    intro reply
    cases reply with
    | error error => exact Within.throw _
    | ok deployed =>
      dsimp only
      split
      next => exact Within.throw _
      next => exact Within.pure trivial
  intro deployed
  split
  next prepared _ => exact Uses.tryCatch (Publisher.publish_uses _ deploys.toMayPublish _) fun source => Within.throw _
  next => exact Within.pure trivial

theorem run_uses : Uses (I := api) allowed (run context args) := by
  unfold run
  apply Uses.bind (localInputs_uses deploys)
  intro inputs
  split
  next funding => exact Uses.bind (fundAuthority_uses deploys funding inputs) fun _ => deploy_uses deploys inputs
  next => exact deploy_uses deploys inputs

end Deploy

namespace Keygen
variable {args : Args} {runSearch : Vanity.VanitySearch → Cli Vanity.VanityOutcome} {availableThreads : Nat}

theorem preflightPaths_uses (requested outputs : List Path) (probes : ∀ path ∈ outputs, allowed (.symlinkMetadata path)) :
    Uses (I := api) allowed (preflightPaths requested outputs) := by
  induction outputs generalizing requested with
  | nil => exact Within.pure trivial
  | cons path outputs ih =>
    unfold preflightPaths
    split
    next => exact Within.throw _
    next =>
      apply Within.perform (I := api) (probes path List.mem_cons_self)
      intro reply
      cases reply with
      | ok value => exact Within.throw _
      | error source =>
        dsimp only
        split
        next => exact ih _ fun other member => probes other (List.mem_cons_of_mem _ member)
        next => exact Within.throw _

theorem run_uses (searches : ∀ search, Uses (I := api) allowed (runSearch search)) (draws : allowed (.generateNewKeypair .bitcoin))
    (creates : ∀ path ∈ args.outputs, Creates allowed path) : Uses (I := api) allowed (run availableThreads runSearch args) := by
  have generates (search : Option Vanity.VanitySearch) (outputs : List Path) (known : ∀ path ∈ outputs, Creates allowed path) :
      Uses (I := api) allowed (generateAll runSearch search outputs) := by
    induction outputs with
    | nil => exact Within.pure trivial
    | cons path outputs ih =>
      have rest := ih fun other member => known other (List.mem_cons_of_mem _ member)
      have first := known path List.mem_cons_self
      unfold generateAll
      cases search with
      | none => exact Uses.bind (Keys.generateKeyFile_uses first draws _) fun _ => rest
      | some search =>
        apply Uses.bind (searches search)
        intro outcome
        exact Uses.bind (Keys.persistKeyFile_uses first _ _) fun _ => rest
  unfold run
  apply Uses.bind (preflightPaths_uses [] args.outputs fun path member => (creates path member).probe)
  intro _
  apply Uses.bind Uses.ofExcept
  intro search
  exact generates search args.outputs creates

end Keygen

section Reading
variable {sdk : TokenSdk} (account : ∀ address, allowed (.readAccountInfo address))
include account

theorem Token.readMint_uses (address : Pubkey) : Uses (I := api) allowed (readMint sdk address) :=
  Cli.uses_reply (account address) fun _ => Uses.ofExcept

theorem Token.readTokenAccountState_uses (address : Pubkey) : Uses (I := api) allowed (readTokenAccountState sdk address) :=
  Cli.uses_reply (account address) fun _ => Uses.ofExcept

theorem Token.readTokenAccount_uses (address : Pubkey) : Uses (I := api) allowed (readTokenAccount sdk address) := by
  apply Uses.bind (readTokenAccountState_uses account address)
  intro state
  exact Uses.bind (readMint_uses account state.mint) fun _ => Within.pure trivial

theorem Token.readAssociatedBalance_uses (owner mintAddress : Pubkey) :
    Uses (I := api) allowed (readAssociatedBalance sdk owner mintAddress) := by
  have reads : Uses (I := api) allowed (Cli.readAccountInfo (associatedTokenAddress sdk owner mintAddress).1) :=
    ⟨account _, fun _ _ _ => trivial⟩
  apply Uses.bind (readMint_uses account mintAddress).wrap
  intro mint
  apply Uses.bind reads.wrap
  intro reply
  exact Uses.bind Uses.ofExcept fun _ => Within.pure trivial

omit account in
theorem Token.listTokenAccounts_uses {owner : Pubkey}
    (search : allowed (.getProgramAccounts sdk.tokenProgram (some [.dataSize sdk.accounts.len, .dataContent 32 owner.bytes])))
    (fetch : ∀ addresses, allowed (.getMultipleAccounts addresses)) : Uses (I := api) allowed (listTokenAccounts sdk owner) := by
  have fetches (batches : List (List Pubkey)) (mints : Pubkey → Option MintView) :
      Uses (I := api) allowed (fetchMints sdk batches mints) := by
    induction batches generalizing mints with
    | nil => exact Within.pure trivial
    | cons batch rest ih =>
      apply Cli.uses_reply (fetch batch)
      intro infos
      exact Uses.bind Uses.ofExcept fun mints => ih mints
  apply Cli.uses_reply search
  intro accounts
  apply Uses.bind Uses.ofExcept
  intro decoded
  exact Uses.bind (fetches _ _) fun _ => Uses.ofExcept

end Reading

namespace Submission
variable {sdk : ToolSdk} {shell : Shell}

/-- The signers that a command line names. -/
def signers : Submission → List SignerSource
  | .createMint args => [args.signer, args.mintSigner]
  | .mintTokens args => [args.signer]
  | .tokenTransfer args => [args.signer]
  | .tokenTransferToAccount args => [args.signer]
  | .transferArch args => [args.signer]

/-- Only `create-mint` looks at no account. -/
def readsAccounts : Submission → Bool
  | .createMint _ => false
  | _ => true

variable (submits : Submits allowed)
include submits

theorem transfer_uses (account : ∀ address, allowed (.readAccountInfo address)) {args : TokenTransfer.TransferArgs} (permitted : args.signer.Permitted allowed shell) :
    Uses (I := api) allowed (TokenTransfer.run sdk.toTokenSdk shell args) := by
  unfold TokenTransfer.run
  apply Within.bind (SignerSource.resolve_within permitted)
  intro signer trusted
  apply Uses.bind Uses.ofExcept
  intro mintAddress
  apply Uses.bind (Token.readMint_uses account mintAddress)
  intro mint
  dsimp only
  split
  next => exact Within.throw _
  next =>
    apply Uses.bind Uses.ofExcept
    intro amount
    apply Uses.bind Uses.ofExcept
    intro given
    apply Uses.bind (Token.readTokenAccountState_uses account _)
    intro sourceState
    apply Uses.bind Uses.ofExcept
    intro _
    apply Uses.bind
    · cases args.destination with
      | user recipient => exact Within.pure trivial
      | account destination =>
        apply Uses.bind (Token.readTokenAccountState_uses account destination)
        intro destinationState
        exact Uses.bind Uses.ofExcept fun _ => Within.pure trivial
    intro resolved
    apply Uses.bind Uses.ofExcept
    intro _
    apply Uses.bind Uses.ofExcept
    intro instructions
    apply Uses.bind _ fun _ => Within.pure trivial
    exact Transaction.sendAndConfirm_uses (List.forall_mem_singleton.mpr trusted) submits _ _ _

theorem run_uses (submission : Submission) (account : submission.readsAccounts = true → ∀ address, allowed (.readAccountInfo address))
    (permitted : ∀ source ∈ submission.signers, source.Permitted allowed shell) :
    Uses (I := api) allowed (submission.run sdk shell) := by
  cases submission with
  | createMint args =>
    apply Within.wrap
    unfold CreateMint.run
    apply Within.bind (SignerSource.resolve_within (permitted args.signer List.mem_cons_self))
    intro authoritySigner trusted
    apply Within.bind (SignerSource.resolve_within (permitted args.mintSigner (List.mem_cons_of_mem _ List.mem_cons_self)))
    intro mintSigner also
    apply Uses.bind Uses.ofExcept
    intro _
    apply Uses.bind Uses.ofExcept
    intro freezeAuthority
    apply Uses.bind Uses.ofExcept
    intro initialSupply
    apply Uses.bind Uses.ofExcept
    intro instructions
    apply Uses.bind _ fun _ => Within.pure trivial
    exact Transaction.sendAndConfirm_uses (List.forall_mem_cons.mpr ⟨trusted, List.forall_mem_singleton.mpr also⟩) submits _ _ _
  | mintTokens args =>
    apply Within.wrap
    unfold MintTokens.run
    apply Within.bind (SignerSource.resolve_within (permitted args.signer List.mem_cons_self))
    intro signer trusted
    apply Uses.bind Uses.ofExcept
    intro recipient
    apply Uses.bind Uses.ofExcept
    intro mintAddress
    apply Uses.bind (Token.readMint_uses (account rfl) mintAddress)
    intro mint
    apply Uses.bind Uses.ofExcept
    intro _
    apply Uses.bind Uses.ofExcept
    intro amount
    apply Uses.bind Uses.ofExcept
    intro built
    apply Uses.bind _ fun _ => Within.pure trivial
    exact Transaction.sendAndConfirm_uses (List.forall_mem_singleton.mpr trusted) submits _ _ _
  | tokenTransfer args =>
    apply Within.wrap
    apply Uses.bind Uses.ofExcept
    intro recipient
    exact transfer_uses submits (account rfl) (permitted args.signer List.mem_cons_self)
  | tokenTransferToAccount args =>
    apply Within.wrap
    apply Uses.bind Uses.ofExcept
    intro destination
    exact transfer_uses submits (account rfl) (permitted args.signer List.mem_cons_self)
  | transferArch args =>
    change Uses (I := api) allowed (TransferArch.run sdk.toNativeSdk shell args)
    unfold TransferArch.run
    apply Within.bind (SignerSource.resolve_within (permitted args.signer List.mem_cons_self)).wrap
    intro signer trusted
    apply Uses.bind Uses.ofExcept
    intro destination
    apply Uses.bind Uses.ofExcept
    intro _
    apply Uses.bind Uses.ofExcept
    intro amount
    generalize TransferArch.requiredBalance amount = required
    apply Uses.bind Uses.ofExcept
    intro required
    have reads : Uses (I := api) allowed (TransferArch.readSource signer.pubkey) := by
      unfold TransferArch.readSource
      exact Within.perform (I := api) (account rfl _) fun reply => Cli.rpc_uses reply
    apply Uses.bind reads.wrap
    intro sourceAccount
    apply Uses.bind Uses.ofExcept
    intro _
    apply Uses.bind _ fun _ => Within.pure trivial
    exact (Transaction.sendAndConfirm_uses (List.forall_mem_singleton.mpr trusted) submits _ _ _).wrap

end Submission
end ArchKit
