import ArchKit.Proofs.DeploySecrecy
import ArchKit.Proofs.LeastPrivilege

/-! No command reveals more of a secret key than the results of the libraries do: with any
twin of it, every command asks for the same and returns the same. -/

namespace ArchKit
open Effects Fallible Secrets

variable {twins : Keypair → Keypair → Prop} {secret : Path → Prop}

namespace Submission
variable {sdk : ToolSdk} {shell : Shell} (interchangeable : Interchangeable sdk.toSdk twins)
include interchangeable

theorem readMint_similar (address : Pubkey) :
    Cli.Similar sdk.toSdk twins secret Eq (Token.readMint sdk.toTokenSdk address) (Token.readMint sdk.toTokenSdk address) :=
  Cli.similar_of_uses interchangeable (Token.readMint_uses (fun _ => trivial) address)

theorem sends_similar {signer other : ArchSigner sdk.toSigningSdk} (alike : signer.Alike twins other) {action : String}
    {instructions : List Instruction} {payer : Pubkey} : Cli.Similar sdk.toSdk twins secret Eq
      (Transaction.sendAndConfirm action instructions payer [signer]) (Transaction.sendAndConfirm action instructions payer [other]) :=
  Transaction.sendAndConfirm_similar (.cons alike .nil) interchangeable _ _ _

theorem transfer_similar (args : TokenTransfer.TransferArgs) : Cli.Similar sdk.toSdk twins secret Eq
    (TokenTransfer.run sdk.toTokenSdk shell args) (TokenTransfer.run sdk.toTokenSdk shell args) := by
  unfold TokenTransfer.run
  apply Similar.bind (SignerSource.resolve_similar interchangeable args.signer)
  intro signer other alike
  dsimp only
  rw [alike.pubkey]
  apply Similar.ofExcept_bind
  intro mintAddress _
  apply Similar.bind_eq (readMint_similar interchangeable mintAddress)
  intro mint
  split
  next => exact Similar.throw _
  next =>
    apply Similar.ofExcept_bind
    intro amount _
    apply Similar.ofExcept_bind
    intro given _
    apply Similar.bind_eq (Cli.similar_of_uses interchangeable (Token.readTokenAccountState_uses (fun _ => trivial) _))
    intro sourceState
    apply Similar.ofExcept_bind
    intro _ _
    have resolves : Uses (I := api) (Shown secret) (TokenTransfer.resolveDestination sdk.toTokenSdk mintAddress args.destination) := by
      cases args.destination with
      | user recipient => exact Within.pure trivial
      | account destination =>
        apply Uses.bind (Token.readTokenAccountState_uses (fun _ => trivial) destination)
        intro destinationState
        exact Uses.bind Uses.ofExcept fun _ => Within.pure trivial
    apply Similar.bind_eq (Cli.similar_of_uses interchangeable resolves)
    intro resolved
    apply Similar.ofExcept_bind
    intro _ _
    apply Similar.ofExcept_bind
    intro instructions _
    exact Similar.bind_eq (sends_similar interchangeable alike) fun _ => Similar.pure rfl

theorem run_similar (submission : Submission) :
    Fallible.Similar (I := api) (likeness sdk.toSdk twins secret) Eq (submission.run sdk shell) (submission.run sdk shell) := by
  cases submission with
  | createMint args =>
    apply Similar.wrap
    unfold CreateMint.run
    apply Similar.bind (SignerSource.resolve_similar interchangeable args.signer)
    intro authority other alike
    apply Similar.bind (SignerSource.resolve_similar interchangeable args.mintSigner)
    intro mint twin same
    dsimp only
    rw [alike.pubkey, same.pubkey]
    apply Similar.ofExcept_bind
    intro _ _
    apply Similar.ofExcept_bind
    intro freezeAuthority _
    apply Similar.ofExcept_bind
    intro initialSupply _
    apply Similar.ofExcept_bind
    intro instructions _
    exact Similar.bind_eq (Transaction.sendAndConfirm_similar (.cons alike (.cons same .nil)) interchangeable _ _ _)
      fun _ => Similar.pure rfl
  | mintTokens args =>
    apply Similar.wrap
    unfold MintTokens.run
    apply Similar.bind (SignerSource.resolve_similar interchangeable args.signer)
    intro signer other alike
    dsimp only
    rw [alike.pubkey]
    apply Similar.ofExcept_bind
    intro recipient _
    apply Similar.ofExcept_bind
    intro mintAddress _
    apply Similar.bind_eq (readMint_similar interchangeable mintAddress)
    intro mint
    apply Similar.ofExcept_bind
    intro _ _
    apply Similar.ofExcept_bind
    intro amount _
    apply Similar.ofExcept_bind
    intro built _
    exact Similar.bind_eq (sends_similar interchangeable alike) fun _ => Similar.pure rfl
  | tokenTransfer args =>
    apply Similar.wrap
    apply Similar.ofExcept_bind
    exact fun recipient _ => transfer_similar interchangeable _
  | tokenTransferToAccount args =>
    apply Similar.wrap
    apply Similar.ofExcept_bind
    exact fun destination _ => transfer_similar interchangeable _
  | transferArch args =>
    change Fallible.Similar (I := api) (likeness sdk.toSdk twins secret) Eq (TransferArch.run sdk.toNativeSdk shell args)
      (TransferArch.run sdk.toNativeSdk shell args)
    unfold TransferArch.run
    apply Similar.bind (SignerSource.resolve_similar interchangeable args.signer).wrap
    intro signer other alike
    dsimp only
    rw [alike.pubkey]
    apply Similar.ofExcept_bind
    intro destination _
    apply Similar.ofExcept_bind
    intro _ _
    apply Similar.ofExcept_bind
    intro amount _
    generalize TransferArch.requiredBalance amount = balance
    apply Similar.ofExcept_bind
    intro required _
    have reads : Uses (I := api) (Shown secret) (TransferArch.readSource other.pubkey) :=
      Within.perform (I := api) trivial fun reply => Cli.rpc_uses reply
    apply Similar.bind_eq (Cli.similar_of_uses interchangeable reads).wrap
    intro sourceAccount
    apply Similar.ofExcept_bind
    intro _ _
    exact Similar.bind_eq (Similar.wrap (sends_similar interchangeable alike)) fun _ => Similar.pure rfl

end Submission

theorem Keygen.run_similar {sdk : Sdk} (interchangeable : Interchangeable sdk twins) {args : Keygen.Args} {availableThreads : Nat}
    {runSearch : Vanity.VanitySearch → Cli Vanity.VanityOutcome}
    (searches : ∀ search, Cli.Similar sdk twins secret (fun found other => twins found.keypair other.keypair) (runSearch search)
      (runSearch search)) :
    Cli.Similar sdk twins secret Eq (Keygen.run availableThreads runSearch args) (Keygen.run availableThreads runSearch args) := by
  have generates (search : Option Vanity.VanitySearch) (outputs : List Path) :
      Cli.Similar sdk twins secret Eq (generateAll runSearch search outputs) (generateAll runSearch search outputs) := by
    induction outputs with
    | nil => exact Similar.pure rfl
    | cons path outputs ih =>
      unfold generateAll
      cases search with
      | none => exact Similar.bind (Keys.generateKeyFile_similar interchangeable) fun _ _ _ => ih
      | some search =>
        apply Similar.bind (searches search)
        intro found other related
        exact Similar.bind_eq (Keys.persistKeyFile_similar interchangeable related) fun _ => ih
  unfold Keygen.run
  apply Similar.bind_eq (Cli.similar_of_uses interchangeable (Keygen.preflightPaths_uses [] args.outputs fun _ _ => trivial))
  intro _
  apply Similar.ofExcept_bind
  exact fun search _ => generates search args.outputs

theorem Faucet.run_similar {sdk : Sdk} (interchangeable : Interchangeable sdk twins) {args : Faucet.Args} :
    Cli.Similar sdk twins secret Eq (Faucet.run sdk args) (Faucet.run sdk args) := by
  unfold Faucet.run
  apply Similar.bind (Keys.loadExistingKey_similar interchangeable)
  intro ⟨keypair, pubkey⟩ ⟨twin, _⟩ alike
  obtain ⟨related, same⟩ := alike
  cases same
  apply Cli.similar_funding related
  exact Cli.similar_reply interchangeable (by trivial) fun _ => Similar.pure rfl

theorem MessageCommand.loadCipher_similar {sdk : Sdk} (interchangeable : Interchangeable sdk twins) {suite : MessageSuite}
    (derived : ∀ keypair twin, twins keypair twin →
      suite.expand keypair.secretKey.bytes keyContext = suite.expand twin.secretKey.bytes keyContext) (path : Path) :
    Cli.Similar sdk twins secret Eq (loadCipher sdk suite path) (loadCipher sdk suite path) := by
  unfold loadCipher
  apply Similar.bind (Keys.loadExistingKey_similar interchangeable)
  intro loaded other alike
  dsimp only
  rw [derived _ _ alike.1]
  cases suite.expand other.1.secretKey.bytes keyContext with
  | none => exact Similar.throw _
  | some key =>
    dsimp only
    cases suite.newFromSlice key with
    | none => exact Similar.throw _
    | some cipher => exact Similar.pure rfl

namespace Tool
variable {libraries : Libraries}

/-- Two commands that the observer cannot tell apart. -/
abbrev Similar (libraries : Libraries) (twins : Keypair → Keypair → Prop) (secret : Path → Prop) {α β : Type} (related : α → β → Prop)
    (program : Tool α) (other : Tool β) : Prop :=
  Fallible.Similar (I := toolkit) (libraries.likeness twins secret) related program other

theorem ofCommand_similar {α β : Type} {related : α → β → Prop} {program : Command α} {other : Command β}
    (similar : Fallible.Similar (I := api) (likeness libraries.toSdk twins secret) related program other) :
    Similar libraries twins secret related (ofCommand program) (ofCommand other) :=
  Fallible.Similar.left (I := api) (J := calls) similar

theorem ofCli_similar {α β : Type} {related : α → β → Prop} {program : Cli α} {other : Cli β}
    (similar : Cli.Similar libraries.toSdk twins secret related program other) :
    Similar libraries twins secret related (ofCli program) (ofCli other) := ofCommand_similar similar.wrap

theorem similar_of_uses (interchangeable : Interchangeable libraries.toSdk twins) {α : Type} {program : Tool α}
    (uses : Uses (I := toolkit) (Demand.Shown secret) program) : Similar libraries twins secret Eq program program :=
  Uses.similar (I := toolkit) (uses.mono (fun _ shown => shown.open interchangeable) fun _ _ => trivial)

end Tool

/-- Tables that have the same entries for twins do not tell them apart. -/
theorem Reference.Tables.buildAndSign_congr (tables : Reference.Tables)
    (known : ∀ keypair twin, twins keypair twin → tables.publicKey keypair = tables.publicKey twin ∧ tables.sign keypair = tables.sign twin)
    {keypairs others : List Keypair} (alike : List.Forall₂ twins keypairs others) (message : ArchMessage) (network : Network) :
    tables.buildAndSign message keypairs network = tables.buildAndSign message others network := by
  have signed : Option.Rel (List.Forall₂ twins)
      ((message.accountKeys.take message.numRequiredSignatures).mapM fun key => keypairs.find? (tables.publicKey · = key))
      ((message.accountKeys.take message.numRequiredSignatures).mapM fun key => others.find? (tables.publicKey · = key)) :=
    rel_mapM fun key => rel_find (fun keypair twin same => by rw [(known keypair twin same).1]) alike
  unfold Tables.buildAndSign
  generalize (message.accountKeys.take message.numRequiredSignatures).mapM
    (fun key => keypairs.find? (tables.publicKey · = key)) = first at signed ⊢
  generalize (message.accountKeys.take message.numRequiredSignatures).mapM
    (fun key => others.find? (tables.publicKey · = key)) = second at signed ⊢
  cases signed with
  | none => rfl
  | @some ordered rest same =>
    have texts : ordered.map (tables.sign · message) = rest.map (tables.sign · message) := by
      induction same with
      | nil => rfl
      | cons equal _ ih => rw [List.map_cons, List.map_cons, (known _ _ equal).2, ih]
    dsimp only
    rw [texts]

namespace CommandLine
variable {libraries : Libraries} {line : CommandLine}

theorem configured_similar {next rest : Config → Tool Unit} (similar : ∀ config, Tool.Similar libraries twins secret Eq (next config) (rest config)) :
    Tool.Similar libraries twins secret Eq (line.configured next) (line.configured rest) :=
  Similar.ofExcept_bind (I := toolkit) fun config _ => similar config

theorem submit_similar (interchangeable : Interchangeable libraries.toSdk twins) (submission : Submission) :
    Tool.Similar libraries twins secret Eq (line.submit libraries submission) (line.submit libraries submission) :=
  configured_similar fun _ => Tool.ofCommand_similar (Submission.run_similar interchangeable submission)

theorem shown_of_permits (shown : ∀ path ∈ line.command.inputs, ¬secret path) (draws : line.command.drawsKeys = false)
    {operation : Demand} (permitted : line.Permits libraries operation) : Demand.Shown secret operation := by
  rcases operation with operation | operation
  · cases operation with
    | read path => exact shown path permitted
    | generateNewKeypair network => exact Bool.false_ne_true (draws.symm.trans permitted)
    | _ => trivial
  · trivial

section Similar
variable (interchangeable : Interchangeable libraries.toSdk twins)
include interchangeable

/-- A command that names no key file. -/
theorem keyless_similar (shown : ∀ path ∈ line.command.inputs, ¬secret path) (draws : line.command.drawsKeys = false)
    {program : Tool Unit} (uses : Uses (I := toolkit) (line.Permits libraries) program) :
    Tool.Similar libraries twins secret Eq program program :=
  Tool.similar_of_uses interchangeable (uses.mono (fun _ permitted => shown_of_permits shown draws permitted) fun _ _ => trivial)

theorem init_similar {args : Init.Args} : Tool.Similar libraries twins secret Eq
    (Init.run libraries.templates libraries.toSdk libraries.simpleProgramTemplate args)
    (Init.run libraries.templates libraries.toSdk libraries.simpleProgramTemplate args) := by
  unfold Init.run
  apply Similar.bind (I := toolkit) (Tool.ofCli_similar (Keys.loadExistingKey_similar interchangeable))
  intro ⟨keypair, programId⟩ ⟨twin, _⟩ alike
  obtain ⟨_, same⟩ := alike
  cases same
  have renders : Init.Renders (Demand.Shown secret) args.path libraries.simpleProgramTemplate.allFiles
      libraries.simpleProgramTemplate.allDirs := ⟨fun _ _ => trivial, fun _ _ _ => trivial, fun _ _ => trivial, fun _ _ => trivial⟩
  exact Tool.similar_of_uses interchangeable (Init.project_uses trivial trivial renders programId)

theorem pubkey_similar {args : PubkeyCommand.Args} : Tool.Similar libraries twins secret Eq (PubkeyCommand.run libraries.toSdk args)
    (PubkeyCommand.run libraries.toSdk args) := by
  unfold PubkeyCommand.run
  apply Similar.bind (I := toolkit) (Tool.ofCli_similar (Keys.loadExistingKey_similar interchangeable))
  intro ⟨keypair, pubkey⟩ ⟨twin, _⟩ alike
  obtain ⟨_, same⟩ := alike
  cases same
  exact Tool.similar_of_uses interchangeable ⟨trivial, fun _ _ _ => trivial⟩

section Messages
variable (derived : ∀ keypair twin, twins keypair twin → libraries.messages.expand keypair.secretKey.bytes MessageCommand.keyContext =
  libraries.messages.expand twin.secretKey.bytes MessageCommand.keyContext)
include derived

theorem encrypt_similar {args : MessageCommand.Args} {json : Bool} : Tool.Similar libraries twins secret Eq
    (MessageCommand.runEncrypt libraries.toSdk libraries.messages libraries.display args json)
    (MessageCommand.runEncrypt libraries.toSdk libraries.messages libraries.display args json) := by
  unfold MessageCommand.runEncrypt
  apply Similar.bind_eq (I := toolkit) (Tool.ofCli_similar (MessageCommand.loadCipher_similar interchangeable derived args.key))
  intro cipher
  apply Tool.similar_of_uses interchangeable
  apply Uses.bind (MessageCommand.readInput_uses fun _ => trivial)
  intro message
  apply Within.perform (I := toolkit) trivial
  intro drawn
  exact Uses.bind Uses.ofExcept fun ciphertext => MessageCommand.writeOutput_uses (fun _ => trivial) _ _ _ _

theorem decrypt_similar {args : MessageCommand.Args} {json : Bool} : Tool.Similar libraries twins secret Eq
    (MessageCommand.runDecrypt libraries.toSdk libraries.messages libraries.display args json)
    (MessageCommand.runDecrypt libraries.toSdk libraries.messages libraries.display args json) := by
  unfold MessageCommand.runDecrypt
  apply Similar.bind_eq (I := toolkit) (Tool.ofCli_similar (MessageCommand.loadCipher_similar interchangeable derived args.key))
  intro cipher
  apply Tool.similar_of_uses interchangeable
  apply Uses.bind (MessageCommand.readInput_uses fun _ => trivial)
  intro payload
  exact Uses.bind Uses.ofExcept fun message => MessageCommand.writeOutput_uses (fun _ => trivial) _ _ _ _

end Messages

theorem deploy_similar {args : Deploy.Args} (elf : ¬secret args.elf) (idl : ∀ path, args.idl = some path → ¬secret path) :
    Tool.Similar libraries twins secret Eq
      (line.configured fun config => Tool.ofCli (Deploy.run ⟨libraries.toDeploySdk, libraries.codec, config.network⟩ args))
      (line.configured fun config => Tool.ofCli (Deploy.run ⟨libraries.toDeploySdk, libraries.codec, config.network⟩ args)) := by
  apply configured_similar
  intro config
  let context : Deploy.Context := ⟨libraries.toDeploySdk, libraries.codec, config.network⟩
  have trusted : Interchangeable context.sdk.toSdk twins := interchangeable
  exact Tool.ofCli_similar (Deploy.run_similar trusted elf idl)

variable (documents : ∀ path ∈ line.command.documents, ¬secret path)
  (searches : ∀ search, Cli.Similar libraries.toSdk twins secret (fun found other => twins found.keypair other.keypair)
    (libraries.runSearch search) (libraries.runSearch search))
  (derived : line.command.derivesCipher = true → ∀ keypair twin, twins keypair twin →
    libraries.messages.expand keypair.secretKey.bytes MessageCommand.keyContext =
      libraries.messages.expand twin.secretKey.bytes MessageCommand.keyContext)
include documents searches derived

theorem run_similar : Tool.Similar libraries twins secret Eq (line.run libraries) (line.run libraries) := by
  have keyless {command : Subcommand} {program : Tool Unit} (chosen : line.command = command) (same : command.inputs = command.documents)
      (draws : command.drawsKeys = false) (uses : Uses (I := toolkit) (line.Permits libraries) program) :
      Tool.Similar libraries twins secret Eq program program := by
    rw [← chosen] at same draws
    exact keyless_similar interchangeable (fun path member => documents path (same ▸ member)) draws uses
  unfold run
  split
  next => exact init_similar interchangeable
  next args chosen => exact keyless chosen rfl rfl (buildIdl_uses chosen)
  next => exact Tool.ofCli_similar (Keygen.run_similar interchangeable searches)
  next => exact pubkey_similar interchangeable
  next args chosen => exact encrypt_similar interchangeable (derived (by rw [chosen]; rfl))
  next args chosen => exact decrypt_similar interchangeable (derived (by rw [chosen]; rfl))
  next =>
    apply Tool.similar_of_uses interchangeable
    apply Uses.bind Uses.ofExcept
    intro owner
    apply Uses.bind Uses.ofExcept
    exact fun mint => ⟨trivial, fun _ _ _ => trivial⟩
  next args chosen =>
    exact keyless chosen rfl rfl (configured_uses fun _ _ => (inspection_uses (by rw [chosen]; rfl)).1 args)
  next args chosen =>
    exact keyless chosen rfl rfl (configured_uses fun _ _ => (inspection_uses (by rw [chosen]; rfl)).2.1 args)
  next args chosen =>
    exact keyless chosen rfl rfl (configured_uses fun _ _ => tokenAccounts_uses chosen)
  next args chosen =>
    exact keyless chosen rfl rfl (configured_uses fun _ _ => (inspection_uses (by rw [chosen]; rfl)).2.2.1 args)
  next => exact submit_similar interchangeable _
  next => exact submit_similar interchangeable _
  next => exact submit_similar interchangeable _
  next => exact submit_similar interchangeable _
  next => exact submit_similar interchangeable _
  next args chosen =>
    exact keyless chosen rfl rfl (configured_uses fun _ _ => (inspection_uses (by rw [chosen]; rfl)).2.2.2 args)
  next => exact configured_similar fun _ => Tool.ofCli_similar (Faucet.run_similar interchangeable)
  next chosen =>
    exact keyless chosen rfl rfl (configured_uses fun _ same => health_uses chosen same)
  next args chosen =>
    have named : line.command.documents = args.elf :: args.idl.toList := by rw [chosen]; rfl
    rw [named] at documents
    exact deploy_similar interchangeable (documents args.elf List.mem_cons_self)
      fun path given => documents path (List.mem_cons_of_mem _ (Option.mem_toList.mpr given))

end Similar

/-- A command that is run with other keys, which the libraries do not tell apart from its
own, asks for the same in the same order and returns the same. So nobody it talks to, and
nobody who reads what it prints, learns more of a secret key than the libraries tell. -/
theorem secrets_kept (libraries : Libraries) (line : CommandLine) (twins : Keypair → Keypair → Prop) (secret : Path → Prop)
    (interchangeable : Interchangeable libraries.toSdk twins) (documents : ∀ path ∈ line.command.documents, ¬secret path)
    (searches : ∀ search, Cli.Similar libraries.toSdk twins secret (fun found other => twins found.keypair other.keypair)
      (libraries.runSearch search) (libraries.runSearch search))
    (derived : line.command.derivesCipher = true → ∀ keypair twin, twins keypair twin →
      libraries.messages.expand keypair.secretKey.bytes MessageCommand.keyContext =
        libraries.messages.expand twin.secretKey.bytes MessageCommand.keyContext)
    (first second : Oracle toolkit) (worlds : (libraries.likeness twins secret).Worlds first second) :
    List.Forall₂ (libraries.likeness twins secret).Exchanges (Fallible.against first (line.run libraries)).1
        (Fallible.against second (line.run libraries)).1 ∧
      (Fallible.against first (line.run libraries)).2 = (Fallible.against second (line.run libraries)).2 :=
  Similar.against (I := toolkit) worlds (run_similar interchangeable documents searches derived)

namespace Example
open Reference

/-- The negation of the secret of the authority, which has the same x-only public key. -/
def negated : Keypair :=
  ⟨⟨[0xfd, 0xfd, 0xfd, 0xfd, 0xfd, 0xfd, 0xfd, 0xfd, 0xfd, 0xfd, 0xfd, 0xfd, 0xfd, 0xfd, 0xfd, 0xfc,
      0xb8, 0xac, 0xda, 0xe4, 0xad, 0x46, 0x9e, 0x39, 0xbd, 0xd0, 0x5c, 0x8a, 0xce, 0x34, 0x3f, 0x3f], by decide +kernel⟩⟩

def normal (keypair : Keypair) : Keypair := if keypair = negated then authorityKeypair else keypair

def mirrored : TokenPrograms :=
  { TokenTransfer.Example.tokens with
    signing := { keyFileSigning with toSdk := { Reference.tables with publicKey := fun keypair => publicKey (normal keypair) }.sdk }
    foreign := by decide +kernel }

def mirroring : Libraries := library (mirrored.tools rfl)

theorem interchanges : Interchangeable mirroring.toSdk (fun keypair twin => normal keypair = normal twin) where
  refl _ := rfl
  pubkey _ _ same := congrArg publicKey same
  signed message _ _ network alike :=
    Tables.buildAndSign_congr _ (fun _ _ same => ⟨congrArg publicKey same, rfl⟩) alike message network

/-- The computer on which everything works, with one secret in all of its files. -/
def holding (keypair : Keypair) : Oracle toolkit := fun past operation =>
  match operation with
  | .inl (.read _) => .ok (utf8 (Keys.encodedSecret keypair))
  | operation => granting past operation

theorem worlds : (mirroring.likeness (fun keypair twin => normal keypair = normal twin) fun _ => True).Worlds
    (holding authorityKeypair) (holding negated) := by
  intro past others operation other _ alike
  rcases operation with operation | operation
  · rcases other with other | other
    · cases operation with
      | createAndFundAccountWithFaucet | tryDeployProgram | signMessageBip322 =>
        cases other with
        | createAndFundAccountWithFaucet | tryDeployProgram | signMessageBip322 => first | exact HEq.rfl | cases alike
        | _ => cases alike
      | write file buffer =>
        cases other with
        | write otherFile otherBuffer => exact heq_of_eq (congrArg Except.ok (Keys.Spelled.length alike.2))
        | _ => cases alike
      | read path =>
        cases alike
        exact .inr ⟨trivial, _, _, rfl, rfl, _, _, Keys.heldKey?_secret _, Keys.heldKey?_secret _, by decide +kernel⟩
      | generateNewKeypair network =>
        cases alike
        exact ⟨rfl, rfl⟩
      | _ =>
        cases alike
        exact HEq.rfl
    · exact alike.elim
  · rcases other with other | other
    · exact alike.elim
    · cases alike
      exact HEq.rfl

end Example

open Example Reference in
theorem secrets_kept_negated : (Fallible.against (holding negated) (paying.run mirroring)).2 = .ok () ∧
    List.Forall₂ (mirroring.likeness (fun keypair twin => normal keypair = normal twin) fun _ => True).Exchanges
      (Fallible.against (holding authorityKeypair) (paying.run mirroring)).1
      (Fallible.against (holding negated) (paying.run mirroring)).1 := by
  have paid : (Fallible.against (holding authorityKeypair) (paying.run mirroring)).2.isOk = true := by decide +kernel
  obtain ⟨alike, same⟩ := secrets_kept mirroring paying (fun keypair twin => normal keypair = normal twin) (fun _ => True) interchanges
    (fun _ member => by cases member) (fun _ => Similar.throw _) (fun impossible => by cases impossible)
    (holding authorityKeypair) (holding negated) worlds
  refine ⟨?_, alike⟩
  rw [← same]
  cases outcome : (Fallible.against (holding authorityKeypair) (paying.run mirroring)).2 with
  | ok value => rfl
  | error error =>
    rw [outcome] at paid
    cases paid

end CommandLine
end ArchKit
