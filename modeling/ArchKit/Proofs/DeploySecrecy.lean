import ArchKit.Proofs.CommandFootprints
import ArchKit.Proofs.KeySecrecy

/-! A deployment with one pair of keys looks like one with their twins, and so does the
publication of its IDL. -/

namespace ArchKit
open Effects Fallible Secrets

variable {twins : Keypair → Keypair → Prop} {secret : Path → Prop}

namespace Publisher
variable (publisher : Publisher) {prepared : Idl.PreparedIdl}

abbrev withKey (keypair : Keypair) : Publisher := { publisher with authorityKeypair := keypair }

variable {publisher} {twin : Keypair} (interchangeable : Interchangeable publisher.sdk twins) (related : twins publisher.authorityKeypair twin)

include interchangeable in
theorem send_similar {action : String} {instructions : List Instruction} {payer : Pubkey} {signers others : List Keypair}
    (alike : List.Forall₂ twins signers others) : Cli.Similar publisher.sdk twins secret Eq
      (publisher.send action instructions payer signers) ((publisher.withKey twin).send action instructions payer others) := by
  unfold send
  simp only [interchangeable.signed _ _ _ _ alike]
  exact Cli.similar_of_uses interchangeable (publisher.send_uses ⟨trivial, fun _ => trivial, fun _ => trivial⟩ ..)

include interchangeable related

theorem send_own {action : String} {instructions : List Instruction} {payer : Pubkey} : Cli.Similar publisher.sdk twins secret Eq
    (publisher.send action instructions payer [publisher.authorityKeypair])
    ((publisher.withKey twin).send action instructions payer [twin]) :=
  send_similar interchangeable (.cons related .nil)

theorem growAccount_similar (idlAddress : Pubkey) (currentSpace targetSpace : Nat) (buffers : Option (Pubkey × Pubkey)) :
    Cli.Similar publisher.sdk twins secret Eq (publisher.growAccount idlAddress currentSpace targetSpace buffers)
      ((publisher.withKey twin).growAccount idlAddress currentSpace targetSpace buffers) := by
  fun_induction growAccount publisher idlAddress currentSpace targetSpace buffers with
  | case1 currentSpace smaller ih =>
    rw [growAccount.eq_def (publisher.withKey twin), dif_pos smaller]
    apply Similar.ofExcept_bind
    intro space _
    split
    next => exact Similar.throw _
    next nextSpace next => exact Similar.bind_eq (send_own interchangeable related) fun _ => ih nextSpace next
  | case2 =>
    rw [growAccount.eq_def (publisher.withKey twin), dif_neg ‹_›]
    exact Similar.pure rfl

theorem writeFrom_similar (target : Pubkey) (total index : Nat) (rest : List Bytes) : Cli.Similar publisher.sdk twins secret Eq
    (publisher.writeFrom target total index rest) ((publisher.withKey twin).writeFrom target total index rest) := by
  induction rest generalizing index with
  | nil => exact Similar.pure rfl
  | cons chunk rest ih => exact Similar.bind_eq (send_own interchangeable related) fun _ => ih (index + 1)

theorem createBuffer_similar (capacity : Nat) (copyFrom : Option Pubkey) : Cli.Similar publisher.sdk twins secret Eq
    (publisher.createBuffer capacity copyFrom) ((publisher.withKey twin).createBuffer capacity copyFrom) := by
  unfold createBuffer
  apply Similar.perform (I := api) rfl
  intro ⟨bufferKeypair, buffer⟩ ⟨bufferTwin, other⟩ alike
  obtain ⟨buffers, same⟩ := alike
  cases same
  apply Similar.ofExcept_bind
  intro space _
  exact Similar.bind_eq (send_similar interchangeable (.cons related (.cons buffers .nil))) fun _ => Similar.pure rfl

theorem prepareResizeBuffers_similar (idlAddress : Pubkey) (existing : AccountInfo) : Cli.Similar publisher.sdk twins secret Eq
    (publisher.prepareResizeBuffers idlAddress existing) ((publisher.withKey twin).prepareResizeBuffers idlAddress existing) := by
  unfold prepareResizeBuffers
  apply Similar.ofExcept_bind
  intro range _
  apply Similar.bind_eq (createBuffer_similar interchangeable related _ _)
  intro backup
  apply Cli.similar_reply interchangeable (by trivial)
  intro saved
  apply Similar.ofExcept_bind
  intro savedRange _
  split
  next => exact Similar.throw _
  next => exact Similar.bind_eq (createBuffer_similar interchangeable related _ _) fun _ => Similar.pure rfl

theorem initializeIdl_similar (idlAddress : Pubkey) : Cli.Similar publisher.sdk twins secret Eq
    (publisher.initializeIdl idlAddress prepared) ((publisher.withKey twin).initializeIdl idlAddress prepared) := by
  unfold initializeIdl
  apply Similar.ofExcept_bind
  intro derived _
  dsimp only
  split
  next => exact Similar.throw _
  next =>
    apply Similar.ofExcept_bind
    intro payloadCapacity _
    apply Similar.ofExcept_bind
    intro dataLen _
    apply Similar.bind_eq (send_own interchangeable related)
    intro _
    apply Similar.bind_eq (growAccount_similar interchangeable related _ _ _ _)
    intro _
    exact writeFrom_similar interchangeable related _ _ _ _

theorem replacePayload_similar (idlAddress : Pubkey) (required : Nat) : Cli.Similar publisher.sdk twins secret Eq
    (publisher.replacePayload idlAddress prepared required) ((publisher.withKey twin).replacePayload idlAddress prepared required) := by
  unfold replacePayload
  apply Similar.bind_eq (createBuffer_similar interchangeable related _ _)
  intro buffer
  apply Similar.bind_eq (writeFrom_similar interchangeable related _ _ _ _)
  intro _
  exact Similar.bind_eq (send_own interchangeable related) fun _ => Similar.pure rfl

theorem resizePopulated_similar (idlAddress : Pubkey) (existing : AccountInfo) (existingJson : Json) (capacity targetCapacity : Nat) :
    Cli.Similar publisher.sdk twins secret Eq (publisher.resizePopulated idlAddress existing existingJson capacity targetCapacity)
      ((publisher.withKey twin).resizePopulated idlAddress existing existingJson capacity targetCapacity) := by
  unfold resizePopulated
  apply Similar.bind_eq (prepareResizeBuffers_similar interchangeable related _ _)
  intro buffers
  apply Similar.bind_eq (growAccount_similar interchangeable related _ _ _ _)
  intro _
  apply Cli.similar_reply interchangeable (by trivial)
  intro resized
  apply Similar.ofExcept_bind
  intro payloadRange _
  dsimp only
  split
  next => exact Similar.throw _
  next =>
    apply Similar.ofExcept_bind
    intro resizedJson _
    split
    next => exact Similar.throw _
    next => exact Similar.pure rfl

theorem upgradeOrSkip_similar (idlAddress : Pubkey) (existing : AccountInfo) (allowResize : Bool) :
    Cli.Similar publisher.sdk twins secret Eq (publisher.upgradeOrSkip idlAddress existing prepared allowResize)
      ((publisher.withKey twin).upgradeOrSkip idlAddress existing prepared allowResize) := by
  unfold upgradeOrSkip
  apply Similar.ofExcept_bind
  intro payloadRange _
  dsimp only
  split
  next => exact Similar.throw _
  next =>
    apply Similar.ofExcept_bind
    intro existingJson _
    apply Similar.ofExcept_bind
    intro required _
    split
    next => exact Similar.throw _
    next =>
      generalize decide (existingJson = prepared.expected) = unchanged
      cases unchanged with
      | true =>
        simp only [if_true]
        split
        next => exact Similar.bind_eq (resizePopulated_similar interchangeable related _ _ _ _ _) fun _ => Similar.pure rfl
        next => exact Similar.pure rfl
      | false =>
        have replaces (capacity : Nat) : Cli.Similar publisher.sdk twins secret Eq
            (do
              publisher.replacePayload idlAddress prepared required
              return Idl.PublishOutcome.upgraded capacity)
            (do
              (publisher.withKey twin).replacePayload idlAddress prepared required
              return Idl.PublishOutcome.upgraded capacity) :=
          Similar.bind_eq (replacePayload_similar interchangeable related _ _) fun _ => Similar.pure rfl
        simp only [reduceCtorEq, if_false]
        split
        next => exact Similar.bind_eq (resizePopulated_similar interchangeable related _ _ _ _ _) replaces
        next => exact replaces _

theorem publish_similar (allowResize : Bool) : Cli.Similar publisher.sdk twins secret Eq (publisher.publish prepared allowResize)
    ((publisher.withKey twin).publish prepared allowResize) := by
  have verifies : Cli.Similar publisher.sdk twins secret Eq (publisher.verifyPublished prepared.expected)
      ((publisher.withKey twin).verifyPublished prepared.expected) := by
    unfold verifyPublished
    apply Similar.ofExcept_bind
    intro derived _
    apply Cli.similar_reply interchangeable (by trivial)
    intro account
    apply Similar.ofExcept_bind
    intro payloadRange _
    apply Similar.ofExcept_bind
    intro actual _
    split
    next => exact Similar.throw _
    next => exact Similar.pure rfl
  unfold publish
  apply Similar.ofExcept_bind
  intro derived _
  apply Similar.ofExcept_bind
  intro _ _
  apply Cli.similar_perform interchangeable (by trivial)
  intro reply
  cases reply with
  | ok existing => exact Similar.bind_eq (upgradeOrSkip_similar interchangeable related _ _ _) fun _ => verifies
  | error error =>
    cases error with
    | notFound message => exact Similar.bind_eq (initializeIdl_similar interchangeable related _) fun _ => verifies
    | transactionError message => exact Similar.throw _
    | other message => exact Similar.throw _

end Publisher

namespace Deploy
variable {context : Context} {args : Args}

/-- What two runs have read, where only the keys may differ, and they are twins. -/
structure Inputs.Alike (twins : Keypair → Keypair → Prop) (inputs other : Inputs) : Prop where
  elfSize : inputs.elfSize = other.elfSize
  program : twins inputs.programKeypair other.programKeypair
  programPubkey : inputs.programPubkey = other.programPubkey
  authority : twins inputs.authorityKeypair other.authorityKeypair
  authorityPubkey : inputs.authorityPubkey = other.authorityPubkey
  preparedIdl : inputs.preparedIdl = other.preparedIdl

variable (interchangeable : Interchangeable context.sdk.toSdk twins)
include interchangeable

theorem localInputs_similar (elf : ¬secret args.elf) (idl : ∀ path, args.idl = some path → ¬secret path) :
    Cli.Similar context.sdk.toSdk twins secret (Inputs.Alike twins) (localInputs context args) (localInputs context args) := by
  unfold localInputs
  apply Similar.ofExcept_bind
  intro expectedProgram _
  apply Similar.bind_eq (Cli.similar_of_uses interchangeable (ensureFile_uses trivial _))
  intro _
  apply Similar.bind_eq (Cli.similar_of_uses interchangeable (readElf_uses elf))
  intro contents
  apply Similar.bind (Keys.loadOrGenerateKey_similar interchangeable)
  intro ⟨programKeypair, programPubkey, made⟩ ⟨programTwin, _, _⟩ program
  obtain ⟨program, same⟩ := program
  cases same
  dsimp only
  split
  next => exact Similar.throw _
  next =>
    apply Similar.bind (Keys.loadOrGenerateKey_similar interchangeable)
    intro ⟨authorityKeypair, authorityPubkey, _⟩ ⟨authorityTwin, _, _⟩ authority
    obtain ⟨authority, same⟩ := authority
    cases same
    have opens (path : Path) (given : args.idl = some path) : Opens (Shown secret) path := ⟨trivial, idl path given⟩
    apply Similar.bind_eq (Cli.similar_of_uses interchangeable (preparedIdl_uses opens _ _))
    exact fun preparedIdl => Similar.pure ⟨rfl, program, rfl, authority, rfl, rfl⟩

theorem topUp_similar {keypair twin : Keypair} (related : twins keypair twin) (authority : Pubkey) (target balance : Nat) :
    Cli.Similar context.sdk.toSdk twins secret Eq (topUp keypair authority target balance) (topUp twin authority target balance) := by
  fun_induction topUp keypair authority target balance with
  | case1 balance short ih =>
    rw [topUp.eq_def twin, dif_pos short]
    apply Cli.similar_funding related
    apply Cli.similar_reply interchangeable (by trivial)
    intro funded
    split
    next raised => exact ih funded raised
    next => exact Similar.throw _
  | case2 =>
    rw [topUp.eq_def twin, dif_neg ‹_›]
    exact Similar.pure rfl

theorem prepareProgramAccount_similar {program programTwin authority authorityTwin : Keypair} (programs : twins program programTwin)
    (authorities : twins authority authorityTwin) : Cli.Similar context.sdk.toSdk twins secret Eq
      (prepareProgramAccount context program authority) (prepareProgramAccount context programTwin authorityTwin) := by
  have assigns (account payer : Pubkey) : Cli.Similar context.sdk.toSdk twins secret Eq
      (assignProgramAccount context account payer program authority)
      (assignProgramAccount context account payer programTwin authorityTwin) := by
    unfold assignProgramAccount
    simp only [interchangeable.signed _ _ _ _ (.cons authorities (.cons programs .nil))]
    exact Cli.similar_of_uses interchangeable
      (assignProgramAccount_uses ⟨trivial, fun _ => trivial, fun _ => trivial⟩ (fun _ => trivial) account payer)
  unfold prepareProgramAccount
  rw [interchangeable.pubkey _ _ programs, interchangeable.pubkey _ _ authorities]
  dsimp only
  split
  next => exact Similar.throw _
  next =>
    apply Cli.similar_perform interchangeable (by trivial)
    intro reply
    cases reply with
    | error error =>
      cases error with
      | notFound message => exact Similar.pure rfl
      | transactionError message => exact Similar.throw _
      | other message => exact Similar.throw _
    | ok account =>
      dsimp only
      split
      next => exact Similar.pure rfl
      next =>
        split
        next => exact Similar.throw _
        next => exact assigns _ _

omit interchangeable in
theorem deployProgram_similar {inputs other : Inputs} (alike : inputs.Alike twins other) (elfPath : String) :
    Cli.Similar context.sdk.toSdk twins secret Eq (deployProgram args inputs elfPath) (deployProgram args other elfPath) := by
  have requests : Requests twins
      (.tryDeployProgram (programName args.elf) inputs.programKeypair inputs.authorityKeypair elfPath)
      (.tryDeployProgram (programName args.elf) other.programKeypair other.authorityKeypair elfPath) :=
    ⟨rfl, alike.program, alike.authority, rfl⟩
  unfold deployProgram
  rw [alike.programPubkey]
  apply Similar.perform (I := api) requests
  intro reply answer same
  cases eq_of_heq same
  cases reply with
  | error error => exact Similar.throw _
  | ok deployed =>
    dsimp only
    split
    next => exact Similar.throw _
    next => exact Similar.pure rfl

theorem publishIdl_similar {inputs other : Inputs} (alike : inputs.Alike twins other) (deployed : Pubkey) (prepared : Idl.PreparedIdl)
    (allowResize : Bool) : Cli.Similar context.sdk.toSdk twins secret Eq (publishIdl context inputs deployed prepared allowResize)
      (publishIdl context other deployed prepared allowResize) := by
  let publisher : Publisher :=
    { sdk := context.sdk.toSdk, codec := context.codec, program := deployed, authority := inputs.authorityPubkey
      network := context.network, authorityKeypair := inputs.authorityKeypair }
  have trusted : Interchangeable publisher.sdk twins := interchangeable
  have related : twins publisher.authorityKeypair other.authorityKeypair := alike.authority
  have published : Cli.Similar publisher.sdk twins secret Eq (publisher.publish prepared allowResize)
      ((publisher.withKey other.authorityKeypair).publish prepared allowResize) := Publisher.publish_similar trusted related allowResize
  unfold publishIdl
  rw [← alike.authorityPubkey]
  exact Similar.tryCatch published fun source => Similar.throw _

theorem deploy_similar {inputs other : Inputs} (alike : inputs.Alike twins other) :
    Cli.Similar context.sdk.toSdk twins secret Eq (deploy context args inputs) (deploy context args other) := by
  unfold deploy
  apply Similar.ofExcept_bind
  intro elfPath _
  apply Similar.bind_eq (prepareProgramAccount_similar interchangeable alike.program alike.authority)
  intro _
  apply Similar.bind_eq (deployProgram_similar alike elfPath)
  intro deployed
  rw [alike.preparedIdl]
  split
  next prepared _ => exact publishIdl_similar interchangeable alike deployed prepared _
  next => exact Similar.pure rfl

theorem run_similar (elf : ¬secret args.elf) (idl : ∀ path, args.idl = some path → ¬secret path) :
    Cli.Similar context.sdk.toSdk twins secret Eq (run context args) (run context args) := by
  unfold run
  apply Similar.bind (localInputs_similar interchangeable elf idl)
  intro inputs other alike
  split
  next =>
    have funds : Cli.Similar context.sdk.toSdk twins secret Eq (fundAuthority context args inputs) (fundAuthority context args other) := by
      unfold fundAuthority
      rw [alike.elfSize, alike.authorityPubkey]
      apply Similar.bind_eq (Cli.similar_of_uses interchangeable (balanceOf_uses trivial))
      exact fun balance => topUp_similar interchangeable alike.authority _ _ _
    exact Similar.bind_eq funds fun _ => deploy_similar interchangeable alike
  next => exact deploy_similar interchangeable alike

end Deploy
end ArchKit
