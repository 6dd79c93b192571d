import ArchKit.CommandLine
import ArchKit.Effects.Footprint

/-! The footprints of the parts that commands are made of. -/

namespace ArchKit
open Effects Fallible

variable {α β : Type} {allowed : Request → Prop}

/-- A path that may be opened for reading. -/
structure Opens (allowed : Request → Prop) (path : Path) : Prop where
  isFile : allowed (.isFile path)
  read : allowed (.read path)

/-- A path at which a file may be created and filled. -/
structure Creates (allowed : Request → Prop) (path : Path) : Prop where
  probe : allowed (.symlinkMetadata path)
  createNew : allowed (.createNew path)
  write : ∀ file buffer, allowed (.write file buffer)
  syncAll : ∀ file, allowed (.syncAll file)

structure Submits (allowed : Request → Prop) : Prop where
  blockhash : allowed .getBestFinalizedBlockHash
  send : ∀ transaction, allowed (.sendTransaction transaction)
  wait : ∀ id, allowed (.waitForProcessedTransaction id)

theorem Cli.rpc_uses (outcome : Except ArchError α) : Uses (I := api) allowed (Cli.rpc outcome) := by
  cases outcome with
  | ok value => exact Within.pure trivial
  | error error => exact Within.throw _

/-- `?` on the reply to a request. -/
theorem Cli.uses_reply {operation : Request} {convert : operation.Reply → Except ArchError α} {next : α → Cli β}
    (permitted : allowed operation) (rest : ∀ value, Uses (I := api) allowed (next value)) :
    Uses (I := api) allowed (Fallible.perform (I := api) operation >>= fun reply => Cli.rpc (convert reply) >>= next) :=
  Within.perform (I := api) permitted fun reply => Uses.bind (Cli.rpc_uses (convert reply)) rest

namespace Keys
variable (sdk : Sdk) {path : Path}

theorem loadExistingKey_uses (opens : Opens allowed path) (label : String) :
    Uses (I := api) allowed (loadExistingKey sdk path label) := by
  unfold loadExistingKey
  apply Within.perform (I := api) opens.isFile
  intro present
  cases present with
  | false => exact Within.throw _
  | true =>
    apply Within.perform (I := api) opens.read
    intro reply
    cases reply with
    | error source => exact Within.throw _
    | ok bytes =>
      dsimp only
      cases fromUtf8? bytes with
      | none => exact Within.throw _
      | some contents =>
        dsimp only
        cases parseSecretKey sdk contents with
        | error source => exact Within.throw _
        | ok secretKey => exact Within.pure trivial

theorem writeAll_uses {fail : IoError → CliError} {file : File} (writes : ∀ buffer, allowed (.write file buffer)) (buffer : Bytes) :
    Uses (I := api) allowed (writeAll fail file buffer) := by
  induction buffer using writeAll.induct with
  | case1 =>
    rw [writeAll]
    exact Within.pure trivial
  | case2 byte rest ih =>
    rw [writeAll]
    apply Within.perform (I := api) (writes _)
    intro reply
    cases reply with
    | error source => exact Within.throw _
    | ok count =>
      cases count with
      | zero => exact Within.throw _
      | succ count => exact ih count

theorem persistKeyFile_uses (creates : Creates allowed path) (label : String) (keypair : Keypair) :
    Uses (I := api) allowed (persistKeyFile path label keypair) := by
  unfold persistKeyFile
  apply Within.perform (I := api) creates.createNew
  intro reply
  cases reply with
  | error source => exact Within.throw _
  | ok file =>
    apply Uses.bind (writeAll_uses (creates.write file) _)
    intro _
    apply Uses.bind (writeAll_uses (creates.write file) _)
    intro _
    apply Within.perform (I := api) (creates.syncAll file)
    intro reply
    cases reply with
    | error source => exact Within.throw _
    | ok value => exact Within.pure trivial

theorem generateKeyFile_uses (creates : Creates allowed path) {network : Network} (draws : allowed (.generateNewKeypair network))
    (label : String) : Uses (I := api) allowed (generateKeyFile path label network) := by
  unfold generateKeyFile
  apply Within.perform (I := api) draws
  intro drawn
  exact Uses.bind (persistKeyFile_uses creates label drawn.1) fun _ => Within.pure trivial

theorem loadOrGenerateKey_uses (opens : Opens allowed path) {network : Network} {generateIfMissing : Bool}
    (creates : generateIfMissing = true → Creates allowed path ∧ allowed (.generateNewKeypair network)) (label : String) :
    Uses (I := api) allowed (loadOrGenerateKey sdk path label network generateIfMissing) := by
  have loads : Uses (I := api) allowed (loadExistingKey sdk path label >>= fun loaded => pure (loaded.1, loaded.2, false)) :=
    Uses.bind (loadExistingKey_uses sdk opens label) fun _ => Within.pure trivial
  unfold loadOrGenerateKey
  cases generateIfMissing with
  | false => exact loads
  | true =>
    obtain ⟨creates, draws⟩ := creates rfl
    apply Within.perform (I := api) creates.probe
    intro reply
    cases reply with
    | ok value => exact loads
    | error source =>
      dsimp only
      split
      next => exact Uses.bind (generateKeyFile_uses creates draws label) fun _ => Within.pure trivial
      next => exact Within.throw _

end Keys

section Signing
variable {sdk : SigningSdk} {shell : Shell} {intent label : String}

/-- What a signer asks of the outside world for a signature is allowed. -/
def ArchSigner.Permitted (allowed : Request → Prop) (signer : ArchSigner sdk) : Prop :=
  ∀ message, Uses (I := api) allowed (signer.signMessage message)

/-- A signer source that may be used: a key file that may be opened and sign, or a
cosigner that may be asked, under its own address and with its own token only. -/
def SignerSource.Permitted (allowed : Request → Prop) (shell : Shell) : SignerSource → Prop
  | .file path => Opens allowed path ∧ ∀ keypair digest network, allowed (.signMessageBip322 keypair digest network)
  | .cosigner envPrefix => ∀ url token body, shell.environment (envPrefix ++ "_COSIGNER_URL") = some url →
    shell.environment (envPrefix ++ "_COSIGNER_TOKEN") = some token →
    allowed (.post (String.ofList (url.toList.rdropWhile (· = '/')) ++ "/v1/sign") token body)

theorem CosignerSigner.readVariable_eq_ok {environment : String → Option String} {name value : String}
    (read : readVariable environment name = .ok value) : environment name = some value := by
  unfold readVariable at read
  split at read
  next found =>
    cases read
    exact (Option.filter_eq_some_iff.mp found).1
  next => cases read

theorem CosignerSigner.fromEnv_eq_ok {environment : String → Option String} {envPrefix : String} {network : Network}
    {signer : CosignerSigner} (read : fromEnv environment envPrefix network intent = .ok signer) :
    ∃ url, environment (envPrefix ++ "_COSIGNER_URL") = some url ∧ signer.url = String.ofList (url.toList.rdropWhile (· = '/')) ∧
      environment (envPrefix ++ "_COSIGNER_TOKEN") = some signer.token := by
  unfold fromEnv at read
  obtain ⟨url, addressed, read⟩ := bind_eq_ok.mp read
  obtain ⟨token, authorized, read⟩ := bind_eq_ok.mp read
  obtain ⟨role, _, read⟩ := bind_eq_ok.mp read
  obtain ⟨pubkeyHex, _, read⟩ := bind_eq_ok.mp read
  split at read
  next =>
    cases read
    exact ⟨url, readVariable_eq_ok addressed, rfl, readVariable_eq_ok authorized⟩
  next => cases read

theorem CosignerSigner.signMessage_uses {signer : CosignerSigner}
    (posts : ∀ body, allowed (.post (signer.url ++ "/v1/sign") signer.token body)) (message : ArchMessage) :
    Uses (I := api) allowed (signer.signMessage sdk message) := by
  unfold CosignerSigner.signMessage
  apply Within.perform (I := api) (posts _)
  intro reply
  cases reply with
  | error error => exact Within.throw _
  | ok response =>
    dsimp only
    cases response.json with
    | error error => exact Within.throw _
    | ok body =>
      dsimp only
      split
      next => exact Uses.ofExcept
      next => exact Within.throw _

theorem SignerSource.resolve_within {source : SignerSource} (permitted : source.Permitted allowed shell) :
    Within (I := api) allowed (ArchSigner.Permitted allowed) (source.resolve sdk shell intent label) := by
  cases source with
  | file path =>
    have loads : Uses (I := api) allowed (LocalFileSigner.fromFile sdk path shell.network label) :=
      Uses.bind (Keys.loadExistingKey_uses _ permitted.1 label) fun _ => Within.pure trivial
    apply Within.bind loads
    intro signer _
    apply Within.pure
    intro message
    exact Within.perform (I := api) (permitted.2 ..) fun reply => Cli.rpc_uses reply
  | cosigner envPrefix =>
    apply Within.establish (fun signer : CosignerSigner => ∀ body, allowed (.post (signer.url ++ "/v1/sign") signer.token body))
    · apply Within.ofExcept
      intro signer read body
      obtain ⟨url, addressed, same, authorized⟩ := CosignerSigner.fromEnv_eq_ok read
      rw [same]
      exact permitted url signer.token body addressed authorized
    · intro signer posts
      exact Within.pure fun message => CosignerSigner.signMessage_uses posts message

namespace Transaction
variable {signers : List (ArchSigner sdk)} (permitted : ∀ signer ∈ signers, signer.Permitted allowed)
include permitted

theorem signAll_uses (message : ArchMessage) (pubkeys : List Pubkey) :
    Uses (I := api) allowed (signAll message signers pubkeys) := by
  induction pubkeys with
  | nil => exact Within.pure trivial
  | cons pubkey pubkeys ih =>
    unfold signAll
    cases found : signers.find? (fun signer => signer.pubkey = pubkey) with
    | none => exact Within.throw _
    | some signer =>
      apply Uses.bind (permitted signer (List.mem_of_find?_eq_some found) message)
      intro signature
      exact Uses.bind ih fun _ => Within.pure trivial

theorem sendAndConfirm_uses (submits : Submits allowed) (action : String) (instructions : List Instruction) (payer : Pubkey) :
    Uses (I := api) allowed (sendAndConfirm action instructions payer signers) := by
  unfold sendAndConfirm
  apply Cli.uses_reply submits.blockhash
  intro blockhash
  apply Uses.bind (Uses.bind (signAll_uses permitted _ _) fun _ => Within.pure trivial)
  intro transaction
  apply Cli.uses_reply (submits.send transaction)
  intro id
  apply Cli.uses_reply (submits.wait id)
  intro processed
  split
  next => exact Within.throw _
  next => exact Within.pure trivial

end Transaction
end Signing

namespace Publisher
variable (publisher : Publisher) {prepared : Idl.PreparedIdl}

theorem send_uses (submits : Submits allowed) (action : String) (instructions : List Instruction) (payer : Pubkey)
    (signers : List Keypair) : Uses (I := api) allowed (publisher.send action instructions payer signers) := by
  unfold send
  apply Cli.uses_reply submits.blockhash
  intro blockhash
  apply Uses.bind (Cli.rpc_uses _)
  intro transaction
  apply Cli.uses_reply (submits.send transaction)
  intro id
  apply Cli.uses_reply (submits.wait id)
  intro processed
  split
  next => exact Within.throw _
  next => exact Within.pure trivial

/-- What a publication asks for. -/
structure MayPublish (allowed : Request → Prop) (network : Network) : Prop extends Submits allowed where
  account : ∀ address, allowed (.readAccountInfo address)
  draw : allowed (.generateNewKeypair network)

variable (publishes : MayPublish allowed publisher.network)
include publishes

theorem growAccount_uses (idlAddress : Pubkey) (currentSpace targetSpace : Nat) (buffers : Option (Pubkey × Pubkey)) :
    Uses (I := api) allowed (publisher.growAccount idlAddress currentSpace targetSpace buffers) := by
  fun_induction growAccount publisher idlAddress currentSpace targetSpace buffers with
  | case1 currentSpace smaller ih =>
    apply Uses.bind Uses.ofExcept
    intro space
    split
    next => exact Within.throw _
    next nextSpace next => exact Uses.bind (publisher.send_uses publishes.toSubmits _ _ _ _) fun _ => ih nextSpace next
  | case2 => exact Within.pure trivial

theorem writeFrom_uses (target : Pubkey) (total index : Nat) (rest : List Bytes) :
    Uses (I := api) allowed (publisher.writeFrom target total index rest) := by
  induction rest generalizing index with
  | nil => exact Within.pure trivial
  | cons chunk rest ih => exact Uses.bind (publisher.send_uses publishes.toSubmits _ _ _ _) fun _ => ih (index + 1)

theorem createBuffer_uses (capacity : Nat) (copyFrom : Option Pubkey) :
    Uses (I := api) allowed (publisher.createBuffer capacity copyFrom) := by
  unfold createBuffer
  apply Within.perform (I := api) publishes.draw
  intro drawn
  apply Uses.bind Uses.ofExcept
  intro space
  exact Uses.bind (publisher.send_uses publishes.toSubmits _ _ _ _) fun _ => Within.pure trivial

theorem prepareResizeBuffers_uses (idlAddress : Pubkey) (existing : AccountInfo) :
    Uses (I := api) allowed (publisher.prepareResizeBuffers idlAddress existing) := by
  unfold prepareResizeBuffers
  apply Uses.bind Uses.ofExcept
  intro range
  apply Uses.bind (publisher.createBuffer_uses publishes _ _)
  intro backup
  apply Cli.uses_reply (publishes.account backup)
  intro saved
  apply Uses.bind Uses.ofExcept
  intro savedRange
  split
  next => exact Within.throw _
  next => exact Uses.bind (publisher.createBuffer_uses publishes _ _) fun _ => Within.pure trivial

theorem initializeIdl_uses (idlAddress : Pubkey) : Uses (I := api) allowed (publisher.initializeIdl idlAddress prepared) := by
  unfold initializeIdl
  apply Uses.bind Uses.ofExcept
  intro derived
  dsimp only
  split
  next => exact Within.throw _
  next =>
    apply Uses.bind Uses.ofExcept
    intro payloadCapacity
    apply Uses.bind Uses.ofExcept
    intro dataLen
    apply Uses.bind (publisher.send_uses publishes.toSubmits _ _ _ _)
    intro _
    apply Uses.bind (publisher.growAccount_uses publishes _ _ _ _)
    intro _
    exact publisher.writeFrom_uses publishes _ _ _ _

theorem replacePayload_uses (idlAddress : Pubkey) (required : Nat) :
    Uses (I := api) allowed (publisher.replacePayload idlAddress prepared required) := by
  unfold replacePayload
  apply Uses.bind (publisher.createBuffer_uses publishes _ _)
  intro buffer
  apply Uses.bind (publisher.writeFrom_uses publishes _ _ _ _)
  intro _
  exact Uses.bind (publisher.send_uses publishes.toSubmits _ _ _ _) fun _ => Within.pure trivial

theorem resizePopulated_uses (idlAddress : Pubkey) (existing : AccountInfo) (existingJson : Json) (capacity targetCapacity : Nat) :
    Uses (I := api) allowed (publisher.resizePopulated idlAddress existing existingJson capacity targetCapacity) := by
  unfold resizePopulated
  apply Uses.bind (publisher.prepareResizeBuffers_uses publishes _ _)
  intro buffers
  apply Uses.bind (publisher.growAccount_uses publishes _ _ _ _)
  intro _
  apply Cli.uses_reply (publishes.account idlAddress)
  intro resized
  apply Uses.bind Uses.ofExcept
  intro payloadRange
  dsimp only
  split
  next => exact Within.throw _
  next =>
    apply Uses.bind Uses.ofExcept
    intro resizedJson
    split
    next => exact Within.throw _
    next => exact Within.pure trivial

theorem upgradeOrSkip_uses (idlAddress : Pubkey) (existing : AccountInfo) (allowResize : Bool) :
    Uses (I := api) allowed (publisher.upgradeOrSkip idlAddress existing prepared allowResize) := by
  unfold upgradeOrSkip
  apply Uses.bind Uses.ofExcept
  intro payloadRange
  dsimp only
  split
  next => exact Within.throw _
  next =>
    apply Uses.bind Uses.ofExcept
    intro existingJson
    apply Uses.bind Uses.ofExcept
    intro required
    split
    next => exact Within.throw _
    next =>
      generalize decide (existingJson = prepared.expected) = unchanged
      cases unchanged with
      | true =>
        simp only [if_true]
        split
        next => exact Uses.bind (publisher.resizePopulated_uses publishes _ _ _ _ _) fun _ => Within.pure trivial
        next => exact Within.pure trivial
      | false =>
        have replaces (capacity : Nat) : Uses (I := api) allowed (do
            publisher.replacePayload idlAddress prepared required
            return Idl.PublishOutcome.upgraded capacity) :=
          Uses.bind (publisher.replacePayload_uses publishes _ _) fun _ => Within.pure trivial
        simp only [reduceCtorEq, if_false]
        split
        next => exact Uses.bind (publisher.resizePopulated_uses publishes _ _ _ _ _) replaces
        next => exact replaces _

theorem publish_uses (allowResize : Bool) : Uses (I := api) allowed (publisher.publish prepared allowResize) := by
  have verifies : Uses (I := api) allowed (publisher.verifyPublished prepared.expected) := by
    unfold verifyPublished
    apply Uses.bind Uses.ofExcept
    intro derived
    apply Cli.uses_reply (publishes.account _)
    intro account
    apply Uses.bind Uses.ofExcept
    intro payloadRange
    apply Uses.bind Uses.ofExcept
    intro actual
    split
    next => exact Within.throw _
    next => exact Within.pure trivial
  unfold publish
  apply Uses.bind Uses.ofExcept
  intro derived
  apply Uses.bind Uses.ofExcept
  intro _
  apply Within.perform (I := api) (publishes.account _)
  intro reply
  cases reply with
  | ok existing => exact Uses.bind (publisher.upgradeOrSkip_uses publishes _ _ _) fun _ => verifies
  | error error =>
    cases error with
    | notFound message => exact Uses.bind (publisher.initializeIdl_uses publishes _) fun _ => verifies
    | transactionError message => exact Within.throw _
    | other message => exact Within.throw _

end Publisher
end ArchKit
