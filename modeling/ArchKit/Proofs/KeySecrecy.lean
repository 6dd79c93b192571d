import ArchKit.Proofs.Footprints
import ArchKit.Secrets

/-! Key files and signers with one key look like those with its twin. -/

namespace ArchKit
open Effects Fallible Secrets

variable {sdk : Sdk} {twins : Keypair → Keypair → Prop} {secret : Path → Prop} {α : Type}

/-- A command's part that looks alike for both keys. -/
abbrev Cli.Similar (sdk : Sdk) (twins : Keypair → Keypair → Prop) (secret : Path → Prop) {α β : Type} (related : α → β → Prop)
    (program : Cli α) (other : Cli β) : Prop :=
  Fallible.Similar (I := api) (likeness sdk twins secret) related program other

theorem Cli.similar_of_uses (interchangeable : Interchangeable sdk twins) {program : Cli α} (uses : Uses (I := api) (Shown secret) program) :
    Cli.Similar sdk twins secret Eq program program :=
  Uses.similar (I := api) (uses.mono (fun _ shown => shown.open interchangeable) fun _ _ => trivial)

section Requests
variable {β γ : Type} {related : β → γ → Prop} {operation : Request} (interchangeable : Interchangeable sdk twins)
  (shown : Shown secret operation)
include interchangeable shown

theorem Cli.similar_perform {next : operation.Reply → Cli β} {rest : operation.Reply → Cli γ}
    (continued : ∀ reply, Cli.Similar sdk twins secret related (next reply) (rest reply)) :
    Cli.Similar sdk twins secret related (Fallible.perform (I := api) operation >>= next)
      (Fallible.perform (I := api) operation >>= rest) :=
  Similar.perform_open (I := api) (shown.open interchangeable) continued

/-- `?` on the reply to a request that shows no secret. -/
theorem Cli.similar_reply {convert : operation.Reply → Except ArchError α} {next : α → Cli β} {rest : α → Cli γ}
    (continued : ∀ value, Cli.Similar sdk twins secret related (next value) (rest value)) :
    Cli.Similar sdk twins secret related (Fallible.perform (I := api) operation >>= fun reply => Cli.rpc (convert reply) >>= next)
      (Fallible.perform (I := api) operation >>= fun reply => Cli.rpc (convert reply) >>= rest) := by
  apply Cli.similar_perform interchangeable shown
  intro reply
  cases convert reply with
  | ok value => exact continued value
  | error error => exact Similar.throw _

end Requests

/-- A request to the faucet for the account of either key. -/
theorem Cli.similar_funding {β γ : Type} {related : β → γ → Prop} {keypair twin : Keypair} (twinned : twins keypair twin)
    {next : Cli β} {rest : Cli γ} (continued : Cli.Similar sdk twins secret related next rest) :
    Cli.Similar sdk twins secret related
      (Cli.createAndFundAccountWithFaucet keypair >>= fun reply => Cli.rpc reply >>= fun _ => next)
      (Cli.createAndFundAccountWithFaucet twin >>= fun reply => Cli.rpc reply >>= fun _ => rest) := by
  have alike : Requests twins (.createAndFundAccountWithFaucet keypair) (.createAndFundAccountWithFaucet twin) := twinned
  apply Similar.perform (I := api) alike
  intro reply other same
  cases eq_of_heq same
  cases reply with
  | ok value => exact continued
  | error error => exact Similar.throw _

namespace Keys
variable {path : Path} {label : String}

theorem heldKey?_eq_some {contents : Bytes} {secretKey : SecretKey} : heldKey? sdk contents = some secretKey ↔
    ∃ text, fromUtf8? contents = some text ∧ parseSecretKey sdk text = .ok secretKey := by
  refine Option.bind_eq_some_iff.trans (exists_congr fun text => and_congr_right fun _ => ?_)
  cases parseSecretKey sdk text with
  | ok key => simp only [Except.toOption, Option.some.injEq, Except.ok.injEq]
  | error source => exact iff_of_false (fun same => by cases same) (fun same => by cases same)

/-- What two loaded keys have in common. -/
def Loaded (twins : Keypair → Keypair → Prop) (loaded other : Keypair × Pubkey) : Prop :=
  twins loaded.1 other.1 ∧ loaded.2 = other.2

theorem loadExistingKey_similar (interchangeable : Interchangeable sdk twins) :
    Cli.Similar sdk twins secret (Loaded twins) (loadExistingKey sdk path label) (loadExistingKey sdk path label) := by
  unfold loadExistingKey
  apply Cli.similar_perform interchangeable (by trivial)
  intro present
  cases present with
  | false => exact Similar.throw _
  | true =>
    apply Similar.perform (I := api) rfl
    intro reply other alike
    rcases alike with same | ⟨_, contents, others, first, second, secretKey, secretTwin, held, heldTwin, related⟩
    · subst same
      cases reply with
      | error source => exact Similar.throw _
      | ok bytes =>
        dsimp only
        cases fromUtf8? bytes with
        | none => exact Similar.throw _
        | some contents =>
          dsimp only
          cases parseSecretKey sdk contents with
          | error source => exact Similar.throw _
          | ok secretKey => exact Similar.pure ⟨interchangeable.refl _, rfl⟩
    · subst first second
      obtain ⟨text, decoded, parsed⟩ := heldKey?_eq_some.mp held
      obtain ⟨textTwin, decodedTwin, parsedTwin⟩ := heldKey?_eq_some.mp heldTwin
      dsimp only
      rw [decoded, decodedTwin]
      dsimp only
      rw [parsed, parsedTwin]
      exact Similar.pure ⟨related, interchangeable.pubkey _ _ related⟩

theorem encodedSecret_length (keypair : Keypair) : (utf8 (encodedSecret keypair)).length = 64 := by
  rw [encodedSecret, utf8_ascii (fun letter member => lineText_ascii keypair letter (List.mem_append_left _ member)),
    List.length_map, digits_length]

/-- A file that is written up to the end of its line holds the key. -/
theorem heldKey?_secret (keypair : Keypair) : heldKey? sdk (utf8 (encodedSecret keypair)) = some keypair.secretKey := by
  rw [heldKey?_started (List.prefix_append _ _), if_pos (encodedSecret_length keypair).ge]

theorem Spelled.length {buffer other : Bytes} (spelled : Spelled twins buffer other) : buffer.length = other.length := by
  rcases spelled with same | ⟨keypair, twin, count, _, first, second⟩
  · rw [same]
  · rw [first, second, List.length_drop, List.length_drop, encodedSecret_length, encodedSecret_length]

theorem Spelled.drop {buffer other : Bytes} (spelled : Spelled twins buffer other) (taken : Nat) :
    Spelled twins (buffer.drop taken) (other.drop taken) := by
  rcases spelled with same | ⟨keypair, twin, count, related, first, second⟩
  · exact .inl (by rw [same])
  · exact .inr ⟨keypair, twin, count + taken, related, by rw [first, List.drop_drop], by rw [second, List.drop_drop]⟩

theorem writeAll_similar {fail : IoError → CliError} {file : File} {buffer other : Bytes} (spelled : Spelled twins buffer other) :
    Cli.Similar sdk twins secret Eq (writeAll fail file buffer) (writeAll fail file other) := by
  have size := Spelled.length spelled
  induction buffer using writeAll.induct generalizing other with
  | case1 =>
    rw [List.length_eq_zero_iff.mp size.symm, writeAll]
    exact Similar.pure rfl
  | case2 byte rest ih =>
    cases other with
    | nil => cases size
    | cons first others =>
      rw [writeAll, writeAll]
      have alike : Requests twins (.write file (byte :: rest)) (.write file (first :: others)) := ⟨rfl, spelled⟩
      apply Similar.perform (I := api) alike
      intro reply answer same
      cases eq_of_heq same
      cases reply with
      | error source => exact Similar.throw _
      | ok count =>
        cases count with
        | zero => exact Similar.throw _
        | succ count =>
          have remaining := Spelled.drop spelled (count + 1)
          exact ih count remaining (Spelled.length remaining)

theorem persistKeyFile_similar (interchangeable : Interchangeable sdk twins) {keypair twin : Keypair} (related : twins keypair twin) :
    Cli.Similar sdk twins secret Eq (persistKeyFile path label keypair) (persistKeyFile path label twin) := by
  unfold persistKeyFile
  apply Cli.similar_perform interchangeable (by trivial)
  intro reply
  cases reply with
  | error source => exact Similar.throw _
  | ok file =>
    apply Similar.bind (writeAll_similar (.inr ⟨keypair, twin, 0, related, rfl, rfl⟩))
    intro _ _ _
    apply Similar.bind (writeAll_similar (.inl rfl))
    intro _ _ _
    apply Cli.similar_perform interchangeable (by trivial)
    intro reply
    cases reply with
    | error source => exact Similar.throw _
    | ok value => exact Similar.pure rfl

theorem generateKeyFile_similar (interchangeable : Interchangeable sdk twins) {network : Network} :
    Cli.Similar sdk twins secret (Loaded twins) (generateKeyFile path label network) (generateKeyFile path label network) := by
  unfold generateKeyFile
  apply Similar.perform (I := api) rfl
  intro drawn other alike
  exact Similar.bind (persistKeyFile_similar interchangeable alike.1) fun _ _ _ => Similar.pure alike

theorem loadOrGenerateKey_similar (interchangeable : Interchangeable sdk twins) {network : Network} {generateIfMissing : Bool} :
    Cli.Similar sdk twins secret (fun loaded other => twins loaded.1 other.1 ∧ loaded.2 = other.2)
      (loadOrGenerateKey sdk path label network generateIfMissing) (loadOrGenerateKey sdk path label network generateIfMissing) := by
  have loads : Cli.Similar sdk twins secret (fun loaded other => twins loaded.1 other.1 ∧ loaded.2 = other.2)
      (loadExistingKey sdk path label >>= fun loaded => pure (loaded.1, loaded.2, false))
      (loadExistingKey sdk path label >>= fun loaded => pure (loaded.1, loaded.2, false)) := by
    apply Similar.bind (loadExistingKey_similar interchangeable)
    intro loaded other alike
    exact Similar.pure ⟨alike.1, by rw [alike.2]⟩
  unfold loadOrGenerateKey
  cases generateIfMissing with
  | false => exact loads
  | true =>
    apply Cli.similar_perform interchangeable (by trivial)
    intro reply
    cases reply with
    | ok value => exact loads
    | error source =>
      dsimp only
      split
      next =>
        apply Similar.bind (generateKeyFile_similar interchangeable)
        intro loaded other alike
        exact Similar.pure ⟨alike.1, by rw [alike.2]⟩
      next => exact Similar.throw _

end Keys

section Signing
variable {sdk : SigningSdk}

/-- Signers with the same public key: local ones with twins, or one and the same cosigner. -/
def ArchSigner.Alike (twins : Keypair → Keypair → Prop) : ArchSigner sdk → ArchSigner sdk → Prop
  | .localFile signer, .localFile other => twins signer.keypair other.keypair ∧ signer.pubkey = other.pubkey ∧ signer.network = other.network
  | .cosigner signer, .cosigner other => signer = other
  | _, _ => False

variable {signer other : ArchSigner sdk}

theorem ArchSigner.Alike.pubkey (alike : signer.Alike twins other) : signer.pubkey = other.pubkey := by
  cases signer with
  | localFile signer =>
    cases other with
    | localFile other => exact alike.2.1
    | cosigner => exact alike.elim
  | cosigner signer =>
    cases other with
    | localFile => exact alike.elim
    | cosigner => exact congrArg CosignerSigner.pubkey alike

theorem ArchSigner.signMessage_similar (interchangeable : Interchangeable sdk.toSdk twins) (alike : signer.Alike twins other)
    (message : ArchMessage) : Cli.Similar sdk.toSdk twins secret Eq (signer.signMessage message) (other.signMessage message) := by
  cases signer with
  | localFile signer =>
    cases other with
    | cosigner => exact alike.elim
    | localFile other =>
      obtain ⟨related, _, network⟩ := alike
      have requests : Requests twins (.signMessageBip322 signer.keypair (sdk.hash message) signer.network)
          (.signMessageBip322 other.keypair (sdk.hash message) other.network) := ⟨related, rfl, network⟩
      apply Similar.perform (I := api) requests
      intro reply answer same
      cases eq_of_heq same
      cases reply with
      | ok signature => exact Similar.pure rfl
      | error error => exact Similar.throw _
  | cosigner signer =>
    cases other with
    | localFile => exact alike.elim
    | cosigner other =>
      cases alike
      exact Cli.similar_of_uses interchangeable (CosignerSigner.signMessage_uses (fun _ => trivial) message)

theorem SignerSource.resolve_similar (interchangeable : Interchangeable sdk.toSdk twins) {shell : Shell} {intent label : String}
    (source : SignerSource) : Cli.Similar sdk.toSdk twins secret (ArchSigner.Alike twins) (source.resolve sdk shell intent label)
      (source.resolve sdk shell intent label) := by
  cases source with
  | file path =>
    have loads : Cli.Similar sdk.toSdk twins secret
        (fun signer other => (ArchSigner.localFile signer : ArchSigner sdk).Alike twins (.localFile other))
        (LocalFileSigner.fromFile sdk path shell.network label) (LocalFileSigner.fromFile sdk path shell.network label) := by
      apply Similar.bind (Keys.loadExistingKey_similar interchangeable)
      intro loaded other alike
      exact Similar.pure ⟨alike.1, interchangeable.pubkey _ _ alike.1, rfl⟩
    exact Similar.bind loads fun signer other alike => Similar.pure alike
  | cosigner envPrefix =>
    apply Similar.ofExcept_bind
    exact fun signer _ => Similar.pure rfl

namespace Transaction
variable {signers others : List (ArchSigner sdk)} (alike : List.Forall₂ (ArchSigner.Alike twins) signers others)
include alike

variable (interchangeable : Interchangeable sdk.toSdk twins)
include interchangeable

theorem signAll_similar (message : ArchMessage) (pubkeys : List Pubkey) :
    Cli.Similar sdk.toSdk twins secret Eq (signAll message signers pubkeys) (signAll message others pubkeys) := by
  induction pubkeys with
  | nil => exact Similar.pure rfl
  | cons pubkey pubkeys ih =>
    unfold signAll
    have found : Option.Rel (ArchSigner.Alike twins) (signers.find? fun signer => signer.pubkey = pubkey)
        (others.find? fun signer => signer.pubkey = pubkey) :=
      rel_find (fun _ _ same => by rw [ArchSigner.Alike.pubkey same]) alike
    generalize signers.find? (fun signer => signer.pubkey = pubkey) = first at found ⊢
    generalize others.find? (fun signer => signer.pubkey = pubkey) = second at found ⊢
    cases found with
    | none => exact Similar.throw _
    | some same =>
      apply Similar.bind_eq (ArchSigner.signMessage_similar interchangeable same message)
      intro signature
      exact Similar.bind_eq ih fun signatures => Similar.pure rfl

theorem sendAndConfirm_similar (action : String) (instructions : List Instruction) (payer : Pubkey) :
    Cli.Similar sdk.toSdk twins secret Eq (sendAndConfirm action instructions payer signers)
      (sendAndConfirm action instructions payer others) := by
  unfold sendAndConfirm
  apply Cli.similar_reply interchangeable (by trivial)
  intro blockhash
  apply Similar.bind_eq (Similar.bind_eq (signAll_similar alike interchangeable _ _) fun signatures => Similar.pure rfl)
  intro transaction
  apply Cli.similar_reply interchangeable (by trivial)
  intro id
  apply Cli.similar_reply interchangeable (by trivial)
  intro processed
  split
  next => exact Similar.throw _
  next => exact Similar.pure rfl

end Transaction
end Signing
end ArchKit
