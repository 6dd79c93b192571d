import ArchKit.Proofs.LocalInputs
import ArchKit.Proofs.TokenLedger

/-! What the token commands learn from the chain, and what they submit to it. -/

namespace ArchKit
open Effects Fallible Radix

/-- Nothing is submitted. -/
abbrev Cli.Silent {α : Type} (program : Cli α) : Prop := Fallible.Offline (I := api) (fun operation => !operation.submits) program

theorem Cli.Offline.silent {α : Type} {program : Cli α} (offline : Cli.Offline program) : Cli.Silent program := by
  apply Program.Offline.mono offline
  intro operation stays
  cases operation with
  | sendTransaction transaction => cases stays
  | _ => rfl

theorem SignerSource.resolve_silent (sdk : SigningSdk) (shell : Shell) (intent label : String) (source : SignerSource) :
    Cli.Silent (source.resolve sdk shell intent label) := by
  cases source with
  | file path =>
    apply Fallible.Offline.bind
    · apply Fallible.Offline.bind (Keys.loadExistingKey_offline sdk.toSdk path label).silent
      exact fun loaded => .pure _
    · exact fun signer => .pure _
  | cosigner envPrefix =>
    apply Fallible.Offline.bind (.ofExcept _)
    exact fun signer => .pure _

section Signing
variable {sdk : SigningSdk} (message : ArchMessage)

theorem ArchSigner.signMessage_silent (signer : ArchSigner sdk) : Cli.Silent (signer.signMessage message) := by
  cases signer with
  | localFile signer =>
    apply Fallible.Offline.perform (I := api) rfl
    intro reply
    cases reply with
    | ok signature => exact .pure _
    | error error => exact .throw _
  | cosigner signer =>
    apply Fallible.Offline.perform (I := api) rfl
    intro reply
    cases reply with
    | error error => exact .throw _
    | ok response =>
      dsimp only
      cases response.json with
      | error error => exact .throw _
      | ok body =>
        dsimp only
        split
        · exact .ofExcept _
        · exact .throw _

theorem Transaction.signAll_silent (signers : List (ArchSigner sdk)) (keys : List Pubkey) :
    Cli.Silent (signAll message signers keys) := by
  induction keys with
  | nil => exact .pure _
  | cons key keys ih =>
    unfold signAll
    split
    · exact .throw _
    next signer _ =>
      apply Fallible.Offline.bind (signer.signMessage_silent message)
      intro signature
      exact .bind ih (fun signatures => .pure _)

end Signing

theorem ensures_rpc_bind {α β δ : Type} {server : Server api δ} {reply : Except ArchError α} {next : α → Cli β}
    {last : Except CliError β → δ → Prop} {state : δ} (rest : ∀ value, reply = .ok value → Ensures server (next value) last state)
    (failed : ∀ error, reply = .error error → last (.error (.archRpc error)) state) :
    Ensures server (Cli.rpc reply >>= next) last state := by
  cases reply with
  | ok value => exact rest value rfl
  | error error => exact failed error rfl

namespace TokenProgram
variable {ι : Type} {sdk : TokenSdk} {reliable : Prop} {client : ι} {world after : World ι}

theorem Serves.still (world : World ι) (operation : Request) (reply : operation.Reply) (after : World ι)
    (quiet : (!operation.submits) = true) (served : Serves sdk reliable client world operation reply after) : after = world := by
  cases operation with
  | sendTransaction transaction => cases quiet
  | readAccountInfo address => exact served.1
  | waitForProcessedTransaction id => exact served.1
  | _ => exact served

theorem silent_ensures {α : Type} {program : Cli α} (silent : Cli.Silent program) (world : World ι) :
    Ensures (Serves sdk reliable client) program (fun _ after => after = world) world :=
  Program.Offline.ensures silent Serves.still world

/-- What became of the one transaction that a command has submitted. -/
inductive Submits {α : Type} (sdk : TokenSdk) (reliable : Prop) (client : ι) (instructions : List Instruction) (before : World ι) :
    Except CliError α → World ι → Prop where
  | lost {transaction : RuntimeTransaction} {error : CliError} (carries : transaction.message.instructions = instructions) :
      Submits sdk reliable client instructions before (.error error) (before.lose client transaction)
  | refused {transaction : RuntimeTransaction} {reason : String} {error : CliError}
      (carries : transaction.message.instructions = instructions) :
      Submits sdk reliable client instructions before (.error error) (before.reject client transaction reason)
  | executed {transaction : RuntimeTransaction} {ledger : Ledger} {outcome : Except CliError α}
      (carries : transaction.message.instructions = instructions)
      (done : processInstructions sdk before.ledger instructions = some ledger)
      (learns : reliable → ∃ value, outcome = .ok value) :
      Submits sdk reliable client instructions before outcome (before.commit client transaction ledger)

/-- A command that has submitted nothing, or one transaction with the instructions. -/
def SubmitsAtMost {α : Type} (sdk : TokenSdk) (reliable : Prop) (client : ι) (instructions : List Instruction → Prop)
    (before : World ι) (outcome : Except CliError α) (after : World ι) : Prop :=
  (after = before ∧ ∃ error, outcome = .error error) ∨
    ∃ chosen, instructions chosen ∧ Submits sdk reliable client chosen before outcome after

/-- The outcome may be converted, and the instructions described less closely. -/
theorem SubmitsAtMost.map {α β : Type} {chosen weaker : List Instruction → Prop} {outcome : Except CliError α}
    (submits : SubmitsAtMost sdk reliable client chosen world outcome after) (f : α → β)
    (implies : ∀ instructions, chosen instructions → weaker instructions) :
    SubmitsAtMost sdk reliable client weaker world (outcome.map f) after := by
  rcases submits with ⟨same, error, failed⟩ | ⟨instructions, described, submitted⟩
  · subst failed
    exact .inl ⟨same, error, rfl⟩
  · refine .inr ⟨instructions, implies instructions described, ?_⟩
    cases submitted with
    | lost carries => exact .lost carries
    | refused carries => exact .refused carries
    | executed carries done learns =>
      refine .executed carries done ?_
      intro trusted
      obtain ⟨value, returned⟩ := learns trusted
      exact ⟨f value, by rw [returned]; rfl⟩

/-- Waiting for a recorded transaction reports its status, or fails for another reason. -/
theorem confirm_ensures {entry : Entry ι} (action : String) (id : Hash) (sent : World ι)
    (recorded : sent.log[id.number]? = some entry) :
    Ensures (Serves sdk reliable client) (do
      let processed ← Cli.rpc (← Cli.waitForProcessedTransaction id)
      if processed.status ≠ .processed then
        throw (.transactionFailed action processed.status.debug)
      return id)
      (fun outcome after => after = sent ∧ ((entry.status = .processed ∧ outcome = .ok id) ∨
        ((reliable → entry.status ≠ .processed) ∧ ∃ error, outcome = .error error))) sent := by
  apply (ensures_perform_bind (I := api) (.waitForProcessedTransaction id)).mpr
  intro reply after served
  obtain ⟨same, answered⟩ := served
  subst same
  rcases answered with ⟨found, again, truth⟩ | ⟨missing, error, failed⟩
  · cases recorded.symm.trans again
    subst truth
    apply ensures_rpc_bind
    · intro processed same
      cases same
      split
      next failed => exact ⟨rfl, .inr ⟨fun _ => failed, _, rfl⟩⟩
      next succeeded => exact ⟨rfl, .inl ⟨not_not.mp succeeded, rfl⟩⟩
    · intro error same
      cases same
  · subst failed
    refine ⟨rfl, .inr ⟨fun trusted => ?_, _, rfl⟩⟩
    rw [missing trusted] at recorded
    cases recorded

/-- Sending a signed transaction and waiting for it. -/
theorem send_ensures (action : String) {instructions : List Instruction} {transaction : RuntimeTransaction}
    (carries : transaction.message.instructions = instructions) (world : World ι) :
    Ensures (Serves sdk reliable client) (do
      let id ← Cli.rpc (← Cli.sendTransaction transaction)
      let processed ← Cli.rpc (← Cli.waitForProcessedTransaction id)
      if processed.status ≠ .processed then
        throw (.transactionFailed action processed.status.debug)
      return id)
      (SubmitsAtMost sdk reliable client (· = instructions) world) world := by
  apply (ensures_perform_bind (I := api) (.sendTransaction transaction)).mpr
  intro reply sent served
  rcases served with ⟨same, error, failed⟩ | ⟨answered, fate⟩
  · subst same failed
    exact .inr ⟨instructions, rfl, .lost carries⟩
  · rcases answered with known | ⟨unreliable, error, failed⟩
    · subst known
      rcases fate with ⟨ledger, done, same⟩ | ⟨reason, same⟩
      · subst same
        have recorded : (world.commit client transaction ledger).log[world.nextId.number]? =
            some ⟨client, transaction, .processed⟩ := List.getElem?_concat_length
        apply (confirm_ensures action world.nextId _ recorded).mono
        intro outcome after confirmed
        obtain ⟨same, confirmed⟩ := confirmed
        subst same
        refine .inr ⟨instructions, rfl, .executed carries (carries ▸ done) ?_⟩
        intro trusted
        rcases confirmed with ⟨_, succeeded⟩ | ⟨failed, _⟩
        · exact ⟨_, succeeded⟩
        · exact absurd rfl (failed trusted)
      · subst same
        have recorded : (world.reject client transaction reason).log[world.nextId.number]? =
            some ⟨client, transaction, .failed reason⟩ := List.getElem?_concat_length
        apply (confirm_ensures action world.nextId _ recorded).mono
        intro outcome after confirmed
        obtain ⟨same, confirmed⟩ := confirmed
        subst same
        rcases confirmed with ⟨succeeded, _⟩ | ⟨_, error, failed⟩
        · cases succeeded
        · subst failed
          exact .inr ⟨instructions, rfl, .refused carries⟩
    · subst failed
      rcases fate with ⟨ledger, done, same⟩ | ⟨reason, same⟩
      · subst same
        exact .inr ⟨instructions, rfl, .executed carries (carries ▸ done) (fun trusted => absurd trusted unreliable)⟩
      · subst same
        exact .inr ⟨instructions, rfl, .refused carries⟩

theorem sendAndConfirm_ensures (action : String) (instructions : List Instruction) (payer : Pubkey)
    (signers : List (ArchSigner sdk.toSigningSdk)) (world : World ι) :
    Ensures (Serves sdk reliable client) (Transaction.sendAndConfirm action instructions payer signers)
      (SubmitsAtMost sdk reliable client (· = instructions) world) world := by
  apply (ensures_perform_bind (I := api) .getBestFinalizedBlockHash).mpr
  intro reply after same
  cases same
  apply ensures_rpc_bind _ (fun error _ => .inl ⟨rfl, _, rfl⟩)
  intro blockhash _
  have signs : Ensures (Serves sdk reliable client)
      (Transaction.signTransaction (.new sdk.toSdk instructions (some payer) blockhash) signers)
      (fun outcome after => after = world ∧
        ∀ transaction, outcome = .ok transaction → transaction.message.instructions = instructions) world := by
    apply (silent_ensures (Transaction.signAll_silent _ signers _) world).bind
    · intro signatures after same
      refine ⟨same, ?_⟩
      intro transaction returned
      cases returned
      rfl
    · intro error after same
      exact ⟨same, fun transaction returned => by cases returned⟩
  apply Ensures.still_bind signs _ (fun error _ => .inl ⟨rfl, error, rfl⟩)
  intro transaction carries
  exact send_ensures action (carries transaction rfl) world

/-- A command that ends by sending what it has described. -/
theorem sendAndConfirm_last {described : List Instruction → Prop} (action : String) {instructions : List Instruction}
    (payer : Pubkey) (signers : List (ArchSigner sdk.toSigningSdk)) (world : World ι) (fits : described instructions) :
    Ensures (Serves sdk reliable client) (do let _ ← Transaction.sendAndConfirm action instructions payer signers)
      (SubmitsAtMost sdk reliable client described world) world := by
  have weaken : ∀ chosen, chosen = instructions → described chosen := fun chosen same => same ▸ fits
  apply (sendAndConfirm_ensures action instructions payer signers world).bind
  · intro id after submits
    exact submits.map (fun _ => ()) weaken
  · intro error after submits
    exact submits.map (fun _ => ()) weaken

end TokenProgram

namespace Token
open TokenProgram
variable {ι : Type} {sdk : TokenSdk} {reliable : Prop} {client : ι} {world : World ι} {info : AccountInfo}

theorem requireTokenProgramOwner_eq_ok {address owner : Pubkey} :
    requireTokenProgramOwner sdk address owner = .ok () ↔ owner = sdk.tokenProgram := by
  simp only [requireTokenProgramOwner]
  split
  next own => simp [own]
  next foreign => simp [foreign]

theorem decodeMint_ok {address : Pubkey} {view : MintView} (decoded : decodeMint sdk address info = .ok view) :
    held sdk sdk.mints info = some view.state := by
  simp only [decodeMint, bind_eq_ok] at decoded
  obtain ⟨_, own, decoded⟩ := decoded
  split at decoded
  next => cases decoded
  next =>
    obtain ⟨state, unpacked, same⟩ := bind_eq_ok.mp decoded
    cases same
    exact held_eq_some.mpr ⟨requireTokenProgramOwner_eq_ok.mp own, mapError_eq_ok.mp unpacked⟩

theorem decodeTokenAccount_ok {address : Pubkey} {account : TokenAccount}
    (decoded : decodeTokenAccount sdk address info = .ok account) : held sdk sdk.accounts info = some account := by
  simp only [decodeTokenAccount, bind_eq_ok] at decoded
  obtain ⟨_, own, decoded⟩ := decoded
  split at decoded
  next => cases decoded
  next => exact held_eq_some.mpr ⟨requireTokenProgramOwner_eq_ok.mp own, mapError_eq_ok.mp decoded⟩

/-- An account that is read and decoded is an account of the ledger. -/
theorem read_ensures {α : Type} (address : Pubkey) (decode : AccountInfo → Except CliError α) :
    Ensures (Serves sdk reliable client) (do
      let info ← Cli.rpc (← Cli.readAccountInfo address)
      Fallible.ofExcept (decode info))
      (fun outcome after => after = world ∧
        ∀ value, outcome = .ok value → ∃ info, world.ledger.accounts address = some info ∧ decode info = .ok value) world := by
  apply (ensures_perform_bind (I := api) (.readAccountInfo address)).mpr
  intro reply after served
  obtain ⟨same, truth⟩ := served
  subst same
  cases reply with
  | error error => exact ⟨rfl, fun value returned => by cases returned⟩
  | ok info => exact ⟨rfl, fun value returned => ⟨info, truth, returned⟩⟩

theorem readMint_ensures (address : Pubkey) : Ensures (Serves sdk reliable client) (readMint sdk address)
    (fun outcome after => after = world ∧
      ∀ view, outcome = .ok view → mintAt sdk world.ledger address = some view.state) world := by
  apply (read_ensures address (decodeMint sdk address)).mono
  intro outcome after learned
  refine ⟨learned.1, ?_⟩
  intro view returned
  obtain ⟨info, present, decoded⟩ := learned.2 view returned
  rw [mintAt, present, Option.bind_some, decodeMint_ok decoded]

theorem readTokenAccountState_ensures (address : Pubkey) :
    Ensures (Serves sdk reliable client) (readTokenAccountState sdk address)
      (fun outcome after => after = world ∧
        ∀ account, outcome = .ok account → accountAt sdk world.ledger address = some account) world := by
  apply (read_ensures address (decodeTokenAccount sdk address)).mono
  intro outcome after learned
  refine ⟨learned.1, ?_⟩
  intro account returned
  obtain ⟨info, present, decoded⟩ := learned.2 account returned
  rw [accountAt, present, Option.bind_some, decodeTokenAccount_ok decoded]

end Token
end ArchKit
