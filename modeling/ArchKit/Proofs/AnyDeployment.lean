import ArchKit.Effects.Lift
import ArchKit.Proofs.AnyPublication
import ArchKit.Proofs.ExpectedProgram
import ArchKit.Proofs.Funding
import ArchKit.Proofs.ProgramAccount

/-! A whole deployment with a node, a faucet and a loader that may answer anything: its stages,
what each of them asks for, and what an error says about the stage that it comes from. -/

namespace ArchKit.Deploy
open Effects Fallible Idl

/-- Errors that do not speak of a deployed program. -/
def Undeployed (error : CliError) : Prop := ∀ base58 hex source, error ≠ .idlAfterDeployment base58 hex source

section Errors
variable {α : Type} {context : Context}

theorem undeployed_rpc {reply : Except ArchError α} : Raises Undeployed (Cli.rpc reply) := by
  cases reply with
  | ok value => exact .pure value
  | error error => exact .throw (fun _ _ _ same => by cases same)

theorem undeployed_key {sdk : Sdk} (path : Path) (label : String) (network : Network) (generateIfMissing : Bool) :
    Raises Undeployed (Keys.loadOrGenerateKey sdk path label network generateIfMissing) := by
  apply (Keys.loadOrGenerateKey_raises path label network generateIfMissing).mono
  intro outcome _ failures error failed
  cases failures error failed with
  | missing => exact fun _ _ _ same => by cases same
  | load source => exact fun _ _ _ same => by cases same
  | create source => exact fun _ _ _ same => by cases same

theorem undeployed_prepareBytes {codec : Codec} {raw : Bytes} {program : Pubkey} {requested : Option Nat} {error : CliError}
    (failed : prepareBytes codec raw program requested = .error error) : Undeployed error := by
  intro base58 hex source same
  subst same
  unfold prepareBytes at failed
  rcases bind_eq_error.mp failed with unread | ⟨parsed, _, failed⟩
  · exact mapError_ne (fun _ same => by cases same) unread
  rcases bind_eq_error.mp failed with shapeless | ⟨root, _, failed⟩
  · unfold rootMembers at shapeless
    split at shapeless <;> cases shapeless
  rcases bind_eq_error.mp failed with shapeless | ⟨members, _, failed⟩
  · unfold normalizeMembers at shapeless
    dsimp only at shapeless
    split at shapeless <;> cases shapeless
  rcases bind_eq_error.mp failed with unwritten | ⟨normalized, _, failed⟩
  · exact mapError_ne (fun _ same => by cases same) unwritten
  rcases bind_eq_error.mp failed with unpacked | ⟨compressed, _, failed⟩
  · unfold compress at unpacked
    split at unpacked <;> cases unpacked
  dsimp only at failed
  split at failed
  · cases failed
  rcases bind_eq_error.mp failed with overflow | ⟨required, _, failed⟩
  · unfold requiredSpace at overflow
    split at overflow <;> cases overflow
  rcases bind_eq_error.mp failed with small | ⟨capacity, _, failed⟩
  · unfold initialCapacity at small
    split at small
    · split at small <;> cases small
    · cases small
  · split at failed <;> cases failed

theorem undeployed_prepare {codec : Codec} {path : Path} {program : Pubkey} {requested : Option Nat} :
    Raises Undeployed (prepare codec path program requested) := by
  apply Raises.perform (I := api)
  intro present
  cases present with
  | false => exact .throw (fun _ _ _ same => by cases same)
  | true =>
    apply Raises.perform (I := api)
    intro reply
    cases reply with
    | error source => exact .throw (fun _ _ _ same => by cases same)
    | ok raw => exact .ofExcept fun error failed => undeployed_prepareBytes failed

theorem undeployed_localInputs (args : Args) : Raises Undeployed (localInputs context args) := by
  apply Raises.bind
  · apply Raises.ofExcept
    intro error failed base58 hex source same
    subst same
    cases given : args.expectProgramId with
    | none =>
      rw [given] at failed
      cases failed
    | some text =>
      rw [given] at failed
      cases parsed : Token.parsePubkey text "--expect-program-id" with
      | ok key =>
        change (Token.parsePubkey text "--expect-program-id").map some = _ at failed
        rw [parsed] at failed
        cases failed
      | error other =>
        change (Token.parsePubkey text "--expect-program-id").map some = _ at failed
        rw [parsed] at failed
        cases failed
        unfold Token.parsePubkey at parsed
        split at parsed
        · cases parsed
        · split at parsed <;> cases parsed
  intro expected
  apply Raises.bind
  · apply Raises.perform (I := api)
    intro present
    cases present with
    | false => exact .throw (fun _ _ _ same => by cases same)
    | true => exact .pure ()
  intro _
  apply Raises.bind
  · apply Raises.perform (I := api)
    intro reply
    cases reply with
    | ok contents => exact .pure contents
    | error source => exact .throw (fun _ _ _ same => by cases same)
  intro elf
  apply Raises.bind (undeployed_key ..)
  intro program
  dsimp only
  split
  next => exact .throw (fun _ _ _ same => by cases same)
  next =>
    apply Raises.bind (undeployed_key ..)
    intro authority
    apply Raises.bind
    · cases args.idl with
      | none => exact .pure none
      | some path => exact .bind undeployed_prepare fun prepared => .pure (some prepared)
    · exact fun _ => .pure _

theorem undeployed_topUp {keypair : Keypair} {authority : Pubkey} {target balance : Nat} :
    Raises Undeployed (topUp keypair authority target balance) := by
  induction left : target - balance using Nat.strong_induction_on generalizing balance with
  | _ left ih =>
    subst left
    rw [topUp]
    split
    next short =>
      apply Raises.perform (I := api)
      intro granted
      apply Raises.bind undeployed_rpc
      intro _
      apply Raises.perform (I := api)
      intro reply
      apply Raises.bind undeployed_rpc
      intro funded
      split
      next raised => exact ih _ (by omega) rfl
      next => exact .throw (fun _ _ _ same => by cases same)
    next => exact .pure ()

theorem undeployed_fundAuthority (args : Args) (inputs : Inputs) : Raises Undeployed (fundAuthority context args inputs) := by
  apply Raises.bind
  · apply Raises.perform (I := api)
    intro reply
    cases reply with
    | ok account => exact .pure _
    | error error =>
      cases error with
      | notFound message => exact .pure _
      | _ => exact .throw (fun _ _ _ same => by cases same)
  · exact fun balance => undeployed_topUp

theorem undeployed_assign (program authority : Pubkey) (programKeypair authorityKeypair : Keypair) :
    Raises Undeployed (assignProgramAccount context program authority programKeypair authorityKeypair) := by
  apply Raises.perform (I := api)
  intro hashed
  apply Raises.bind undeployed_rpc
  intro blockhash
  apply Raises.bind undeployed_rpc
  intro transaction
  apply Raises.perform (I := api)
  intro sent
  apply Raises.bind undeployed_rpc
  intro id
  apply Raises.perform (I := api)
  intro waited
  apply Raises.bind undeployed_rpc
  intro processed
  dsimp only
  split
  next => exact .throw (fun _ _ _ same => by cases same)
  next =>
    apply Raises.perform (I := api)
    intro reply
    apply Raises.bind undeployed_rpc
    intro assigned
    split
    next => exact .throw (fun _ _ _ same => by cases same)
    next => exact .pure ()

theorem undeployed_prepareProgramAccount (programKeypair authorityKeypair : Keypair) :
    Raises Undeployed (prepareProgramAccount context programKeypair authorityKeypair) := by
  unfold prepareProgramAccount
  dsimp only
  split
  next => exact .throw (fun _ _ _ same => by cases same)
  next =>
    apply Raises.perform (I := api)
    intro reply
    cases reply with
    | error error =>
      cases error with
      | notFound message => exact .pure ()
      | _ => exact .throw (fun _ _ _ same => by cases same)
    | ok account =>
      dsimp only
      split
      next => exact .pure ()
      next =>
        split
        next => exact .throw (fun _ _ _ same => by cases same)
        next => exact undeployed_assign _ _ programKeypair authorityKeypair

end Errors

/-- The requests to others than the node. -/
def commissions : Request → Bool
  | .createAndFundAccountWithFaucet _ | .tryDeployProgram .. | .post .. => true
  | _ => false

/-- The publication that a deployment of these inputs ends with. -/
def publisher (context : Context) (inputs : Inputs) : Publisher :=
  { sdk := context.sdk.toSdk, codec := context.codec, program := inputs.programPubkey, authority := inputs.authorityPubkey
    network := context.network, authorityKeypair := inputs.authorityKeypair }

/-- The loader said that the program is deployed, and under its own key. -/
def Deployed (args : Args) (inputs : Inputs) (deploying : List (Exchange api)) : Prop :=
  ∃ elfPath, deploying =
    [⟨.tryDeployProgram (programName args.elf) inputs.programKeypair inputs.authorityKeypair elfPath, .ok inputs.programPubkey⟩]

/-- The loader was asked once, after the node had shown that the program account is fit. -/
def Attempted (context : Context) (args : Args) (inputs : Inputs) (preparing deploying : List (Exchange api)) : Prop :=
  ∃ elfPath reply last, args.elf.toStr = some elfPath ∧
    deploying = [⟨.tryDeployProgram (programName args.elf) inputs.programKeypair inputs.authorityKeypair elfPath, reply⟩] ∧
    preparing.getLast? = some ⟨.readAccountInfo (context.sdk.xOnlyPublicKey inputs.programKeypair), last⟩ ∧ Usable context last

/-- The stages after the local inputs: what each of them asks for, and the outcome. -/
structure Course (context : Context) (args : Args) (inputs : Inputs) (funding preparing deploying publishing : List (Exchange api))
    (outcome : Except CliError Unit) : Prop where
  funds : ∀ exchange ∈ funding, args.fundAuthority = true ∧ (exchange.operation = .readAccountInfo inputs.authorityPubkey ∨
    exchange.operation = .createAndFundAccountWithFaucet inputs.authorityKeypair)
  prepares : submitted preparing = [] ∨ ∃ transaction blockhash, submitted preparing = [transaction] ∧ transaction.message =
    assignment context (context.sdk.xOnlyPublicKey inputs.programKeypair) (context.sdk.xOnlyPublicKey inputs.authorityKeypair) blockhash
  attempts : deploying = [] ∨ Attempted context args inputs preparing deploying
  publishes : publishing ≠ [] → Deployed args inputs deploying ∧ inputs.preparedIdl.isSome
  keeps : ∀ exchange ∈ preparing ++ publishing, commissions exchange.operation = false
  confined : publishing = [] ∨ ∃ base idl, deriveIdlAddresses context.sdk.toSdk inputs.programPubkey = .ok (base, idl) ∧
    ∀ executed : List RuntimeTransaction, (∀ transaction ∈ executed, transaction ∈ submitted publishing) → ∀ ledger later,
      (publisher context inputs).playAll ledger executed = some later →
      (publisher context inputs).Within idl (generated publishing).toFinset ledger later
  succeeds : outcome = .ok () → Deployed args inputs deploying ∧ ∀ prepared, inputs.preparedIdl = some prepared →
    ∃ base idl, deriveIdlAddresses context.sdk.toSdk inputs.programPubkey = .ok (base, idl) ∧
      (publisher context inputs).Shown idl prepared.expected publishing
  fails : ∀ error, outcome = .error error →
    (Deployed args inputs deploying ∧ ∃ source, error =
      .idlAfterDeployment (toString inputs.programPubkey) (pubkeyHex inputs.programPubkey) source) ∨
    (¬Deployed args inputs deploying ∧ Undeployed error)

section Stages
variable {context : Context} {args : Args} {inputs : Inputs} {trace : List (Exchange api)} {elfPath : String}

theorem traces_deployProgram {outcome : Except CliError Pubkey} (traced : Traces (deployProgram args inputs elfPath) trace outcome) :
    ∃ reply, trace = [⟨.tryDeployProgram (programName args.elf) inputs.programKeypair inputs.authorityKeypair elfPath, reply⟩] ∧
      (∀ key, outcome = .ok key → reply = .ok key ∧ key = inputs.programPubkey) ∧
      ∀ error, outcome = .error error → reply ≠ .ok inputs.programPubkey ∧ Undeployed error := by
  obtain ⟨reply, rest, first, answered⟩ := traces_perform.mp traced
  subst first
  cases reply with
  | error error =>
    obtain ⟨empty, ended⟩ := traces_throw.mp answered
    subst empty ended
    refine ⟨_, rfl, fun _ same => (by cases same), ?_⟩
    intro other same
    cases same
    exact ⟨fun same => (by cases same), fun _ _ _ same => by cases same⟩
  | ok deployed =>
    dsimp only at answered
    split at answered
    next different =>
      obtain ⟨empty, ended⟩ := traces_throw.mp answered
      subst empty ended
      refine ⟨_, rfl, fun _ same => (by cases same), ?_⟩
      intro other same
      cases same
      exact ⟨fun same => different (Except.ok.inj same), fun _ _ _ same => by cases same⟩
    next agrees =>
      obtain ⟨empty, ended⟩ := traces_pure.mp answered
      subst empty ended
      refine ⟨_, rfl, ?_, fun _ same => by cases same⟩
      intro key same
      cases same
      exact ⟨rfl, not_not.mp agrees⟩

theorem traces_publishIdl {prepared : PreparedIdl} {allowResize : Bool} {outcome : Except CliError Unit}
    (traced : Traces (publishIdl context inputs inputs.programPubkey prepared allowResize) trace outcome) :
    ∃ inner, Traces ((publisher context inputs).publish prepared allowResize) trace inner ∧ outcome =
      wrapError (.idlAfterDeployment (toString inputs.programPubkey) (pubkeyHex inputs.programPubkey)) inner := by
  have same : publishIdl context inputs inputs.programPubkey prepared allowResize =
      wrap (.idlAfterDeployment (toString inputs.programPubkey) (pubkeyHex inputs.programPubkey))
        ((publisher context inputs).publish prepared allowResize) := by
    apply congrArg ExceptT.mk
    apply congrArg (Program.bind _)
    funext outcome
    cases outcome <;> rfl
  rw [same] at traced
  exact traces_wrap.mp traced

theorem traces_fundAuthority {outcome : Except CliError Unit} (traced : Traces (fundAuthority context args inputs) trace outcome) :
    ∀ exchange ∈ trace, exchange.operation = .readAccountInfo inputs.authorityPubkey ∨
      exchange.operation = .createAndFundAccountWithFaucet inputs.authorityKeypair := by
  have grants {balance : Nat} {trace : List (Exchange api)} {outcome : Except CliError Unit} (funding : Funding inputs.authorityKeypair inputs.authorityPubkey
      (fundingTarget context inputs.elfSize args.idl.isSome) balance trace outcome) :
      ∀ exchange ∈ trace, exchange.operation = .readAccountInfo inputs.authorityPubkey ∨
        exchange.operation = .createAndFundAccountWithFaucet inputs.authorityKeypair := by
    induction funding with
    | reached => exact fun _ member => by cases member
    | refused short error =>
      intro exchange member
      rw [List.mem_singleton.mp member]
      exact .inr rfl
    | unread short error =>
      intro exchange member
      rcases List.mem_cons.mp member with same | last
      · exact .inr (congrArg Exchange.operation same)
      · exact .inl (congrArg Exchange.operation (List.mem_singleton.mp last))
    | stalled short account same =>
      intro exchange member
      rcases List.mem_cons.mp member with same | last
      · exact .inr (congrArg Exchange.operation same)
      · exact .inl (congrArg Exchange.operation (List.mem_singleton.mp last))
    | raised short account more rest ih =>
      intro exchange member
      rcases List.mem_cons.mp member with same | others
      · exact .inr (congrArg Exchange.operation same)
      rcases List.mem_cons.mp others with same | later
      · exact .inl (congrArg Exchange.operation same)
      · exact ih exchange later
  rw [fundAuthority_eq] at traced
  have reads {trace : List (Exchange api)} {outcome : Except CliError Nat} (early : Traces (balanceOf inputs.authorityPubkey) trace outcome) :
      ∀ exchange ∈ trace, exchange.operation = .readAccountInfo inputs.authorityPubkey := by
    obtain ⟨reply, same, _⟩ := traces_balanceOf early
    intro exchange member
    rw [same] at member
    rw [List.mem_singleton.mp member]
  intro exchange member
  rcases traces_bind.mp traced with ⟨error, early, _⟩ | ⟨balance, first, rest, split, early, late⟩
  · exact .inl (reads early exchange member)
  · rw [split] at member
    rcases List.mem_append.mp member with before | after
    · exact .inl (reads early exchange before)
    · exact grants (funding_of_traces late) exchange after

theorem prepareProgramAccount_keeps (programKeypair authorityKeypair : Keypair) :
    Offline (I := api) (fun operation => !commissions operation) (prepareProgramAccount context programKeypair authorityKeypair) := by
  have calls {α : Type} {reply : Except ArchError α} : Offline (I := api) (fun operation => !commissions operation) (Cli.rpc reply) := by
    cases reply with
    | ok value => exact .pure value
    | error error => exact .throw _
  unfold prepareProgramAccount
  dsimp only
  split
  next => exact .throw _
  next =>
    apply Offline.perform (I := api) rfl
    intro reply
    cases reply with
    | error error =>
      cases error with
      | notFound message => exact .pure ()
      | _ => exact .throw _
    | ok account =>
      dsimp only
      split
      next => exact .pure ()
      next =>
        split
        next => exact .throw _
        next =>
          apply Offline.perform (I := api) rfl
          intro hashed
          apply Offline.bind calls
          intro blockhash
          apply Offline.bind calls
          intro transaction
          apply Offline.perform (I := api) rfl
          intro sent
          apply Offline.bind calls
          intro id
          apply Offline.perform (I := api) rfl
          intro waited
          apply Offline.bind calls
          intro processed
          dsimp only
          split
          next => exact .throw _
          next =>
            apply Offline.perform (I := api) rfl
            intro reply
            apply Offline.bind calls
            intro assigned
            split
            next => exact .throw _
            next => exact .pure ()

theorem submitted_preparation {program authority : Pubkey} {outcome : Except CliError Unit}
    (preparation : Preparation context program authority trace outcome) : submitted trace = [] ∨
      ∃ transaction blockhash, submitted trace = [transaction] ∧ transaction.message = assignment context program authority blockhash := by
  cases preparation with
  | assigned differ foreign fit rest =>
    cases rest with
    | hashless error => exact .inl rfl
    | @sent blockhash transaction reply later outcome message quiet confirmed =>
      have nothing : submitted later = [] := submitted_silent fun exchange member => by rw [quiet exchange member]; rfl
      refine .inr ⟨transaction, blockhash, ?_, message⟩
      change transaction :: submitted later = [transaction]
      rw [nothing]
  | _ => exact .inl rfl

/-- The publication of a deployment, and what it means for its outcome. -/
theorem publish_course {prepared : PreparedIdl} {allowResize : Bool} {inner : Except CliError Unit}
    (traced : Traces ((publisher context inputs).publish prepared allowResize) trace inner) :
    (∀ exchange ∈ trace, commissions exchange.operation = false) ∧
    (trace = [] ∨ ∃ base idl, deriveIdlAddresses context.sdk.toSdk inputs.programPubkey = .ok (base, idl) ∧
      ∀ executed : List RuntimeTransaction, (∀ transaction ∈ executed, transaction ∈ submitted trace) → ∀ ledger later,
        (publisher context inputs).playAll ledger executed = some later →
        (publisher context inputs).Within idl (generated trace).toFinset ledger later) ∧
    (inner = .ok () → ∃ base idl, deriveIdlAddresses context.sdk.toSdk inputs.programPubkey = .ok (base, idl) ∧
      (publisher context inputs).Shown idl prepared.expected trace) := by
  cases derives : deriveIdlAddresses context.sdk.toSdk inputs.programPubkey with
  | error error =>
    change Traces (Fallible.ofExcept (deriveIdlAddresses context.sdk.toSdk inputs.programPubkey) >>= _) trace inner at traced
    rw [derives] at traced
    obtain ⟨empty, ended⟩ := traces_throw.mp traced
    subst empty ended
    exact ⟨fun _ member => (by cases member), .inl rfl, fun same => by cases same⟩
  | ok addresses =>
    obtain ⟨base, idl⟩ := addresses
    have keeps : (publisher context inputs).Publishes base idl _ _ [] :=
      Publisher.publish_publishes prepared allowResize derives .nil
    have allowed := Monitor.admits_history.mp (keeps.traces traced).1
    refine ⟨?_, .inr ⟨base, idl, rfl, ?_⟩, fun succeeded => ⟨base, idl, rfl, ?_⟩⟩
    · intro exchange member
      obtain ⟨first, rest, split⟩ := List.append_of_mem member
      have fits : orderly ((publisher context inputs).Publishing base idl) first exchange.operation := allowed first exchange rest split
      obtain ⟨operation, reply⟩ := exchange
      cases operation with
      | createAndFundAccountWithFaucet | tryDeployProgram | post => exact fits.2.elim
      | _ => rfl
    · exact (Publisher.publish_confined _ prepared allowResize trace inner derives traced).1
    · exact (Publisher.publish_confined _ prepared allowResize trace inner derives traced).2.2 succeeded

end Stages

section Course
variable {context : Context} {args : Args} {inputs : Inputs} {trace : List (Exchange api)} {outcome : Except CliError Unit}

/-- The second half of a deployment, after whatever funding there was. -/
theorem traces_deploy {funding : List (Exchange api)} (funds : ∀ exchange ∈ funding, args.fundAuthority = true ∧
      (exchange.operation = .readAccountInfo inputs.authorityPubkey ∨
        exchange.operation = .createAndFundAccountWithFaucet inputs.authorityKeypair))
    (traced : Traces (deploy context args inputs) trace outcome) :
    ∃ preparing deploying publishing, trace = preparing ++ deploying ++ publishing ∧
      Course context args inputs funding preparing deploying publishing outcome := by
  have early {preparing : List (Exchange api)} {error : CliError} (prepares : submitted preparing = [] ∨
      ∃ transaction blockhash, submitted preparing = [transaction] ∧ transaction.message =
        assignment context (context.sdk.xOnlyPublicKey inputs.programKeypair) (context.sdk.xOnlyPublicKey inputs.authorityKeypair) blockhash)
      (keeps : ∀ exchange ∈ preparing, commissions exchange.operation = false) (failed : Undeployed error) :
      Course context args inputs funding preparing [] [] (.error error) := by
    refine ⟨funds, prepares, .inl rfl, fun some => absurd rfl some, ?_, .inl rfl, fun same => (by cases same), ?_⟩
    · rwa [List.append_nil]
    · intro other same
      cases same
      refine .inr ⟨?_, failed⟩
      intro deployed
      obtain ⟨_, same⟩ := deployed
      cases same
  unfold deploy at traced
  cases spelled : pathString args.elf "program ELF" with
  | error error =>
    rw [spelled] at traced
    obtain ⟨empty, ended⟩ := traces_throw.mp traced
    subst empty ended
    refine ⟨[], [], [], rfl, early (.inl rfl) (fun _ member => by cases member) ?_⟩
    unfold pathString at spelled
    split at spelled <;> cases spelled
    exact fun _ _ _ same => by cases same
  | ok elfPath =>
    have text : args.elf.toStr = some elfPath := by
      unfold pathString at spelled
      split at spelled
      next known =>
        cases spelled
        exact known
      next => cases spelled
    rw [spelled, Fallible.ofExcept_ok_bind] at traced
    rcases traces_bind.mp traced with ⟨error, preparing, ended⟩ | ⟨_, preparing, rest, split, prepared, continued⟩
    · subst ended
      refine ⟨trace, [], [], by simp only [List.append_nil], ?_⟩
      refine early (submitted_preparation (traces_prepareProgramAccount preparing)) ?_ ((undeployed_prepareProgramAccount _ _).traces preparing)
      intro exchange member
      exact Bool.not_eq_true' _ ▸ Offline.traces (prepareProgramAccount_keeps _ _) preparing exchange member
    · have preparation := traces_prepareProgramAccount prepared
      have keeps : ∀ exchange ∈ preparing, commissions exchange.operation = false := fun exchange member =>
        Bool.not_eq_true' _ ▸ Offline.traces (prepareProgramAccount_keeps _ _) prepared exchange member
      obtain ⟨last, shown, usable⟩ := (preparation.ready_iff.mp rfl).2.last
      have attempts {deploying : List (Exchange api)} {reply : Except String Pubkey} (attempted : deploying =
          [⟨.tryDeployProgram (programName args.elf) inputs.programKeypair inputs.authorityKeypair elfPath, reply⟩]) :
          deploying = [] ∨ Attempted context args inputs preparing deploying :=
        .inr ⟨elfPath, reply, last, text, attempted, shown, usable⟩
      rcases traces_bind.mp continued with ⟨error, deploying, ended⟩ | ⟨deployed, deploying, publishing, last, asked, published⟩
      · subst ended
        obtain ⟨reply, attempted, _, failed⟩ := traces_deployProgram deploying
        obtain ⟨other, plain⟩ := failed error rfl
        refine ⟨preparing, rest, [], by rw [split, List.append_nil], funds, submitted_preparation preparation, attempts attempted,
          fun some => absurd rfl some, ?_, .inl rfl, fun same => (by cases same), ?_⟩
        · rwa [List.append_nil]
        · intro _ same
          cases same
          refine .inr ⟨?_, plain⟩
          intro deployed
          obtain ⟨_, same⟩ := deployed
          rw [attempted] at same
          cases same
          exact other rfl
      · obtain ⟨reply, attempted, succeeded, _⟩ := traces_deployProgram asked
        obtain ⟨agreed, own⟩ := succeeded deployed rfl
        subst own agreed
        have known : Deployed args inputs deploying := ⟨elfPath, attempted⟩
        refine ⟨preparing, deploying, publishing, by rw [split, last, List.append_assoc], ?_⟩
        cases given : inputs.preparedIdl with
        | none =>
          rw [given] at published
          obtain ⟨empty, ended⟩ := traces_pure.mp published
          subst empty ended
          refine ⟨funds, submitted_preparation preparation, attempts attempted, fun some => absurd rfl some, ?_, .inl rfl, ?_,
            fun _ same => by cases same⟩
          · rwa [List.append_nil]
          · intro _
            refine ⟨known, ?_⟩
            intro prepared same
            cases given.symm.trans same
        | some prepared =>
          rw [given] at published
          obtain ⟨inner, traced, wrapped⟩ := traces_publishIdl published
          obtain ⟨quiet, confined, shown⟩ := publish_course traced
          refine ⟨funds, submitted_preparation preparation, attempts attempted, fun _ => ⟨known, by rw [given]; rfl⟩, ?_, confined, ?_, ?_⟩
          · intro exchange member
            rcases List.mem_append.mp member with before | after
            · exact keeps exchange before
            · exact quiet exchange after
          · intro succeeded
            refine ⟨known, ?_⟩
            intro other same
            cases given.symm.trans same
            exact shown (wrapError_eq_ok.mp (wrapped.symm.trans succeeded))
          · intro error failed
            refine .inl ⟨known, ?_⟩
            cases inner with
            | ok value => cases wrapped.symm.trans failed
            | error source =>
              cases wrapped.symm.trans failed
              exact ⟨source, rfl⟩

/-- Whatever the node, the faucet and the loader answer: nothing leaves the machine before all
local inputs are found good; the faucet is asked for the authority only and before everything
else; at most one transaction prepares the program account, which assigns it to the loader; the
loader is asked once at most, and only after the account was last seen fit; and the publication
comes after the loader has accepted, reaching no account but its own. An error tells whether
the program is deployed, and success means that everything asked for was seen. -/
theorem run_staged (context : Context) (args : Args) (trace : List (Exchange api)) (outcome : Except CliError Unit)
    (traced : Traces (run context args) trace outcome) :
    (∃ error, outcome = .error error ∧ Undeployed error ∧ ∀ exchange ∈ trace, exchange.operation.isRpc = false) ∨
    ∃ inputs locals funding preparing deploying publishing,
      trace = locals ++ funding ++ (preparing ++ deploying ++ publishing) ∧ Traces (localInputs context args) locals (.ok inputs) ∧
      (∀ exchange ∈ locals, exchange.operation.isRpc = false) ∧
      Course context args inputs funding preparing deploying publishing outcome := by
  have quiet {locals : List (Exchange api)} {result : Except CliError Inputs} (read : Traces (localInputs context args) locals result) :
      ∀ exchange ∈ locals, exchange.operation.isRpc = false := fun exchange member =>
    Bool.not_eq_true' _ ▸ Offline.traces (localInputs_offline context args) read exchange member
  rcases traces_bind.mp traced with ⟨error, read, ended⟩ | ⟨inputs, locals, rest, split, read, continued⟩
  · exact .inl ⟨error, ended, (undeployed_localInputs args).traces read, quiet read⟩
  right
  cases funded : args.fundAuthority with
  | false =>
    rw [if_neg (by rw [funded]; exact Bool.false_ne_true)] at continued
    obtain ⟨preparing, deploying, publishing, same, course⟩ := traces_deploy (fun exchange (member : exchange ∈ []) => by cases member) continued
    exact ⟨inputs, locals, [], preparing, deploying, publishing, by rw [split, same, List.append_nil], read, quiet read, course⟩
  | true =>
    rw [if_pos funded] at continued
    rcases traces_bind.mp continued with ⟨error, granting, ended⟩ | ⟨_, funding, later, same, granted, deploying⟩
    · refine ⟨inputs, locals, rest, [], [], [], by rw [split]; simp only [List.append_nil], read, quiet read, ?_⟩
      subst ended
      refine ⟨fun exchange member => ⟨funded, traces_fundAuthority granting exchange member⟩, .inl rfl, .inl rfl,
        fun some => absurd rfl some, fun _ member => (by cases member), .inl rfl, fun same => (by cases same), ?_⟩
      intro other same
      cases same
      refine .inr ⟨?_, (undeployed_fundAuthority args inputs).traces granting⟩
      intro deployed
      obtain ⟨_, same⟩ := deployed
      cases same
    · obtain ⟨preparing, deploying, publishing, parts, course⟩ := traces_deploy
        (fun exchange member => ⟨funded, traces_fundAuthority granted exchange member⟩) deploying
      exact ⟨inputs, locals, funding, preparing, deploying, publishing, by rw [split, same, parts]; simp only [List.append_assoc], read, quiet read, course⟩

end Course

section Example
open Reference Satellite
open Example (elf denied)

def programKey : Path := ⟨utf8 "program.key"⟩
def authorityKey : Path := ⟨utf8 "authority.key"⟩
def idlFile : Path := ⟨utf8 "idl.json"⟩

def interface : Document :=
  ⟨.object [("address", .string (pubkeyHex (publicKey firstBuffer))), ("metadata", .object [("spec", .string "0.1.0")])],
    utf8 "interface", [1, 2, 3]⟩

def files : List (Path × Bytes) :=
  [(elf, utf8 "ELF"), (programKey, utf8 (Keys.encodedSecret firstBuffer)),
    (authorityKey, utf8 (Keys.encodedSecret Reference.authorityKeypair)), (idlFile, interface.text)]

/-- A network on which every program keeps its IDL at the same address. -/
def testnet : Context where
  sdk := { { tables with programAddress := fun _ => base, seededAddress := fun _ _ _ => .ok canonical }.sdk with
    bpfLoader := .fromSlice [1], programDataOffset := 40, extendBytesMaxLen := 1000, accountFundingAmount := 1000000 }
  codec := codec [interface]
  network := .bitcoin

def withIdl : Args where
  elf
  programKey
  expectProgramId := none
  authority := authorityKey
  generateIfMissing := false
  fundAuthority := false
  idl := some idlFile
  idlSize := none
  allowIdlResize := false

/-- A loader that accepts the program, and a node that shows the IDL as soon as something was submitted. -/
def accepting : Oracle api := fun past operation =>
  match operation with
  | .isFile path => (files.lookup path).isSome
  | .read path => (files.lookup path).elim (.error denied) .ok
  | .readAccountInfo _ =>
    if (submitted past).isEmpty then .error (.notFound "account is not in database")
    else .ok ⟨0, publicKey firstBuffer, header (publicKey Reference.authorityKeypair) 3 ++ interface.compressed, false⟩
  | .tryDeployProgram .. => .ok (publicKey firstBuffer)
  | operation => Node.pretend (chain Unit none).ledger Submission.Example.desk past operation

theorem run_staged_accepted : ∃ (trace publishing deploying : List (Exchange api)) (inputs : Inputs), Traces (run testnet withIdl) trace (.ok ()) ∧
    Deployed withIdl inputs deploying ∧ (∀ exchange ∈ publishing, commissions exchange.operation = false) ∧
    ∀ prepared, inputs.preparedIdl = some prepared → ∃ base idl,
      deriveIdlAddresses testnet.sdk.toSdk inputs.programPubkey = .ok (base, idl) ∧
      (publisher testnet inputs).Shown idl prepared.expected publishing := by
  have observed : (Fallible.against accepting (run testnet withIdl)).2.isOk = true := by decide +kernel
  have traced := Fallible.traces_against accepting (run testnet withIdl)
  cases ended : (Fallible.against accepting (run testnet withIdl)).2 with
  | error error =>
    rw [ended] at observed
    cases observed
  | ok value =>
    rw [ended] at traced
    rcases run_staged testnet withIdl _ _ traced with ⟨error, failed, _⟩ | ⟨inputs, _, _, preparing, deploying, publishing, _, _, _, course⟩
    · cases failed
    · obtain ⟨deployed, shown⟩ := course.succeeds rfl
      exact ⟨_, publishing, deploying, inputs, traced, deployed, fun exchange member => course.keeps exchange (List.mem_append_right _ member), shown⟩

end Example

end ArchKit.Deploy
