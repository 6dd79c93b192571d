import ArchKit.Proofs.Exchanges
import ArchKit.Proofs.LocalInputs

/-! The preparation of the program account against a node that may answer anything: what is
sent, and with which answers the deployment goes on. -/

namespace ArchKit.Deploy
open Effects Fallible
variable {context : Context} {program authority : Pubkey} {programKeypair authorityKeypair : Keypair}
  {trace : List (Exchange api)} {outcome : Except CliError Unit}

/-- An account that a funding transfer has left behind. -/
def Assignable (context : Context) (account : AccountInfo) : Prop :=
  account.owner = context.sdk.systemProgram ∧ account.data = [] ∧ account.isExecutable = false

/-- The message that hands the account over to the loader. -/
def assignment (context : Context) (program authority : Pubkey) (blockhash : Hash) : ArchMessage :=
  .new context.sdk.toSdk [.assign program context.sdk.bpfLoader] (some authority) blockhash

/-- The answers after which an assignment counts: its id, its status and the account. -/
inductive Confirmed (context : Context) (program : Pubkey) : Except ArchError Hash → List (Exchange api) → Prop where
  | mk {id : Hash} {assigned : AccountInfo} (owned : assigned.owner = context.sdk.bpfLoader) :
      Confirmed context program (.ok id)
        [⟨.waitForProcessedTransaction id, .ok ⟨.processed⟩⟩, ⟨.readAccountInfo program, .ok assigned⟩]

/-- How an assignment unfolds. -/
inductive Assignment (context : Context) (program authority : Pubkey) : List (Exchange api) → Except CliError Unit → Prop where
  | hashless (error : ArchError) :
      Assignment context program authority [⟨.getBestFinalizedBlockHash, .error error⟩] (.error (.archRpc error))
  | sent {blockhash : Hash} {transaction : RuntimeTransaction} {reply : Except ArchError Hash}
      {trace : List (Exchange api)} {outcome : Except CliError Unit}
      (message : transaction.message = assignment context program authority blockhash)
      (quiet : ∀ exchange ∈ trace, exchange.operation.submits = false)
      (confirmed : outcome = .ok () ↔ Confirmed context program reply trace) :
      Assignment context program authority
        (⟨.getBestFinalizedBlockHash, .ok blockhash⟩ :: ⟨.sendTransaction transaction, reply⟩ :: trace) outcome

/-- What follows the submission sends nothing more. -/
theorem traces_confirmation {reply : Except ArchError Hash} (traced : Traces (do
      let id ← Cli.rpc reply
      let processed ← Cli.rpc (← Cli.waitForProcessedTransaction id)
      if processed.status ≠ .processed then
        throw (.transactionFailed s!"program account assignment ({id})" processed.status.debug)
      let assigned ← Cli.rpc (← Cli.readAccountInfo program)
      if assigned.owner ≠ context.sdk.bpfLoader then
        throw (.invalidArgument
          s!"program account {program} still has owner {assigned.owner} after assignment {id}; expected {context.sdk.bpfLoader}")) trace outcome) :
    (∀ exchange ∈ trace, exchange.operation.submits = false) ∧ (outcome = .ok () ↔ Confirmed context program reply trace) := by
  rcases traces_rpc.mp traced with ⟨id, sent, called⟩ | ⟨error, failed, empty, ended⟩
  swap
  · subst failed empty ended
    exact ⟨fun _ member => by (cases member), iff_of_false (fun same => by cases same) (fun confirmed => by cases confirmed)⟩
  obtain ⟨waited, afterWait, first, answered⟩ := traces_perform.mp called
  rcases traces_rpc.mp answered with ⟨processed, known, continued⟩ | ⟨error, failed, empty, ended⟩
  swap
  · subst sent first failed empty ended
    refine ⟨?_, iff_of_false (fun same => by cases same) (fun confirmed => by cases confirmed)⟩
    intro exchange member
    rw [List.mem_singleton.mp member]
    rfl
  subst sent first known
  split at continued
  next unprocessed =>
    obtain ⟨empty, ended⟩ := traces_throw.mp continued
    subst empty ended
    refine ⟨?_, iff_of_false (fun same => by cases same) (fun confirmed => by cases confirmed)⟩
    intro exchange member
    rw [List.mem_singleton.mp member]
    rfl
  next done =>
    obtain ⟨shown, afterRead, second, read⟩ := traces_perform.mp continued
    have quiet (last : Exchange api) (reads : last.operation = .readAccountInfo program) :
        ∀ exchange ∈ [⟨.waitForProcessedTransaction id, .ok processed⟩, last], exchange.operation.submits = false := by
      intro exchange member
      rcases List.mem_cons.mp member with same | rest
      · rw [same]
        rfl
      · rw [List.mem_singleton.mp rest, reads]
        rfl
    rcases traces_rpc.mp read with ⟨assigned, found, checked⟩ | ⟨error, failed, empty, ended⟩
    swap
    · subst second failed empty ended
      exact ⟨quiet _ rfl, iff_of_false (fun same => by cases same) (fun confirmed => by cases confirmed)⟩
    subst second found
    split at checked
    next foreign =>
      obtain ⟨empty, ended⟩ := traces_throw.mp checked
      subst empty ended
      refine ⟨quiet _ rfl, iff_of_false (fun same => by cases same) (fun confirmed => ?_)⟩
      cases confirmed with
      | mk owned => exact foreign owned
    next owned =>
      obtain ⟨empty, ended⟩ := traces_pure.mp checked
      subst empty ended
      refine ⟨quiet _ rfl, iff_of_true rfl ?_⟩
      obtain ⟨status⟩ := processed
      cases not_ne_iff.mp done
      exact .mk (not_ne_iff.mp owned)

theorem traces_assignProgramAccount (payer : context.sdk.xOnlyPublicKey authorityKeypair = authority)
    (own : context.sdk.xOnlyPublicKey programKeypair = program)
    (traced : Traces (assignProgramAccount context program authority programKeypair authorityKeypair) trace outcome) :
    Assignment context program authority trace outcome := by
  obtain ⟨hashed, rest, first, called⟩ := traces_perform.mp traced
  rcases traces_rpc.mp called with ⟨blockhash, known, building⟩ | ⟨error, failed, empty, ended⟩
  swap
  · subst first failed empty ended
    exact .hashless error
  obtain ⟨transaction, built, message⟩ := context.sdk.signs [.assign program context.sdk.bpfLoader] authority blockhash
    [authorityKeypair, programKeypair] context.network ⟨_, List.mem_cons_self, payer⟩ (by
      intro instruction member key signs
      rw [List.mem_singleton.mp member] at signs
      exact ⟨programKeypair, by simp, own.trans (List.mem_singleton.mp signs).symm⟩)
  rcases traces_rpc.mp building with ⟨other, same, sending⟩ | ⟨error, failed, _⟩
  swap
  · cases built.symm.trans failed
  cases built.symm.trans same
  obtain ⟨reply, after, second, confirming⟩ := traces_perform.mp sending
  obtain ⟨quiet, confirmed⟩ := traces_confirmation confirming
  subst first known second
  exact .sent message quiet confirmed

/-- How a preparation unfolds, by the first answer about the program account. -/
inductive Preparation (context : Context) (program authority : Pubkey) :
    List (Exchange api) → Except CliError Unit → Prop where
  | sameKey (same : program = authority) (error : CliError) : Preparation context program authority [] (.error error)
  | absent (differ : program ≠ authority) (message : String) :
      Preparation context program authority [⟨.readAccountInfo program, .error (.notFound message)⟩] (.ok ())
  | unread (differ : program ≠ authority) {error : ArchError} (failed : ∀ message, error ≠ .notFound message) :
      Preparation context program authority [⟨.readAccountInfo program, .error error⟩] (.error (.archRpc error))
  | owned (differ : program ≠ authority) {account : AccountInfo} (owner : account.owner = context.sdk.bpfLoader) :
      Preparation context program authority [⟨.readAccountInfo program, .ok account⟩] (.ok ())
  | refused (differ : program ≠ authority) {account : AccountInfo} (foreign : account.owner ≠ context.sdk.bpfLoader)
      (unfit : ¬Assignable context account) (error : CliError) :
      Preparation context program authority [⟨.readAccountInfo program, .ok account⟩] (.error error)
  | assigned (differ : program ≠ authority) {account : AccountInfo} (foreign : account.owner ≠ context.sdk.bpfLoader)
      (fit : Assignable context account) {trace : List (Exchange api)} {outcome : Except CliError Unit}
      (rest : Assignment context program authority trace outcome) :
      Preparation context program authority (⟨.readAccountInfo program, .ok account⟩ :: trace) outcome

theorem traces_prepareProgramAccount
    (traced : Traces (prepareProgramAccount context programKeypair authorityKeypair) trace outcome) :
    Preparation context (context.sdk.xOnlyPublicKey programKeypair) (context.sdk.xOnlyPublicKey authorityKeypair) trace outcome := by
  unfold prepareProgramAccount at traced
  dsimp only at traced
  split at traced
  next same =>
    obtain ⟨empty, ended⟩ := traces_throw.mp traced
    subst empty ended
    exact .sameKey same _
  next differ =>
    obtain ⟨reply, rest, first, answered⟩ := traces_perform.mp traced
    subst first
    cases reply with
    | error error =>
      cases error with
      | notFound message =>
        obtain ⟨empty, ended⟩ := traces_pure.mp answered
        subst empty ended
        exact .absent differ message
      | _ =>
        obtain ⟨empty, ended⟩ := traces_throw.mp answered
        subst empty ended
        exact .unread differ (fun _ same => by cases same)
    | ok account =>
      dsimp only at answered
      split at answered
      next owner =>
        obtain ⟨empty, ended⟩ := traces_pure.mp answered
        subst empty ended
        exact .owned differ owner
      next foreign =>
        split at answered
        next unfit =>
          obtain ⟨empty, ended⟩ := traces_throw.mp answered
          subst empty ended
          refine .refused differ foreign (fun fit => ?_) _
          rcases unfit with owner | full | executable
          · exact owner fit.1
          · exact full fit.2.1
          · exact absurd executable (by simp [fit.2.2])
        next fit =>
          have assignable : Assignable context account := by
            simpa [Assignable, not_or] using fit
          exact .assigned differ foreign assignable (traces_assignProgramAccount rfl rfl answered)

/-- The runs after which the deployment goes on. -/
inductive Ready (context : Context) (program : Pubkey) : List (Exchange api) → Prop where
  | absent (message : String) : Ready context program [⟨.readAccountInfo program, .error (.notFound message)⟩]
  | owned {account : AccountInfo} (owner : account.owner = context.sdk.bpfLoader) :
      Ready context program [⟨.readAccountInfo program, .ok account⟩]
  | assigned {account : AccountInfo} (fit : Assignable context account) {blockhash : Hash} {transaction : RuntimeTransaction}
      {reply : Except ArchError Hash} {trace : List (Exchange api)} (confirmed : Confirmed context program reply trace) :
      Ready context program (⟨.readAccountInfo program, .ok account⟩ :: ⟨.getBestFinalizedBlockHash, .ok blockhash⟩ ::
        ⟨.sendTransaction transaction, reply⟩ :: trace)

/-- The last answer says that the account is absent or owned by the loader. -/
def Usable (context : Context) : Except ArchError AccountInfo → Prop
  | .ok account => account.owner = context.sdk.bpfLoader
  | .error (.notFound _) => True
  | .error _ => False

theorem Ready.last (ready : Ready context program trace) :
    ∃ reply, trace.getLast? = some ⟨.readAccountInfo program, reply⟩ ∧ Usable context reply := by
  cases ready with
  | absent message => exact ⟨_, rfl, trivial⟩
  | owned owner => exact ⟨_, rfl, owner⟩
  | assigned _ confirmed =>
    cases confirmed with
    | mk owned => exact ⟨_, rfl, owned⟩

namespace Preparation
variable (preparation : Preparation context program authority trace outcome)
include preparation

theorem ready_iff : outcome = .ok () ↔ program ≠ authority ∧ Ready context program trace := by
  cases preparation with
  | sameKey same error => exact iff_of_false (fun done => by cases done) (fun ready => ready.1 same)
  | absent differ message => exact iff_of_true rfl ⟨differ, .absent message⟩
  | unread differ failed =>
    refine iff_of_false (fun done => by cases done) (fun ready => ?_)
    cases ready.2 with
    | absent message => exact failed message rfl
  | owned differ owner => exact iff_of_true rfl ⟨differ, .owned owner⟩
  | refused differ foreign unfit error =>
    refine iff_of_false (fun done => by cases done) (fun ready => ?_)
    cases ready.2 with
    | owned owner => exact foreign owner
  | assigned differ foreign fit rest =>
    cases rest with
    | hashless error =>
      refine iff_of_false (fun done => by cases done) (fun ready => ?_)
      cases ready.2
    | sent message quiet confirmed =>
      rw [confirmed]
      constructor
      · intro accepted
        exact ⟨differ, .assigned fit accepted⟩
      · intro ready
        cases ready.2 with
        | assigned _ accepted => exact accepted

theorem submits_iff {oracle : Oracle api} (answered : Program.Answered oracle [] trace)
    (distinct : context.sdk.bpfLoader ≠ context.sdk.systemProgram) :
    (∃ exchange ∈ trace, exchange.operation.submits) ↔
      program ≠ authority ∧ ∃ account, oracle [] (.readAccountInfo program) = .ok account ∧ Assignable context account ∧
        ∃ blockhash, oracle [⟨.readAccountInfo program, .ok account⟩] .getBestFinalizedBlockHash = .ok blockhash := by
  have silent {exchange : Exchange api} (reads : exchange.operation.submits = false) :
      ¬∃ other ∈ [exchange], other.operation.submits := by
    intro found
    obtain ⟨other, member, submits⟩ := found
    rw [List.mem_singleton.mp member, reads] at submits
    cases submits
  cases preparation with
  | sameKey same error => exact iff_of_false (fun found => by simp at found) (fun needed => needed.1 same)
  | absent differ message =>
    refine iff_of_false (silent rfl) (fun needed => ?_)
    obtain ⟨_, account, shown, _⟩ := needed
    cases answered.1.trans shown
  | unread differ failed =>
    refine iff_of_false (silent rfl) (fun needed => ?_)
    obtain ⟨_, account, shown, _⟩ := needed
    cases answered.1.trans shown
  | owned differ owner =>
    refine iff_of_false (silent rfl) (fun needed => ?_)
    obtain ⟨_, account, shown, fit, _⟩ := needed
    cases answered.1.trans shown
    exact distinct (owner.symm.trans fit.1)
  | refused differ foreign unfit error =>
    refine iff_of_false (silent rfl) (fun needed => ?_)
    obtain ⟨_, account, shown, fit, _⟩ := needed
    cases answered.1.trans shown
    exact unfit fit
  | @assigned differ account foreign fit trace outcome rest =>
    obtain ⟨shown, answered⟩ := answered
    cases rest with
    | hashless error =>
      refine iff_of_false (fun found => ?_) (fun needed => ?_)
      · obtain ⟨exchange, member, submits⟩ := found
        rcases List.mem_cons.mp member with same | last
        · rw [same] at submits
          cases submits
        · exact silent rfl ⟨exchange, last, submits⟩
      · obtain ⟨_, other, again, _, blockhash, hashed⟩ := needed
        cases shown.trans again
        cases answered.1.trans hashed
    | @sent blockhash transaction reply trace outcome message quiet confirmed =>
      refine iff_of_true ⟨⟨.sendTransaction transaction, reply⟩, by simp, rfl⟩ ?_
      exact ⟨differ, account, shown.symm, fit, blockhash, answered.1.symm⟩

/-- At most one transaction is sent, and it assigns the account. -/
theorem submitted : trace.countP (fun exchange => exchange.operation.submits) ≤ 1 ∧
    ∀ transaction reply, ⟨.sendTransaction transaction, reply⟩ ∈ trace →
      ∃ blockhash, transaction.message = assignment context program authority blockhash := by
  have single {exchange : Exchange api} (reads : exchange.operation.submits = false) :
      [exchange].countP (fun exchange => exchange.operation.submits) ≤ 1 := by
    simp [reads]
  cases preparation with
  | sameKey => exact ⟨by simp, fun _ _ member => by cases member⟩
  | absent => exact ⟨single rfl, fun _ _ member => by cases List.mem_singleton.mp member⟩
  | unread => exact ⟨single rfl, fun _ _ member => by cases List.mem_singleton.mp member⟩
  | owned => exact ⟨single rfl, fun _ _ member => by cases List.mem_singleton.mp member⟩
  | refused => exact ⟨single rfl, fun _ _ member => by cases List.mem_singleton.mp member⟩
  | assigned differ foreign fit rest =>
    cases rest with
    | hashless error =>
      refine ⟨by simp [Request.submits], ?_⟩
      intro transaction reply member
      rcases List.mem_cons.mp member with same | last
      · cases same
      · cases List.mem_singleton.mp last
    | @sent blockhash transaction reply trace outcome message quiet confirmed =>
      have none : trace.countP (fun exchange => exchange.operation.submits) = 0 := by
        simpa using quiet
      refine ⟨?_, ?_⟩
      · simp only [List.countP_cons, none]
        simp [Request.submits]
      intro other answer member
      simp only [List.mem_cons] at member
      rcases member with same | same | same | later
      · cases same
      · cases same
      · cases same
        exact ⟨blockhash, message⟩
      · cases quiet _ later

end Preparation

/-- The assignment changes the owner of the account and nothing else. -/
theorem assignment_processed {blockhash : Hash} {satellite : Pubkey} {before after : Ledger}
    (processed : Satellite.processInstructions context.sdk.toSdk satellite before
      (assignment context program authority blockhash).instructions = some after) :
    ∃ account, before.accounts program = some account ∧
      after.accounts program = some { account with owner := context.sdk.bpfLoader } ∧
      ∀ other, other ≠ program → after.accounts other = before.accounts other := by
  simp only [assignment, ArchMessage.new, Satellite.processInstructions, Satellite.processInstruction] at processed
  cases found : before.accounts program with
  | none =>
    rw [found] at processed
    cases processed
  | some account =>
    rw [found] at processed
    dsimp only at processed
    split at processed
    next ledger stored =>
      split at stored
      next =>
        cases stored
        cases processed
        exact ⟨account, rfl, Ledger.store_self .., fun other different => Ledger.store_ne _ _ different⟩
      next => cases stored
    next => cases processed

/-- Whatever the node answers, the deployment goes on only with an account that is absent or
owned by the loader, and one transaction is sent at most: for an account that is fit to be
assigned, to give it to the loader and leave everything else of it alone. -/
theorem prepareProgramAccount_exact (context : Context) (programKeypair authorityKeypair : Keypair)
    (distinct : context.sdk.bpfLoader ≠ context.sdk.systemProgram) (oracle : Oracle api) :
    let program := context.sdk.xOnlyPublicKey programKeypair
    let authority := context.sdk.xOnlyPublicKey authorityKeypair
    let run := Fallible.against oracle (prepareProgramAccount context programKeypair authorityKeypair)
    (run.2 = .ok () ↔ program ≠ authority ∧ Ready context program run.1) ∧
    (run.2 = .ok () → ∃ reply, run.1.getLast? = some ⟨.readAccountInfo program, reply⟩ ∧ Usable context reply) ∧
    ((∃ exchange ∈ run.1, exchange.operation.submits) ↔
      program ≠ authority ∧ ∃ account, oracle [] (.readAccountInfo program) = .ok account ∧ Assignable context account ∧
        ∃ blockhash, oracle [⟨.readAccountInfo program, .ok account⟩] .getBestFinalizedBlockHash = .ok blockhash) ∧
    run.1.countP (fun exchange => exchange.operation.submits) ≤ 1 ∧
    ∀ transaction reply, ⟨.sendTransaction transaction, reply⟩ ∈ run.1 → ∃ blockhash,
      transaction.message = .new context.sdk.toSdk [.assign program context.sdk.bpfLoader] (some authority) blockhash ∧
      ∀ satellite before after,
        Satellite.processInstructions context.sdk.toSdk satellite before transaction.message.instructions = some after →
        ∃ account, before.accounts program = some account ∧
          after.accounts program = some { account with owner := context.sdk.bpfLoader } ∧
          ∀ other, other ≠ program → after.accounts other = before.accounts other := by
  intro program authority run
  have preparation : Preparation context program authority run.1 run.2 :=
    traces_prepareProgramAccount (traces_against oracle _)
  obtain ⟨single, assigns⟩ := preparation.submitted
  refine ⟨preparation.ready_iff, ?_, preparation.submits_iff (answered_against oracle _) distinct, single, ?_⟩
  · intro done
    exact (preparation.ready_iff.mp done).2.last
  · intro transaction reply member
    obtain ⟨blockhash, message⟩ := assigns transaction reply member
    refine ⟨blockhash, message, ?_⟩
    intro satellite before after processed
    rw [message] at processed
    exact assignment_processed processed

section Example
open Example Reference

/-- A node with a funded account that an assignment hands over. -/
def assigning : Oracle api := fun past operation =>
  match operation with
  | .readAccountInfo _ =>
    .ok ⟨1000, if past.isEmpty then localnet.sdk.systemProgram else localnet.sdk.bpfLoader, [], false⟩
  | .getProgramAccounts .. => .ok []
  | .getMultipleAccounts addresses => .ok (addresses.map fun _ => none)
  | .getBestFinalizedBlockHash => .ok ⟨7⟩
  | .sendTransaction _ => .ok ⟨8⟩
  | .waitForProcessedTransaction _ => .ok ⟨.processed⟩
  | .createAndFundAccountWithFaucet _ => .ok ()
  | .tryDeployProgram .. => .error "unsupported"
  | .generateNewKeypair _ => (firstBuffer, publicKey firstBuffer)
  | .isFile _ => false
  | .read _ => .error denied
  | .symlinkMetadata _ => .error denied
  | .createNew _ => .error denied
  | .write .. => .error denied
  | .syncAll _ => .error denied
  | .signMessageBip322 .. => .error (.other "unsupported")
  | .post .. => .error "unsupported"

theorem prepareProgramAccount_exact_assigning : ∃ exchange ∈
    (Fallible.against assigning (prepareProgramAccount localnet firstBuffer Reference.authorityKeypair)).1, exchange.operation.submits := by
  have distinct : localnet.sdk.bpfLoader ≠ localnet.sdk.systemProgram := by decide +kernel
  have different : localnet.sdk.xOnlyPublicKey firstBuffer ≠ localnet.sdk.xOnlyPublicKey Reference.authorityKeypair := by decide +kernel
  exact (prepareProgramAccount_exact localnet firstBuffer Reference.authorityKeypair distinct assigning).2.2.1.mpr
    ⟨different, _, rfl, ⟨rfl, rfl, rfl⟩, _, rfl⟩

end Example
end ArchKit.Deploy
