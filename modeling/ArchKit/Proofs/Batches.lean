import ArchKit.Chain
import ArchKit.Proofs.Exchanges
import ArchKit.Proofs.Handlers

/-! The transactions of a publication: one of them, and several that are sent one after the
other, each when the one before it was processed. -/

namespace ArchKit
open Effects Idl Satellite Site Fallible

namespace Publisher
variable {ι : Type} {publisher : Publisher} {client : ι} {world : World ι}

/-- The replies of a faultless network to this run. -/
abbrev node (publisher : Publisher) (client : ι) : Server api (World ι) :=
  Chain.Faultless publisher.sdk publisher.program client

variable {α β : Type} {post : Except CliError β → World ι → Prop}

theorem ensures_perform_api (operation : Request) {next : operation.Reply → Cli β} :
    Ensures (publisher.node client) ((perform (I := api) operation : Cli operation.Reply) >>= next) post world ↔
      ∀ reply after, publisher.node client world operation reply after →
        Ensures (publisher.node client) (next reply) post after :=
  ensures_perform_bind (I := api) operation

theorem ensures_rpc {value : α} {next : α → Cli β} :
    Ensures (publisher.node client) (Cli.rpc (.ok value) >>= next) post world ↔
      Ensures (publisher.node client) (next value) post world := Iff.rfl

/-- A transaction whose instructions can be executed is sent, executed and awaited. -/
theorem send_returns {action : String} {instructions : List Instruction} {signers : List Keypair} {ledger : Ledger}
    (executes : publisher.process world.ledger instructions = some ledger)
    (pays : ∃ signer ∈ signers, publisher.sdk.xOnlyPublicKey signer = publisher.authority)
    (covers : ∀ instruction ∈ instructions, ∀ key ∈ instruction.signers,
      ∃ signer ∈ signers, publisher.sdk.xOnlyPublicKey signer = key) :
    Returns (publisher.node client) (publisher.send action instructions publisher.authority signers)
      (fun _ after => ∃ transaction, transaction.message.instructions = instructions ∧
        after = world.commit client transaction ledger) world := by
  apply (ensures_perform_api .getBestFinalizedBlockHash).mpr
  intro reply after law
  obtain ⟨same, blockhash, received⟩ := law
  subst same received
  obtain ⟨transaction, built, message⟩ := publisher.sdk.signs instructions publisher.authority blockhash signers
    publisher.network pays covers
  have instructions' : transaction.message.instructions = instructions := by rw [message]; rfl
  rw [ensures_rpc]
  dsimp only
  rw [built, ensures_rpc]
  apply (ensures_perform_api (.sendTransaction transaction)).mpr
  intro reply sent law
  obtain ⟨received, effect⟩ := law
  change processInstructions _ _ _ _ = _ at executes
  rw [instructions', executes] at effect
  subst effect received
  rw [ensures_rpc]
  apply (ensures_perform_api (.waitForProcessedTransaction _)).mpr
  intro reply final law
  obtain ⟨same, answered⟩ := law
  subst same
  have logged : (after.commit client transaction ledger).log[after.nextId.number]? =
      some ⟨client, transaction, .processed⟩ := List.getElem?_concat_length
  rw [logged] at answered
  subst answered
  exact ⟨_, rfl, transaction, instructions', rfl⟩

variable {always : World ι → Prop}

section Signed
variable (signed : publisher.sdk.xOnlyPublicKey publisher.authorityKeypair = publisher.authority)
include signed

/-- The authority alone signs what nobody else has to. -/
theorem authority_covers {instructions : List Instruction}
    (signs : ∀ instruction ∈ instructions, instruction.signers = [publisher.authority]) :
    ∀ instruction ∈ instructions, ∀ key ∈ instruction.signers,
      ∃ signer ∈ [publisher.authorityKeypair], publisher.sdk.xOnlyPublicKey signer = key := by
  intro instruction member key required
  rw [signs instruction member] at required
  exact ⟨_, List.mem_singleton.mpr rfl, signed.trans (List.mem_singleton.mp required).symm⟩

theorem sendAlone_returns {action : String} {instructions : List Instruction} {ledger : Ledger}
    (executes : publisher.process world.ledger instructions = some ledger)
    (signs : ∀ instruction ∈ instructions, instruction.signers = [publisher.authority]) :
    Returns (publisher.node client) (publisher.send action instructions publisher.authority [publisher.authorityKeypair])
      (fun _ after => ∃ transaction, transaction.message.instructions = instructions ∧
        after = world.commit client transaction ledger) world :=
  send_returns executes ⟨_, List.mem_singleton.mpr rfl, signed⟩ (authority_covers signed signs)

/-- A node in which no call fails has a way to serve a transaction that can be executed. -/
theorem send_executes (client : ι) (action : String) {instructions : List Instruction} {ledger : Ledger}
    (executes : publisher.process world.ledger instructions = some ledger)
    (signs : ∀ instruction ∈ instructions, instruction.signers = [publisher.authority]) :
    ∃ id transaction, transaction.message.instructions = instructions ∧
      Executes (publisher.node client) (publisher.send action instructions publisher.authority
        [publisher.authorityKeypair]) world (.ok id) (world.commit client transaction ledger) := by
  obtain ⟨transaction, built, message⟩ := publisher.sdk.signs instructions publisher.authority ⟨0⟩
    [publisher.authorityKeypair] publisher.network ⟨_, List.mem_singleton.mpr rfl, signed⟩ (authority_covers signed signs)
  have instructions' : transaction.message.instructions = instructions := by rw [message]; rfl
  have effect : processInstructions publisher.sdk publisher.program world.ledger transaction.message.instructions =
      some ledger := instructions' ▸ executes
  have sent : publisher.node client world (.sendTransaction transaction) (.ok world.nextId)
      (world.commit client transaction ledger) := ⟨rfl, by rw [effect]⟩
  have logged : (world.commit client transaction ledger).log[world.nextId.number]? =
      some ⟨client, transaction, .processed⟩ := List.getElem?_concat_length
  have waited : publisher.node client (world.commit client transaction ledger)
      (.waitForProcessedTransaction world.nextId) (.ok ⟨.processed⟩) (world.commit client transaction ledger) :=
    ⟨rfl, by rw [logged]⟩
  refine ⟨world.nextId, transaction, instructions', ?_⟩
  have hashed : publisher.node client world .getBestFinalizedBlockHash (.ok ⟨0⟩) world := ⟨rfl, _, rfl⟩
  refine Executes.perform (I := api) .getBestFinalizedBlockHash hashed ?_
  change Executes _ (Cli.rpc (publisher.sdk.buildAndSign (.new publisher.sdk instructions (some publisher.authority) ⟨0⟩)
    [publisher.authorityKeypair] publisher.network) >>= _) _ _ _
  rw [built]
  refine Executes.perform (I := api) (.sendTransaction transaction) sent ?_
  exact Executes.perform (I := api) (.waitForProcessedTransaction _) waited .pure

end Signed

/-- One transaction is submitted at most once, and named where it fails. -/
theorem traces_send {action : String} {instructions : List Instruction} {payer : Pubkey} {signers : List Keypair}
    {outcome : Except CliError Hash} {trace : List (Exchange api)}
    (traced : Traces (publisher.send action instructions payer signers) trace outcome) :
    (trace.filterMap submission? = [instructions] ∧
      ∀ other status, outcome = .error (.transactionFailed other status) → other = action) ∨
    (trace.filterMap submission? = [] ∧ ∃ error, outcome = .error (.archRpc error)) := by
  obtain ⟨hashed, rest, first, called⟩ := traces_perform.mp traced
  rcases traces_rpc.mp called with ⟨blockhash, known, building⟩ | ⟨error, failed, empty, ended⟩
  swap
  · subst first failed empty ended
    exact .inr ⟨rfl, error, rfl⟩
  rcases traces_rpc.mp building with ⟨transaction, built, sending⟩ | ⟨error, failed, empty, ended⟩
  swap
  · subst first known empty ended
    exact .inr ⟨rfl, error, rfl⟩
  have submits : transaction.message.instructions = instructions := by
    rw [publisher.sdk.buildAndSign_message _ _ _ _ built]
    rfl
  obtain ⟨reply, afterSend, second, answered⟩ := traces_perform.mp sending
  subst first known second submits
  left
  rcases traces_rpc.mp answered with ⟨id, sent, waiting⟩ | ⟨error, failed, empty, ended⟩
  swap
  · subst failed empty ended
    exact ⟨rfl, fun _ _ same => by cases same⟩
  obtain ⟨waited, afterWait, third, finished⟩ := traces_perform.mp waiting
  subst sent third
  rcases traces_rpc.mp finished with ⟨processed, known, continued⟩ | ⟨error, failed, empty, ended⟩
  swap
  · subst failed empty ended
    exact ⟨rfl, fun _ _ same => by cases same⟩
  subst known
  split at continued
  next =>
    obtain ⟨empty, ended⟩ := traces_throw.mp continued
    subst empty ended
    exact ⟨rfl, fun _ _ same => by cases same; rfl⟩
  next =>
    obtain ⟨empty, ended⟩ := traces_pure.mp continued
    subst empty ended
    exact ⟨rfl, fun _ _ same => by cases same⟩

end Publisher

/-- A transaction to send, with its name in messages. -/
structure Batch where
  action : String
  instructions : List Instruction

/-- The effect of whole transactions, all or none of them. -/
def Site.replay (site : Site) : Ledger → List Batch → Option Ledger
  | ledger, [] => some ledger
  | ledger, batch :: rest => (site.process ledger batch.instructions).bind fun after => site.replay after rest

theorem Site.replay_append {site : Site} {ledger : Ledger} {first rest : List Batch} :
    site.replay ledger (first ++ rest) = (site.replay ledger first).bind fun after => site.replay after rest := by
  induction first generalizing ledger with
  | nil => rfl
  | cons batch others ih =>
    change (site.process ledger batch.instructions).bind _ = ((site.process ledger batch.instructions).bind _).bind _
    cases site.process ledger batch.instructions with
    | none => rfl
    | some middle => exact ih

/-- The transactions that a client had processed between two states of the chain. -/
def Committed {ι : Type} (client : ι) (before after : World ι) (transactions : List (List Instruction)) : Prop :=
  ∃ entries, after.log = before.log ++ entries ∧ entries.map (·.transaction.message.instructions) = transactions ∧
    ∀ entry ∈ entries, entry.client = client ∧ entry.status = .processed

namespace Committed
variable {ι : Type} {client : ι} {before middle after : World ι} {first rest : List (List Instruction)}

theorem refl : Committed client before before [] :=
  ⟨[], (List.append_nil _).symm, rfl, fun _ member => by cases member⟩

theorem commit (transaction : RuntimeTransaction) (ledger : Ledger) :
    Committed client before (before.commit client transaction ledger) [transaction.message.instructions] :=
  ⟨[⟨client, transaction, .processed⟩], rfl, rfl, fun _ member => by cases List.mem_singleton.mp member; exact ⟨rfl, rfl⟩⟩

theorem trans (one : Committed client before middle first) (two : Committed client middle after rest) :
    Committed client before after (first ++ rest) := by
  obtain ⟨earlier, start, listed, own⟩ := one
  obtain ⟨later, finish, shown, others⟩ := two
  refine ⟨earlier ++ later, ?_, ?_, ?_⟩
  · rw [finish, start, List.append_assoc]
  · rw [List.map_append, listed, shown]
  · intro entry member
    rcases List.mem_append.mp member with inside | inside
    · exact own entry inside
    · exact others entry inside

theorem length (committed : Committed client before after first) : after.log.length = before.log.length + first.length := by
  obtain ⟨entries, logged, listed, _⟩ := committed
  rw [logged, ← listed, List.length_append, List.length_map]

end Committed

namespace Publisher
variable {ι : Type} (publisher : Publisher)

def sendAll : List Batch → Cli Unit
  | [] => return ()
  | batch :: rest => do
    let _ ← publisher.send batch.action batch.instructions publisher.authority [publisher.authorityKeypair]
    sendAll rest

variable {publisher}

theorem sendAll_append {first rest : List Batch} :
    publisher.sendAll (first ++ rest) = publisher.sendAll first >>= fun _ => publisher.sendAll rest := by
  induction first with
  | nil => rfl
  | cons batch others ih =>
    change (publisher.send _ _ _ _ >>= fun _ => publisher.sendAll (others ++ rest)) =
      (publisher.send _ _ _ _ >>= fun _ => publisher.sendAll others) >>= _
    rw [ih, bind_assoc]

theorem sendAll_single_bind {β : Type} {batch : Batch} {next : Unit → Cli β} : publisher.sendAll [batch] >>= next =
    publisher.send batch.action batch.instructions publisher.authority [publisher.authorityKeypair] >>= fun _ => next () := by
  change (publisher.send _ _ _ _ >>= fun _ => publisher.sendAll []) >>= next = _
  rw [bind_assoc]
  rfl

/-- What a run has submitted when it ends: the transactions up to one of them, which is the
one that a failure names. -/
def Sends (batches : List Batch) (trace : List (Exchange api)) (outcome : Except CliError Unit) : Prop :=
  ∃ sent, sent <+: batches ∧ trace.filterMap submission? = sent.map Batch.instructions ∧
    (outcome = .ok () → sent = batches) ∧
    ∀ action status, outcome = .error (.transactionFailed action status) →
      ∃ batch, sent.getLast? = some batch ∧ batch.action = action

theorem traces_sendAll {batches : List Batch} {outcome : Except CliError Unit}
    {trace : List (Exchange api)}
    (traced : Traces (publisher.sendAll batches) trace outcome) : Sends batches trace outcome := by
  induction batches generalizing trace with
  | nil =>
    obtain ⟨empty, ended⟩ := traces_pure.mp traced
    subst empty ended
    exact ⟨[], List.nil_prefix, rfl, fun _ => rfl, fun _ _ same => by cases same⟩
  | cons batch rest ih =>
    rcases traces_bind.mp traced with ⟨error, failed, ended⟩ | ⟨id, first, remaining, split, sent, continued⟩
    · subst ended
      rcases traces_send failed with ⟨submitted, named⟩ | ⟨nothing, _, refused⟩
      · refine ⟨[batch], List.cons_prefix_cons.mpr ⟨rfl, List.nil_prefix⟩, submitted, fun same => by (cases same), ?_⟩
        intro action status same
        cases same
        exact ⟨batch, rfl, (named _ _ rfl).symm⟩
      · cases refused
        exact ⟨[], List.nil_prefix, nothing, fun same => by (cases same), fun _ _ same => by cases same⟩
    · subst split
      rcases traces_send sent with ⟨submitted, _⟩ | ⟨_, _, refused⟩
      swap
      · cases refused
      obtain ⟨others, front, listed, whole, named⟩ := ih continued
      refine ⟨batch :: others, List.cons_prefix_cons.mpr ⟨rfl, front⟩, ?_, fun done => by rw [whole done], ?_⟩
      · rw [List.filterMap_append, submitted, listed]
        rfl
      · intro action status same
        obtain ⟨last, found, called⟩ := named action status same
        exact ⟨last, by rw [List.getLast?_cons, found]; rfl, called⟩

section Replayed
variable (client : ι) {world : World ι} {ledger : Ledger}
  (signed : publisher.sdk.xOnlyPublicKey publisher.authorityKeypair = publisher.authority)
include signed

variable {batches : List Batch} (replayed : publisher.replay world.ledger batches = some ledger)
  (signs : ∀ batch ∈ batches, ∀ instruction ∈ batch.instructions, instruction.signers = [publisher.authority])
include replayed signs

theorem sendAll_executes : ∃ after, Executes (publisher.node client) (publisher.sendAll batches) world (.ok ()) after := by
  induction batches generalizing world with
  | nil => exact ⟨world, .pure⟩
  | cons batch rest ih =>
    obtain ⟨middle, effect, remaining⟩ := Option.bind_eq_some_iff.mp replayed
    obtain ⟨id, transaction, _, sent⟩ := send_executes signed client batch.action effect
      (signs batch List.mem_cons_self)
    have remaining : publisher.replay (world.commit client transaction middle).ledger rest = some ledger := remaining
    obtain ⟨after, executed⟩ := ih remaining
      (fun other member => signs other (List.mem_cons_of_mem _ member))
    exact ⟨after, Executes.bind sent executed⟩

/-- Every run sends all of the transactions and ends in the replayed ledger. -/
theorem sendAll_returns : Returns (publisher.node client) (publisher.sendAll batches)
    (fun _ after => after.ledger = ledger ∧ Committed client world after (batches.map Batch.instructions)) world := by
  induction batches generalizing world with
  | nil =>
    cases replayed
    exact ⟨(), rfl, rfl, .refl⟩
  | cons batch rest ih =>
    obtain ⟨middle, effect, remaining⟩ := Option.bind_eq_some_iff.mp replayed
    refine Returns.bind (sendAlone_returns signed effect (signs batch List.mem_cons_self)) ?_
    intro id sent committed
    obtain ⟨transaction, instructions, same⟩ := committed
    subst same
    have remaining : publisher.replay (world.commit client transaction middle).ledger rest = some ledger := remaining
    apply (ih remaining
      (fun other member => signs other (List.mem_cons_of_mem _ member))).mono
    intro outcome after holds
    obtain ⟨value, returned, reached, others⟩ := holds
    refine ⟨value, returned, reached, ?_⟩
    have first : Committed client world (world.commit client transaction middle) [batch.instructions] :=
      instructions ▸ Committed.commit transaction middle
    exact first.trans others

end Replayed
end Publisher
end ArchKit
