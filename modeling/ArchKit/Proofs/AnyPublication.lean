import ArchKit.Proofs.AnyReplies
import ArchKit.Proofs.OwnAccounts
import ArchKit.Proofs.Prepared

/-! A publication with a node that may answer anything. Transactions are submitted one by
one, each after the one before it was acknowledged, and reach no further than the canonical
account and the buffers of this publication. -/

namespace ArchKit
open Effects Fallible Idl

def generated? : Exchange api → Option Pubkey
  | ⟨.generateNewKeypair _, reply⟩ => some reply.2
  | _ => none

/-- The keys that were generated. -/
def generated (trace : List (Exchange api)) : List Pubkey := trace.filterMap generated?

theorem generated_grows {past seen : List (Exchange api)} (longer : past <+: seen) {key : Pubkey} (member : key ∈ generated past) :
    key ∈ generated seen := by
  obtain ⟨more, same⟩ := longer
  rw [← same, generated, List.filterMap_append]
  exact List.mem_append_left _ member

/-- The requests that belong to a transaction. -/
def Request.pending : Request → Bool
  | .sendTransaction _ | .waitForProcessedTransaction _ => true
  | _ => false

/-- After each transaction nothing else was done until it was acknowledged. -/
inductive Quiescent : List (Exchange api) → Prop where
  | nil : Quiescent []
  | other {past : List (Exchange api)} {operation : Request} {reply : operation.Reply} (settled : Quiescent past)
      (quiet : operation.pending = false) : Quiescent (past ++ [⟨operation, reply⟩])
  | acknowledged {past : List (Exchange api)} {transaction : RuntimeTransaction} {id : Hash} (settled : Quiescent past) :
      Quiescent (past ++ [⟨.sendTransaction transaction, .ok id⟩, acknowledgement id])

/-- One transaction at a time; a command waits for the id it was given. -/
def orderly (allows : List (Exchange api) → Request → Prop) (past : List (Exchange api)) (operation : api.Request) : Prop :=
  match operation with
  | .waitForProcessedTransaction id =>
    ∃ settled transaction, past = settled ++ [⟨.sendTransaction transaction, .ok id⟩] ∧ Quiescent settled
  | operation => Quiescent past ∧ allows past operation

/-- A success leaves no transaction open. -/
def Done {α : Type} (fact : List (Exchange api) → α → Prop) (seen : List (Exchange api)) (outcome : Except CliError α) : Prop :=
  ∀ value, outcome = .ok value → Quiescent seen ∧ fact seen value

section Orderly
variable {α β : Type} {allows : List (Exchange api) → Request → Prop} {past : List (Exchange api)}
  {fact : List (Exchange api) → α → Prop} {last : List (Exchange api) → β → Prop}

theorem Done.fails {error : CliError} : Keeps (.history (orderly allows)) (Done fact) (throw error : Cli α) past :=
  fun _ same => by cases same

theorem Done.returns {value : α} (settled : Quiescent past) (holds : fact past value) :
    Keeps (.history (orderly allows)) (Done fact) (Pure.pure value : Cli α) past := by
  intro other same
  cases same
  exact ⟨settled, holds⟩

theorem Done.bind {program : Cli α} {next : α → Cli β} (first : Keeps (.history (orderly allows)) (Done fact) program past)
    (rest : ∀ seen value, past <+: seen → Quiescent seen → fact seen value → Keeps (.history (orderly allows)) (Done last) (next value) seen) :
    Keeps (.history (orderly allows)) (Done last) (program >>= next) past := by
  apply Keeps.bind_since first
  · intro seen value longer done
    obtain ⟨settled, holds⟩ := done value rfl
    exact rest seen value longer settled holds
  · intro seen error _ value same
    cases same

theorem Done.ofExcept {outcome : Except CliError α} {next : α → Cli β}
    (rest : ∀ value, outcome = .ok value → Keeps (.history (orderly allows)) (Done last) (next value) past) :
    Keeps (.history (orderly allows)) (Done last) (Fallible.ofExcept outcome >>= next) past :=
  Keeps.ofExcept rest fun _ _ _ same => by cases same

theorem Done.rpc {reply : Except ArchError α} {next : α → Cli β}
    (rest : ∀ value, reply = .ok value → Keeps (.history (orderly allows)) (Done last) (next value) past) :
    Keeps (.history (orderly allows)) (Done last) (Cli.rpc reply >>= next) past := by
  cases reply with
  | ok value => exact rest value rfl
  | error error => exact fun _ same => by cases same

theorem Done.perform {operation : Request} {next : operation.Reply → Cli β} (settled : Quiescent past) (quiet : operation.pending = false)
    (allowed : allows past operation)
    (rest : ∀ reply, Quiescent (past ++ [⟨operation, reply⟩]) → Keeps (.history (orderly allows)) (Done last) (next reply) (past ++ [⟨operation, reply⟩])) :
    Keeps (.history (orderly allows)) (Done last) (Fallible.perform (I := api) operation >>= next) past := by
  refine ⟨?_, fun reply => rest reply (.other settled quiet)⟩
  cases operation with
  | waitForProcessedTransaction id => cases quiet
  | _ => exact ⟨settled, allowed⟩

/-- Submission and confirmation, with what follows a confirmation. -/
theorem Done.confirm {transaction : RuntimeTransaction} (refused : Hash → Status → CliError) (next : Hash → Cli β) (settled : Quiescent past)
    (allowed : allows past (.sendTransaction transaction))
    (rest : ∀ seen id, past <+: seen → Quiescent seen → Keeps (.history (orderly allows)) (Done last) (next id) seen) :
    Keeps (.history (orderly allows)) (Done last) (do
      let id ← Cli.rpc (← Cli.sendTransaction transaction)
      let processed ← Cli.rpc (← Cli.waitForProcessedTransaction id)
      if processed.status ≠ .processed then
        throw (refused id processed.status)
      next id) past := by
  refine ⟨⟨settled, allowed⟩, ?_⟩
  intro sent
  apply Done.rpc
  intro id known
  cases known
  refine ⟨⟨past, transaction, rfl, settled⟩, ?_⟩
  intro waited
  apply Done.rpc
  intro processed known
  cases known
  obtain ⟨status⟩ := processed
  dsimp only
  split
  next => exact .fails
  next done =>
    have finished : status = .processed := not_not.mp done
    subst finished
    have whole : past ++ [⟨.sendTransaction transaction, .ok id⟩] ++ [acknowledgement id] =
        past ++ [⟨.sendTransaction transaction, .ok id⟩, acknowledgement id] := List.append_assoc ..
    change Keeps (.history (orderly allows)) (Done last) (next id) (past ++ [⟨.sendTransaction transaction, .ok id⟩] ++ [acknowledgement id])
    rw [whole]
    exact rest _ id (List.prefix_append ..) (.acknowledged settled)

end Orderly

namespace Publisher

/-- What a publication may ask for. -/
def Publishing (publisher : Publisher) (base idl : Pubkey) (past : List (Exchange api)) : Request → Prop
  | .sendTransaction transaction => ∃ instructions blockhash,
      transaction.message = .new publisher.sdk instructions (some publisher.authority) blockhash ∧
        ∀ instruction ∈ instructions, publisher.Own base idl (· ∈ generated past) instruction
  | .readAccountInfo address => address = idl ∨ address ∈ generated past
  | .generateNewKeypair network => network = publisher.network
  | .getBestFinalizedBlockHash => True
  | _ => False

variable {publisher : Publisher} {base idl : Pubkey} {past : List (Exchange api)}

/-- Programs that keep to this, with a fact about their results. -/
abbrev Publishes {α : Type} (publisher : Publisher) (base idl : Pubkey) (fact : List (Exchange api) → α → Prop) (program : Cli α)
    (past : List (Exchange api)) : Prop :=
  Keeps (.history (orderly (publisher.Publishing base idl))) (Done fact) program past

theorem send_publishes {action : String} {instructions : List Instruction} {signers : List Keypair} (settled : Quiescent past)
    (own : ∀ instruction ∈ instructions, publisher.Own base idl (· ∈ generated past) instruction) :
    publisher.Publishes base idl (fun _ _ => True) (publisher.send action instructions publisher.authority signers) past := by
  apply Done.perform settled rfl trivial
  intro hashed asked
  apply Done.rpc
  intro blockhash _
  apply Done.rpc
  intro transaction built
  refine Done.confirm (fun _ status => .transactionFailed action status.debug) Pure.pure asked ?_ ?_
  · refine ⟨instructions, blockhash, publisher.sdk.buildAndSign_message _ _ _ _ built, ?_⟩
    intro instruction member
    exact (own instruction member).mono fun key => generated_grows (List.prefix_append ..)
  · intro seen id _ acknowledged
    exact .returns acknowledged trivial

theorem growInstructions_own {space : Nat} {buffers : Option (Pubkey × Pubkey)} {last : Bool} {owned : Pubkey → Prop} (small : space < 2 ^ 64)
    (own : ∀ pair, buffers = some pair → owned pair.1 ∧ owned pair.2) :
    ∀ instruction ∈ publisher.growInstructions idl space buffers last, publisher.Own base idl owned instruction := by
  intro instruction member
  cases buffers with
  | none =>
    cases List.mem_singleton.mp member
    exact .resize small
  | some pair =>
    obtain ⟨empty, backup⟩ := pair
    obtain ⟨first, second⟩ := own _ rfl
    rcases List.mem_append.mp member with always | closing
    · simp only [List.mem_cons, List.not_mem_nil, or_false] at always
      rcases always with same | same | same
      · subst same
        exact .setBuffer (.inl rfl)
      · subst same
        exact .resize small
      · subst same
        exact .setBuffer (.inl rfl)
    · cases last with
      | false => cases closing
      | true =>
        simp only [if_true, List.mem_cons, List.not_mem_nil, or_false] at closing
        rcases closing with same | same
        · subst same
          exact .close first
        · subst same
          exact .close second

theorem growAccount_publishes {current target : Nat} {buffers : Option (Pubkey × Pubkey)} (settled : Quiescent past)
    (own : ∀ pair, buffers = some pair → pair.1 ∈ generated past ∧ pair.2 ∈ generated past) :
    publisher.Publishes base idl (fun _ _ => True) (publisher.growAccount idl current target buffers) past := by
  induction left : target - current using Nat.strong_induction_on generalizing current past with
  | _ left ih =>
    by_cases below : current < target
    swap
    · rw [growAccount_done publisher below]
      exact .returns settled trivial
    by_cases small : target < 2 ^ 64
    swap
    · rw [growAccount, dif_pos below]
      apply Done.ofExcept
      intro space fits
      rw [toU64, if_neg small] at fits
      cases fits
    rw [growAccount_step publisher below small]
    apply Done.bind (send_publishes settled (growInstructions_own small own))
    intro seen _ longer acknowledged _
    refine ih _ ?_ acknowledged ?_ rfl
    · simp only [idlResizeIncrement]
      omega
    · intro pair chosen
      exact (own pair chosen).imp (generated_grows longer) (generated_grows longer)

theorem writeFrom_publishes {target : Pubkey} {total index : Nat} {pieces : List Bytes} (settled : Quiescent past)
    (own : target = idl ∨ target ∈ generated past) (bounded : ∀ chunk ∈ pieces, chunk.length ≤ maxWriteSize) :
    publisher.Publishes base idl (fun _ _ => True) (publisher.writeFrom target total index pieces) past := by
  induction pieces generalizing index past with
  | nil => exact .returns settled trivial
  | cons chunk rest ih =>
    apply Done.bind (send_publishes settled _)
    · intro seen _ longer acknowledged _
      exact ih acknowledged (own.imp_right (generated_grows longer)) fun other member => bounded other (List.mem_cons_of_mem _ member)
    · intro instruction member
      cases List.mem_singleton.mp member
      exact .write own (bounded chunk List.mem_cons_self)

theorem writeChunks_publishes {target : Pubkey} {compressed : Bytes} (settled : Quiescent past)
    (own : target = idl ∨ target ∈ generated past) :
    publisher.Publishes base idl (fun _ _ => True) (publisher.writeChunks target compressed) past :=
  writeFrom_publishes settled own fun chunk member => (chunks_bounded maxWriteSize compressed chunk member).2

theorem createBuffer_publishes {capacity : Nat} {copyFrom : Option Pubkey} (settled : Quiescent past) :
    publisher.Publishes base idl (fun seen buffer => buffer ∈ generated seen) (publisher.createBuffer capacity copyFrom) past := by
  apply Done.perform settled rfl rfl
  intro drawn asked
  obtain ⟨keypair, buffer⟩ := drawn
  have own : buffer ∈ generated (past ++ [⟨.generateNewKeypair publisher.network, (keypair, buffer)⟩]) := by
    rw [generated, List.filterMap_append]
    exact List.mem_append_right _ List.mem_cons_self
  apply Done.ofExcept
  intro space _
  apply Done.bind (send_publishes asked _)
  · intro seen _ longer acknowledged _
    exact .returns acknowledged (generated_grows longer own)
  · intro instruction member
    rcases List.mem_append.mp member with opening | copying
    · simp only [List.mem_cons, List.not_mem_nil, or_false] at opening
      rcases opening with same | same
      · subst same
        exact .createAccount own
      · subst same
        exact .createBuffer own
    · obtain ⟨source, _, same⟩ := List.mem_map.mp copying
      subst same
      exact .setBuffer (.inr own)

theorem prepareResizeBuffers_publishes {existing : AccountInfo} (settled : Quiescent past) :
    publisher.Publishes base idl (fun seen pair => pair.1 ∈ generated seen ∧ pair.2 ∈ generated seen)
      (publisher.prepareResizeBuffers idl existing) past := by
  apply Done.ofExcept
  intro range _
  apply Done.bind (createBuffer_publishes settled)
  intro seen backup _ opened own
  apply Done.perform opened rfl (.inr own)
  intro reply looked
  apply Done.rpc
  intro saved _
  apply Done.ofExcept
  intro savedRange _
  dsimp only
  split
  next => exact .fails
  next =>
    apply Done.bind (createBuffer_publishes looked)
    intro later empty longer emptied other
    exact .returns emptied ⟨other, generated_grows ((List.prefix_append ..).trans longer) own⟩

theorem initializeIdl_publishes {prepared : PreparedIdl} (derives : deriveIdlAddresses publisher.sdk publisher.program = .ok (base, idl))
    (settled : Quiescent past) : publisher.Publishes base idl (fun _ _ => True) (publisher.initializeIdl idl prepared) past := by
  apply Done.ofExcept
  intro derived same
  cases derives.symm.trans same
  dsimp only
  rw [if_neg (not_not.mpr rfl)]
  apply Done.ofExcept
  intro payloadCapacity _
  apply Done.ofExcept
  intro dataLen fits
  have small : dataLen < 2 ^ 64 := by
    simp only [toU64] at fits
    split at fits
    next inside =>
      cases fits
      exact inside
    next => cases fits
  apply Done.bind (send_publishes settled _)
  · intro seen _ _ created _
    apply Done.bind (growAccount_publishes created fun _ chosen => by cases chosen)
    intro later _ _ grown _
    exact writeChunks_publishes grown (.inl rfl)
  · intro instruction member
    cases List.mem_singleton.mp member
    exact .create small

theorem replacePayload_publishes {prepared : PreparedIdl} {required : Nat} (settled : Quiescent past) :
    publisher.Publishes base idl (fun _ _ => True) (publisher.replacePayload idl prepared required) past := by
  apply Done.bind (createBuffer_publishes settled)
  intro seen buffer _ opened own
  apply Done.bind (writeChunks_publishes opened (.inr own))
  intro later _ _ written _
  apply Done.bind (send_publishes written _)
  · intro last _ _ swapped _
    exact .returns swapped trivial
  · intro instruction member
    cases List.mem_singleton.mp member
    exact .setBuffer (.inl rfl)

theorem resizePopulated_publishes {existing : AccountInfo} {existingJson : Json} {capacity targetCapacity : Nat} (settled : Quiescent past) :
    publisher.Publishes base idl (fun _ _ => True)
      (publisher.resizePopulated idl existing existingJson capacity targetCapacity) past := by
  apply Done.bind (prepareResizeBuffers_publishes settled)
  intro seen buffers _ opened own
  apply Done.bind (growAccount_publishes opened fun _ chosen => by cases chosen; exact own)
  intro later _ _ grown _
  apply Done.perform grown rfl (.inl rfl)
  intro reply looked
  apply Done.rpc
  intro resized _
  apply Done.ofExcept
  intro payloadRange _
  dsimp only
  split
  next => exact .fails
  next =>
    apply Done.ofExcept
    intro resizedJson _
    split
    next => exact .fails
    next => exact .returns looked trivial

theorem upgradeOrSkip_publishes {existing : AccountInfo} {prepared : PreparedIdl} {allowResize : Bool} (settled : Quiescent past) :
    publisher.Publishes base idl (fun _ _ => True) (publisher.upgradeOrSkip idl existing prepared allowResize) past := by
  apply Done.ofExcept
  intro payloadRange _
  dsimp only
  split
  next => exact .fails
  next =>
    apply Done.ofExcept
    intro existingJson _
    apply Done.ofExcept
    intro required _
    split
    next => exact .fails
    next =>
      generalize decide (existingJson = prepared.expected) = unchanged
      generalize max (max existing.data.length (prepared.requestedCapacity.getD 0)) (if unchanged then 0 else required) = targetCapacity
      have continues {seen : List (Exchange api)} (capacity : Nat) (kept : PublishOutcome) (resized : Quiescent seen) :
          publisher.Publishes base idl (fun _ _ => True) (do
            if unchanged then
              return kept
            publisher.replacePayload idl prepared required
            return .upgraded capacity) seen := by
        split
        next => exact .returns resized trivial
        next =>
          apply Done.bind (replacePayload_publishes resized)
          intro later _ _ replaced _
          exact .returns replaced trivial
      split
      next =>
        apply Done.bind (resizePopulated_publishes settled)
        intro seen capacity _ resized _
        exact continues capacity _ resized
      next => exact continues _ _ settled

/-- The last reply of an execution shows the expected document in the canonical account. -/
def Shown (publisher : Publisher) (idl : Pubkey) (expected : Json) (seen : List (Exchange api)) : Prop :=
  ∃ first account range, seen = first ++ [⟨.readAccountInfo idl, .ok account⟩] ∧
    validateIdlAccount account publisher.program (some publisher.authority) = .ok range ∧
    decompressJson publisher.codec (payloadAt account range) = .ok expected

theorem verifyPublished_publishes {expected : Json} (derives : deriveIdlAddresses publisher.sdk publisher.program = .ok (base, idl))
    (settled : Quiescent past) :
    publisher.Publishes base idl (fun seen _ => publisher.Shown idl expected seen) (publisher.verifyPublished expected) past := by
  apply Done.ofExcept
  intro derived same
  cases derives.symm.trans same
  apply Done.perform settled rfl (.inl rfl)
  intro reply looked
  apply Done.rpc
  intro account given
  subst given
  apply Done.ofExcept
  intro range valid
  apply Done.ofExcept
  intro actual read
  split
  next => exact .fails
  next agrees =>
    have expected : actual = expected := not_not.mp agrees
    subst expected
    exact .returns looked ⟨past, account, range, rfl, valid, read⟩

theorem publish_publishes (prepared : PreparedIdl) (allowResize : Bool)
    (derives : deriveIdlAddresses publisher.sdk publisher.program = .ok (base, idl)) (settled : Quiescent past) :
    publisher.Publishes base idl (fun seen _ => publisher.Shown idl prepared.expected seen)
      (publisher.publish prepared allowResize) past := by
  apply Done.ofExcept
  intro derived same
  cases derives.symm.trans same
  apply Done.ofExcept
  intro text _
  apply Done.perform settled rfl (.inl rfl)
  intro reply looked
  cases reply with
  | ok existing =>
    apply Done.bind (upgradeOrSkip_publishes looked)
    intro seen _ _ upgraded _
    exact verifyPublished_publishes derives upgraded
  | error error =>
    cases error with
    | notFound message =>
      apply Done.bind (initializeIdl_publishes derives looked)
      intro seen _ _ initialized _
      exact verifyPublished_publishes derives initialized
    | _ => exact .fails

/-- Whatever replies a publication receives, and in whatever order and however often its
transactions are executed: they reach the canonical account and its own buffers only, with
all lamports accounted for. Each was signed by nobody but the authority and those buffers,
and submitted after those before it were acknowledged; and success was read off the chain. -/
theorem publish_confined (publisher : Publisher) {base idl : Pubkey} (prepared : PreparedIdl) (allowResize : Bool)
    (trace : List (Exchange api)) (outcome : Except CliError Unit)
    (derives : deriveIdlAddresses publisher.sdk publisher.program = .ok (base, idl))
    (traced : Traces (publisher.publish prepared allowResize) trace outcome) :
    (∀ executed : List RuntimeTransaction, (∀ transaction ∈ executed, transaction ∈ submitted trace) → ∀ ledger later,
      publisher.playAll ledger executed = some later → publisher.Within idl (generated trace).toFinset ledger later) ∧
    (∀ first transaction reply rest, trace = first ++ ⟨.sendTransaction transaction, reply⟩ :: rest → Quiescent first ∧
      ∀ key ∈ transaction.message.accountKeys.take transaction.message.numRequiredSignatures,
        key = publisher.authority ∨ key ∈ generated first) ∧
    (outcome = .ok () → publisher.Shown idl prepared.expected trace) := by
  have keeps : publisher.Publishes base idl _ _ [] := publish_publishes prepared allowResize derives .nil
  obtain ⟨admits, done⟩ := keeps.traces traced
  have allowed := Monitor.admits_history.mp admits
  rw [Monitor.after_history] at done
  have sent {first rest : List (Exchange api)} {transaction : RuntimeTransaction} {reply : Except ArchError Hash}
      (split : trace = first ++ ⟨.sendTransaction transaction, reply⟩ :: rest) :
      Quiescent first ∧ publisher.Publishing base idl first (.sendTransaction transaction) := allowed first _ rest split
  refine ⟨?_, ?_, ?_⟩
  · intro executed members ledger later played
    refine Site.playAll_within base ?_ played
    intro transaction member instruction inside
    obtain ⟨exchange, position, sends⟩ := List.mem_filterMap.mp (members transaction member)
    obtain ⟨operation, reply⟩ := exchange
    cases operation with
    | sendTransaction other =>
      cases sends
      obtain ⟨first, rest, split⟩ := List.append_of_mem position
      obtain ⟨_, instructions, blockhash, same, own⟩ := sent split
      rw [same] at inside
      refine (own instruction inside).mono ?_
      intro key known
      exact List.mem_toFinset.mpr (generated_grows ⟨_, split.symm⟩ known)
    | _ => cases sends
  · intro first transaction reply rest split
    obtain ⟨settled, instructions, blockhash, same, own⟩ := sent split
    refine ⟨settled, ?_⟩
    intro key required
    rw [same] at required
    rcases publisher.sdk.messageKeys_required instructions _ key required with payer | ⟨instruction, member, signs⟩
    · cases payer
      exact .inl rfl
    · exact (own instruction member).signers key signs
  · intro succeeded
    exact (done () succeeded).2

section Example
open Reference

/-- A node that shows one document until something is submitted and another one afterwards. -/
def deceiving : Oracle api := fun past operation =>
  match operation with
  | .readAccountInfo _ => .ok (published (if (submitted past).isEmpty then plain else documented) 200)
  | .generateNewKeypair _ => (firstBuffer, publicKey firstBuffer)
  | operation => Node.pretend (chain Unit none).ledger Submission.Example.desk past operation

theorem publish_confined_deceived : ∃ (trace : List (Exchange api)) (later : Ledger),
    Traces (Reference.publisher.publish (preparedIdl documented none) false) trace (.ok ()) ∧
      Reference.publisher.playAll (chain Unit (some (published plain 200))).ledger (submitted trace) = some later ∧
      Reference.publisher.Within canonical (generated trace).toFinset (chain Unit (some (published plain 200))).ledger later ∧
      Reference.publisher.Shown canonical documented.json trace := by
  have observed : (Reference.publisher.playAll (chain Unit (some (published plain 200))).ledger
      (submitted (Fallible.against deceiving (Reference.publisher.publish (preparedIdl documented none) false)).1)).isSome ∧
      (Fallible.against deceiving (Reference.publisher.publish (preparedIdl documented none) false)).2.isOk := by
    decide +kernel
  have derived : deriveIdlAddresses Reference.publisher.sdk Reference.publisher.program = .ok (base, canonical) := derives
  have traced := Fallible.traces_against deceiving (Reference.publisher.publish (preparedIdl documented none) false)
  have succeeded : (Fallible.against deceiving (Reference.publisher.publish (preparedIdl documented none) false)).2 = .ok () := by
    cases ended : (Fallible.against deceiving (Reference.publisher.publish (preparedIdl documented none) false)).2 with
    | ok value => rfl
    | error error =>
      rw [ended] at observed
      cases observed.2
  obtain ⟨later, played⟩ := Option.isSome_iff_exists.mp observed.1
  obtain ⟨confined, _, shown⟩ := publish_confined Reference.publisher (preparedIdl documented none) false _ _ derived traced
  exact ⟨_, later, succeeded ▸ traced, played, confined _ (fun _ member => member) _ _ played, shown succeeded⟩

end Example
end Publisher
end ArchKit
