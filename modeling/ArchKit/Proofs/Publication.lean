import ArchKit.Chain
import ArchKit.Proofs.Handlers
import ArchKit.Proofs.Prepared

/-! Concurrent publications of one program by one authority. Each run owns the
buffers whose keys it generated; the canonical account is shared, and every payload
it ever holds is complete. -/

namespace ArchKit
open Effects Idl Satellite

namespace Site
variable {ι : Type} (site : Site) (idlAddress : Pubkey) (complete : Bytes → Prop)
  (admissible : ι → World ι → Request → World ι → Prop)

/-- A transaction that grows the populated canonical account and restores a backup. -/
def IsGrowth (transaction : RuntimeTransaction) (backup : Pubkey) : Prop :=
  ∃ space empty last, transaction.message.instructions =
    site.growInstructions idlAddress space (some (empty, backup)) last

/-- The transaction that publishes an upgrade. -/
def IsSwap (transaction : RuntimeTransaction) : Prop :=
  ∃ buffer, transaction.message.instructions =
    [setBufferInstruction site.program buffer idlAddress site.authority]

structure Sound (world : World ι) : Prop where
  canonical : ∃ account payload, world.ledger.accounts idlAddress = some account ∧
    site.Holds account payload ∧ complete payload
  distinct : world.addresses.Nodup
  reserved : idlAddress ∉ world.addresses

/-- A committed transaction that put another payload into the canonical account. -/
structure Replaced (client : ι) (before after : World ι) (payload : Bytes) where
  transaction : RuntimeTransaction
  ledger : Ledger
  committed : after = before.commit client transaction ledger
  admitted : admissible client before (.sendTransaction transaction) after
  cause : site.IsSwap idlAddress transaction ∨ ∃ backup saved,
    site.IsGrowth idlAddress transaction backup ∧ before.ledger.accounts backup = some saved ∧
      site.Holds saved payload

/-- What one run's request may change. -/
structure Moves (client : ι) (before after : World ι) : Prop where
  generated : ∃ drawn, after.generated = before.generated ++ drawn ∧ ∀ key ∈ drawn, key.1 = client
  log : before.log <+: after.log
  frame : ∀ address, address ≠ idlAddress → (client, address) ∉ before.generated →
    after.ledger.accounts address = before.ledger.accounts address
  canonical : ∀ account payload, before.ledger.accounts idlAddress = some account → site.Holds account payload →
    ∃ updated replacement, after.ledger.accounts idlAddress = some updated ∧ site.Holds updated replacement ∧
      account.data.length ≤ updated.data.length ∧
      (replacement = payload ∨ Nonempty (site.Replaced idlAddress admissible client before after replacement))

abbrev rules : Rules api ι (World ι) where
  service client before operation reply after :=
    Chain.Serves site.sdk site.program client before operation reply after ∧
      admissible client before operation after
  invariant := site.Sound idlAddress complete
  guarantee := site.Moves idlAddress admissible

/-- A buffer as its owner knows it. -/
structure Buffer where
  address : Pubkey
  payload : Bytes
  length : Nat

def Keeps (client : ι) (buffers : List Buffer) (world : World ι) : Prop :=
  ∀ buffer ∈ buffers, (client, buffer.address) ∈ world.generated ∧
    ∃ account, world.ledger.accounts buffer.address = some account ∧
      site.Holds account buffer.payload ∧ account.data.length = buffer.length

variable {site idlAddress complete admissible} {client : ι}

theorem Sound.apart {world : World ι} (sound : site.Sound idlAddress complete world) {address : Pubkey}
    (owned : (client, address) ∈ world.generated) : address ≠ idlAddress := by
  intro same
  subst same
  exact sound.reserved (List.mem_map_of_mem owned)

/-- A generated key belongs to one run only. -/
theorem Sound.owner {world : World ι} (sound : site.Sound idlAddress complete world) {other : ι} {address : Pubkey}
    (owned : (client, address) ∈ world.generated) (shared : (other, address) ∈ world.generated) : other = client := by
  have same := List.inj_on_of_nodup_map sound.distinct shared owned rfl
  exact congrArg Prod.fst same

theorem Moves.keeps {before after : World ι} (moves : site.Moves idlAddress admissible client before after)
    {drawn : ι × Pubkey} (member : drawn ∈ before.generated) : drawn ∈ after.generated := by
  obtain ⟨more, grown, _⟩ := moves.generated
  rw [grown]
  exact List.mem_append_left _ member

/-- A request without effect on the ledger. -/
theorem Moves.still {before after : World ι} (same : after.ledger = before.ledger) (log : before.log <+: after.log)
    (generated : ∃ drawn, after.generated = before.generated ++ drawn ∧ ∀ key ∈ drawn, key.1 = client) :
    site.Moves idlAddress admissible client before after where
  generated := generated
  log := log
  frame _ _ _ := by rw [same]
  canonical account payload found held := ⟨account, payload, by rw [same, found], held, Nat.le_refl _, .inl rfl⟩

theorem Moves.refl {world : World ι} : site.Moves idlAddress admissible client world world :=
  .still rfl (List.prefix_refl _) ⟨[], (List.append_nil _).symm, fun _ member => absurd member List.not_mem_nil⟩

/-- Other runs leave a run's own accounts alone, present or absent. -/
theorem Moves.private_account {before after : World ι} {other : ι} {address : Pubkey}
    (moves : site.Moves idlAddress admissible other before after) (different : other ≠ client)
    (sound : site.Sound idlAddress complete before) (owned : (client, address) ∈ before.generated) :
    after.ledger.accounts address = before.ledger.accounts address :=
  moves.frame address (sound.apart owned) (fun shared => different (sound.owner owned shared))

theorem stable_keeps (buffers : List Buffer) :
    (site.rules idlAddress complete admissible).Stable client (site.Keeps client buffers) := by
  intro other different before after sound _ moves holds buffer member
  obtain ⟨owned, account, found, held⟩ := holds buffer member
  exact ⟨moves.keeps owned, account, by rw [moves.private_account different sound owned, found], held⟩

theorem stable_unused (address : Pubkey) :
    (site.rules idlAddress complete admissible).Stable client
      (fun world => (client, address) ∈ world.generated ∧ world.ledger.accounts address = none) := by
  intro other different before after sound _ moves holds
  exact ⟨moves.keeps holds.1, by rw [moves.private_account different sound holds.1, holds.2]⟩

/-- A transaction of this run that leaves a complete payload in the canonical account
and touches nothing else but the run's own accounts. -/
theorem Sound.commit {world : World ι} (sound : site.Sound idlAddress complete world)
    {transaction : RuntimeTransaction} {ledger : Ledger} {account updated : AccountInfo} {payload replacement : Bytes}
    (found : world.ledger.accounts idlAddress = some account) (held : site.Holds account payload)
    (kept : ledger.accounts idlAddress = some updated) (holds : site.Holds updated replacement)
    (whole : complete replacement) (grows : account.data.length ≤ updated.data.length)
    (frame : ∀ address, address ≠ idlAddress → (client, address) ∉ world.generated →
      ledger.accounts address = world.ledger.accounts address)
    (admitted : admissible client world (.sendTransaction transaction) (world.commit client transaction ledger))
    (cause : replacement = payload ∨ site.IsSwap idlAddress transaction ∨ ∃ backup saved,
      site.IsGrowth idlAddress transaction backup ∧ world.ledger.accounts backup = some saved ∧
        site.Holds saved replacement) :
    site.Sound idlAddress complete (world.commit client transaction ledger) ∧
      site.Moves idlAddress admissible client world (world.commit client transaction ledger) := by
  refine ⟨⟨⟨updated, replacement, kept, holds, whole⟩, sound.distinct, sound.reserved⟩, ?_, ?_, frame, ?_⟩
  · exact ⟨[], (List.append_nil _).symm, fun _ member => absurd member List.not_mem_nil⟩
  · exact List.prefix_append _ _
  · intro other shown found' held'
    cases found.symm.trans found'
    cases held.unique held'
    exact ⟨updated, replacement, kept, holds, grows, cause.imp id (fun cause => ⟨⟨transaction, ledger, rfl, admitted, cause⟩⟩)⟩

/-- A transaction of this run that only touches one of its own accounts. -/
theorem Sound.local {world : World ι} (sound : site.Sound idlAddress complete world)
    {transaction : RuntimeTransaction} {ledger : Ledger} {address : Pubkey}
    (owned : (client, address) ∈ world.generated)
    (same : ∀ other, other ≠ address → ledger.accounts other = world.ledger.accounts other)
    (admitted : admissible client world (.sendTransaction transaction) (world.commit client transaction ledger)) :
    site.Sound idlAddress complete (world.commit client transaction ledger) ∧
      site.Moves idlAddress admissible client world (world.commit client transaction ledger) := by
  obtain ⟨account, payload, found, held, whole⟩ := sound.canonical
  refine sound.commit found held ((same _ (Ne.symm (sound.apart owned))).trans found) held whole (Nat.le_refl _) ?_
    admitted (.inl rfl)
  intro other _ foreign
  apply same
  intro same
  subst same
  exact foreign owned

theorem Sound.reject {world : World ι} (sound : site.Sound idlAddress complete world) (client : ι)
    (admissible : ι → World ι → Request → World ι → Prop) (transaction : RuntimeTransaction) (reason : String) :
    site.Sound idlAddress complete (world.reject client transaction reason) ∧
      site.Moves idlAddress admissible client world (world.reject client transaction reason) :=
  ⟨⟨sound.canonical, sound.distinct, sound.reserved⟩, .still rfl (List.prefix_append _ _)
    ⟨[], (List.append_nil _).symm, fun _ member => absurd member List.not_mem_nil⟩⟩

theorem Sound.generate {world : World ι} (sound : site.Sound idlAddress complete world) (client : ι)
    (admissible : ι → World ι → Request → World ι → Prop) {pubkey : Pubkey} (fresh : pubkey ∉ world.addresses) (unused : world.ledger.accounts pubkey = none) :
    site.Sound idlAddress complete (world.generate client pubkey) ∧
      site.Moves idlAddress admissible client world (world.generate client pubkey) := by
  have drawn : (world.generate client pubkey).addresses = world.addresses ++ [pubkey] := by
    simp [World.addresses, World.generate]
  refine ⟨⟨sound.canonical, ?_, ?_⟩, .still rfl (List.prefix_refl _) ⟨[(client, pubkey)], rfl, by simp⟩⟩
  · rw [drawn]
    exact List.nodup_append_comm.mp (List.nodup_cons.mpr ⟨fresh, sound.distinct⟩)
  · rw [drawn]
    intro member
    rcases List.mem_append.mp member with earlier | last
    · exact sound.reserved earlier
    · obtain ⟨account, payload, found, _⟩ := sound.canonical
      rw [List.mem_singleton.mp last, unused] at found
      cases found

end Site

namespace Publisher
open Site
variable {ι : Type} {publisher : Publisher} {idlAddress : Pubkey} {complete : Bytes → Prop}
  {admissible : ι → World ι → Request → World ι → Prop} {client : ι}

theorem achieves_rpc {α β : Type} {rules : Rules api ι (World ι)} {pre : World ι → Prop} {post : β → World ι → Prop}
    {outcome : Except ArchError α} {next : α → Cli β}
    (rest : ∀ value, outcome = .ok value → rules.Achieves client pre post (next value)) :
    rules.Achieves client pre post (Cli.rpc outcome >>= next) := by
  cases outcome with
  | ok value => exact rest value rfl
  | error error =>
    intro world _ _ value same
    cases same

theorem read_achieves {address : Pubkey} {pre : World ι → Prop} {post : Except ArchError AccountInfo → World ι → Prop}
    (stable : ∀ reply, (publisher.rules idlAddress complete admissible).Stable client (post reply))
    (truthful : ∀ world, publisher.Sound idlAddress complete world → pre world → ∀ reply : Except ArchError AccountInfo,
      (∀ account, reply = .ok account → world.ledger.accounts address = some account) →
      (∀ message, reply = .error (.notFound message) → world.ledger.accounts address = none) → post reply world) :
    (publisher.rules idlAddress complete admissible).Achieves client pre post (Cli.readAccountInfo address) := by
  apply Rules.Achieves.perform (I := api) (.readAccountInfo address) stable
  intro world reply after sound holds law
  obtain ⟨⟨same, truth⟩, _⟩ := law
  subst same
  refine ⟨sound, .refl, truthful after sound holds reply ?_ ?_⟩
  · intro account same
    subst same
    exact truth
  · intro message same
    subst same
    exact truth

/-- A transaction was recorded under its id, and if it was executed then with the given
effect. -/
def Logged (post : World ι → Prop) (id : Hash) (world : World ι) : Prop :=
  ∃ entry, world.log[id.number]? = some entry ∧ (entry.status = .processed → post world)

theorem Logged.stable {post : World ι → Prop} (kept : (publisher.rules idlAddress complete admissible).Stable client post)
    (id : Hash) : (publisher.rules idlAddress complete admissible).Stable client (Logged post id) := by
  intro other different before after sound later moves logged
  obtain ⟨entry, found, holds⟩ := logged
  obtain ⟨more, grown⟩ := moves.log
  refine ⟨entry, ?_, fun processed => kept other different before after sound later moves (holds processed)⟩
  rw [← grown, List.getElem?_append_left (List.getElem?_eq_some_iff.mp found).1, found]

theorem submit_achieves {pre : World ι → Prop} (post : World ι → Prop) {transaction : RuntimeTransaction}
    (kept : (publisher.rules idlAddress complete admissible).Stable client post)
    (commits : ∀ world ledger, publisher.Sound idlAddress complete world → pre world →
      publisher.process world.ledger transaction.message.instructions = some ledger →
      admissible client world (.sendTransaction transaction) (world.commit client transaction ledger) →
      (publisher.Sound idlAddress complete (world.commit client transaction ledger) ∧
        publisher.Moves idlAddress admissible client world (world.commit client transaction ledger)) ∧
      post (world.commit client transaction ledger)) :
    (publisher.rules idlAddress complete admissible).Achieves client pre
      (fun reply world => ∀ id, reply = .ok id → Logged post id world) (Cli.sendTransaction transaction) := by
  apply Rules.Achieves.perform (I := api) (.sendTransaction transaction)
  · intro reply other different before after sound later moves holds id same
    exact Logged.stable kept id other different before after sound later moves (holds id same)
  intro world reply after sound holds law
  obtain ⟨served, admitted⟩ := law
  rcases served with ⟨same, error, lost⟩ | ⟨received, ⟨ledger, executed, same⟩ | ⟨reason, same⟩⟩
  · subst same
    refine ⟨sound, .refl, ?_⟩
    intro id same
    cases lost.symm.trans same
  all_goals
    subst same
    have position : ∀ id, reply = .ok id → id.number = world.log.length := by
      intro id same
      rcases received with first | ⟨error, last⟩
      · cases first.symm.trans same; rfl
      · cases last.symm.trans same
  · obtain ⟨⟨later, moves⟩, reached⟩ := commits world ledger sound holds executed admitted
    refine ⟨later, moves, fun id same => ⟨⟨client, transaction, .processed⟩, ?_, fun _ => reached⟩⟩
    rw [position id same]
    exact List.getElem?_concat_length
  · obtain ⟨later, moves⟩ := sound.reject client admissible transaction reason
    refine ⟨later, moves, fun id same => ⟨⟨client, transaction, .failed reason⟩, ?_, fun processed => by cases processed⟩⟩
    rw [position id same]
    exact List.getElem?_concat_length

theorem wait_achieves (post : World ι → Prop) (id : Hash)
    (kept : (publisher.rules idlAddress complete admissible).Stable client post) :
    (publisher.rules idlAddress complete admissible).Achieves client (Logged post id)
      (fun reply world => ∀ processed, reply = .ok processed → processed.status = .processed → post world)
      (Cli.waitForProcessedTransaction id) := by
  apply Rules.Achieves.perform (I := api) (.waitForProcessedTransaction id)
  · intro reply other different before after sound later moves holds processed same status
    exact kept other different before after sound later moves (holds processed same status)
  intro world reply after sound logged law
  obtain ⟨⟨same, truth⟩, _⟩ := law
  subst same
  refine ⟨sound, .refl, ?_⟩
  intro processed same status
  obtain ⟨entry, found, agreed⟩ := truth processed same
  obtain ⟨other, found', holds⟩ := logged
  cases found.symm.trans found'
  exact holds (agreed.symm.trans status)

/-- A transaction that the program waits for has committed when the program goes on. -/
theorem send_achieves {pre : World ι → Prop} (post : World ι → Prop) {action : String} {instructions : List Instruction} {payer : Pubkey}
    {signers : List Keypair} (stable : (publisher.rules idlAddress complete admissible).Stable client pre)
    (kept : (publisher.rules idlAddress complete admissible).Stable client post)
    (commits : ∀ world transaction ledger, publisher.Sound idlAddress complete world → pre world →
      transaction.message.instructions = instructions → publisher.process world.ledger instructions = some ledger →
      admissible client world (.sendTransaction transaction) (world.commit client transaction ledger) →
      (publisher.Sound idlAddress complete (world.commit client transaction ledger) ∧
        publisher.Moves idlAddress admissible client world (world.commit client transaction ledger)) ∧
      post (world.commit client transaction ledger)) :
    (publisher.rules idlAddress complete admissible).Achieves client pre (fun _ => post)
      (publisher.send action instructions payer signers) := by
  unfold send
  apply Rules.Achieves.bind (fun _ => pre)
  · apply Rules.Achieves.perform (I := api) .getBestFinalizedBlockHash (fun _ => stable)
    intro world reply after sound holds law
    obtain ⟨same, _⟩ := law
    cases same
    exact ⟨sound, .refl, holds⟩
  intro finalized
  apply achieves_rpc
  intro blockhash _
  apply achieves_rpc
  intro transaction built
  have message : transaction.message.instructions = instructions := by
    rw [publisher.sdk.buildAndSign_message _ _ _ _ built]
    rfl
  apply Rules.Achieves.bind _
  · apply submit_achieves post kept
    intro world ledger sound holds executed admitted
    exact commits world transaction ledger sound holds message (message ▸ executed) admitted
  intro sent
  apply achieves_rpc
  intro id same
  subst same
  apply Rules.Achieves.bind _
  · exact (wait_achieves post id kept).weaken (fun _ _ logged => logged id rfl)
  intro waited
  apply achieves_rpc
  intro processed same
  subst same
  split
  · exact Rules.Achieves.throw _
  next done => exact Rules.Achieves.pure (fun world _ holds => holds processed rfl (not_not.mp done))

theorem createBuffer_achieves (buffers : List Buffer) {capacity : Nat} (long : idlHeaderLen ≤ capacity)
    {copyFrom : Option Pubkey} (source : ∀ address, copyFrom = some address → address = idlAddress) :
    (publisher.rules idlAddress complete admissible).Achieves client (publisher.Keeps client buffers)
      (fun address world => ∃ payload, ((if copyFrom.isSome then complete payload else payload = []) ∧
          ∀ buffer ∈ buffers, buffer.address ≠ address) ∧
        publisher.Keeps client (⟨address, payload, capacity⟩ :: buffers) world)
      (publisher.createBuffer capacity copyFrom) := by
  unfold createBuffer
  apply Rules.Achieves.bind (fun drawn world => (∀ buffer ∈ buffers, buffer.address ≠ drawn.2) ∧
    publisher.Keeps client buffers world ∧ (client, drawn.2) ∈ world.generated ∧ world.ledger.accounts drawn.2 = none)
  · apply Rules.Achieves.perform (I := api) (.generateNewKeypair publisher.network)
    · intro reply
      exact (Rules.Stable.const _).and ((stable_keeps buffers).and (stable_unused reply.2))
    intro world reply after sound holds law
    obtain ⟨⟨_, fresh, unused, same⟩, _⟩ := law
    subst same
    obtain ⟨later, moves⟩ := sound.generate client admissible fresh unused
    refine ⟨later, moves, ?_, ?_, ?_, unused⟩
    · intro buffer member same
      exact fresh (same ▸ List.mem_map_of_mem (holds buffer member).1)
    · intro buffer member
      exact ⟨moves.keeps (holds buffer member).1, (holds buffer member).2⟩
    · exact List.mem_append_right _ (List.mem_singleton.mpr rfl)
  intro pair
  obtain ⟨keypair, address⟩ := pair
  apply Rules.Achieves.assume
  intro apart
  apply Rules.Achieves.ofExcept
  intro space bounded
  have sized : space = capacity := by
    unfold toU64 at bounded
    split at bounded <;> cases bounded
    rfl
  subst sized
  apply Rules.Achieves.bind _
  · apply send_achieves (fun world => ∃ payload, ((if copyFrom.isSome then complete payload else payload = []) ∧
          ∀ buffer ∈ buffers, buffer.address ≠ address) ∧
        publisher.Keeps client (⟨address, payload, space⟩ :: buffers) world)
      ((stable_keeps buffers).and (stable_unused address))
    · exact Rules.Stable.exists fun payload => (Rules.Stable.const _).and (stable_keeps _)
    intro world transaction ledger sound drawn _ ran admitted
    obtain ⟨keeps, owned, unused⟩ := drawn
    obtain ⟨canonical, payload, found, held, whole⟩ := sound.canonical
    have present : ∀ source, copyFrom = some source → source ≠ address ∧ world.ledger.accounts source = some canonical := by
      intro other same
      cases source other same
      exact ⟨(sound.apart owned).symm, found⟩
    obtain ⟨account, holds, size, created, others⟩ := createBuffer_inverts _ unused long present held ran
    refine ⟨sound.local owned others admitted, if copyFrom.isSome then payload else [], ⟨?_, apart⟩, ?_⟩
    · split
      · exact whole
      · rfl
    · intro buffer member
      rcases List.mem_cons.mp member with rfl | member
      · exact ⟨owned, account, created, holds, size⟩
      · obtain ⟨mine, known, shown, rest⟩ := keeps buffer member
        exact ⟨mine, known, (others _ (apart buffer member)).trans shown, rest⟩
  · intro _
    exact Rules.Achieves.pure (fun _ _ holds => holds)

theorem readsBuffer {buffer : Buffer} {buffers : List Buffer} (member : buffer ∈ buffers) :
    (publisher.rules idlAddress complete admissible).Achieves client (publisher.Keeps client buffers)
      (fun reply world => (∀ account, reply = .ok account → publisher.Holds account buffer.payload) ∧
        publisher.Keeps client buffers world)
      (Cli.readAccountInfo buffer.address) := by
  apply read_achieves (fun _ => (Rules.Stable.const _).and (stable_keeps buffers))
  intro world _ keeps reply truth _
  refine ⟨?_, keeps⟩
  intro account same
  obtain ⟨_, known, found, held, _⟩ := keeps buffer member
  cases found.symm.trans (truth account same)
  exact held

theorem prepareResizeBuffers_achieves {existing : AccountInfo} {payload : Bytes}
    (held : publisher.Holds existing payload) :
    (publisher.rules idlAddress complete admissible).Achieves client (fun _ => True)
      (fun buffers world => ∃ size, (complete payload ∧ buffers.2 ≠ buffers.1) ∧
        publisher.Keeps client [⟨buffers.1, [], idlHeaderLen⟩, ⟨buffers.2, payload, size⟩] world)
      (publisher.prepareResizeBuffers idlAddress existing) := by
  unfold prepareResizeBuffers
  apply Rules.Achieves.ofExcept
  intro range valid
  cases (validateIdlAccount_ok held).symm.trans valid
  apply Rules.Achieves.bind _
  · apply (createBuffer_achieves [] (Nat.le_add_right _ _) (fun _ same => (Option.some.inj same).symm)).weaken
    exact fun _ _ _ _ member => absurd member List.not_mem_nil
  intro backup
  apply Rules.Achieves.exists
  intro copied
  apply Rules.Achieves.assume
  intro known
  obtain ⟨whole, -⟩ := known
  apply Rules.Achieves.bind _ (readsBuffer (List.mem_singleton.mpr rfl))
  intro reply
  apply Rules.Achieves.assume
  intro known
  apply achieves_rpc
  intro saved same
  have savedHeld := known saved same
  apply Rules.Achieves.ofExcept
  intro savedRange savedValid
  cases (validateIdlAccount_ok savedHeld).symm.trans savedValid
  rw [payloadAt_range held, payloadAt_range savedHeld]
  split
  · exact Rules.Achieves.throw_bind _
  next agreed =>
  obtain rfl : copied = payload := not_not.mp agreed
  apply Rules.Achieves.bind _ (createBuffer_achieves _ (Nat.le_refl _) (fun _ same => by cases same))
  intro empty
  apply Rules.Achieves.exists
  intro nothing
  apply Rules.Achieves.assume
  intro known
  obtain ⟨rfl, apart⟩ := known
  exact Rules.Achieves.pure (fun _ _ keeps => ⟨_, ⟨by simpa using whole, apart _ (List.mem_singleton.mpr rfl)⟩, keeps⟩)

theorem growAccount_achieves {target : Nat} (small : target < 2 ^ 64) {empty backup : Pubkey} {payload : Bytes}
    {size : Nat} (whole : complete payload) (separate : backup ≠ empty) (current : Nat) :
    (publisher.rules idlAddress complete admissible).Achieves client
      (publisher.Keeps client [⟨empty, [], idlHeaderLen⟩, ⟨backup, payload, size⟩]) (fun _ _ => True)
      (publisher.growAccount idlAddress current target (some (empty, backup))) := by
  induction left : target - current using Nat.strong_induction_on generalizing current with
  | _ left ih =>
    by_cases below : current < target
    swap
    · rw [growAccount_done publisher below]
      exact Rules.Achieves.pure (fun _ _ _ => trivial)
    rw [growAccount_step publisher below small]
    let nextSpace := current + min (target - current) idlResizeIncrement
    apply Rules.Achieves.bind _
    · apply send_achieves (fun world => nextSpace ≠ target →
        publisher.Keeps client [⟨empty, [], idlHeaderLen⟩, ⟨backup, payload, size⟩] world) (stable_keeps _) (stable_keeps _).imp
      intro world transaction ledger sound keeps message ran admitted
      obtain ⟨canonical, old, found, held, _⟩ := sound.canonical
      obtain ⟨emptyOwned, emptied, emptyFound, emptyHeld, _⟩ := keeps ⟨empty, [], idlHeaderLen⟩ (by simp)
      obtain ⟨backupOwned, saved, backupFound, backupHeld, _⟩ := keeps ⟨backup, payload, size⟩ (by simp)
      have emptyOther := sound.apart emptyOwned
      have backupOther := sound.apart backupOwned
      obtain ⟨short, fits⟩ := grow_inverts _ found held emptyFound emptyHeld backupFound backupHeld backupOther small ran
      obtain ⟨updated, became, grows⟩ := grow_restores (nextSpace == target) found held emptyFound emptyHeld backupFound
        backupHeld emptyOther backupOther small separate short fits
      cases grows.symm.trans ran
      refine ⟨sound.commit found held (grown_self emptyOther backupOther) became.holds whole ?_ ?_ admitted ?_, ?_⟩
      · rw [became.length]; omega
      · intro other different foreign
        refine grown_ne different (fun _ => ⟨?_, ?_⟩)
        · rintro rfl; exact foreign emptyOwned
        · rintro rfl; exact foreign backupOwned
      · exact .inr (.inr ⟨backup, saved, ⟨target, empty, nextSpace == target, message⟩, backupFound, backupHeld⟩)
      · intro unfinished buffer member
        have open' : ∀ other, other ≠ idlAddress → (publisher.grown world.ledger idlAddress empty backup updated emptied saved
            (nextSpace == target)).accounts other = world.ledger.accounts other :=
          fun other different => grown_ne different (fun closing => absurd (beq_iff_eq.mp closing) unfinished)
        obtain ⟨owned, account, shown, rest⟩ := keeps buffer member
        exact ⟨owned, account, (open' _ (sound.apart owned)).trans shown, rest⟩
    · intro _
      by_cases finished : nextSpace = target
      · rw [growAccount_done publisher (by omega)]
        exact Rules.Achieves.pure (fun _ _ _ => trivial)
      · apply (ih (target - nextSpace) ?_ nextSpace rfl).weaken (fun _ _ keeps => keeps finished)
        simp only [nextSpace, idlResizeIncrement]
        omega

theorem writeFrom_achieves {address : Pubkey} {total size : Nat} (pieces : List Bytes) (index : Nat) (done : Bytes)
    (small : (done ++ pieces.flatten).length < 2 ^ 32) (fits : idlHeaderLen + (done ++ pieces.flatten).length ≤ size) :
    (publisher.rules idlAddress complete admissible).Achieves client (publisher.Keeps client [⟨address, done, size⟩])
      (fun _ => publisher.Keeps client [⟨address, done ++ pieces.flatten, size⟩])
      (publisher.writeFrom address total index pieces) := by
  induction pieces generalizing index done with
  | nil =>
    rw [List.flatten_nil, List.append_nil]
    exact Rules.Achieves.pure (fun _ _ keeps => keeps)
  | cons chunk rest ih =>
    simp only [List.flatten_cons, ← List.append_assoc] at small fits ⊢
    apply Rules.Achieves.bind (fun _ => publisher.Keeps client [⟨address, done ++ chunk, size⟩])
    · apply send_achieves _ (stable_keeps _) (stable_keeps _)
      intro world transaction ledger sound keeps _ ran admitted
      obtain ⟨owned, account, found, held, sized⟩ := keeps _ (List.mem_singleton.mpr rfl)
      obtain ⟨updated, became, writes⟩ := write_appends chunk found held
        (by simp only [List.length_append] at small ⊢; omega)
        (by simp only [List.length_append] at fits sized ⊢; omega)
      cases writes.symm.trans ran
      refine ⟨sound.local owned (fun _ different => Ledger.store_ne _ _ different) admitted, ?_⟩
      intro buffer member
      cases List.mem_singleton.mp member
      exact ⟨owned, updated, Ledger.store_self .., became.holds, became.length.trans sized⟩
    · exact fun _ => ih (index + 1) (done ++ chunk) small fits

theorem replacePayload_achieves {prepared : PreparedIdl} (valid : prepared.Valid publisher.codec)
    (whole : complete prepared.compressed) :
    (publisher.rules idlAddress complete admissible).Achieves client (fun _ => True) (fun _ _ => True)
      (publisher.replacePayload idlAddress prepared (idlHeaderLen + prepared.compressed.length)) := by
  have joined := chunks_flatten maxWriteSize (by decide) prepared.compressed
  apply Rules.Achieves.bind _
  · apply (createBuffer_achieves [] (Nat.le_add_right _ _) (fun _ same => by cases same)).weaken
    exact fun _ _ _ _ member => absurd member List.not_mem_nil
  intro buffer
  apply Rules.Achieves.exists
  intro nothing
  apply Rules.Achieves.assume
  intro known
  obtain ⟨rfl, -⟩ := known
  apply Rules.Achieves.bind _
  · exact writeFrom_achieves (chunks maxWriteSize prepared.compressed) 0 []
      (by rw [List.nil_append, joined]; exact valid.small) (by rw [List.nil_append, joined])
  intro _
  rw [List.nil_append, joined]
  apply Rules.Achieves.bind _
  · apply send_achieves _ (stable_keeps _) Rules.Stable.true
    intro world transaction ledger sound keeps message ran admitted
    obtain ⟨canonical, old, found, held, _⟩ := sound.canonical
    obtain ⟨owned, account, shown, holds, _⟩ := keeps _ (List.mem_singleton.mpr rfl)
    obtain ⟨middle, copies, rest⟩ := process_cons_some ran
    cases rest
    have fits := setBuffer_fits publisher.sdk shown holds found held copies
    obtain ⟨updated, became, stores⟩ := setBuffer_copies publisher.sdk shown holds found held fits
    cases stores.symm.trans copies
    refine ⟨sound.commit found held (Ledger.store_self ..) became.holds whole became.length.ge ?_ admitted ?_, trivial⟩
    · exact fun other different _ => Ledger.store_ne _ _ different
    · exact .inr (.inl ⟨buffer, message⟩)
  · exact fun _ => Rules.Achieves.pure (fun _ _ _ => trivial)

/-- Reading the canonical account never misses it and always finds a complete payload. -/
theorem readsCanonical (expected : Json) {verified : World ι → Prop}
    (kept : (publisher.rules idlAddress complete admissible).Stable client verified)
    (decodes : ∀ world account payload, publisher.Sound idlAddress complete world →
      world.ledger.accounts idlAddress = some account → publisher.Holds account payload →
      decompressJson publisher.codec payload = .ok expected → verified world) :
    (publisher.rules idlAddress complete admissible).Achieves client (fun _ => True)
      (fun reply world => ((∀ message, reply ≠ .error (.notFound message)) ∧
          ∀ account, reply = .ok account → ∃ payload, publisher.Holds account payload) ∧
        ∀ account payload, (reply = .ok account ∧ publisher.Holds account payload ∧
          decompressJson publisher.codec payload = .ok expected) → verified world)
      (Cli.readAccountInfo idlAddress) := by
  apply read_achieves
  · intro reply
    apply (Rules.Stable.const _).and
    intro other different before after sound later moves holds account payload facts
    exact kept other different before after sound later moves (holds account payload facts)
  intro world sound _ reply truth absent
  obtain ⟨account, payload, found, held, _⟩ := sound.canonical
  refine ⟨⟨?_, ?_⟩, ?_⟩
  · intro message same
    cases found.symm.trans (absent message same)
  · intro other same
    cases found.symm.trans (truth other same)
    exact ⟨payload, held⟩
  · intro other replacement replaced
    obtain ⟨same, holds, equal⟩ := replaced
    exact decodes world other replacement sound (truth other same) holds equal

theorem readsAgain : (publisher.rules idlAddress complete admissible).Achieves client (fun _ => True)
    (fun _ _ => True) (Cli.readAccountInfo idlAddress) :=
  read_achieves (fun _ => Rules.Stable.true) (fun _ _ _ _ _ _ => trivial)

theorem resizePopulated_achieves {existing : AccountInfo} {payload : Bytes} {existingJson : Json}
    {capacity target : Nat} (held : publisher.Holds existing payload) (small : target < 2 ^ 64) :
    (publisher.rules idlAddress complete admissible).Achieves client (fun _ => True) (fun _ _ => True)
      (publisher.resizePopulated idlAddress existing existingJson capacity target) := by
  apply Rules.Achieves.bind _ (prepareResizeBuffers_achieves held)
  intro buffers
  obtain ⟨empty, backup⟩ := buffers
  apply Rules.Achieves.exists
  intro size
  apply Rules.Achieves.assume
  intro known
  obtain ⟨whole, separate⟩ := known
  apply Rules.Achieves.bind _ (growAccount_achieves small whole separate capacity)
  intro _
  apply Rules.Achieves.bind _ readsAgain
  intro reply
  apply achieves_rpc
  intro resized _
  apply Rules.Achieves.ofExcept
  intro range _
  dsimp only
  split
  · exact Rules.Achieves.throw_bind _
  apply Rules.Achieves.ofExcept
  intro resizedJson _
  split
  · exact Rules.Achieves.throw_bind _
  · exact Rules.Achieves.pure (fun _ _ _ => trivial)

theorem upgradeOrSkip_achieves {existing : AccountInfo} {payload : Bytes} {prepared : PreparedIdl} {allowResize : Bool}
    (held : publisher.Holds existing payload) (valid : prepared.Valid publisher.codec)
    (whole : complete prepared.compressed) :
    (publisher.rules idlAddress complete admissible).Achieves client (fun _ => True) (fun _ _ => True)
      (publisher.upgradeOrSkip idlAddress existing prepared allowResize) := by
  have sized := valid.requested_le
  have room := valid.room
  have bounded := valid.bounded
  unfold upgradeOrSkip
  apply Rules.Achieves.ofExcept
  intro range _
  dsimp only
  split
  · exact Rules.Achieves.throw_bind _
  apply Rules.Achieves.ofExcept
  intro existingJson _
  rw [requiredSpace_small valid.small]
  apply Rules.Achieves.ofExcept
  intro required same
  cases same
  split
  · exact Rules.Achieves.throw_bind _
  by_cases unchanged : existingJson = prepared.expected
  · simp only [unchanged, decide_true, if_true]
    split
    · apply Rules.Achieves.bind _ (resizePopulated_achieves held (by omega))
      exact fun _ => Rules.Achieves.pure (fun _ _ _ => trivial)
    · exact Rules.Achieves.pure (fun _ _ _ => trivial)
  · have finish : ∀ capacity, (publisher.rules idlAddress complete admissible).Achieves client (fun _ => True)
        (fun _ _ => True) (do
          publisher.replacePayload idlAddress prepared (idlHeaderLen + prepared.compressed.length)
          return PublishOutcome.upgraded capacity) := by
      intro capacity
      apply Rules.Achieves.bind _ (replacePayload_achieves valid whole)
      exact fun _ => Rules.Achieves.pure (fun _ _ _ => trivial)
    simp only [unchanged, decide_false, Bool.false_eq_true, if_false]
    split
    · exact Rules.Achieves.bind _ (resizePopulated_achieves held (by omega)) finish
    · exact finish _

/-- A run that returns has seen its document in the canonical account. -/
theorem publish_achieves {base : Pubkey} {prepared : PreparedIdl} {allowResize : Bool} {verified : World ι → Prop}
    (derived : deriveIdlAddresses publisher.sdk publisher.program = .ok (base, idlAddress))
    (valid : prepared.Valid publisher.codec) (whole : complete prepared.compressed)
    (kept : (publisher.rules idlAddress complete admissible).Stable client verified)
    (decodes : ∀ world account payload, publisher.Sound idlAddress complete world →
      world.ledger.accounts idlAddress = some account → publisher.Holds account payload →
      decompressJson publisher.codec payload = .ok prepared.expected → verified world) :
    (publisher.rules idlAddress complete admissible).Achieves client (fun _ => True) (fun _ => verified)
      (publisher.publish prepared allowResize) := by
  have verifies : (publisher.rules idlAddress complete admissible).Achieves client (fun _ => True) (fun _ => verified)
      (publisher.verifyPublished prepared.expected) := by
    unfold verifyPublished
    rw [derived]
    apply Rules.Achieves.ofExcept
    intro addresses same
    cases same
    apply Rules.Achieves.bind _ (readsCanonical _ kept decodes)
    intro reply
    apply Rules.Achieves.assume
    intro both
    obtain ⟨-, known⟩ := both
    apply achieves_rpc
    intro account same
    subst same
    obtain ⟨payload, held⟩ := known account rfl
    rw [validateIdlAccount_ok held]
    apply Rules.Achieves.ofExcept
    intro range same
    cases same
    rw [payloadAt_range held]
    apply Rules.Achieves.ofExcept
    intro actual read
    split
    · exact Rules.Achieves.throw _
    next same =>
      obtain rfl := not_not.mp same
      exact Rules.Achieves.pure (fun _ _ holds => holds account payload ⟨rfl, held, read⟩)
  unfold publish
  rw [derived]
  apply Rules.Achieves.ofExcept
  intro addresses same
  cases same
  apply Rules.Achieves.ofExcept
  intro _ _
  apply Rules.Achieves.bind _ (readsCanonical .null Rules.Stable.true (fun _ _ _ _ _ _ _ => trivial))
  intro reply
  apply Rules.Achieves.weaken (Rules.Achieves.assume ?_) (fun _ _ holds => ⟨holds.1, trivial⟩)
  intro both
  obtain ⟨present, known⟩ := both
  split
  next existing =>
    obtain ⟨payload, held⟩ := known existing rfl
    apply Rules.Achieves.bind _ (upgradeOrSkip_achieves held valid whole)
    exact fun _ => verifies
  next message => exact absurd rfl (present message)
  next => exact Rules.Achieves.throw_bind _

end Publisher
end ArchKit
