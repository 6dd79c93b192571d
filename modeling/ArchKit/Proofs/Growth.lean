import ArchKit.Proofs.Batches
import ArchKit.Proofs.Prepared
import ArchKit.Reference

/-! The growth of an account: the size that the client counts and the size on the chain. -/

namespace ArchKit
open Effects Idl Satellite Site Fallible

/-- The accounts an instruction refers to. -/
def Instruction.addresses : Instruction → List Pubkey
  | .createAccount payer account _ _ _ => [payer, account]
  | .assign account _ => [account]
  | .invoke _ accounts _ => accounts.map AccountMeta.pubkey

/-- The account that an instruction closes. -/
def Site.closed? (site : Site) : Instruction → Option Pubkey
  | .invoke programId accounts data =>
    if programId = site.program ∧ decode data = some .close then (accounts.map AccountMeta.pubkey).head? else none
  | _ => none

namespace Publisher
variable {ι : Type} (publisher : Publisher) (client : ι)

/-- The number of growth transactions between two sizes. -/
def growthSteps (current target : Nat) : Nat := (target - current + (idlResizeIncrement - 1)) / idlResizeIncrement

/-- The client's current space after some of the growth transactions. -/
def spaceAfter (initial target count : Nat) : Nat := min target (initial + idlResizeIncrement * count)

section Space
variable {initial target count : Nat}

theorem spaceAfter_zero (within : initial ≤ target) : spaceAfter initial target 0 = initial := by
  simp only [spaceAfter, Nat.mul_zero, Nat.add_zero]
  omega

theorem spaceAfter_succ : spaceAfter initial target (count + 1) =
    spaceAfter initial target count + min (target - spaceAfter initial target count) idlResizeIncrement := by
  simp only [spaceAfter, idlResizeIncrement]
  omega

theorem spaceAfter_lt : spaceAfter initial target count < target ↔ count < growthSteps initial target := by
  simp only [spaceAfter, growthSteps, idlResizeIncrement]
  omega

theorem spaceAfter_le : spaceAfter initial target count ≤ target := Nat.min_le_left ..

theorem spaceAfter_eq : spaceAfter initial target count = target ↔ growthSteps initial target ≤ count := by
  have below : spaceAfter initial target count < target ↔ count < growthSteps initial target := spaceAfter_lt
  have within : spaceAfter initial target count ≤ target := spaceAfter_le
  omega

end Space

section Batches
variable (idlAddress : Pubkey) (initial target : Nat) (buffers : Option (Pubkey × Pubkey))

/-- The growth transaction after a number of others. -/
def growBatch (count : Nat) : Batch :=
  let nextSpace := spaceAfter initial target (count + 1)
  ⟨s!"IDL resize {nextSpace}/{target}", publisher.growInstructions idlAddress target buffers (nextSpace == target)⟩

def growBatches (count : Nat) : List Batch := (List.range count).map (publisher.growBatch idlAddress initial target buffers)

theorem growBatches_succ (count : Nat) : publisher.growBatches idlAddress initial target buffers (count + 1) =
    publisher.growBatches idlAddress initial target buffers count ++
      [publisher.growBatch idlAddress initial target buffers count] := by
  rw [growBatches, List.range_succ, List.map_append]
  rfl

theorem growBatches_signers {count : Nat} : ∀ batch ∈ publisher.growBatches idlAddress initial target buffers count,
    ∀ instruction ∈ batch.instructions, instruction.signers = [publisher.authority] := by
  intro batch member
  obtain ⟨step, _, same⟩ := List.mem_map.mp member
  subst same
  exact growInstructions_signers

variable {publisher idlAddress initial target buffers}

/-- The loop sends the transactions one by one and carries the space that it has counted. -/
theorem growAccount_eq {count : Nat} (within : initial ≤ target) (small : target < 2 ^ 64)
    (bounded : count ≤ growthSteps initial target) :
    publisher.growAccount idlAddress initial target buffers =
      publisher.sendAll (publisher.growBatches idlAddress initial target buffers count) >>= fun _ =>
        publisher.growAccount idlAddress (spaceAfter initial target count) target buffers := by
  induction count with
  | zero =>
    rw [spaceAfter_zero within]
    rfl
  | succ count ih =>
    have below : spaceAfter initial target count < target := spaceAfter_lt.mpr (by omega)
    rw [ih (by omega), growBatches_succ, sendAll_append, bind_assoc]
    congr 1
    funext _
    rw [sendAll_single_bind, growAccount_step publisher below small, ← spaceAfter_succ]
    rfl

/-- The whole loop is the list of its transactions. -/
theorem growAccount_sendAll (within : initial ≤ target) (small : target < 2 ^ 64) :
    publisher.growAccount idlAddress initial target buffers =
      publisher.sendAll (publisher.growBatches idlAddress initial target buffers (growthSteps initial target)) := by
  have finished : publisher.growAccount idlAddress (spaceAfter initial target (growthSteps initial target)) target buffers =
      pure () := growAccount_done publisher (by rw [spaceAfter_eq.mpr (Nat.le_refl _)]; omega)
  rw [growAccount_eq within small (Nat.le_refl _), finished]
  exact bind_pure _

theorem growBatches_length {count : Nat} :
    ((publisher.growBatches idlAddress initial target buffers count).map Batch.instructions).length = count := by
  rw [List.length_map, growBatches, List.length_map, List.length_range]

theorem growBatches_take {count : Nat} (bounded : count ≤ growthSteps initial target) :
    (publisher.growBatches idlAddress initial target buffers (growthSteps initial target)).take count =
      publisher.growBatches idlAddress initial target buffers count := by
  rw [growBatches, ← List.map_take, List.take_range, Nat.min_eq_left bounded]
  rfl

end Batches

/-- The chain and the client after some of the growth transactions. -/
structure Lockstep (idlAddress : Pubkey) (initial target : Nat) (buffers : Option (Pubkey × Pubkey)) (payload : Bytes)
    (count : Nat) (ledger : Ledger) : Prop where
  shown : ∃ updated, ledger.accounts idlAddress = some updated ∧
    updated.data.length = spaceAfter initial target count ∧ publisher.Holds updated payload
  restorable : count < growthSteps initial target → publisher.Restorable idlAddress payload ledger buffers

/-- What growth has done to the ledger: it has touched the account and at the end the buffers. -/
structure Extended (idlAddress : Pubkey) (buffers : Option (Pubkey × Pubkey)) (finished : Prop) (before after : Ledger) : Prop where
  confined : Ledger.Confined publisher.authority (touched idlAddress buffers) before after
  closed : finished → ∀ pair, buffers = some pair → after.accounts pair.1 = none ∧ after.accounts pair.2 = none

section Run
variable {publisher} {idlAddress : Pubkey} {target : Nat} {buffers : Option (Pubkey × Pubkey)} {payload : Bytes}
  {ledger : Ledger} {account : AccountInfo}

theorem Lockstep.step {initial count : Nat} (small : target < 2 ^ 64) (bounded : count < growthSteps initial target)
    (lockstep : publisher.Lockstep idlAddress initial target buffers payload count ledger) :
    ∃ after, publisher.process ledger (publisher.growBatch idlAddress initial target buffers count).instructions = some after ∧
      publisher.Lockstep idlAddress initial target buffers payload (count + 1) after ∧
      publisher.Extended idlAddress buffers (count + 1 = growthSteps initial target) ledger after := by
  obtain ⟨⟨current, found, size, held⟩, restorable⟩ := lockstep
  obtain ⟨updated, after, became, executes, shown, confined, closes⟩ :=
    grow_executes buffers (spaceAfter initial target (count + 1) == target) found held (restorable bounded) small
      (by rw [size]; exact spaceAfter_le)
  have length := became.length
  rw [size, ← spaceAfter_succ] at length
  refine ⟨after, executes, ⟨⟨updated, shown, length, became.holds⟩, ?_⟩, ?_, ?_⟩
  · intro unfinished
    have early : (spaceAfter initial target (count + 1) == target) = false :=
      beq_eq_false_iff_ne.mpr (Nat.ne_of_lt (spaceAfter_lt.mpr unfinished))
    rw [early] at confined
    exact (restorable bounded).kept fun other different => confined.ne different
  · apply confined.widen
    split
    · exact Finset.Subset.refl _
    · exact touched_self ..
  · intro last
    exact closes (beq_iff_eq.mpr (spaceAfter_eq.mpr (Nat.le_of_eq last.symm)))

theorem growBatches_replay {count : Nat} (small : target < 2 ^ 64) (within : account.data.length ≤ target)
    (found : ledger.accounts idlAddress = some account) (held : publisher.Holds account payload)
    (restorable : publisher.Restorable idlAddress payload ledger buffers)
    (bounded : count ≤ growthSteps account.data.length target) :
    ∃ after, publisher.replay ledger (publisher.growBatches idlAddress account.data.length target buffers count) = some after ∧
      publisher.Lockstep idlAddress account.data.length target buffers payload count after ∧
      publisher.Extended idlAddress buffers (0 < count ∧ count = growthSteps account.data.length target) ledger after := by
  induction count with
  | zero =>
    refine ⟨ledger, rfl, ⟨⟨account, found, (spaceAfter_zero within).symm, held⟩, fun _ => restorable⟩, .refl, ?_⟩
    exact fun finished => absurd finished.1 (Nat.lt_irrefl 0)
  | succ count ih =>
    obtain ⟨middle, replayed, lockstep, earlier⟩ := ih (by omega)
    obtain ⟨after, executes, next, last⟩ := lockstep.step small (by omega)
    refine ⟨after, ?_, next, earlier.confined.trans last.confined, fun finished => last.closed finished.2⟩
    rw [growBatches_succ, replay_append, replayed, Option.bind_some]
    exact Option.bind_eq_some_iff.mpr ⟨after, executes, rfl⟩

section Closing
variable {site : Site} {idlAddress : Pubkey} {space : Nat} (empty backup : Pubkey)

theorem closed_set (buffer target : Pubkey) :
    site.closed? (setBufferInstruction site.program buffer target site.authority) = none := by
  simp [closed?, setBufferInstruction, decode_setBuffer]

theorem closed_resize (small : space < 2 ^ 64) : site.closed? (site.resizeInstruction idlAddress space) = none := by
  simp [closed?, resizeInstruction, decode_resizeIxData small]

theorem closed_close (buffer : Pubkey) :
    site.closed? (closeBufferInstruction site.program buffer site.authority) = some buffer := by
  simp [closed?, closeBufferInstruction, decode_close, AccountMeta.new]

theorem grow_opening (small : space < 2 ^ 64) :
    ∀ instruction ∈ [setBufferInstruction site.program empty idlAddress site.authority,
      site.resizeInstruction idlAddress space, setBufferInstruction site.program backup idlAddress site.authority],
      site.closed? instruction = none := by
  intro instruction member
  simp only [List.mem_cons, List.not_mem_nil, or_false] at member
  rcases member with same | same | same
  all_goals subst same
  · exact closed_set ..
  · exact closed_resize small
  · exact closed_set ..

/-- Everything that the growth sends, one list for each transaction. -/
def growTransactions (publisher : Publisher) (idlAddress : Pubkey) (initial target : Nat) (buffers : Option (Pubkey × Pubkey)) :
    List (List Instruction) :=
  (publisher.growBatches idlAddress initial target buffers (growthSteps initial target)).map Batch.instructions

variable {initial : Nat}

/-- Only the last transaction closes the buffers, when it has restored the payload. -/
theorem growTransactions_close (publisher : Publisher) (idlAddress empty backup : Pubkey) (small : target < 2 ^ 64) (below : initial < target) :
    ∃ earlier opening, publisher.growTransactions idlAddress initial target (some (empty, backup)) =
        earlier ++ [opening ++ [setBufferInstruction publisher.program backup idlAddress publisher.authority,
          closeBufferInstruction publisher.program empty publisher.authority,
          closeBufferInstruction publisher.program backup publisher.authority]] ∧
      ∀ instruction ∈ earlier.flatten ++ opening, publisher.closed? instruction = none := by
  obtain ⟨steps, count⟩ : ∃ steps, growthSteps initial target = steps + 1 := by
    refine ⟨growthSteps initial target - 1, ?_⟩
    simp only [growthSteps, idlResizeIncrement]
    omega
  have early : ∀ step < steps, (spaceAfter initial target (step + 1) == target) = false := by
    intro step before
    exact beq_eq_false_iff_ne.mpr (Nat.ne_of_lt (spaceAfter_lt.mpr (by omega)))
  have last : (spaceAfter initial target (steps + 1) == target) = true :=
    beq_iff_eq.mpr (spaceAfter_eq.mpr (Nat.le_of_eq count))
  refine ⟨(publisher.growBatches idlAddress initial target (some (empty, backup)) steps).map Batch.instructions,
    [setBufferInstruction publisher.program empty idlAddress publisher.authority,
      publisher.resizeInstruction idlAddress target], ?_, ?_⟩
  · rw [growTransactions, count, growBatches_succ, List.map_append]
    simp [growBatch, growInstructions, last]
  · intro instruction member
    rcases List.mem_append.mp member with before | opening
    · obtain ⟨instructions, listed, inside⟩ := List.mem_flatten.mp before
      obtain ⟨batch, batched, same⟩ := List.mem_map.mp listed
      obtain ⟨step, ranged, made⟩ := List.mem_map.mp batched
      subst same made
      simp only [growBatch, early step (List.mem_range.mp ranged), growInstructions] at inside
      exact grow_opening empty backup small instruction (by simpa using inside)
    · exact grow_opening empty backup small instruction
        (List.mem_append_left [setBufferInstruction publisher.program backup idlAddress publisher.authority] opening)

/-- Nothing refers to a buffer once it is closed. -/
theorem growTransactions_final (publisher : Publisher) (idlAddress : Pubkey) {empty backup : Pubkey} (small : target < 2 ^ 64)
    (below : initial < target) (separate : backup ≠ empty) (wallet : empty ≠ publisher.authority) :
    (publisher.growTransactions idlAddress initial target (some (empty, backup))).flatten.Pairwise fun earlier later =>
      ∀ buffer, publisher.closed? earlier = some buffer → buffer ∉ later.addresses := by
  obtain ⟨earlier, opening, same, quiet⟩ := growTransactions_close publisher idlAddress empty backup small below
  have flat : (publisher.growTransactions idlAddress initial target (some (empty, backup))).flatten =
      (earlier.flatten ++ opening ++ [setBufferInstruction publisher.program backup idlAddress publisher.authority]) ++
        [closeBufferInstruction publisher.program empty publisher.authority,
          closeBufferInstruction publisher.program backup publisher.authority] := by
    simp [same]
  have open' : ∀ instruction ∈ earlier.flatten ++ opening ++
      [setBufferInstruction publisher.program backup idlAddress publisher.authority], publisher.closed? instruction = none := by
    intro instruction member
    rcases List.mem_append.mp member with before | restore
    · exact quiet instruction before
    · cases List.mem_singleton.mp restore
      exact closed_set ..
  rw [flat, List.pairwise_append]
  refine ⟨?_, ?_, ?_⟩
  · apply List.pairwise_of_forall_mem_list
    intro first inside later _ buffer closed
    cases (open' first inside).symm.trans closed
  · rw [List.pairwise_pair]
    intro buffer closed
    rw [closed_close] at closed
    cases closed
    simp [Instruction.addresses, closeBufferInstruction, AccountMeta.new, AccountMeta.newReadonly, separate.symm, wallet]
  · intro first inside later _ buffer closed
    cases (open' first inside).symm.trans closed

end Closing

variable {world : World ι} (signed : publisher.sdk.xOnlyPublicKey publisher.authorityKeypair = publisher.authority)
include signed

theorem growBatches_returns {count : Nat} (small : target < 2 ^ 64) (within : account.data.length ≤ target)
    (found : world.ledger.accounts idlAddress = some account) (held : publisher.Holds account payload)
    (restorable : publisher.Restorable idlAddress payload world.ledger buffers)
    (bounded : count ≤ growthSteps account.data.length target) :
    Returns (publisher.node client) (publisher.sendAll
        (publisher.growBatches idlAddress account.data.length target buffers count))
      (fun _ after => publisher.Lockstep idlAddress account.data.length target buffers payload count after.ledger ∧
        publisher.Extended idlAddress buffers (0 < count ∧ count = growthSteps account.data.length target)
          world.ledger after.ledger ∧
        Committed client world after
          ((publisher.growBatches idlAddress account.data.length target buffers count).map Batch.instructions)) world := by
  obtain ⟨ledger, replayed, lockstep, extended⟩ := growBatches_replay small within found held restorable bounded
  apply (sendAll_returns client signed replayed (growBatches_signers _ _ _ _ _)).mono
  intro outcome after holds
  obtain ⟨value, returned, same, committed⟩ := holds
  subst same
  exact ⟨value, returned, lockstep, extended, committed⟩

theorem growAccount_lockstep (small : target < 2 ^ 64) (found : world.ledger.accounts idlAddress = some account)
    (held : publisher.Holds account payload) (restorable : publisher.Restorable idlAddress payload world.ledger buffers) :
    (account.data.length < target →
      (∃ after, Executes (publisher.node client)
        (publisher.growAccount idlAddress account.data.length target buffers) world (.ok ()) after) ∧
      (∀ count ≤ growthSteps account.data.length target,
        publisher.growAccount idlAddress account.data.length target buffers =
          publisher.sendAll (publisher.growBatches idlAddress account.data.length target buffers count) >>= fun _ =>
            publisher.growAccount idlAddress (spaceAfter account.data.length target count) target buffers) ∧
      (∀ outcome after, Executes (publisher.node client)
          (publisher.growAccount idlAddress account.data.length target buffers) world outcome after →
        outcome = .ok () ∧
        Committed client world after (publisher.growTransactions idlAddress account.data.length target buffers) ∧
        (publisher.growTransactions idlAddress account.data.length target buffers).length =
          (target - account.data.length + 9999) / 10000 ∧
        (∃ updated, after.ledger.accounts idlAddress = some updated ∧ updated.data.length = target ∧
          publisher.Holds updated payload) ∧
        ∀ count ≤ growthSteps account.data.length target, ∃ middle,
          Executes (publisher.node client) (publisher.sendAll
            (publisher.growBatches idlAddress account.data.length target buffers count)) world (.ok ()) middle ∧
          Executes (publisher.node client) (publisher.growAccount idlAddress
            (spaceAfter account.data.length target count) target buffers) middle outcome after ∧
          Committed client world middle
            ((publisher.growTransactions idlAddress account.data.length target buffers).take count) ∧
          publisher.Lockstep idlAddress account.data.length target buffers payload count middle.ledger) ∧
      ∀ empty backup, buffers = some (empty, backup) →
        (∃ earlier opening, publisher.growTransactions idlAddress account.data.length target buffers =
            earlier ++ [opening ++ [setBufferInstruction publisher.program backup idlAddress publisher.authority,
              closeBufferInstruction publisher.program empty publisher.authority,
              closeBufferInstruction publisher.program backup publisher.authority]] ∧
          ∀ instruction ∈ earlier.flatten ++ opening, publisher.closed? instruction = none) ∧
        -- a closing instruction names the authority; `createBuffer` gives `empty` a fresh key of its own
        (empty ≠ publisher.authority →
          (publisher.growTransactions idlAddress account.data.length target buffers).flatten.Pairwise
            fun earlier later => ∀ buffer, publisher.closed? earlier = some buffer → buffer ∉ later.addresses)) ∧
    (target ≤ account.data.length → publisher.growAccount idlAddress account.data.length target buffers = pure ()) := by
  refine ⟨?_, fun reached => growAccount_done publisher (by omega)⟩
  intro below
  have within : account.data.length ≤ target := Nat.le_of_lt below
  refine ⟨?_, fun count bounded => growAccount_eq within small bounded, ?_, ?_⟩
  · obtain ⟨ledger, replayed, _⟩ := growBatches_replay small within found held restorable
      (Nat.le_refl (growthSteps account.data.length target))
    rw [growAccount_sendAll within small]
    exact sendAll_executes client signed replayed (growBatches_signers _ _ _ _ _)
  · intro outcome after executed
    have passes : ∀ count ≤ growthSteps account.data.length target, ∃ middle,
        Executes (publisher.node client) (publisher.sendAll
          (publisher.growBatches idlAddress account.data.length target buffers count)) world (.ok ()) middle ∧
        Executes (publisher.node client) (publisher.growAccount idlAddress
          (spaceAfter account.data.length target count) target buffers) middle outcome after ∧
        Committed client world middle
          ((publisher.growTransactions idlAddress account.data.length target buffers).take count) ∧
        publisher.Lockstep idlAddress account.data.length target buffers payload count middle.ledger := by
      intro count bounded
      rw [growAccount_eq within small bounded] at executed
      obtain ⟨_, middle, ⟨lockstep, _, committed⟩, first, rest⟩ :=
        (growBatches_returns client signed small within found held restorable bounded).executes_bind executed
      rw [growTransactions, ← List.map_take, growBatches_take bounded]
      exact ⟨middle, first, rest, committed, lockstep⟩
    obtain ⟨last, _, rest, committed, lockstep⟩ := passes _ (Nat.le_refl _)
    rw [spaceAfter_eq.mpr (Nat.le_refl _), growAccount_done publisher (Nat.lt_irrefl target)] at rest
    cases rest
    obtain ⟨updated, shown, size, holds⟩ := lockstep.shown
    have count : (publisher.growTransactions idlAddress account.data.length target buffers).length =
      growthSteps account.data.length target := growBatches_length
    rw [List.take_of_length_le (Nat.le_of_eq count)] at committed
    exact ⟨rfl, committed, count, ⟨updated, shown, size.trans (spaceAfter_eq.mpr (Nat.le_refl _)), holds⟩, passes⟩
  · intro empty backup same
    subst same
    exact ⟨growTransactions_close publisher idlAddress empty backup small below,
      growTransactions_final publisher idlAddress small below restorable.1.2.2⟩

end Run

namespace Example
open Reference

def emptied : AccountInfo := ⟨0, program, Satellite.header site.authority 0 ++ List.replicate 156 0, false⟩

/-- The canonical account with a buffer that is empty and one that holds its payload. -/
def backedUp : World Unit :=
  { chain Unit none with
    ledger := ((chain Unit (some (published plain 200))).ledger.store (publicKey firstBuffer) emptied).store
      (publicKey secondBuffer) (published plain 200) }

theorem published_holds : Reference.publisher.Holds (published plain 200) plain.compressed :=
  ⟨rfl, by decide, _, rfl⟩

theorem backedUp_restorable : Reference.publisher.Restorable canonical plain.compressed backedUp.ledger
    (some (publicKey firstBuffer, publicKey secondBuffer)) := by
  have apart : publicKey secondBuffer ≠ publicKey firstBuffer := by decide +kernel
  refine ⟨⟨by decide +kernel, by decide +kernel, apart⟩, ⟨emptied, ?_, Holds.fresh ..⟩, published plain 200, ?_, published_holds⟩
  · exact (Ledger.store_ne _ _ apart.symm).trans (Ledger.store_self ..)
  · exact Ledger.store_self ..

end Example

open Example Reference in
theorem growAccount_lockstep_backedUp : ∃ after : World Unit,
    Executes (Reference.publisher.node ()) (Reference.publisher.growAccount canonical 200 30000
      (some (publicKey firstBuffer, publicKey secondBuffer))) backedUp (.ok ()) after ∧
    after.log.length = 3 ∧ ∃ updated, after.ledger.accounts canonical = some updated ∧ updated.data.length = 30000 := by
  have found : backedUp.ledger.accounts canonical = some (published plain 200) := by
    refine (Ledger.store_ne _ _ backedUp_restorable.1.2.1.symm).trans ?_
    exact (Ledger.store_ne _ _ backedUp_restorable.1.1.symm).trans rfl
  have size : (published plain 200).data.length = 200 := by decide +kernel
  obtain ⟨grows, _⟩ := growAccount_lockstep () Reference.signed (show 30000 < 2 ^ 64 by decide) found
    published_holds backedUp_restorable
  rw [size] at grows
  obtain ⟨⟨after, executed⟩, _, always, _⟩ := grows (by decide)
  obtain ⟨_, ⟨entries, logged, listed, _⟩, count, ⟨updated, shown, grown, _⟩, _⟩ := always _ _ executed
  refine ⟨after, executed, ?_, updated, shown, grown⟩
  rw [← listed, List.length_map] at count
  rw [logged]
  exact count

end Publisher
end ArchKit
