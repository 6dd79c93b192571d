import ArchKit.Proofs.Batches
import ArchKit.Proofs.Prepared
import ArchKit.Reference

/-! An upload in pieces. A write names no offset: the order of the writes and their lengths
alone put the bytes together again. -/

namespace ArchKit
open Radix Effects Idl Satellite Site Fallible

namespace Idl

/-- A part of an upload, with the range that the command reports. -/
structure Piece where
  start : Nat
  stop : Nat
  chunk : Bytes

def Piece.ofChunk (chunk : Bytes) (index : Nat) : Piece :=
  ⟨index * maxWriteSize, index * maxWriteSize + chunk.length, chunk⟩

def pieces (bytes : Bytes) : List Piece := ((chunks maxWriteSize bytes).zipIdx).map fun (chunk, index) => .ofChunk chunk index

/-- The pieces cover the bytes from a position to the end, each from where the one before it stops. -/
inductive Tiles (bytes : Bytes) : Nat → List Piece → Prop where
  | done : Tiles bytes bytes.length []
  | piece {piece : Piece} {pieces : List Piece} (nonempty : piece.start < piece.stop) (inside : piece.stop ≤ bytes.length)
      (own : piece.chunk = slice bytes piece.start piece.stop) (rest : Tiles bytes piece.stop pieces) :
      Tiles bytes piece.start (piece :: pieces)

theorem tiles_from {bytes rest : Bytes} {index : Nat} (front : Bytes) (split : bytes = front ++ rest)
    (aligned : rest = [] ∨ front.length = index * maxWriteSize) :
    Tiles bytes front.length (((chunks maxWriteSize rest).zipIdx index).map fun (chunk, index) => .ofChunk chunk index) := by
  induction left : rest.length using Nat.strong_induction_on generalizing front rest index with
  | _ left ih =>
    by_cases empty : rest = []
    · rw [chunks, if_pos (.inl empty)]
      have whole : front.length = bytes.length := by rw [split, empty, List.append_nil]
      rw [whole]
      exact .done
    · have start : front.length = index * maxWriteSize := aligned.resolve_left empty
      have some : 0 < rest.length := List.length_pos_iff.mpr empty
      have width : (rest.take maxWriteSize).length = min maxWriteSize rest.length := List.length_take
      have grouped : bytes = front ++ rest.take maxWriteSize ++ rest.drop maxWriteSize := by
        rw [List.append_assoc, List.take_append_drop, split]
      have total : bytes.length = front.length + rest.length := by rw [split, List.length_append]
      have reached : (front ++ rest.take maxWriteSize).length = index * maxWriteSize + (rest.take maxWriteSize).length := by
        rw [List.length_append, start]
      have next : Tiles bytes (front ++ rest.take maxWriteSize).length
          (((chunks maxWriteSize (rest.drop maxWriteSize)).zipIdx (index + 1)).map fun (chunk, index) => .ofChunk chunk index) := by
        refine ih (rest.drop maxWriteSize).length ?_ _ grouped ?_ rfl
        · rw [List.length_drop]
          have positive : 0 < maxWriteSize := by decide
          omega
        · by_cases last : rest.length ≤ maxWriteSize
          · exact .inl (List.drop_eq_nil_iff.mpr last)
          · right
            rw [reached, width, Nat.succ_mul]
            omega
      rw [chunks, if_neg (not_or.mpr ⟨empty, by decide⟩), List.zipIdx_cons, List.map_cons, start]
      rw [reached] at next
      change Tiles bytes (Piece.ofChunk (rest.take maxWriteSize) index).stop _ at next
      refine Tiles.piece ?_ ?_ ?_ next
      · have positive : 0 < maxWriteSize := by decide
        simp only [Piece.ofChunk, width]
        omega
      · simp only [Piece.ofChunk, width, total]
        omega
      · rw [grouped]
        exact (slice_middle _ _ _ start.symm (start ▸ rfl)).symm

theorem pieces_tile (bytes : Bytes) : Tiles bytes 0 (pieces bytes) :=
  tiles_from [] rfl (.inr (Nat.zero_mul _).symm)

theorem pieces_chunks (bytes : Bytes) : (pieces bytes).map Piece.chunk = chunks maxWriteSize bytes := by
  rw [pieces, List.map_map]
  exact List.zipIdx_map_fst ..

/-- The length that a write declares is read back from its data. -/
theorem writeIxData_length {chunk : Bytes} (small : chunk.length < 2 ^ 32) :
    ofLittleEndian (slice (writeIxData chunk) 9 13) = chunk.length := by
  have field : slice (writeIxData chunk) 9 13 = toLittleEndian 4 chunk.length :=
    slice_middle (idlIxTagLe ++ [tagWrite]) _ chunk rfl (by simp [idlIxTagLe])
  rw [field]
  exact ofLittleEndian_to (by simpa using small)

end Idl

namespace Publisher
variable (publisher : Publisher) (target : Pubkey)

def writeBatch (total : Nat) (piece : Piece) : Batch :=
  ⟨s!"IDL write {piece.start}-{piece.stop}/{total}", [publisher.writeInstruction target piece.chunk]⟩

def writeBatches (compressed : Bytes) : List Batch := (pieces compressed).map (publisher.writeBatch target compressed.length)

variable {publisher target}

theorem writeFrom_eq {total index : Nat} {rest : List Bytes} : publisher.writeFrom target total index rest =
    publisher.sendAll (((rest.zipIdx index).map fun (chunk, index) => Piece.ofChunk chunk index).map
      (publisher.writeBatch target total)) := by
  induction rest generalizing index with
  | nil => rfl
  | cons chunk others ih =>
    change (publisher.send _ _ _ _ >>= fun _ => publisher.writeFrom target total (index + 1) others) = _
    rw [ih]
    rfl

theorem writeChunks_eq (compressed : Bytes) :
    publisher.writeChunks target compressed = publisher.sendAll (publisher.writeBatches target compressed) := writeFrom_eq

/-- Chunks appended one after the other. -/
theorem write_replays (total : Nat) (written : List Piece) {ledger : Ledger} {account : AccountInfo} {payload : Bytes}
    (found : ledger.accounts target = some account) (held : publisher.Holds account payload)
    (small : (payload ++ (written.map Piece.chunk).flatten).length < 2 ^ 32)
    (fits : idlHeaderLen + (payload ++ (written.map Piece.chunk).flatten).length ≤ account.data.length) :
    ∃ after updated, publisher.replay ledger (written.map (publisher.writeBatch target total)) = some after ∧
      after.accounts target = some updated ∧ publisher.Holds updated (payload ++ (written.map Piece.chunk).flatten) ∧
      updated.data.length = account.data.length ∧ Ledger.Confined publisher.authority {target} ledger after := by
  induction written generalizing ledger account payload with
  | nil =>
    simp only [List.map_nil, List.flatten_nil, List.append_nil]
    exact ⟨ledger, account, rfl, found, held, rfl, .refl⟩
  | cons piece rest ih =>
    simp only [List.map_cons, List.flatten_cons, ← List.append_assoc] at small fits ⊢
    obtain ⟨updated, became, writes⟩ := write_appends piece.chunk found held
      (by simp only [List.length_append] at small ⊢; omega) (by simp only [List.length_append] at fits ⊢; omega)
    obtain ⟨after, final, replayed, shown, holds, size, confined⟩ := ih
      (Ledger.store_self ledger target updated) became.holds small (became.length.symm ▸ fits)
    exact ⟨after, final, Option.bind_eq_some_iff.mpr ⟨_, writes, replayed⟩, shown, holds, size.trans became.length,
      (Ledger.confined_store found became.lamports).trans confined⟩

section Filling
variable {compressed : Bytes} {ledger : Ledger} {account : AccountInfo} (small : compressed.length < 2 ^ 32)
  (empty : publisher.Holds account []) (fits : idlHeaderLen + compressed.length ≤ account.data.length)
include small empty fits

theorem writeBatches_take (found : ledger.accounts target = some account) (count : Nat) :
    ∃ after updated, publisher.replay ledger ((publisher.writeBatches target compressed).take count) = some after ∧
      after.accounts target = some updated ∧ publisher.Holds updated (compressed.take (maxWriteSize * count)) ∧
      updated.data.length = account.data.length ∧ Ledger.Confined publisher.authority {target} ledger after := by
  have front : [] ++ (((pieces compressed).take count).map Piece.chunk).flatten = compressed.take (maxWriteSize * count) := by
    rw [List.map_take, pieces_chunks, chunks_take _ _ (by decide), List.nil_append]
  have short : (compressed.take (maxWriteSize * count)).length ≤ compressed.length := List.length_take_le' ..
  obtain ⟨after, updated, replayed, filled⟩ := write_replays compressed.length ((pieces compressed).take count) found empty
    (by rw [front]; omega) (by rw [front]; omega)
  rw [List.map_take] at replayed
  rw [front] at filled
  exact ⟨after, updated, replayed, filled⟩

theorem writeBatches_replay (found : ledger.accounts target = some account) :
    ∃ after updated, publisher.replay ledger (publisher.writeBatches target compressed) = some after ∧
      after.accounts target = some updated ∧ publisher.Holds updated compressed ∧
      updated.data.length = account.data.length ∧ Ledger.Confined publisher.authority {target} ledger after := by
  have whole : [] ++ ((pieces compressed).map Piece.chunk).flatten = compressed := by
    rw [pieces_chunks, chunks_flatten _ (by decide), List.nil_append]
  obtain ⟨after, updated, replayed, filled⟩ := write_replays compressed.length (pieces compressed) found empty
    (by rw [whole]; exact small) (by rw [whole]; exact fits)
  rw [whole] at filled
  exact ⟨after, updated, replayed, filled⟩

variable {ι : Type} (client : ι) {world : World ι}
  (signed : publisher.sdk.xOnlyPublicKey publisher.authorityKeypair = publisher.authority)
include signed

end Filling

theorem writeChunks_reassembles (publisher : Publisher) (target : Pubkey) {compressed : Bytes} (small : compressed.length < 2 ^ 32) :
    publisher.writeChunks target compressed = publisher.sendAll (publisher.writeBatches target compressed) ∧
    (∀ trace outcome, Traces (publisher.writeChunks target compressed) trace outcome →
      Sends (publisher.writeBatches target compressed) trace outcome) ∧
    Tiles compressed 0 (pieces compressed) ∧
    (∀ piece ∈ pieces compressed, piece.chunk ≠ [] ∧ piece.chunk.length ≤ maxWriteSize ∧
      ofLittleEndian (slice (writeIxData piece.chunk) 9 13) = piece.chunk.length ∧
      decode (writeIxData piece.chunk) = some (.write piece.chunk)) ∧
    ∀ ledger account, ledger.accounts target = some account → publisher.Holds account [] →
      idlHeaderLen + compressed.length ≤ account.data.length →
      (∀ count, ∃ after updated, publisher.replay ledger ((publisher.writeBatches target compressed).take count) = some after ∧
        after.accounts target = some updated ∧ updated.data.length = account.data.length ∧
        publisher.Holds updated (compressed.take (min (maxWriteSize * count) compressed.length))) ∧
      ∃ after updated, publisher.replay ledger (publisher.writeBatches target compressed) = some after ∧
        after.accounts target = some updated ∧ updated.data.length = account.data.length ∧
        publisher.Holds updated compressed := by
  refine ⟨writeChunks_eq compressed, ?_, pieces_tile compressed, ?_, ?_⟩
  · intro trace outcome traced
    exact traces_sendAll (writeChunks_eq compressed ▸ traced)
  · intro piece member
    have listed : piece.chunk ∈ chunks maxWriteSize compressed := pieces_chunks compressed ▸ List.mem_map_of_mem member
    obtain ⟨nonempty, short⟩ := chunks_bounded maxWriteSize compressed piece.chunk listed
    have bounded : piece.chunk.length < 2 ^ 32 := Nat.lt_of_le_of_lt short (by decide)
    exact ⟨nonempty, short, writeIxData_length bounded, decode_writeIxData bounded⟩
  · intro ledger account found empty fits
    constructor
    · intro count
      obtain ⟨after, updated, replayed, shown, holds, size, _⟩ := writeBatches_take small empty fits found count
      rw [List.take_eq_take_min] at holds
      exact ⟨after, updated, replayed, shown, size, holds⟩
    · obtain ⟨after, updated, replayed, shown, holds, size, _⟩ := writeBatches_replay small empty fits found
      exact ⟨after, updated, replayed, shown, size, holds⟩

namespace Example
open Reference

/-- Two full chunks and a short one. -/
def long : Bytes := List.replicate 1300 7

/-- An empty account with room for exactly these bytes. -/
def roomy : AccountInfo := ⟨0, program, header site.authority 0 ++ List.replicate 1300 0, false⟩

end Example

open Example Reference in
theorem writeChunks_reassembles_long : ∃ after updated,
    Reference.publisher.replay (chain Unit (some roomy)).ledger (Reference.publisher.writeBatches canonical long) = some after ∧
      after.accounts canonical = some updated ∧ updated.data.length = roomy.data.length ∧
      Reference.publisher.Holds updated long := by
  have room : idlHeaderLen + long.length ≤ roomy.data.length := by decide +kernel
  obtain ⟨_, _, _, _, reassembles⟩ := writeChunks_reassembles Reference.publisher canonical
    (show long.length < 2 ^ 32 by decide +kernel)
  exact (reassembles (chain Unit (some roomy)).ledger roomy rfl (Holds.fresh ..) room).2

end Publisher
end ArchKit
