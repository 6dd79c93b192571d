import ArchKit.Idl

/-! What a prepared IDL guarantees to the publication that receives it, and the
equations by which the upload and the growth loops unfold. -/

namespace ArchKit
open Effects Idl

namespace Idl

/-- The facts of a prepared IDL that publication relies on. -/
structure PreparedIdl.Valid (codec : Codec) (prepared : PreparedIdl) : Prop where
  serialized : ∃ json, codec.toVec prepared.expected = .ok json ∧ compress codec json = .ok prepared.compressed
  small : prepared.compressed.length < 2 ^ 32
  room : idlHeaderLen + prepared.compressed.length ≤ prepared.initialCapacity
  bounded : prepared.initialCapacity < 2 ^ 64
  requested : ∀ capacity, prepared.requestedCapacity = some capacity → prepared.initialCapacity = capacity

theorem requiredSpace_small {size : Nat} (small : size < 2 ^ 32) : requiredSpace size = .ok (idlHeaderLen + size) := by
  have added : checkedAdd idlHeaderLen size = some (idlHeaderLen + size) :=
    checkedAdd_eq_some.mpr ⟨by simp only [idlHeaderLen]; omega, rfl⟩
  simp only [requiredSpace, added]

theorem toU64_small {value : Nat} (small : value < 2 ^ 64) (label : String) : toU64 value label = .ok value :=
  if_pos small

theorem prepareBytes_valid {codec : Codec} {raw : Bytes} {program : Pubkey} {requested : Option Nat}
    {prepared : PreparedIdl} (made : prepareBytes codec raw program requested = .ok prepared) :
    prepared.Valid codec := by
  unfold prepareBytes at made
  obtain ⟨parsed, _, made⟩ := bind_eq_ok.mp made
  obtain ⟨root, _, made⟩ := bind_eq_ok.mp made
  obtain ⟨members, _, made⟩ := bind_eq_ok.mp made
  obtain ⟨normalized, serialized, made⟩ := bind_eq_ok.mp made
  obtain ⟨compressed, squeezed, made⟩ := bind_eq_ok.mp made
  split at made
  next => cases made
  next fits =>
    have small : compressed.length < 2 ^ 32 := by omega
    rw [requiredSpace_small small] at made
    obtain ⟨required, same, made⟩ := bind_eq_ok.mp made
    cases same
    obtain ⟨initial, chosen, made⟩ := bind_eq_ok.mp made
    split at made
    next => cases made
    next bounded =>
      cases made
      refine ⟨⟨normalized, mapError_eq_ok.mp serialized, squeezed⟩, small, ?_, not_le.mp bounded, ?_⟩
      · cases requested with
        | none => cases chosen; exact Nat.le_max_right _ _
        | some capacity =>
          simp only [initialCapacity] at chosen
          split at chosen
          next => cases chosen
          next enough => cases chosen; exact not_lt.mp enough
      · intro capacity same
        subst same
        simp only [initialCapacity] at chosen
        split at chosen
        next => cases chosen
        next => cases chosen; rfl

namespace PreparedIdl.Valid
variable {codec : Codec} {prepared : PreparedIdl} (valid : prepared.Valid codec)
include valid

/-- The payload reads back as the normalized document. -/
theorem decompresses (lawful : codec.Lawful) : decompressJson codec prepared.compressed = .ok prepared.expected := by
  obtain ⟨json, serialized, compressed⟩ := valid.serialized
  unfold compress at compressed
  split at compressed
  next => cases compressed
  next => cases compressed
  next written deflated =>
    cases compressed
    simp only [decompressJson, lawful.inflate_deflate _ _ deflated, lawful.fromSlice_toVec _ _ serialized]

theorem requested_le : prepared.requestedCapacity.getD 0 ≤ prepared.initialCapacity := by
  cases asked : prepared.requestedCapacity with
  | none => exact Nat.zero_le _
  | some capacity => exact (valid.requested capacity asked).ge

end PreparedIdl.Valid

/-- The chunks of an upload, in the order of the bytes. -/
theorem chunks_flatten {α : Type} (size : Nat) (positive : 0 < size) (bytes : List α) : (chunks size bytes).flatten = bytes := by
  fun_induction chunks size bytes with
  | case1 bytes done =>
    rcases done with rfl | zero
    · rfl
    · omega
  | case2 bytes _ ih => simp only [List.flatten_cons, ih, List.take_append_drop]

/-- The first chunks of an upload are a prefix of the bytes. -/
theorem chunks_take {α : Type} (size count : Nat) (positive : 0 < size) (bytes : List α) :
    ((chunks size bytes).take count).flatten = bytes.take (size * count) := by
  fun_induction chunks size bytes generalizing count with
  | case1 bytes done =>
    rcases done with empty | zero
    · simp [empty]
    · omega
  | case2 bytes _ ih =>
    cases count with
    | zero => simp
    | succ count =>
      rw [List.take_succ_cons, List.flatten_cons, ih, Nat.mul_succ, Nat.add_comm, List.take_add]

theorem chunks_bounded {α : Type} (size : Nat) (bytes : List α) :
    ∀ chunk ∈ chunks size bytes, chunk ≠ [] ∧ chunk.length ≤ size := by
  fun_induction chunks size bytes with
  | case1 => exact fun _ member => by cases member
  | case2 bytes more ih =>
    intro chunk member
    rcases List.mem_cons.mp member with same | later
    · subst same
      refine ⟨?_, List.length_take_le ..⟩
      intro empty
      rcases List.take_eq_nil_iff.mp empty with zero | none
      · exact more (.inr zero)
      · exact more (.inl none)
    · exact ih chunk later

end Idl

namespace Publisher
variable (publisher : Publisher)

theorem growAccount_done {idlAddress : Pubkey} {current target : Nat} {buffers : Option (Pubkey × Pubkey)}
    (reached : ¬current < target) : publisher.growAccount idlAddress current target buffers = pure () := by
  rw [growAccount, dif_neg reached]

theorem growAccount_step {idlAddress : Pubkey} {current target : Nat} {buffers : Option (Pubkey × Pubkey)}
    (below : current < target) (small : target < 2 ^ 64) :
    let nextSpace := current + min (target - current) idlResizeIncrement
    publisher.growAccount idlAddress current target buffers =
      (publisher.send s!"IDL resize {nextSpace}/{target}"
        (publisher.growInstructions idlAddress target buffers (nextSpace == target))
        publisher.authority [publisher.authorityKeypair]) >>=
      fun _ => publisher.growAccount idlAddress nextSpace target buffers := by
  have next : checkedAdd current (min (target - current) idlResizeIncrement) =
      some (current + min (target - current) idlResizeIncrement) := checkedAdd_eq_some.mpr ⟨by omega, rfl⟩
  have agreed {rest : Nat → Cli Unit} : (Fallible.ofExcept (.ok target) >>= rest : Cli Unit) = rest target := rfl
  rw [growAccount, dif_pos below, toU64_small small, agreed]
  split
  next failed => rw [next] at failed; cases failed
  next sum succeeded =>
    rw [next] at succeeded
    cases succeeded
    rfl

end Publisher
end ArchKit
