import ArchKit.Satellite

/-! The abstract view of an IDL account is its payload. The client's validation and
the on-chain handlers read the same payload from the same bytes. -/

namespace ArchKit.Satellite
open Radix Idl

@[simp] theorem header_length (authority : Pubkey) (payloadLen : Nat) :
    (header authority payloadLen).length = idlHeaderLen := by
  simp [header, idlAccountDiscriminator, idlHeaderLen, authority.size]

/-- A well-formed IDL account: header, payload and any slack. -/
structure Holds (program authority : Pubkey) (account : AccountInfo) (payload : Bytes) : Prop where
  owner : account.owner = program
  fits : payload.length < 2 ^ 32
  layout : ∃ slack, account.data = header authority payload.length ++ payload ++ slack

theorem Holds.capacity {program authority : Pubkey} {account : AccountInfo} {payload : Bytes}
    (holds : Holds program authority account payload) : idlHeaderLen + payload.length ≤ account.data.length := by
  obtain ⟨slack, layout⟩ := holds.layout
  simp only [layout, List.length_append, header_length]
  omega

theorem slices_of_layout (authority : Pubkey) (size : Nat) (fits : size < 2 ^ 32) (rest : Bytes) :
    slice (header authority size ++ rest) 0 8 = idlAccountDiscriminator ∧
    slice (header authority size ++ rest) 8 40 = authority.bytes ∧
    ofLittleEndian (slice (header authority size ++ rest) 40 44) = size := by
  have authoritySize := authority.size
  refine ⟨?_, ?_, ?_⟩
  · have split : header authority size ++ rest = [] ++ idlAccountDiscriminator ++ (authority.bytes ++ toLittleEndian 4 size ++ rest) := by
      simp [header]
    rw [split]
    exact slice_middle _ _ _ rfl rfl
  · have split : header authority size ++ rest = idlAccountDiscriminator ++ authority.bytes ++ (toLittleEndian 4 size ++ rest) := by
      simp [header]
    rw [split]
    exact slice_middle _ _ _ rfl (by simp [idlAccountDiscriminator, authoritySize])
  · have split : header authority size ++ rest = (idlAccountDiscriminator ++ authority.bytes) ++ toLittleEndian 4 size ++ rest := by
      simp [header]
    rw [split, slice_middle _ _ _ (by simp [idlAccountDiscriminator, authoritySize])
      (by simp [idlAccountDiscriminator, authoritySize])]
    exact ofLittleEndian_to (by simpa using fits)

/-- Bytes whose header fields read back as given start with that header. -/
theorem layout_of_slices {data : Bytes} {authority : Pubkey}
    (discriminator : slice data 0 8 = idlAccountDiscriminator) (owner : slice data 8 40 = authority.bytes)
    (inside : idlHeaderLen ≤ data.length) :
    data = header authority (ofLittleEndian (slice data 40 44)) ++ data.drop idlHeaderLen := by
  have declared : toLittleEndian 4 (ofLittleEndian (slice data 40 44)) = slice data 40 44 := by
    have size : (slice data 40 44).length = 4 := by
      simp only [slice_length, idlHeaderLen] at inside ⊢; omega
    rw [← size]
    exact toLittleEndian_of _
  rw [header, declared, ← discriminator, ← owner]
  simp only [slice, List.drop_zero, idlHeaderLen]
  have first : data.take 40 = data.take 8 ++ (data.take 40).drop 8 := by
    conv_lhs => rw [← List.take_append_drop 8 (data.take 40), List.take_take]
    simp
  have second : data.take 44 = data.take 40 ++ (data.take 44).drop 40 := by
    conv_lhs => rw [← List.take_append_drop 40 (data.take 44), List.take_take]
    simp
  rw [← first, ← second, List.take_append_drop]

theorem payload?_eq_some {program authority : Pubkey} {account : AccountInfo} {payload : Bytes} :
    payload? program authority account = some payload ↔ Holds program authority account payload := by
  constructor
  · intro found
    simp only [payload?] at found
    split at found
    next valid =>
      obtain ⟨owner, discriminator, held, inside⟩ := valid
      have declared : ofLittleEndian (slice account.data 40 44) < 2 ^ 32 := by
        have bound := ofLittleEndian_lt (slice account.data 40 44)
        have size : (slice account.data 40 44).length = 4 := by
          simp only [slice_length, idlHeaderLen] at inside ⊢; omega
        rw [size] at bound
        exact bound
      have layout := layout_of_slices discriminator held (by omega)
      have shape := Option.some.inj found
      have size : payload.length = ofLittleEndian (slice account.data 40 44) := by
        rw [← shape, slice_length, Nat.min_eq_left inside, Nat.add_sub_cancel_left]
      refine ⟨owner, by omega, account.data.drop (idlHeaderLen + payload.length), ?_⟩
      have rest : account.data.drop idlHeaderLen = payload ++ account.data.drop (idlHeaderLen + payload.length) := by
        conv_lhs => rw [← List.take_append_drop payload.length (account.data.drop idlHeaderLen), List.drop_drop]
        congr 1
        rw [size, ← shape, slice_add]
      rw [List.append_assoc, ← rest, size]
      exact layout
    next => cases found
  · intro held
    obtain ⟨owner, fits, slack, layout⟩ := held
    obtain ⟨first, second, third⟩ := slices_of_layout authority payload.length fits (payload ++ slack)
    rw [← List.append_assoc, ← layout] at first second third
    have inside : idlHeaderLen + payload.length ≤ account.data.length := by
      simp only [layout, List.length_append, header_length]; omega
    simp only [payload?, third]
    rw [if_pos ⟨owner, first, second, inside⟩, layout]
    exact congrArg some (slice_middle _ _ _ (header_length _ _).symm (by simp))

theorem Holds.unique {program authority : Pubkey} {account : AccountInfo} {first second : Bytes}
    (one : Holds program authority account first) (two : Holds program authority account second) : first = second :=
  Option.some.inj ((payload?_eq_some.mpr one).symm.trans (payload?_eq_some.mpr two))

/-- The client's validation accepts exactly the well-formed accounts and returns the
range of the payload. -/
theorem validateIdlAccount_ok {program authority : Pubkey} {account : AccountInfo} {payload : Bytes}
    (holds : Holds program authority account payload) :
    validateIdlAccount account program (some authority) = .ok ⟨idlHeaderLen, idlHeaderLen + payload.length⟩ := by
  obtain ⟨owner, fits, slack, layout⟩ := holds
  obtain ⟨first, second, third⟩ := slices_of_layout authority payload.length fits (payload ++ slack)
  rw [← List.append_assoc, ← layout] at first second third
  have inside : idlHeaderLen + payload.length ≤ account.data.length := by
    simp only [layout, List.length_append, header_length]; omega
  have same : Pubkey.fromSlice (slice account.data 8 40) = authority :=
    (Pubkey.fromSlice_eq_iff (by rw [second, authority.size]) authority).mpr second
  have small : checkedAdd idlHeaderLen payload.length = some (idlHeaderLen + payload.length) :=
    checkedAdd_eq_some.mpr ⟨by simp only [idlHeaderLen]; omega, rfl⟩
  simp only [validateIdlAccount, owner, first, same, third, small]
  rw [if_neg (by simp), if_neg (by omega), if_neg (by simp)]
  simp [Option.filter, inside]

theorem payloadAt_range {program authority : Pubkey} {account : AccountInfo} {payload : Bytes}
    (holds : Holds program authority account payload) :
    payloadAt account ⟨idlHeaderLen, idlHeaderLen + payload.length⟩ = payload := by
  obtain ⟨slack, layout⟩ := holds.layout
  simp only [payloadAt, layout]
  exact slice_middle _ _ _ (header_length _ _).symm (by simp)

theorem holds_of_validateIdlAccount {program authority : Pubkey} {account : AccountInfo} {range : Range}
    (valid : validateIdlAccount account program (some authority) = .ok range) :
    Holds program authority account (payloadAt account range) := by
  apply payload?_eq_some.mp
  simp only [validateIdlAccount] at valid
  split at valid
  next => cases valid
  next owner =>
    split at valid
    next => cases valid
    next long =>
      split at valid
      next => cases valid
      next discriminator =>
        split at valid
        next => cases valid
        next agreed =>
          split at valid
          next stop bounded =>
            cases valid
            have size : (slice account.data 8 40).length = 32 := by
              simp only [slice_length, idlHeaderLen] at long ⊢; omega
            have same : slice account.data 8 40 = authority.bytes := by
              apply (Pubkey.fromSlice_eq_iff size authority).mp
              simp only [Option.filter_eq_none_iff] at agreed
              have equal : authority = Pubkey.fromSlice (slice account.data 8 40) := by simpa using agreed authority rfl
              exact equal.symm
            obtain ⟨added, inside⟩ := Option.filter_eq_some_iff.mp bounded
            have exact := (checkedAdd_eq_some.mp added).2
            simp only [decide_eq_true_eq] at inside
            simp only [payload?]
            rw [if_pos ⟨not_ne_iff.mp owner, not_ne_iff.mp discriminator, same, by omega⟩, exact]
            rfl
          next => cases valid

/-- Storing a payload that fits gives an account of the same length that holds it. -/
theorem Holds.store {program authority : Pubkey} {account : AccountInfo} {payload : Bytes}
    (holds : Holds program authority account payload) {other : Bytes} (small : other.length < 2 ^ 32)
    (inside : idlHeaderLen + other.length ≤ account.data.length) :
    Holds program authority { account with data := withPayload account.data other } other ∧
      (withPayload account.data other).length = account.data.length := by
  obtain ⟨owner, _, slack, layout⟩ := holds
  have start : account.data.take 40 = idlAccountDiscriminator ++ authority.bytes := by
    rw [layout, header]
    simp only [List.append_assoc]
    rw [← List.append_assoc]
    exact List.take_left' (by simp [idlAccountDiscriminator, authority.size])
  refine ⟨⟨owner, small, account.data.drop (idlHeaderLen + other.length), ?_⟩, ?_⟩
  · simp only [withPayload, start, header]
  · simp only [withPayload, start, List.length_append, toLittleEndian_length, List.length_drop, authority.size]
    simp only [idlAccountDiscriminator, List.length_cons, List.length_nil, idlHeaderLen] at inside ⊢
    omega

/-- Bytes appended to an account only extend its slack. -/
theorem Holds.extend {program authority : Pubkey} {account : AccountInfo} {payload : Bytes}
    (holds : Holds program authority account payload) (more : Bytes) :
    Holds program authority { account with data := account.data ++ more } payload := by
  obtain ⟨owner, fits, slack, layout⟩ := holds
  refine ⟨owner, fits, slack ++ more, ?_⟩
  simp only [layout, List.append_assoc]

theorem Holds.fresh (program authority : Pubkey) (lamports : Nat) (slack : Bytes) (executable : Bool) :
    Holds program authority ⟨lamports, program, header authority 0 ++ slack, executable⟩ [] :=
  ⟨rfl, by simp, slack, by simp⟩

end ArchKit.Satellite

namespace ArchKit.Site
open Radix Idl Satellite

/-- A well-formed IDL account of this program and authority. -/
abbrev Holds (site : Site) : AccountInfo → Bytes → Prop := Satellite.Holds site.program site.authority

end ArchKit.Site
