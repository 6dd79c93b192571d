import ArchKit.Proofs.IdlAccount

/-! The validation of untrusted account bytes: it never panics, and it accepts exactly the
accounts with a header, a payload of the declared length and any slack. -/

namespace ArchKit.Idl
open Radix Satellite
variable {account : AccountInfo} {program : Pubkey}

theorem subtract?_inside {first second : Nat} (ordered : second ≤ first) : subtract? first second = some (first - second) :=
  if_pos ordered

/-- Past the check of the length, every slice and subtraction is inside. -/
theorem validateIdlAccount?_eq (account : AccountInfo) (program : Pubkey) (expected : Option Pubkey) :
    validateIdlAccount? account program expected = some (validateIdlAccount account program expected) := by
  rw [validateIdlAccount?, validateIdlAccount]
  split
  next => rfl
  next =>
    split
    next => rfl
    next long =>
      have inside : 44 ≤ account.data.length := not_lt.mp long
      have four : (slice account.data 40 44).length = 4 := by rw [slice_length, Nat.min_eq_left inside]
      simp only [slice?_inside (Nat.zero_le 8) (by omega : 8 ≤ account.data.length),
        slice?_inside (by omega : 8 ≤ 40) (by omega : 40 ≤ account.data.length),
        slice?_inside (by omega : 40 ≤ 44) inside, subtract?_inside (not_lt.mp long), Option.bind_eq_bind, Option.bind_some,
        four, ne_eq, not_true_eq_false, if_false]
      split
      next => rfl
      next =>
        split
        next => rfl
        next => split <;> rfl

/-- Without an expected authority, the account's own one is as good. -/
theorem validateIdlAccount_none : validateIdlAccount account program none =
    validateIdlAccount account program (some (.fromSlice (slice account.data 8 40))) := by
  simp [validateIdlAccount, Option.filter]

theorem validateIdlAccount_some {authority : Pubkey} {range : Range} :
    validateIdlAccount account program (some authority) = .ok range ↔
      ∃ payload, Holds program authority account payload ∧ range = ⟨idlHeaderLen, idlHeaderLen + payload.length⟩ := by
  constructor
  · intro valid
    have held := holds_of_validateIdlAccount valid
    refine ⟨_, held, ?_⟩
    rw [validateIdlAccount_ok held] at valid
    exact (Except.ok.inj valid).symm
  · intro found
    obtain ⟨payload, held, same⟩ := found
    rw [same]
    exact validateIdlAccount_ok held

theorem validateIdlAccount_iff {expected : Option Pubkey} {range : Range} :
    validateIdlAccount account program expected = .ok range ↔
      ∃ authority payload, Holds program authority account payload ∧ (∀ key, expected = some key → key = authority) ∧
        range = ⟨idlHeaderLen, idlHeaderLen + payload.length⟩ := by
  cases expected with
  | some key =>
    rw [validateIdlAccount_some]
    constructor
    · intro found
      obtain ⟨payload, held, same⟩ := found
      exact ⟨key, payload, held, fun other equal => (Option.some.inj equal).symm, same⟩
    · intro found
      obtain ⟨authority, payload, held, agreed, same⟩ := found
      obtain rfl := agreed key rfl
      exact ⟨payload, held, same⟩
  | none =>
    rw [validateIdlAccount_none, validateIdlAccount_some]
    constructor
    · intro found
      obtain ⟨payload, held, same⟩ := found
      exact ⟨_, payload, held, fun key equal => (by cases equal), same⟩
    · intro found
      obtain ⟨authority, payload, held, _, same⟩ := found
      obtain ⟨slack, layout⟩ := held.layout
      have own : Pubkey.fromSlice (slice account.data 8 40) = authority := by
        obtain ⟨_, read, _⟩ := slices_of_layout authority payload.length held.fits (payload ++ slack)
        rw [← List.append_assoc, ← layout] at read
        exact (Pubkey.fromSlice_eq_iff (by rw [read, authority.size]) authority).mpr read
      rw [own]
      exact ⟨payload, held, same⟩

/-- The bytes of an IDL account: header, payload and slack. -/
def encodeAccount (authority : Pubkey) (payload slack : Bytes) : Bytes :=
  idlAccountDiscriminator ++ authority.bytes ++ toLittleEndian 4 payload.length ++ payload ++ slack

theorem holds_iff {authority : Pubkey} {payload : Bytes} : Holds program authority account payload ↔
    account.owner = program ∧ payload.length < 2 ^ 32 ∧ ∃ slack, account.data = encodeAccount authority payload slack := by
  constructor
  · intro held
    exact ⟨held.owner, held.fits, held.layout⟩
  · intro parts
    obtain ⟨owner, fits, layout⟩ := parts
    exact ⟨owner, fits, layout⟩

/-- Any bytes are judged without a panic. Those of the format are accepted, and the range that is
returned for them is their payload. -/
theorem validateIdlAccount?_exact (account : AccountInfo) (program : Pubkey) (expected : Option Pubkey) :
    ∃ outcome, validateIdlAccount? account program expected = some outcome ∧
      (∀ range, outcome = .ok range ↔
        ∃ authority payload slack, account.owner = program ∧ (∀ key, expected = some key → key = authority) ∧
          payload.length < 2 ^ 32 ∧ account.data = encodeAccount authority payload slack ∧
          range = ⟨44, 44 + payload.length⟩) ∧
      ∀ authority payload slack range, payload.length < 2 ^ 32 → account.data = encodeAccount authority payload slack →
        outcome = .ok range → slice? account.data range.start range.stop = some payload := by
  refine ⟨_, validateIdlAccount?_eq account program expected, ?_, ?_⟩
  · intro range
    rw [validateIdlAccount_iff]
    constructor
    · intro found
      obtain ⟨authority, payload, held, agreed, same⟩ := found
      obtain ⟨owner, fits, slack, layout⟩ := holds_iff.mp held
      exact ⟨authority, payload, slack, owner, agreed, fits, layout, same⟩
    · intro found
      obtain ⟨authority, payload, slack, owner, agreed, fits, layout, same⟩ := found
      exact ⟨authority, payload, holds_iff.mpr ⟨owner, fits, slack, layout⟩, agreed, same⟩
  · intro authority payload slack range fits layout accepted
    obtain ⟨other, stored, held, _, same⟩ := validateIdlAccount_iff.mp accepted
    obtain ⟨_, _, declared⟩ := slices_of_layout authority payload.length fits (payload ++ slack)
    obtain ⟨rest, shape⟩ := held.layout
    obtain ⟨_, _, written⟩ := slices_of_layout other stored.length held.fits (stored ++ rest)
    rw [← List.append_assoc, ← shape, layout] at written
    have sizes : payload.length = stored.length := by
      rw [← declared, ← written, encodeAccount, header, List.append_assoc _ payload]
    have inside := held.capacity
    rw [same, slice?_inside (Nat.le_add_right ..) inside, layout, ← sizes]
    exact congrArg some (slice_middle _ _ _ (header_length authority payload.length).symm (by
      rw [← header, header_length]))

end ArchKit.Idl
