import ArchKit.Proofs.Idempotence

/-! The normalization of an IDL document: which documents are prepared, what is set in them and
what is left alone. -/

namespace ArchKit.Json
variable {name other : String} {value member : Json} {members : List (String × Json)}

theorem lookup_cons_ne (different : other ≠ name) : ((name, value) :: members).lookup other = members.lookup other := by
  have unequal : (other == name) = false := by simpa using different
  rw [List.lookup_cons, unequal]

theorem lookup_insert_self : (insert name value members).lookup name = some value := by
  fun_induction insert name value members with
  | case1 => exact List.lookup_cons_self
  | case2 => exact List.lookup_cons_self
  | case3 => exact List.lookup_cons_self
  | case4 other old members different _ ih => rw [lookup_cons_ne different, ih]

theorem lookup_insert_ne (different : other ≠ name) : (insert name value members).lookup other = members.lookup other := by
  fun_induction insert name value members with
  | case1 => exact lookup_cons_ne different
  | case2 old members => rw [lookup_cons_ne different, lookup_cons_ne different]
  | case3 => exact lookup_cons_ne different
  | case4 key old members _ _ ih =>
    by_cases found : other = key
    · subst found
      rw [List.lookup_cons_self, List.lookup_cons_self]
    · rw [lookup_cons_ne found, lookup_cons_ne found, ih]

theorem insert_insert : insert name value (insert name value members) = insert name value members := by
  fun_induction insert name value members with
  | case1 => simp [insert]
  | case2 => simp [insert]
  | case3 => simp [insert]
  | case4 other old members different after ih => rw [insert, if_neg different, if_neg after, ih]

/-- A member that is in its place stays in its place when a later one is inserted. -/
theorem insert_kept (before : name < other) (placed : insert name value members = members) :
    insert name value (insert other member members) = insert other member members := by
  fun_induction insert other member members with
  | case1 => cases placed
  | case2 old members =>
    have different : name ≠ other := fun same => String.lt_irrefl other (same ▸ before)
    rw [insert, if_neg different, if_pos before] at placed
    exact absurd (congrArg List.length placed) (by simp)
  | case3 key old members _ ahead =>
    have first : name < key := String.lt_trans before ahead
    have different : name ≠ key := fun same => String.lt_irrefl key (same ▸ first)
    rw [insert, if_neg different, if_pos first] at placed
    exact absurd (congrArg List.length placed) (by simp)
  | case4 key old members _ _ ih =>
    rw [insert] at placed ⊢
    split at placed
    next same =>
      rw [if_pos same]
      cases (List.cons.inj placed).1
      rfl
    next different =>
      rw [if_neg different]
      split at placed
      next => exact absurd (congrArg List.length placed) (by simp)
      next after => rw [if_neg after, ih (List.cons.inj placed).2]

end ArchKit.Json

namespace ArchKit.Idl
open Effects
variable {codec : Codec} {raw json compressed : Bytes} {program : Pubkey} {requested : Option Nat} {prepared : PreparedIdl}
  {root metadata members : List (String × Json)}

/-- The members of `metadata`, which is an object or absent. -/
def MetadataOf (root metadata : List (String × Json)) : Prop :=
  root.lookup "metadata" = some (.object metadata) ∨ root.lookup "metadata" = none ∧ metadata = []

/-- A root object with its address and the version of its metadata set. -/
def normalizedMembers (program : Pubkey) (root metadata : List (String × Json)) : List (String × Json) :=
  Json.insert "metadata" (.object (Json.insert "spec" (.string "0.1.0") metadata))
    (Json.insert "address" (.string (pubkeyHex program)) root)

theorem normalizeMembers_iff : normalizeMembers program root = .ok members ↔
    ∃ metadata, MetadataOf root metadata ∧ members = normalizedMembers program root metadata := by
  have kept : (Json.insert "address" (.string (pubkeyHex program)) root).lookup "metadata" = root.lookup "metadata" :=
    Json.lookup_insert_ne (by decide)
  rw [normalizeMembers, kept]
  constructor
  · intro set
    split at set
    next => cases set
    next metadata found =>
      cases set
      refine ⟨metadata, ?_, rfl⟩
      cases looked : root.lookup "metadata" with
      | none =>
        rw [looked] at found
        cases found
        exact .inr ⟨looked, rfl⟩
      | some value =>
        rw [looked] at found
        cases value with
        | object given => cases found; exact .inl looked
        | _ => cases found
  · intro described
    obtain ⟨metadata, found | ⟨absent, blank⟩, same⟩ := described
    · rw [found, same]
      rfl
    · rw [absent, same, blank]
      rfl

theorem rootMembers_iff {document : Json} : rootMembers document = .ok root ↔ document = .object root := by
  cases document with
  | object given =>
    constructor
    all_goals
      intro same
      cases same
      rfl
  | _ =>
    constructor
    all_goals
      intro same
      cases same

theorem compress_iff : compress codec json = .ok compressed ↔ codec.deflate json = .ok (.ok compressed) := by
  rw [compress]
  split
  next failed =>
    rw [failed]
    simp
  next failed =>
    rw [failed]
    simp
  next done => rw [done, Except.ok.injEq, Except.ok.injEq, Except.ok.injEq]

theorem normalized_iff {document : Json} : normalized codec raw program = .ok document ↔
    ∃ root metadata, codec.fromSlice raw = .ok (.object root) ∧ MetadataOf root metadata ∧
      document = .object (normalizedMembers program root metadata) := by
  rw [normalized]
  constructor
  · intro made
    obtain ⟨parsed, read, made⟩ := bind_eq_ok.mp made
    obtain ⟨root, rooted, made⟩ := bind_eq_ok.mp made
    obtain ⟨members, set, made⟩ := bind_eq_ok.mp made
    obtain ⟨metadata, held, same⟩ := normalizeMembers_iff.mp set
    cases made
    refine ⟨root, metadata, ?_, held, congrArg Json.object same⟩
    rw [← rootMembers_iff.mp rooted]
    exact mapError_eq_ok.mp read
  · intro described
    obtain ⟨root, metadata, read, held, same⟩ := described
    refine bind_eq_ok.mpr ⟨_, mapError_eq_ok.mpr read, bind_eq_ok.mpr ⟨root, rootMembers_iff.mpr rfl, ?_⟩⟩
    refine bind_eq_ok.mpr ⟨_, normalizeMembers_iff.mpr ⟨metadata, held, rfl⟩, ?_⟩
    rw [same]
    rfl

theorem initialCapacity_iff {required capacity : Nat} : initialCapacity required requested = .ok capacity ↔
    (∀ size, requested = some size → required ≤ size) ∧ capacity = requested.getD (max defaultIdlAccountSize required) := by
  cases requested with
  | none => simp [initialCapacity, eq_comm]
  | some size =>
    rw [initialCapacity]
    split
    next short => simp [short]
    next enough => simp [not_lt.mp enough, eq_comm]

/-- Preparation succeeds when the document can be compressed and fits what was asked for. -/
theorem prepareDocument_iff {document : Json} (bounded : ∀ size, requested = some size → size < 2 ^ 64) :
    prepareDocument codec requested document = .ok prepared ↔
      prepared.expected = document ∧ (∃ json, codec.toVec document = .ok json ∧ codec.deflate json = .ok (.ok prepared.compressed)) ∧
        prepared.compressed.length ≤ 2 ^ 32 - 1 ∧
        (∀ size, requested = some size → idlHeaderLen + prepared.compressed.length ≤ size) ∧
        prepared.initialCapacity = requested.getD (max defaultIdlAccountSize (idlHeaderLen + prepared.compressed.length)) ∧
        prepared.requestedCapacity = requested := by
  have small {size : Nat} (fits : size ≤ 2 ^ 32 - 1) :
      requested.getD (max defaultIdlAccountSize (idlHeaderLen + size)) < 2 ^ 64 := by
    cases requested with
    | some size => exact bounded size rfl
    | none =>
      simp only [Option.getD_none, defaultIdlAccountSize, idlHeaderLen]
      omega
  constructor
  · intro made
    obtain ⟨json, written, made⟩ := bind_eq_ok.mp made
    obtain ⟨compressed, squeezed, made⟩ := bind_eq_ok.mp made
    split at made
    next => cases made
    next fits =>
      obtain ⟨required, needed, made⟩ := bind_eq_ok.mp made
      obtain ⟨capacity, chosen, made⟩ := bind_eq_ok.mp made
      split at made
      next => cases made
      next =>
        cases made
        rw [requiredSpace_small (by omega)] at needed
        cases needed
        obtain ⟨enough, same⟩ := initialCapacity_iff.mp chosen
        exact ⟨rfl, ⟨json, mapError_eq_ok.mp written, compress_iff.mp squeezed⟩, not_lt.mp fits, enough, same, rfl⟩
  · intro described
    obtain ⟨same, ⟨json, written, squeezed⟩, fits, enough, capacity, asked⟩ := described
    refine bind_eq_ok.mpr ⟨json, mapError_eq_ok.mpr written, bind_eq_ok.mpr ⟨_, compress_iff.mpr squeezed, ?_⟩⟩
    rw [if_neg (not_lt.mpr fits)]
    refine bind_eq_ok.mpr ⟨_, requiredSpace_small (by omega), bind_eq_ok.mpr ⟨_, initialCapacity_iff.mpr ⟨enough, rfl⟩, ?_⟩⟩
    rw [if_neg (not_le.mpr (small fits)), ← capacity, ← same, ← asked]
    rfl

/-- Setting the members of a normalized document again changes nothing. -/
theorem normalizedMembers_again (program : Pubkey) (root metadata : List (String × Json)) :
    let set := normalizedMembers program root metadata
    let spec := Json.insert "spec" (.string "0.1.0") metadata
    MetadataOf set spec ∧ normalizedMembers program set spec = set := by
  refine ⟨.inl Json.lookup_insert_self, ?_⟩
  have placed : Json.insert "address" (.string (pubkeyHex program)) (normalizedMembers program root metadata) =
      normalizedMembers program root metadata :=
    Json.insert_kept (by decide) Json.insert_insert
  rw [normalizedMembers, placed, Json.insert_insert]
  exact Json.insert_insert

/-- Normalization sets two members and leaves the others alone. -/
def Normalizes (program : Pubkey) (root : List (String × Json)) (expected : Json) : Prop :=
  ∃ metadata spec result, MetadataOf root metadata ∧ expected = .object result ∧
    result.lookup "address" = some (.string (pubkeyHex program)) ∧
    result.lookup "metadata" = some (.object spec) ∧ spec.lookup "spec" = some (.string "0.1.0") ∧
    (∀ name, name ≠ "address" → name ≠ "metadata" → result.lookup name = root.lookup name) ∧
    ∀ name, name ≠ "spec" → spec.lookup name = metadata.lookup name

theorem normalizes_normalizedMembers (held : MetadataOf root metadata) :
    Normalizes program root (.object (normalizedMembers program root metadata)) := by
  refine ⟨metadata, Json.insert "spec" (.string "0.1.0") metadata, _, held, rfl, ?_, Json.lookup_insert_self,
    Json.lookup_insert_self, ?_, fun name other => Json.lookup_insert_ne other⟩
  · rw [normalizedMembers, Json.lookup_insert_ne (by decide), Json.lookup_insert_self]
  · intro name notAddress notMetadata
    rw [normalizedMembers, Json.lookup_insert_ne notMetadata, Json.lookup_insert_ne notAddress]

/-- Exactly the objects whose metadata is an object or absent are prepared, as long as they fit.
What is prepared reads back as the normalized document, has room, and is prepared again to the same. -/
theorem prepareBytes_exact (lawful : codec.Lawful) (raw : Bytes) (program : Pubkey)
    (bounded : ∀ size, requested = some size → size < 2 ^ 64) :
    ((∃ prepared, prepareBytes codec raw program requested = .ok prepared) ↔
      ∃ root metadata json compressed, codec.fromSlice raw = .ok (.object root) ∧ MetadataOf root metadata ∧
        codec.toVec (.object (normalizedMembers program root metadata)) = .ok json ∧
        codec.deflate json = .ok (.ok compressed) ∧ compressed.length ≤ 2 ^ 32 - 1 ∧
        ∀ size, requested = some size → 44 + compressed.length ≤ size) ∧
    ∀ prepared, prepareBytes codec raw program requested = .ok prepared →
      (∃ root, codec.fromSlice raw = .ok (.object root) ∧ Normalizes program root prepared.expected) ∧
      decompressJson codec prepared.compressed = .ok prepared.expected ∧
      prepared.initialCapacity = requested.getD (max 10000 (44 + prepared.compressed.length)) ∧
      44 + prepared.compressed.length ≤ prepared.initialCapacity ∧
      ∃ json, codec.toVec prepared.expected = .ok json ∧ prepareBytes codec json program requested = .ok prepared := by
  simp only [prepareBytes_eq]
  constructor
  · constructor
    · intro made
      obtain ⟨prepared, made⟩ := made
      obtain ⟨document, set, made⟩ := bind_eq_ok.mp made
      obtain ⟨root, metadata, read, held, same⟩ := normalized_iff.mp set
      obtain ⟨_, ⟨json, written, squeezed⟩, fits, enough, _⟩ := (prepareDocument_iff bounded).mp made
      exact ⟨root, metadata, json, prepared.compressed, read, held, same ▸ written, squeezed, fits, enough⟩
    · intro described
      obtain ⟨root, metadata, json, compressed, read, held, written, squeezed, fits, enough⟩ := described
      let capacity := requested.getD (max defaultIdlAccountSize (idlHeaderLen + compressed.length))
      refine ⟨⟨.object (normalizedMembers program root metadata), compressed, capacity, requested⟩, ?_⟩
      refine bind_eq_ok.mpr ⟨_, normalized_iff.mpr ⟨root, metadata, read, held, rfl⟩, ?_⟩
      exact (prepareDocument_iff bounded).mpr ⟨rfl, ⟨json, written, squeezed⟩, fits, enough, rfl, rfl⟩
  · intro prepared made
    have valid := prepareBytes_valid (prepareBytes_eq.trans made)
    obtain ⟨document, set, made⟩ := bind_eq_ok.mp made
    obtain ⟨root, metadata, read, held, same⟩ := normalized_iff.mp set
    obtain ⟨kept, ⟨json, written, squeezed⟩, fits, enough, capacity, asked⟩ := (prepareDocument_iff bounded).mp made
    have document_eq : prepared.expected = .object (normalizedMembers program root metadata) := kept.trans same
    refine ⟨⟨root, read, ?_⟩, valid.decompresses lawful, capacity, valid.room, json, kept ▸ written, ?_⟩
    · rw [document_eq]
      exact normalizes_normalizedMembers held
    · obtain ⟨heldAgain, unchanged⟩ := normalizedMembers_again program root metadata
      refine bind_eq_ok.mpr ⟨document, normalized_iff.mpr ⟨_, _, ?_, heldAgain, ?_⟩, made⟩
      · rw [lawful.fromSlice_toVec _ _ written, same]
      · rw [unchanged, same]

open Reference in
theorem prepareBytes_exact_plain : ∃ json, site.codec.toVec (preparedIdl plain (some 200)).expected = .ok json ∧
    prepareBytes site.codec json site.program (some 200) = .ok (preparedIdl plain (some 200)) := by
  have bounded : ∀ size, some 200 = some size → size < 2 ^ 64 := by
    intro size same
    cases same
    decide
  exact ((prepareBytes_exact site_lawful plain.text site.program bounded).2 _ prepares_plain).2.2.2.2

end ArchKit.Idl
