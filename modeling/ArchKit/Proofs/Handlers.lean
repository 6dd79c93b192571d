import ArchKit.Proofs.Confinement
import ArchKit.Proofs.IdlAccount

/-! What each instruction the toolkit builds does on the chain, stated on the
payloads of the accounts it names. -/

namespace ArchKit.Satellite
open Radix Idl

variable (sdk : Sdk) {program authority : Pubkey}

theorem decode_createIxData {dataLen : Nat} (small : dataLen < 2 ^ 64) :
    decode (createIxData dataLen) = some (.create dataLen) := by
  have read : ofLittleEndian (toLittleEndian 8 dataLen) = dataLen := ofLittleEndian_to (by simpa using small)
  simp [decode, createIxData, idlIxTagLe, tagCreate, read]

theorem decode_writeIxData {chunk : Bytes} (small : chunk.length < 2 ^ 32) :
    decode (writeIxData chunk) = some (.write chunk) := by
  have read : ofLittleEndian (toLittleEndian 4 chunk.length) = chunk.length := ofLittleEndian_to (by simpa using small)
  have front : (toLittleEndian 4 chunk.length ++ chunk).take 4 = toLittleEndian 4 chunk.length :=
    List.take_left' (by simp)
  have back : (toLittleEndian 4 chunk.length ++ chunk).drop 4 = chunk := List.drop_left' (by simp)
  simp [decode, writeIxData, idlIxTagLe, tagCreate, tagCreateBuffer, tagWrite, front, back, read]

theorem decode_resizeIxData {space : Nat} (small : space < 2 ^ 64) :
    decode (resizeIxData space) = some (.resize space) := by
  have read : ofLittleEndian (toLittleEndian 8 space) = space := ofLittleEndian_to (by simpa using small)
  simp [decode, resizeIxData, idlIxTagLe, tagCreate, tagCreateBuffer, tagWrite, tagSetBuffer, tagClose, tagResize, read]

theorem decode_createBuffer : decode (unitIxData tagCreateBuffer) = some .createBuffer := by decide

theorem decode_setBuffer : decode (unitIxData tagSetBuffer) = some .setBuffer := by decide

theorem decode_close : decode (unitIxData tagClose) = some .close := by decide

/-- An account as a handler leaves it: a payload and a length, the rent untouched. -/
structure Becomes (program authority : Pubkey) (before after : AccountInfo) (payload : Bytes) (length : Nat) : Prop where
  holds : Holds program authority after payload
  length : after.data.length = length
  lamports : after.lamports = before.lamports

theorem Becomes.trans {first second third : AccountInfo} {payload other : Bytes} {length size : Nat}
    (one : Becomes program authority first second payload length)
    (two : Becomes program authority second third other size) : Becomes program authority first third other size :=
  ⟨two.holds, two.length, two.lamports.trans one.lamports⟩

theorem setBuffer_copies {ledger : Ledger} {buffer target : Pubkey} {source destination : AccountInfo}
    {payload old : Bytes} (found : ledger.accounts buffer = some source)
    (held : Holds program authority source payload) (seen : ledger.accounts target = some destination)
    (kept : Holds program authority destination old)
    (fits : idlHeaderLen + payload.length ≤ destination.data.length) :
    ∃ updated, Becomes program authority destination updated payload destination.data.length ∧
      processInstruction sdk program ledger (setBufferInstruction program buffer target authority) =
        some (ledger.store target updated) := by
  obtain ⟨holds, length⟩ := kept.store held.fits fits
  refine ⟨_, ⟨holds, length, rfl⟩, ?_⟩
  simp [processInstruction, setBufferInstruction, decode_setBuffer, execute, AccountMeta.new, AccountMeta.newReadonly,
    found, seen, payload?_eq_some.mpr held, payload?_eq_some.mpr kept, fits]

theorem setBuffer_fits {ledger after : Ledger} {buffer target : Pubkey} {source destination : AccountInfo}
    {payload old : Bytes} (found : ledger.accounts buffer = some source)
    (held : Holds program authority source payload) (seen : ledger.accounts target = some destination)
    (kept : Holds program authority destination old)
    (ran : processInstruction sdk program ledger (setBufferInstruction program buffer target authority) = some after) :
    idlHeaderLen + payload.length ≤ destination.data.length := by
  by_contra large
  simp [processInstruction, setBufferInstruction, decode_setBuffer, execute, AccountMeta.new, AccountMeta.newReadonly,
    found, seen, payload?_eq_some.mpr held, payload?_eq_some.mpr kept, large] at ran

theorem close_removes {ledger : Ledger} {buffer : Pubkey} {account : AccountInfo} {payload : Bytes}
    (found : ledger.accounts buffer = some account) (held : Holds program authority account payload) :
    processInstruction sdk program ledger (closeBufferInstruction program buffer authority) =
      some (ledger.remove buffer authority account.lamports) := by
  simp [processInstruction, closeBufferInstruction, decode_close, execute, AccountMeta.new, AccountMeta.newReadonly,
    found, payload?_eq_some.mpr held]

end ArchKit.Satellite

namespace ArchKit.Site
open Radix Idl Satellite

variable (site : Site)

abbrev Becomes : AccountInfo → AccountInfo → Bytes → Nat → Prop :=
  Satellite.Becomes site.program site.authority

/-- The effect of a transaction's instructions. -/
abbrev process : Ledger → List Instruction → Option Ledger := processInstructions site.sdk site.program

variable {site}

theorem process_cons {ledger middle : Ledger} {instruction : Instruction} {rest : List Instruction}
    (first : processInstruction site.sdk site.program ledger instruction = some middle) :
    site.process ledger (instruction :: rest) = site.process middle rest := by
  simp only [process, processInstructions, first]

theorem process_cons_some {ledger after : Ledger} {instruction : Instruction} {rest : List Instruction}
    (ran : site.process ledger (instruction :: rest) = some after) :
    ∃ middle, processInstruction site.sdk site.program ledger instruction = some middle ∧
      site.process middle rest = some after := by
  simp only [process, processInstructions] at ran
  split at ran
  next middle first => exact ⟨middle, first, ran⟩
  next => cases ran

theorem resize_grows {ledger : Ledger} {idlAddress : Pubkey} {account : AccountInfo} {space : Nat}
    (found : ledger.accounts idlAddress = some account) (held : site.Holds account [])
    (small : space < 2 ^ 64) (below : account.data.length ≤ space) :
    ∃ updated, site.Becomes account updated []
        (account.data.length + min (space - account.data.length) idlResizeIncrement) ∧
      processInstruction site.sdk site.program ledger (site.resizeInstruction idlAddress space) =
        some (ledger.store idlAddress updated) := by
  refine ⟨{ account with data := account.data ++ List.replicate (min (space - account.data.length) idlResizeIncrement) 0 },
    ⟨held.extend _, by simp, rfl⟩, ?_⟩
  simp [processInstruction, resizeInstruction, decode_resizeIxData small, execute, AccountMeta.new, AccountMeta.newReadonly,
    found, payload?_eq_some.mpr held, below]

theorem resize_below {ledger after : Ledger} {idlAddress : Pubkey} {account : AccountInfo} {space : Nat} {payload : Bytes}
    (found : ledger.accounts idlAddress = some account) (held : site.Holds account payload) (small : space < 2 ^ 64)
    (ran : processInstruction site.sdk site.program ledger (site.resizeInstruction idlAddress space) = some after) :
    account.data.length ≤ space := by
  by_contra above
  simp [processInstruction, resizeInstruction, decode_resizeIxData small, execute, AccountMeta.new, AccountMeta.newReadonly,
    found, payload?_eq_some.mpr held, above] at ran

theorem write_appends {ledger : Ledger} {target : Pubkey} {account : AccountInfo} {payload : Bytes} (chunk : Bytes)
    (found : ledger.accounts target = some account) (held : site.Holds account payload)
    (small : (payload ++ chunk).length < 2 ^ 32) (fits : idlHeaderLen + (payload ++ chunk).length ≤ account.data.length) :
    ∃ updated, site.Becomes account updated (payload ++ chunk) account.data.length ∧
      site.process ledger [site.writeInstruction target chunk] = some (ledger.store target updated) := by
  obtain ⟨holds, length⟩ := held.store small fits
  refine ⟨_, ⟨holds, length, rfl⟩, ?_⟩
  have short : chunk.length < 2 ^ 32 := by
    simp only [List.length_append] at small; omega
  have room : idlHeaderLen + (payload.length + chunk.length) ≤ account.data.length := by simpa using fits
  simp [process, processInstructions, processInstruction, writeInstruction, decode_writeIxData short, execute,
    AccountMeta.new, AccountMeta.newReadonly, found, payload?_eq_some.mpr held, room]

/-- A buffer created with `space` bytes, before anything is copied into it. -/
theorem createBuffer_opens (site : Site) {ledger : Ledger} {buffer : Pubkey} {space : Nat} (lamports : Nat) (rest : List Instruction)
    (absent : ledger.accounts buffer = none) (long : idlHeaderLen ≤ space) :
    ∃ account, site.Holds account [] ∧ account.data.length = space ∧ account.lamports = lamports ∧
      site.process ledger
        ([.createAccount site.authority buffer lamports space site.program,
          site.createBufferInstruction buffer] ++ rest) =
        site.process (ledger.create site.authority buffer account) rest := by
  let slack : Bytes := List.replicate (space - idlHeaderLen) 0
  refine ⟨⟨lamports, site.program, header site.authority 0 ++ slack, false⟩, Holds.fresh .., ?_, rfl, ?_⟩
  · simp only [List.length_append, header_length, slack, List.length_replicate]
    omega
  · have zeros : (List.replicate space (0 : UInt8)).take 8 = List.replicate 8 0 := by
      simp only [List.take_replicate]
      rw [Nat.min_eq_left (by simp only [idlHeaderLen] at long; omega)]
    simp [process, processInstructions, processInstruction, createBufferInstruction, decode_createBuffer, execute,
      AccountMeta.new, AccountMeta.newReadonly, absent, Ledger.create, Ledger.store, long, zeros, slack]

section Creation
variable {ledger : Ledger} {buffer : Pubkey} {space : Nat} (lamports : Nat) {copyFrom : Option Pubkey} {source : AccountInfo}
  {payload : Bytes} (absent : ledger.accounts buffer = none) (long : idlHeaderLen ≤ space)
  (found : ∀ address, copyFrom = some address → address ≠ buffer ∧ ledger.accounts address = some source)
  (held : site.Holds source payload)
include absent long found held

/-- A created buffer holds what it copies. -/
theorem createBuffer_executes (fits : copyFrom.isSome → idlHeaderLen + payload.length ≤ space) :
    ∃ account after, site.Holds account (if copyFrom.isSome then payload else []) ∧ account.data.length = space ∧
      after.accounts buffer = some account ∧ Ledger.Confined site.authority {buffer} ledger after ∧
      site.process ledger
        ([.createAccount site.authority buffer lamports space site.program, site.createBufferInstruction buffer] ++
          copyFrom.toList.map (setBufferInstruction site.program · buffer site.authority)) = some after := by
  obtain ⟨opened, empty, size, _, opens⟩ := createBuffer_opens site lamports
    (copyFrom.toList.map (setBufferInstruction site.program · buffer site.authority)) absent long
  rw [opens]
  cases copyFrom with
  | none =>
    exact ⟨opened, _, empty, size, ledger.create_self .., Ledger.confined_create absent, rfl⟩
  | some address =>
    obtain ⟨different, seen⟩ := found address rfl
    have present : (ledger.create site.authority buffer opened).accounts address = some source := by
      rw [ledger.create_ne _ _ different, seen]
    obtain ⟨updated, became, copies⟩ := setBuffer_copies site.sdk present held (ledger.create_self ..) empty
      (size ▸ fits rfl)
    refine ⟨updated, (ledger.create site.authority buffer opened).store buffer updated, became.holds,
      became.length.trans size, Ledger.store_self .., ?_, process_cons copies⟩
    exact (Ledger.confined_create absent).trans (Ledger.confined_store (ledger.create_self ..) became.lamports)

theorem createBuffer_inverts {after : Ledger}
    (ran : site.process ledger
      ([.createAccount site.authority buffer lamports space site.program, site.createBufferInstruction buffer] ++
        copyFrom.toList.map (setBufferInstruction site.program · buffer site.authority)) = some after) :
    ∃ account, site.Holds account (if copyFrom.isSome then payload else []) ∧ account.data.length = space ∧
      after.accounts buffer = some account ∧ ∀ other, other ≠ buffer → after.accounts other = ledger.accounts other := by
  have fits : copyFrom.isSome → idlHeaderLen + payload.length ≤ space := by
    intro copies
    obtain ⟨address, rfl⟩ := Option.isSome_iff_exists.mp copies
    obtain ⟨opened, empty, size, _, opens⟩ := createBuffer_opens site lamports
      [setBufferInstruction site.program address buffer site.authority] absent long
    obtain ⟨different, seen⟩ := found address rfl
    have present : (ledger.create site.authority buffer opened).accounts address = some source := by
      rw [ledger.create_ne _ _ different, seen]
    obtain ⟨copied, first, _⟩ := process_cons_some (opens.symm.trans ran)
    exact size ▸ setBuffer_fits site.sdk present held (ledger.create_self ..) empty first
  obtain ⟨account, created, holds, size, shown, others, executes⟩ := createBuffer_executes lamports absent long found held fits
  cases executes.symm.trans ran
  exact ⟨account, holds, size, shown, fun _ different => others.ne different⟩

end Creation

/-- The ledger after a growth transaction that left the account as `updated`. -/
def grown (ledger : Ledger) (idlAddress empty backup : Pubkey) (updated emptied saved : AccountInfo) (last : Bool) :
    Ledger :=
  let restored := ledger.store idlAddress updated
  if last then
    (restored.remove empty site.authority emptied.lamports).remove backup site.authority saved.lamports
  else restored

section Grown
variable {ledger : Ledger} {idlAddress empty backup : Pubkey} {updated emptied saved : AccountInfo} {last : Bool}

theorem grown_self (emptyOther : empty ≠ idlAddress) (backupOther : backup ≠ idlAddress) :
    (site.grown ledger idlAddress empty backup updated emptied saved last).accounts idlAddress = some updated := by
  unfold grown
  split
  · rw [Ledger.remove_ne _ _ _ backupOther.symm, Ledger.remove_ne _ _ _ emptyOther.symm, Ledger.store_self]
  · exact Ledger.store_self ..

theorem grown_ne {other : Pubkey} (different : other ≠ idlAddress)
    (apart : last = true → other ≠ empty ∧ other ≠ backup) :
    (site.grown ledger idlAddress empty backup updated emptied saved last).accounts other = ledger.accounts other := by
  unfold grown
  split
  next closing =>
    obtain ⟨one, two⟩ := apart closing
    rw [Ledger.remove_ne _ _ _ two, Ledger.remove_ne _ _ _ one, Ledger.store_ne _ _ different]
  next => exact Ledger.store_ne _ _ different

/-- The accounts that growth touches; the buffers only when it also closes them. -/
def touched (idlAddress : Pubkey) (buffers : Option (Pubkey × Pubkey)) : Finset Pubkey :=
  insert idlAddress (buffers.elim ∅ (fun pair => {pair.1, pair.2}))

theorem touched_self (idlAddress : Pubkey) (buffers : Option (Pubkey × Pubkey)) : {idlAddress} ⊆ touched idlAddress buffers :=
  Finset.singleton_subset_iff.mpr (Finset.mem_insert_self ..)

/-- Growth without closing moves no lamports; closing returns the rent of the buffers. -/
theorem grown_confined {canonical : AccountInfo} (found : ledger.accounts idlAddress = some canonical)
    (kept : updated.lamports = canonical.lamports) (emptyFound : ledger.accounts empty = some emptied)
    (backupFound : ledger.accounts backup = some saved) (emptyOther : empty ≠ idlAddress) (backupOther : backup ≠ idlAddress)
    (separate : backup ≠ empty) :
    Ledger.Confined site.authority (touched idlAddress (if last then some (empty, backup) else none)) ledger
      (site.grown ledger idlAddress empty backup updated emptied saved last) := by
  have stored : Ledger.Confined site.authority {idlAddress} ledger (ledger.store idlAddress updated) :=
    Ledger.confined_store found kept
  cases last with
  | false => exact stored
  | true =>
    have emptyKept : (ledger.store idlAddress updated).accounts empty = some emptied := by
      rw [Ledger.store_ne _ _ emptyOther, emptyFound]
    have backupLeft : ((ledger.store idlAddress updated).remove empty site.authority emptied.lamports).accounts backup =
        some saved := by
      rw [Ledger.remove_ne _ _ _ separate, Ledger.store_ne _ _ backupOther, backupFound]
    have first : {empty} ⊆ touched idlAddress (some (empty, backup)) := by simp [touched]
    have second : {backup} ⊆ touched idlAddress (some (empty, backup)) := by simp [touched]
    exact ((stored.widen (touched_self ..)).trans ((Ledger.confined_remove emptyKept).widen first)).trans
      ((Ledger.confined_remove backupLeft).widen second)

theorem grown_closes (separate : backup ≠ empty) :
    (site.grown ledger idlAddress empty backup updated emptied saved true).accounts empty = none ∧
      (site.grown ledger idlAddress empty backup updated emptied saved true).accounts backup = none := by
  refine ⟨?_, Ledger.remove_self ..⟩
  change (Ledger.remove _ backup site.authority saved.lamports).accounts empty = none
  rw [Ledger.remove_ne _ _ _ separate.symm, Ledger.remove_self]

end Grown

section Growth
variable {ledger : Ledger} {idlAddress empty backup : Pubkey} {canonical emptied saved : AccountInfo}
  {old payload : Bytes} {space : Nat} (last : Bool)
  (found : ledger.accounts idlAddress = some canonical) (held : site.Holds canonical old)
  (emptyFound : ledger.accounts empty = some emptied) (emptyHeld : site.Holds emptied [])
  (backupFound : ledger.accounts backup = some saved) (backupHeld : site.Holds saved payload)
  (emptyOther : empty ≠ idlAddress) (backupOther : backup ≠ idlAddress) (small : space < 2 ^ 64)
include found held emptyFound emptyHeld backupFound backupHeld emptyOther backupOther small

theorem grow_restores (separate : backup ≠ empty) (below : canonical.data.length ≤ space)
    (fits : idlHeaderLen + payload.length ≤
      canonical.data.length + min (space - canonical.data.length) idlResizeIncrement) :
    ∃ updated, site.Becomes canonical updated payload
        (canonical.data.length + min (space - canonical.data.length) idlResizeIncrement) ∧
      site.process ledger (site.growInstructions idlAddress space (some (empty, backup)) last) =
        some (site.grown ledger idlAddress empty backup updated emptied saved last) := by
  obtain ⟨cleared, one, first⟩ := setBuffer_copies site.sdk emptyFound emptyHeld found held
    (by have := held.capacity; simp only [List.length_nil]; omega)
  obtain ⟨resized, two, second⟩ := resize_grows (ledger.store_self idlAddress cleared) one.holds small
    (by rw [one.length]; exact below)
  have backupKept : ((ledger.store idlAddress cleared).store idlAddress resized).accounts backup = some saved := by
    rw [Ledger.store_ne _ _ backupOther, Ledger.store_ne _ _ backupOther, backupFound]
  rw [one.length] at two
  obtain ⟨restored, three, third⟩ := setBuffer_copies site.sdk backupKept backupHeld
    ((ledger.store idlAddress cleared).store_self idlAddress resized) two.holds (by rw [two.length]; exact fits)
  rw [two.length] at three
  refine ⟨restored, (one.trans two).trans three, ?_⟩
  simp only [growInstructions, List.cons_append, List.nil_append]
  rw [process_cons first, process_cons second, process_cons third, Ledger.store_store, Ledger.store_store]
  cases last with
  | false => rfl
  | true =>
    have emptyKept : (ledger.store idlAddress restored).accounts empty = some emptied := by
      rw [Ledger.store_ne _ _ emptyOther, emptyFound]
    have backupLeft : ((ledger.store idlAddress restored).remove empty site.authority emptied.lamports).accounts backup =
        some saved := by
      rw [Ledger.remove_ne _ _ _ separate, Ledger.store_ne _ _ backupOther, backupFound]
    simp only [if_true]
    rw [process_cons (close_removes _ emptyKept emptyHeld), process_cons (close_removes _ backupLeft backupHeld)]
    rfl

omit emptyOther in
/-- A committed growth transaction had room for the account and for the backup. -/
theorem grow_inverts {after : Ledger}
    (ran : site.process ledger (site.growInstructions idlAddress space (some (empty, backup)) last) = some after) :
    canonical.data.length ≤ space ∧ idlHeaderLen + payload.length ≤
      canonical.data.length + min (space - canonical.data.length) idlResizeIncrement := by
  simp only [growInstructions, List.cons_append, List.nil_append] at ran
  obtain ⟨cleared, one, first⟩ := setBuffer_copies site.sdk emptyFound emptyHeld found held
    (by have := held.capacity; simp only [List.length_nil]; omega)
  rw [process_cons first] at ran
  obtain ⟨middle, second, ran⟩ := process_cons_some ran
  have below := resize_below (ledger.store_self idlAddress cleared) one.holds small second
  obtain ⟨resized, two, resize⟩ := resize_grows (ledger.store_self idlAddress cleared) one.holds small below
  rw [resize] at second
  cases second
  obtain ⟨last, third, _⟩ := process_cons_some ran
  have backupKept : ((ledger.store idlAddress cleared).store idlAddress resized).accounts backup = some saved := by
    rw [Ledger.store_ne _ _ backupOther, Ledger.store_ne _ _ backupOther, backupFound]
  have fits := setBuffer_fits site.sdk backupKept backupHeld ((ledger.store idlAddress cleared).store_self idlAddress resized)
    two.holds third
  rw [two.length, one.length] at fits
  rw [one.length] at below
  exact ⟨below, fits⟩

end Growth

/-- What a growth transaction needs in order to leave the payload as it was. -/
def Restorable (site : Site) (idlAddress : Pubkey) (payload : Bytes) (ledger : Ledger) : Option (Pubkey × Pubkey) → Prop
  | none => payload = []
  | some (empty, backup) => (empty ≠ idlAddress ∧ backup ≠ idlAddress ∧ backup ≠ empty) ∧
      (∃ emptied, ledger.accounts empty = some emptied ∧ site.Holds emptied []) ∧
      ∃ saved, ledger.accounts backup = some saved ∧ site.Holds saved payload

theorem Restorable.kept {idlAddress : Pubkey} {payload : Bytes} {ledger after : Ledger} {buffers : Option (Pubkey × Pubkey)}
    (restorable : site.Restorable idlAddress payload ledger buffers)
    (same : ∀ other, other ≠ idlAddress → after.accounts other = ledger.accounts other) :
    site.Restorable idlAddress payload after buffers := by
  match buffers, restorable with
  | none, empty => exact empty
  | some (empty, backup), ⟨apart, ⟨emptied, emptyFound, emptyHeld⟩, saved, backupFound, backupHeld⟩ =>
    exact ⟨apart, ⟨emptied, (same _ apart.1).trans emptyFound, emptyHeld⟩, saved,
      (same _ apart.2.1).trans backupFound, backupHeld⟩

theorem growInstructions_signers {idlAddress : Pubkey} {space : Nat} {buffers : Option (Pubkey × Pubkey)} {last : Bool} :
    ∀ instruction ∈ site.growInstructions idlAddress space buffers last, instruction.signers = [site.authority] := by
  cases buffers <;> cases last <;>
    simp [growInstructions, setBufferInstruction, closeBufferInstruction, resizeInstruction, Instruction.signers,
      AccountMeta.new, AccountMeta.newReadonly]

theorem grow_executes {ledger : Ledger} {idlAddress : Pubkey} {account : AccountInfo} {payload : Bytes} {space : Nat}
    (buffers : Option (Pubkey × Pubkey)) (last : Bool) (found : ledger.accounts idlAddress = some account)
    (held : site.Holds account payload) (restorable : site.Restorable idlAddress payload ledger buffers)
    (small : space < 2 ^ 64) (below : account.data.length ≤ space) :
    ∃ updated after, site.Becomes account updated payload
        (account.data.length + min (space - account.data.length) idlResizeIncrement) ∧
      site.process ledger (site.growInstructions idlAddress space buffers last) = some after ∧
      after.accounts idlAddress = some updated ∧
      Ledger.Confined site.authority (touched idlAddress (if last then buffers else none)) ledger after ∧
      (last = true → ∀ pair, buffers = some pair → after.accounts pair.1 = none ∧ after.accounts pair.2 = none) := by
  match buffers, restorable with
  | none, empty =>
    cases empty
    obtain ⟨updated, became, resizes⟩ := resize_grows found held small below
    refine ⟨updated, _, became, process_cons resizes, Ledger.store_self .., ?_, fun _ pair same => by cases same⟩
    rw [ite_self]
    exact Ledger.confined_store found became.lamports
  | some (empty, backup), ⟨⟨emptyOther, backupOther, separate⟩, ⟨emptied, emptyFound, emptyHeld⟩, saved, backupFound, backupHeld⟩ =>
    obtain ⟨updated, became, grows⟩ := grow_restores last found held emptyFound emptyHeld backupFound backupHeld emptyOther
      backupOther small separate below (Nat.le_trans held.capacity (Nat.le_add_right _ _))
    refine ⟨updated, _, became, grows, grown_self emptyOther backupOther, ?_, ?_⟩
    · exact grown_confined found became.lamports emptyFound backupFound emptyOther backupOther separate
    · intro closing pair same
      cases same
      subst closing
      exact grown_closes separate

end ArchKit.Site
