import ArchKit.Proofs.Handlers

/-! What a publication can reach on the chain: the canonical account and the buffers whose
keys it has generated. This concerns single instructions, so it holds in whatever order
and however often they are executed. -/

namespace ArchKit
open Idl Satellite

namespace Site
variable (site : Site)

/-- The instructions of a publication with these buffers. -/
inductive Own (base idl : Pubkey) (owned : Pubkey → Prop) : Instruction → Prop where
  | createAccount {buffer : Pubkey} {lamports space : Nat} (own : owned buffer) :
      Own base idl owned (.createAccount site.authority buffer lamports space site.program)
  | create {dataLen : Nat} (small : dataLen < 2 ^ 64) : Own base idl owned (site.createInstruction base idl dataLen)
  | createBuffer {buffer : Pubkey} (own : owned buffer) : Own base idl owned (site.createBufferInstruction buffer)
  | write {target : Pubkey} {chunk : Bytes} (own : target = idl ∨ owned target) (small : chunk.length ≤ maxWriteSize) :
      Own base idl owned (site.writeInstruction target chunk)
  | setBuffer {source target : Pubkey} (own : target = idl ∨ owned target) :
      Own base idl owned (setBufferInstruction site.program source target site.authority)
  | resize {space : Nat} (small : space < 2 ^ 64) : Own base idl owned (site.resizeInstruction idl space)
  | close {buffer : Pubkey} (own : owned buffer) : Own base idl owned (closeBufferInstruction site.program buffer site.authority)

variable {site} {base idl : Pubkey}

theorem Own.mono {owned more : Pubkey → Prop} {instruction : Instruction} (own : site.Own base idl owned instruction)
    (grows : ∀ key, owned key → more key) : site.Own base idl more instruction := by
  cases own with
  | createAccount own => exact .createAccount (grows _ own)
  | create small => exact .create small
  | createBuffer own => exact .createBuffer (grows _ own)
  | write own small => exact .write (own.imp_right (grows _)) small
  | setBuffer own => exact .setBuffer (own.imp_right (grows _))
  | resize small => exact .resize small
  | close own => exact .close (grows _ own)

/-- Only the authority and the buffers have to sign. -/
theorem Own.signers {owned : Pubkey → Prop} {instruction : Instruction} (own : site.Own base idl owned instruction) :
    ∀ key ∈ instruction.signers, key = site.authority ∨ owned key := by
  intro key member
  cases own with
  | createAccount own =>
    rcases List.mem_cons.mp member with payer | buffer
    · exact .inl payer
    · exact .inr (List.mem_singleton.mp buffer ▸ own)
  | create small => exact .inl (List.mem_singleton.mp member)
  | createBuffer own => exact .inl (List.mem_singleton.mp member)
  | write own small => exact .inl (List.mem_singleton.mp member)
  | setBuffer own => exact .inl (List.mem_singleton.mp member)
  | resize small => exact .inl (List.mem_singleton.mp member)
  | close own => exact .inl (List.mem_singleton.mp member)

variable (site)

/-- An account that the handlers change for this authority: its IDL accounts, and accounts
of the program in which nothing is written yet. -/
def Editable (account : AccountInfo) : Prop :=
  account.owner = site.program ∧ (account.data.take 8 = List.replicate 8 0 ∨ ∃ payload, site.Holds account payload)

/-- An account that is still there, with its owner, its rent and all of its space. -/
structure Lasts (account later : AccountInfo) : Prop where
  owner : later.owner = account.owner
  lamports : later.lamports = account.lamports
  executable : later.isExecutable = account.isExecutable
  space : account.data.length ≤ later.data.length

/-- What a publication with these buffers may have done to a ledger. -/
structure Within (idl : Pubkey) (owned : Finset Pubkey) (before after : Ledger) : Prop where
  confined : Ledger.Confined site.authority (insert idl owned) before after
  foreign : ∀ address account, before.accounts address = some account → ¬site.Editable account →
    after.accounts address = some account
  opened : ∀ address account, after.accounts address = some account →
    account.owner = site.program ∨ before.accounts address = some account
  canonical : idl ∉ owned → ∀ account, before.accounts idl = some account →
    ∃ later, after.accounts idl = some later ∧ Lasts account later

variable {site} {owned : Finset Pubkey} {ledger middle after : Ledger} {address : Pubkey} {account updated : AccountInfo}

theorem Lasts.refl : Lasts account account := ⟨rfl, rfl, rfl, Nat.le_refl _⟩

theorem Lasts.trans {later last : AccountInfo} (first : Lasts account later) (second : Lasts later last) : Lasts account last :=
  ⟨second.owner.trans first.owner, second.lamports.trans first.lamports, second.executable.trans first.executable,
    Nat.le_trans first.space second.space⟩

namespace Within

theorem refl : site.Within idl owned ledger ledger :=
  ⟨.refl, fun _ _ found _ => found, fun _ _ found => .inr found, fun _ _ found => ⟨_, found, .refl⟩⟩

theorem trans (first : site.Within idl owned ledger middle) (second : site.Within idl owned middle after) :
    site.Within idl owned ledger after := by
  refine ⟨first.confined.trans second.confined, ?_, ?_, ?_⟩
  · intro address account found other
    exact second.foreign address account (first.foreign address account found other) other
  · intro address account found
    rcases second.opened address account found with own | before
    · exact .inl own
    · exact first.opened address account before
  · intro apart account found
    obtain ⟨later, kept, lasts⟩ := first.canonical apart account found
    obtain ⟨last, shown, still⟩ := second.canonical apart later kept
    exact ⟨last, shown, lasts.trans still⟩

theorem store (found : ledger.accounts address = some account) (editable : site.Editable account) (lasts : Lasts account updated)
    (inside : address ∈ insert idl owned) : site.Within idl owned ledger (ledger.store address updated) := by
  refine ⟨(Ledger.confined_store found lasts.lamports).widen (Finset.singleton_subset_iff.mpr inside), ?_, ?_, ?_⟩
  · intro other untouched present outside
    by_cases same : other = address
    · subst same
      cases found.symm.trans present
      exact absurd editable outside
    · rwa [Ledger.store_ne _ _ same]
  · intro other shown present
    by_cases same : other = address
    · subst same
      rw [Ledger.store_self] at present
      cases present
      exact .inl (lasts.owner.trans editable.1)
    · rw [Ledger.store_ne _ _ same] at present
      exact .inr present
  · intro _ canonical present
    by_cases same : idl = address
    · subst same
      cases found.symm.trans present
      exact ⟨updated, Ledger.store_self .., lasts⟩
    · exact ⟨canonical, (Ledger.store_ne _ _ same).trans present, .refl⟩

theorem create (absent : ledger.accounts address = none) (owns : account.owner = site.program) (inside : address ∈ insert idl owned) :
    site.Within idl owned ledger (ledger.create site.authority address account) := by
  have elsewhere {other : Pubkey} {present : AccountInfo} (found : ledger.accounts other = some present) :
      (ledger.create site.authority address account).accounts other = some present := by
    have different : other ≠ address := by
      intro same
      rw [same, absent] at found
      cases found
    rw [Ledger.create_ne _ _ _ different, found]
  refine ⟨(Ledger.confined_create absent).widen (Finset.singleton_subset_iff.mpr inside), fun _ _ found _ => elsewhere found, ?_,
    fun _ _ found => ⟨_, elsewhere found, .refl⟩⟩
  intro other shown present
  by_cases same : other = address
  · subst same
    rw [Ledger.create_self] at present
    cases present
    exact .inl owns
  · rw [Ledger.create_ne _ _ _ same] at present
    exact .inr present

theorem remove (found : ledger.accounts address = some account) (editable : site.Editable account) (own : address ∈ owned) :
    site.Within idl owned ledger (ledger.remove address site.authority account.lamports) := by
  have inside : {address} ⊆ insert idl owned := Finset.singleton_subset_iff.mpr (Finset.mem_insert_of_mem own)
  refine ⟨(Ledger.confined_remove found).widen inside, ?_, ?_, ?_⟩
  · intro other untouched present outside
    have different : other ≠ address := by
      intro same
      subst same
      cases found.symm.trans present
      exact outside editable
    rw [Ledger.remove_ne _ _ _ different, present]
  · intro other shown present
    have different : other ≠ address := by
      intro same
      subst same
      rw [Ledger.remove_self] at present
      cases present
    rw [Ledger.remove_ne _ _ _ different] at present
    exact .inr present
  · intro apart canonical present
    have different : idl ≠ address := fun same => apart (same ▸ own)
    exact ⟨canonical, (Ledger.remove_ne _ _ _ different).trans present, .refl⟩

end Within

theorem Editable.holds {payload : Bytes} (held : site.Holds account payload) : site.Editable account := ⟨held.owner, .inr ⟨payload, held⟩⟩

/-- A payload that is replaced leaves the rest of its account as it was. -/
theorem Lasts.withPayload {payload other : Bytes} (held : site.Holds account payload)
    (fits : idlHeaderLen + other.length ≤ account.data.length) :
    Lasts account { account with data := Satellite.withPayload account.data other } := by
  refine ⟨rfl, rfl, rfl, ?_⟩
  have long := held.capacity
  simp only [Satellite.withPayload, List.length_append, List.length_take, List.length_drop, Radix.toLittleEndian_length]
  simp only [idlHeaderLen] at long fits ⊢
  omega

theorem Own.within {instruction : Instruction} (own : site.Own base idl (· ∈ owned) instruction)
    (executed : processInstruction site.sdk site.program ledger instruction = some after) : site.Within idl owned ledger after := by
  have inside {target : Pubkey} (own : target = idl ∨ target ∈ owned) : target ∈ insert idl owned := Finset.mem_insert.mpr own
  cases own with
  | createAccount own =>
    simp only [processInstruction] at executed
    split at executed
    next => cases executed
    next absent =>
      cases executed
      exact .create absent rfl (inside (.inr own))
  | create small =>
    simp only [processInstruction, createInstruction, decode_createIxData small, execute, AccountMeta.new, AccountMeta.newReadonly,
      List.map_cons, if_true] at executed
    split at executed
    next => cases executed
    next absent =>
      cases executed
      exact .create absent rfl (inside (.inl rfl))
  | createBuffer own =>
    simp only [processInstruction, createBufferInstruction, decode_createBuffer, execute, AccountMeta.new, AccountMeta.newReadonly,
      List.map_cons, if_true] at executed
    split at executed
    next account found =>
      split at executed
      next fresh =>
        cases executed
        obtain ⟨owner, long, zero⟩ := fresh
        refine .store found ⟨owner, .inl zero⟩ ⟨rfl, rfl, rfl, ?_⟩ (inside (.inr own))
        simp only [List.length_append, header_length, List.length_drop]
        omega
      next => cases executed
    next => cases executed
  | @write target chunk own small =>
    have short : chunk.length < 2 ^ 32 := by
      simp only [maxWriteSize] at small
      omega
    simp only [processInstruction, writeInstruction, decode_writeIxData short, execute, AccountMeta.new, AccountMeta.newReadonly,
      List.map_cons, if_true] at executed
    split at executed
    next account found =>
      split at executed
      next payload read =>
        have held := payload?_eq_some.mp read
        split at executed
        next fits =>
          cases executed
          exact .store found (.holds held) (.withPayload held fits) (inside own)
        next => cases executed
      next => cases executed
    next => cases executed
  | setBuffer own =>
    simp only [processInstruction, setBufferInstruction, decode_setBuffer, execute, AccountMeta.new, AccountMeta.newReadonly,
      List.map_cons, if_true] at executed
    split at executed
    next source destination read found =>
      split at executed
      next payload old _ kept =>
        have held := payload?_eq_some.mp kept
        split at executed
        next fits =>
          cases executed
          exact .store found (.holds held) (.withPayload held fits) (inside own)
        next => cases executed
      next => cases executed
    next => cases executed
  | resize small =>
    simp only [processInstruction, resizeInstruction, decode_resizeIxData small, execute, AccountMeta.new, AccountMeta.newReadonly,
      List.map_cons, if_true] at executed
    split at executed
    next account found =>
      split at executed
      next payload read =>
        split at executed
        next =>
          cases executed
          refine .store found (.holds (payload?_eq_some.mp read)) ⟨rfl, rfl, rfl, ?_⟩ (inside (.inl rfl))
          rw [List.length_append]
          omega
        next => cases executed
      next => cases executed
    next => cases executed
  | close own =>
    simp only [processInstruction, closeBufferInstruction, decode_close, execute, AccountMeta.new, AccountMeta.newReadonly,
      List.map_cons, if_true] at executed
    split at executed
    next account found =>
      split at executed
      next payload read =>
        cases executed
        exact .remove found (.holds (payload?_eq_some.mp read)) own
      next => cases executed
    next => cases executed

theorem process_within {instructions : List Instruction} (own : ∀ instruction ∈ instructions, site.Own base idl (· ∈ owned) instruction)
    (executed : site.process ledger instructions = some after) : site.Within idl owned ledger after := by
  induction instructions generalizing ledger with
  | nil =>
    cases executed
    exact .refl
  | cons instruction rest ih =>
    obtain ⟨middle, first, later⟩ := process_cons_some executed
    exact ((own instruction List.mem_cons_self).within first).trans (ih (fun other member => own other (List.mem_cons_of_mem _ member)) later)

/-- Transactions executed one after the other. -/
def playAll (site : Site) (ledger : Ledger) (transactions : List RuntimeTransaction) : Option Ledger :=
  transactions.foldlM (fun ledger transaction => site.process ledger transaction.message.instructions) ledger

theorem playAll_within (base : Pubkey) {transactions : List RuntimeTransaction} (own : ∀ transaction ∈ transactions,
      ∀ instruction ∈ transaction.message.instructions, site.Own base idl (· ∈ owned) instruction)
    (executed : site.playAll ledger transactions = some after) : site.Within idl owned ledger after := by
  induction transactions generalizing ledger with
  | nil =>
    cases executed
    exact .refl
  | cons transaction rest ih =>
    obtain ⟨middle, first, later⟩ := Option.bind_eq_some_iff.mp executed
    exact (process_within (own transaction List.mem_cons_self) first).trans
      (ih (fun other member => own other (List.mem_cons_of_mem _ member)) later)

end Site
end ArchKit
