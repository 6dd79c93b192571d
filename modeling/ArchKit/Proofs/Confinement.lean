import ArchKit.Satellite
import Mathlib.Algebra.BigOperators.Group.Finset.Basic

/-! Which accounts a change of the ledger touches. The lamports of those accounts and
of one wallet add up to the same sum before and after. -/

namespace ArchKit.Ledger

/-- The lamports of an account; an absent account has none. -/
def rent (ledger : Ledger) (address : Pubkey) : Int := (ledger.accounts address).elim 0 (fun account => account.lamports)

structure Confined (wallet : Pubkey) (touched : Finset Pubkey) (before after : Ledger) : Prop where
  others : ∀ other, other ∉ touched → after.accounts other = before.accounts other
  conserved : after.balances wallet + ∑ address ∈ touched, after.rent address =
    before.balances wallet + ∑ address ∈ touched, before.rent address

variable {ledger before middle after : Ledger} {wallet address : Pubkey} {touched wider : Finset Pubkey}
  {account updated : AccountInfo}

theorem sum_rent_congr (same : ∀ address ∈ touched, after.accounts address = before.accounts address) :
    ∑ address ∈ touched, after.rent address = ∑ address ∈ touched, before.rent address := by
  apply Finset.sum_congr rfl
  intro address member
  rw [rent, rent, same address member]

namespace Confined

theorem refl : Confined wallet touched ledger ledger := ⟨fun _ _ => rfl, rfl⟩

theorem trans (first : Confined wallet touched before middle) (second : Confined wallet touched middle after) :
    Confined wallet touched before after :=
  ⟨fun other outside => (second.others other outside).trans (first.others other outside),
    second.conserved.trans first.conserved⟩

theorem widen (confined : Confined wallet touched before after) (inside : touched ⊆ wider) :
    Confined wallet wider before after := by
  refine ⟨fun other outside => confined.others other (fun member => outside (inside member)), ?_⟩
  have rest : ∑ address ∈ wider \ touched, after.rent address = ∑ address ∈ wider \ touched, before.rent address :=
    sum_rent_congr (fun other member => confined.others other (Finset.mem_sdiff.mp member).2)
  have conserved := confined.conserved
  rw [← Finset.sum_sdiff inside, ← Finset.sum_sdiff inside, rest]
  omega

theorem ne (confined : Confined wallet {address} before after) {other : Pubkey} (different : other ≠ address) :
    after.accounts other = before.accounts other :=
  confined.others other (by simpa using different)

end Confined

theorem confined_store (found : ledger.accounts address = some account) (kept : updated.lamports = account.lamports) :
    Confined wallet {address} ledger (ledger.store address updated) := by
  refine ⟨fun other outside => ledger.store_ne _ (by simpa using outside), ?_⟩
  rw [Finset.sum_singleton, Finset.sum_singleton, rent, rent, store_self, found]
  simp only [store, Option.elim_some, kept]

theorem confined_create (absent : ledger.accounts address = none) :
    Confined wallet {address} ledger (ledger.create wallet address account) := by
  refine ⟨fun other outside => ledger.create_ne _ _ (by simpa using outside), ?_⟩
  rw [Finset.sum_singleton, Finset.sum_singleton, rent, rent, create_self, absent]
  simp only [create, Function.update_self, Option.elim_some, Option.elim_none]
  omega

theorem confined_remove (found : ledger.accounts address = some account) :
    Confined wallet {address} ledger (ledger.remove address wallet account.lamports) := by
  refine ⟨fun other outside => ledger.remove_ne _ _ (by simpa using outside), ?_⟩
  rw [Finset.sum_singleton, Finset.sum_singleton, rent, rent, remove_self, found]
  simp only [remove, Function.update_self, Option.elim_some, Option.elim_none]
  omega

end ArchKit.Ledger
