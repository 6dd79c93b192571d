import Mathlib.Algebra.BigOperators.Group.Finset.Piecewise
import Mathlib.Algebra.Order.BigOperators.Group.Finset

/-! Amounts at infinitely many keys whose sums are bounded, however many are added up. -/

namespace Totals

def Within {κ : Type} (amounts : κ → Nat) (bound : Nat) : Prop := ∀ keys : Finset κ, ∑ key ∈ keys, amounts key ≤ bound

namespace Within
variable {κ : Type} {amounts later : κ → Nat} {bound gain : Nat}

theorem mono {larger : Nat} (within : Within amounts bound) (below : bound ≤ larger) : Within amounts larger :=
  fun keys => (within keys).trans below

variable [DecidableEq κ]

theorem pair {first second : κ} (within : Within amounts bound) (different : first ≠ second) :
    amounts first + amounts second ≤ bound := by
  simpa only [Finset.sum_pair different] using within {first, second}

/-- One key may gain as much as the bound does. -/
theorem raise {key : κ} (within : Within amounts bound) :
    Within (Function.update amounts key (amounts key + gain)) (bound + gain) := by
  intro keys
  have termwise : ∀ other ∈ keys, Function.update amounts key (amounts key + gain) other ≤
      amounts other + if other = key then gain else 0 := by
    intro other _
    by_cases same : other = key
    · rw [same, Function.update_self, if_pos rfl]
    · rw [Function.update_of_ne same, if_neg same]
      exact Nat.le_add_right ..
  have once : (∑ other ∈ keys, if other = key then gain else 0) ≤ gain := by
    rw [Finset.sum_ite_eq']
    split <;> omega
  calc ∑ other ∈ keys, Function.update amounts key (amounts key + gain) other
      ≤ ∑ other ∈ keys, (amounts other + if other = key then gain else 0) := Finset.sum_le_sum termwise
    _ = (∑ other ∈ keys, amounts other) + ∑ other ∈ keys, if other = key then gain else 0 := Finset.sum_add_distrib
    _ ≤ bound + gain := Nat.add_le_add (within keys) once

/-- What one key loses another may gain. -/
theorem move {source destination : κ} {rest total : Nat} (within : Within amounts bound) (different : source ≠ destination)
    (debited : rest + gain = amounts source) (credited : total = amounts destination + gain) :
    Within (Function.update (Function.update amounts source rest) destination total) bound := by
  intro keys
  let later := Function.update (Function.update amounts source rest) destination total
  have balanced : ∀ key, later key + (if key = source then gain else 0) =
      amounts key + if key = destination then gain else 0 := by
    intro key
    by_cases first : key = source
    · subst first
      simp only [later, Function.update_of_ne different, Function.update_self, if_true, if_neg different]
      exact debited
    · by_cases second : key = destination
      · subst second
        simp only [later, Function.update_self, if_true, if_neg first]
        exact credited
      · simp only [later, Function.update_of_ne second, Function.update_of_ne first, if_neg first, if_neg second]
  have sums : (∑ key ∈ insert source keys, later key) + gain ≤ bound + gain := by
    calc (∑ key ∈ insert source keys, later key) + gain
        = ∑ key ∈ insert source keys, (later key + if key = source then gain else 0) := by
          rw [Finset.sum_add_distrib, Finset.sum_ite_eq', if_pos (Finset.mem_insert_self ..)]
      _ = (∑ key ∈ insert source keys, amounts key) + ∑ key ∈ insert source keys, (if key = destination then gain else 0) := by
          rw [Finset.sum_congr rfl (fun key _ => balanced key), Finset.sum_add_distrib]
      _ ≤ bound + gain := by
          apply Nat.add_le_add (within _)
          rw [Finset.sum_ite_eq']
          split <;> omega
  have part : ∑ key ∈ keys, later key ≤ ∑ key ∈ insert source keys, later key :=
    Finset.sum_le_sum_of_subset (Finset.subset_insert ..)
  exact part.trans (Nat.le_of_add_le_add_right sums)

end Within
end Totals
