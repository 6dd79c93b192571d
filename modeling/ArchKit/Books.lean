import Mathlib.Algebra.GroupWithZero.Nat
import Mathlib.Algebra.BigOperators.Group.List.Basic

/-! Double-entry books: amounts at keys, and moves that account for all their changes. -/

namespace Books

/-- An amount that leaves one key and arrives at another. Either may be missing. -/
structure Move (κ : Type) where
  debit : Option κ
  credit : Option κ
  amount : Nat

variable {κ : Type} [DecidableEq κ]

def debits (moves : List (Move κ)) (key : κ) : Nat :=
  (moves.map fun move => if move.debit = some key then move.amount else 0).sum

def credits (moves : List (Move κ)) (key : κ) : Nat :=
  (moves.map fun move => if move.credit = some key then move.amount else 0).sum

theorem debits_append (first second : List (Move κ)) (key : κ) :
    debits (first ++ second) key = debits first key + debits second key := by
  rw [debits, List.map_append, List.sum_append]
  rfl

theorem credits_append (first second : List (Move κ)) (key : κ) :
    credits (first ++ second) key = credits first key + credits second key := by
  rw [credits, List.map_append, List.sum_append]
  rfl

theorem debits_single (move : Move κ) (key : κ) : debits [move] key = if move.debit = some key then move.amount else 0 :=
  List.sum_singleton

theorem credits_single (move : Move κ) (key : κ) : credits [move] key = if move.credit = some key then move.amount else 0 :=
  List.sum_singleton

/-- What a key holds afterwards is what it held before, with all that arrived and without all that left. -/
def Balanced (before after : κ → Nat) (moves : List (Move κ)) : Prop :=
  ∀ key, after key + debits moves key = before key + credits moves key

namespace Balanced
variable {before middle after : κ → Nat} {first second : List (Move κ)}

theorem refl (amounts : κ → Nat) : Balanced amounts amounts [] := fun _ => rfl

theorem trans (early : Balanced before middle first) (late : Balanced middle after second) :
    Balanced before after (first ++ second) := by
  intro key
  have one := early key
  have other := late key
  rw [debits_append, credits_append]
  omega

/-- A move between no keys. -/
theorem still (amounts : κ → Nat) (amount : Nat) : Balanced amounts amounts [⟨none, none, amount⟩] := by
  intro key
  rw [debits_single, credits_single]

theorem credit {key : κ} {amount total : Nat} (credited : total = before key + amount) :
    Balanced before (Function.update before key total) [⟨none, some key, amount⟩] := by
  intro other
  rw [debits_single, credits_single]
  by_cases same : key = other
  · subst same
    simp [credited]
  · simp [same, Function.update_of_ne (Ne.symm same)]

theorem move {source destination : κ} {amount rest total : Nat} (different : source ≠ destination)
    (debited : rest + amount = before source) (credited : total = before destination + amount) :
    Balanced before (Function.update (Function.update before source rest) destination total)
      [⟨some source, some destination, amount⟩] := by
  intro key
  rw [debits_single, credits_single]
  by_cases first : source = key
  · subst first
    rw [Function.update_of_ne different, Function.update_self]
    simp [debited, Ne.symm different]
  · by_cases second : destination = key
    · subst second
      simp [credited, different]
    · simp [first, second, Function.update_of_ne (Ne.symm first), Function.update_of_ne (Ne.symm second)]

end Balanced
end Books
