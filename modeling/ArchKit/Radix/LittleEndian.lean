import Mathlib.Data.Nat.Basic
import Mathlib.Tactic.Ring

/-! Fixed-width little-endian integers and positions inside byte strings. -/

namespace Radix

/-- The `width` low bytes of a number, least significant first. -/
def toLittleEndian : Nat → Nat → List UInt8
  | 0, _ => []
  | width + 1, value => UInt8.ofNat (value % 256) :: toLittleEndian width (value / 256)

def ofLittleEndian : List UInt8 → Nat
  | [] => 0
  | byte :: bytes => byte.toNat + 256 * ofLittleEndian bytes

@[simp] theorem toLittleEndian_length (width value : Nat) : (toLittleEndian width value).length = width := by
  induction width generalizing value with
  | zero => rfl
  | succ width ih => simp only [toLittleEndian, List.length_cons, ih]

theorem ofLittleEndian_lt (bytes : List UInt8) : ofLittleEndian bytes < 256 ^ bytes.length := by
  induction bytes with
  | nil => simp [ofLittleEndian]
  | cons byte bytes ih =>
    have digit := byte.toNat_lt
    simp only [ofLittleEndian, List.length_cons, pow_succ]
    omega

theorem ofLittleEndian_to {width value : Nat} (fits : value < 256 ^ width) :
    ofLittleEndian (toLittleEndian width value) = value := by
  induction width generalizing value with
  | zero => simp [toLittleEndian, ofLittleEndian] at fits ⊢; omega
  | succ width ih =>
    have rest : value / 256 < 256 ^ width := by
      rw [pow_succ] at fits
      exact Nat.div_lt_of_lt_mul (by rwa [Nat.mul_comm] at fits)
    simp only [toLittleEndian, ofLittleEndian, ih rest, UInt8.toNat_ofNat']
    omega

theorem toLittleEndian_of (bytes : List UInt8) :
    toLittleEndian bytes.length (ofLittleEndian bytes) = bytes := by
  induction bytes with
  | nil => rfl
  | cons byte bytes ih =>
    have digit := byte.toNat_lt
    have low : (byte.toNat + 256 * ofLittleEndian bytes) % 256 = byte.toNat := by omega
    have high : (byte.toNat + 256 * ofLittleEndian bytes) / 256 = ofLittleEndian bytes := by omega
    simp only [List.length_cons, ofLittleEndian, toLittleEndian, low, high, ih, UInt8.ofNat_toNat]

/-- `items[start..stop]`. -/
def slice {α : Type} (items : List α) (start stop : Nat) : List α := (items.take stop).drop start

/-- `items[start..stop]`; `None` is a panic. -/
def slice? {α : Type} (items : List α) (start stop : Nat) : Option (List α) :=
  if start ≤ stop ∧ stop ≤ items.length then some (slice items start stop) else none

theorem slice?_inside {α : Type} {items : List α} {start stop : Nat} (ordered : start ≤ stop) (inside : stop ≤ items.length) :
    slice? items start stop = some (slice items start stop) :=
  if_pos ⟨ordered, inside⟩

@[simp] theorem slice_length {α : Type} (items : List α) (start stop : Nat) :
    (slice items start stop).length = min stop items.length - start := by
  simp [slice]

theorem slice_append_left {α : Type} {items : List α} {start stop : Nat} (rest : List α)
    (inside : stop ≤ items.length) : slice (items ++ rest) start stop = slice items start stop := by
  simp only [slice, List.take_append_of_le_length inside]

theorem slice_add {α : Type} (items : List α) (start count : Nat) :
    slice items start (start + count) = (items.drop start).take count := by
  rw [slice, List.drop_take, Nat.add_sub_cancel_left]

/-- The middle part of a string whose layout is known. -/
theorem slice_middle {α : Type} (first middle last : List α) {start stop : Nat}
    (before : start = first.length) (after : stop = first.length + middle.length) :
    slice (first ++ middle ++ last) start stop = middle := by
  subst before after
  rw [slice_append_left last (by simp), slice, List.take_of_length_le (by simp), List.drop_left]

end Radix
