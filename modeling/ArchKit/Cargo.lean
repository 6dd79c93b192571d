import Mathlib.Data.List.Basic

/-! Names that Cargo and the Rust compiler accept, as far as they are ASCII. -/

namespace Cargo

section Letters

theorem isUpper_iff {letter : Char} : letter.isUpper ↔ 65 ≤ letter.val.toNat ∧ letter.val.toNat ≤ 90 :=
  (decide_eq_true_iff (p := letter.val ≥ 'A'.val ∧ letter.val ≤ 'Z'.val)).trans
    (and_congr UInt32.le_iff_toNat_le UInt32.le_iff_toNat_le)

theorem isLower_iff {letter : Char} : letter.isLower ↔ 97 ≤ letter.val.toNat ∧ letter.val.toNat ≤ 122 := by
  change (decide (letter.val ≥ 'a'.val) && decide (letter.val ≤ 'z'.val)) = true ↔ _
  rw [Bool.and_eq_true, decide_eq_true_eq, decide_eq_true_eq]
  exact and_congr UInt32.le_iff_toNat_le UInt32.le_iff_toNat_le

theorem isAlpha_iff {letter : Char} : letter.isAlpha ↔ letter.isUpper ∨ letter.isLower := Bool.or_eq_true_iff ..

theorem toLower_of_upper {letter : Char} (upper : letter.isUpper) : letter.toLower.val.toNat = letter.val.toNat + 32 := by
  have bounds := isUpper_iff.mp upper
  have shifted : letter.toLower.val = letter.val + 32 :=
    congrArg Char.val (dif_pos (decide_eq_true_iff.mp upper) : letter.toLower = ⟨_, _⟩)
  rw [shifted, UInt32.toNat_add]
  exact Nat.mod_eq_of_lt (Nat.lt_of_le_of_lt (Nat.add_le_add_right bounds.2 32) (by decide))

theorem toLower_of_not_upper {letter : Char} (other : ¬letter.isUpper) : letter.toLower = letter :=
  dif_neg fun upper => other (decide_eq_true upper)

theorem isLower_toLower {letter : Char} (isAlpha : letter.isAlpha) : letter.toLower.isLower := by
  by_cases upper : letter.isUpper
  · have bounds := isUpper_iff.mp upper
    rw [isLower_iff, toLower_of_upper upper]
    exact ⟨Nat.add_le_add_right bounds.1 32, Nat.add_le_add_right bounds.2 32⟩
  · rw [toLower_of_not_upper upper]
    exact (isAlpha_iff.mp isAlpha).resolve_left upper

theorem isDigit_iff {letter : Char} : letter.isDigit ↔ 48 ≤ letter.val.toNat ∧ letter.val.toNat ≤ 57 := by
  simp only [Char.isDigit, Bool.and_eq_true, decide_eq_true_eq, ge_iff_le, UInt32.le_iff_toNat_le]
  exact Iff.rfl

theorem toLower_isDigit {letter : Char} (isDigit : letter.isDigit) : letter.toLower = letter := by
  apply toLower_of_not_upper
  intro upper
  exact absurd (Nat.le_trans (isUpper_iff.mp upper).1 (isDigit_iff.mp isDigit).2) (by decide)

theorem isLower_isAlphanum {letter : Char} (isLower : letter.isLower) : letter.isAlphanum := by
  simp only [Char.isAlphanum, isAlpha_iff.mpr (.inr isLower), Bool.true_or]

theorem isLower_isDigit {letter : Char} (isLower : letter.isLower) : letter.isDigit = false := by
  apply Bool.eq_false_iff.mpr
  intro isDigit
  exact absurd (Nat.le_trans (isLower_iff.mp isLower).1 (isDigit_iff.mp isDigit).2) (by decide)

/-- A letter or digit in lower case is a lower-case letter unless it is a digit. -/
theorem toLower_cases {letter : Char} (kept : letter.isAlphanum) :
    letter.isDigit = false ∧ letter.toLower.isLower ∨ letter.isDigit ∧ letter.toLower = letter := by
  cases isDigit : letter.isDigit with
  | true => exact .inr ⟨rfl, toLower_isDigit isDigit⟩
  | false => exact .inl ⟨rfl, isLower_toLower (by simpa [Char.isAlphanum, isDigit] using kept)⟩

end Letters

/-- The strict keywords of the 2021 edition, then the reserved ones. -/
def keywords : List String :=
  ["as", "async", "await", "break", "const", "continue", "crate", "dyn", "else", "enum", "extern", "false", "fn", "for",
    "if", "impl", "in", "let", "loop", "match", "mod", "move", "mut", "pub", "ref", "return", "self", "Self", "static",
    "struct", "super", "trait", "true", "type", "unsafe", "use", "where", "while"] ++
  ["abstract", "become", "box", "do", "final", "macro", "override", "priv", "try", "typeof", "unsized", "virtual", "yield"]

/-- An identifier that is not a keyword. -/
structure Identifier (name : List Char) : Prop where
  starts : ∃ first rest, name = first :: rest ∧ (first.isAlpha ∨ first = '_')
  letters : ∀ letter ∈ name, letter.isAlphanum ∨ letter = '_'
  named : name ≠ ['_']
  free : String.ofList name ∉ keywords

/-- A package name of lower-case words. -/
structure PackageName (name : List Char) : Prop where
  starts : ∃ first rest, name = first :: rest ∧ first.isLower
  letters : ∀ letter ∈ name, letter.isLower ∨ letter.isDigit ∨ letter = '-'

end Cargo
