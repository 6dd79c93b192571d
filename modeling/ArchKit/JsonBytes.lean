import ArchKit.Text
import Mathlib.Data.List.Forall2

/-! Arrays of bytes in JSON: which texts spell one, and a reader that accepts exactly those. -/

namespace JsonBytes
open Text

/-- White space between the tokens of a JSON text. -/
def isBlank (letter : Char) : Bool := letter = ' ' || letter = '\t' || letter = '\n' || letter = '\r'

/-- An integer has no leading zero and no sign. -/
def decimal (byte : UInt8) : List Char := Nat.toDigits 10 byte.toNat

/-- What stands between the brackets of an array. -/
def Items (inner : List Char) : List UInt8 → Prop
  | [] => ∀ letter ∈ inner, isBlank letter
  | byte :: bytes => ∃ cells, List.Forall₂ (fun cell byte => Around isBlank (decimal byte) cell) cells (byte :: bytes) ∧
      inner = [','].intercalate cells

/-- The text is an array of these bytes. -/
def Spells (text : List Char) (bytes : List UInt8) : Prop :=
  ∃ inner, Around isBlank ('[' :: inner ++ [']']) text ∧ Items inner bytes

def readByte (cell : List Char) : Option UInt8 :=
  ((List.range 256).map UInt8.ofNat).find? fun byte => decimal byte = strip isBlank cell

def readCells : List (List Char) → Option (List UInt8)
  | [] => some []
  | cell :: cells =>
    match readByte cell, readCells cells with
    | some byte, some bytes => some (byte :: bytes)
    | _, _ => none

def readItems (inner : List Char) : Option (List UInt8) :=
  if inner.all isBlank then some [] else readCells (inner.splitOn ',')

def read (text : List Char) : Option (List UInt8) :=
  match strip isBlank text with
  | [] => none
  | bracket :: rest => if bracket = '[' ∧ rest.getLast? = some ']' then readItems rest.dropLast else none

section Bytes
variable {byte : UInt8} {cell inner text : List Char} {cells : List (List Char)} {bytes : List UInt8}

theorem decimal_isDigit {letter : Char} (member : letter ∈ decimal byte) : letter.isDigit :=
  Nat.isDigit_of_mem_toDigits (by decide) (by decide) member

theorem decimal_ne_nil (byte : UInt8) : decimal byte ≠ [] := Nat.toDigits_ne_nil

theorem decimal_injective {first second : UInt8} (same : decimal first = decimal second) : first = second := by
  have numbers := congrArg (fun digits => Nat.ofDigitChars 10 digits 0) same
  dsimp only [decimal] at numbers
  rw [Nat.ofDigitChars_ten_toDigits, Nat.ofDigitChars_ten_toDigits] at numbers
  exact UInt8.toNat_inj.mp numbers

theorem isBlank_cases {letter : Char} (blank : isBlank letter) :
    letter = ' ' ∨ letter = '\t' ∨ letter = '\n' ∨ letter = '\r' := by
  simpa [isBlank, or_assoc] using blank

theorem digit_isBlank {letter : Char} (isDigit : letter.isDigit) : isBlank letter = false := by
  apply Bool.eq_false_iff.mpr
  intro blank
  rcases isBlank_cases blank with same | same | same | same
  all_goals
    subst same
    cases isDigit

theorem around_decimal : Around isBlank (decimal byte) cell ↔ strip isBlank cell = decimal byte :=
  around_iff (fun _ found => digit_isBlank (decimal_isDigit (List.mem_of_head? found)))
    (fun _ found => digit_isBlank (decimal_isDigit (List.mem_of_getLast? found)))

theorem readByte_iff : readByte cell = some byte ↔ Around isBlank (decimal byte) cell := by
  rw [around_decimal]
  constructor
  · intro found
    have same := List.find?_some found
    exact (of_decide_eq_true same).symm
  · intro spelled
    have listed : byte ∈ (List.range 256).map UInt8.ofNat :=
      List.mem_map.mpr ⟨byte.toNat, List.mem_range.mpr byte.toNat_lt, UInt8.ofNat_toNat⟩
    obtain ⟨other, found⟩ : ∃ other, readByte cell = some other :=
      Option.isSome_iff_exists.mp (List.find?_isSome.mpr ⟨byte, listed, decide_eq_true spelled.symm⟩)
    have same := List.find?_some found
    rw [found, decimal_injective ((of_decide_eq_true same).trans spelled)]

theorem readCells_iff : readCells cells = some bytes ↔
    List.Forall₂ (fun cell byte => Around isBlank (decimal byte) cell) cells bytes := by
  induction cells generalizing bytes with
  | nil => simp [readCells, eq_comm]
  | cons cell cells ih =>
    constructor
    · intro found
      rw [readCells] at found
      split at found
      next byte others first rest =>
        cases found
        exact .cons (readByte_iff.mp first) (ih.mp rest)
      next => cases found
    · intro spelled
      cases spelled with
      | cons first rest => rw [readCells, readByte_iff.mpr first, ih.mpr rest]

/-- No cell of an array has a comma in it, and none is blank. -/
theorem cell_plain (spelled : Around isBlank (decimal byte) cell) : ',' ∉ cell ∧ ∃ letter ∈ cell, isBlank letter = false := by
  obtain ⟨before, after, leading, trailing, shape⟩ := spelled
  obtain ⟨digit, digits, some⟩ := List.exists_cons_of_ne_nil (decimal_ne_nil byte)
  have member : digit ∈ decimal byte := by simp [some]
  refine ⟨?_, digit, by simp [shape, member], digit_isBlank (decimal_isDigit member)⟩
  intro comma
  rw [shape, List.mem_append, List.mem_append] at comma
  rcases comma with (first | inside) | last
  · exact absurd (leading ',' first) (by decide)
  · exact absurd (decimal_isDigit inside) (by decide)
  · exact absurd (trailing ',' last) (by decide)

theorem mem_intercalate {separator first : List Char} {others : List (List Char)} {letter : Char} (member : letter ∈ first) :
    letter ∈ separator.intercalate (first :: others) := by
  cases others with
  | nil => rwa [List.intercalate_singleton]
  | cons second others =>
    rw [List.intercalate_cons_cons]
    exact List.mem_append_left _ (List.mem_append_left _ member)

theorem readItems_iff : readItems inner = some bytes ↔ Items inner bytes := by
  rw [readItems]
  constructor
  · intro found
    split at found
    next blank =>
      cases found
      exact List.all_eq_true.mp blank
    next =>
      have cells := readCells_iff.mp found
      cases bytes with
      | nil => exact absurd (List.forall₂_nil_right_iff.mp cells) (List.splitOn_ne_nil ',' inner)
      | cons byte bytes => exact ⟨_, cells, (List.intercalate_splitOn ',').symm⟩
  · intro items
    cases bytes with
    | nil => exact if_pos (List.all_eq_true.mpr items)
    | cons byte bytes =>
      obtain ⟨cells, spelled, joined⟩ := items
      have separate : ∀ cell ∈ cells, ',' ∉ cell :=
        ((List.forall₂_and_left _ _).mp (spelled.imp fun _ _ cell => ⟨(cell_plain cell).1, cell⟩)).1
      cases spelled with
      | @cons cell _ cells _ first rest =>
        obtain ⟨letter, member, visible⟩ := (cell_plain first).2
        have solid : ¬inner.all isBlank := by
          intro blank
          have blankLetter := List.all_eq_true.mp blank letter (joined ▸ mem_intercalate member)
          rw [visible] at blankLetter
          cases blankLetter
        rw [if_neg solid, joined, List.splitOn_intercalate ',' separate (List.cons_ne_nil cell cells)]
        exact readCells_iff.mpr (.cons first rest)

/-- The reader accepts exactly the arrays of bytes. -/
theorem read_iff : read text = some bytes ↔ Spells text bytes := by
  have ends (inner : List Char) : Around isBlank ('[' :: inner ++ [']']) text ↔ strip isBlank text = '[' :: inner ++ [']'] := by
    refine around_iff ?_ ?_
    · intro letter found
      cases found
      rfl
    · intro letter found
      rw [List.getLast?_concat] at found
      cases found
      rfl
  constructor
  · intro found
    unfold read at found
    split at found
    next => cases found
    next bracket rest shape =>
      split at found
      next brackets =>
        obtain ⟨opens, closes⟩ := brackets
        refine ⟨rest.dropLast, (ends _).mpr ?_, readItems_iff.mp found⟩
        rw [shape, opens, List.cons_append, List.dropLast_append_getLast?]
        exact closes
      next => cases found
  · intro spelled
    obtain ⟨inner, around, items⟩ := spelled
    rw [read, (ends inner).mp around, List.cons_append]
    dsimp only
    rw [if_pos ⟨rfl, List.getLast?_concat⟩, List.dropLast_concat]
    exact readItems_iff.mpr items

end Bytes
end JsonBytes
