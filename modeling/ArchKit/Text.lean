import Mathlib.Data.List.DropRight
import Mathlib.Data.List.TakeWhile

/-! Strings as lists of Unicode scalar values: trimming white space and splitting at a
separator. -/

namespace Text

/-- The Unicode property `White_Space`. -/
def isWhitespace (letter : Char) : Bool :=
  let code := letter.toNat
  9 ≤ code && code ≤ 13 || code == 0x20 || code == 0x85 || code == 0xA0 || code == 0x1680 ||
    0x2000 ≤ code && code ≤ 0x200A || code == 0x2028 || code == 0x2029 || code == 0x202F ||
    code == 0x205F || code == 0x3000

/-- `str::trim`. -/
def trim (text : List Char) : List Char := (text.dropWhile isWhitespace).rdropWhile isWhitespace

/-- `str::split_once`: the text before and after the first separator. -/
def splitOnce (separator : Char) : List Char → Option (List Char × List Char)
  | [] => none
  | letter :: letters =>
    if letter = separator then some ([], letters)
    else (splitOnce separator letters).map fun (before, after) => (letter :: before, after)

theorem rdropWhile_append_stop {α : Type} {p : α → Bool} (first : List α) {stop : α} (kept : p stop = false)
    (last : List α) : (first ++ stop :: last).rdropWhile p = first ++ stop :: last.rdropWhile p := by
  induction last using List.reverseRecOn with
  | nil => rw [List.rdropWhile_concat_neg _ _ _ (by simp [kept]), List.rdropWhile_nil]
  | append_singleton last letter ih =>
    rw [← List.cons_append, ← List.append_assoc, List.rdropWhile_concat, List.rdropWhile_concat, ih]
    by_cases dropped : p letter
    · rw [if_pos dropped, if_pos dropped]
    · rw [if_neg dropped, if_neg dropped, List.append_assoc, List.cons_append]

theorem rdropWhile_append_all {α : Type} {p : α → Bool} (first : List α) {last : List α} (all : ∀ letter ∈ last, p letter) :
    (first ++ last).rdropWhile p = first.rdropWhile p := by
  induction last using List.reverseRecOn with
  | nil => rw [List.append_nil]
  | append_singleton last letter ih =>
    rw [← List.append_assoc, List.rdropWhile_concat_pos _ _ _ (all letter (by simp))]
    exact ih (fun other member => all other (List.mem_append_left _ member))

section Strip
variable {α : Type} {p : α → Bool} {text core : List α}

/-- A text without the letters with a property at its ends. -/
def strip (p : α → Bool) (text : List α) : List α := (text.dropWhile p).rdropWhile p

/-- A text with letters of a property around it. -/
def Around (p : α → Bool) (core whole : List α) : Prop :=
  ∃ before after, (∀ letter ∈ before, p letter) ∧ (∀ letter ∈ after, p letter) ∧ whole = before ++ core ++ after

theorem strip_surround {before after : List α} (text : List α) (leading : ∀ letter ∈ before, p letter)
    (trailing : ∀ letter ∈ after, p letter) : strip p (before ++ text ++ after) = strip p text := by
  have start : (before ++ text ++ after).dropWhile p = (text ++ after).dropWhile p := by
    rw [List.append_assoc, List.dropWhile_append_of_pos leading]
  rw [strip, start, strip]
  by_cases blank : ∀ letter ∈ text, p letter
  · rw [List.dropWhile_append_of_pos blank, List.dropWhile_eq_nil_iff.mpr blank, List.dropWhile_eq_nil_iff.mpr trailing]
  · have visible : text.dropWhile p ≠ [] := fun empty => blank (List.dropWhile_eq_nil_iff.mp empty)
    rw [List.dropWhile_append, if_neg (by simpa using visible), rdropWhile_append_all _ trailing]

/-- A text whose ends do not have the property stays as it is. -/
theorem strip_eq_self (first : ∀ letter, text.head? = some letter → p letter = false)
    (last : ∀ letter, text.getLast? = some letter → p letter = false) : strip p text = text := by
  have start : text.dropWhile p = text := by
    rw [List.dropWhile_eq_self_iff]
    intro nonempty
    simp [first _ (List.head?_eq_getElem? .. ▸ List.getElem?_eq_getElem nonempty)]
  rw [strip, start, List.rdropWhile_eq_self_iff]
  intro nonempty
  simp [last _ (List.getLast?_eq_some_getLast nonempty)]

theorem around_strip (p : α → Bool) (text : List α) : Around p (strip p text) text := by
  refine ⟨text.takeWhile p, (text.dropWhile p).rtakeWhile p, fun _ => List.mem_takeWhile_imp,
    fun _ => List.mem_rtakeWhile_imp, ?_⟩
  rw [strip, List.append_assoc, List.rdropWhile_append_rtakeWhile, List.takeWhile_append_dropWhile]

theorem around_iff {whole : List α} (first : ∀ letter, core.head? = some letter → p letter = false)
    (last : ∀ letter, core.getLast? = some letter → p letter = false) : Around p core whole ↔ strip p whole = core := by
  constructor
  · intro around
    obtain ⟨before, after, leading, trailing, same⟩ := around
    rw [same, strip_surround core leading trailing, strip_eq_self first last]
  · intro same
    rw [← same]
    exact around_strip p whole

end Strip

/-- White space around a text does not change what is left of it. -/
theorem trim_surround {before after : List Char} (text : List Char) (leading : ∀ letter ∈ before, isWhitespace letter)
    (trailing : ∀ letter ∈ after, isWhitespace letter) : trim (before ++ text ++ after) = trim text :=
  strip_surround text leading trailing

theorem trim_eq_self {text : List Char} (solid : ∀ letter ∈ text, isWhitespace letter = false) : trim text = text :=
  strip_eq_self (fun letter found => solid letter (List.mem_of_head? found))
    (fun letter found => solid letter (List.mem_of_getLast? found))

theorem splitOnce_eq_some {separator : Char} {text before after : List Char} :
    splitOnce separator text = some (before, after) ↔ separator ∉ before ∧ text = before ++ separator :: after := by
  induction text generalizing before with
  | nil => simp [splitOnce]
  | cons letter letters ih =>
    by_cases found : letter = separator
    · subst found
      cases before with
      | nil => simp [splitOnce, eq_comm]
      | cons other others => simp +contextual [splitOnce, eq_comm]
    · rw [splitOnce, if_neg found, Option.map_eq_some_iff]
      constructor
      · intro split
        obtain ⟨⟨first, last⟩, rest, same⟩ := split
        cases same
        obtain ⟨absent, shape⟩ := ih.mp rest
        exact ⟨by simp [absent, Ne.symm found], by rw [shape, List.cons_append]⟩
      · intro split
        obtain ⟨absent, shape⟩ := split
        cases before with
        | nil => exact absurd (List.cons.inj shape).1 found
        | cons other others =>
          obtain ⟨same, rest⟩ := List.cons.inj shape
          subst same
          exact ⟨(others, after), ih.mpr ⟨fun member => absent (List.mem_cons_of_mem _ member), rest⟩, rfl⟩

theorem splitOnce_eq_none {separator : Char} {text : List Char} :
    splitOnce separator text = none ↔ separator ∉ text := by
  induction text with
  | nil => simp [splitOnce]
  | cons letter letters ih =>
    by_cases found : letter = separator
    · simp [splitOnce, found]
    · simp [splitOnce, found, ih, Ne.symm found]

section Words
variable {α : Type}

/-- A run followed by other runs, where an empty run does not count. -/
def collect (parts : List α × List (List α)) : List (List α) :=
  if parts.1.isEmpty then parts.2 else parts.1 :: parts.2

/-- The run of letters with a property that a text begins with, and the runs after it. -/
def runs (p : α → Bool) : List α → List α × List (List α)
  | [] => ([], [])
  | letter :: text =>
    if p letter then (letter :: (runs p text).1, (runs p text).2) else ([], collect (runs p text))

/-- The maximal runs of letters with a property. -/
def words (p : α → Bool) (text : List α) : List (List α) := collect (runs p text)

variable {p : α → Bool} {letter : α} {text word : List α}

theorem runs_take (taken : p letter) : runs p (letter :: text) = (letter :: (runs p text).1, (runs p text).2) := by
  rw [runs, if_pos taken]

theorem runs_skip (skipped : p letter = false) : runs p (letter :: text) = ([], words p text) := by
  rw [runs, if_neg (by simp [skipped]), words]

theorem words_take (taken : p letter) : words p (letter :: text) = (letter :: (runs p text).1) :: (runs p text).2 := by
  rw [words, runs_take taken]
  rfl

theorem words_skip (skipped : p letter = false) : words p (letter :: text) = words p text := by
  rw [words, runs_skip skipped]
  rfl

theorem collect_flatten (parts : List α × List (List α)) : (collect parts).flatten = parts.1 ++ parts.2.flatten := by
  rw [collect]
  split
  next none => rw [List.isEmpty_iff.mp none, List.nil_append]
  next => rw [List.flatten_cons]

theorem collect_kept {parts : List α × List (List α)} (first : ∀ letter ∈ parts.1, p letter)
    (others : ∀ word ∈ parts.2, word ≠ [] ∧ ∀ letter ∈ word, p letter) :
    ∀ word ∈ collect parts, word ≠ [] ∧ ∀ letter ∈ word, p letter := by
  rw [collect]
  split
  next => exact others
  next some => exact List.forall_mem_cons.mpr ⟨⟨by simpa using some, first⟩, others⟩

theorem runs_kept (text : List α) :
    (∀ letter ∈ (runs p text).1, p letter) ∧ ∀ word ∈ (runs p text).2, word ≠ [] ∧ ∀ letter ∈ word, p letter := by
  induction text with
  | nil => simp [runs]
  | cons letter text ih =>
    by_cases taken : p letter
    · rw [runs_take taken]
      exact ⟨List.forall_mem_cons.mpr ⟨taken, ih.1⟩, ih.2⟩
    · rw [runs_skip (by simpa using taken)]
      exact ⟨by simp, collect_kept ih.1 ih.2⟩

theorem words_kept (member : word ∈ words p text) : word ≠ [] ∧ ∀ letter ∈ word, p letter :=
  collect_kept (runs_kept text).1 (runs_kept text).2 word member

/-- The words of a text are its letters with the property, in their order. -/
theorem words_flatten (text : List α) : (words p text).flatten = text.filter p := by
  rw [words, collect_flatten]
  induction text with
  | nil => rfl
  | cons letter text ih =>
    by_cases taken : p letter
    · rw [runs_take taken, List.filter_cons_of_pos taken, List.cons_append, ih]
    · rw [runs_skip (by simpa using taken), List.filter_cons_of_neg taken, List.nil_append, words, collect_flatten, ih]

end Words

end Text
