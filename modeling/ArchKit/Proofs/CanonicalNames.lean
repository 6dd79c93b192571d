import ArchKit.Proofs.ProjectNames

/-! The package name is the canonical spelling of a name: its letters and digits in words that
single dashes separate. -/

namespace ArchKit.Init
open Cargo

/-- Lower-case letters and digits, with single dashes between some of them. -/
structure Canonical (name : List Char) : Prop where
  nonempty : name ≠ []
  letters : ∀ letter ∈ name, letter.isLower ∨ letter.isDigit ∨ letter = '-'
  leading : name.head? ≠ some '-'
  trailing : name.getLast? ≠ some '-'
  single : name.IsChain fun first second => ¬(first = '-' ∧ second = '-')

/-- The characters of a name that normalization keeps. -/
def kept (name : List Char) : List Char := name.filter Char.isAlphanum

/-- How the loop builds a name: by a letter or digit, or by a dash and a letter or digit. -/
inductive Joined : List Char → Prop where
  | first {letter : Char} (plain : letter.isLower ∨ letter.isDigit) : Joined [letter]
  | next {name : List Char} {letter : Char} (joined : Joined name) (plain : letter.isLower ∨ letter.isDigit) :
      Joined (name ++ [letter])
  | dash {name : List Char} {letter : Char} (joined : Joined name) (plain : letter.isLower ∨ letter.isDigit) :
      Joined (name ++ ['-'] ++ [letter])

section Plain
variable {letter : Char} (plain : letter.isLower ∨ letter.isDigit)
include plain

theorem plain_ne_dash : letter ≠ '-' := by
  intro same
  subst same
  exact absurd plain (by decide)

theorem plain_isAlphanum : letter.isAlphanum := by
  rcases plain with lower | digit
  · exact isLower_isAlphanum lower
  · simp [Char.isAlphanum, digit]

theorem plain_toLower : letter.toLower = letter := by
  rcases plain with lower | digit
  · apply toLower_of_not_upper
    intro upper
    exact absurd (Nat.le_trans (isLower_iff.mp lower).1 (isUpper_iff.mp upper).2) (by decide)
  · exact toLower_isDigit digit

end Plain

theorem toLower_plain {letter : Char} (taken : letter.isAlphanum) : letter.toLower.isLower ∨ letter.toLower.isDigit := by
  rcases toLower_cases taken with ⟨_, lower⟩ | ⟨digit, same⟩
  · exact .inl lower
  · exact .inr (by rw [same]; exact digit)

theorem Joined.canonical {name : List Char} (joined : Joined name) : Canonical name := by
  induction joined with
  | @first letter plain =>
    have other := plain_ne_dash plain
    exact ⟨by simp, by simp [or_assoc.symm, plain], by simpa using other, by simpa using other, by simp⟩
  | @next name letter joined plain ih =>
    have other := plain_ne_dash plain
    refine ⟨by simp, ?_, ?_, by simpa using other, ?_⟩
    · intro character member
      rcases List.mem_append.mp member with earlier | last
      · exact ih.letters character earlier
      · rw [List.mem_singleton.mp last]
        exact or_assoc.mp (.inl plain)
    · rw [List.head?_append_of_ne_nil _ ih.nonempty]
      exact ih.leading
    · refine List.isChain_append.mpr ⟨ih.single, by simp, ?_⟩
      intro first _ second last both
      rw [both.2] at last
      exact other (by simpa using last)
  | @dash name letter joined plain ih =>
    have other := plain_ne_dash plain
    refine ⟨by simp, ?_, ?_, by simpa using other, ?_⟩
    · intro character member
      rcases List.mem_append.mp member with earlier | last
      · rcases List.mem_append.mp earlier with before | dash
        · exact ih.letters character before
        · exact .inr (.inr (List.mem_singleton.mp dash))
      · rw [List.mem_singleton.mp last]
        exact or_assoc.mp (.inl plain)
    · rw [List.append_assoc, List.head?_append_of_ne_nil _ ih.nonempty]
      exact ih.leading
    · rw [List.append_assoc]
      refine List.isChain_append.mpr ⟨ih.single, by simpa using other, ?_⟩
      intro first last second _ both
      rw [both.1] at last
      exact ih.trailing (by simpa using last)

section Loop
variable {text done : List Char} {pending : Bool}

theorem normalizeStep_joined (state : List Char × Bool) (joined : state.1 = [] ∨ Joined state.1) (character : Char) :
    (normalizeStep state character).1 = [] ∨ Joined (normalizeStep state character).1 := by
  by_cases taken : character.isAlphanum
  · have plain := toLower_plain taken
    rw [normalizeStep_take taken]
    right
    rcases joined with empty | started
    · simpa [empty] using Joined.first plain
    · dsimp only
      split
      next => exact .dash started plain
      next => exact .next started plain
  · rw [normalizeStep_skip (by simpa using taken)]
    exact joined

theorem normalize_joined (joined : done = [] ∨ Joined done) :
    (text.foldl normalizeStep (done, pending)).1 = [] ∨ Joined (text.foldl normalizeStep (done, pending)).1 := by
  induction text generalizing done pending with
  | nil => exact joined
  | cons character text ih => exact ih (normalizeStep_joined (done, pending) joined character)

/-- Every step keeps the name so far and adds one character of the text, or none, to its letters. -/
theorem normalizeStep_grows (state : List Char × Bool) (character : Char) :
    ∃ added, (normalizeStep state character).1 = state.1 ++ added ∧ kept added = (kept [character]).map Char.toLower := by
  by_cases taken : character.isAlphanum
  · have plain := plain_isAlphanum (toLower_plain taken)
    rw [normalizeStep_take taken]
    dsimp only
    split
    next => exact ⟨['-', character.toLower], by simp, by simp [kept, taken, plain]⟩
    next => exact ⟨[character.toLower], rfl, by simp [kept, taken, plain]⟩
  · rw [normalizeStep_skip (by simpa using taken)]
    exact ⟨[], by simp, by simp [kept, taken]⟩

theorem normalize_grows (text : List Char) (state : List Char × Bool) :
    ∃ added, (text.foldl normalizeStep state).1 = state.1 ++ added ∧ kept added = (kept text).map Char.toLower := by
  induction text generalizing state with
  | nil => exact ⟨[], by simp, rfl⟩
  | cons character text ih =>
    obtain ⟨first, grown, letters⟩ := normalizeStep_grows state character
    obtain ⟨rest, further, others⟩ := ih (normalizeStep state character)
    refine ⟨first ++ rest, by rw [List.foldl_cons, further, grown, List.append_assoc], ?_⟩
    have split : kept (character :: text) = kept [character] ++ kept text := List.filter_append [character] text
    rw [split, List.map_append, ← letters, ← others]
    exact List.filter_append ..

/-- Between two letters the loop only remembers that it has skipped something. -/
theorem normalize_gap {gap : List Char} (skipped : ∀ character ∈ gap, character.isAlphanum = false) :
    gap.foldl normalizeStep (done, pending) = (done, pending || !gap.isEmpty) := by
  induction gap generalizing pending with
  | nil => simp
  | cons character gap ih =>
    rw [List.foldl_cons, normalizeStep_skip (skipped character List.mem_cons_self),
      ih (fun other member => skipped other (List.mem_cons_of_mem _ member))]
    simp

theorem Joined.ne_nil {name : List Char} (joined : Joined name) : name ≠ [] := joined.canonical.nonempty

/-- The loop copies a name that it could have built. -/
theorem Joined.normalize {name : List Char} (joined : Joined name) : name.foldl normalizeStep ([], false) = (name, false) := by
  induction joined with
  | first plain =>
    rw [List.foldl_cons, List.foldl_nil, normalizeStep_take (plain_isAlphanum plain), plain_toLower plain]
    rfl
  | next joined plain ih =>
    rw [List.foldl_append, ih, List.foldl_cons, List.foldl_nil, normalizeStep_take (plain_isAlphanum plain), plain_toLower plain]
    rfl
  | @dash name letter joined plain ih =>
    have started : name.isEmpty = false := by simpa using joined.ne_nil
    have skipped : Char.isAlphanum '-' = false := by decide
    simp only [List.foldl_append, ih, List.foldl_cons, List.foldl_nil]
    rw [normalizeStep_skip skipped, normalizeStep_take (plain_isAlphanum plain), plain_toLower plain]
    simp [started]

/-- Two letters of a text with nothing but a gap between them become neighbours, or neighbours of
one dash. -/
theorem normalize_between {before gap after : List Char} {first second : Char} (taken : first.isAlphanum)
    (followed : second.isAlphanum) (skipped : ∀ character ∈ gap, character.isAlphanum = false) :
    ∃ left right, ((before ++ [first] ++ gap ++ [second] ++ after).foldl normalizeStep ([], false)).1 =
        left ++ [first.toLower] ++ (if gap = [] then [] else ['-']) ++ [second.toLower] ++ right ∧
      kept left = (kept before).map Char.toLower ∧ kept right = (kept after).map Char.toLower := by
  obtain ⟨early, started, letters⟩ := normalize_grows before ([], false)
  obtain ⟨dash, arrived, separator⟩ : ∃ dash, (normalizeStep (before.foldl normalizeStep ([], false)) first) =
      (early ++ dash ++ [first.toLower], false) ∧ kept dash = [] := by
    rw [normalizeStep_take taken, started]
    split
    next => exact ⟨['-'], rfl, by decide⟩
    next => exact ⟨[], by simp, rfl⟩
  let middle := early ++ dash ++ [first.toLower] ++ (if gap = [] then [] else ['-']) ++ [second.toLower]
  have reached : (before ++ [first] ++ gap ++ [second]).foldl normalizeStep ([], false) = (middle, false) := by
    simp only [List.foldl_append, List.foldl_cons, List.foldl_nil]
    rw [arrived, normalize_gap skipped, normalizeStep_take followed]
    cases gap <;> simp [middle]
  obtain ⟨right, ended, others⟩ := normalize_grows after (middle, false)
  refine ⟨early ++ dash, right, ?_, ?_, others⟩
  · rw [List.foldl_append, reached, ended]
  · rw [← letters, kept, List.filter_append]
    exact (congrArg (kept early ++ ·) separator).trans (List.append_nil _)

end Loop

section Name
variable {name : String}

theorem normalizedPackageName_blank (blank : kept name.toList = []) : normalizedPackageName name = "arch-program" := by
  have skipped : ∀ character ∈ name.toList, character.isAlphanum = false := by
    intro character member
    exact Bool.eq_false_iff.mpr (List.filter_eq_nil_iff.mp blank character member)
  rw [normalizedPackageName, normalize_gap skipped]
  rfl

/-- A name with a letter or digit is what the loop makes of it. -/
theorem normalizedPackageName_loop (some : kept name.toList ≠ []) :
    (normalizedPackageName name).toList = (name.toList.foldl normalizeStep ([], false)).1 ∧
      Joined (name.toList.foldl normalizeStep ([], false)).1 := by
  obtain ⟨added, built, letters⟩ := normalize_grows name.toList ([], false)
  have nonempty : (name.toList.foldl normalizeStep ([], false)).1 ≠ [] := by
    intro empty
    have blank : added = [] := by simpa [empty] using built.symm
    rw [blank] at letters
    exact some (List.map_eq_nil_iff.mp letters.symm)
  refine ⟨?_, (normalize_joined (.inl rfl)).resolve_left nonempty⟩
  rw [normalizedPackageName]
  simp [nonempty]

theorem normalizedPackageName_joined (name : String) : Joined (normalizedPackageName name).toList := by
  by_cases blank : kept name.toList = []
  · have spare : kept "arch-program".toList ≠ [] := by decide
    obtain ⟨same, joined⟩ := normalizedPackageName_loop spare
    rw [normalizedPackageName_blank blank, ← show normalizedPackageName "arch-program" = "arch-program" by decide, same]
    exact joined
  · obtain ⟨same, joined⟩ := normalizedPackageName_loop blank
    rw [same]
    exact joined

theorem normalizedPackageName_again (name : String) :
    normalizedPackageName (normalizedPackageName name) = normalizedPackageName name := by
  have joined := normalizedPackageName_joined name
  have nonempty := joined.ne_nil
  generalize normalizedPackageName name = package at joined nonempty ⊢
  rw [normalizedPackageName, joined.normalize]
  simp only [List.isEmpty_iff, if_neg nonempty, String.ofList_toList]

/-- Normalization is canonical: the letters and digits of a name in lower case and in their order,
with one dash where the name has anything between two of them, and a fixed name where there are
none. The crate name made from it is an identifier of its own. -/
theorem normalizedPackageName_canonical (name : String) :
    Canonical (normalizedPackageName name).toList ∧
      (kept name.toList = [] → normalizedPackageName name = "arch-program") ∧
      (kept name.toList ≠ [] → kept (normalizedPackageName name).toList = (kept name.toList).map Char.toLower) ∧
      (∀ before first gap second after, name.toList = before ++ [first] ++ gap ++ [second] ++ after →
        first.isAlphanum → second.isAlphanum → (∀ character ∈ gap, character.isAlphanum = false) →
        ∃ left right, (normalizedPackageName name).toList =
            left ++ [first.toLower] ++ (if gap = [] then [] else ['-']) ++ [second.toLower] ++ right ∧
          kept left = (kept before).map Char.toLower ∧ kept right = (kept after).map Char.toLower) ∧
      normalizedPackageName (normalizedPackageName name) = normalizedPackageName name ∧
      CrateName (crateNameOf (normalizedPackageName name)).toList ∧
      crateNameOf (normalizedPackageName name) ∉ keywords := by
  refine ⟨(normalizedPackageName_joined name).canonical, normalizedPackageName_blank, ?_, ?_,
    normalizedPackageName_again name, crateNameOf_shape (normalizedPackageName_starts name) (normalizedPackageName_letters name)⟩
  · intro some
    obtain ⟨added, built, letters⟩ := normalize_grows name.toList ([], false)
    rw [(normalizedPackageName_loop some).1, built]
    exact letters
  · intro before first gap second after shape taken followed skipped
    have some : kept name.toList ≠ [] := by
      intro blank
      have member : first ∈ name.toList := by rw [shape]; simp
      exact List.filter_eq_nil_iff.mp blank first member taken
    rw [(normalizedPackageName_loop some).1, shape]
    exact normalize_between taken followed skipped

end Name
end ArchKit.Init
