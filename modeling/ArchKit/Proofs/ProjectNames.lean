import ArchKit.Cargo
import ArchKit.Init

/-! Which destinations get names that Cargo and the compiler accept. -/

namespace ArchKit.Init
open Text Cargo

/-- A word after the first one, with its separator. -/
def suffix (word : List Char) : List Char := '-' :: word.map Char.toLower

section Normalization
variable {text done : List Char}

theorem normalizeStep_skip {state : List Char × Bool} {character : Char} (skipped : character.isAlphanum = false) :
    normalizeStep state character = (state.1, true) := by
  rw [normalizeStep, if_neg (by simp [skipped])]

theorem normalizeStep_take {state : List Char × Bool} {character : Char} (taken : character.isAlphanum) :
    normalizeStep state character =
      ((if state.2 && !state.1.isEmpty then state.1 ++ ['-'] else state.1) ++ [character.toLower], false) := by
  rw [normalizeStep, if_pos taken]

/-- What the loop adds to a name that is not empty: with a separator due, the remaining words;
without one, first the rest of the current word. -/
theorem normalize_started (started : done ≠ []) (pending : Bool) :
    (text.foldl normalizeStep (done, pending)).1 = done ++
      if pending then (words Char.isAlphanum text).flatMap suffix
      else (runs Char.isAlphanum text).1.map Char.toLower ++ (runs Char.isAlphanum text).2.flatMap suffix := by
  induction text generalizing done pending with
  | nil => cases pending <;> simp [words, runs, collect]
  | cons character text ih =>
    rw [List.foldl_cons]
    by_cases taken : character.isAlphanum
    · have nonempty : done.isEmpty = false := by simpa using started
      rw [normalizeStep_take taken, ih (by simp), words_take taken, runs_take taken]
      cases pending <;> simp [nonempty, suffix]
    · have skipped : character.isAlphanum = false := by simpa using taken
      rw [normalizeStep_skip skipped, ih started, words_skip skipped, runs_skip skipped]
      cases pending <;> simp

/-- Words in lower case with a separator between them. -/
def slug : List (List Char) → List Char
  | [] => []
  | first :: others => first.map Char.toLower ++ others.flatMap suffix

/-- The loop joins the words of a name. -/
theorem normalize_fresh (pending : Bool) : (text.foldl normalizeStep ([], pending)).1 = slug (words Char.isAlphanum text) := by
  induction text generalizing pending with
  | nil => rfl
  | cons character text ih =>
    rw [List.foldl_cons]
    by_cases taken : character.isAlphanum
    · rw [normalizeStep_take taken, words_take taken, slug]
      simp only [List.isEmpty_nil, Bool.not_true, Bool.and_false, Bool.false_eq_true, if_false, List.nil_append]
      rw [normalize_started (by simp)]
      simp
    · have skipped : character.isAlphanum = false := by simpa using taken
      rw [normalizeStep_skip skipped, ih, words_skip skipped]

theorem slug_ne_nil {word : List Char} {others : List (List Char)} (some : word ≠ []) : slug (word :: others) ≠ [] := by
  simp [slug, some]

end Normalization

section Package
variable {name : List Char}

/-- The first letter or digit of the name is a digit. -/
def digitFirst (name : List Char) : Bool := (name.filter Char.isAlphanum).head?.any Char.isDigit

/-- The letters and digits of the name are one word, `error`. -/
def NamesError (name : List Char) : Prop := (words Char.isAlphanum name).map (List.map Char.toLower) = ["error".toList]

theorem slug_letters : ∀ letter ∈ slug (words Char.isAlphanum name), letter.isLower ∨ letter.isDigit ∨ letter = '-' := by
  have lowered : ∀ word ∈ words Char.isAlphanum name, ∀ letter ∈ word.map Char.toLower, letter.isLower ∨ letter.isDigit ∨ letter = '-' := by
    intro word member letter inside
    obtain ⟨original, origin, same⟩ := List.mem_map.mp inside
    subst same
    rcases toLower_cases ((words_kept member).2 original origin) with ⟨_, lower⟩ | ⟨digit, same⟩
    · exact .inl lower
    · exact .inr (.inl (by rw [same]; exact digit))
  intro letter member
  cases found : words Char.isAlphanum name with
  | nil =>
    rw [found] at member
    cases member
  | cons word others =>
    rw [found] at member lowered
    rcases List.mem_append.mp member with first | later
    · exact lowered word List.mem_cons_self letter first
    · obtain ⟨other, inside, within⟩ := List.mem_flatMap.mp later
      rcases List.mem_cons.mp within with dash | rest
      · exact .inr (.inr dash)
      · exact lowered other (List.mem_cons_of_mem _ inside) letter rest

/-- The first character of a slug is the first letter or digit of the name. -/
theorem slug_head (name : List Char) :
    (slug (words Char.isAlphanum name)).head? = (name.filter Char.isAlphanum).head?.map Char.toLower := by
  rw [← words_flatten]
  cases found : words Char.isAlphanum name with
  | nil => simp [slug]
  | cons word others =>
    obtain ⟨first, rest, shape⟩ := List.exists_cons_of_ne_nil (words_kept (found ▸ List.mem_cons_self : word ∈ words Char.isAlphanum name)).1
    simp [slug, shape]

theorem slug_starts (some : words Char.isAlphanum name ≠ []) : ∃ (letter : Char) (rest : List Char), letter.isAlphanum ∧
    slug (words Char.isAlphanum name) = letter.toLower :: rest ∧ digitFirst name = letter.isDigit := by
  obtain ⟨letter, rest, letters⟩ : ∃ letter rest, name.filter Char.isAlphanum = letter :: rest := by
    refine List.exists_cons_of_ne_nil (fun empty => ?_)
    obtain ⟨word, others, found⟩ := List.exists_cons_of_ne_nil some
    have kept := words_kept (found ▸ List.mem_cons_self : word ∈ words Char.isAlphanum name)
    have flat : (words Char.isAlphanum name).flatten = _ := words_flatten name
    rw [empty, found, List.flatten_cons] at flat
    exact kept.1 (List.append_eq_nil_iff.mp flat).1
  have head : (slug (words Char.isAlphanum name)).head? = letter.toLower := by rw [slug_head, letters]; rfl
  obtain ⟨tail, shape⟩ := List.head?_eq_some_iff.mp head
  refine ⟨letter, tail, List.of_mem_filter (letters ▸ List.mem_cons_self), shape, ?_⟩
  rw [digitFirst, letters]
  rfl

theorem slug_packageName (some : words Char.isAlphanum name ≠ []) :
    PackageName (slug (words Char.isAlphanum name)) ↔ digitFirst name = false := by
  obtain ⟨letter, rest, kept, shape, first⟩ := slug_starts some
  rw [first]
  rcases toLower_cases kept with ⟨notDigit, lower⟩ | ⟨digit, unchanged⟩
  · exact iff_of_true ⟨⟨_, rest, shape, lower⟩, slug_letters⟩ notDigit
  · refine iff_of_false (fun accepted => ?_) (by simp [digit])
    obtain ⟨other, after, same, lower⟩ := accepted.starts
    rw [shape, unchanged] at same
    rw [← (List.cons.inj same).1] at lower
    exact absurd digit (by rw [isLower_isDigit lower]; decide)

/-- A name without letters or digits is replaced. -/
def source (name : List Char) : List Char := if words Char.isAlphanum name = [] then "arch-program".toList else name

theorem source_words (name : List Char) : words Char.isAlphanum (source name) ≠ [] := by
  rw [source]
  split
  next => decide
  next some => exact some

theorem normalizedPackageName_eq (name : String) :
    (normalizedPackageName name).toList = slug (words Char.isAlphanum (source name.toList)) := by
  rw [normalizedPackageName, normalize_fresh, source]
  cases found : words Char.isAlphanum name.toList with
  | nil => rfl
  | cons word others =>
    have kept : word ≠ [] := (words_kept (found ▸ List.mem_cons_self)).1
    simp [slug_ne_nil kept, found]

instance (name : List Char) : Decidable (NamesError name) := inferInstanceAs (Decidable (_ = _))

/-- A slug that is a single word comes from a single word. -/
theorem slug_eq_word {words : List (List Char)} {word : List Char} (some : word ≠ []) (plain : '-' ∉ word) :
    slug words = word ↔ words.map (List.map Char.toLower) = [word] := by
  cases words with
  | nil => simp [slug, Ne.symm some]
  | cons first others =>
    cases others with
    | nil => simp [slug]
    | cons second rest =>
      refine iff_of_false (fun joined => plain ?_) (by simp)
      rw [← joined, slug]
      simp [suffix]

theorem normalizedPackageName_error (name : String) :
    normalizedPackageName name = "error" ↔ NamesError name.toList := by
  rw [← String.toList_inj, normalizedPackageName_eq, slug_eq_word (by decide) (by decide), NamesError, source]
  split
  next blank =>
    rw [blank]
    exact iff_of_false (by decide) (by decide)
  next => exact Iff.rfl

theorem normalizedPackageName_packageName (name : String) :
    PackageName (normalizedPackageName name).toList ↔ digitFirst name.toList = false := by
  rw [normalizedPackageName_eq, slug_packageName (source_words _), source]
  split
  next blank =>
    have none : name.toList.filter Char.isAlphanum = [] := by rw [← words_flatten, blank]; rfl
    rw [digitFirst, digitFirst, none]
    exact iff_of_true (by decide) rfl
  next => exact Iff.rfl

/-- Every package name starts with a letter or a digit. -/
theorem normalizedPackageName_starts (name : String) : ∃ first rest, (normalizedPackageName name).toList = first :: rest ∧
    (first.isLower ∨ first.isDigit) := by
  obtain ⟨letter, rest, kept, shape, _⟩ := slug_starts (source_words name.toList)
  refine ⟨letter.toLower, rest, (normalizedPackageName_eq name).trans shape, ?_⟩
  rcases toLower_cases kept with ⟨_, lower⟩ | ⟨digit, unchanged⟩
  · exact .inl lower
  · exact .inr (by rw [unchanged]; exact digit)

theorem normalizedPackageName_letters (name : String) :
    ∀ letter ∈ (normalizedPackageName name).toList, letter.isLower ∨ letter.isDigit ∨ letter = '-' := by
  rw [normalizedPackageName_eq]
  exact slug_letters

end Package

section CrateName

/-- Lower-case letters, digits and underscores, starting with a letter. -/
structure CrateName (name : List Char) : Prop where
  starts : ∃ first rest, name = first :: rest ∧ first.isLower
  letters : ∀ letter ∈ name, letter.isLower ∨ letter.isDigit ∨ letter = '_'

theorem CrateName.identifier {name : List Char} (shape : CrateName name) (free : String.ofList name ∉ keywords) :
    Identifier name := by
  obtain ⟨first, rest, same, lower⟩ := shape.starts
  refine ⟨⟨first, rest, same, .inl (isAlpha_iff.mpr (.inr lower))⟩, ?_, ?_, free⟩
  · intro letter member
    rcases shape.letters letter member with lower | digit | underscore
    · exact .inl (isLower_isAlphanum lower)
    · exact .inl (by simp [Char.isAlphanum, digit])
    · exact .inr underscore
  · intro bare
    rw [same] at bare
    cases bare
    exact absurd lower (by decide)

theorem CrateName.prefixed {name : List Char} (letters : ∀ letter ∈ name, letter.isLower ∨ letter.isDigit ∨ letter = '_') :
    CrateName ("arch_".toList ++ name) := by
  refine ⟨⟨'a', "rch_".toList ++ name, rfl, by decide⟩, ?_⟩
  intro letter member
  rcases List.mem_append.mp member with fixed | given
  · have known : ∀ letter ∈ "arch_".toList, (letter.isLower || letter == '_') = true := List.all_eq_true.mp (by decide)
    rcases Bool.or_eq_true_iff.mp (known letter fixed) with lower | underscore
    · exact .inl lower
    · exact .inr (.inr (by simpa using underscore))
  · exact letters letter given

theorem isRustKeyword_iff (name : String) : isRustKeyword name ↔ name ∈ keywords := by
  have listed : ∀ keyword ∈ rustKeywords, keyword ∈ keywords := by decide +kernel
  have missing : ∀ keyword ∈ keywords, keyword ∈ rustKeywords := by decide +kernel
  rw [isRustKeyword, List.contains_iff_mem]
  exact ⟨listed name, missing name⟩

theorem prefixed_free (name : String) : "arch_" ++ name ∉ keywords := by
  have others : ∀ keyword ∈ keywords, keyword.toList.take 5 ≠ "arch_".toList := by decide +kernel
  intro member
  refine others _ member ?_
  rw [String.toList_append]
  exact List.take_left' rfl

/-- `replace('-', "_")` on one letter. -/
def underscored (letter : Char) : Char := if letter = '-' then '_' else letter

theorem underscored_cases {letter : Char} (kept : letter.isLower ∨ letter.isDigit ∨ letter = '-') :
    (underscored letter).isLower ∨ (underscored letter).isDigit ∨ underscored letter = '_' := by
  rw [underscored]
  split
  next => exact .inr (.inr rfl)
  next other => exact kept.imp_right (fun rest => .inl (rest.resolve_right other))

variable {package : String}
  (starts : ∃ first rest, package.toList = first :: rest ∧ (first.isLower ∨ first.isDigit))
  (letters : ∀ letter ∈ package.toList, letter.isLower ∨ letter.isDigit ∨ letter = '-')
include starts letters

theorem crateNameOf_shape : CrateName (crateNameOf package).toList ∧ crateNameOf package ∉ keywords := by
  obtain ⟨first, rest, starts, initial⟩ := starts
  have plain : ∀ letter ∈ package.toList.map underscored, letter.isLower ∨ letter.isDigit ∨ letter = '_' := by
    intro letter member
    obtain ⟨original, origin, same⟩ := List.mem_map.mp member
    subst same
    exact underscored_cases (letters original origin)
  have kept : underscored first = first := by
    rw [underscored, if_neg]
    intro dash
    subst dash
    exact absurd initial (by decide)
  let given := String.ofList (package.toList.map underscored)
  let fixed := if given.toList.head?.any Char.isDigit then "arch_" ++ given else given
  have headed : given.toList.head? = some first := by simp [given, starts, kept]
  have fixedShape : CrateName fixed.toList := by
    simp only [fixed, headed, Option.any_some]
    cases digit : first.isDigit with
    | true =>
      simp only [if_true, String.toList_append, given, String.toList_ofList]
      exact .prefixed plain
    | false =>
      simp only [Bool.false_eq_true, if_false, given, String.toList_ofList]
      refine ⟨⟨first, rest.map underscored, by rw [starts, List.map_cons, kept], ?_⟩, plain⟩
      exact initial.resolve_right (by rw [digit]; decide)
  have unfolded : crateNameOf package = if isRustKeyword fixed then "arch_" ++ fixed else fixed := rfl
  rw [unfolded]
  split
  next =>
    rw [String.toList_append]
    exact ⟨.prefixed fixedShape.letters, prefixed_free fixed⟩
  next free => exact ⟨fixedShape, fun member => free ((isRustKeyword_iff fixed).mpr member)⟩

omit starts letters in
theorem crateNameOf_cases : (∃ name, crateNameOf package = "arch_" ++ name) ∨
    crateNameOf package = String.ofList (package.toList.map underscored) := by
  change (∃ name, (if isRustKeyword _ then _ else _) = "arch_" ++ name) ∨ (if isRustKeyword _ then _ else _) = _
  split
  next => exact .inl ⟨_, rfl⟩
  next =>
    split
    next => exact .inl ⟨_, rfl⟩
    next => exact .inr rfl

omit starts letters in
/-- The fixes of the crate name never produce the name of the error module. -/
theorem crateNameOf_error : crateNameOf package = "error" ↔ package = "error" := by
  constructor
  · intro same
    rcases crateNameOf_cases with ⟨name, fixed⟩ | direct
    · have heads := congrArg (fun text => text.toList.head?) (fixed.symm.trans same)
      rw [String.toList_append] at heads
      exact absurd (Option.some.inj heads) (by decide)
    · have mapped : package.toList.map underscored = "error".toList := by rw [← same, direct, String.toList_ofList]
      have unchanged : package.toList.map underscored = package.toList.map id := by
        apply List.map_congr_left
        intro letter member
        rw [underscored, if_neg, id]
        intro dash
        subst dash
        have inside : underscored '-' ∈ package.toList.map underscored := List.mem_map_of_mem member
        rw [mapped] at inside
        exact absurd inside (by decide)
      rw [List.map_id] at unchanged
      exact String.toList_inj.mp (unchanged.symm.trans mapped)
  · intro same
    subst same
    decide

end CrateName

/-- The rendered template is acceptable: Cargo takes the package name, the compiler takes the
library name, and `src/lib.rs` declares no module twice. -/
structure ProjectNames.WellFormed (names : ProjectNames) : Prop where
  package : PackageName names.package.toList
  library : Identifier names.crateName.toList
  modules : names.modules.Nodup

/-- A destination gets acceptable names exactly when the first letter or digit of its name is a
letter and the name is not the word `error`. -/
theorem fromPath_wellFormed_iff {path : Path} {name : String} (named : path.fileName?.bind fromUtf8? = some name) :
    (∃ names, ProjectNames.fromPath path = .ok names ∧ names.WellFormed) ↔
      digitFirst name.toList = false ∧ ¬NamesError name.toList := by
  have derived : ProjectNames.fromPath path = .ok ⟨normalizedPackageName name, crateNameOf (normalizedPackageName name),
      crateNameOf (normalizedPackageName name)⟩ := by
    rw [ProjectNames.fromPath, named]
  have package := normalizedPackageName_packageName name
  have clash := normalizedPackageName_error name
  obtain ⟨shape, free⟩ := crateNameOf_shape (normalizedPackageName_starts name) (normalizedPackageName_letters name)
  rw [← crateNameOf_error] at clash
  rw [derived]
  generalize crateNameOf (normalizedPackageName name) = crateName at shape free clash ⊢
  have distinct : ["error", crateName].Nodup ↔ ¬NamesError name.toList := by
    rw [← clash]
    simp [eq_comm]
  constructor
  · intro formed
    obtain ⟨names, same, wellFormed⟩ := formed
    cases same
    exact ⟨package.mp wellFormed.package, distinct.mp wellFormed.modules⟩
  · intro accepted
    refine ⟨_, rfl, package.mpr accepted.1, shape.identifier ?_, distinct.mpr accepted.2⟩
    rw [String.ofList_toList]
    exact free

theorem fromPath_wellFormed_hello :
    ∃ names, ProjectNames.fromPath ⟨utf8 "target/My Hello Program"⟩ = .ok names ∧ names.WellFormed := by
  have named : (Path.fileName? ⟨utf8 "target/My Hello Program"⟩).bind fromUtf8? = some "My Hello Program" := by decide +kernel
  exact (fromPath_wellFormed_iff named).mpr ⟨by decide, by decide⟩

/-- The package name keeps its leading digit, and the module of a project named `error` is the
second module of that name. -/
theorem fromPath_malformed :
    (∃ names, ProjectNames.fromPath ⟨utf8 "123"⟩ = .ok names ∧ ¬names.WellFormed) ∧
      ∃ names, ProjectNames.fromPath ⟨utf8 "error"⟩ = .ok names ∧ ¬names.WellFormed := by
  have digits : ProjectNames.fromPath ⟨utf8 "123"⟩ = .ok ⟨"123", "arch_123", "arch_123"⟩ := by decide +kernel
  have error : ProjectNames.fromPath ⟨utf8 "error"⟩ = .ok ⟨"error", "error", "error"⟩ := by decide +kernel
  refine ⟨⟨_, digits, fun formed => ?_⟩, ⟨_, error, fun formed => ?_⟩⟩
  · obtain ⟨first, rest, same, lower⟩ := formed.package.starts
    cases same
    exact absurd lower (by decide)
  · exact absurd formed.modules (by decide)

end ArchKit.Init
