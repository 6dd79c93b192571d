import ArchKit.Tree

/-! New files do not lead a path anywhere else: what could be found as a directory before
is found after, and nothing more. -/

namespace ArchKit
namespace Tree
variable {δ : Type} {before middle after tree : Tree δ} {location found : δ} {names : List Bytes} {path : Path}

/-- The second tree is the first with some more or rewritten files. -/
structure Fills (before after : Tree δ) : Prop where
  root : after.root = before.root
  cwd : after.cwd = before.cwd
  parent : after.parent = before.parent
  searchable : after.searchable = before.searchable
  writable : after.writable = before.writable
  entries : ∀ location name, after.entries location name = before.entries location name ∨
    (before.entries location name = none ∨ ∃ contents, before.entries location name = some (.file contents)) ∧
      ∃ contents, after.entries location name = some (.file contents)

theorem Fills.refl (tree : Tree δ) : Fills tree tree := ⟨rfl, rfl, rfl, rfl, rfl, fun _ _ => .inl rfl⟩

theorem Fills.trans (first : Fills before middle) (last : Fills middle after) : Fills before after where
  root := last.root.trans first.root
  cwd := last.cwd.trans first.cwd
  parent := last.parent.trans first.parent
  searchable := last.searchable.trans first.searchable
  writable := last.writable.trans first.writable
  entries location name := by
    rcases last.entries location name with kept | ⟨plain, filled⟩
    · rw [kept]
      exact first.entries location name
    · rcases first.entries location name with same | ⟨earlier, _⟩
      · rw [← same]
        exact .inr ⟨plain, filled⟩
      · exact .inr ⟨earlier, filled⟩

theorem Fills.walk_iff (fills : Fills before after) {first last : δ → Path → List Bytes → Except IoError δ}
    (follows : ∀ location target rest, last location target rest = .ok found ↔ first location target rest = .ok found) :
    after.walk last location names = .ok found ↔ before.walk first location names = .ok found := by
  induction names generalizing location with
  | nil => rw [walk, walk]
  | cons name rest ih =>
    rw [walk, walk, fills.searchable, fills.parent]
    split
    · rfl
    split
    · exact ih
    split
    · exact ih
    rcases fills.entries location name with same | ⟨plain, contents, filled⟩
    · rw [same]
      cases before.entries location name with
      | none => rfl
      | some item =>
        cases item with
        | file contents => rfl
        | directory next => exact ih
        | symlink target => exact follows ..
    · rw [filled]
      rcases plain with absent | ⟨others, present⟩
      · rw [absent]
        exact iff_of_false (fun same => by cases same) (fun same => by cases same)
      · rw [present]

theorem Fills.resolve_iff (fills : Fills before after) (links : Nat) :
    after.resolve links location names = .ok found ↔ before.resolve links location names = .ok found := by
  induction links generalizing location names with
  | zero => exact fills.walk_iff (fun _ _ _ => Iff.rfl)
  | succ links ih =>
    apply fills.walk_iff
    intro location target rest
    rw [start, start, fills.root]
    split
    · rfl
    · exact ih

theorem Fills.parentOf_iff (fills : Fills before after) : after.parentOf path = .ok found ↔ before.parentOf path = .ok found := by
  rw [parentOf, parentOf, directoryOf, directoryOf, start, start, fills.root, fills.cwd]
  exact fills.resolve_iff 40

/-- Nothing is removed. -/
theorem Fills.present (fills : Fills before after) {place : δ × Bytes} (there : before.entries place.1 place.2 ≠ none) :
    after.entries place.1 place.2 ≠ none := by
  rcases fills.entries place.1 place.2 with same | ⟨_, contents, filled⟩
  · rw [same]
    exact there
  · rw [filled]
    exact Option.some_ne_none _

theorem slot_eq_some {place : δ × Bytes} :
    tree.slot path = some place ↔ tree.parentOf path = .ok place.1 ∧ path.newName? = some place.2 := by
  unfold slot
  cases tree.parentOf path with
  | error error => simp
  | ok location =>
    cases path.newName? with
    | none => simp
    | some name => simp [Prod.ext_iff]

theorem Fills.slot_eq (fills : Fills before after) (path : Path) : after.slot path = before.slot path := by
  ext place
  rw [slot_eq_some, slot_eq_some, fills.parentOf_iff]

theorem creates_eq_ok {place : δ × Bytes} : tree.creates path = .ok place ↔
    path.bytes ≠ [] ∧ tree.slot path = some place ∧ tree.searchable place.1 = true ∧ tree.entries place.1 place.2 = none ∧
      tree.writable place.1 = true := by
  unfold creates slot
  by_cases empty : path.bytes = []
  · rw [if_pos empty]
    exact iff_of_false (fun same => by cases same) (fun created => created.1 empty)
  rw [if_neg empty]
  cases tree.parentOf path with
  | error error => simp
  | ok location =>
    cases path.newName? with
    | none => simp
    | some name =>
      dsimp only
      constructor
      · intro created
        split at created
        · cases created
        next searched =>
        split at created
        · cases created
        next absent =>
        split at created
        · cases created
        next written =>
        cases created
        exact ⟨empty, rfl, by simpa using searched, by simpa using absent, by simpa using written⟩
      · intro free
        obtain ⟨_, same, searched, absent, written⟩ := free
        cases same
        simp [searched, absent, written]

section Put
variable [DecidableEq δ] {place other : δ × Bytes} {contents : Bytes}

@[simp] theorem put_same : (tree.put place contents).entries place.1 place.2 = some (.file contents) := by
  simp [put]

theorem put_other (different : other ≠ place) : (tree.put place contents).entries other.1 other.2 = tree.entries other.1 other.2 := by
  rw [put]
  dsimp only
  by_cases located : other.1 = place.1
  · have named : other.2 ≠ place.2 := fun same => different (Prod.ext located same)
    rw [located, Function.update_self, Function.update_of_ne named]
  · rw [Function.update_of_ne located]

theorem put_put (first last : Bytes) : (tree.put place first).put place last = tree.put place last := by
  simp [put]

theorem put_self (present : tree.entries place.1 place.2 = some (.file contents)) : tree.put place contents = tree := by
  rw [put, ← present, Function.update_eq_self, Function.update_eq_self]

theorem put_fills (plain : tree.entries place.1 place.2 = none ∨ ∃ others, tree.entries place.1 place.2 = some (.file others)) :
    Fills tree (tree.put place contents) where
  root := rfl
  cwd := rfl
  parent := rfl
  searchable := rfl
  writable := rfl
  entries location name := by
    by_cases same : (location, name) = place
    · subst same
      exact .inr ⟨plain, contents, put_same⟩
    · exact .inl (put_other same)

end Put
end Tree
end ArchKit
