import ArchKit.Keygen
import ArchKit.Proofs.KeyFiles
import ArchKit.Proofs.Resolution
import ArchKit.Reference

/-! Keys for several destinations. The preflight compares the paths as they are spelled and
asks whether each one exists; the files are then created one by one. -/

namespace ArchKit
open Effects Vanity

variable {δ : Type} [DecidableEq δ] {sdk : Sdk} {tree : Tree δ} {path : Path} {label : String} {keypair : Keypair}

namespace Keys

theorem writeAll_fills {fail : IoError → CliError} {place : δ × Bytes} {contents : Bytes} (named : tree.slot path = some place)
    (opened : tree.entries place.1 place.2 = some (.file contents)) (buffer : Bytes) :
    Fallible.Ensures (Tree.Serves sdk) (writeAll fail ⟨path⟩ buffer)
      (fun outcome after => outcome = .ok () ∧ after = tree.put place (contents ++ buffer)) tree := by
  induction size : buffer.length using Nat.strong_induction_on generalizing tree contents buffer with
  | _ size ih =>
    subst size
    cases buffer with
    | nil =>
      rw [writeAll, List.append_nil]
      exact ⟨rfl, (Tree.put_self opened).symm⟩
    | cons byte rest =>
      rw [writeAll]
      apply (Fallible.ensures_perform_bind (I := api) (.write ⟨path⟩ (byte :: rest))).mpr
      intro reply after served
      obtain ⟨other, found, count, again, present, answer, small, positive, wrote⟩ := served
      cases named.symm.trans again
      cases opened.symm.trans present
      subst answer wrote
      cases count with
      | zero => exact absurd (positive (List.cons_ne_nil _ _)) (Nat.lt_irrefl 0)
      | succ count =>
        dsimp only
        have fills : Tree.Fills tree (tree.put place (contents ++ (byte :: rest).take (count + 1))) :=
          Tree.put_fills (.inr ⟨contents, opened⟩)
        have whole : (contents ++ (byte :: rest).take (count + 1)) ++ rest.drop count = contents ++ byte :: rest := by
          rw [List.append_assoc, List.take_succ_cons, List.cons_append, List.take_append_drop]
        have remaining := ih (rest.drop count).length (by simp only [List.length_drop, List.length_cons]; omega)
          ((fills.slot_eq path).trans named) Tree.put_same (rest.drop count) rfl
        rw [Tree.put_put, whole] at remaining
        exact remaining

/-- A key file is created whole, or nothing happens. -/
inductive Created (tree : Tree δ) (path : Path) : Except CliError Unit → Tree δ → Prop where
  | made (place : δ × Bytes) (keypair : Keypair) (free : tree.creates path = .ok place) :
      Created tree path (.ok ()) (tree.put place (keyLine keypair))
  | refused (source : IoError) (error : CliError) (taken : tree.creates path = .error source) :
      Created tree path (.error error) tree

theorem persistKeyFile_created (path : Path) (label : String) (keypair : Keypair) :
    Fallible.Ensures (Tree.Serves sdk) (persistKeyFile path label keypair) (Created tree path) tree := by
  apply (Fallible.ensures_perform_bind (I := api) (.createNew path)).mpr
  intro reply after served
  unfold Tree.Serves at served
  dsimp only at served
  cases free : tree.creates path with
  | error source =>
    rw [free] at served
    obtain ⟨answer, same⟩ := served
    subst answer same
    exact .refused source _ free
  | ok place =>
    rw [free] at served
    obtain ⟨answer, made⟩ := served
    subst answer made
    obtain ⟨_, named, _, absent, _⟩ := Tree.creates_eq_ok.mp free
    have fills (contents : Bytes) : Tree.Fills tree (tree.put place contents) := Tree.put_fills (.inl absent)
    apply Fallible.Ensures.bind (writeAll_fills (((fills []).slot_eq path).trans named) Tree.put_same (utf8 (encodedSecret keypair)))
    · intro _ after wrote
      rw [wrote.2, List.nil_append, Tree.put_put]
      apply Fallible.Ensures.bind (writeAll_fills (((fills _).slot_eq path).trans named) Tree.put_same (utf8 "\n"))
      · intro _ after wrote
        rw [wrote.2, Tree.put_put]
        apply (Fallible.ensures_perform_bind (I := api) (.syncAll ⟨path⟩)).mpr
        intro reply after synced
        obtain ⟨same, answer⟩ := synced
        subst same answer
        exact .made place keypair free
      · intro _ _ failed
        cases failed.1
    · intro _ _ failed
      cases failed.1

theorem generateKeyFile_created (path : Path) (label : String) (network : Network) :
    Fallible.Ensures (Tree.Serves sdk) (generateKeyFile path label network)
      (fun outcome after => Created tree path (outcome.map fun _ => ()) after) tree := by
  apply (Fallible.ensures_perform_bind (I := api) (.generateNewKeypair network)).mpr
  intro drawn after served
  obtain ⟨same, _⟩ := served
  subst same
  apply Fallible.Ensures.bind (persistKeyFile_created path label drawn.1)
  · exact fun _ _ created => created
  · exact fun _ _ created => created

section Runs
variable (sdk)

theorem writeAll_runs (fail : IoError → CliError) {place : δ × Bytes} {contents : Bytes} (named : tree.slot path = some place)
    (opened : tree.entries place.1 place.2 = some (.file contents)) (buffer : Bytes) :
    Fallible.Executes (Tree.Serves sdk) (writeAll fail ⟨path⟩ buffer) tree (.ok ()) (tree.put place (contents ++ buffer)) := by
  apply writeAll_whole
  · intro empty
    rw [empty, List.append_nil, Tree.put_self opened]
  · intro some
    exact ⟨place, contents, _, named, opened, rfl, Nat.le_refl _, fun _ => List.length_pos_of_ne_nil some, by rw [List.take_length]⟩

theorem persistKeyFile_runs (tree : Tree δ) (path : Path) (label : String) (keypair : Keypair) :
    ∃ outcome after, Fallible.Executes (Tree.Serves sdk) (persistKeyFile path label keypair) tree outcome after := by
  cases free : tree.creates path with
  | error source =>
    have served : Tree.Serves sdk tree (.createNew path) (.error source) tree := by
      unfold Tree.Serves
      dsimp only
      rw [free]
      exact ⟨rfl, rfl⟩
    exact ⟨_, _, Fallible.Executes.perform (I := api) _ served .pure⟩
  | ok place =>
    obtain ⟨_, named, _, absent, _⟩ := Tree.creates_eq_ok.mp free
    have fills (contents : Bytes) : Tree.Fills tree (tree.put place contents) := Tree.put_fills (.inl absent)
    have served : Tree.Serves sdk tree (.createNew path) (.ok ⟨path⟩) (tree.put place []) := by
      unfold Tree.Serves
      dsimp only
      rw [free]
      exact ⟨rfl, rfl⟩
    have first := writeAll_runs sdk (.createKey label path) (((fills []).slot_eq path).trans named) Tree.put_same
      (utf8 (encodedSecret keypair))
    rw [List.nil_append, Tree.put_put] at first
    have last := writeAll_runs sdk (.createKey label path)
      (((fills (utf8 (encodedSecret keypair))).slot_eq path).trans named) Tree.put_same (utf8 "\n")
    have synced (state : Tree δ) : Tree.Serves sdk state (.syncAll ⟨path⟩) (.ok ()) state := ⟨rfl, rfl⟩
    exact ⟨_, _, Fallible.Executes.perform (I := api) _ served
      (first.bind (last.bind (Fallible.Executes.perform (I := api) _ (synced _) .pure)))⟩

theorem generateKeyFile_runs (tree : Tree δ) (path : Path) (label : String) (network : Network) :
    ∃ outcome after, Fallible.Executes (Tree.Serves sdk) (generateKeyFile path label network) tree outcome after := by
  let keypair := Reference.authorityKeypair
  have drawn : Tree.Serves sdk tree (.generateNewKeypair network) (keypair, sdk.xOnlyPublicKey keypair) tree := ⟨rfl, rfl⟩
  obtain ⟨outcome, after, executed⟩ := persistKeyFile_runs sdk tree path label keypair
  cases outcome with
  | ok value => exact ⟨_, after, Fallible.Executes.perform (I := api) _ drawn (executed.bind .pure)⟩
  | error error => exact ⟨_, after, Fallible.Executes.perform (I := api) _ drawn executed.bind_error⟩

end Runs
end Keys

namespace Keygen
variable {runSearch : VanitySearch → Cli VanityOutcome} {outputs : List Path}

/-- The file can be created, as far as the tree is concerned. -/
def Creatable (tree : Tree δ) (path : Path) : Prop := ∃ place, tree.creates path = .ok place

/-- Two paths name one place. -/
def SameFile (tree : Tree δ) (first second : Path) : Prop := ∃ place, tree.slot first = some place ∧ tree.slot second = some place

/-- The path named nothing and holds a key now. -/
def Holds (before after : Tree δ) (path : Path) : Prop :=
  ∃ place keypair, before.slot path = some place ∧ before.entries place.1 place.2 = none ∧
    after.entries place.1 place.2 = some (.file (Keys.keyLine keypair))

theorem Creatable.put_iff {place : δ × Bytes} {contents : Bytes} (absent : tree.entries place.1 place.2 = none) :
    Creatable (tree.put place contents) path ↔ Creatable tree path ∧ tree.slot path ≠ some place := by
  have fills : Tree.Fills tree (tree.put place contents) := Tree.put_fills (.inl absent)
  constructor
  · intro creatable
    obtain ⟨other, free⟩ := creatable
    obtain ⟨spelled, named, searched, empty, written⟩ := Tree.creates_eq_ok.mp free
    rw [fills.slot_eq] at named
    have different : other ≠ place := by
      intro same
      subst same
      rw [Tree.put_same] at empty
      cases empty
    rw [Tree.put_other different] at empty
    refine ⟨⟨other, Tree.creates_eq_ok.mpr ⟨spelled, named, searched, empty, written⟩⟩, ?_⟩
    rw [named]
    exact fun same => different (Option.some.inj same)
  · intro separate
    obtain ⟨⟨other, free⟩, apart⟩ := separate
    obtain ⟨spelled, named, searched, empty, written⟩ := Tree.creates_eq_ok.mp free
    have different : other ≠ place := fun same => apart (same ▸ named)
    rw [← fills.slot_eq] at named
    rw [← Tree.put_other different] at empty
    exact ⟨other, Tree.creates_eq_ok.mpr ⟨spelled, named, searched, empty, written⟩⟩

theorem sameFile_put {place : δ × Bytes} {contents : Bytes} (absent : tree.entries place.1 place.2 = none) {first second : Path} :
    SameFile (tree.put place contents) first second ↔ SameFile tree first second := by
  have fills : Tree.Fills tree (tree.put place contents) := Tree.put_fills (.inl absent)
  rw [SameFile, SameFile, fills.slot_eq, fills.slot_eq]

/-- Distinct places that are all free are all filled. -/
theorem generateAll_succeeds (free : ∀ path ∈ outputs, Creatable tree path)
    (distinct : outputs.Pairwise (fun first second => ¬SameFile tree first second)) :
    Fallible.Ensures (Tree.Serves sdk) (generateAll runSearch none outputs)
      (fun outcome after => outcome = .ok () ∧ (∀ path ∈ outputs, Holds tree after path) ∧
        ∀ place : δ × Bytes, (∀ path ∈ outputs, tree.slot path ≠ some place) →
          after.entries place.1 place.2 = tree.entries place.1 place.2) tree := by
  induction outputs generalizing tree with
  | nil => exact ⟨rfl, fun _ member => (by cases member), fun _ _ => rfl⟩
  | cons output outputs ih =>
    obtain ⟨apart, distinct⟩ := List.pairwise_cons.mp distinct
    apply Fallible.Ensures.bind (Keys.generateKeyFile_created output "secret key" .bitcoin)
    · intro made after created
      cases created with
      | made place keypair created =>
        obtain ⟨_, named, _, absent, _⟩ := Tree.creates_eq_ok.mp created
        have fills : Tree.Fills tree (tree.put place (Keys.keyLine keypair)) := Tree.put_fills (.inl absent)
        have elsewhere : ∀ path ∈ outputs, tree.slot path ≠ some place :=
          fun path member same => apart path member ⟨place, named, same⟩
        have stillFree : ∀ path ∈ outputs, Creatable (tree.put place (Keys.keyLine keypair)) path := fun path member =>
          (Creatable.put_iff absent).mpr ⟨free path (List.mem_cons_of_mem _ member), elsewhere path member⟩
        have stillDistinct : outputs.Pairwise (fun first second => ¬SameFile (tree.put place (Keys.keyLine keypair)) first second) :=
          distinct.imp fun separate same => separate ((sameFile_put absent).mp same)
        apply (ih stillFree stillDistinct).mono
        intro outcome after finished
        obtain ⟨done, held, frame⟩ := finished
        refine ⟨done, ?_, ?_⟩
        · intro path member
          rcases List.mem_cons.mp member with own | later
          · subst own
            refine ⟨place, keypair, named, absent, ?_⟩
            rw [frame place (fun path member => by rw [fills.slot_eq]; exact elsewhere path member), Tree.put_same]
          · obtain ⟨other, key, spelled, empty, written⟩ := held path later
            rw [fills.slot_eq] at spelled
            have different : other ≠ place := fun same => elsewhere path later (same ▸ spelled)
            rw [Tree.put_other different] at empty
            exact ⟨other, key, spelled, empty, written⟩
        · intro other outside
          have different : other ≠ place := fun same => outside output List.mem_cons_self (same ▸ named)
          rw [frame other (fun path member => by rw [fills.slot_eq]; exact outside path (List.mem_cons_of_mem _ member)),
            Tree.put_other different]
    · intro error after created
      cases created with
      | refused source error taken =>
        obtain ⟨place, created⟩ := free output List.mem_cons_self
        cases created.symm.trans taken

/-- Nothing is removed, the first file stays, and everything is created only where all
places are free and distinct. -/
theorem generateAll_sound : Fallible.Ensures (Tree.Serves sdk) (generateAll runSearch none outputs)
    (fun outcome after => Tree.Fills tree after ∧
      (outcome = .ok () → (∀ path ∈ outputs, Creatable tree path) ∧
        outputs.Pairwise (fun first second => ¬SameFile tree first second)) ∧
      ∀ output place, outputs.head? = some output → tree.creates output = .ok place → after.entries place.1 place.2 ≠ none) tree := by
  induction outputs generalizing tree with
  | nil => exact ⟨.refl tree, fun _ => ⟨fun _ member => (by cases member), .nil⟩, fun _ _ same => by cases same⟩
  | cons output outputs ih =>
    apply Fallible.Ensures.bind (Keys.generateKeyFile_created output "secret key" .bitcoin)
    · intro made after created
      cases created with
      | made place keypair created =>
        obtain ⟨_, named, _, absent, _⟩ := Tree.creates_eq_ok.mp created
        have fills : Tree.Fills tree (tree.put place (Keys.keyLine keypair)) := Tree.put_fills (.inl absent)
        apply ih.mono
        intro outcome after finished
        obtain ⟨more, free, _⟩ := finished
        refine ⟨fills.trans more, ?_, ?_⟩
        · intro done
          obtain ⟨free, distinct⟩ := free done
          refine ⟨?_, List.pairwise_cons.mpr ⟨?_, distinct.imp fun separate same => separate ((sameFile_put absent).mpr same)⟩⟩
          · intro path member
            rcases List.mem_cons.mp member with own | later
            · subst own
              exact ⟨place, created⟩
            · exact ((Creatable.put_iff absent).mp (free path later)).1
          · intro path member same
            obtain ⟨other, first, second⟩ := same
            cases named.symm.trans first
            exact ((Creatable.put_iff absent).mp (free path member)).2 second
        · intro first other same free
          cases same
          cases created.symm.trans free
          exact more.present (by rw [Tree.put_same]; exact Option.some_ne_none _)
    · intro error after created
      cases created with
      | refused source error taken =>
        refine ⟨.refl tree, fun same => (by cases same), ?_⟩
        intro first place same free
        cases same
        cases free.symm.trans taken

/-- Nothing is created where the first file cannot be. -/
theorem generateAll_refused {output : Path} (taken : ¬Creatable tree output) :
    Fallible.Ensures (Tree.Serves sdk) (generateAll runSearch none (output :: outputs))
      (fun outcome after => (∃ error, outcome = .error error) ∧ after = tree) tree := by
  apply Fallible.Ensures.bind (Keys.generateKeyFile_created output "secret key" .bitcoin)
  · intro made after created
    cases created with
    | made place keypair created => exact absurd ⟨place, created⟩ taken
  · intro error after created
    cases created
    exact ⟨⟨_, rfl⟩, rfl⟩

/-- Nothing is found at the path. -/
def Absent (tree : Tree δ) (path : Path) : Prop := ∃ source, tree.lstat path = .error source ∧ source.kind = .notFound

/-- What the preflight looks for: the paths are spelled differently, and nothing is found
at any of them. -/
def Accepted (tree : Tree δ) (outputs : List Path) : Prop :=
  outputs.Pairwise (fun first second => first.components ≠ second.components) ∧ ∀ path ∈ outputs, Absent tree path

omit [DecidableEq δ] in
theorem accepted_cons {requested : List Path} {output : Path} :
    ((∀ path ∈ output :: outputs, ∀ other ∈ requested, other.components ≠ path.components) ∧ Accepted tree (output :: outputs)) ↔
      (∀ other ∈ requested, other.components ≠ output.components) ∧ Absent tree output ∧
        (∀ path ∈ outputs, ∀ other ∈ output :: requested, other.components ≠ path.components) ∧ Accepted tree outputs := by
  simp only [Accepted, List.forall_mem_cons, List.pairwise_cons, forall_and]
  tauto

theorem preflightPaths_accepts (requested : List Path) :
    Fallible.Ensures (Tree.Serves sdk) (preflightPaths requested outputs)
      (fun outcome after => after = tree ∧
        (outcome = .ok () ↔ (∀ path ∈ outputs, ∀ other ∈ requested, other.components ≠ path.components) ∧ Accepted tree outputs))
      tree := by
  induction outputs generalizing requested with
  | nil => exact ⟨rfl, iff_of_true rfl ⟨fun _ member => (by cases member), .nil, fun _ member => by cases member⟩⟩
  | cons output outputs ih =>
    simp only [accepted_cons]
    unfold preflightPaths
    split
    next duplicate =>
      refine ⟨rfl, iff_of_false (fun same => by cases same) ?_⟩
      intro accepted
      obtain ⟨other, member, same⟩ := List.any_eq_true.mp duplicate
      exact accepted.1 other member (of_decide_eq_true same)
    next fresh =>
      have apart : ∀ other ∈ requested, other.components ≠ output.components :=
        fun other asked same => fresh (List.any_eq_true.mpr ⟨other, asked, decide_eq_true same⟩)
      apply (Fallible.ensures_perform_bind (I := api) (.symlinkMetadata output)).mpr
      intro reply after served
      obtain ⟨same, answer⟩ := served
      subst same
      cases reply with
      | ok value =>
        refine ⟨rfl, iff_of_false (fun same => by cases same) ?_⟩
        intro accepted
        obtain ⟨source, missing, _⟩ := accepted.2.1
        cases answer.trans missing
      | error source =>
        dsimp only
        split
        next missing =>
          apply (ih (output :: requested)).mono
          intro outcome final finished
          refine ⟨finished.1, finished.2.trans ?_⟩
          exact ⟨fun accepted => ⟨apart, ⟨source, answer.symm, missing⟩, accepted⟩, fun accepted => accepted.2.2⟩
        next other =>
          refine ⟨rfl, iff_of_false (fun same => by cases same) ?_⟩
          intro accepted
          obtain ⟨source, missing, kind⟩ := accepted.2.1
          cases answer.trans missing
          exact other kind

section Rule

/-- Without a prefix the command creates a key at every path, or fails and creates nothing. -/
def AllOrNothing (sdk : Sdk) (availableThreads : Nat) (runSearch : VanitySearch → Cli VanityOutcome) (threads : Option Nat)
    (tree : Tree δ) (outputs : List Path) : Prop :=
  ∀ outcome after, Fallible.Executes (Tree.Serves sdk) (run availableThreads runSearch ⟨none, threads, outputs⟩) tree outcome after →
    (outcome = .ok () ∧ ∀ path ∈ outputs, Holds tree after path) ∨ (∃ error, outcome = .error error) ∧ after = tree

/-- A directory on the way to the path does not exist. -/
def MissingParent (tree : Tree δ) (path : Path) : Prop := ∃ source, tree.parentOf path = .error source ∧ source.kind = .notFound

/-- The preflight rejects two paths to one file, and a path without its directory. -/
def PreflightComplete (sdk : Sdk) (tree : Tree δ) (outputs : List Path) : Prop :=
  ¬outputs.Pairwise (fun first second => ¬SameFile tree first second) ∨ (∃ path ∈ outputs, MissingParent tree path) →
    ∀ outcome after, Fallible.Executes (Tree.Serves sdk) (preflightPaths [] outputs) tree outcome after →
      ∃ error, outcome = .error error

variable {availableThreads : Nat} {threads : Option Nat}

theorem preflight_accepts : Fallible.Ensures (Tree.Serves sdk) (preflightPaths [] outputs)
    (fun outcome after => after = tree ∧ (outcome = .ok () ↔ Accepted tree outputs)) tree := by
  apply (preflightPaths_accepts []).mono
  intro outcome after finished
  exact ⟨finished.1, finished.2.trans (and_iff_right (fun _ _ _ asked => by cases asked))⟩

theorem run_eq : run availableThreads runSearch ⟨none, threads, outputs⟩ =
    (preflightPaths [] outputs >>= fun _ => generateAll runSearch none outputs) := rfl

theorem generateAll_runs (sdk : Sdk) (runSearch : VanitySearch → Cli VanityOutcome) (tree : Tree δ) (outputs : List Path) :
    ∃ outcome after, Fallible.Executes (Tree.Serves sdk) (generateAll runSearch none outputs) tree outcome after := by
  induction outputs generalizing tree with
  | nil => exact ⟨_, _, .pure⟩
  | cons output outputs ih =>
    obtain ⟨outcome, middle, made⟩ := Keys.generateKeyFile_runs sdk tree output "secret key" .bitcoin
    cases outcome with
    | ok value =>
      obtain ⟨outcome, after, rest⟩ := ih middle
      exact ⟨_, _, made.bind rest⟩
    | error error => exact ⟨_, _, made.bind_error⟩

theorem preflightPaths_runs (sdk : Sdk) (tree : Tree δ) (requested outputs : List Path) :
    ∃ outcome after, Fallible.Executes (Tree.Serves sdk) (preflightPaths requested outputs) tree outcome after := by
  induction outputs generalizing requested with
  | nil => exact ⟨_, _, .pure⟩
  | cons output outputs ih =>
    unfold preflightPaths
    split
    next => exact ⟨_, _, .pure⟩
    next =>
      have served : Tree.Serves sdk tree (.symlinkMetadata output) (tree.lstat output) tree := ⟨rfl, rfl⟩
      cases found : tree.lstat output with
      | ok value =>
        rw [found] at served
        exact ⟨_, _, Fallible.Executes.perform (I := api) _ served .pure⟩
      | error source =>
        rw [found] at served
        by_cases missing : source.kind = .notFound
        · obtain ⟨outcome, after, rest⟩ := ih (output :: requested)
          refine ⟨outcome, after, Fallible.Executes.perform (I := api) _ served ?_⟩
          dsimp only
          rw [if_pos missing]
          exact rest
        · refine ⟨.error (.createKey "secret key" output source), tree, Fallible.Executes.perform (I := api) _ served ?_⟩
          dsimp only
          rw [if_neg missing]
          exact .pure

theorem preflight_passes (sdk : Sdk) (accepted : Accepted tree outputs) :
    Fallible.Executes (Tree.Serves sdk) (preflightPaths [] outputs) tree (.ok ()) tree := by
  obtain ⟨outcome, after, executed⟩ := preflightPaths_runs sdk tree [] outputs
  obtain ⟨same, passes⟩ := Fallible.ensures_iff.mp preflight_accepts _ _ executed
  subst same
  rw [passes.mpr accepted] at executed
  exact executed

theorem allOrNothing_iff_ensures : AllOrNothing sdk availableThreads runSearch threads tree outputs ↔
    Fallible.Ensures (Tree.Serves sdk) (run availableThreads runSearch ⟨none, threads, outputs⟩) (fun outcome after =>
      (outcome = .ok () ∧ ∀ path ∈ outputs, Holds tree after path) ∨ (∃ error, outcome = .error error) ∧ after = tree) tree :=
  Fallible.ensures_iff.symm

/-- What is created once the preflight has passed. -/
theorem allOrNothing_of_accepted (accepted : Accepted tree outputs)
    (generated : Fallible.Ensures (Tree.Serves sdk) (generateAll runSearch none outputs) (fun outcome after =>
      (outcome = .ok () ∧ ∀ path ∈ outputs, Holds tree after path) ∨ (∃ error, outcome = .error error) ∧ after = tree) tree) :
    AllOrNothing sdk availableThreads runSearch threads tree outputs := by
  rw [allOrNothing_iff_ensures, run_eq]
  apply Fallible.Ensures.bind preflight_accepts
  · intro _ middle passed
    rw [passed.1]
    exact generated
  · intro error middle refused
    cases refused.2.mpr accepted

theorem preflight_rejects (rejected : ¬Accepted tree outputs) : Fallible.Ensures (Tree.Serves sdk) (preflightPaths [] outputs)
    (fun outcome after => (∃ error, outcome = .error error) ∧ after = tree) tree := by
  apply preflight_accepts.mono
  intro outcome after finished
  cases outcome with
  | ok value => exact absurd (finished.2.mp rfl) rejected
  | error error => exact ⟨⟨error, rfl⟩, finished.1⟩

theorem allOrNothing_iff : AllOrNothing sdk availableThreads runSearch threads tree outputs ↔
    ¬Accepted tree outputs ∨
      (∀ path ∈ outputs, Creatable tree path) ∧ outputs.Pairwise (fun first second => ¬SameFile tree first second) ∨
      ∀ first, outputs.head? = some first → ¬Creatable tree first := by
  by_cases accepted : Accepted tree outputs
  · rw [or_iff_right (not_not.mpr accepted)]
    constructor
    · intro wholly
      obtain ⟨outcome, after, executed⟩ := generateAll_runs sdk runSearch tree outputs
      obtain ⟨_, all, first⟩ := Fallible.ensures_iff.mp generateAll_sound _ _ executed
      rcases wholly outcome after ((preflight_passes sdk accepted).bind executed) with ⟨done, _⟩ | ⟨_, same⟩
      · exact .inl (all done)
      · refine .inr fun output head creatable => ?_
        obtain ⟨place, free⟩ := creatable
        apply first output place head free
        rw [same]
        exact (Tree.creates_eq_ok.mp free).2.2.2.1
    · intro free
      apply allOrNothing_of_accepted accepted
      rcases free with ⟨all, distinct⟩ | first
      · exact (generateAll_succeeds all distinct).mono fun _ _ finished => .inl ⟨finished.1, finished.2.1⟩
      · cases outputs with
        | nil => exact .inl ⟨rfl, fun _ member => by cases member⟩
        | cons output outputs => exact (generateAll_refused (first output rfl)).mono fun _ _ finished => .inr finished
  · refine iff_of_true ?_ (.inl accepted)
    rw [allOrNothing_iff_ensures, run_eq]
    apply Fallible.Ensures.bind (preflight_rejects accepted)
    · intro _ _ passed
      obtain ⟨⟨error, failed⟩, _⟩ := passed
      cases failed
    · intro error middle stopped
      exact .inr ⟨⟨error, rfl⟩, stopped.2⟩

theorem preflightComplete_iff : PreflightComplete sdk tree outputs ↔
    ¬Accepted tree outputs ∨
      (∀ path ∈ outputs, ¬MissingParent tree path) ∧ outputs.Pairwise (fun first second => ¬SameFile tree first second) := by
  constructor
  · intro complete
    by_cases accepted : Accepted tree outputs
    · refine .inr ⟨fun path member missing => ?_, by_contra fun same => ?_⟩
      · obtain ⟨error, failed⟩ := complete (.inr ⟨path, member, missing⟩) _ _ (preflight_passes sdk accepted)
        cases failed
      · obtain ⟨error, failed⟩ := complete (.inl same) _ _ (preflight_passes sdk accepted)
        cases failed
    · exact .inl accepted
  · intro condition bad outcome after executed
    rcases condition with rejected | ⟨parents, distinct⟩
    · exact (Fallible.ensures_iff.mp (preflight_rejects rejected) _ _ executed).1
    · rcases bad with same | ⟨path, member, missing⟩
      · exact absurd distinct same
      · exact absurd missing (parents path member)

/-- The command keeps to the rule exactly where the preflight rejects the paths, or where
it can rely on what it has checked: every directory exists, no two paths name one file,
and either all files can be created or the first one cannot. -/
theorem all_or_nothing_iff : AllOrNothing sdk availableThreads runSearch threads tree outputs ∧ PreflightComplete sdk tree outputs ↔
    ¬Accepted tree outputs ∨
      (∀ path ∈ outputs, ¬MissingParent tree path) ∧ outputs.Pairwise (fun first second => ¬SameFile tree first second) ∧
        ((∀ path ∈ outputs, Creatable tree path) ∨ ∀ first, outputs.head? = some first → ¬Creatable tree first) := by
  rw [allOrNothing_iff, preflightComplete_iff]
  constructor
  · intro both
    obtain ⟨rejected | created, rejected | ⟨parents, distinct⟩⟩ := both
    · exact .inl rejected
    · exact .inl rejected
    · exact .inl rejected
    · exact .inr ⟨parents, distinct, created.imp And.left id⟩
  · intro condition
    rcases condition with rejected | ⟨parents, distinct, created⟩
    · exact ⟨.inl rejected, .inl rejected⟩
    · exact ⟨.inr (created.imp (fun all => ⟨all, distinct⟩) id), .inr ⟨parents, distinct⟩⟩

end Rule

namespace Example

def plainKey : Path := ⟨utf8 "a.key"⟩
def dottedKey : Path := ⟨utf8 "./a.key"⟩

/-- An empty directory. -/
def emptyDirectory : Tree Unit where
  root := ()
  cwd := ()
  parent := id
  searchable _ := true
  writable _ := true
  entries _ _ := none

end Example

open Example Reference in
/-- Two spellings of one file pass the preflight, and the command fails after it has created
the file. -/
theorem creates_then_fails :
    ¬AllOrNothing tables.sdk 1 (fun _ => throw (.vanitySearch "")) none emptyDirectory [plainKey, dottedKey] ∧
    ¬PreflightComplete tables.sdk emptyDirectory [plainKey, dottedKey] := by
  have accepted : Accepted emptyDirectory [plainKey, dottedKey] := by
    have absent : ∀ path ∈ [plainKey, dottedKey], emptyDirectory.lstat path = .error Tree.noEntry := by decide +kernel
    exact ⟨by decide +kernel, fun path member => ⟨_, absent path member, rfl⟩⟩
  have same : SameFile emptyDirectory plainKey dottedKey := ⟨((), utf8 "a.key"), by decide +kernel, by decide +kernel⟩
  have first : Creatable emptyDirectory plainKey := ⟨((), utf8 "a.key"), by decide +kernel⟩
  have clash : ¬[plainKey, dottedKey].Pairwise (fun first second => ¬SameFile emptyDirectory first second) :=
    fun distinct => List.rel_of_pairwise_cons distinct (List.mem_singleton_self _) same
  rw [allOrNothing_iff, preflightComplete_iff]
  refine ⟨fun rule => ?_, fun rule => ?_⟩
  · rcases rule with rejected | ⟨_, distinct⟩ | refused
    · exact rejected accepted
    · exact clash distinct
    · exact refused plainKey rfl first
  · exact rule.elim (fun rejected => rejected accepted) (fun condition => clash condition.2)

end Keygen
end ArchKit
