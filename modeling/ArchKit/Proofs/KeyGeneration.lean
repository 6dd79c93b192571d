import ArchKit.Effects.Interleaving
import ArchKit.Proofs.KeyFiles
import ArchKit.Reference

/-! Concurrent runs that load or generate the key at one path. The first to create the
file is the only one to write it, and every other run reads a part of the same line. -/

namespace ArchKit
open Effects

variable {ι : Type} {sdk : Sdk} {path : Path} {client : ι}

namespace Disk

theorem resolve_file {disk : Disk ι} {contents : Bytes} {writer : Option ι}
    (found : disk path = some (.file contents writer)) : disk.resolve path = some path := by
  rw [resolve, follow, found]

theorem resolve_absent {disk : Disk ι} (absent : disk path = none) : disk.resolve path = none := by
  rw [resolve, follow, absent]

/-- The path leads to a file that holds the key. -/
def Holds (sdk : Sdk) (path : Path) (keypair : Keypair) (disk : Disk ι) : Prop :=
  ∃ location contents writer, disk.Opens path location contents writer ∧
    Keys.heldKey? sdk contents = some keypair.secretKey

theorem Holds.unique {disk : Disk ι} {first second : Keypair} (one : disk.Holds sdk path first)
    (two : disk.Holds sdk path second) : first = second := by
  obtain ⟨location, contents, writer, ⟨resolved, found⟩, held⟩ := one
  obtain ⟨place, others, owner, ⟨again, also⟩, key⟩ := two
  cases resolved.symm.trans again
  cases found.symm.trans also
  cases first
  cases second
  cases Option.some.inj (held.symm.trans key)
  rfl

end Disk

namespace Keys
open Disk

/-- Only the path was touched: it is as it was, or it was absent and is now a file that a
run created and in which it has written a part of a key line. -/
structure Sound (start : Disk ι) (path : Path) (disk : Disk ι) : Prop where
  elsewhere : ∀ location, location ≠ path → disk location = start location
  there : disk path = start path ∨ start path = none ∧ ∃ contents writer keypair,
    disk path = some (.file contents (some writer)) ∧ contents <+: keyLine keypair

/-- A run creates the file, or appends to the file that it has created. -/
inductive Moves (path : Path) (client : ι) (before : Disk ι) : Disk ι → Prop
  | stay : Moves path client before before
  | create (absent : before path = none) : Moves path client before (before.put path [] (some client))
  | append {contents : Bytes} (more : Bytes) (found : before path = some (.file contents (some client))) :
      Moves path client before (before.put path (contents ++ more) (some client))

def rules (sdk : Sdk) (start : Disk ι) (path : Path) : Rules api ι (Disk ι) where
  service := Disk.Serves sdk
  invariant := Sound start path
  guarantee := Moves path

section Outline
variable {start : Disk ι}
  (settled : ∀ location contents writer, start location = some (.file contents writer) → writer = none)

/-- The file a run is writing. -/
def Writing (path : Path) (client : ι) (written : Bytes) (disk : Disk ι) : Prop :=
  disk path = some (.file written (some client))

theorem Writing.stable (written : Bytes) : (rules sdk start path).Stable client (Writing path client written) := by
  intro other different before after _ _ moves writing
  cases moves with
  | stay => exact writing
  | create absent => cases absent.symm.trans writing
  | append more found => cases found.symm.trans writing; exact absurd rfl different

theorem Sound.put {disk : Disk ι} (sound : Sound start path disk) (absent : start path = none) {contents : Bytes}
    {writer : ι} {keypair : Keypair} (started : contents <+: keyLine keypair) :
    Sound start path (disk.put path contents (some writer)) where
  elsewhere location other := (Function.update_of_ne other ..).trans (sound.elsewhere location other)
  there := .inr ⟨absent, contents, writer, keypair, Function.update_self .., started⟩

include settled

/-- A file with a writer is the one at the path, and holds the start of a key line. -/
theorem Sound.written {disk : Disk ι} (sound : Sound start path disk) {location : Path} {contents : Bytes} {writer : ι}
    (found : disk location = some (.file contents (some writer))) :
    location = path ∧ start path = none ∧ ∃ keypair, contents <+: keyLine keypair := by
  by_cases own : location = path
  · subst own
    rcases sound.there with same | ⟨absent, others, owner, keypair, present, started⟩
    · cases settled _ _ _ (same.symm.trans found)
    · cases found.symm.trans present
      exact ⟨rfl, absent, keypair, started⟩
  · cases settled _ _ _ ((sound.elsewhere location own).symm.trans found)

/-- A key that is read stays the key at the path. -/
theorem holds_stable (keypair : Keypair) : (rules sdk start path).Stable client (Disk.Holds sdk path keypair) := by
  intro other _ before after kept later moves holds
  obtain ⟨location, contents, writer, ⟨resolved, present⟩, held⟩ := holds
  cases moves with
  | stay => exact ⟨location, contents, writer, ⟨resolved, present⟩, held⟩
  | create absent =>
    rw [Disk.resolve_absent absent] at resolved
    cases resolved
  | append more found =>
    rw [Disk.resolve_file found] at resolved
    cases resolved
    cases found.symm.trans present
    have extended : (before.put path (contents ++ more) (some other)) path =
        some (.file (contents ++ more) (some other)) := Function.update_self ..
    obtain ⟨_, _, line, started⟩ := Sound.written settled later extended
    exact ⟨path, _, _, ⟨Disk.resolve_file extended, extended⟩, heldKey?_grows started (List.prefix_append _ _) held⟩

theorem loadExistingKey_achieves (label : String) : (rules sdk start path).Achieves client (fun _ => True)
    (fun loaded disk => disk.Holds sdk path loaded.1 ∧ loaded.2 = sdk.xOnlyPublicKey loaded.1)
    (loadExistingKey sdk path label) := by
  unfold loadExistingKey
  apply Rules.Achieves.bind (fun _ _ => True)
  · apply Rules.Achieves.perform (I := api) (.isFile path) (fun _ => Rules.Stable.true)
    intro before reply after kept _ law
    obtain ⟨same, _⟩ := law
    subst same
    exact ⟨kept, .stay, trivial⟩
  intro present
  cases present with
  | false => exact Rules.Achieves.throw _
  | true =>
    rw [if_pos rfl]
    apply Rules.Achieves.bind (fun reply disk => ∀ bytes secret, reply = .ok bytes → heldKey? sdk bytes = some secret →
      disk.Holds sdk path ⟨secret⟩)
    · apply Rules.Achieves.perform (I := api) (.read path)
      · intro reply other different before after kept later moves known bytes secret received held
        exact holds_stable settled _ other different before after kept later moves (known bytes secret received held)
      · intro before reply after kept _ law
        obtain ⟨same, truth⟩ := law
        subst same
        refine ⟨kept, .stay, ?_⟩
        intro bytes secret received held
        obtain ⟨location, contents, writer, ⟨resolved, found⟩, part⟩ := truth bytes received
        refine ⟨location, contents, writer, ⟨resolved, found⟩, ?_⟩
        cases writer with
        | none => rw [← show bytes = contents from part]; exact held
        | some writer =>
          obtain ⟨_, _, line, started⟩ := Sound.written settled kept found
          exact heldKey?_grows started part held
    intro reply
    cases reply with
    | error source => exact Rules.Achieves.throw _
    | ok bytes =>
      dsimp only
      cases decoded : fromUtf8? bytes with
      | none => exact Rules.Achieves.throw _
      | some contents =>
        dsimp only
        cases parsed : parseSecretKey sdk contents with
        | error source => exact Rules.Achieves.throw _
        | ok secret =>
          apply Rules.Achieves.pure
          intro disk _ known
          refine ⟨known bytes secret rfl ?_, rfl⟩
          rw [heldKey?, decoded, Option.bind_some, parsed]
          rfl

theorem writeAll_achieves {fail : IoError → CliError} {keypair : Keypair} {written buffer : Bytes}
    (fits : written ++ buffer <+: keyLine keypair) :
    (rules sdk start path).Achieves client (Writing path client written)
      (fun _ => Writing path client (written ++ buffer)) (writeAll fail ⟨path⟩ buffer) := by
  induction size : buffer.length using Nat.strong_induction_on generalizing written buffer with
  | _ size ih =>
    subst size
    cases buffer with
    | nil =>
      rw [writeAll, List.append_nil]
      exact Rules.Achieves.pure (fun _ _ writing => writing)
    | cons byte rest =>
      rw [writeAll]
      apply Rules.Achieves.bind (fun reply disk => ∀ count, reply = .ok count →
        Writing path client (written ++ (byte :: rest).take count) disk)
      · apply Rules.Achieves.perform (I := api) (.write ⟨path⟩ (byte :: rest))
        · intro reply other different before after kept later moves known count received
          exact Writing.stable _ other different before after kept later moves (known count received)
        · intro before reply after kept writing law
          cases reply with
          | error source =>
            cases law
            exact ⟨kept, .stay, fun _ received => by cases received⟩
          | ok count =>
            obtain ⟨_, contents, writer, found, changed⟩ := law
            cases found.symm.trans writing
            subst changed
            obtain ⟨_, absent, _⟩ := Sound.written settled kept writing
            have started : written ++ (byte :: rest).take count <+: keyLine keypair :=
              ((List.prefix_append_right_inj _).mpr (List.take_prefix _ _)).trans fits
            refine ⟨kept.put absent started, .append _ writing, ?_⟩
            intro other received
            cases received
            exact Function.update_self ..
      intro reply
      cases reply with
      | error source => exact Rules.Achieves.throw _
      | ok count =>
        cases count with
        | zero => exact Rules.Achieves.throw _
        | succ count =>
          dsimp only
          have whole : (written ++ (byte :: rest).take (count + 1)) ++ rest.drop count = written ++ byte :: rest := by
            rw [List.append_assoc, List.take_succ_cons, List.cons_append, List.take_append_drop]
          have remaining := ih (rest.drop count).length (by simp only [List.length_drop, List.length_cons]; omega)
            (whole ▸ fits) rfl
          rw [whole] at remaining
          exact remaining.weaken (fun _ _ known => known _ rfl)

theorem persistKeyFile_achieves (label : String) (keypair : Keypair) :
    (rules sdk start path).Achieves client (fun _ => True) (fun _ => Writing path client (keyLine keypair))
      (persistKeyFile path label keypair) := by
  unfold persistKeyFile
  apply Rules.Achieves.bind (fun reply disk => ∀ file, reply = .ok file → file = ⟨path⟩ ∧ Writing path client [] disk)
  · apply Rules.Achieves.perform (I := api) (.createNew path)
    · intro reply other different before after kept later moves known file received
      obtain ⟨own, writing⟩ := known file received
      exact ⟨own, Writing.stable _ other different before after kept later moves writing⟩
    · intro before reply after kept _ law
      cases reply with
      | error source =>
        cases law
        exact ⟨kept, .stay, fun _ received => by cases received⟩
      | ok file =>
        obtain ⟨own, absent, changed⟩ := law
        subst changed
        have missing : start path = none := by
          rcases kept.there with same | ⟨missing, _⟩
          · rw [← same]; exact absent
          · exact missing
        refine ⟨kept.put missing (List.nil_prefix (l := keyLine keypair)), .create absent, ?_⟩
        intro other received
        cases received
        exact ⟨own, Function.update_self ..⟩
  intro reply
  cases reply with
  | error source => exact Rules.Achieves.throw _
  | ok file =>
    dsimp only
    refine (Rules.Achieves.assume ?_).weaken (fun _ _ known => known file rfl)
    intro own
    subst own
    apply Rules.Achieves.bind (fun _ => Writing path client (utf8 (encodedSecret keypair)))
    · exact writeAll_achieves settled (List.prefix_append _ _)
    intro _
    apply Rules.Achieves.bind (fun _ => Writing path client (keyLine keypair))
    · exact writeAll_achieves settled (List.prefix_refl (keyLine keypair))
    intro _
    apply Rules.Achieves.bind (fun _ => Writing path client (keyLine keypair))
    · apply Rules.Achieves.perform (I := api) (.syncAll ⟨path⟩) (fun _ => Writing.stable _)
      intro before reply after kept writing law
      cases law
      exact ⟨kept, .stay, writing⟩
    intro reply
    cases reply with
    | error source => exact Rules.Achieves.throw _
    | ok value => exact Rules.Achieves.pure (fun _ _ writing => writing)

theorem generateKeyFile_achieves (label : String) (network : Network) :
    (rules sdk start path).Achieves client (fun _ => True)
      (fun made disk => Writing path client (keyLine made.1) disk ∧ made.2 = sdk.xOnlyPublicKey made.1)
      (generateKeyFile path label network) := by
  unfold generateKeyFile
  apply Rules.Achieves.bind (fun drawn _ => drawn.2 = sdk.xOnlyPublicKey drawn.1)
  · apply Rules.Achieves.perform (I := api) (.generateNewKeypair network) (fun _ => Rules.Stable.const _)
    intro before reply after kept _ law
    obtain ⟨same, own⟩ := law
    subst same
    exact ⟨kept, .stay, own⟩
  intro drawn
  obtain ⟨keypair, pubkey⟩ := drawn
  refine (Rules.Achieves.assume ?_).weaken (fun _ _ own => (⟨own, trivial⟩ : pubkey = sdk.xOnlyPublicKey keypair ∧ True))
  intro own
  apply Rules.Achieves.bind (fun _ => Writing path client (keyLine keypair))
  · exact persistKeyFile_achieves settled label keypair
  intro _
  exact Rules.Achieves.pure (fun _ _ writing => ⟨writing, own⟩)

/-- What a run that returned knows of the path. -/
def Returned (sdk : Sdk) (path : Path) (client : ι) (result : Keypair × Pubkey × Bool) (disk : Disk ι) : Prop :=
  disk.Holds sdk path result.1 ∧ result.2.1 = sdk.xOnlyPublicKey result.1 ∧
    (result.2.2 = true → ∃ contents, Writing path client contents disk)

theorem loadOrGenerateKey_achieves (label : String) (network : Network) (generateIfMissing : Bool) :
    (rules sdk start path).Achieves client (fun _ => True) (Returned sdk path client)
      (loadOrGenerateKey sdk path label network generateIfMissing) := by
  have loads : (rules sdk start path).Achieves client (fun _ => True) (Returned sdk path client)
      (loadExistingKey sdk path label >>= fun loaded => pure (loaded.1, loaded.2, false)) := by
    apply Rules.Achieves.bind _ (loadExistingKey_achieves settled label)
    intro loaded
    apply Rules.Achieves.pure
    intro disk _ known
    exact ⟨known.1, known.2, fun generated => by cases generated⟩
  unfold loadOrGenerateKey
  cases generateIfMissing with
  | false => exact loads
  | true =>
    rw [if_pos rfl]
    apply Rules.Achieves.bind (fun _ _ => True)
    · apply Rules.Achieves.perform (I := api) (.symlinkMetadata path) (fun _ => Rules.Stable.true)
      intro before reply after kept _ law
      obtain ⟨same, _⟩ := law
      subst same
      exact ⟨kept, .stay, trivial⟩
    intro reply
    cases reply with
    | ok value => exact loads
    | error source =>
      dsimp only
      split
      next =>
        apply Rules.Achieves.bind _ (generateKeyFile_achieves settled label network)
        intro made
        apply Rules.Achieves.pure
        intro disk _ known
        obtain ⟨writing, own⟩ := known
        exact ⟨⟨path, _, _, ⟨Disk.resolve_file writing, writing⟩, heldKey?_line _⟩, own, fun _ => ⟨_, writing⟩⟩
      next => exact Rules.Achieves.throw _

end Outline
/-- Any number of runs at one path, before their first request, on a file system on which
nothing is being written. -/
structure Launched (sdk : Sdk) (path : Path)
    (start : System api ι (Disk ι) (Except CliError (Keypair × Pubkey × Bool))) : Prop where
  runs : ∀ client, ∃ label network, start.clients client = ExceptT.run (loadOrGenerateKey sdk path label network true)
  settled : ∀ location contents writer, start.state location = some (.file contents writer) → writer = none

/-- One run at most generates a key, nothing that was there is changed, nothing is created
elsewhere, and every run that returns has the key that the file holds. -/
theorem loadOrGenerateKey_agrees [DecidableEq ι]
    {start final : System api ι (Disk ι) (Except CliError (Keypair × Pubkey × Bool))}
    (launched : Launched sdk path start) (reached : System.Reaches (Disk.Serves sdk) start final) :
    (∀ first second result other, final.clients first = .pure (.ok result) → result.2.2 = true →
      final.clients second = .pure (.ok other) → other.2.2 = true → first = second) ∧
    (∀ location node, start.state location = some node → final.state location = some node) ∧
    (∀ location, location ≠ path → final.state location = start.state location) ∧
    (∀ first second result other, final.clients first = .pure (.ok result) → final.clients second = .pure (.ok other) →
      result.1 = other.1 ∧ result.2.1 = other.2.1) ∧
    ∀ client result, final.clients client = .pure (.ok result) → final.state.Holds sdk path result.1 := by
  have outlined : Outlined (rules sdk start.state path)
      (fun client outcome disk => ∀ result, outcome = .ok result → Returned sdk path client result disk) start := by
    refine ⟨⟨fun _ _ => rfl, .inl rfl⟩, ?_⟩
    intro client
    obtain ⟨label, network, same⟩ := launched.runs client
    refine ⟨fun _ => True, Rules.Stable.true, trivial, ?_⟩
    rw [same]
    exact loadOrGenerateKey_achieves launched.settled label network true
  have ended := outlined.reaches reached
  have returned (client : ι) (result : Keypair × Pubkey × Bool) (finished : final.clients client = .pure (.ok result)) :
      Returned sdk path client result final.state := ended.returned finished result rfl
  refine ⟨?_, ?_, ended.invariant.elsewhere, ?_, fun client result finished => (returned client result finished).1⟩
  · intro first second result other finished generated also twice
    obtain ⟨contents, writing⟩ := (returned first result finished).2.2 generated
    obtain ⟨others, again⟩ := (returned second other also).2.2 twice
    cases Eq.trans writing.symm again
    rfl
  · intro location node found
    by_cases own : location = path
    · subst own
      rcases ended.invariant.there with same | ⟨absent, _⟩
      · rw [same, found]
      · cases absent.symm.trans found
    · rw [ended.invariant.elsewhere location own, found]
  · intro first second result other finished also
    obtain ⟨held, own, _⟩ := returned first result finished
    obtain ⟨again, derived, _⟩ := returned second other also
    have same := held.unique again
    exact ⟨same, by rw [own, derived, same]⟩

namespace Example
open Reference Disk.Choice

def keyPath : Path := ⟨[107, 101, 121]⟩

/-- Two runs at a path where there is nothing. -/
def start : System api Bool (Disk Bool) (Except CliError (Keypair × Pubkey × Bool)) :=
  ⟨fun _ => none, fun _ => ExceptT.run (loadOrGenerateKey tables.sdk keyPath "key" .bitcoin true)⟩

def play (schedule : List (Bool × Disk.Choice)) : Option (System api Bool (Disk Bool) (Except CliError (Keypair × Pubkey × Bool))) :=
  System.play (fun client choice disk operation => Disk.attempt tables.sdk client disk choice operation) schedule start

/-- The second run reads the file when only the end of the line is missing. -/
def early : List (Bool × Disk.Choice) :=
  [(false, honest), (false, draw firstBuffer), (false, honest), (false, part 40), (true, honest), (false, part 24),
    (true, honest), (true, honest), (false, part 1), (false, honest)]

theorem launched : Launched tables.sdk keyPath start where
  runs _ := ⟨"key", .bitcoin, rfl⟩
  settled _ _ _ found := by cases found

end Example

open Example Reference in
theorem loadOrGenerateKey_agrees_early : ∃ final, play early = some final ∧
    ∃ generated loaded, final.clients false = .pure (.ok generated) ∧ final.clients true = .pure (.ok loaded) ∧
      generated.2.2 = true ∧ loaded.2.2 = false ∧ generated.1 = loaded.1 ∧
      final.state.Holds tables.sdk keyPath loaded.1 := by
  have observed : (play early).map (fun final => (Fallible.returned? (final.clients false), Fallible.returned? (final.clients true))) =
      some (some (firstBuffer, publicKey firstBuffer, true), some (firstBuffer, publicKey firstBuffer, false)) := by
    decide +kernel
  obtain ⟨final, played, shown⟩ := Option.map_eq_some_iff.mp observed
  obtain ⟨first, second⟩ : _ ∧ _ := by simpa only [Prod.mk.injEq] using shown
  have reached : System.Reaches (Disk.Serves tables.sdk) start final :=
    System.play_reaches (fun _ _ _ _ _ _ attempted => Disk.attempt_serves attempted) early start final played
  obtain ⟨_, _, _, agree, held⟩ := loadOrGenerateKey_agrees launched reached
  have generated := Fallible.returned?_eq_some.mp first
  have loaded := Fallible.returned?_eq_some.mp second
  exact ⟨final, played, _, _, generated, loaded, rfl, rfl, (agree _ _ _ _ generated loaded).1, held _ _ loaded⟩

end Keys
end ArchKit
