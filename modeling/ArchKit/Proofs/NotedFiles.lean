import ArchKit.Effects.Record
import ArchKit.Proofs.KeyFiles
import ArchKit.Proofs.LeastPrivilege
import ArchKit.SharedDisk

/-! What a run knows of the files it has created. It writes to no others, and a command
that reports success has filled them. -/

namespace ArchKit
open Effects Fallible

/-- What a run has written to the files it created, and what it last read from each path. -/
structure Notes where
  files : Path → Option Bytes
  read : Path → Option Bytes

namespace Notes
variable (notes : Notes)

def blank : Notes := ⟨fun _ => none, fun _ => none⟩

def put (path : Path) (contents : Bytes) : Notes :=
  { notes with files := Function.update notes.files path (some contents) }

/-- A file is created once, and only the files that were created are written. -/
def observe : (operation : Demand) → toolkit.Reply operation → Option Notes
  | .inl (.createNew path), .ok file => if file = ⟨path⟩ ∧ notes.files path = none then some (notes.put path []) else none
  | .inl (.write file buffer), .ok count =>
    if count ≤ buffer.length then (notes.files file.path).map fun contents => notes.put file.path (contents ++ buffer.take count)
    else none
  | .inl (.read path), .ok bytes => some { notes with read := Function.update notes.read path (some bytes) }
  | _, _ => some notes

/-- Files are created where that is allowed, and no file of anybody else is changed. -/
def allows (creates : Path → Prop) : Demand → Prop
  | .inl (.createNew path) => creates path
  | .inl (.write file _) => (notes.files file.path).isSome
  | .inr (.writeFile ..) | .inr (.buildIdl _) => False
  | _ => True

variable {notes} {path other : Path} {contents : Bytes}

@[simp] theorem put_self : (notes.put path contents).files path = some contents := Function.update_self ..

theorem put_ne (different : other ≠ path) : (notes.put path contents).files other = notes.files other :=
  Function.update_of_ne different ..

@[simp] theorem put_put (later : Bytes) : (notes.put path contents).put path later = notes.put path later := by
  simp only [put, Function.update_idem]

end Notes

/-- New files with their contents, and nothing else. -/
structure Fills (written : List (Path × Bytes)) (before after : Path → Option Bytes) : Prop where
  fresh : ∀ entry ∈ written, before entry.1 = none
  nodup : (written.map Prod.fst).Nodup
  present : ∀ entry ∈ written, after entry.1 = some entry.2
  elsewhere : ∀ path ∉ written.map Prod.fst, after path = before path

namespace Fills
variable {written more : List (Path × Bytes)} {before middle after : Path → Option Bytes}

theorem nil : Fills [] before before where
  fresh _ member := by cases member
  nodup := List.nodup_nil
  present _ member := by cases member
  elsewhere _ _ := rfl

theorem put {notes : Notes} {path : Path} {contents : Bytes} (absent : notes.files path = none) :
    Fills [(path, contents)] notes.files (notes.put path contents).files where
  fresh entry member := by rw [List.mem_singleton.mp member]; exact absent
  nodup := List.nodup_singleton _
  present entry member := by rw [List.mem_singleton.mp member]; exact Notes.put_self
  elsewhere other apart := Notes.put_ne fun same => apart (List.mem_singleton.mpr same)

theorem append (first : Fills written before middle) (second : Fills more middle after) : Fills (written ++ more) before after := by
  -- what was filled first is not absent later
  have apart {entry : Path × Bytes} (member : entry ∈ written) : entry.1 ∉ more.map Prod.fst := by
    intro again
    obtain ⟨other, inside, same⟩ := List.mem_map.mp again
    have absent := second.fresh other inside
    rw [same, first.present entry member] at absent
    cases absent
  refine ⟨?_, ?_, ?_, ?_⟩
  · intro entry member
    rcases List.mem_append.mp member with early | late
    · exact first.fresh entry early
    · by_cases known : entry.1 ∈ written.map Prod.fst
      · obtain ⟨other, inside, same⟩ := List.mem_map.mp known
        exact absurd (List.mem_map.mpr ⟨entry, late, same.symm⟩) (apart inside)
      · rw [← first.elsewhere _ known]
        exact second.fresh entry late
  · rw [List.map_append, List.nodup_append']
    refine ⟨first.nodup, second.nodup, ?_⟩
    intro path early
    obtain ⟨entry, member, same⟩ := List.mem_map.mp early
    exact same ▸ apart member
  · intro entry member
    rcases List.mem_append.mp member with early | late
    · rw [second.elsewhere _ (apart early)]
      exact first.present entry early
    · exact second.present entry late
  · intro path absent
    rw [List.map_append, List.mem_append, not_or] at absent
    rw [second.elsewhere path absent.2, first.elsewhere path absent.1]

theorem noted (fills : Fills written before after) {path : Path} (member : path ∈ written.map Prod.fst) : (after path).isSome := by
  obtain ⟨entry, inside, same⟩ := List.mem_map.mp member
  rw [← same, fills.present entry inside]
  rfl

theorem blank_iff (fills : Fills written Notes.blank.files after) {path : Path} {contents : Bytes} :
    after path = some contents ↔ (path, contents) ∈ written := by
  constructor
  · intro found
    by_cases known : path ∈ written.map Prod.fst
    · obtain ⟨entry, inside, same⟩ := List.mem_map.mp known
      have present := fills.present entry inside
      rw [same, found] at present
      cases present
      cases same
      exact inside
    · cases found.symm.trans (fills.elsewhere path known)
  · exact fills.present _

end Fills

/-- The recorder of a run that may create some files. -/
def tidy (creates : Path → Prop) : Recorder toolkit Notes := ⟨fun notes => notes.allows creates, fun notes => notes.observe⟩

namespace Init
variable {creates : Path → Prop} {notes : Notes} {path : Path} {contents : Bytes}

theorem writeAll_records {fail : IoError → CommandError} (own : notes.files path = some contents) (buffer : Bytes) :
    Records (tidy creates) (fun _ after => after = notes.put path (contents ++ buffer)) (writeAll fail ⟨path⟩ buffer) notes := by
  induction buffer using writeAll.induct generalizing notes contents with
  | case1 =>
    rw [writeAll]
    apply Records.pure
    rw [List.append_nil, Notes.put, ← own, Function.update_eq_self]
  | case2 byte rest ih =>
    rw [writeAll]
    apply Records.perform (I := toolkit) (Option.isSome_of_eq_some own)
    intro reply after expected
    cases reply with
    | error source => exact Records.throw _
    | ok count =>
      have observed : (if count ≤ (byte :: rest).length then
          (notes.files path).map fun contents => notes.put path (contents ++ (byte :: rest).take count) else none) = some after :=
        expected
      cases count with
      | zero => exact Records.throw _
      | succ count =>
        split at observed
        next fits =>
          rw [own] at observed
          cases observed
          apply (ih count Notes.put_self).mono
          intro value last same
          rw [same, Notes.put_put, List.append_assoc, List.take_succ_cons, List.cons_append, List.take_append_drop]
        next => cases observed

theorem writeNewFile_records (may : creates path) :
    Records (tidy creates) (fun _ after => notes.files path = none ∧ after = notes.put path contents)
      (writeNewFile path contents) notes := by
  unfold writeNewFile
  apply Records.perform (I := toolkit) may
  intro reply opened expected
  cases reply with
  | error source => exact Records.throw _
  | ok file =>
    have observed : (if file = ⟨path⟩ ∧ notes.files path = none then some (notes.put path []) else none) = some opened := expected
    split at observed
    next fresh =>
      obtain ⟨same, absent⟩ := fresh
      cases observed
      rw [same]
      apply (writeAll_records Notes.put_self contents).bind
      intro _ written filled
      apply Records.perform (I := toolkit) trivial
      intro reply synced expected
      cases expected
      cases reply with
      | error source => exact Records.throw _
      | ok value => exact Records.pure ⟨absent, by rw [filled, Notes.put_put, List.nil_append]⟩
    next => cases observed

end Init

section Quiet
variable {α : Type} {creates : Path → Prop} {notes : Notes}

/-- The requests by which no file is created or written. -/
def Demand.Quiet : Demand → Prop
  | .inl (.createNew _) | .inl (.write ..) | .inr (.writeFile ..) | .inr (.buildIdl _) => False
  | _ => True

/-- A part that writes nothing. -/
theorem quiet_records {program : Tool α} (quiet : Uses (I := toolkit) Demand.Quiet program) :
    Records (tidy creates) (fun _ after => after.files = notes.files) program notes := by
  have kept : Records (tidy creates) (fun _ after => after.files = notes.files ∧ True) program notes := by
    apply Within.records (fun after : Notes => after.files = notes.files) quiet rfl
    · intro other operation _ silent
      rcases operation with operation | operation
      · cases operation with
        | createNew | write => cases silent
        | _ => trivial
      · cases operation with
        | writeFile | buildIdl => cases silent
        | _ => trivial
    · intro other operation reply after same silent expected
      rcases operation with operation | operation
      · cases operation with
        | createNew | write => cases silent
        | read path =>
          cases reply with
          | ok bytes =>
            cases expected
            exact same
          | error source =>
            cases expected
            exact same
        | _ =>
          cases expected
          exact same
      · cases operation with
        | writeFile | buildIdl => cases silent
        | _ =>
          cases expected
          exact same
  exact kept.mono fun _ _ holds => holds.1

/-- What a program without calls of its own does to the notes. -/
abbrev Cli.Records (creates : Path → Prop) (post : α → Notes → Prop) (program : Cli α) (notes : Notes) : Prop :=
  Fallible.Records (I := api) (Recorder.left (I := api) (J := calls) (tidy creates)) post program notes

theorem Tool.ofCli_records {post : α → Notes → Prop} {program : Cli α} :
    Fallible.Records (tidy creates) post (ofCli program) notes ↔ Cli.Records creates post program notes :=
  (Fallible.records_left (I := api) (J := calls)).trans records_wrap

theorem Cli.quiet_records {program : Cli α} (quiet : Uses (I := api) (fun operation => Demand.Quiet (.inl operation)) program) :
    Cli.Records creates (fun _ after => after.files = notes.files) program notes :=
  Tool.ofCli_records.mp (ArchKit.quiet_records (Tool.ofCli_uses quiet))

end Quiet

namespace Keys
variable {sdk : Sdk} {creates : Path → Prop} {notes : Notes} {path : Path} {contents : Bytes} {label : String}

/-- The two loops of `write_all` differ in their errors only. -/
theorem ofCli_writeAll (fail : IoError → CliError) (file : File) (buffer : Bytes) :
    Tool.ofCli (writeAll fail file buffer) = Init.writeAll (fun source => .cli (fail source)) file buffer := by
  induction buffer using writeAll.induct with
  | case1 =>
    rw [writeAll, Init.writeAll]
    rfl
  | case2 byte rest ih =>
    rw [writeAll, Init.writeAll]
    refine Tool.ofCli_perform.trans ?_
    congr 1
    funext reply
    cases reply with
    | error source => rfl
    | ok count =>
      cases count with
      | zero => rfl
      | succ count => exact ih count

theorem writeAll_records {fail : IoError → CliError} (own : notes.files path = some contents) (buffer : Bytes) :
    Cli.Records creates (fun _ after => after = notes.put path (contents ++ buffer)) (writeAll fail ⟨path⟩ buffer) notes := by
  rw [← Tool.ofCli_records, ofCli_writeAll]
  exact Init.writeAll_records own buffer

theorem loadExistingKey_records : Cli.Records creates (fun loaded after => ∃ bytes, heldKey? sdk bytes = some loaded.1.secretKey ∧
    loaded.2 = sdk.xOnlyPublicKey loaded.1 ∧ after = { notes with read := Function.update notes.read path (some bytes) })
    (loadExistingKey sdk path label) notes := by
  unfold loadExistingKey
  apply Records.perform (I := api) trivial
  intro present looked expected
  cases expected
  cases present with
  | false => exact Records.throw _
  | true =>
    apply Records.perform (I := api) trivial
    intro reply after expected
    cases reply with
    | error source => exact Records.throw _
    | ok bytes =>
      cases expected
      dsimp only
      cases decoded : fromUtf8? bytes with
      | none => exact Records.throw _
      | some contents =>
        dsimp only
        cases parsed : parseSecretKey sdk contents with
        | error source => exact Records.throw _
        | ok secretKey =>
          have held : heldKey? sdk bytes = some secretKey := by rw [heldKey?, decoded, Option.bind_some, parsed]; rfl
          exact Records.pure ⟨bytes, held, rfl, rfl⟩

theorem persistKeyFile_records (may : creates path) (keypair : Keypair) :
    Cli.Records creates (fun _ after => notes.files path = none ∧ after = notes.put path (keyLine keypair))
      (persistKeyFile path label keypair) notes := by
  unfold persistKeyFile
  apply Records.perform (I := api) may
  intro reply opened expected
  cases reply with
  | error source => exact Records.throw _
  | ok file =>
    have observed : (if file = ⟨path⟩ ∧ notes.files path = none then some (notes.put path []) else none) = some opened := expected
    split at observed
    next fresh =>
      obtain ⟨same, absent⟩ := fresh
      cases observed
      rw [same]
      apply (writeAll_records Notes.put_self _).bind
      intro _ started filled
      rw [filled]
      apply (writeAll_records Notes.put_self _).bind
      intro _ written completed
      apply Records.perform (I := api) trivial
      intro reply synced expected
      cases expected
      cases reply with
      | error source => exact Records.throw _
      | ok value => exact Records.pure ⟨absent, by rw [completed, Notes.put_put, Notes.put_put, List.nil_append, keyLine]⟩
    next => cases observed

theorem generateKeyFile_records (may : creates path) (network : Network) :
    Cli.Records creates (fun made after => notes.files path = none ∧ after = notes.put path (keyLine made.1))
      (generateKeyFile path label network) notes := by
  unfold generateKeyFile
  apply Records.perform (I := api) trivial
  intro drawn after expected
  cases expected
  exact (persistKeyFile_records may drawn.1).bind fun _ _ holds => Records.pure holds

/-- What is written for a key at a path. -/
def Line (path : Path) (entry : Path × Bytes) : Prop := entry.1 = path ∧ ∃ keypair, entry.2 = keyLine keypair

theorem loadOrGenerateKey_records {generateIfMissing : Bool} (may : generateIfMissing = true → creates path) (network : Network) :
    Cli.Records creates (fun _ after => ∃ written, Fills written notes.files after.files ∧ ∀ entry ∈ written, Line path entry)
      (loadOrGenerateKey sdk path label network generateIfMissing) notes := by
  have loads (notes : Notes) : Cli.Records creates
      (fun _ after => ∃ written, Fills written notes.files after.files ∧ ∀ entry ∈ written, Line path entry)
      (loadExistingKey sdk path label >>= fun loaded => pure (loaded.1, loaded.2, false)) notes := by
    apply loadExistingKey_records.bind
    intro loaded after holds
    obtain ⟨_, _, _, same⟩ := holds
    rw [same]
    exact Records.pure ⟨[], .nil, fun _ member => nomatch member⟩
  unfold loadOrGenerateKey
  cases generateIfMissing with
  | false => exact loads notes
  | true =>
    apply Records.perform (I := api) trivial
    intro reply after expected
    cases expected
    cases reply with
    | ok value => exact loads notes
    | error source =>
      dsimp only
      split
      next =>
        apply (generateKeyFile_records (may rfl) network).bind
        intro made after holds
        obtain ⟨absent, same⟩ := holds
        rw [same]
        refine Records.pure ⟨_, .put absent, ?_⟩
        intro entry member
        rw [List.mem_singleton.mp member]
        exact ⟨rfl, made.1, rfl⟩
      next => exact Records.throw _

end Keys

namespace Keygen
variable {creates : Path → Prop} {runSearch : Vanity.VanitySearch → Cli Vanity.VanityOutcome}

theorem generateAll_records (quiet : ∀ search, Uses (I := api) (fun operation => Demand.Quiet (.inl operation)) (runSearch search))
    (vanitySearch : Option Vanity.VanitySearch) (outputs : List Path) (may : ∀ path ∈ outputs, creates path) (notes : Notes) :
    Cli.Records creates (fun _ after => ∃ written, Fills written notes.files after.files ∧ List.Forall₂ Keys.Line outputs written)
      (generateAll runSearch vanitySearch outputs) notes := by
  induction outputs generalizing notes with
  | nil => exact Records.pure ⟨[], .nil, .nil⟩
  | cons output outputs ih =>
    have proceeds (noted filled : Notes) (keypair : Keypair) (same : noted.files = notes.files) (absent : noted.files output = none)
        (put : filled = noted.put output (Keys.keyLine keypair)) : Cli.Records creates
        (fun _ after => ∃ written, Fills written notes.files after.files ∧ List.Forall₂ Keys.Line (output :: outputs) written)
        (generateAll runSearch vanitySearch outputs) filled := by
      apply (ih (fun path member => may path (List.mem_cons_of_mem _ member)) filled).mono
      intro _ after holds
      obtain ⟨written, fills, lines⟩ := holds
      rw [put] at fills
      exact ⟨(output, Keys.keyLine keypair) :: written, same ▸ (Fills.put absent).append fills, .cons ⟨rfl, keypair, rfl⟩ lines⟩
    unfold generateAll
    cases vanitySearch with
    | some search =>
      apply (Cli.quiet_records (quiet search)).bind
      intro outcome searched same
      apply (Keys.persistKeyFile_records (may output List.mem_cons_self) outcome.keypair).bind
      intro _ filled holds
      exact proceeds searched filled outcome.keypair same holds.1 holds.2
    | none =>
      apply (Keys.generateKeyFile_records (may output List.mem_cons_self) .bitcoin).bind
      intro made filled holds
      exact proceeds notes filled made.1 rfl holds.1 holds.2

theorem run_records (quiet : ∀ search, Uses (I := api) (fun operation => Demand.Quiet (.inl operation)) (runSearch search))
    (availableThreads : Nat) {args : Args} (may : ∀ path ∈ args.outputs, creates path) (notes : Notes) :
    Cli.Records creates (fun _ after => ∃ written, Fills written notes.files after.files ∧ List.Forall₂ Keys.Line args.outputs written)
      (run availableThreads runSearch args) notes := by
  unfold run
  apply (Cli.quiet_records (preflightPaths_uses [] args.outputs fun _ _ => trivial)).bind
  intro _ looked same
  apply (Cli.quiet_records Uses.ofExcept).bind
  intro vanitySearch parsed still
  rw [← same, ← still]
  exact generateAll_records quiet vanitySearch args.outputs may parsed

end Keygen

namespace Deploy
variable {creates : Path → Prop} {context : Context} {args : Args}

/-- What is written for the keys of a deployment. -/
def Generated (args : Args) (entry : Path × Bytes) : Prop := Keys.Line args.programKey entry ∨ Keys.Line args.authority entry

theorem localInputs_records (may : args.generateIfMissing = true → creates args.programKey ∧ creates args.authority) (notes : Notes) :
    Cli.Records creates (fun _ after => ∃ written, Fills written notes.files after.files ∧ ∀ entry ∈ written, Generated args entry)
      (localInputs context args) notes := by
  unfold localInputs
  apply (Cli.quiet_records Uses.ofExcept).bind
  intro expectedProgram parsed first
  apply (Cli.quiet_records (ensureFile_uses trivial "program ELF")).bind
  intro _ looked second
  apply (Cli.quiet_records (readElf_uses trivial)).bind
  intro elf read third
  rw [← first, ← second, ← third]
  apply (Keys.loadOrGenerateKey_records (fun generate => (may generate).1) context.network).bind
  intro program programmed holds
  obtain ⟨written, fills, lines⟩ := holds
  dsimp only
  split
  next => exact Records.throw _
  next =>
    apply (Keys.loadOrGenerateKey_records (fun generate => (may generate).2) context.network).bind
    intro authority authorized holds
    obtain ⟨more, adds, others⟩ := holds
    apply (Cli.quiet_records (preparedIdl_uses (fun _ _ => ⟨trivial, trivial⟩) program.2.1 args.idlSize)).bind
    intro preparedIdl after same
    refine Records.pure ⟨written ++ more, same ▸ fills.append adds, ?_⟩
    intro entry member
    rcases List.mem_append.mp member with early | late
    · exact .inl (lines entry early)
    · exact .inr (others entry late)

theorem run_records (may : args.generateIfMissing = true → creates args.programKey ∧ creates args.authority) (notes : Notes) :
    Cli.Records creates (fun _ after => ∃ written, Fills written notes.files after.files ∧ ∀ entry ∈ written, Generated args entry)
      (run context args) notes := by
  have quiet : Deploys (fun operation => Demand.Quiet (.inl operation)) { args with generateIfMissing := false } context.network := {
    blockhash := trivial
    send := fun _ => trivial
    wait := fun _ => trivial
    account := fun _ => trivial
    draw := trivial
    elf := ⟨trivial, trivial⟩
    programKey := ⟨trivial, trivial⟩
    authority := ⟨trivial, trivial⟩
    idl := fun _ _ => ⟨trivial, trivial⟩
    generates := fun impossible => by cases impossible
    funds := fun _ _ => trivial
    load := fun _ _ _ _ _ => trivial }
  have rest (inputs : Inputs) : Uses (I := api) (fun operation => Demand.Quiet (.inl operation)) (do
      if args.fundAuthority then fundAuthority context args inputs
      deploy context args inputs) := by
    split
    next funding => exact Uses.bind (fundAuthority_uses quiet funding inputs) fun _ => deploy_uses quiet inputs
    next => exact deploy_uses quiet inputs
  unfold run
  apply (localInputs_records may notes).bind
  intro inputs noted holds
  obtain ⟨written, fills, lines⟩ := holds
  apply (Cli.quiet_records (rest inputs)).mono
  intro _ after same
  exact ⟨written, same ▸ fills, lines⟩

end Deploy

namespace Init
variable {environment : Environment} {destination : Path} {context : TemplateContext} {creates : Path → Prop}

/-- What is written for a file of the template. -/
def Rendered (environment : Environment) (destination : Path) (context : TemplateContext) (file : TemplateFile)
    (entry : Path × Bytes) : Prop :=
  entry.1 = destination.join file.outputRelativePath ∧ renderFile environment context file = .ok entry.2

/-- The files of a part of the template are rendered. -/
def Renders.Post (environment : Environment) (destination : Path) (context : TemplateContext) (files : List TemplateFile)
    (notes after : Notes) : Prop :=
  after.read = notes.read ∧ ∃ written, Fills written notes.files after.files ∧
    List.Forall₂ (Rendered environment destination context) files written

theorem createDirectory_records (path : Path) (notes : Notes) :
    Records (tidy creates) (fun _ after => after = notes) (createDirectory path) notes := by
  unfold createDirectory
  apply Records.perform (I := toolkit) trivial
  intro reply after expected
  cases expected
  cases reply with
  | ok value => exact Records.pure rfl
  | error source => exact Records.throw _

theorem ensureDestinationIsAvailable_records (path : Path) (notes : Notes) :
    Records (tidy creates) (fun _ after => after = notes) (ensureDestinationIsAvailable path) notes := by
  unfold ensureDestinationIsAvailable
  apply Records.perform (I := toolkit) trivial
  intro reply after expected
  cases expected
  cases reply with
  | ok value => exact Records.throw _
  | error source =>
    dsimp only
    split
    next => exact Records.pure rfl
    next => exact Records.throw _

theorem renderFiles_records (files : List TemplateFile) (may : ∀ file ∈ files, creates (destination.join file.outputRelativePath))
    (notes : Notes) : Records (tidy creates) (fun _ after => Renders.Post environment destination context files notes after)
      (renderFiles environment destination context files) notes := by
  induction files generalizing notes with
  | nil => exact Records.pure ⟨rfl, [], .nil, .nil⟩
  | cons file files ih =>
    unfold renderFiles
    apply Records.ofExcept_bind
    intro contents rendered
    apply (writeNewFile_records (may file List.mem_cons_self)).bind
    intro _ filled holds
    obtain ⟨absent, put⟩ := holds
    apply (ih (fun other member => may other (List.mem_cons_of_mem _ member)) filled).mono
    intro _ after holds
    obtain ⟨read, written, fills, rest⟩ := holds
    rw [put] at read fills
    exact ⟨read, _ :: written, (Fills.put absent).append fills, .cons ⟨rfl, rendered⟩ rest⟩

theorem Renders.Post.append {first second : List TemplateFile} {notes middle after : Notes}
    (one : Renders.Post environment destination context first notes middle)
    (two : Renders.Post environment destination context second middle after) :
    Renders.Post environment destination context (first ++ second) notes after := by
  obtain ⟨read, written, fills, rendered⟩ := one
  obtain ⟨again, more, adds, others⟩ := two
  exact ⟨again.trans read, written ++ more, fills.append adds, List.rel_append rendered others⟩

mutual
theorem renderDirectory_records (directory : Dir)
    (may : ∀ file ∈ directory.allFiles, creates (destination.join file.outputRelativePath)) (notes : Notes) :
    Records (tidy creates) (fun _ after => Renders.Post environment destination context directory.allFiles notes after)
      (renderDirectory environment destination context directory) notes := by
  cases directory with
  | mk path dirs files =>
    unfold renderDirectory
    apply (renderDirectories_records dirs (fun file member => may file (List.mem_append_left _ member)) notes).bind
    intro _ middle first
    apply (renderFiles_records files (fun file member => may file (List.mem_append_right _ member)) middle).mono
    intro _ after second
    exact first.append second
termination_by structural directory

theorem renderDirectories_records (dirs : List Dir)
    (may : ∀ file ∈ allFilesOf dirs, creates (destination.join file.outputRelativePath)) (notes : Notes) :
    Records (tidy creates) (fun _ after => Renders.Post environment destination context (allFilesOf dirs) notes after)
      (renderDirectories environment destination context dirs) notes := by
  cases dirs with
  | nil => exact Records.pure ⟨rfl, [], .nil, .nil⟩
  | cons directory directories =>
    unfold renderDirectories
    apply (createDirectory_records (destination.join directory.path) notes).bind
    intro _ created same
    rw [same]
    apply (renderDirectory_records directory (fun file member => may file (List.mem_append_left _ member)) notes).bind
    intro _ middle first
    apply (renderDirectories_records directories (fun file member => may file (List.mem_append_right _ member)) middle).mono
    intro _ after second
    exact first.append second
termination_by structural dirs
end

end Init
end ArchKit
