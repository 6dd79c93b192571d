import ArchKit.Proofs.NotedFiles

/-! Any number of commands on one file system. What was there stays as it was, every new
file is the work of one run, and a run that reports success has written all its files. -/

namespace ArchKit
open Effects Fallible

namespace CommandLine
variable {libraries : Libraries} {line : CommandLine}

/-- The files of a run that reports success, where `read` tells what it has read. -/
def Written (libraries : Libraries) (line : CommandLine) (read : Path → Bytes → Prop) (written : List (Path × Bytes)) : Prop :=
  match line.command with
  | .init args => ∃ bytes secret names, read args.programKey bytes ∧ Keys.heldKey? libraries.toSdk bytes = some secret ∧
      Init.ProjectNames.fromPath args.path = .ok names ∧
      List.Forall₂ (Init.Rendered libraries.templates args.path (Init.templateContext names
        (pubkeyHex (libraries.xOnlyPublicKey ⟨secret⟩)) (toString (libraries.xOnlyPublicKey ⟨secret⟩))))
        libraries.simpleProgramTemplate.allFiles written
  | .keygen args => List.Forall₂ Keys.Line args.outputs written
  | .deploy args => ∀ entry ∈ written, Deploy.Generated args entry
  | _ => written = []

theorem Written.mono {read known : Path → Bytes → Prop} {written : List (Path × Bytes)} (holds : line.Written libraries read written)
    (implies : ∀ path bytes, read path bytes → known path bytes) : line.Written libraries known written := by
  unfold Written at holds ⊢
  generalize line.command = command at holds ⊢
  cases command with
  | init args =>
    obtain ⟨bytes, secret, names, seen, rest⟩ := holds
    exact ⟨bytes, secret, names, implies _ _ seen, rest⟩
  | _ => exact holds

/-- What the notes of a run that reports success say. -/
def Completes (libraries : Libraries) (line : CommandLine) (notes after : Notes) : Prop :=
  ∃ written, Fills written notes.files after.files ∧ line.Written libraries (fun path bytes => after.read path = some bytes) written

theorem quiet_of_permits (none : line.command.outputs libraries.simpleProgramTemplate = [])
    (other : ∀ args, line.command ≠ .buildIdl args) (operation : Demand) (permitted : line.Permits libraries operation) :
    Demand.Quiet operation := by
  rcases operation with operation | operation
  · cases operation with
    | createNew path =>
      have member : path ∈ line.command.outputs libraries.simpleProgramTemplate := permitted
      rw [none] at member
      cases member
    | write file buffer => exact permitted none
    | _ => trivial
  · cases operation with
    | buildIdl | writeFile =>
      obtain ⟨args, chosen, _⟩ := permitted
      exact other args chosen
    | _ => trivial

theorem init_records {args : Init.Args} (chosen : line.command = .init args) (notes : Notes) :
    Records (tidy (· ∈ line.command.outputs libraries.simpleProgramTemplate)) (fun _ after => line.Completes libraries notes after)
      (Init.run libraries.templates libraries.toSdk libraries.simpleProgramTemplate args) notes := by
  unfold Init.run
  apply (Tool.ofCli_records.mpr Keys.loadExistingKey_records).bind
  intro loaded noted holds
  obtain ⟨bytes, held, derived, same⟩ := holds
  apply Records.ofExcept_bind
  intro names accepted
  have named := wrapError_eq_ok.mp accepted
  apply (Init.ensureDestinationIsAvailable_records args.path _).bind
  intro _ _ still
  subst still
  apply (Init.createDirectory_records args.path _).bind
  intro _ _ still
  subst still
  have may : ∀ file ∈ libraries.simpleProgramTemplate.allFiles,
      args.path.join file.outputRelativePath ∈ line.command.outputs libraries.simpleProgramTemplate := by
    intro file member
    rw [chosen]
    exact List.mem_map_of_mem member
  apply (Init.renderDirectory_records libraries.simpleProgramTemplate may _).mono
  intro _ after holds
  obtain ⟨read, written, fills, rendered⟩ := holds
  rw [same] at read fills
  refine ⟨written, fills, ?_⟩
  unfold Written
  rw [chosen]
  have known : after.read args.programKey = some bytes := by rw [read]; exact Function.update_self ..
  rw [derived] at rendered
  exact ⟨bytes, _, names, known, held, named, rendered⟩

theorem keygen_records (searches : ∀ search, Uses (I := api) (fun operation => Demand.Quiet (.inl operation))
    (libraries.runSearch search)) {args : Keygen.Args} (chosen : line.command = .keygen args) (notes : Notes) :
    Records (tidy (· ∈ line.command.outputs libraries.simpleProgramTemplate)) (fun _ after => line.Completes libraries notes after)
      (Tool.ofCli (Keygen.run libraries.availableThreads libraries.runSearch args)) notes := by
  rw [Tool.ofCli_records]
  have may : ∀ path ∈ args.outputs, path ∈ line.command.outputs libraries.simpleProgramTemplate := by
    intro path member
    rw [chosen]
    exact member
  apply (Keygen.run_records searches libraries.availableThreads may notes).mono
  intro _ after holds
  obtain ⟨written, fills, lines⟩ := holds
  refine ⟨written, fills, ?_⟩
  unfold Written
  rw [chosen]
  exact lines

theorem deploy_records {args : Deploy.Args} (chosen : line.command = .deploy args) (notes : Notes) :
    Records (tidy (· ∈ line.command.outputs libraries.simpleProgramTemplate)) (fun _ after => line.Completes libraries notes after)
      (line.configured fun config => Tool.ofCli (Deploy.run ⟨libraries.toDeploySdk, libraries.codec, config.network⟩ args)) notes := by
  have may (generate : args.generateIfMissing = true) : args.programKey ∈ line.command.outputs libraries.simpleProgramTemplate ∧
      args.authority ∈ line.command.outputs libraries.simpleProgramTemplate := by
    rw [chosen, Subcommand.outputs, if_pos generate]
    exact ⟨List.mem_cons_self, List.mem_cons_of_mem _ List.mem_cons_self⟩
  unfold configured
  apply (quiet_records Uses.ofExcept).bind
  intro config noted same
  rw [Tool.ofCli_records]
  apply (Deploy.run_records may noted).mono
  intro _ after holds
  obtain ⟨written, fills, lines⟩ := holds
  refine ⟨written, same ▸ fills, ?_⟩
  unfold Written
  rw [chosen]
  exact lines

theorem run_records (searches : ∀ search, Uses (I := api) (fun operation => ∃ network, operation = .generateNewKeypair network)
    (libraries.runSearch search)) (other : ∀ args, line.command ≠ .buildIdl args) (notes : Notes) :
    Records (tidy (· ∈ line.command.outputs libraries.simpleProgramTemplate)) (fun _ after => line.Completes libraries notes after)
      (line.run libraries) notes := by
  have silent (none : line.command.outputs libraries.simpleProgramTemplate = [])
      (nothing : ∀ read, line.Written libraries read []) :
      Records (tidy (· ∈ line.command.outputs libraries.simpleProgramTemplate)) (fun _ after => line.Completes libraries notes after)
        (line.run libraries) notes := by
    apply (quiet_records ((run_uses searches).mono (quiet_of_permits none other) fun _ holds => holds)).mono
    intro _ after same
    exact ⟨[], same ▸ .nil, nothing _⟩
  cases chosen : line.command with
  | init args =>
    have same : line.run libraries = Init.run libraries.templates libraries.toSdk libraries.simpleProgramTemplate args := by
      unfold run
      rw [chosen]
    rw [same, ← chosen]
    exact init_records chosen notes
  | buildIdl args => exact absurd chosen (other args)
  | keygen args =>
    have same : line.run libraries = Tool.ofCli (Keygen.run libraries.availableThreads libraries.runSearch args) := by
      unfold run
      rw [chosen]
    rw [same, ← chosen]
    apply keygen_records _ chosen notes
    intro search
    apply (searches search).mono _ fun _ holds => holds
    intro operation drawn
    obtain ⟨network, drawn⟩ := drawn
    rw [drawn]
    trivial
  | deploy args =>
    have same : line.run libraries = line.configured fun config =>
        Tool.ofCli (Deploy.run ⟨libraries.toDeploySdk, libraries.codec, config.network⟩ args) := by
      unfold run
      rw [chosen]
    rw [same, ← chosen]
    exact deploy_records chosen notes
  | _ =>
    rw [← chosen]
    apply silent
    · rw [chosen]
      rfl
    · intro read
      rw [Written, chosen]

end CommandLine

namespace Disk
variable {ι : Type} {start disk : Disk ι} {locate : Path → Path} {client : ι}

theorem follow_mono (kept : ∀ location node, start location = some node → disk location = some node) {links : ℕ} {path location : Path}
    (found : start.follow links path = some location) : disk.follow links path = some location := by
  induction links generalizing path with
  | zero => cases found
  | succ links ih =>
    unfold follow at found ⊢
    cases present : start path with
    | none =>
      rw [present] at found
      cases found
    | some node =>
      rw [present] at found
      rw [kept path node present]
      cases node with
      | symlink target => exact ih found
      | file contents writer => exact found
      | directory => exact found

/-- The notes of all runs and the disk agree. -/
structure Agrees (start : Disk ι) (locate : Path → Path) (creates : ι → Path → Prop) (disk : Disk ι) (notes : ι → Notes) : Prop where
  old : ∀ location node, start location = some node → disk location = some node
  own : ∀ client path contents, (notes client).files path = some contents → disk (locate path) = some (.file contents (some client))
  made : ∀ location contents client, disk location = some (.file contents (some client)) →
    ∃ path, locate path = location ∧ (notes client).files path = some contents
  single : ∀ client first second, ((notes client).files first).isSome → ((notes client).files second).isSome →
    locate first = locate second → first = second
  named : ∀ client path, ((notes client).files path).isSome → creates client path
  read : ∀ client path bytes contents, (notes client).read path = some bytes → start.contents? (locate path) = some contents →
    bytes = contents

namespace Agrees
variable {creates : ι → Path → Prop} {notes : ι → Notes} (agrees : Agrees start locate creates disk notes)
include agrees

/-- A place is noted by one run only, and under one path. -/
theorem noted_once {path : Path} (vacant : disk (locate path) = none ∨ ((notes client).files path).isSome) {other : ι} {place : Path}
    (noted : ((notes other).files place).isSome) (same : locate place = locate path) : other = client ∧ place = path := by
  obtain ⟨text, known⟩ := Option.isSome_iff_exists.mp noted
  have found := agrees.own other place text known
  rw [same] at found
  rcases vacant with absent | mine
  · rw [absent] at found
    cases found
  · obtain ⟨contents, own⟩ := Option.isSome_iff_exists.mp mine
    rw [agrees.own client path contents own] at found
    cases found
    exact ⟨rfl, agrees.single _ place path noted mine same⟩

theorem put [DecidableEq ι] (unmarked : ∀ location contents writer, start location = some (.file contents writer) → writer = none)
    {path : Path} (may : creates client path) (vacant : disk (locate path) = none ∨ ((notes client).files path).isSome)
    (contents : Bytes) : Agrees start locate creates (disk.put (locate path) contents (some client))
      (Function.update notes client ((notes client).put path contents)) := by
  have look (other : ι) (place : Path) : ((Function.update notes client ((notes client).put path contents)) other).files place =
      if other = client ∧ place = path then some contents else (notes other).files place := by
    by_cases mine : other = client
    · subst other
      by_cases here : place = path
      · subst here
        rw [Function.update_self, Notes.put_self, if_pos ⟨rfl, rfl⟩]
      · rw [Function.update_self, Notes.put_ne here, if_neg (fun both => here both.2)]
    · rw [Function.update_of_ne mine, if_neg (fun both => mine both.1)]
  refine ⟨?_, ?_, ?_, ?_, ?_, ?_⟩
  · intro location node present
    have before := agrees.old location node present
    have apart : location ≠ locate path := by
      intro same
      subst same
      rcases vacant with absent | mine
      · rw [absent] at before
        cases before
      · obtain ⟨text, own⟩ := Option.isSome_iff_exists.mp mine
        rw [agrees.own client path text own] at before
        cases before
        cases unmarked _ _ _ present
    rw [Disk.put, Function.update_of_ne apart]
    exact before
  · intro other place text noted
    rw [look] at noted
    split at noted
    next both =>
      cases noted
      rw [both.1, both.2, Disk.put, Function.update_self]
    next another =>
      have apart : locate place ≠ locate path := fun same => another (agrees.noted_once vacant (Option.isSome_of_eq_some noted) same)
      rw [Disk.put, Function.update_of_ne apart]
      exact agrees.own other place text noted
  · intro location text writer found
    by_cases here : location = locate path
    · subst here
      rw [Disk.put, Function.update_self] at found
      cases found
      exact ⟨path, rfl, by rw [look, if_pos ⟨rfl, rfl⟩]⟩
    · rw [Disk.put, Function.update_of_ne here] at found
      obtain ⟨place, same, noted⟩ := agrees.made location text writer found
      refine ⟨place, same, ?_⟩
      rw [look, if_neg (fun both => here (by rw [← same, both.2]))]
      exact noted
  · intro other first second one two same
    rw [look] at one two
    split at one
    next both =>
      split at two
      next also => rw [both.2, also.2]
      next => exact both.2.trans (agrees.noted_once vacant two (same.symm.trans (by rw [both.2]))).2.symm
    next =>
      split at two
      next also => exact (agrees.noted_once vacant one (same.trans (by rw [also.2]))).2.trans also.2.symm
      next => exact agrees.single other first second one two same
  · intro other place noted
    rw [look] at noted
    split at noted
    next both => rw [both.1, both.2]; exact may
    next => exact agrees.named other place noted
  · intro other place bytes text noted
    apply agrees.read other place bytes text
    by_cases mine : other = client
    · subst other
      rwa [Function.update_self] at noted
    · rwa [Function.update_of_ne mine] at noted

/-- New directories take the place of nothing. -/
theorem extended {after : Disk ι} (grown : ∀ location, after location = disk location ∨
    disk location = none ∧ after location = some .directory) : Agrees start locate creates after notes where
  old location node present := by
    have before := agrees.old location node present
    rcases grown location with same | ⟨absent, _⟩
    · exact same.trans before
    · cases absent.symm.trans before
  own client path contents noted := by
    have before := agrees.own client path contents noted
    rcases grown (locate path) with same | ⟨absent, _⟩
    · exact same.trans before
    · cases absent.symm.trans before
  made location contents client found := by
    rcases grown location with same | ⟨_, made⟩
    · exact agrees.made location contents client (same.symm.trans found)
    · cases made.symm.trans found
  single := agrees.single
  named := agrees.named
  read := agrees.read

/-- What was there at the start is read whole. -/
theorem reads [DecidableEq ι] (unmarked : ∀ location contents writer, start location = some (.file contents writer) → writer = none)
    {path : Path} {bytes : Bytes} (served : ∃ location contents writer, disk.Opens (locate path) location contents writer ∧
      if writer.isSome then bytes <+: contents else bytes = contents) :
    Agrees start locate creates disk
      (Function.update notes client { notes client with read := Function.update (notes client).read path (some bytes) }) := by
  have look (other : ι) : ((Function.update notes client
      { notes client with read := Function.update (notes client).read path (some bytes) }) other).files = (notes other).files := by
    by_cases mine : other = client
    · subst other
      rw [Function.update_self]
    · rw [Function.update_of_ne mine]
  refine ⟨agrees.old, ?_, ?_, ?_, ?_, ?_⟩
  · intro other place contents noted
    rw [look] at noted
    exact agrees.own other place contents noted
  · intro location contents other found
    rw [look]
    exact agrees.made location contents other found
  · intro other first second one two
    rw [look] at one two
    exact agrees.single other first second one two
  · intro other place noted
    rw [look] at noted
    exact agrees.named other place noted
  · intro other place found contents noted known
    by_cases here : other = client ∧ place = path
    · obtain ⟨mine, here⟩ := here
      subst mine here
      rw [Function.update_self] at noted
      have same : found = bytes := Option.some.inj (noted.symm.trans (Function.update_self ..))
      obtain ⟨location, writer, resolved, present⟩ := contents?_eq_some known
      obtain ⟨other, text, owner, ⟨again, found⟩, part⟩ := served
      have moved : disk.resolve (locate place) = some location := follow_mono agrees.old resolved
      cases moved.symm.trans again
      cases (agrees.old location _ present).symm.trans found
      rw [unmarked _ _ _ present] at part
      exact same.trans part
    · apply agrees.read other place found contents _ known
      by_cases mine : other = client
      · subst other
        rw [Function.update_self] at noted
        exact noted ▸ (Function.update_of_ne (fun same => here ⟨rfl, same⟩) ..).symm
      · rwa [Function.update_of_ne mine] at noted

theorem hosted [DecidableEq ι] (unmarked : ∀ location contents writer, start location = some (.file contents writer) → writer = none)
    {operation : Demand} {reply : toolkit.Reply operation} {after : Disk ι} (allowed : (notes client).allows (creates client) operation)
    (hosted : Hosts locate client disk operation reply after) : ∃ noted, (notes client).observe operation reply = some noted ∧
      Agrees start locate creates after (Function.update notes client noted) := by
  have still : Agrees start locate creates disk (Function.update notes client (notes client)) := by
    rw [Function.update_eq_self]
    exact agrees
  rcases operation with operation | operation
  · cases operation with
    | read path =>
      obtain ⟨same, truth⟩ := hosted
      subst same
      cases reply with
      | ok bytes => exact ⟨_, rfl, agrees.reads unmarked (truth bytes rfl)⟩
      | error source => exact ⟨_, rfl, still⟩
    | createNew path =>
      cases reply with
      | ok file =>
        obtain ⟨same, absent, put⟩ := hosted
        have fresh : (notes client).files path = none := by
          cases noted : (notes client).files path with
          | none => rfl
          | some contents => cases absent.symm.trans (agrees.own client path contents noted)
        subst same put
        exact ⟨_, if_pos ⟨rfl, fresh⟩, agrees.put unmarked allowed (.inl absent) []⟩
      | error source =>
        cases (show after = disk from hosted)
        exact ⟨_, rfl, still⟩
    | write file buffer =>
      cases reply with
      | ok count =>
        obtain ⟨fits, contents, writer, found, put⟩ := hosted
        obtain ⟨text, own⟩ := Option.isSome_iff_exists.mp allowed
        cases (agrees.own client file.path text own).symm.trans found
        subst put
        refine ⟨(notes client).put file.path (contents ++ buffer.take count), ?_, ?_⟩
        · exact (if_pos fits).trans (by rw [own]; rfl)
        · exact agrees.put unmarked (agrees.named client file.path allowed) (.inr allowed) _
      | error source =>
        cases (show after = disk from hosted)
        exact ⟨_, rfl, still⟩
    | _ =>
      cases (show after = disk from hosted)
      exact ⟨_, rfl, still⟩
  · cases operation with
    | createDirAll path => exact ⟨_, rfl, still.extended hosted⟩
    | buildIdl | writeFile => cases allowed
    | _ =>
      cases (show after = disk from hosted)
      exact ⟨_, rfl, still⟩

end Agrees

/-- Nothing that was there is changed, whichever commands run at the same time and
wherever they are stopped. Every new file is where its run's command line puts one. A
run that reports success has created exactly the files of its command, each at a place of
its own and with all its contents. -/
theorem shared_disk [DecidableEq ι] (libraries : Libraries) (locate : Path → Path) (lines : ι → CommandLine)
    (searches : ∀ search, Uses (I := api) (fun operation => ∃ network, operation = .generateNewKeypair network)
      (libraries.runSearch search))
    (noBuild : ∀ client args, (lines client).command ≠ .buildIdl args)
    {start : Disk ι} (unmarked : ∀ location contents writer, start location = some (.file contents writer) → writer = none)
    {after : System toolkit ι (Disk ι) (Except CommandError Unit)}
    (reached : System.Reaches (Hosts locate) ⟨start, fun client => ExceptT.run ((lines client).run libraries)⟩ after) :
    (∀ location node, start location = some node → after.state location = some node) ∧
    (∀ location contents client, after.state location = some (.file contents (some client)) →
      ∃ path ∈ (lines client).command.outputs libraries.simpleProgramTemplate, locate path = location) ∧
    ∀ client, after.clients client = .pure (.ok ()) → ∃ written,
      (lines client).Written libraries (fun path bytes => ∀ contents, start.contents? (locate path) = some contents → bytes = contents)
        written ∧
      (written.map fun entry => locate entry.1).Nodup ∧
      ∀ location contents, after.state location = some (.file contents (some client)) ↔
        ∃ path, (path, contents) ∈ written ∧ locate path = location := by
  have initial : Recorded (fun client => tidy (· ∈ (lines client).command.outputs libraries.simpleProgramTemplate))
      (fun client outcome notes => ∀ value, outcome = Except.ok value → (lines client).Completes libraries Notes.blank notes)
      (Agrees start locate fun client path => path ∈ (lines client).command.outputs libraries.simpleProgramTemplate)
      ⟨start, fun client => ExceptT.run ((lines client).run libraries)⟩ (fun _ => Notes.blank) := by
    refine ⟨⟨fun _ _ present => present, ?_, ?_, ?_, ?_, ?_⟩, ?_⟩
    · exact fun _ _ _ noted => nomatch noted
    · exact fun _ _ _ found => nomatch unmarked _ _ _ found
    · exact fun _ _ _ noted => nomatch noted
    · exact fun _ _ noted => nomatch noted
    · exact fun _ _ _ _ noted => nomatch noted
    · exact fun client => CommandLine.run_records searches (noBuild client) Notes.blank
  obtain ⟨notes, recorded⟩ := initial.reaches
    (fun client state notes operation reply later agrees allowed served => Agrees.hosted agrees unmarked allowed served) reached
  have agrees := recorded.related
  refine ⟨agrees.old, ?_, ?_⟩
  · intro location contents client found
    obtain ⟨path, same, noted⟩ := agrees.made location contents client found
    exact ⟨path, agrees.named client path (Option.isSome_of_eq_some noted), same⟩
  · intro client finished
    obtain ⟨written, fills, holds⟩ := recorded.returned finished () rfl
    refine ⟨written, holds.mono fun path bytes seen contents known => agrees.read client path bytes contents seen known, ?_, ?_⟩
    · have apart : ((written.map Prod.fst).map locate).Nodup :=
        fills.nodup.map_on fun first one second two same =>
          agrees.single client first second (fills.noted one) (fills.noted two) same
      rwa [List.map_map] at apart
    · intro location contents
      constructor
      · intro found
        obtain ⟨path, same, noted⟩ := agrees.made location contents client found
        exact ⟨path, fills.blank_iff.mp noted, same⟩
      · intro placed
        obtain ⟨path, member, same⟩ := placed
        rw [← same]
        exact agrees.own client path contents (fills.present _ member)

end Disk

namespace Disk.Example
open CommandLine.Example Reference Choice

/-- A key file, and nothing else. -/
def start : Disk Bool := fun path => if path = programKey then some (.file (utf8 (Keys.encodedSecret firstBuffer)) none) else none

def lines (client : Bool) : CommandLine := if client then generating else initializing

/-- The first key is looked for before the project is there, and comes too late. -/
def schedule : List (Bool × Choice) :=
  List.replicate 2 (true, honest) ++ [(true, draw secondBuffer)] ++ List.replicate 6 (false, honest) ++
    [(false, part 11), (false, honest), (false, honest), (false, part 10), (false, honest), (true, honest)]

def play (schedule : List (Bool × Choice)) : Option (System toolkit Bool (Disk Bool) (Except CommandError Unit)) :=
  System.play (fun client choice disk operation => attemptAny shipped.toSdk client disk choice operation) schedule
    ⟨start, fun client => ExceptT.run ((lines client).run shipped)⟩

end Disk.Example

open Disk.Example CommandLine.Example in
theorem Disk.shared_disk_contended : ∃ after, play schedule = some after ∧ success? (after.clients true) = some false ∧
    after.state programKey = start programKey ∧
    ∃ written, initializing.Written shipped (fun path bytes => ∀ contents, start.contents? path = some contents → bytes = contents)
      written ∧
      ∀ location contents, after.state location = some (.file contents (some false)) ↔ (location, contents) ∈ written := by
  have observed : (play schedule).map (fun after => (success? (after.clients false), success? (after.clients true))) =
      some (some true, some false) := by
    decide +kernel
  obtain ⟨after, played, shown⟩ := Option.map_eq_some_iff.mp observed
  simp only [Prod.mk.injEq] at shown
  obtain ⟨made, refused⟩ := shown
  obtain ⟨outcome, done, succeeded⟩ := success?_eq_some made
  have reached : System.Reaches (Hosts id) ⟨start, fun client => ExceptT.run ((lines client).run shipped)⟩ after :=
    System.play_reaches (fun _ _ _ _ _ _ attempted => attemptAny_hosts attempted) schedule _ after played
  have noBuild (client : Bool) (args : BuildIdl.Args) : (lines client).command ≠ .buildIdl args := by
    cases client <;> exact fun same => by cases same
  have unmarked (location : Path) (contents : Bytes) (writer : Option Bool)
      (found : start location = some (.file contents writer)) : writer = none := by
    unfold start at found
    split at found
    next => cases found; rfl
    next => cases found
  obtain ⟨old, _, written⟩ := shared_disk shipped id lines searches noBuild unmarked reached
  have kept : after.state programKey = start programKey := old programKey _ rfl
  cases outcome with
  | error error => cases succeeded
  | ok value =>
    obtain ⟨entries, holds, _, exactly⟩ := written false done
    refine ⟨after, played, refused, kept, entries, holds, ?_⟩
    intro location contents
    rw [exactly]
    constructor
    · intro placed
      obtain ⟨path, member, same⟩ := placed
      exact same ▸ member
    · exact fun member => ⟨location, member, rfl⟩

end ArchKit
