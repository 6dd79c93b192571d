import ArchKit.Proofs.CommandFootprints
import ArchKit.ToolkitReference

/-! What each command of the tool may ask of the outside world. No reply makes a command do
anything that its command line does not call for. -/

namespace ArchKit
open Effects Fallible

/-- The key file that a signer is read from. -/
def SignerSource.files : SignerSource → List Path
  | .file path => [path]
  | .cosigner _ => []

namespace Subcommand

/-- The command as one that submits a transaction. -/
def submission? : Subcommand → Option Submission
  | .createMint args => some (.createMint args)
  | .mintTokens args => some (.mintTokens args)
  | .tokenTransfer args => some (.tokenTransfer args)
  | .tokenTransferToAccount args => some (.tokenTransferToAccount args)
  | .transferArch args => some (.transferArch args)
  | _ => none

def signers (command : Subcommand) : List SignerSource := command.submission?.elim [] Submission.signers

/-- The files the command line names for reading. -/
def inputs : Subcommand → List Path
  | .init args => [args.programKey]
  | .buildIdl args => [args.programPath.join BuildIdl.cargoToml]
  | .deploy args => args.elf :: args.programKey :: args.authority :: args.idl.toList
  | .pubkey args => [args.secretKey]
  | .encrypt args | .decrypt args => [args.key]
  | .faucet args => [args.key]
  | command => command.signers.flatMap SignerSource.files

/-- The files the command line names for creation. -/
def outputs (template : Init.Dir) : Subcommand → List Path
  | .init args => template.allFiles.map fun file => args.path.join file.outputRelativePath
  | .keygen args => args.outputs
  | .deploy args => if args.generateIfMissing then [args.programKey, args.authority] else []
  | _ => []

def directories (template : Init.Dir) : Subcommand → List Path
  | .init args => args.path :: template.allDirs.map args.path.join
  | .buildIdl args => args.output.directory?.toList
  | _ => []

/-- The command talks to the configured network. -/
def isRemote : Subcommand → Bool
  | .init _ | .buildIdl _ | .keygen _ | .pubkey _ | .encrypt _ | .decrypt _ | .ata _ => false
  | _ => true

def readsAccounts : Subcommand → Bool
  | .tokenBalance _ | .tokenAccount _ | .mintInfo _ | .mintTokens _ | .tokenTransfer _ | .tokenTransferToAccount _
  | .transferArch _ | .archBalance _ | .faucet _ | .deploy _ => true
  | _ => false

def submits : Subcommand → Bool
  | .deploy _ => true
  | command => command.submission?.isSome

def asksFaucet : Subcommand → Bool
  | .faucet _ => true
  | .deploy args => args.fundAuthority
  | _ => false

def drawsKeys : Subcommand → Bool
  | .keygen _ | .deploy _ => true
  | _ => false

end Subcommand

namespace CommandLine
variable (libraries : Libraries) (line : CommandLine)

/-- What the command line entitles the command to ask for. A cosigner is asked under its
own address and with its own token only. Any command may print. -/
def Permits : Demand → Prop
  | .inl (.isFile path) | .inl (.read path) => path ∈ line.command.inputs
  | .inl (.symlinkMetadata path) =>
    path ∈ line.command.outputs libraries.simpleProgramTemplate ∨ ∃ args : Init.Args, line.command = .init args ∧ path = args.path
  | .inl (.createNew path) => path ∈ line.command.outputs libraries.simpleProgramTemplate
  | .inl (.write ..) | .inl (.syncAll _) => line.command.outputs libraries.simpleProgramTemplate ≠ []
  | .inl (.generateNewKeypair _) => line.command.drawsKeys
  | .inl (.signMessageBip322 ..) => ∃ path, .file path ∈ line.command.signers
  | .inl (.post url token _) => ∃ envPrefix address, .cosigner envPrefix ∈ line.command.signers ∧
      line.environment (envPrefix ++ "_COSIGNER_URL") = some address ∧
      url = String.ofList (address.toList.rdropWhile (· = '/')) ++ "/v1/sign" ∧
      line.environment (envPrefix ++ "_COSIGNER_TOKEN") = some token
  | .inl (.readAccountInfo _) => line.command.readsAccounts
  | .inl (.getProgramAccounts program filters) => ∃ (args : TokenAccounts.Args) (owner : Pubkey), line.command = .tokenAccounts args ∧
      Token.parsePubkey args.owner "owner" = .ok owner ∧ program = libraries.tokenProgram ∧
      filters = some [.dataSize libraries.accounts.len, .dataContent 32 owner.bytes]
  | .inl (.getMultipleAccounts _) => ∃ args, line.command = .tokenAccounts args
  | .inl .getBestFinalizedBlockHash | .inl (.sendTransaction _) | .inl (.waitForProcessedTransaction _) => line.command.submits
  | .inl (.createAndFundAccountWithFaucet _) => line.command.asksFaucet
  | .inl (.tryDeployProgram _ _ _ elfPath) => ∃ args, line.command = .deploy args ∧ args.elf.toStr = some elfPath
  | .inr (.isNodeReady rpcUrl) | .inr (.getBlockCount rpcUrl) => line.command = .health ∧ rpcUrl = line.rpcUrl
  | .inr (.sleep _) => line.command = .health
  | .inr (.buildIdl programPath) => ∃ args, line.command = .buildIdl args ∧ programPath = args.programPath
  | .inr (.writeFile path _) => ∃ args, line.command = .buildIdl args ∧ path = args.output
  | .inr (.createDirAll path) => path ∈ line.command.directories libraries.simpleProgramTemplate
  | .inr .readStdin => ∃ args, (line.command = .encrypt args ∨ line.command = .decrypt args) ∧ args.input = none
  | .inr .drawNonce => ∃ args, line.command = .encrypt args
  | .inr (.writeStdout _) => ∃ args, line.command = .encrypt args ∨ line.command = .decrypt args
  | .inr (.println _) => True

end CommandLine

namespace Tool
variable {α : Type} {allowed : Demand → Prop}

theorem ofCommand_uses {command : Command α} (uses : Uses (I := api) (fun operation => allowed (.inl operation)) command) :
    Uses (I := toolkit) allowed (ofCommand command) := Within.left (I := api) (J := calls) uses

theorem ofCli_uses {program : Cli α} (uses : Uses (I := api) (fun operation => allowed (.inl operation)) program) :
    Uses (I := toolkit) allowed (ofCli program) := ofCommand_uses uses.wrap

theorem printLines_uses (prints : ∀ line, allowed (.inr (.println line))) (lines : List String) :
    Uses (I := toolkit) allowed (printLines lines) := by
  induction lines with
  | nil => exact Within.pure trivial
  | cons line lines ih => exact Within.perform (I := toolkit) (prints line) fun _ => ih

theorem report_uses (prints : ∀ line, allowed (.inr (.println line))) (pretty : Pretty) (json : Bool) (document : Json)
    (lines : List String) : Uses (I := toolkit) allowed (report pretty json document lines) := by
  unfold report
  cases json with
  | false => exact printLines_uses prints lines
  | true => exact Uses.bind Uses.ofExcept fun text => ⟨prints text, fun _ _ _ => trivial⟩

end Tool

namespace Init
variable {allowed : Demand → Prop} {environment : Environment} {destination : Path} {context : TemplateContext}

/-- What rendering into a destination asks for. -/
structure Renders (allowed : Demand → Prop) (destination : Path) (files : List TemplateFile) (dirs : List Path) : Prop where
  createNew : ∀ file ∈ files, allowed (.inl (.createNew (destination.join file.outputRelativePath)))
  write : ∀ handle buffer, files ≠ [] → allowed (.inl (.write handle buffer))
  syncAll : ∀ handle, files ≠ [] → allowed (.inl (.syncAll handle))
  createDirAll : ∀ path ∈ dirs, allowed (.inr (.createDirAll (destination.join path)))

theorem Renders.mono {files fewer : List TemplateFile} {dirs less : List Path} (renders : Renders allowed destination files dirs)
    (part : fewer ⊆ files) (inside : less ⊆ dirs) : Renders allowed destination fewer less where
  createNew file member := renders.createNew file (part member)
  write handle buffer some := renders.write handle buffer fun none => some (List.subset_nil.mp (none ▸ part))
  syncAll handle some := renders.syncAll handle fun none => some (List.subset_nil.mp (none ▸ part))
  createDirAll path member := renders.createDirAll path (inside member)

theorem createDirectory_uses {path : Path} (creates : allowed (.inr (.createDirAll path))) :
    Uses (I := toolkit) allowed (createDirectory path) := by
  apply Within.perform (I := toolkit) creates
  intro reply
  cases reply with
  | ok value => exact Within.pure trivial
  | error source => exact Within.throw _

theorem writeAll_uses {fail : IoError → CommandError} {file : File} (writes : ∀ buffer, allowed (.inl (.write file buffer)))
    (buffer : Bytes) : Uses (I := toolkit) allowed (writeAll fail file buffer) := by
  induction buffer using writeAll.induct with
  | case1 =>
    rw [writeAll]
    exact Within.pure trivial
  | case2 byte rest ih =>
    rw [writeAll]
    apply Within.perform (I := toolkit) (writes _)
    intro reply
    cases reply with
    | error source => exact Within.throw _
    | ok count =>
      cases count with
      | zero => exact Within.throw _
      | succ count => exact ih count

theorem renderFiles_uses (files : List TemplateFile) (renders : Renders allowed destination files []) :
    Uses (I := toolkit) allowed (renderFiles environment destination context files) := by
  induction files with
  | nil => exact Within.pure trivial
  | cons file files ih =>
    have some : file :: files ≠ [] := List.cons_ne_nil _ _
    unfold renderFiles
    apply Uses.bind Uses.ofExcept
    intro contents
    apply Uses.bind
    · unfold writeNewFile
      apply Within.perform (I := toolkit) (renders.createNew file List.mem_cons_self)
      intro reply
      cases reply with
      | error source => exact Within.throw _
      | ok handle =>
        apply Uses.bind (writeAll_uses (fun buffer => renders.write handle buffer some) contents)
        intro _
        apply Within.perform (I := toolkit) (renders.syncAll handle some)
        intro reply
        cases reply with
        | error source => exact Within.throw _
        | ok value => exact Within.pure trivial
    · exact fun _ => ih (renders.mono (List.subset_cons_self ..) (List.Subset.refl _))

mutual
theorem renderDirectory_uses (directory : Dir) (renders : Renders allowed destination directory.allFiles directory.allDirs) :
    Uses (I := toolkit) allowed (renderDirectory environment destination context directory) := by
  cases directory with
  | mk path dirs files =>
    unfold renderDirectory
    apply Uses.bind (renderDirectories_uses dirs (renders.mono (List.subset_append_left ..) (List.Subset.refl _)))
    intro _
    exact renderFiles_uses files (renders.mono (List.subset_append_right ..) (List.nil_subset _))
termination_by structural directory

theorem renderDirectories_uses (dirs : List Dir) (renders : Renders allowed destination (allFilesOf dirs) (allDirsOf dirs)) :
    Uses (I := toolkit) allowed (renderDirectories environment destination context dirs) := by
  cases dirs with
  | nil => exact Within.pure trivial
  | cons directory directories =>
    unfold renderDirectories
    apply Uses.bind (createDirectory_uses (renders.createDirAll _ List.mem_cons_self))
    intro _
    apply Uses.bind (renderDirectory_uses directory (renders.mono (List.subset_append_left ..)
      (fun path member => List.mem_cons_of_mem _ (List.mem_append_left _ member))))
    intro _
    exact renderDirectories_uses directories (renders.mono (List.subset_append_right ..)
      (fun path member => List.mem_cons_of_mem _ (List.mem_append_right _ member)))
termination_by structural dirs
end

/-- What `init` does when it has read the program key. -/
theorem project_uses {template : Dir} (looks : allowed (.inl (.symlinkMetadata destination)))
    (creates : allowed (.inr (.createDirAll destination))) (renders : Renders allowed destination template.allFiles template.allDirs)
    (programId : Pubkey) : Uses (I := toolkit) allowed (do
      let names ← Tool.ofExcept (ProjectNames.fromPath destination)
      ensureDestinationIsAvailable destination
      createDirectory destination
      renderDirectory environment destination (templateContext names (pubkeyHex programId) (toString programId)) template) := by
  apply Uses.bind Uses.ofExcept
  intro names
  apply Uses.bind
  · unfold ensureDestinationIsAvailable
    apply Within.perform (I := toolkit) looks
    intro reply
    cases reply with
    | ok value => exact Within.throw _
    | error source =>
      dsimp only
      split
      next => exact Within.pure trivial
      next => exact Within.throw _
  intro _
  exact Uses.bind (createDirectory_uses creates) fun _ => renderDirectory_uses _ renders

end Init

namespace MessageCommand
variable {allowed : Demand → Prop}

theorem readInput_uses {input : Option String} (reads : input = none → allowed (.inr .readStdin)) :
    Uses (I := toolkit) allowed (readInput input) := by
  cases input with
  | some input => exact Within.pure trivial
  | none => exact Within.perform (I := toolkit) (reads rfl) fun _ => Uses.ofExcept

theorem writeOutput_uses (writes : ∀ output, allowed (.inr (.writeStdout output))) (display : Json → String) (field value : String)
    (json : Bool) : Uses (I := toolkit) allowed (writeOutput display field value json) := by
  unfold writeOutput
  apply Uses.bind Uses.ofExcept
  intro output
  apply Within.perform (I := toolkit) (writes output)
  intro reply
  cases reply with
  | ok value => exact Within.pure trivial
  | error error => exact Within.throw _

end MessageCommand

namespace CommandLine
variable {libraries : Libraries} {line : CommandLine}

theorem configured_uses {allowed : Demand → Prop} {next : Config → Tool Unit}
    (rest : ∀ config : Config, config.archNodeUrl = line.rpcUrl → Uses (I := toolkit) allowed (next config)) :
    Uses (I := toolkit) allowed (line.configured next) := by
  apply Within.establish (fun config : Config => config.archNodeUrl = line.rpcUrl)
  · apply Within.ofExcept
    intro chosen accepted
    have configured := wrapError_eq_ok.mp accepted
    unfold config at configured
    split at configured
    next => cases configured
    next =>
      cases configured
      rfl
  · exact rest

/-- A key file named on the command line may be opened. -/
theorem opens {path : Path} (named : path ∈ line.command.inputs) :
    Opens (fun operation => line.Permits libraries (.inl operation)) path := ⟨named, named⟩

theorem creates {path : Path} (named : path ∈ line.command.outputs libraries.simpleProgramTemplate) :
    Creates (fun operation => line.Permits libraries (.inl operation)) path where
  probe := .inl named
  createNew := named
  write _ _ := List.ne_nil_of_mem named
  syncAll _ := List.ne_nil_of_mem named

theorem submits (may : line.command.submits) : Submits (fun operation => line.Permits libraries (.inl operation)) where
  blockhash := may
  send _ := may
  wait _ := may

theorem signs {source : SignerSource} (named : source ∈ line.command.signers)
    (opened : ∀ path ∈ source.files, path ∈ line.command.inputs) (network : Network) :
    source.Permitted (fun operation => line.Permits libraries (.inl operation)) ⟨network, line.environment⟩ := by
  cases source with
  | file path => exact ⟨opens (opened path List.mem_cons_self), fun _ _ _ => ⟨path, named⟩⟩
  | cosigner envPrefix => exact fun url token _ addressed authorized => ⟨envPrefix, url, named, addressed, rfl, authorized⟩

theorem submit_uses {submission : Submission} (same : line.command.submission? = some submission)
    (opened : ∀ source ∈ submission.signers, ∀ path ∈ source.files, path ∈ line.command.inputs)
    (may : line.command.submits) (reads : submission.readsAccounts = true → line.command.readsAccounts) :
    Uses (I := toolkit) (line.Permits libraries) (line.submit libraries submission) := by
  have named : line.command.signers = submission.signers := by rw [Subcommand.signers, same]; rfl
  apply configured_uses
  intro config _
  apply Tool.ofCommand_uses
  apply Submission.run_uses (submits may) submission (fun reading _ => reads reading)
  intro source member
  exact signs (named ▸ member) (opened source member) config.network

theorem init_uses {args : Init.Args} (chosen : line.command = .init args) :
    Uses (I := toolkit) (line.Permits libraries) (Init.run libraries.templates libraries.toSdk libraries.simpleProgramTemplate args) := by
  have destination : line.Permits libraries (.inr (.createDirAll args.path)) := by
    change args.path ∈ line.command.directories _
    rw [chosen]
    exact List.mem_cons_self
  have renders : Init.Renders (line.Permits libraries) args.path libraries.simpleProgramTemplate.allFiles
      libraries.simpleProgramTemplate.allDirs := by
    have written (some : libraries.simpleProgramTemplate.allFiles ≠ []) :
        line.command.outputs libraries.simpleProgramTemplate ≠ [] := by
      rw [chosen]
      exact fun none => some (List.map_eq_nil_iff.mp none)
    refine ⟨?_, fun _ _ => written, fun _ => written, ?_⟩
    · intro file member
      change _ ∈ line.command.outputs _
      rw [chosen]
      exact List.mem_map_of_mem member
    · intro path member
      change _ ∈ line.command.directories _
      rw [chosen]
      exact List.mem_cons_of_mem _ (List.mem_map_of_mem member)
  have key : args.programKey ∈ line.command.inputs := by
    rw [chosen]
    exact List.mem_cons_self
  unfold Init.run
  apply Uses.bind (Tool.ofCli_uses (Keys.loadExistingKey_uses _ (opens key) _))
  exact fun loaded => Init.project_uses (.inr ⟨args, chosen, rfl⟩) destination renders loaded.2

theorem buildIdl_uses {args : BuildIdl.Args} (chosen : line.command = .buildIdl args) :
    Uses (I := toolkit) (line.Permits libraries) (BuildIdl.run libraries.pretty args) := by
  have manifest : line.Permits libraries (.inl (.isFile (args.programPath.join BuildIdl.cargoToml))) := by
    change _ ∈ line.command.inputs
    rw [chosen]
    exact List.mem_cons_self
  have parent : Uses (I := toolkit) (line.Permits libraries) (BuildIdl.createParent args.output) := by
    unfold BuildIdl.createParent
    split
    next => exact Within.pure trivial
    next directory found =>
      have named : directory ∈ line.command.directories libraries.simpleProgramTemplate := by
        rw [chosen]
        exact Option.mem_toList.mpr found
      apply Within.perform (I := toolkit) named
      intro reply
      cases reply with
      | ok value => exact Within.pure trivial
      | error error => exact Within.throw _
  unfold BuildIdl.run
  apply Within.perform (I := toolkit) manifest
  intro present
  cases present with
  | false => exact Within.throw _
  | true =>
    apply Within.perform (I := toolkit) (⟨args, chosen, rfl⟩ : line.Permits libraries (.inr (.buildIdl args.programPath)))
    intro reply
    cases reply with
    | error error => exact Within.throw _
    | ok idl =>
      apply Uses.bind Uses.ofExcept
      intro json
      apply Uses.bind parent
      intro _
      apply Within.perform (I := toolkit) (⟨args, chosen, rfl⟩ : line.Permits libraries (.inr (.writeFile args.output (utf8 json))))
      intro reply
      cases reply with
      | ok value => exact Within.pure trivial
      | error error => exact Within.throw _

theorem deploy_uses {args : Deploy.Args} (chosen : line.command = .deploy args) (network : Network) :
    Uses (I := toolkit) (line.Permits libraries)
      (Tool.ofCli (Deploy.run ⟨libraries.toDeploySdk, libraries.codec, network⟩ args)) := by
  have named {path : Path} (member : path ∈ args.elf :: args.programKey :: args.authority :: args.idl.toList) :
      Opens (fun operation => line.Permits libraries (.inl operation)) path := by
    apply opens
    rw [chosen]
    exact member
  have made {path : Path} (generate : args.generateIfMissing = true) (member : path ∈ [args.programKey, args.authority]) :
      Creates (fun operation => line.Permits libraries (.inl operation)) path := by
    apply creates
    rw [chosen]
    simpa only [Subcommand.outputs, generate, if_true] using member
  have may : line.command.submits := by rw [chosen]; rfl
  apply Tool.ofCli_uses
  apply Deploy.run_uses
  exact {
    toMayPublish := ⟨submits may, fun _ => by change line.command.readsAccounts = true; rw [chosen]; rfl,
      by change line.command.drawsKeys = true; rw [chosen]; rfl⟩
    elf := named List.mem_cons_self
    programKey := named (by simp)
    authority := named (by simp)
    idl := fun path given => named (by simp [given])
    generates := fun generate => ⟨made generate (by simp), made generate (by simp)⟩
    funds := fun funding _ => by change line.command.asksFaucet = true; rw [chosen]; exact funding
    load := fun _ _ _ path spelled => ⟨args, chosen, spelled⟩ }

theorem keygen_uses (searches : ∀ search, Uses (I := api) (fun operation => ∃ network, operation = .generateNewKeypair network)
    (libraries.runSearch search)) {args : Keygen.Args} (chosen : line.command = .keygen args) :
    Uses (I := toolkit) (line.Permits libraries) (Tool.ofCli (Keygen.run libraries.availableThreads libraries.runSearch args)) := by
  have draws (network : Network) : line.Permits libraries (.inl (.generateNewKeypair network)) := by
    change line.command.drawsKeys = true
    rw [chosen]
    rfl
  apply Tool.ofCli_uses
  apply Keygen.run_uses _ (draws _)
  · intro path member
    apply creates
    rw [chosen]
    exact member
  · intro search
    apply (searches search).mono _ fun _ _ => trivial
    intro operation drawn
    obtain ⟨network, same⟩ := drawn
    rw [same]
    exact draws network

variable (libraries) in
theorem loadCipher_uses {args : MessageCommand.Args} (key : args.key ∈ line.command.inputs) :
    Uses (I := api) (fun operation => line.Permits libraries (.inl operation))
      (MessageCommand.loadCipher libraries.toSdk libraries.messages args.key) := by
  unfold MessageCommand.loadCipher
  apply Uses.bind (Keys.loadExistingKey_uses _ (opens key) _)
  intro loaded
  dsimp only
  cases libraries.messages.expand _ _ with
  | none => exact Within.throw _
  | some derived =>
    dsimp only
    cases libraries.messages.newFromSlice derived with
    | none => exact Within.throw _
    | some cipher => exact Within.pure trivial

theorem health_uses (chosen : line.command = .health) {config : Config} (same : config.archNodeUrl = line.rpcUrl) :
    Uses (I := toolkit) (line.Permits libraries) (Health.run config) := by
  have heights {url : String} (known : url = line.rpcUrl) : line.Permits libraries (.inr (.getBlockCount url)) := ⟨chosen, known⟩
  have checks {α : Type} (client : ArchKitClient) (outcome : Except ArchError α) :
      Uses (I := toolkit) (line.Permits libraries) (client.check outcome) := Uses.ofExcept
  unfold Health.run
  apply Within.establish (fun client : ArchKitClient => client.rpcUrl = line.rpcUrl)
  · apply Within.ofExcept
    intro client made
    have built := wrapError_eq_ok.mp made
    unfold ArchKitClient.new at built
    split at built
    next => cases built
    next =>
      cases built
      exact same
  · intro client known
    apply Uses.bind _ fun _ => Within.pure trivial
    unfold ArchKitClient.health
    apply Within.perform (I := toolkit) (⟨chosen, known⟩ : line.Permits libraries (.inr (.isNodeReady client.rpcUrl)))
    intro reply
    apply Uses.bind (checks client _)
    intro readiness
    apply Uses.bind Uses.ofExcept
    intro _
    apply Within.perform (I := toolkit) (heights known)
    intro reply
    apply Uses.bind (checks client _)
    intro initial
    apply Within.perform (I := toolkit) (chosen : line.Permits libraries (.inr (.sleep ArchKitClient.blockProgressWindow)))
    intro _
    apply Within.perform (I := toolkit) (heights known)
    intro reply
    apply Uses.bind (checks client _)
    intro final
    exact Uses.bind Uses.ofExcept fun _ => Within.pure trivial

variable (libraries) in
theorem looks (may : line.command.readsAccounts) (address : Pubkey) :
    line.Permits libraries (.inl (.readAccountInfo address)) := may

variable (libraries) in
theorem prints (text : String) : line.Permits libraries (.inr (.println text)) := trivial

theorem faucet_uses {args : Faucet.Args} (chosen : line.command = .faucet args) :
    Uses (I := toolkit) (line.Permits libraries) (Tool.ofCli (Faucet.run libraries.toSdk args)) := by
  have key : args.key ∈ line.command.inputs := by rw [chosen]; exact List.mem_cons_self
  have asks (keypair : Keypair) : line.Permits libraries (.inl (.createAndFundAccountWithFaucet keypair)) := by
    change line.command.asksFaucet = true
    rw [chosen]
    rfl
  apply Tool.ofCli_uses
  unfold Faucet.run
  apply Uses.bind (Keys.loadExistingKey_uses _ (opens key) _)
  intro loaded
  apply Cli.uses_reply (asks loaded.1)
  intro _
  exact Cli.uses_reply (looks _ (by rw [chosen]; rfl) loaded.2) fun _ => Within.pure trivial

theorem inspection_uses (may : line.command.readsAccounts) :
    (∀ args, Uses (I := toolkit) (line.Permits libraries) (TokenBalance.run libraries.toTokenSdk libraries.pretty args line.json)) ∧
    (∀ args, Uses (I := toolkit) (line.Permits libraries) (TokenAccountCommand.run libraries.toTokenSdk libraries.pretty args line.json)) ∧
    (∀ args, Uses (I := toolkit) (line.Permits libraries) (MintInfo.run libraries.toTokenSdk libraries.pretty args line.json)) ∧
    ∀ args, Uses (I := toolkit) (line.Permits libraries) (ArchBalance.run libraries.pretty args line.json) := by
  have account := looks libraries may
  refine ⟨?_, ?_, ?_, ?_⟩
  · intro args
    apply Uses.bind Uses.ofExcept
    intro owner
    apply Uses.bind Uses.ofExcept
    intro mintAddress
    apply Uses.bind (Tool.ofCommand_uses (Token.readAssociatedBalance_uses account _ _))
    intro found
    exact Tool.report_uses (prints libraries) _ _ _ _
  · intro args
    apply Uses.bind Uses.ofExcept
    intro address
    apply Uses.bind (Tool.ofCli_uses (Token.readTokenAccount_uses account _))
    intro view
    exact Tool.report_uses (prints libraries) _ _ _ _
  · intro args
    apply Uses.bind Uses.ofExcept
    intro address
    apply Uses.bind (Tool.ofCli_uses (Token.readMint_uses account _))
    intro mint
    exact Tool.report_uses (prints libraries) _ _ _ _
  · intro args
    apply Uses.bind Uses.ofExcept
    intro address
    apply Within.perform (I := toolkit) (account address)
    intro reply
    apply Uses.bind Uses.ofExcept
    intro info
    exact Tool.report_uses (prints libraries) _ _ _ _

theorem tokenAccounts_uses {args : TokenAccounts.Args} (chosen : line.command = .tokenAccounts args) :
    Uses (I := toolkit) (line.Permits libraries) (TokenAccounts.run libraries.toTokenSdk libraries.pretty args line.json) := by
  apply Within.establish (fun owner => Token.parsePubkey args.owner "owner" = .ok owner)
  · exact Within.ofExcept fun owner parsed => wrapError_eq_ok.mp parsed
  intro owner parsed
  apply Uses.bind (Tool.ofCli_uses
    (Token.listTokenAccounts_uses ⟨args, owner, chosen, parsed, rfl, rfl⟩ fun _ => ⟨args, chosen⟩))
  intro accounts
  exact Tool.report_uses (prints _) _ _ _ _

theorem run_uses (searches : ∀ search, Uses (I := api) (fun operation => ∃ network, operation = .generateNewKeypair network)
    (libraries.runSearch search)) : Uses (I := toolkit) (line.Permits libraries) (line.run libraries) := by
  -- a signer's key file is among the inputs of every command that names signers
  have files {submission : Submission} (same : line.command.submission? = some submission)
      (plain : line.command.inputs = line.command.signers.flatMap SignerSource.files) :
      ∀ source ∈ submission.signers, ∀ path ∈ source.files, path ∈ line.command.inputs := by
    rw [plain, Subcommand.signers, same]
    exact fun source member path found => List.mem_flatMap.mpr ⟨source, member, found⟩
  unfold run
  split
  next args chosen => exact init_uses chosen
  next args chosen => exact buildIdl_uses chosen
  next args chosen => exact keygen_uses searches chosen
  next args chosen =>
    have key : args.secretKey ∈ line.command.inputs := by rw [chosen]; exact List.mem_cons_self
    apply Uses.bind (Tool.ofCli_uses (Keys.loadExistingKey_uses _ (opens key) _))
    intro loaded
    exact ⟨prints _ _, fun _ _ _ => trivial⟩
  next args chosen =>
    apply Uses.bind (Tool.ofCli_uses (loadCipher_uses libraries (by rw [chosen]; exact List.mem_cons_self)))
    intro cipher
    apply Uses.bind (MessageCommand.readInput_uses fun given => ⟨args, .inl chosen, given⟩)
    intro message
    apply Within.perform (I := toolkit) (⟨args, chosen⟩ : line.Permits libraries (.inr .drawNonce))
    intro drawn
    exact Uses.bind Uses.ofExcept fun ciphertext => MessageCommand.writeOutput_uses (fun _ => ⟨args, .inl chosen⟩) _ _ _ _
  next args chosen =>
    apply Uses.bind (Tool.ofCli_uses (loadCipher_uses libraries (by rw [chosen]; exact List.mem_cons_self)))
    intro cipher
    apply Uses.bind (MessageCommand.readInput_uses fun given => ⟨args, .inr chosen, given⟩)
    intro payload
    exact Uses.bind Uses.ofExcept fun message => MessageCommand.writeOutput_uses (fun _ => ⟨args, .inr chosen⟩) _ _ _ _
  next args chosen =>
    apply Uses.bind Uses.ofExcept
    intro owner
    apply Uses.bind Uses.ofExcept
    intro mint
    exact ⟨prints _ _, fun _ _ _ => trivial⟩
  next args chosen => exact configured_uses fun _ _ => (inspection_uses (by rw [chosen]; rfl)).1 args
  next args chosen => exact configured_uses fun _ _ => (inspection_uses (by rw [chosen]; rfl)).2.1 args
  next args chosen => exact configured_uses fun _ _ => tokenAccounts_uses chosen
  next args chosen => exact configured_uses fun _ _ => (inspection_uses (by rw [chosen]; rfl)).2.2.1 args
  next args chosen =>
    have same : line.command.submission? = some (.createMint args) := by rw [chosen]; rfl
    exact submit_uses same (files same (by rw [chosen]; rfl)) (by rw [chosen]; rfl) fun impossible => by cases impossible
  next args chosen =>
    have same : line.command.submission? = some (.mintTokens args) := by rw [chosen]; rfl
    exact submit_uses same (files same (by rw [chosen]; rfl)) (by rw [chosen]; rfl) fun _ => by rw [chosen]; rfl
  next args chosen =>
    have same : line.command.submission? = some (.tokenTransfer args) := by rw [chosen]; rfl
    exact submit_uses same (files same (by rw [chosen]; rfl)) (by rw [chosen]; rfl) fun _ => by rw [chosen]; rfl
  next args chosen =>
    have same : line.command.submission? = some (.tokenTransferToAccount args) := by rw [chosen]; rfl
    exact submit_uses same (files same (by rw [chosen]; rfl)) (by rw [chosen]; rfl) fun _ => by rw [chosen]; rfl
  next args chosen =>
    have same : line.command.submission? = some (.transferArch args) := by rw [chosen]; rfl
    exact submit_uses same (files same (by rw [chosen]; rfl)) (by rw [chosen]; rfl) fun _ => by rw [chosen]; rfl
  next args chosen => exact configured_uses fun _ _ => (inspection_uses (by rw [chosen]; rfl)).2.2.2 args
  next args chosen => exact configured_uses fun _ _ => faucet_uses chosen
  next chosen => exact configured_uses fun _ same => health_uses chosen same
  next args chosen => exact configured_uses fun config _ => deploy_uses chosen config.network

theorem configured_blank {next : Config → Tool Unit} (blank : (Text.trim line.rpcUrl.toList).isEmpty = true) :
    line.configured next = throw (.cli (.invalidArgument "--rpc-url/ARCH_RPC_URL must not be empty")) := by
  unfold configured config
  rw [if_pos blank]
  rfl

theorem run_blank (remote : line.command.isRemote = true) (blank : (Text.trim line.rpcUrl.toList).isEmpty = true) :
    line.run libraries = throw (.cli (.invalidArgument "--rpc-url/ARCH_RPC_URL must not be empty")) := by
  unfold run submit
  cases chosen : line.command with
  | init | buildIdl | keygen | pubkey | encrypt | decrypt | ata =>
    rw [chosen] at remote
    cases remote
  | deploy | tokenBalance | tokenAccount | tokenAccounts | mintInfo | createMint | mintTokens | tokenTransfer
  | tokenTransferToAccount | transferArch | archBalance | faucet | health => exact configured_blank blank

/-- Whatever the world replies, a command asks only for what its command line calls for,
and nothing at all of a network that has no address. -/
theorem least_privilege (libraries : Libraries) (line : CommandLine)
    (searches : ∀ search, Uses (I := api) (fun operation => ∃ network, operation = .generateNewKeypair network)
      (libraries.runSearch search))
    {trace : List (Exchange toolkit)} {outcome : Except CommandError Unit}
    (traced : Fallible.Traces (line.run libraries) trace outcome) :
    (∀ exchange ∈ trace, line.Permits libraries exchange.operation) ∧
      (line.command.isRemote = true → (Text.trim line.rpcUrl.toList).isEmpty = true → trace = [] ∧
        outcome = .error (.cli (.invalidArgument "--rpc-url/ARCH_RPC_URL must not be empty"))) := by
  refine ⟨(Program.Within.traces (run_uses searches) traced).1, ?_⟩
  intro remote blank
  rw [run_blank remote blank] at traced
  cases traced
  exact ⟨rfl, rfl⟩

open Example in
theorem least_privilege_initializing : ∃ trace, Fallible.Traces (initializing.run shipped) trace (.ok ()) ∧
    trace.filterMap created? = [⟨utf8 "demo/src/lib.rs"⟩, ⟨utf8 "demo/README.md"⟩] ∧
    ∀ exchange ∈ trace, initializing.Permits shipped exchange.operation := by
  have observed : (Fallible.against granting (initializing.run shipped)).2.isOk = true ∧
      (Fallible.against granting (initializing.run shipped)).1.filterMap created? =
        [⟨utf8 "demo/src/lib.rs"⟩, ⟨utf8 "demo/README.md"⟩] := by
    decide +kernel
  have traced := Fallible.traces_against granting (initializing.run shipped)
  obtain ⟨succeeded, creates⟩ := observed
  cases ended : (Fallible.against granting (initializing.run shipped)).2 with
  | error error =>
    rw [ended] at succeeded
    cases succeeded
  | ok value =>
    rw [ended] at traced
    exact ⟨_, traced, creates, (least_privilege shipped initializing searches traced).1⟩

end CommandLine
end ArchKit
