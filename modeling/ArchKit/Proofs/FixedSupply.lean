import ArchKit.Effects.Series
import ArchKit.Minting
import ArchKit.Proofs.TokenCommands
import ArchKit.TokenReference

/-! The supply of a mint, from its creation through any series of minting commands. -/

namespace ArchKit
open Effects Fallible TokenProgram

variable {sdk : TokenSdk} {ledger later : Ledger}

theorem Token.mintToUserInstructions_eq_ok {payer recipient mint authority destination : Pubkey} {amount : UInt64}
    {decimals : UInt8} {instructions : List Instruction}
    (built : mintToUserInstructions sdk payer recipient mint authority amount decimals = .ok (destination, instructions)) :
    destination = (associatedTokenAddress sdk recipient mint).1 ∧ ∀ ledger, processInstructions sdk ledger instructions =
      (createAssociated sdk ledger payer destination recipient mint).bind fun middle =>
        mintToChecked sdk middle mint destination authority amount decimals := by
  obtain ⟨mintTo, made, same⟩ := bind_eq_ok.mp built
  cases same
  refine ⟨rfl, ?_⟩
  intro ledger
  rw [processInstructions_cons, processInstruction_of_reads (sdk.read_createAssociated ..)]
  congr 1
  funext middle
  rw [processInstructions_cons, processInstruction_of_reads (sdk.read_mintToChecked _ _ _ _ _ _ (mapError_eq_ok.mp made))]
  exact Option.bind_fun_some _

/-- A recipient is credited in the account that is opened or found. -/
theorem credited_eq_some {payer recipient mint authority destination : Pubkey} {amount : UInt64} {decimals : UInt8}
    (executed : ((createAssociated sdk ledger payer destination recipient mint).bind fun middle =>
      mintToChecked sdk middle mint destination authority amount decimals) = some later) :
    ∃ state supply account, mintAt sdk ledger mint = some state ∧ state.mintAuthority = some authority ∧
      supply.toNat = state.supply.toNat + amount.toNat ∧
      mintAt sdk later = Function.update (mintAt sdk ledger) mint (some { state with supply := supply }) ∧
      accountAt sdk later = Function.update (accountAt sdk ledger) destination (some account) ∧
      account.owner = recipient ∧ account.mint = mint ∧
      account.amount.toNat = balanceAt sdk ledger destination + amount.toNat ∧
      ∀ other, other ≠ mint → other ≠ destination → later.accounts other = ledger.accounts other := by
  obtain ⟨middle, opened, credited⟩ := Option.bind_eq_some_iff.mp executed
  obtain ⟨account, state, total, supply, found, known, own, _, granted, added, issued, mints, accounts, frame⟩ :=
    mintToChecked_eq_some credited
  rcases (createAssociated_eq_some opened).2 with ⟨same, prior, present, owned, _⟩ | ⟨absent, _, _, fresh, still, others⟩
  · subst same
    cases present.symm.trans found
    refine ⟨state, supply, _, known, granted, issued, mints, accounts, owned, own, ?_, frame⟩
    simp only [balanceAt, found, Option.map_some, Option.getD_some]
    exact added
  · rw [fresh, Function.update_self] at found
    cases found
    rw [still] at mints known
    refine ⟨state, supply, { mint := mint, owner := recipient, amount := total, state := .initialized },
      known, granted, issued, mints, ?_, rfl, rfl, ?_, ?_⟩
    · rw [accounts, fresh, Function.update_idem]
    · simp only [balanceAt, absent, Option.map_none, Option.getD_none]
      exact added
    · intro other notMint notDestination
      exact (frame other notMint notDestination).trans (others other notDestination)

namespace CreateMint
variable {mint authority : Pubkey} {freezeAuthority : Option Pubkey} {decimals : UInt8} {initialSupply : Option UInt64}
  {fixedSupply : Bool} {instructions : List Instruction}

/-- The execution of the initial supply and of the revocation. -/
def issue (sdk : TokenSdk) (ledger : Ledger) (mint authority : Pubkey) (decimals : UInt8) : Option UInt64 → Option Ledger
  | none => some ledger
  | some amount =>
    let destination := (Token.associatedTokenAddress sdk authority mint).1
    (createAssociated sdk ledger authority destination authority mint).bind fun middle =>
      mintToChecked sdk middle mint destination authority amount decimals

def revoke (sdk : TokenSdk) (ledger : Ledger) (mint authority : Pubkey) (fixedSupply : Bool) : Option Ledger :=
  if fixedSupply then setMintAuthority sdk ledger mint none authority else some ledger

/-- The last step of the construction appends the revocation, if there is one. -/
theorem revocation_process {listed : List Instruction} (ends : (if fixedSupply = true then do
        let revocation ← (sdk.setAuthority sdk.tokenProgram mint none .mintTokens authority []).mapError
          fun error => CliError.mintCreation ("could not build fixed-supply instruction: " ++ error)
        pure (listed ++ [revocation])
      else pure listed) = .ok instructions) :
    ∃ revocation, instructions = listed ++ revocation ∧
      ∀ ledger, processInstructions sdk ledger revocation = revoke sdk ledger mint authority fixedSupply := by
  split at ends
  next fixed =>
    obtain ⟨revocation, made, same⟩ := bind_eq_ok.mp ends
    cases same
    refine ⟨[revocation], rfl, ?_⟩
    intro ledger
    rw [processInstructions_cons, processInstruction_of_reads (sdk.read_setAuthority _ _ _ _ (mapError_eq_ok.mp made)),
      revoke, if_pos fixed]
    exact Option.bind_fun_some _
  next unlimited =>
    cases ends
    refine ⟨[], (List.append_nil _).symm, ?_⟩
    intro ledger
    rw [revoke, if_neg unlimited]
    rfl

/-- The instructions are executed in this order: create, initialize, issue, revoke. -/
theorem createMintInstructions_process
    (built : createMintInstructions sdk mint authority freezeAuthority decimals initialSupply fixedSupply = .ok instructions) :
    processInstructions sdk ledger instructions =
      (processInstruction sdk ledger (.createAccount authority mint (sdk.minimumRent sdk.mints.len) sdk.mints.len
        sdk.tokenProgram)).bind fun opened =>
      (initializeMint sdk opened mint authority freezeAuthority decimals).bind fun initialized =>
      (issue sdk initialized mint authority decimals initialSupply).bind fun issued =>
      revoke sdk issued mint authority fixedSupply := by
  obtain ⟨initialization, made, built⟩ := bind_eq_ok.mp built
  have reads := sdk.read_initializeMint _ _ _ _ _ (mapError_eq_ok.mp made)
  obtain ⟨supply, revocation, same, issues, revokes⟩ : ∃ supply revocation,
      instructions = [.createAccount authority mint (sdk.minimumRent sdk.mints.len) sdk.mints.len sdk.tokenProgram,
        initialization] ++ supply ++ revocation ∧
      (∀ ledger, processInstructions sdk ledger supply = issue sdk ledger mint authority decimals initialSupply) ∧
      ∀ ledger, processInstructions sdk ledger revocation = revoke sdk ledger mint authority fixedSupply := by
    cases initialSupply with
    | none =>
      obtain ⟨revocation, same, revokes⟩ := revocation_process built
      exact ⟨[], revocation, same, fun _ => rfl, revokes⟩
    | some amount =>
      obtain ⟨⟨destination, supply⟩, given, built⟩ := bind_eq_ok.mp built
      obtain ⟨derived, issues⟩ := Token.mintToUserInstructions_eq_ok given
      subst derived
      obtain ⟨revocation, same, revokes⟩ := revocation_process built
      exact ⟨supply, revocation, same, issues, revokes⟩
  rw [same, List.append_assoc, List.cons_append, processInstructions_cons]
  congr 1
  funext opened
  rw [List.cons_append, processInstructions_cons, processInstruction_of_reads reads, List.nil_append]
  congr 1
  funext initialized
  rw [processInstructions_append, issues]
  congr 1
  funext issued
  exact revokes issued

/-- What a ledger shows once a mint has been created in it. -/
structure Issued (sdk : TokenSdk) (ledger created : Ledger) (mint authority : Pubkey) (freezeAuthority : Option Pubkey)
    (decimals : UInt8) (initialSupply : Option UInt64) (fixedSupply : Bool) : Prop where
  shown : mintAt sdk created mint =
    some ⟨if fixedSupply then none else some authority, initialSupply.getD 0, decimals, true, freezeAuthority⟩
  holder : balanceAt sdk created (Token.associatedTokenAddress sdk authority mint).1 = (initialSupply.getD 0).toNat
  owner : ∀ amount, initialSupply = some amount → ∃ account, account.mint = mint ∧ account.owner = authority ∧
    account.amount = amount ∧ accountAt sdk created (Token.associatedTokenAddress sdk authority mint).1 = some account
  entirely : ∀ address, address ≠ (Token.associatedTokenAddress sdk authority mint).1 →
    accountAt sdk created address = accountAt sdk ledger address
  frame : ∀ address, address ≠ mint → address ≠ (Token.associatedTokenAddress sdk authority mint).1 →
    created.accounts address = ledger.accounts address

/-- The mint authority is the only thing that a revocation changes. -/
theorem Issued.revoke {revoked : Ledger}
    (created : Issued sdk ledger later mint authority freezeAuthority decimals initialSupply false)
    (executed : setMintAuthority sdk later mint none authority = some revoked) :
    Issued sdk ledger revoked mint authority freezeAuthority decimals initialSupply true := by
  obtain ⟨state, known, _, mints, accounts, frame⟩ := setMintAuthority_eq_some executed
  cases known.symm.trans created.shown
  refine ⟨?_, ?_, ?_, ?_, ?_⟩
  · rw [mints, Function.update_self]
    rfl
  · rw [balanceAt, accounts]
    exact created.holder
  · rw [accounts]
    exact created.owner
  · rw [accounts]
    exact created.entirely
  · intro address notMint notHolder
    exact (frame address notMint).trans (created.frame address notMint notHolder)

/-- Issuing credits the authority's own account, which was not there. -/
theorem Issued.issue {issued : Ledger} (created : Issued sdk ledger later mint authority freezeAuthority decimals none false)
    (executed : issue sdk later mint authority decimals initialSupply = some issued) :
    Issued sdk ledger issued mint authority freezeAuthority decimals initialSupply false := by
  cases initialSupply with
  | none => cases executed; exact created
  | some amount =>
    obtain ⟨state, supply, account, known, _, raised, mints, accounts, owned, own, held, frame⟩ := credited_eq_some executed
    cases known.symm.trans created.shown
    have total : supply = amount := UInt64.toNat_inj.mp (raised.trans (Nat.zero_add _))
    have credit : account.amount = amount := by
      apply UInt64.toNat_inj.mp
      rw [held, created.holder]
      exact Nat.zero_add _
    refine ⟨?_, ?_, ?_, ?_, ?_⟩
    · rw [mints, Function.update_self, total]
      rfl
    · rw [balanceAt, accounts, Function.update_self, ← credit]
      rfl
    · intro amount given
      cases given
      exact ⟨account, own, owned, credit, by rw [accounts, Function.update_self]⟩
    · intro address different
      rw [accounts, Function.update_of_ne different]
      exact created.entirely address different
    · intro address notMint notHolder
      exact (frame address notMint notHolder).trans (created.frame address notMint notHolder)

/-- A mint that is created and initialized has no supply yet. -/
theorem initialized_issues {opened initialized : Ledger}
    (created : processInstruction sdk ledger (.createAccount authority mint (sdk.minimumRent sdk.mints.len) sdk.mints.len
      sdk.tokenProgram) = some opened)
    (made : initializeMint sdk opened mint authority freezeAuthority decimals = some initialized)
    (unheld : ledger.accounts (Token.associatedTokenAddress sdk authority mint).1 = none) :
    Issued sdk ledger initialized mint authority freezeAuthority decimals none false := by
  obtain ⟨_, zeros, _, sameAccounts, others⟩ := createAccount_eq_some created
  obtain ⟨info, state, present, unpacked, _, _, mints, accounts, frame⟩ := initializeMint_eq_some made
  cases zeros.symm.trans present
  cases unpacked.symm.trans sdk.mints.unpackUnchecked_zeros
  refine ⟨?_, ?_, ?_, ?_, ?_⟩
  · rw [mints, Function.update_self]
    rfl
  · rw [balanceAt, accounts, sameAccounts, accountAt, unheld]
    rfl
  · exact fun amount given => by cases given
  · rw [accounts, sameAccounts]
    exact fun _ _ => rfl
  · exact fun address notMint _ => (frame address notMint).trans (others address notMint)

theorem createMintInstructions_issues
    (built : createMintInstructions sdk mint authority freezeAuthority decimals initialSupply fixedSupply = .ok instructions)
    (unheld : ledger.accounts (Token.associatedTokenAddress sdk authority mint).1 = none)
    (executed : processInstructions sdk ledger instructions = some later) :
    Issued sdk ledger later mint authority freezeAuthority decimals initialSupply fixedSupply := by
  simp only [createMintInstructions_process built, Option.bind_eq_some_iff] at executed
  obtain ⟨opened, created, initialized, made, issued, supplied, ended⟩ := executed
  have unlimited := (initialized_issues created made unheld).issue supplied
  cases fixedSupply with
  | false => cases ended; exact unlimited
  | true => exact unlimited.revoke ended

theorem issue_some {state : Mint} (known : mintAt sdk ledger mint = some state) (granted : state.mintAuthority = some authority)
    (unissued : state.supply = 0)
    (unheld : initialSupply = none ∨ ledger.accounts (Token.associatedTokenAddress sdk authority mint).1 = none) :
    ∃ issued, issue sdk ledger mint authority state.decimals initialSupply = some issued := by
  cases initialSupply with
  | none => exact ⟨ledger, rfl⟩
  | some amount =>
    have vacant : ledger.accounts (Token.associatedTokenAddress sdk authority mint).1 = none := unheld.resolve_left (by simp)
    obtain ⟨middle, opened⟩ : ∃ middle, createAssociated sdk ledger authority
        (Token.associatedTokenAddress sdk authority mint).1 authority mint = some middle :=
      ⟨_, createAssociated_absent authority rfl known vacant⟩
    rcases (createAssociated_eq_some opened).2 with ⟨_, account, found, _⟩ | ⟨_, _, _, fresh, still, _⟩
    · rw [accountAt, vacant] at found
      cases found
    · have bounded := amount.toNat_lt
      have found : accountAt sdk middle (Token.associatedTokenAddress sdk authority mint).1 =
          some { mint := mint, owner := authority, state := .initialized } := by rw [fresh, Function.update_self]
      rw [← still] at known
      obtain ⟨issued, credited⟩ := mintToChecked_some found known (by simp) rfl rfl granted
        ((Nat.zero_add amount.toNat).trans_lt bounded) (by rw [unissued]; exact (Nat.zero_add amount.toNat).trans_lt bounded)
      exact ⟨issued, Option.bind_eq_some_iff.mpr ⟨middle, opened, credited⟩⟩

/-- The transaction fails only where the associated address is that of the mint itself. -/
theorem createMintInstructions_succeeds
    (built : createMintInstructions sdk mint authority freezeAuthority decimals initialSupply fixedSupply = .ok instructions)
    (absent : ledger.accounts mint = none) (unheld : ledger.accounts (Token.associatedTokenAddress sdk authority mint).1 = none)
    (apart : initialSupply = none ∨ (Token.associatedTokenAddress sdk authority mint).1 ≠ mint) :
    ∃ created, processInstructions sdk ledger instructions = some created := by
  simp only [createMintInstructions_process built, Option.bind_eq_some_iff]
  obtain ⟨opened, created⟩ : ∃ opened, processInstruction sdk ledger (.createAccount authority mint
      (sdk.minimumRent sdk.mints.len) sdk.mints.len sdk.tokenProgram) = some opened := by
    simp only [processInstruction, absent, Option.some.injEq, exists_eq']
  obtain ⟨_, zeros, _, _, others⟩ := createAccount_eq_some created
  obtain ⟨initialized, made⟩ := initializeMint_some authority freezeAuthority decimals zeros rfl rfl (Nat.le_refl _)
  obtain ⟨_, _, _, _, _, _, _, _, frame⟩ := initializeMint_eq_some made
  have fresh := initialized_issues created made unheld
  obtain ⟨issued, supplied⟩ := issue_some fresh.shown rfl rfl
    (apart.imp_right fun different => ((frame _ different).trans (others _ different)).trans unheld)
  obtain ⟨final, ended⟩ : ∃ final, revoke sdk issued mint authority fixedSupply = some final := by
    cases fixedSupply with
    | false => exact ⟨issued, rfl⟩
    | true => exact setMintAuthority_some none (fresh.issue supplied).shown rfl
  exact ⟨final, opened, created, initialized, made, issued, supplied, ended⟩

end CreateMint
namespace MintTokens
variable {ι : Type} {reliable : Prop} {client : ι} {world after : World ι} {outcome : Except CliError Unit}

/-- The instructions that the checks of `mint-tokens` let through. -/
def Requested (sdk : TokenSdk) (ledger : Ledger) (args : Args) (instructions : List Instruction) : Prop :=
  ∃ authority recipient mint state amount destination, Token.parsePubkey args.mint "mint" = .ok mint ∧
    mintAt sdk ledger mint = some state ∧ state.mintAuthority = some authority ∧
    Utils.parseAmount args.amount state.decimals = .ok amount ∧
    Token.mintToUserInstructions sdk authority recipient mint authority amount state.decimals = .ok (destination, instructions)

theorem requireMintAuthority_eq_ok {mintAddress authority : Pubkey} {mint : Mint}
    (granted : requireMintAuthority mintAddress mint authority = .ok ()) : mint.mintAuthority = some authority := by
  unfold requireMintAuthority at granted
  split at granted
  next => cases granted
  next =>
    split at granted
    next expected given =>
      split at granted
      next same => rw [given, same]
      next => cases granted
    next => cases granted

theorem run_ensures (shell : Shell) (args : Args) (world : World ι) :
    Ensures (Serves sdk reliable client) (run sdk shell args)
      (SubmitsAtMost sdk reliable client (Requested sdk world.ledger args) world) world := by
  have unsent : ∀ error, SubmitsAtMost sdk reliable client (Requested sdk world.ledger args) world
      (.error error : Except CliError Unit) world := fun error => .inl ⟨rfl, error, rfl⟩
  apply (silent_ensures (args.signer.resolve_silent ..) world).bind _ (fun error after same => same ▸ unsent error)
  intro signer after same
  subst same
  apply Ensures.ofExcept_bind _ (fun error _ => unsent error)
  intro recipient _
  apply Ensures.ofExcept_bind _ (fun error _ => unsent error)
  intro mintAddress named
  apply Ensures.still_bind (Token.readMint_ensures mintAddress) _ (fun error _ => unsent error)
  intro mint known
  apply Ensures.ofExcept_bind _ (fun error _ => unsent error)
  intro _ granted
  apply Ensures.ofExcept_bind _ (fun error _ => unsent error)
  intro amount parsed
  apply Ensures.ofExcept_bind _ (fun error _ => unsent error)
  intro built made
  obtain ⟨destination, instructions⟩ := built
  have requested : Requested sdk after.ledger args instructions :=
    ⟨signer.pubkey, recipient, mintAddress, mint.state, amount, destination, named, known mint rfl,
      requireMintAuthority_eq_ok granted, parsed, made⟩
  exact sendAndConfirm_last "token minting" signer.pubkey [signer] after requested

/-- One invocation of `mint-tokens`. -/
structure Command where
  shell : Shell
  args : Args

def Command.run (sdk : TokenSdk) (command : Command) : Cli Unit := MintTokens.run sdk command.shell command.args

abbrev Minting (ι : Type) := Attempt Command (Except CliError Unit) (World ι)

/-- The transaction of the command was executed. -/
def landed (attempt : Minting ι) : Bool :=
  (attempt.after.log.drop attempt.before.log.length).any (·.status = .processed)

def succeeded (attempt : Minting ι) : Bool := attempt.outcome.toOption.isSome

def parsedAmount (decimals : UInt8) (args : Args) : Nat :=
  ((Utils.parseAmount args.amount decimals).toOption.map UInt64.toNat).getD 0

/-- What a command adds to the supply of the mint, if it counts and names the mint. -/
def gain (counts : Minting ι → Bool) (mint : Pubkey) (decimals : UInt8) (attempt : Minting ι) : Nat :=
  if counts attempt = true ∧ Token.parsePubkey attempt.command.args.mint "mint" = .ok mint then
    parsedAmount decimals attempt.command.args
  else 0

/-- What one command does to a mint, and what its outcome tells. -/
structure Step (sdk : TokenSdk) (reliable : Prop) (mint : Pubkey) (state : Mint) (attempt : Minting ι) : Prop where
  supplied : ∃ supply, mintAt sdk attempt.after.ledger mint = some { state with supply := supply } ∧
    supply.toNat = state.supply.toNat + gain landed mint state.decimals attempt
  executed : succeeded attempt = true → landed attempt = true
  learned : reliable → landed attempt = true → succeeded attempt = true
  refused : state.mintAuthority = none → Token.parsePubkey attempt.command.args.mint "mint" = .ok mint →
    attempt.after = attempt.before ∧ ∃ error, attempt.outcome = .error error

theorem landed_recorded {entry : Entry ι} {command : Command} (recorded : after.log = world.log ++ [entry]) :
    landed ⟨command, world, outcome, after⟩ = decide (entry.status = .processed) := by
  simp only [landed, recorded, List.drop_left, List.any_cons, List.any_nil, Bool.or_false]

/-- A command whose transaction is not executed leaves every mint alone. -/
theorem Step.of_missed {mint : Pubkey} {state : Mint} {command : Command} {error : CliError}
    (known : mintAt sdk world.ledger mint = some state) (same : after.ledger = world.ledger)
    (missed : landed ⟨command, world, .error error, after⟩ = false)
    (refused : state.mintAuthority = none → Token.parsePubkey command.args.mint "mint" = .ok mint → after = world) :
    Step sdk reliable mint state ⟨command, world, .error error, after⟩ where
  supplied := by
    refine ⟨state.supply, ?_, ?_⟩
    · rw [same]
      exact known
    · simp only [gain, missed, Bool.false_eq_true, false_and, if_false, Nat.add_zero]
  executed := fun succeeds => by cases succeeds
  learned := fun _ lands => by
    rw [missed] at lands
    cases lands
  refused := fun fixed named => ⟨refused fixed named, error, rfl⟩

theorem Command.run_step {mint : Pubkey} {state : Mint} {command : Command}
    (known : mintAt sdk world.ledger mint = some state)
    (executed : Executes (Serves sdk reliable client) (command.run sdk) world outcome after) :
    Step sdk reliable mint state ⟨command, world, outcome, after⟩ := by
  rcases ensures_iff.mp (run_ensures command.shell command.args world) _ _ executed with
    ⟨same, error, failed⟩ | ⟨instructions, requested, submitted⟩
  · subst same failed
    refine .of_missed known rfl ?_ (fun _ _ => rfl)
    simp only [landed, List.drop_length, List.any_nil]
  · obtain ⟨authority, recipient, named, found, amount, destination, parsed, present, granted, read, built⟩ := requested
    have mintable : Token.parsePubkey command.args.mint "mint" = .ok mint → state.mintAuthority ≠ none := by
      intro names
      cases parsed.symm.trans names
      cases known.symm.trans present
      rw [granted]
      exact Option.some_ne_none authority
    cases submitted with
    | lost carries =>
      exact .of_missed known rfl ((landed_recorded rfl).trans rfl) (fun fixed names => absurd fixed (mintable names))
    | refused carries =>
      exact .of_missed known rfl ((landed_recorded rfl).trans rfl) (fun fixed names => absurd fixed (mintable names))
    | @executed transaction ledger _ carries done learns =>
      have lands : landed ⟨command, world, outcome, world.commit client transaction ledger⟩ = true :=
        (landed_recorded rfl).trans rfl
      obtain ⟨before, supply, account, again, _, raised, mints, _⟩ := credited_eq_some (((Token.mintToUserInstructions_eq_ok built).2 _).symm.trans done)
      cases present.symm.trans again
      refine ⟨?_, fun _ => lands, ?_, fun fixed names => absurd fixed (mintable names)⟩
      · by_cases same : named = mint
        · subst same
          cases known.symm.trans present
          refine ⟨supply, ?_, ?_⟩
          · change mintAt sdk ledger named = _
            rw [mints, Function.update_self]
          · rw [gain, if_pos ⟨lands, parsed⟩, parsedAmount, read]
            exact raised
        · refine ⟨state.supply, ?_, ?_⟩
          · change mintAt sdk ledger mint = _
            rw [mints, Function.update_of_ne (Ne.symm same), known]
          · rw [gain, if_neg]
            · rfl
            · intro both
              cases parsed.symm.trans both.2
              exact same rfl
      · intro trusted _
        obtain ⟨value, returned⟩ := learns trusted
        simp only [succeeded, returned, Except.toOption, Option.isSome_some]

/-- What a series of minting commands does to a mint. -/
structure Accounted (sdk : TokenSdk) (reliable : Prop) (mint : Pubkey) (start : Mint) (attempts : List (Minting ι))
    (last : World ι) : Prop where
  supplied : ∃ supply, mintAt sdk last.ledger mint = some { start with supply := supply } ∧
    supply.toNat = start.supply.toNat + (attempts.map (gain landed mint start.decimals)).sum ∧
    (reliable → supply.toNat = start.supply.toNat + (attempts.map (gain succeeded mint start.decimals)).sum)
  executed : ∀ attempt ∈ attempts, succeeded attempt = true → landed attempt = true
  fixed : start.mintAuthority = none → mintAt sdk last.ledger mint = some start ∧ ∀ attempt ∈ attempts,
    Token.parsePubkey attempt.command.args.mint "mint" = .ok mint →
    attempt.after = attempt.before ∧ ∃ error, attempt.outcome = .error error

/-- A mint whose supply may have changed since the start. -/
def Grown (sdk : TokenSdk) (mint : Pubkey) (start : Mint) (world : World ι) : Prop :=
  ∃ supply, mintAt sdk world.ledger mint = some { start with supply := supply }

def supplyAt (sdk : TokenSdk) (mint : Pubkey) (world : World ι) : Nat :=
  ((mintAt sdk world.ledger mint).map (·.supply.toNat)).getD 0

theorem supplyAt_of_mint {mint : Pubkey} {state : Mint} (known : mintAt sdk world.ledger mint = some state) :
    supplyAt sdk mint world = state.supply.toNat := by
  simp only [supplyAt, known, Option.map_some, Option.getD_some]

theorem Grown.step {mint : Pubkey} {start : Mint} {command : Command} (grown : Grown sdk mint start world)
    (executed : Executes (Serves sdk reliable client) (command.run sdk) world outcome after) :
    Grown sdk mint start after ∧ supplyAt sdk mint after =
      supplyAt sdk mint world + gain landed mint start.decimals ⟨command, world, outcome, after⟩ := by
  obtain ⟨supply, known⟩ := grown
  obtain ⟨raised, shown, added⟩ := (command.run_step known executed).supplied
  refine ⟨⟨raised, shown⟩, ?_⟩
  rw [supplyAt_of_mint known, supplyAt_of_mint shown]
  exact added

section Series
variable {mint : Pubkey} {start : Mint} {commands : List Command} {last : World ι} {attempts : List (Minting ι)}

/-- Every command of a series is one step from some supply. -/
theorem series_steps (grown : Grown sdk mint start world)
    (series : Series (Serves sdk reliable client) (Command.run sdk) commands world attempts last) :
    ∀ attempt ∈ attempts, ∃ supply, Step sdk reliable mint { start with supply := supply } attempt := by
  obtain ⟨_, executions⟩ := series.induct grown (fun _ _ _ _ grown executed => (grown.step executed).1)
  intro attempt member
  obtain ⟨⟨supply, known⟩, executed⟩ := executions attempt member
  exact ⟨supply, Command.run_step known executed⟩

theorem accounted (known : mintAt sdk world.ledger mint = some start)
    (series : Series (Serves sdk reliable client) (Command.run sdk) commands world attempts last) :
    Accounted sdk reliable mint start attempts last := by
  have grown : Grown sdk mint start world := ⟨start.supply, known⟩
  have steps := series_steps grown series
  obtain ⟨⟨supply, shown⟩, _⟩ := series.induct grown (fun _ _ _ _ grown executed => (grown.step executed).1)
  have total := series.total (supplyAt sdk mint) (gain landed mint start.decimals) grown
    (fun _ _ _ _ grown executed => grown.step executed)
  rw [supplyAt_of_mint known, supplyAt_of_mint shown] at total
  refine ⟨⟨supply, shown, total, ?_⟩, ?_, ?_⟩
  · intro trusted
    rw [total]
    congr 2
    apply List.map_congr_left
    intro attempt member
    obtain ⟨_, step⟩ := steps attempt member
    have same : landed attempt = succeeded attempt := Bool.eq_iff_iff.mpr ⟨step.learned trusted, step.executed⟩
    simp only [gain, same]
  · intro attempt member
    obtain ⟨_, step⟩ := steps attempt member
    exact step.executed
  · intro fixed
    have refused : ∀ attempt ∈ attempts, Token.parsePubkey attempt.command.args.mint "mint" = .ok mint →
        attempt.after = attempt.before ∧ ∃ error, attempt.outcome = .error error := by
      intro attempt member named
      obtain ⟨_, step⟩ := steps attempt member
      exact step.refused fixed named
    refine ⟨?_, refused⟩
    have nothing : (attempts.map (gain landed mint start.decimals)).sum = 0 := by
      apply List.sum_eq_zero
      intro amount listed
      obtain ⟨attempt, member, same⟩ := List.mem_map.mp listed
      subst same
      rw [gain, if_neg]
      intro both
      have idle := (refused attempt member both.2).1
      have missed : landed attempt = false := by simp only [landed, idle, List.drop_length, List.any_nil]
      rw [missed] at both
      cases both.1
    have same : supply = start.supply := UInt64.toNat_inj.mp (by rw [nothing] at total; exact total)
    rw [shown, same]

end Series
end MintTokens
/-- A mint is created as it was asked for or not at all, and from then on its supply
follows the minting commands that were executed. -/
theorem createMint_supply (sdk : TokenSdk) (ledger : Ledger) (mint authority : Pubkey) (freezeAuthority : Option Pubkey)
    (decimals : UInt8) (initialSupply : Option UInt64) (fixedSupply : Bool) (instructions : List Instruction)
    (built : CreateMint.createMintInstructions sdk mint authority freezeAuthority decimals initialSupply fixedSupply =
      .ok instructions)
    (absent : ledger.accounts mint = none)
    (unheld : ledger.accounts (Token.associatedTokenAddress sdk authority mint).1 = none) :
    (processInstructions sdk ledger instructions = none →
      initialSupply ≠ none ∧ (Token.associatedTokenAddress sdk authority mint).1 = mint) ∧
    ∀ created, processInstructions sdk ledger instructions = some created →
      CreateMint.Issued sdk ledger created mint authority freezeAuthority decimals initialSupply fixedSupply ∧
      ∀ (ι : Type) (client : ι) (reliable : Prop) (world last : World ι) (commands : List MintTokens.Command)
        (attempts : List (MintTokens.Minting ι)), world.ledger = created →
        Series (Serves sdk reliable client) (MintTokens.Command.run sdk) commands world attempts last →
        MintTokens.Accounted sdk reliable mint
          ⟨if fixedSupply then none else some authority, initialSupply.getD 0, decimals, true, freezeAuthority⟩ attempts last := by
  constructor
  · intro failed
    by_contra either
    obtain ⟨created, done⟩ := CreateMint.createMintInstructions_succeeds built absent unheld (by tauto)
    cases failed.symm.trans done
  · intro created executed
    have issued := CreateMint.createMintInstructions_issues built unheld executed
    refine ⟨issued, ?_⟩
    intro ι client reliable world last commands attempts same series
    subst same
    exact MintTokens.accounted issued.shown series

namespace CreateMint.Example
open Reference

def mint : Pubkey := .fromSlice (List.replicate 32 1)

def authority : Pubkey := .fromSlice (List.replicate 32 2)

def holder : Pubkey := .fromSlice (List.replicate 32 9)

def tokens : TokenPrograms := programs fun _ _ => (holder, 255)

def empty : Ledger := ⟨fun _ => none, fun _ => 0⟩

end CreateMint.Example

open CreateMint.Example in
theorem createMint_supply_fixed : ∃ instructions created,
    CreateMint.createMintInstructions tokens.sdk mint authority none 6 (some 1500000) true = .ok instructions ∧
    processInstructions tokens.sdk empty instructions = some created ∧
    mintAt tokens.sdk created mint = some ⟨none, 1500000, 6, true, none⟩ ∧ balanceAt tokens.sdk created holder = 1500000 ∧
    ∀ (client : Unit) (reliable : Prop) (world last : World Unit) (commands : List MintTokens.Command)
      (attempts : List (MintTokens.Minting Unit)), world.ledger = created →
      Series (Serves tokens.sdk reliable client) (MintTokens.Command.run tokens.sdk) commands world attempts last →
      mintAt tokens.sdk last.ledger mint = some ⟨none, 1500000, 6, true, none⟩ := by
  obtain ⟨instructions, built⟩ : ∃ instructions,
    CreateMint.createMintInstructions tokens.sdk mint authority none 6 (some 1500000) true = .ok instructions := ⟨_, rfl⟩
  have laws := createMint_supply tokens.sdk empty mint authority none 6 (some 1500000) true instructions built rfl rfl
  have apart : holder ≠ mint := by decide +kernel
  cases executed : processInstructions tokens.sdk empty instructions with
  | none => exact absurd (laws.1 executed).2 apart
  | some created =>
    obtain ⟨issued, series⟩ := laws.2 created executed
    refine ⟨instructions, created, built, executed, issued.shown, issued.holder, ?_⟩
    intro client reliable world last commands attempts same ran
    exact ((series Unit client reliable world last commands attempts same ran).fixed rfl).1

end ArchKit
