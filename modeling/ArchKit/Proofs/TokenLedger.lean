import ArchKit.TokenProgram

/-! What each token instruction does to the mints and the token accounts of a ledger. -/

namespace ArchKit

theorem checkedAdd_eq_some {first second total : UInt64} :
    checkedAdd first second = some total ↔ total.toNat = first.toNat + second.toNat := by
  unfold checkedAdd
  constructor
  · intro added
    split at added
    next fits =>
      cases added
      rw [UInt64.toNat_add, Nat.mod_eq_of_lt fits]
    next => cases added
  · intro same
    have fits : first.toNat + second.toNat < 2 ^ 64 := same ▸ total.toNat_lt
    rw [if_pos fits, Option.some.injEq]
    apply UInt64.toNat_inj.mp
    rw [UInt64.toNat_add, Nat.mod_eq_of_lt fits, same]

theorem checkedSub_eq_some {first second rest : UInt64} :
    checkedSub first second = some rest ↔ rest.toNat + second.toNat = first.toNat := by
  unfold checkedSub
  constructor
  · intro subtracted
    split at subtracted
    next fits =>
      cases subtracted
      have bounded := UInt64.le_iff_toNat_le.mp fits
      rw [UInt64.toNat_sub_of_le _ _ fits]
      omega
    next => cases subtracted
  · intro same
    have fits : second ≤ first := UInt64.le_iff_toNat_le.mpr (by omega)
    rw [if_pos fits, Option.some.injEq]
    apply UInt64.toNat_inj.mp
    rw [UInt64.toNat_sub_of_le _ _ fits]
    omega

namespace TokenProgram
variable {sdk : TokenSdk} {ledger later : Ledger} {address other : Pubkey}

section Views
variable {α : Type} {isInitialized : α → Bool} {blank : α} {pack : Pack isInitialized blank} {info : AccountInfo} {value : α}

theorem held_eq_some : held sdk pack info = some value ↔ info.owner = sdk.tokenProgram ∧ pack.unpack info.data = .ok value := by
  unfold held
  split
  next own =>
    cases pack.unpack info.data with
    | ok other => simp [own, Except.toOption]
    | error error => simp [own, Except.toOption]
  next foreign => simp [foreign]

theorem held_pack (own : info.owner = sdk.tokenProgram) (packed : info.data = pack.pack value)
    (initialized : isInitialized value = true) : held sdk pack info = some value :=
  held_eq_some.mpr ⟨own, packed ▸ pack.unpack_pack initialized⟩

theorem held_length (holds : held sdk pack info = some value) : info.data.length = pack.len :=
  pack.unpack_length (held_eq_some.mp holds).2

theorem held_of_length (different : info.data.length ≠ pack.len) : held sdk pack info = none :=
  Option.eq_none_iff_forall_ne_some.mpr fun _ holds => different (held_length holds)

theorem held_zeros (unused : isInitialized blank = false) {size : Nat} (zeros : info.data = List.replicate size 0) :
    held sdk pack info = none :=
  Option.eq_none_iff_forall_ne_some.mpr fun value holds =>
    pack.unpack_zeros unused size value (zeros ▸ (held_eq_some.mp holds).2)

end Views

theorem mintAt_eq_some {mint : Mint} : mintAt sdk ledger address = some mint ↔
    ∃ info, ledger.accounts address = some info ∧ info.owner = sdk.tokenProgram ∧ sdk.mints.unpack info.data = .ok mint := by
  simp only [mintAt, Option.bind_eq_some_iff, held_eq_some]

theorem accountAt_eq_some {account : TokenAccount} : accountAt sdk ledger address = some account ↔
    ∃ info, ledger.accounts address = some info ∧ info.owner = sdk.tokenProgram ∧
      sdk.accounts.unpack info.data = .ok account := by
  simp only [accountAt, Option.bind_eq_some_iff, held_eq_some]

theorem mintAt_initialized {mint : Mint} (found : mintAt sdk ledger address = some mint) : mint.isInitialized = true := by
  obtain ⟨_, _, _, read⟩ := mintAt_eq_some.mp found
  exact sdk.mints.unpack_initialized read

theorem accountAt_initialized {account : TokenAccount} (found : accountAt sdk ledger address = some account) :
    account.isInitialized = true := by
  obtain ⟨_, _, _, read⟩ := accountAt_eq_some.mp found
  exact sdk.accounts.unpack_initialized read

/-- The lengths tell mints and accounts apart. -/
theorem mintAt_of_account {account : TokenAccount} (found : accountAt sdk ledger address = some account) :
    mintAt sdk ledger address = none := by
  obtain ⟨info, present, _, read⟩ := accountAt_eq_some.mp found
  rw [mintAt, present, Option.bind_some]
  apply held_of_length
  rw [sdk.accounts.unpack_length read]
  exact sdk.lengths.symm

theorem accountAt_of_mint {mint : Mint} (found : mintAt sdk ledger address = some mint) :
    accountAt sdk ledger address = none := by
  cases absent : accountAt sdk ledger address with
  | none => rfl
  | some account =>
    rw [mintAt_of_account absent] at found
    cases found

/-- Two ledgers show the same at an address where they agree. -/
theorem mintAt_congr (same : later.accounts address = ledger.accounts address) :
    mintAt sdk later address = mintAt sdk ledger address := by rw [mintAt, same, mintAt]

theorem accountAt_congr (same : later.accounts address = ledger.accounts address) :
    accountAt sdk later address = accountAt sdk ledger address := by rw [accountAt, same, accountAt]

/-- Nothing but the account at the address may differ. -/
def Frame (ledger later : Ledger) (address : Pubkey) : Prop :=
  ∀ other, other ≠ address → later.accounts other = ledger.accounts other

/-- An account that shows a mint now and showed no token account before. -/
theorem becomes_mint {mint : Mint} (frame : Frame ledger later address) (shows : mintAt sdk later address = some mint)
    (before : accountAt sdk ledger address = none) :
    mintAt sdk later = Function.update (mintAt sdk ledger) address (some mint) ∧
      accountAt sdk later = accountAt sdk ledger := by
  constructor
  · funext other
    by_cases same : other = address
    · rw [same, Function.update_self, shows]
    · rw [Function.update_of_ne same, mintAt_congr (frame other same)]
  · funext other
    by_cases same : other = address
    · rw [same, accountAt_of_mint shows, before]
    · exact accountAt_congr (frame other same)

theorem becomes_account {account : TokenAccount} (frame : Frame ledger later address)
    (shows : accountAt sdk later address = some account) (before : mintAt sdk ledger address = none) :
    accountAt sdk later = Function.update (accountAt sdk ledger) address (some account) ∧
      mintAt sdk later = mintAt sdk ledger := by
  constructor
  · funext other
    by_cases same : other = address
    · rw [same, Function.update_self, shows]
    · rw [Function.update_of_ne same, accountAt_congr (frame other same)]
  · funext other
    by_cases same : other = address
    · rw [same, mintAt_of_account shows, before]
    · exact mintAt_congr (frame other same)

section Modify
variable {change : AccountInfo → AccountInfo}

/-- The change rewrites the data of an account and leaves its owner. -/
def Rewrites (change : AccountInfo → AccountInfo) (data : Bytes) : Prop :=
  ∀ info, (change info).owner = info.owner ∧ (change info).data = data

theorem modify_frame (ledger : Ledger) (address : Pubkey) (change : AccountInfo → AccountInfo) :
    Frame ledger (ledger.modify address change) address := fun _ different => Function.update_of_ne different ..

theorem modify_self {info : AccountInfo} (present : ledger.accounts address = some info) :
    (ledger.modify address change).accounts address = some (change info) := by
  simp only [Ledger.modify, Function.update_self, present, Option.map_some]

theorem modify_account (change : AccountInfo → AccountInfo) {account changed : TokenAccount} (found : accountAt sdk ledger address = some account)
    (rewrites : Rewrites change (sdk.accounts.pack changed)) (initialized : changed.isInitialized = true) :
    accountAt sdk (ledger.modify address change) = Function.update (accountAt sdk ledger) address (some changed) ∧
      mintAt sdk (ledger.modify address change) = mintAt sdk ledger := by
  obtain ⟨info, present, own, _⟩ := accountAt_eq_some.mp found
  apply becomes_account (modify_frame ledger address change) _ (mintAt_of_account found)
  rw [accountAt, modify_self present]
  exact held_pack ((rewrites info).1.trans own) (rewrites info).2 initialized

theorem modify_mint (change : AccountInfo → AccountInfo) {mint changed : Mint} (found : mintAt sdk ledger address = some mint)
    (rewrites : Rewrites change (sdk.mints.pack changed)) (initialized : changed.isInitialized = true) :
    mintAt sdk (ledger.modify address change) = Function.update (mintAt sdk ledger) address (some changed) ∧
      accountAt sdk (ledger.modify address change) = accountAt sdk ledger := by
  obtain ⟨info, present, own, _⟩ := mintAt_eq_some.mp found
  apply becomes_mint (modify_frame ledger address change) _ (accountAt_of_mint found)
  rw [mintAt, modify_self present]
  exact held_pack ((rewrites info).1.trans own) (rewrites info).2 initialized

end Modify

/-- Minting credits the account and the supply with the amount. -/
theorem mintToChecked_eq_some {mint destination authority : Pubkey} {amount : UInt64} {decimals : UInt8}
    (executed : mintToChecked sdk ledger mint destination authority amount decimals = some later) :
    ∃ account state total supply, accountAt sdk ledger destination = some account ∧ mintAt sdk ledger mint = some state ∧
      account.mint = mint ∧ state.decimals = decimals ∧ state.mintAuthority = some authority ∧
      total.toNat = account.amount.toNat + amount.toNat ∧ supply.toNat = state.supply.toNat + amount.toNat ∧
      mintAt sdk later = Function.update (mintAt sdk ledger) mint (some { state with supply := supply }) ∧
      accountAt sdk later = Function.update (accountAt sdk ledger) destination (some { account with amount := total }) ∧
      ∀ other, other ≠ mint → other ≠ destination → later.accounts other = ledger.accounts other := by
  simp only [mintToChecked, bind, Option.bind_eq_some_iff, Option.guard_eq_some', checkedAdd_eq_some, pure,
    Option.some.injEq] at executed
  obtain ⟨account, found, state, known, _, ⟨_, _, own, checked, granted⟩, total, added, supply, issued, same⟩ := executed
  subst same
  have opened := accountAt_initialized found
  have made := mintAt_initialized known
  obtain ⟨credited, kept⟩ := modify_account (fun info =>
    { info with data := sdk.accounts.pack { account with amount := total } }) found (fun info => ⟨rfl, rfl⟩) opened
  rw [← kept] at known
  obtain ⟨raised, still⟩ := modify_mint (fun info =>
    { info with data := sdk.mints.pack { state with supply := supply } }) known (fun info => ⟨rfl, rfl⟩) made
  rw [kept] at known
  refine ⟨account, state, total, supply, found, known, own, checked, granted, added, issued, ?_, still.trans credited, ?_⟩
  · rw [raised, kept]
  · intro other notMint notDestination
    rw [modify_frame _ mint _ other notMint, modify_frame _ destination _ other notDestination]

theorem setMintAuthority_eq_some {mint authority : Pubkey} {newAuthority : Option Pubkey}
    (executed : setMintAuthority sdk ledger mint newAuthority authority = some later) :
    ∃ state, mintAt sdk ledger mint = some state ∧ state.mintAuthority = some authority ∧
      mintAt sdk later = Function.update (mintAt sdk ledger) mint (some { state with mintAuthority := newAuthority }) ∧
      accountAt sdk later = accountAt sdk ledger ∧ Frame ledger later mint := by
  simp only [setMintAuthority, bind, Option.bind_eq_some_iff, Option.guard_eq_some', pure, Option.some.injEq] at executed
  obtain ⟨state, known, _, granted, same⟩ := executed
  subst same
  have made := mintAt_initialized known
  obtain ⟨changed, still⟩ := modify_mint (fun info =>
    { info with data := sdk.mints.pack { state with mintAuthority := newAuthority } }) known (fun info => ⟨rfl, rfl⟩) made
  exact ⟨state, known, granted, changed, still, modify_frame _ _ _⟩

theorem toOption_eq_some {α ε : Type} {outcome : Except ε α} {value : α} :
    outcome.toOption = some value ↔ outcome = .ok value := by
  cases outcome <;> simp [Except.toOption]

/-- An account that holds no value yet becomes a mint. -/
theorem initializeMint_eq_some {mint mintAuthority : Pubkey} {freezeAuthority : Option Pubkey} {decimals : UInt8}
    (executed : initializeMint sdk ledger mint mintAuthority freezeAuthority decimals = some later) :
    ∃ info state, ledger.accounts mint = some info ∧ sdk.mints.unpackUnchecked info.data = .ok state ∧
      mintAt sdk ledger mint = none ∧ accountAt sdk ledger mint = none ∧
      mintAt sdk later = Function.update (mintAt sdk ledger) mint
        (some ⟨some mintAuthority, state.supply, decimals, true, freezeAuthority⟩) ∧
      accountAt sdk later = accountAt sdk ledger ∧ Frame ledger later mint := by
  simp only [initializeMint, bind, Option.bind_eq_some_iff, Option.guard_eq_some', pure, Option.some.injEq,
    toOption_eq_some] at executed
  obtain ⟨info, present, state, unpacked, _, ⟨own, unused, _⟩, same⟩ := executed
  subst same
  have noMint : mintAt sdk ledger mint = none := by
    apply Option.eq_none_iff_forall_ne_some.mpr
    intro other found
    obtain ⟨_, again, _, read⟩ := mintAt_eq_some.mp found
    cases present.symm.trans again
    obtain ⟨unchecked, initialized⟩ := (sdk.mints.unpack_eq_ok _ _).mp read
    cases unpacked.symm.trans unchecked
    rw [unused] at initialized
    cases initialized
  have noAccount : accountAt sdk ledger mint = none := by
    rw [accountAt, present, Option.bind_some]
    apply held_of_length
    rw [sdk.mints.unpackUnchecked_length _ _ unpacked]
    exact sdk.lengths
  have shows : mintAt sdk (ledger.modify mint fun info => { info with
      data := sdk.mints.pack ⟨some mintAuthority, state.supply, decimals, true, freezeAuthority⟩ }) mint =
      some ⟨some mintAuthority, state.supply, decimals, true, freezeAuthority⟩ := by
    rw [mintAt, modify_self present]
    exact held_pack own rfl rfl
  obtain ⟨changed, still⟩ := becomes_mint (modify_frame _ _ _) shows noAccount
  exact ⟨info, state, present, unpacked, noMint, noAccount, changed, still, modify_frame _ _ _⟩

/-- The lamports at a vacant address belong to no mint and no token account. -/
theorem mintAt_of_vacant {funded : Nat} (vacant : vacant? sdk ledger address = some funded) :
    mintAt sdk ledger address = none := by
  unfold vacant? at vacant
  cases present : ledger.accounts address with
  | none => rw [mintAt, present, Option.bind_none]
  | some info =>
    rw [present] at vacant
    dsimp only at vacant
    split at vacant
    next empty =>
      apply Option.eq_none_iff_forall_ne_some.mpr
      intro mint found
      obtain ⟨_, again, own, _⟩ := mintAt_eq_some.mp found
      cases present.symm.trans again
      exact sdk.programs (own.symm.trans empty.1)
    next => cases vacant

/-- The account that a creation opens, or finds in place. -/
theorem createAssociated_eq_some {payer associated owner mint : Pubkey}
    (executed : createAssociated sdk ledger payer associated owner mint = some later) :
    associated = (Token.associatedTokenAddress sdk owner mint).1 ∧
    ((later = ledger ∧ ∃ account, accountAt sdk ledger associated = some account ∧ account.owner = owner ∧ account.mint = mint) ∨
      (accountAt sdk ledger associated = none ∧ mintAt sdk ledger associated = none ∧ mintAt sdk ledger mint ≠ none ∧
        accountAt sdk later = Function.update (accountAt sdk ledger) associated
          (some { mint := mint, owner := owner, state := .initialized }) ∧
        mintAt sdk later = mintAt sdk ledger ∧ Frame ledger later associated)) := by
  unfold createAssociated at executed
  split at executed
  next => cases executed
  next derived =>
  refine ⟨not_not.mp derived, ?_⟩
  split at executed
  next account found =>
    split at executed
    next own => cases executed; exact .inl ⟨rfl, account, found, own⟩
    next => cases executed
  next absent =>
    simp only [bind, Option.bind_eq_some_iff, pure, Option.some.injEq] at executed
    obtain ⟨funded, vacant, state, known, same⟩ := executed
    subst same
    have frame : Frame ledger (openAccount sdk ledger payer associated funded { mint, owner, state := .initialized }) associated :=
      fun _ different => Function.update_of_ne different ..
    have shows : accountAt sdk (openAccount sdk ledger payer associated funded { mint, owner, state := .initialized }) associated =
        some { mint := mint, owner := owner, state := .initialized } := by
      simp only [accountAt, openAccount, Function.update_self, Option.bind_some]
      exact held_pack rfl rfl rfl
    obtain ⟨opened, still⟩ := becomes_account frame shows (mintAt_of_vacant vacant)
    have named : mintAt sdk ledger mint ≠ none := by
      rw [known]
      exact Option.some_ne_none state
    exact .inr ⟨absent, mintAt_of_vacant vacant, named, opened, still, frame⟩

/-- Paying out of an allowance changes nothing but the allowance. -/
theorem charge_eq_some {sender charged : TokenAccount} {authority : Pubkey} {amount : UInt64}
    (paid : charge sender authority amount = some charged) :
    (sender.delegate = some authority ∨ sender.owner = authority) ∧
      charged = { sender with delegate := charged.delegate, delegatedAmount := charged.delegatedAmount } := by
  unfold charge at paid
  split at paid
  next delegated =>
    simp only [bind, Option.bind_eq_some_iff, pure, Option.some.injEq] at paid
    obtain ⟨left, _, same⟩ := paid
    subst same
    exact ⟨.inl delegated, rfl⟩
  next =>
    split at paid
    next own => cases paid; exact ⟨.inr own, rfl⟩
    next => cases paid

/-- A transfer moves the amount between two accounts of the mint. -/
theorem transferChecked_eq_some {source mint destination authority : Pubkey} {amount : UInt64} {decimals : UInt8}
    (executed : transferChecked sdk ledger source mint destination authority amount decimals = some later) :
    (source = destination ∧ later = ledger) ∨
    (source ≠ destination ∧ ∃ sender receiver charged rest total, accountAt sdk ledger source = some sender ∧
      accountAt sdk ledger destination = some receiver ∧ sender.mint = mint ∧ receiver.mint = mint ∧
      charge sender authority amount = some charged ∧ rest.toNat + amount.toNat = sender.amount.toNat ∧
      total.toNat = receiver.amount.toNat + amount.toNat ∧
      accountAt sdk later = Function.update (Function.update (accountAt sdk ledger) source
        (some { charged with amount := rest })) destination (some { receiver with amount := total }) ∧
      mintAt sdk later = mintAt sdk ledger ∧
      ∀ other, other ≠ source → other ≠ destination → later.accounts other = ledger.accounts other) := by
  simp only [transferChecked, bind, Option.bind_eq_some_iff, Option.guard_eq_some', checkedSub_eq_some, pure] at executed
  obtain ⟨sender, found, receiver, known, state, _, _, ⟨_, _, agree, own, _⟩, rest, left, charged, paid, executed⟩ := executed
  split at executed
  next same => cases executed; exact .inl ⟨same, rfl⟩
  next different =>
  simp only [Option.bind_eq_some_iff, Option.guard_eq_some', checkedAdd_eq_some, Option.some.injEq] at executed
  obtain ⟨total, added, _, _, same⟩ := executed
  subst same
  have sending := accountAt_initialized found
  have opened : TokenAccount.isInitialized { charged with amount := rest } = true := by
    rw [(charge_eq_some paid).2]
    exact sending
  have receiving := accountAt_initialized known
  obtain ⟨debited, kept⟩ := modify_account (fun info => { info with
    data := sdk.accounts.pack { charged with amount := rest }, lamports := info.lamports - wrapped sender amount })
    found (fun info => ⟨rfl, rfl⟩) opened
  have there : accountAt sdk (ledger.modify source fun info => { info with
      data := sdk.accounts.pack { charged with amount := rest }, lamports := info.lamports - wrapped sender amount })
      destination = some receiver := by
    rw [debited, Function.update_of_ne (Ne.symm different), known]
  obtain ⟨credited, still⟩ := modify_account (fun info => { info with
    data := sdk.accounts.pack { receiver with amount := total }, lamports := info.lamports + wrapped sender amount })
    there (fun info => ⟨rfl, rfl⟩) receiving
  refine .inr ⟨different, sender, receiver, charged, rest, total, found, known, own, agree ▸ own, paid, left, added, ?_,
    still.trans kept, ?_⟩
  · rw [credited, debited]
  · intro other notSource notDestination
    rw [modify_frame _ destination _ other notDestination, modify_frame _ source _ other notSource]

section Executable

/-- A fresh account of the right length and rent can be initialized. -/
theorem initializeMint_some {mint : Pubkey} (mintAuthority : Pubkey) (freezeAuthority : Option Pubkey) (decimals : UInt8)
    {info : AccountInfo} (present : ledger.accounts mint = some info) (own : info.owner = sdk.tokenProgram)
    (zeros : info.data = List.replicate sdk.mints.len 0) (exempt : sdk.minimumRent sdk.mints.len ≤ info.lamports) :
    ∃ later, initializeMint sdk ledger mint mintAuthority freezeAuthority decimals = some later := by
  simp only [initializeMint, bind, Option.bind_eq_some_iff, Option.guard_eq_some', pure, Option.some.injEq, toOption_eq_some]
  refine ⟨_, info, present, {}, ?_, (), ⟨own, rfl, ?_⟩, rfl⟩
  · rw [zeros, sdk.mints.unpackUnchecked_zeros]
  · rw [zeros, List.length_replicate]
    exact exempt

/-- Where nothing is, a fresh account is opened. -/
theorem createAssociated_absent (payer : Pubkey) {associated owner mint : Pubkey} {state : Mint}
    (derived : associated = (Token.associatedTokenAddress sdk owner mint).1) (known : mintAt sdk ledger mint = some state)
    (absent : ledger.accounts associated = none) : createAssociated sdk ledger payer associated owner mint =
      some (openAccount sdk ledger payer associated 0 { mint, owner, state := .initialized }) := by
  have nobody : accountAt sdk ledger associated = none := by rw [accountAt, absent, Option.bind_none]
  rw [createAssociated, if_neg (not_not.mpr derived)]
  simp only [nobody, vacant?, absent, known, bind, Option.bind_some, pure]

theorem createAssociated_found (payer : Pubkey) {associated owner mint : Pubkey} {account : TokenAccount}
    (derived : associated = (Token.associatedTokenAddress sdk owner mint).1)
    (found : accountAt sdk ledger associated = some account) (own : account.owner = owner ∧ account.mint = mint) :
    createAssociated sdk ledger payer associated owner mint = some ledger := by
  rw [createAssociated, if_neg (not_not.mpr derived), found]
  exact if_pos own

theorem mintToChecked_some {mint destination authority : Pubkey} {amount : UInt64} {account : TokenAccount} {state : Mint}
    (found : accountAt sdk ledger destination = some account) (known : mintAt sdk ledger mint = some state)
    (thawed : account.state ≠ .frozen) (wrappedNot : account.isNative = none) (own : account.mint = mint)
    (granted : state.mintAuthority = some authority) (fits : account.amount.toNat + amount.toNat < 2 ^ 64)
    (bounded : state.supply.toNat + amount.toNat < 2 ^ 64) :
    ∃ later, mintToChecked sdk ledger mint destination authority amount state.decimals = some later := by
  simp only [mintToChecked, bind, Option.bind_eq_some_iff, Option.guard_eq_some', pure, Option.some.injEq]
  exact ⟨_, account, found, state, known, (), ⟨thawed, wrappedNot, own, rfl, granted⟩, _, if_pos fits, _, if_pos bounded, rfl⟩

theorem setMintAuthority_some {mint authority : Pubkey} (newAuthority : Option Pubkey) {state : Mint}
    (known : mintAt sdk ledger mint = some state) (granted : state.mintAuthority = some authority) :
    ∃ later, setMintAuthority sdk ledger mint newAuthority authority = some later := by
  simp only [setMintAuthority, bind, Option.bind_eq_some_iff, Option.guard_eq_some', pure, Option.some.injEq]
  exact ⟨_, state, known, (), granted, rfl⟩

end Executable

/-- A created account is blank, so no mint and no token account appears. -/
theorem createAccount_eq_some {payer owner : Pubkey} {lamports space : Nat}
    (executed : processInstruction sdk ledger (.createAccount payer address lamports space owner) = some later) :
    ledger.accounts address = none ∧ later.accounts address = some ⟨lamports, owner, List.replicate space 0, false⟩ ∧
      mintAt sdk later = mintAt sdk ledger ∧ accountAt sdk later = accountAt sdk ledger ∧ Frame ledger later address := by
  simp only [processInstruction] at executed
  split at executed
  next => cases executed
  next absent =>
    cases executed
    have frame : Frame ledger (ledger.create payer address ⟨lamports, owner, List.replicate space 0, false⟩) address :=
      fun _ different => Ledger.create_ne ledger payer _ different
    refine ⟨absent, Ledger.create_self .., ?_, ?_, frame⟩
    · funext other
      by_cases same : other = address
      · rw [same, mintAt, mintAt, Ledger.create_self, absent]
        exact held_zeros rfl rfl
      · exact mintAt_congr (frame other same)
    · funext other
      by_cases same : other = address
      · rw [same, accountAt, accountAt, Ledger.create_self, absent]
        exact held_zeros rfl rfl
      · exact accountAt_congr (frame other same)

/-- A transaction whose first instruction fails does nothing, else the rest follows. -/
theorem processInstructions_cons {instruction : Instruction} {instructions : List Instruction} :
    processInstructions sdk ledger (instruction :: instructions) =
      (processInstruction sdk ledger instruction).bind fun middle => processInstructions sdk middle instructions := rfl

theorem processInstructions_append {first second : List Instruction} : processInstructions sdk ledger (first ++ second) =
    (processInstructions sdk ledger first).bind fun middle => processInstructions sdk middle second :=
  List.foldlM_append ..

/-- An instruction is executed as it is read. -/
theorem processInstruction_of_reads {instruction : Instruction} {meaning : TokenInstruction}
    (reads : instruction.ReadsAs sdk.read meaning) :
    processInstruction sdk ledger instruction = execute sdk ledger meaning := by
  cases instruction with
  | invoke programId accounts data =>
    have understood : sdk.read programId accounts data = some meaning := reads
    rw [processInstruction, understood, Option.bind_some]
  | createAccount => exact reads.elim
  | assign => exact reads.elim

end TokenProgram
end ArchKit
