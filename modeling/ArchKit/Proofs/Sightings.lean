import ArchKit.Effects.Moments
import ArchKit.Proofs.Bookings
import ArchKit.Proofs.Joining
import ArchKit.Sessions

/-! What the readers of a chain return while others change it: every answer was so at a
moment of the command, the answers about several accounts at one and the same moment, and
the decimals of a mint are so for good. -/

namespace ArchKit
open Effects Fallible System Token TokenProgram

namespace TokenProgram
variable {sdk : TokenSdk} {ledger later : Ledger} {mint : Pubkey} {decimals : UInt8}

/-- A mint with these decimals. -/
def Counts (sdk : TokenSdk) (ledger : Ledger) (mint : Pubkey) (decimals : UInt8) : Prop :=
  ∃ state, mintAt sdk ledger mint = some state ∧ state.decimals = decimals

theorem Counts.execute {instruction : TokenInstruction} (counts : Counts sdk ledger mint decimals)
    (executed : execute sdk ledger instruction = some later) : Counts sdk later mint decimals := by
  have updated {named : Pubkey} {found changed : Mint} (listed : mintAt sdk ledger named = some found)
      (mints : mintAt sdk later = Function.update (mintAt sdk ledger) named (some changed)) (same : changed.decimals = found.decimals) :
      Counts sdk later mint decimals := by
    obtain ⟨state, known, counted⟩ := counts
    by_cases here : mint = named
    · subst here
      cases known.symm.trans listed
      exact ⟨changed, by rw [mints, Function.update_self], same.trans counted⟩
    · exact ⟨state, by rw [mints, Function.update_of_ne here, known], counted⟩
  have unchanged (mints : mintAt sdk later = mintAt sdk ledger) : Counts sdk later mint decimals := by
    unfold Counts
    rw [mints]
    exact counts
  cases instruction with
  | initializeMint named mintAuthority freezeAuthority precision =>
    obtain ⟨_, _, _, _, absent, _, mints, _⟩ := initializeMint_eq_some executed
    obtain ⟨state, known, counted⟩ := counts
    have different : mint ≠ named := by
      intro same
      rw [← same, known] at absent
      cases absent
    exact ⟨state, by rw [mints, Function.update_of_ne different, known], counted⟩
  | createAssociated payer associated owner named =>
    rcases (createAssociated_eq_some executed).2 with ⟨same, _⟩ | ⟨_, _, _, _, mints, _⟩
    · exact unchanged (by rw [same])
    · exact unchanged mints
  | mintToChecked named destination authority amount precision =>
    obtain ⟨_, _, _, _, _, listed, _, _, _, _, _, mints, _⟩ := mintToChecked_eq_some executed
    exact updated listed mints rfl
  | setMintAuthority named newAuthority authority =>
    obtain ⟨_, listed, _, mints, _⟩ := setMintAuthority_eq_some executed
    exact updated listed mints rfl
  | transferChecked source named destination authority amount precision =>
    rcases transferChecked_eq_some executed with ⟨_, same⟩ | ⟨_, _, _, _, _, _, _, _, _, _, _, _, _, _, mints, _⟩
    · exact unchanged (by rw [same])
    · exact unchanged mints

theorem Counts.processInstruction {instruction : Instruction} (counts : Counts sdk ledger mint decimals)
    (processed : processInstruction sdk ledger instruction = some later) : Counts sdk later mint decimals := by
  cases instruction with
  | createAccount payer address lamports space owner =>
    obtain ⟨_, _, mints, _⟩ := createAccount_eq_some processed
    unfold Counts
    rw [mints]
    exact counts
  | assign address owner =>
    obtain ⟨state, known, counted⟩ := counts
    obtain ⟨info, present, own, _⟩ := mintAt_eq_some.mp known
    simp only [TokenProgram.processInstruction] at processed
    split at processed
    next account found =>
      split at processed
      next native =>
        cases processed
        have different : mint ≠ address := by
          intro same
          rw [← same, present] at found
          cases found
          exact sdk.programs (own.symm.trans native)
        exact ⟨state, (mintAt_congr (Ledger.store_ne ledger _ different)).trans known, counted⟩
      next => cases processed
    next => cases processed
  | invoke programId accounts data =>
    obtain ⟨meaning, _, executed⟩ := Option.bind_eq_some_iff.mp processed
    exact counts.execute executed

theorem Counts.processInstructions {instructions : List Instruction} (counts : Counts sdk ledger mint decimals)
    (processed : processInstructions sdk ledger instructions = some later) : Counts sdk later mint decimals := by
  induction instructions generalizing ledger with
  | nil =>
    cases processed
    exact counts
  | cons instruction rest ih =>
    rw [processInstructions_cons] at processed
    obtain ⟨middle, first, others⟩ := Option.bind_eq_some_iff.mp processed
    exact ih (counts.processInstruction first) others

end TokenProgram

namespace Session
variable {ι : Type} [DecidableEq ι] {sdk : TokenSdk} {reliable : Prop} {client other : ι} {before after : Session ι}
  {operation : Demand} {reply : toolkit.Reply operation} {mint : Pubkey} {decimals : UInt8}

/-- The screen of one user is nobody else's. -/
theorem Serves.screen {process : Processor} (served : Serves process reliable other before operation reply after) (different : other ≠ client) :
    after.screen client = before.screen client := by
  rcases operation with operation | operation
  · cases operation with
    | getProgramAccounts | getMultipleAccounts => rw [served.1]
    | _ => rw [served.1]
  · cases operation with
    | println line =>
      cases served
      exact Function.update_of_ne (Ne.symm different) ..
    | _ => cases served; rfl

theorem Serves.counts (served : Serves (Node.tokens sdk) reliable client before operation reply after)
    (counts : Counts sdk before.world.ledger mint decimals) : Counts sdk after.world.ledger mint decimals := by
  have still (same : after.world = before.world) : Counts sdk after.world.ledger mint decimals := by
    rw [same]
    exact counts
  rcases operation with operation | operation
  · cases operation with
    | getProgramAccounts | getMultipleAccounts => exact still (by rw [served.1])
    | sendTransaction transaction =>
      rcases served.2 with ⟨lost, _⟩ | ⟨_, ⟨ledger, processed, same⟩ | ⟨reason, same⟩⟩
      · rw [lost]
        exact counts
      · rw [same]
        exact counts.processInstructions processed
      · rw [same]
        exact counts
    | _ => exact still (Node.Serves.still rfl served.2)
  · cases operation with
    | println line => exact still (by rw [show after = _ from served])
    | _ => exact still (by rw [show after = before from served])

/-- Only printing changes a screen. -/
theorem Serves.still_screen {process : Processor} (silent : ∀ line, operation ≠ .inr (.println line))
    (served : Serves process reliable other before operation reply after) : after.screen = before.screen := by
  rcases operation with operation | operation
  · cases operation with
    | getProgramAccounts | getMultipleAccounts => rw [served.1]
    | _ => exact served.1
  · cases operation with
    | println line => exact absurd rfl (silent line)
    | _ => rw [show after = before from served]

end Session

abbrev Sessions (ι : Type) := System toolkit ι (Session ι) (Except CommandError Unit)

section Looking
variable {ι α : Type} [DecidableEq ι] {sdk : TokenSdk} {reliable : Prop} {client : ι} {before middle after : Sessions ι}

/-- The node as one of its users sees it. -/
abbrev desk (sdk : TokenSdk) (reliable : Prop) (client : ι) : Server toolkit (Sessions ι) :=
  among (Session.Serves (Node.tokens sdk) reliable) client

/-- The time passes, and the user prints nothing. -/
structure Passes (sdk : TokenSdk) (reliable : Prop) (client : ι) (before after : Sessions ι) : Prop where
  reaches : Reaches (Session.Serves (Node.tokens sdk) reliable) before after
  screen : after.state.screen client = before.state.screen client

theorem Passes.refl (system : Sessions ι) : Passes sdk reliable client system system := ⟨.refl, rfl⟩

theorem Passes.trans (first : Passes sdk reliable client before middle) (second : Passes sdk reliable client middle after) :
    Passes sdk reliable client before after := ⟨first.reaches.trans second.reaches, second.screen.trans first.screen⟩

/-- At a moment in between, this was so of the ledger. -/
def Saw (sdk : TokenSdk) (reliable : Prop) (client : ι) (fact : Ledger → Prop) (before after : Sessions ι) : Prop :=
  ∃ middle, Passes sdk reliable client before middle ∧ Passes sdk reliable client middle after ∧ fact middle.state.world.ledger

theorem Saw.passes {fact : Ledger → Prop} (saw : Saw sdk reliable client fact before after) : Passes sdk reliable client before after := by
  obtain ⟨_, first, second, _⟩ := saw
  exact first.trans second

theorem Saw.mono {fact weaker : Ledger → Prop} (saw : Saw sdk reliable client fact before after)
    (implies : ∀ ledger, fact ledger → weaker ledger) : Saw sdk reliable client weaker before after := by
  obtain ⟨moment, first, second, holds⟩ := saw
  exact ⟨moment, first, second, implies _ holds⟩

theorem Saw.later {fact : Ledger → Prop} (saw : Saw sdk reliable client fact before middle) (passes : Passes sdk reliable client middle after) :
    Saw sdk reliable client fact before after := by
  obtain ⟨moment, first, second, holds⟩ := saw
  exact ⟨moment, first, second.trans passes, holds⟩

theorem Saw.earlier {fact : Ledger → Prop} (passes : Passes sdk reliable client before middle) (saw : Saw sdk reliable client fact middle after) :
    Saw sdk reliable client fact before after := by
  obtain ⟨moment, first, second, holds⟩ := saw
  exact ⟨moment, passes.trans first, second, holds⟩

theorem Counts.lasts {mint : Pubkey} {decimals : UInt8} (counts : Counts sdk before.state.world.ledger mint decimals)
    (reached : Reaches (Session.Serves (Node.tokens sdk) reliable) before after) :
    Counts sdk after.state.world.ledger mint decimals :=
  Reaches.keeps (fun state => Counts sdk state.world.ledger mint decimals)
    (fun _ _ _ _ _ holds served => Session.Serves.counts served holds) reached counts

/-- A mint that was seen has its decimals for good. -/
theorem Saw.counts {mint : Pubkey} {decimals : UInt8} (saw : Saw sdk reliable client (fun ledger => Counts sdk ledger mint decimals) before after) :
    Counts sdk after.state.world.ledger mint decimals := by
  obtain ⟨moment, _, second, counted⟩ := saw
  exact Counts.lasts counted second.reaches

/-- While a user waits, nothing appears on the screen. -/
theorem waits_screen (waited : Waits (Session.Serves (Node.tokens sdk) reliable) client before after) :
    after.state.screen client = before.state.screen client :=
  Waits.unchanged (fun state => state.screen client) (fun _ different _ _ _ _ served => Session.Serves.screen served different) waited

/-- What an answer tells, was so when it was given. -/
theorem desk_saw {operation : Demand} {reply : toolkit.Reply operation} {fact : Ledger → Prop}
    (silent : ∀ line, operation ≠ .inr (.println line)) (served : desk sdk reliable client before operation reply after)
    (tells : ∀ state later, Session.Serves (Node.tokens sdk) reliable client state operation reply later → fact state.world.ledger) :
    Saw sdk reliable client fact before after := by
  obtain ⟨middle, waited, moved⟩ := served
  have step := moved.step
  obtain ⟨_, _, answered, _⟩ := moved
  exact ⟨middle, ⟨waited.reaches, waits_screen waited⟩, ⟨.single step, congrFun (Session.Serves.still_screen silent answered) client⟩,
    tells _ _ answered⟩

abbrev cliDesk (sdk : TokenSdk) (reliable : Prop) (client : ι) : Server api (Sessions ι) :=
  Server.left (I := api) (J := calls) (desk sdk reliable client)

theorem Cli.rpc_delivers (outcome : Except ArchError α) : Delivers (cliDesk sdk reliable client) (Cli.rpc outcome)
    fun value before after => outcome = .ok value ∧ after = before := by
  intro before
  cases outcome with
  | ok value =>
    intro other same
    cases same
    exact ⟨rfl, rfl⟩
  | error error => exact fun other same => by cases same

/-- The reply is true of the ledger. -/
def Answers (address : Pubkey) (ledger : Ledger) : Except ArchError AccountInfo → Prop
  | .ok account => ledger.accounts address = some account
  | .error (.notFound _) => ledger.accounts address = none
  | .error _ => True

theorem account_saw {address : Pubkey} {reply : Except ArchError AccountInfo}
    (served : desk sdk reliable client before (.inl (.readAccountInfo address)) reply after) :
    Saw sdk reliable client (Answers address · reply) before after := by
  apply desk_saw (fun _ same => by cases same) served
  intro state later answered
  cases reply with
  | ok account => exact answered.2.2
  | error error =>
    cases error with
    | notFound message => exact answered.2.2
    | transactionError message => trivial
    | other message => trivial

theorem Cli.readAccountInfo_delivers (address : Pubkey) : Delivers (cliDesk sdk reliable client) (Cli.readAccountInfo address)
    fun reply before after => Saw sdk reliable client (Answers address · reply) before after :=
  (Delivers.perform (I := api) _).mono fun _ _ _ served => account_saw served

theorem Tool.readAccountInfo_delivers (address : Pubkey) :
    Delivers (desk sdk reliable client) (Tool.request (.readAccountInfo address))
      fun reply before after => Saw sdk reliable client (Answers address · reply) before after :=
  (Delivers.perform (I := toolkit) _).mono fun _ _ _ served => account_saw served

/-- What is read and decoded is an account of the ledger. -/
theorem read_delivers (address : Pubkey) (decode : AccountInfo → Except CliError α) : Delivers (cliDesk sdk reliable client) (do
      let info ← Cli.rpc (← Cli.readAccountInfo address)
      Fallible.ofExcept (decode info))
    fun value before after => Saw sdk reliable client
      (fun ledger => ∃ info, ledger.accounts address = some info ∧ decode info = .ok value) before after := by
  apply ((Cli.readAccountInfo_delivers address).bind fun reply => (Cli.rpc_delivers reply).bind fun info =>
    Delivers.ofExcept (decode info)).mono
  intro value before after steps
  obtain ⟨reply, _, saw, info, _, ⟨answered, still⟩, decoded, same⟩ := steps
  subst answered still same
  exact saw.mono fun ledger found => ⟨info, found, decoded⟩

theorem decodeMint_address {address : Pubkey} {info : AccountInfo} {view : MintView} (decoded : decodeMint sdk address info = .ok view) :
    view.address = address := by
  simp only [decodeMint, bind_eq_ok] at decoded
  obtain ⟨_, _, decoded⟩ := decoded
  split at decoded
  next => cases decoded
  next =>
    obtain ⟨state, _, same⟩ := bind_eq_ok.mp decoded
    cases same
    rfl

theorem readMint_delivers (address : Pubkey) : Delivers (cliDesk sdk reliable client) (readMint sdk address)
    fun view before after => Saw sdk reliable client (fun ledger => view.address = address ∧ mintAt sdk ledger address = some view.state)
      before after := by
  apply (read_delivers address (decodeMint sdk address)).mono
  intro view before after saw
  apply saw.mono
  intro ledger found
  obtain ⟨info, present, decoded⟩ := found
  exact ⟨decodeMint_address decoded, by rw [mintAt, present]; exact decodeMint_ok decoded⟩

theorem readTokenAccountState_delivers (address : Pubkey) : Delivers (cliDesk sdk reliable client) (readTokenAccountState sdk address)
    fun account before after => Saw sdk reliable client (fun ledger => accountAt sdk ledger address = some account) before after := by
  apply (read_delivers address (decodeTokenAccount sdk address)).mono
  intro account before after saw
  apply saw.mono
  intro ledger found
  obtain ⟨info, present, decoded⟩ := found
  rw [accountAt, present]
  exact decodeTokenAccount_ok decoded

theorem readTokenAccount_delivers (address : Pubkey) : Delivers (cliDesk sdk reliable client) (readTokenAccount sdk address)
    fun view before after => Saw sdk reliable client (fun ledger => view.address = address ∧ accountAt sdk ledger address = some view.state)
        before after ∧
      Saw sdk reliable client (fun ledger => Counts sdk ledger view.state.mint view.mint.state.decimals) before after := by
  apply ((readTokenAccountState_delivers address).bind fun state => (readMint_delivers state.mint).bind fun mint =>
    Delivers.pure (TokenAccountView.mk address state mint)).mono
  intro view before after steps
  obtain ⟨state, middle, saw, mint, _, found, same, still⟩ := steps
  subst same still
  exact ⟨(saw.later found.passes).mono fun ledger holds => ⟨rfl, holds⟩,
    (found.mono fun ledger holds => ⟨mint.state, holds.2, rfl⟩).earlier saw.passes⟩

/-- The associated account of an owner, if there is one. -/
def Owned (sdk : TokenSdk) (owner mintAddress address : Pubkey) (ledger : Ledger) : Option TokenAccount → Prop
  | some account => accountAt sdk ledger address = some account ∧ account.mint = mintAddress ∧ account.owner = owner
  | none => ledger.accounts address = none

theorem associatedState_owned {owner mintAddress address : Pubkey} {reply : Except ArchError AccountInfo} {ledger : Ledger}
    {account : Option TokenAccount} (associated : associatedState sdk owner mintAddress address reply = .ok account)
    (answers : Answers address ledger reply) : Owned sdk owner mintAddress address ledger account := by
  cases reply with
  | ok info =>
    obtain ⟨state, decoded, kept⟩ := bind_eq_ok.mp associated
    split at kept
    next => cases kept
    next own =>
      cases kept
      rw [not_or, not_not, not_not] at own
      have present : ledger.accounts address = some info := answers
      refine ⟨?_, own.1, own.2⟩
      rw [accountAt, present]
      exact decodeTokenAccount_ok (wrapError_eq_ok.mp decoded)
  | error error =>
    cases error with
    | notFound message =>
      cases associated
      exact answers
    | transactionError message => cases associated
    | other message => cases associated

theorem readAssociatedBalance_delivers (owner mintAddress : Pubkey) :
    Delivers (cliDesk sdk reliable client) (readAssociatedBalance sdk owner mintAddress)
      fun found before after => found.1 = (associatedTokenAddress sdk owner mintAddress).1 ∧
        Saw sdk reliable client (fun ledger => Owned sdk owner mintAddress found.1 ledger found.2.2) before after ∧
        Saw sdk reliable client (fun ledger => Counts sdk ledger mintAddress found.2.1.state.decimals) before after := by
  apply ((readMint_delivers mintAddress).wrap.bind fun mint => (Cli.readAccountInfo_delivers _).wrap.bind fun reply =>
    (Delivers.ofExcept (associatedState sdk owner mintAddress _ reply)).bind fun account =>
      Delivers.pure ((associatedTokenAddress sdk owner mintAddress).1, mint, account)).mono
  intro found before after steps
  obtain ⟨mint, middle, first, reply, _, second, account, _, ⟨decoded, still⟩, same, unmoved⟩ := steps
  subst same unmoved still
  refine ⟨rfl, ?_, ?_⟩
  · exact (second.mono fun ledger answers => associatedState_owned decoded answers).earlier first.passes
  · exact (first.mono fun ledger holds => ⟨mint.state, holds.2, rfl⟩).later second.passes

theorem several_zip {ledger : Ledger} {batch : List Pubkey} {address : Pubkey} {info : AccountInfoWithPubkey}
    (member : (address, some info) ∈ batch.zip (ledger.several batch)) : ledger.accounts address = some info.toAccountInfo := by
  unfold Ledger.several at member
  rw [← List.map_prod_left_eq_zip] at member
  obtain ⟨_, _, same⟩ := List.mem_map.mp member
  obtain ⟨own, found⟩ := Prod.mk.inj same
  rw [own] at found
  obtain ⟨held, present, same⟩ := Option.map_eq_some_iff.mp found
  rw [present, ← same]

theorem Cli.getMultipleAccounts_delivers (batch : List Pubkey) : Delivers (cliDesk sdk reliable client) (Cli.getMultipleAccounts batch)
    fun reply before after => Saw sdk reliable client (fun ledger => ∀ infos, reply = .ok infos → infos = ledger.several batch) before after :=
  (Delivers.perform (I := api) _).mono fun _ _ _ served => desk_saw (fun _ same => by cases same) served fun _ _ answered => answered.2

theorem fetchMints_delivers (batches : List (List Pubkey)) (mints : Pubkey → Option MintView) :
    Delivers (cliDesk sdk reliable client) (fetchMints sdk batches mints) fun fetched before after =>
      Passes sdk reliable client before after ∧ ∀ address view, fetched address = some view → mints address = some view ∨
        Saw sdk reliable client (fun ledger => Counts sdk ledger address view.state.decimals) before after := by
  induction batches generalizing mints with
  | nil =>
    unfold fetchMints
    intro before fetched same
    cases same
    exact ⟨.refl _, fun _ _ found => .inl found⟩
  | cons batch rest ih =>
    unfold fetchMints
    apply ((Cli.getMultipleAccounts_delivers batch).bind fun reply => (Cli.rpc_delivers reply).bind fun infos =>
      (Delivers.ofExcept (insertMints sdk (batch.zip infos) mints)).bind fun entered => ih entered).mono
    intro fetched before after steps
    obtain ⟨reply, middle, saw, infos, _, ⟨answered, still⟩, entered, _, ⟨inserted, unmoved⟩, passes, known⟩ := steps
    subst still unmoved
    refine ⟨saw.passes.trans passes, ?_⟩
    intro address view found
    rcases known address view found with early | late
    · rcases insertMints_sound inserted early with before | ⟨info, member, decoded⟩
      · exact .inl before
      · refine .inr ((saw.mono ?_).later passes)
        intro ledger several
        rw [several infos answered] at member
        exact ⟨view.state, by rw [mintAt, several_zip member]; exact decodeMint_ok decoded, rfl⟩
    · exact .inr (late.earlier saw.passes)

/-- All token accounts of an owner, in the order of their addresses. -/
structure Showing (sdk : TokenSdk) (owner : Pubkey) (views : List TokenAccountView) (ledger : Ledger) : Prop where
  sorted : (views.map TokenAccountView.address).Pairwise (· ≤ ·)
  once : (views.map TokenAccountView.address).Nodup
  complete : ∀ address, address ∈ views.map TokenAccountView.address ↔ ∃ info, ledger.accounts address = some info ∧
    info.owner = sdk.tokenProgram ∧ info.data.length = sdk.accounts.len ∧ (info.data.drop 32).take owner.bytes.length = owner.bytes
  held : ∀ view ∈ views, accountAt sdk ledger view.address = some view.state

/-- Each view is of a listed account, with the mint that was fetched for it. -/
theorem joined_views {sorted : List ProgramAccount} {decoded : List (Pubkey × TokenAccount)} {views : List TokenAccountView}
    {mints : Pubkey → Option MintView}
    (decodes : List.Forall₂ (fun account pair => (decodeTokenAccount sdk account.pubkey account.account).map
      (fun state => (account.pubkey, state)) = .ok pair) sorted decoded)
    (joins : List.Forall₂ (fun account view => joinMint mints account = .ok view) decoded views) :
    views.map TokenAccountView.address = sorted.map ProgramAccount.pubkey ∧ ∀ view ∈ views,
      mints view.state.mint = some view.mint ∧ ∃ account ∈ sorted, account.pubkey = view.address ∧
        decodeTokenAccount sdk account.pubkey account.account = .ok view.state := by
  induction decodes generalizing views with
  | nil =>
    cases joins
    exact ⟨rfl, fun _ member => by cases member⟩
  | @cons account pair _ _ first _ ih =>
    cases joins with
    | cons now others =>
      obtain ⟨addresses, shown⟩ := ih others
      obtain ⟨known, same⟩ := joinMint_eq_ok.mp now
      subst same
      cases read : decodeTokenAccount sdk account.pubkey account.account with
      | error error =>
        rw [read] at first
        cases first
      | ok state =>
        rw [read] at first
        obtain ⟨address, own⟩ := Prod.mk.inj (Except.ok.inj first)
        refine ⟨?_, ?_⟩
        · rw [List.map_cons, List.map_cons, addresses, address]
        · intro view member
          rcases List.mem_cons.mp member with here | inside
          · subst here
            exact ⟨known, account, List.mem_cons_self, address, by rw [read, own]⟩
          · obtain ⟨mint, other, within, rest⟩ := shown view inside
            exact ⟨mint, other, List.mem_cons_of_mem _ within, rest⟩

theorem showing_of_lists {owner : Pubkey} {ledger : Ledger} {accounts sorted : List ProgramAccount} {views : List TokenAccountView}
    (lists : ledger.Lists sdk.tokenProgram [.dataSize sdk.accounts.len, .dataContent 32 owner.bytes] accounts)
    (permuted : sorted.Perm accounts) (ordered : sorted.Pairwise (·.pubkey ≤ ·.pubkey))
    (addresses : views.map TokenAccountView.address = sorted.map ProgramAccount.pubkey)
    (shown : ∀ view ∈ views, ∃ account ∈ sorted, account.pubkey = view.address ∧
      decodeTokenAccount sdk account.pubkey account.account = .ok view.state) : Showing sdk owner views ledger where
  sorted := by
    rw [addresses, List.pairwise_map]
    exact ordered
  once := by
    rw [addresses]
    exact (permuted.map _).nodup_iff.mpr lists.once
  complete address := by
    rw [addresses, List.mem_map]
    constructor
    · intro found
      obtain ⟨account, member, same⟩ := found
      obtain ⟨present, own, passed⟩ := (lists.complete account).mp (permuted.mem_iff.mp member)
      exact ⟨account.account, same ▸ present, own, passed _ List.mem_cons_self, passed _ (List.mem_cons_of_mem _ List.mem_cons_self)⟩
    · intro found
      obtain ⟨info, present, own, size, content⟩ := found
      refine ⟨⟨address, info⟩, permuted.mem_iff.mpr ((lists.complete _).mpr ⟨present, own, ?_⟩), rfl⟩
      intro filter member
      rcases List.mem_cons.mp member with same | rest
      · rw [same]
        exact size
      · rw [List.mem_singleton.mp rest]
        exact content
  held view member := by
    obtain ⟨account, inside, same, decoded⟩ := shown view member
    obtain ⟨present, _⟩ := (lists.complete account).mp (permuted.mem_iff.mp inside)
    rw [accountAt, ← same, present]
    exact decodeTokenAccount_ok decoded

theorem Cli.getProgramAccounts_delivers (program : Pubkey) (filters : List AccountFilter) :
    Delivers (cliDesk sdk reliable client) (Cli.getProgramAccounts program (some filters)) fun reply before after =>
      Saw sdk reliable client (fun ledger => ∀ accounts, reply = .ok accounts → ledger.Lists program filters accounts) before after :=
  (Delivers.perform (I := api) _).mono fun _ _ _ served => desk_saw (fun _ same => by cases same) served fun _ _ answered => answered.2

theorem listTokenAccounts_delivers (owner : Pubkey) : Delivers (cliDesk sdk reliable client) (listTokenAccounts sdk owner)
    fun views before after => Saw sdk reliable client (Showing sdk owner views) before after ∧
      ∀ view ∈ views, Saw sdk reliable client (fun ledger => Counts sdk ledger view.state.mint view.mint.state.decimals) before after := by
  apply ((Cli.getProgramAccounts_delivers sdk.tokenProgram [.dataSize sdk.accounts.len, .dataContent 32 owner.bytes]).bind fun reply =>
    (Cli.rpc_delivers reply).bind fun accounts => (Delivers.ofExcept (decodeAll sdk accounts)).bind fun decoded =>
      (fetchMints_delivers (Idl.chunks rpcAccountBatchSize (distinctKeys (decoded.map (·.2.mint)))) fun _ => none).bind fun mints =>
        Delivers.ofExcept (decoded.mapM (joinMint mints))).mono
  intro views before after steps
  obtain ⟨reply, middle, saw, accounts, _, ⟨answered, still⟩, decoded, _, ⟨all, unmoved⟩, mints, later, ⟨passes, known⟩, joined, same⟩ := steps
  subst still unmoved same
  obtain ⟨addresses, shown⟩ := joined_views (mapM_eq_ok.mp all) (mapM_eq_ok.mp joined)
  constructor
  · apply (saw.later passes).mono
    intro ledger lists
    exact showing_of_lists (lists accounts answered) (List.perm_insertionSort _ accounts) (sorted_pairwise accounts) addresses
      fun view member => (shown view member).2
  · intro view member
    rcases known _ _ (shown view member).1 with absent | found
    · cases absent
    · exact found.earlier saw.passes

end Looking
end ArchKit
