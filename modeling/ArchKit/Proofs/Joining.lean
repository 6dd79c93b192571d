import ArchKit.Proofs.Exchanges
import ArchKit.Proofs.Prepared
import ArchKit.Proofs.ProgramAccount
import ArchKit.TokenListing
import ArchKit.TokenReference
import Mathlib.Data.List.Forall2

/-! The token accounts of an owner and their mints, against a node that may answer any batch
too briefly, at too great a length or with gaps. -/

namespace ArchKit
open Effects Idl Fallible

instance : Std.Total (α := Pubkey) (· ≤ ·) := ⟨fun first second => List.le_total first.bytes second.bytes⟩

theorem mapM_eq_ok {α β ε : Type} {f : α → Except ε β} {items : List α} {values : List β} :
    items.mapM f = .ok values ↔ List.Forall₂ (fun item value => f item = .ok value) items values := by
  induction items generalizing values with
  | nil =>
    rw [List.mapM_nil, List.forall₂_nil_left_iff]
    constructor
    · intro same
      cases same
      rfl
    · intro empty
      subst empty
      rfl
  | cons item rest ih =>
    rw [List.mapM_cons, List.forall₂_cons_left_iff, bind_eq_ok]
    constructor
    · intro split
      obtain ⟨value, first, others⟩ := split
      obtain ⟨values', later, same⟩ := bind_eq_ok.mp others
      cases same
      exact ⟨value, values', first, ih.mp later, rfl⟩
    · intro split
      obtain ⟨value, values', first, later, same⟩ := split
      subst same
      exact ⟨value, first, bind_eq_ok.mpr ⟨values', ih.mpr later, rfl⟩⟩

theorem mapM_succeeds {α β ε : Type} {f : α → Except ε β} {items : List α} :
    (∃ values, items.mapM f = .ok values) ↔ ∀ item ∈ items, ∃ value, f item = .ok value := by
  simp only [mapM_eq_ok]
  induction items with
  | nil => exact iff_of_true ⟨[], .nil⟩ (fun _ member => by cases member)
  | cons item rest ih =>
    rw [List.forall_mem_cons, ← ih]
    constructor
    · intro all
      obtain ⟨values, all⟩ := all
      cases all with
      | cons first others => exact ⟨⟨_, first⟩, _, others⟩
    · intro all
      obtain ⟨⟨value, first⟩, values, others⟩ := all
      exact ⟨value :: values, .cons first others⟩

namespace Token
variable {sdk : TokenSdk} {entries : List (Pubkey × Option AccountInfoWithPubkey)} {mints after : Pubkey → Option MintView}

/-- An answer that a mint can be read from. -/
def Legible (sdk : TokenSdk) (address : Pubkey) (answer : Option AccountInfoWithPubkey) : Prop :=
  ∃ info mint, answer = some info ∧ decodeMint sdk address info.toAccountInfo = .ok mint

theorem insertMints_legible (inserted : insertMints sdk entries mints = .ok after) :
    ∀ entry ∈ entries, Legible sdk entry.1 entry.2 := by
  fun_induction insertMints sdk entries mints with
  | case1 => exact fun _ member => by cases member
  | case2 address info rest mints ih =>
    obtain ⟨mint, decoded, inserted⟩ := bind_eq_ok.mp inserted
    intro entry member
    rcases List.mem_cons.mp member with same | later
    · subst same
      exact ⟨info, mint, rfl, decoded⟩
    · exact ih mint inserted entry later
  | case3 => cases inserted

theorem insertMints_accepts (mints : Pubkey → Option MintView) (legible : ∀ entry ∈ entries, Legible sdk entry.1 entry.2) :
    ∃ after, insertMints sdk entries mints = .ok after := by
  fun_induction insertMints sdk entries mints with
  | case1 mints => exact ⟨mints, rfl⟩
  | case2 address info rest mints ih =>
    obtain ⟨_, mint, same, decoded⟩ := legible (address, some info) List.mem_cons_self
    cases same
    obtain ⟨after, inserted⟩ := ih mint (fun entry member => legible entry (List.mem_cons_of_mem _ member))
    exact ⟨after, bind_eq_ok.mpr ⟨mint, decoded, inserted⟩⟩
  | case3 address rest mints =>
    obtain ⟨_, _, same, _⟩ := legible (address, none) List.mem_cons_self
    cases same

/-- Only the addresses of a batch are entered. -/
theorem insertMints_frame (inserted : insertMints sdk entries mints = .ok after) {address : Pubkey}
    (outside : address ∉ entries.map Prod.fst) : after address = mints address := by
  fun_induction insertMints sdk entries mints with
  | case1 => cases inserted; rfl
  | case2 other info rest mints ih =>
    obtain ⟨mint, _, inserted⟩ := bind_eq_ok.mp inserted
    rw [List.map_cons, List.mem_cons, not_or] at outside
    rw [ih mint inserted outside.2, Function.update_of_ne outside.1]
  | case3 => cases inserted

/-- A mint that is entered was read from the answer about its own address. -/
theorem insertMints_sound (inserted : insertMints sdk entries mints = .ok after) {address : Pubkey} {mint : MintView}
    (found : after address = some mint) : mints address = some mint ∨
      ∃ info, (address, some info) ∈ entries ∧ decodeMint sdk address info.toAccountInfo = .ok mint := by
  fun_induction insertMints sdk entries mints with
  | case1 => cases inserted; exact .inl found
  | case2 other info rest mints ih =>
    obtain ⟨view, decoded, inserted⟩ := bind_eq_ok.mp inserted
    rcases ih view inserted with earlier | ⟨answer, member, read⟩
    · by_cases same : address = other
      · subst same
        rw [Function.update_self] at earlier
        cases earlier
        exact .inr ⟨info, List.mem_cons_self, decoded⟩
      · rw [Function.update_of_ne same] at earlier
        exact .inl earlier
    · exact .inr ⟨answer, List.mem_cons_of_mem _ member, read⟩
  | case3 => cases inserted

theorem insertMints_covers (inserted : insertMints sdk entries mints = .ok after) {address : Pubkey}
    (entered : (mints address).isSome ∨ address ∈ entries.map Prod.fst) : (after address).isSome := by
  fun_induction insertMints sdk entries mints with
  | case1 =>
    cases inserted
    exact entered.resolve_right (List.not_mem_nil)
  | case2 other info rest mints ih =>
    obtain ⟨mint, _, inserted⟩ := bind_eq_ok.mp inserted
    apply ih mint inserted
    by_cases same : address = other
    · subst same
      exact .inl (by rw [Function.update_self]; rfl)
    · rw [Function.update_of_ne same]
      exact entered.imp_right fun member => (List.mem_cons.mp member).resolve_left same
  | case3 => cases inserted

/-- The answers to a batch stand at the places of their addresses. -/
def InOrder (held : Pubkey → Option AccountInfo) (exchange : Exchange api) : Prop :=
  ∀ batch infos, exchange = ⟨.getMultipleAccounts batch, .ok infos⟩ → ∀ (index : Nat) address info,
    batch[index]? = some address → infos[index]? = some (some info) → held address = some info.toAccountInfo

/-- Every address of a batch is answered with a mint. -/
def Complete (sdk : TokenSdk) (exchange : Exchange api) : Prop :=
  ∃ batch infos, exchange = ⟨.getMultipleAccounts batch, .ok infos⟩ ∧ ∀ (index : Nat) address,
    batch[index]? = some address → ∃ answer, infos[index]? = some answer ∧ Legible sdk address answer

section Batch
variable {held : Pubkey → Option AccountInfo} {batch : List Pubkey} {infos : List (Option AccountInfoWithPubkey)}

theorem InOrder.zip (ordered : InOrder held ⟨.getMultipleAccounts batch, .ok infos⟩) {address : Pubkey}
    {info : AccountInfoWithPubkey} (member : (address, some info) ∈ batch.zip infos) : held address = some info.toAccountInfo := by
  obtain ⟨index, found⟩ := List.mem_iff_getElem?.mp member
  obtain ⟨asked, answered⟩ := List.getElem?_zip_eq_some.mp found
  exact ordered batch infos rfl index address info asked answered

theorem complete_iff : Complete sdk ⟨.getMultipleAccounts batch, .ok infos⟩ ↔
    batch.length ≤ infos.length ∧ ∀ entry ∈ batch.zip infos, Legible sdk entry.1 entry.2 := by
  constructor
  · intro complete
    obtain ⟨_, _, same, answers⟩ := complete
    cases same
    constructor
    · by_contra short
      have inside : infos.length < batch.length := Nat.lt_of_not_le short
      obtain ⟨answer, found, _⟩ := answers infos.length batch[infos.length] (List.getElem?_eq_getElem inside)
      rw [List.getElem?_eq_none (Nat.le_refl _)] at found
      cases found
    · intro entry member
      obtain ⟨index, found⟩ := List.mem_iff_getElem?.mp member
      obtain ⟨asked, answered⟩ := List.getElem?_zip_eq_some.mp found
      obtain ⟨answer, also, legible⟩ := answers index entry.1 asked
      cases answered.symm.trans also
      exact legible
  · intro answered
    obtain ⟨long, legible⟩ := answered
    refine ⟨batch, infos, rfl, ?_⟩
    intro index address asked
    obtain ⟨inside, _⟩ := List.getElem?_eq_some_iff.mp asked
    have there := List.getElem?_eq_getElem (Nat.lt_of_lt_of_le inside long)
    exact ⟨infos[index], there, legible (address, infos[index])
      (List.mem_iff_getElem?.mpr ⟨index, List.getElem?_zip_eq_some.mpr ⟨asked, there⟩⟩)⟩

end Batch

section Fetching
variable {held : Pubkey → Option AccountInfo} {batch : List Pubkey} {batches : List (List Pubkey)}
  {trace : List (Exchange api)} {outcome : Except CliError (Pubkey → Option MintView)}

/-- One batch: its answers are entered, or they are not complete and nothing more is asked. -/
theorem traces_fetchMints_cons (traced : Traces (fetchMints sdk (batch :: batches) mints) trace outcome) :
    ∃ reply later, trace = ⟨.getMultipleAccounts batch, reply⟩ :: later ∧
      ((∃ infos middle, reply = .ok infos ∧ insertMints sdk (batch.zip infos) mints = .ok middle ∧
          Traces (fetchMints sdk batches middle) later outcome) ∨
        later = [] ∧ (∃ error, outcome = .error error) ∧ ¬Complete sdk ⟨.getMultipleAccounts batch, reply⟩) := by
  obtain ⟨reply, later, split, answered⟩ := traces_perform.mp traced
  refine ⟨reply, later, split, ?_⟩
  rcases traces_rpc.mp answered with ⟨infos, known, entering⟩ | ⟨error, failed, empty, ended⟩
  swap
  · subst failed
    refine .inr ⟨empty, ⟨_, ended⟩, ?_⟩
    intro complete
    obtain ⟨_, _, same, _⟩ := complete
    cases same
  cases inserted : insertMints sdk (batch.zip infos) mints with
  | ok middle =>
    rw [inserted] at entering
    exact .inl ⟨infos, middle, known, inserted, entering⟩
  | error error =>
    rw [inserted] at entering
    cases entering
    refine .inr ⟨rfl, ⟨error, rfl⟩, ?_⟩
    intro complete
    subst known
    obtain ⟨_, entered⟩ := insertMints_accepts mints (complete_iff.mp complete).2
    cases inserted.symm.trans entered

theorem traces_fetchMints_ok (traced : Traces (fetchMints sdk batches mints) trace (.ok after))
    (ordered : ∀ exchange ∈ trace, InOrder held exchange) :
    trace.map Exchange.operation = batches.map Request.getMultipleAccounts ∧
      ∀ address mint, after address = some mint →
        mints address = some mint ∨ ∃ info, held address = some info ∧ decodeMint sdk address info = .ok mint := by
  induction batches generalizing mints trace with
  | nil =>
    obtain ⟨empty, same⟩ := traces_pure.mp traced
    cases same
    subst empty
    exact ⟨rfl, fun address mint found => .inl found⟩
  | cons batch rest ih =>
    obtain ⟨reply, later, split, either⟩ := traces_fetchMints_cons traced
    subst split
    rcases either with ⟨infos, middle, known, inserted, continued⟩ | ⟨_, ⟨error, failed⟩, _⟩
    swap
    · cases failed
    subst known
    obtain ⟨asked, sound⟩ := ih continued (fun exchange member => ordered exchange (List.mem_cons_of_mem _ member))
    refine ⟨congrArg (Request.getMultipleAccounts batch :: ·) asked, ?_⟩
    intro address mint found
    rcases sound address mint found with earlier | known
    · rcases insertMints_sound inserted earlier with before | ⟨info, member, decoded⟩
      · exact .inl before
      · exact .inr ⟨_, (ordered _ List.mem_cons_self).zip member, decoded⟩
    · exact .inr known

theorem traces_fetchMints_complete (traced : Traces (fetchMints sdk batches mints) trace outcome)
    (complete : ∀ exchange ∈ trace, Complete sdk exchange) :
    ∃ after, outcome = .ok after ∧ ∀ address, (mints address).isSome ∨ address ∈ batches.flatten → (after address).isSome := by
  induction batches generalizing mints trace with
  | nil =>
    obtain ⟨_, ended⟩ := traces_pure.mp traced
    exact ⟨mints, ended, fun address entered => entered.resolve_right List.not_mem_nil⟩
  | cons batch rest ih =>
    obtain ⟨reply, later, split, either⟩ := traces_fetchMints_cons traced
    subst split
    rcases either with ⟨infos, middle, known, inserted, continued⟩ | ⟨_, _, incomplete⟩
    swap
    · exact absurd (complete _ List.mem_cons_self) incomplete
    subst known
    obtain ⟨after, ended, covers⟩ := ih continued (fun exchange member => complete exchange (List.mem_cons_of_mem _ member))
    refine ⟨after, ended, ?_⟩
    intro address entered
    have whole : (batch.zip infos).map Prod.fst = batch := List.map_fst_zip (complete_iff.mp (complete _ List.mem_cons_self)).1
    apply covers address
    rw [List.flatten_cons, List.mem_append, ← or_assoc] at entered
    rcases entered with first | later
    · exact .inl (insertMints_covers inserted (whole.symm ▸ first))
    · exact .inr later

theorem traces_fetchMints_frame (traced : Traces (fetchMints sdk batches mints) trace (.ok after)) {address : Pubkey}
    (outside : address ∉ batches.flatten) : after address = mints address := by
  induction batches generalizing mints trace with
  | nil =>
    cases (traces_pure.mp traced).2
    rfl
  | cons batch rest ih =>
    obtain ⟨_, _, _, either⟩ := traces_fetchMints_cons traced
    rcases either with ⟨infos, middle, _, inserted, continued⟩ | ⟨_, ⟨error, failed⟩, _⟩
    swap
    · cases failed
    rw [List.flatten_cons, List.mem_append, not_or] at outside
    rw [ih continued outside.2, insertMints_frame inserted]
    intro member
    obtain ⟨entry, listed, same⟩ := List.mem_map.mp member
    exact outside.1 (same ▸ (List.of_mem_zip listed).1)

/-- No answer is missing where every address has got its mint. -/
theorem traces_fetchMints_answers (traced : Traces (fetchMints sdk batches mints) trace (.ok after))
    (distinct : batches.flatten.Nodup) (entered : ∀ address ∈ batches.flatten, mints address = none ∧ (after address).isSome) :
    ∀ exchange ∈ trace, Complete sdk exchange := by
  induction batches generalizing mints trace with
  | nil =>
    rw [(traces_pure.mp traced).1]
    exact fun _ member => by cases member
  | cons batch rest ih =>
    obtain ⟨reply, later, split, either⟩ := traces_fetchMints_cons traced
    rcases either with ⟨infos, middle, known, inserted, continued⟩ | ⟨_, ⟨error, failed⟩, _⟩
    swap
    · cases failed
    subst split known
    rw [List.flatten_cons] at distinct entered
    obtain ⟨single, others, apart⟩ := List.nodup_append.mp distinct
    have long : batch.length ≤ infos.length := by
      by_contra short
      have inside : infos.length < batch.length := Nat.lt_of_not_le short
      obtain ⟨new, got⟩ := entered batch[infos.length] (List.mem_append_left _ (List.getElem_mem inside))
      rw [traces_fetchMints_frame continued (fun member => apart _ (List.getElem_mem inside) _ member rfl),
        insertMints_frame inserted, new] at got
      · cases got
      · intro member
        obtain ⟨entry, listed, same⟩ := List.mem_map.mp member
        obtain ⟨index, found⟩ := List.mem_iff_getElem?.mp listed
        obtain ⟨asked, answered⟩ := List.getElem?_zip_eq_some.mp found
        obtain ⟨bounded, shown⟩ := List.getElem?_eq_some_iff.mp asked
        obtain ⟨earlier, _⟩ := List.getElem?_eq_some_iff.mp answered
        exact absurd (single.getElem_inj_iff.mp (shown.trans same)) (Nat.ne_of_lt earlier)
    intro exchange member
    rcases List.mem_cons.mp member with same | rest
    · subst same
      exact complete_iff.mpr ⟨long, insertMints_legible inserted⟩
    · refine ih continued others ?_ exchange rest
      intro address asked
      obtain ⟨new, got⟩ := entered address (List.mem_append_right _ asked)
      refine ⟨?_, got⟩
      rw [insertMints_frame inserted, new]
      intro member
      obtain ⟨entry, listed, same⟩ := List.mem_map.mp member
      exact apart address (same ▸ (List.of_mem_zip listed).1) address asked rfl

end Fetching

/-- What is shown of an account: what its own data says, and what is known of the mint it names. -/
structure Shows (sdk : TokenSdk) (held : Pubkey → Option AccountInfo) (account : ProgramAccount) (view : TokenAccountView) :
    Prop where
  address : view.address = account.pubkey
  state : decodeTokenAccount sdk account.pubkey account.account = .ok view.state
  mint : ∃ info, held view.state.mint = some info ∧ decodeMint sdk view.state.mint info = .ok view.mint

/-- All of the accounts are shown, in the order of their addresses. -/
def Joined (sdk : TokenSdk) (held : Pubkey → Option AccountInfo) (accounts : List ProgramAccount)
    (views : List TokenAccountView) : Prop :=
  ∃ sorted, sorted.Perm accounts ∧ sorted.Pairwise (·.pubkey ≤ ·.pubkey) ∧ List.Forall₂ (Shows sdk held) sorted views

section Listing
variable {held : Pubkey → Option AccountInfo} {owner : Pubkey} {accounts : List ProgramAccount}
  {decoded : List (Pubkey × TokenAccount)} {views : List TokenAccountView} {trace : List (Exchange api)}
  {outcome : Except CliError (List TokenAccountView)}

theorem mem_distinctKeys {keys : List Pubkey} {key : Pubkey} : key ∈ distinctKeys keys ↔ key ∈ keys := by
  rw [distinctKeys, List.mem_insertionSort, List.mem_dedup]

theorem distinctKeys_nodup (keys : List Pubkey) : (distinctKeys keys).Nodup :=
  (List.perm_insertionSort _ _).nodup_iff.mpr (List.nodup_dedup keys)

/-- The accounts in order, each with its state. -/
abbrev decodeAll (sdk : TokenSdk) (accounts : List ProgramAccount) : Except CliError (List (Pubkey × TokenAccount)) :=
  (accounts.insertionSort (·.pubkey ≤ ·.pubkey)).mapM fun account =>
    (decodeTokenAccount sdk account.pubkey account.account).map fun state => (account.pubkey, state)

theorem decodeAll_succeeds : (∃ decoded, decodeAll sdk accounts = .ok decoded) ↔
    ∀ account ∈ accounts, ∃ state, decodeTokenAccount sdk account.pubkey account.account = .ok state := by
  rw [decodeAll, mapM_succeeds]
  simp only [List.mem_insertionSort]
  refine forall_congr' fun account => imp_congr_right fun _ => ?_
  cases decodeTokenAccount sdk account.pubkey account.account with
  | ok state => exact iff_of_true ⟨_, rfl⟩ ⟨_, rfl⟩
  | error error => exact iff_of_false (fun found => by cases found.choose_spec) (fun found => by cases found.choose_spec)

theorem joinMint_eq_ok {mints : Pubkey → Option MintView} {account : Pubkey × TokenAccount} {view : TokenAccountView} :
    joinMint mints account = .ok view ↔
      mints account.2.mint = some view.mint ∧ account = (view.address, view.state) := by
  obtain ⟨address, state⟩ := account
  obtain ⟨shown, read, mint⟩ := view
  unfold joinMint
  dsimp only
  split
  next other found =>
    rw [found]
    constructor
    · intro same
      cases same
      exact ⟨rfl, rfl⟩
    · intro both
      obtain ⟨same, pair⟩ := both
      cases same
      cases pair
      rfl
  next missing => simp [missing]

theorem sorted_pairwise (accounts : List ProgramAccount) :
    (accounts.insertionSort (·.pubkey ≤ ·.pubkey)).Pairwise (·.pubkey ≤ ·.pubkey) := by
  have total : Std.Total fun first second : ProgramAccount => first.pubkey ≤ second.pubkey :=
    ⟨fun first second => Std.Total.total first.pubkey second.pubkey⟩
  have transitive : IsTrans ProgramAccount fun first second => first.pubkey ≤ second.pubkey :=
    ⟨fun _ _ _ first second => List.le_trans first second⟩
  exact List.pairwise_insertionSort _ accounts

theorem decoded_shows {sorted : List ProgramAccount}
    (decodes : List.Forall₂ (fun account pair => (decodeTokenAccount sdk account.pubkey account.account).map
      (fun state => (account.pubkey, state)) = .ok pair) sorted decoded)
    (joins : List.Forall₂ (fun account view => joinMint mints account = .ok view) decoded views)
    (sound : ∀ address mint, mints address = some mint →
      ∃ info, held address = some info ∧ decodeMint sdk address info = .ok mint) :
    List.Forall₂ (Shows sdk held) sorted views := by
  induction decodes generalizing views with
  | nil =>
    cases joins
    exact .nil
  | @cons account pair _ _ first _ ih =>
    cases joins with
    | cons now others =>
      refine .cons ?_ (ih others)
      obtain ⟨known, same⟩ := joinMint_eq_ok.mp now
      subst same
      cases read : decodeTokenAccount sdk account.pubkey account.account with
      | error error =>
        rw [read] at first
        cases first
      | ok state =>
        rw [read] at first
        obtain ⟨address, shown⟩ := Prod.mk.inj (Except.ok.inj first)
        exact ⟨address.symm, shown ▸ read, sound _ _ known⟩

theorem decodeAll_joined (all : decodeAll sdk accounts = .ok decoded) (joined : decoded.mapM (joinMint mints) = .ok views)
    (sound : ∀ address mint, mints address = some mint →
      ∃ info, held address = some info ∧ decodeMint sdk address info = .ok mint) :
    Joined sdk held accounts views :=
  ⟨_, List.perm_insertionSort (·.pubkey ≤ ·.pubkey) accounts, sorted_pairwise accounts,
    decoded_shows (mapM_eq_ok.mp all) (mapM_eq_ok.mp joined) sound⟩

theorem joined_mints (joined : decoded.mapM (joinMint mints) = .ok views) :
    decoded.map (·.2.mint) = views.map (·.state.mint) := by
  have joins := mapM_eq_ok.mp joined
  clear joined
  induction joins with
  | nil => rfl
  | cons now _ ih =>
    rw [List.map_cons, List.map_cons, ih, (joinMint_eq_ok.mp now).2]

/-- How a listing unfolds. -/
inductive Listing (sdk : TokenSdk) (owner : Pubkey) : List (Exchange api) → Except CliError (List TokenAccountView) → Prop where
  | unanswered (error : ArchError) :
      Listing sdk owner [⟨.getProgramAccounts sdk.tokenProgram
        (some [.dataSize sdk.accounts.len, .dataContent 32 owner.bytes]), .error error⟩] (.error (.archRpc error))
  | undecoded {accounts : List ProgramAccount} {error : CliError} (failed : decodeAll sdk accounts = .error error) :
      Listing sdk owner [⟨.getProgramAccounts sdk.tokenProgram
        (some [.dataSize sdk.accounts.len, .dataContent 32 owner.bytes]), .ok accounts⟩] (.error error)
  | fetched {accounts : List ProgramAccount} {decoded : List (Pubkey × TokenAccount)} {trace : List (Exchange api)}
      {mints : Except CliError (Pubkey → Option MintView)} (all : decodeAll sdk accounts = .ok decoded)
      (fetched : Traces (fetchMints sdk (chunks rpcAccountBatchSize (distinctKeys (decoded.map (·.2.mint)))) (fun _ => none))
        trace mints) :
      Listing sdk owner (⟨.getProgramAccounts sdk.tokenProgram
        (some [.dataSize sdk.accounts.len, .dataContent 32 owner.bytes]), .ok accounts⟩ :: trace)
        (mints >>= fun mints => decoded.mapM (joinMint mints))

theorem traces_listTokenAccounts (traced : Traces (listTokenAccounts sdk owner) trace outcome) : Listing sdk owner trace outcome := by
  obtain ⟨reply, rest, split, answered⟩ := traces_perform.mp traced
  subst split
  rcases traces_rpc.mp answered with ⟨accounts, known, decoding⟩ | ⟨error, failed, empty, ended⟩
  swap
  · subst failed empty ended
    exact .unanswered error
  subst known
  change Traces (Fallible.ofExcept (decodeAll sdk accounts) >>= _) rest outcome at decoding
  cases all : decodeAll sdk accounts with
  | error error =>
    rw [all] at decoding
    cases decoding
    exact .undecoded all
  | ok decoded =>
    rw [all] at decoding
    rcases traces_bind.mp decoding with ⟨error, failed, _⟩ | ⟨_, first, later, split, same, fetching⟩
    · cases failed
    cases same
    subst split
    rcases traces_bind.mp fetching with ⟨error, failed, ended⟩ | ⟨mints, asked, none, split, fetched, joining⟩
    · subst ended
      exact .fetched all failed
    · subst split
      generalize joined : decoded.mapM (joinMint mints) = result at joining
      cases joining
      rw [List.append_nil, ← joined]
      exact .fetched all fetched

theorem joins_iff {mints : Pubkey → Option MintView} : (∃ views, decoded.mapM (joinMint mints) = .ok views) ↔
    ∀ address ∈ distinctKeys (decoded.map (·.2.mint)), (mints address).isSome := by
  rw [mapM_succeeds]
  simp only [mem_distinctKeys, List.mem_map]
  constructor
  · intro joined address listed
    obtain ⟨account, member, same⟩ := listed
    obtain ⟨view, found⟩ := joined account member
    rw [← same, (joinMint_eq_ok.mp found).1]
    rfl
  · intro known account member
    obtain ⟨mint, found⟩ := Option.isSome_iff_exists.mp (known _ ⟨account, member, rfl⟩)
    exact ⟨⟨account.1, account.2, mint⟩, joinMint_eq_ok.mpr ⟨found, rfl⟩⟩

/-- A listing shows every account that was received with the mint that it names, or fails; and
it fails only where something cannot be decoded or an answer is missing. -/
theorem listTokenAccounts_joins (traced : Traces (listTokenAccounts sdk owner) trace outcome)
    (ordered : ∀ exchange ∈ trace, InOrder held exchange) :
    ∃ reply rest, trace = ⟨.getProgramAccounts sdk.tokenProgram
        (some [.dataSize sdk.accounts.len, .dataContent 32 owner.bytes]), reply⟩ :: rest ∧
      (∀ views, outcome = .ok views → ∃ accounts, reply = .ok accounts ∧ Joined sdk held accounts views ∧
        ∃ batches : List (List Pubkey), rest.map Exchange.operation = batches.map Request.getMultipleAccounts ∧
          (∀ batch ∈ batches, batch.length ≤ rpcAccountBatchSize) ∧ batches.flatten.Nodup ∧
          ∀ mint, mint ∈ batches.flatten ↔ ∃ view ∈ views, view.state.mint = mint) ∧
      ((∃ views, outcome = .ok views) ↔ ∃ accounts, reply = .ok accounts ∧
        (∀ account ∈ accounts, ∃ state, decodeTokenAccount sdk account.pubkey account.account = .ok state) ∧
        ∀ exchange ∈ rest, Complete sdk exchange) := by
  have listing := traces_listTokenAccounts traced
  cases listing with
  | unanswered error =>
    refine ⟨_, [], rfl, fun _ same => by (cases same), iff_of_false ?_ ?_⟩
    · exact fun listed => by cases listed.choose_spec
    · exact fun received => by cases received.choose_spec.1
  | @undecoded accounts error failed =>
    refine ⟨_, [], rfl, fun _ same => by (cases same), iff_of_false (fun listed => by cases listed.choose_spec) ?_⟩
    intro received
    obtain ⟨_, same, decodes, _⟩ := received
    cases same
    obtain ⟨decoded, all⟩ := decodeAll_succeeds.mpr decodes
    cases failed.symm.trans all
  | @fetched accounts decoded rest mints all fetched =>
    have whole := chunks_flatten rpcAccountBatchSize (by decide) (distinctKeys (decoded.map (·.2.mint)))
    refine ⟨_, rest, rfl, ?_, ?_⟩
    · intro views listed
      obtain ⟨known, same, joined⟩ := bind_eq_ok.mp listed
      subst same
      obtain ⟨asked, sound⟩ := traces_fetchMints_ok fetched
        (fun exchange member => ordered exchange (List.mem_cons_of_mem _ member))
      refine ⟨accounts, rfl, ?_, _, asked, fun batch member => (chunks_bounded _ _ batch member).2, ?_, ?_⟩
      · refine decodeAll_joined all joined ?_
        intro address mint found
        exact (sound address mint found).resolve_left (fun none => by cases none)
      · rw [whole]
        exact distinctKeys_nodup _
      · intro mint
        rw [whole, mem_distinctKeys, joined_mints joined, List.mem_map]
    · constructor
      · intro listed
        obtain ⟨views, listed⟩ := listed
        obtain ⟨known, same, joined⟩ := bind_eq_ok.mp listed
        subst same
        refine ⟨accounts, rfl, decodeAll_succeeds.mp ⟨decoded, all⟩, traces_fetchMints_answers fetched ?_ ?_⟩
        · rw [whole]
          exact distinctKeys_nodup _
        · rw [whole]
          exact fun address member => ⟨rfl, joins_iff.mp ⟨views, joined⟩ address member⟩
      · intro received
        obtain ⟨_, _, _, complete⟩ := received
        obtain ⟨known, same, covers⟩ := traces_fetchMints_complete fetched complete
        subst same
        rw [whole] at covers
        exact joins_iff.mpr fun address member => covers address (.inr member)

end Listing

namespace Wallet
open Reference

def tokens : TokenPrograms := programs fun owner _ => (owner, 255)

def dollars : Pubkey := .fromSlice (List.replicate 32 1)

def euros : Pubkey := .fromSlice (List.replicate 32 2)

def owner : Pubkey := publicKey authorityKeypair

/-- Two mints that differ in their decimals. -/
def minted (address : Pubkey) : Option AccountInfo :=
  if address = dollars then some ⟨1, tokens.token, tokens.sdk.mints.pack ⟨none, 100, 6, true, none⟩, false⟩
  else if address = euros then some ⟨1, tokens.token, tokens.sdk.mints.pack ⟨none, 100, 2, true, none⟩, false⟩
  else none

def account (byte : UInt8) (mint : Pubkey) : ProgramAccount :=
  ⟨.fromSlice (List.replicate 32 byte), ⟨1, tokens.token, tokens.sdk.accounts.pack { mint, owner, state := .initialized }, false⟩⟩

/-- A node with three accounts, out of order and two of them of one mint. -/
def node : Oracle api := fun past operation =>
  match operation with
  | .getProgramAccounts .. => .ok [account 9 euros, account 7 dollars, account 8 euros]
  | .getMultipleAccounts addresses => .ok (addresses.map fun address => (minted address).map (AccountInfoWithPubkey.mk · address))
  | other => Deploy.assigning past other

theorem node_inOrder (past : List (Exchange api)) (operation : Request) : InOrder minted ⟨operation, node past operation⟩ := by
  intro batch infos same index address info asked answered
  cases operation with
  | getMultipleAccounts addresses =>
    cases same
    rw [List.getElem?_map, asked] at answered
    obtain ⟨found, held, shown⟩ := Option.map_eq_some_iff.mp (Option.some.inj answered)
    rw [held, ← shown]
  | _ => cases same

end Wallet

open Wallet in
theorem listTokenAccounts_joins_minted : ∃ accounts views,
    (Fallible.against node (listTokenAccounts tokens.sdk owner)).2 = .ok views ∧ Joined tokens.sdk minted accounts views ∧
      views.map (·.mint.state.decimals) = [6, 2, 2] := by
  have observed : (Fallible.against node (listTokenAccounts tokens.sdk owner)).2.toOption.map
      (fun views => views.map (·.mint.state.decimals)) = some [6, 2, 2] := by
    decide +kernel
  obtain ⟨views, listed, decimals⟩ := Option.map_eq_some_iff.mp observed
  obtain ⟨_, _, _, shows, _⟩ := listTokenAccounts_joins (traces_against node (listTokenAccounts tokens.sdk owner))
    ((answered_against node _).forall node_inOrder)
  cases done : (Fallible.against node (listTokenAccounts tokens.sdk owner)).2 with
  | error error =>
    rw [done] at listed
    cases listed
  | ok others =>
    rw [done] at listed
    cases listed
    obtain ⟨accounts, _, joined, _⟩ := shows views done
    exact ⟨accounts, views, rfl, joined, decimals⟩

end Token
end ArchKit
