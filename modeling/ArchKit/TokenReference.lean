import ArchKit.Radix.Layout
import ArchKit.Reference
import ArchKit.TokenSdk

/-! The spelling of mints, token accounts and token instructions that the libraries
document, as an executable stand-in for them. -/

namespace ArchKit.Reference
open Radix

section Accounts

def pubkeyLayout : Layout Pubkey where
  size := 32
  encode key := key.bytes
  decode := Pubkey.ofBytes?
  encode_length key := key.size
  decode_encode _ := Pubkey.ofBytes?_eq_some.mpr rfl

def flagLayout : Layout Bool :=
  Layout.byte.convert (fun byte => if byte = 0 then some false else if byte = 1 then some true else none)
    (fun flag => if flag then 1 else 0) (by intro flag; cases flag <;> rfl)

def stateLayout : Layout AccountState :=
  Layout.byte.convert
    (fun byte => if byte = 0 then some .uninitialized else if byte = 1 then some .initialized
      else if byte = 2 then some .frozen else none)
    (fun state =>
      match state with
      | .uninitialized => 0
      | .initialized => 1
      | .frozen => 2)
    (by intro state; cases state <;> rfl)

def mintLayout : Layout Mint :=
  (pubkeyLayout.option.pair (Layout.word.pair (Layout.byte.pair (flagLayout.pair pubkeyLayout.option)))).convert
    (fun (mintAuthority, supply, decimals, isInitialized, freezeAuthority) =>
      some ⟨mintAuthority, supply, decimals, isInitialized, freezeAuthority⟩)
    (fun mint => (mint.mintAuthority, mint.supply, mint.decimals, mint.isInitialized, mint.freezeAuthority)) (fun _ => rfl)

def accountLayout : Layout TokenAccount :=
  (pubkeyLayout.pair (pubkeyLayout.pair (Layout.word.pair (pubkeyLayout.option.pair (stateLayout.pair
    (Layout.word.option.pair (Layout.word.pair pubkeyLayout.option))))))).convert
    (fun (mint, owner, amount, delegate, state, isNative, delegatedAmount, closeAuthority) =>
      some ⟨mint, owner, amount, delegate, state, isNative, delegatedAmount, closeAuthority⟩)
    (fun account => (account.mint, account.owner, account.amount, account.delegate, account.state, account.isNative,
      account.delegatedAmount, account.closeAuthority)) (fun _ => rfl)

variable {α : Type} (layout : Layout α) (isInitialized : α → Bool)

def unpackUnchecked (data : Bytes) : Except String α :=
  match (if data.length = layout.size then layout.decode data else none) with
  | some value => .ok value
  | none => .error "An account's data contents was invalid"

def unpack (data : Bytes) : Except String α := do
  let value ← unpackUnchecked layout data
  if isInitialized value then return value
  else .error "An attempt to operate on an account that hasn't yet been initialized"

theorem unpackUnchecked_eq_ok {layout : Layout α} {data : Bytes} {value : α} :
    unpackUnchecked layout data = .ok value ↔ data.length = layout.size ∧ layout.decode data = some value := by
  unfold unpackUnchecked
  by_cases fits : data.length = layout.size
  · rw [if_pos fits]
    cases layout.decode data with
    | none => simp
    | some other => simp [fits]
  · rw [if_neg fits]
    simp [fits]

/-- Values of one layout, kept in accounts of its size. -/
def packing (blank : α) (zeros : layout.decode (List.replicate layout.size 0) = some blank) : Pack isInitialized blank where
  len := layout.size
  unpackUnchecked := unpackUnchecked layout
  unpack := unpack layout isInitialized
  pack := layout.encode
  pack_length := layout.encode_length
  unpackUnchecked_pack value := unpackUnchecked_eq_ok.mpr ⟨layout.encode_length value, layout.decode_encode value⟩
  unpackUnchecked_zeros := unpackUnchecked_eq_ok.mpr ⟨List.length_replicate, zeros⟩
  unpackUnchecked_length _ _ read := (unpackUnchecked_eq_ok.mp read).1
  unpack_eq_ok data value := by
    unfold unpack
    cases unpackUnchecked layout data with
    | error error => simp [bind, Except.bind]
    | ok other =>
      by_cases initialized : isInitialized other = true
      · simp only [bind, Except.bind, initialized, if_true, pure, Except.pure, Except.ok.injEq]
        constructor
        · intro same
          exact ⟨same, same ▸ initialized⟩
        · exact And.left
      · simp only [bind, Except.bind, initialized, Except.ok.injEq]
        constructor
        · intro read
          cases read
        · intro both
          exact absurd (both.1 ▸ both.2) initialized

end Accounts

section Instructions

def optionalKey : Option Pubkey → Bytes
  | none => [0]
  | some key => 1 :: key.bytes

def readOptionalKey : Bytes → Option (Option Pubkey)
  | [] => none
  | tag :: key => if tag = 0 ∧ key = [] then some none else if tag = 1 then (Pubkey.ofBytes? key).map some else none

theorem readOptionalKey_spelled (key : Option Pubkey) : readOptionalKey (optionalKey key) = some key := by
  cases key with
  | none => rfl
  | some key => simp [readOptionalKey, optionalKey, Pubkey.ofBytes?_eq_some.mpr rfl]

def amountLayout : Layout (UInt64 × UInt8) := Layout.word.pair Layout.byte

def initializationLayout : Layout (UInt8 × Pubkey) := Layout.byte.pair pubkeyLayout

/-- The owner signs unless it is a multisignature account, which others sign for. -/
def authorityAccounts (authority : Pubkey) (signers : List Pubkey) : List AccountMeta :=
  .newReadonly authority signers.isEmpty :: signers.map (AccountMeta.newReadonly · true)

def authorityByte : AuthorityType → UInt8
  | .mintTokens => 0
  | .freezeAccount => 1
  | .accountOwner => 2
  | .closeAccount => 3

variable (token associated system : Pubkey)

def invoke (program : Pubkey) (accounts : List AccountMeta) (data : Bytes) : Except String Instruction :=
  if program = token then .ok (.invoke program accounts data) else .error "The account did not have the expected program id"

def initializeMint (program mint mintAuthority : Pubkey) (freezeAuthority : Option Pubkey) (decimals : UInt8) :
    Except String Instruction :=
  invoke token program [.new mint false]
    (0 :: (initializationLayout.encode (decimals, mintAuthority) ++ optionalKey freezeAuthority))

def createAssociated (payer address owner mint tokenProgram systemProgram : Pubkey) : Instruction :=
  .invoke associated [.new payer true, .new address false, .newReadonly owner false, .newReadonly mint false,
    .newReadonly systemProgram false, .newReadonly tokenProgram false] [1]

def mintToChecked (program mint account owner : Pubkey) (signers : List Pubkey) (amount : UInt64) (decimals : UInt8) :
    Except String Instruction :=
  invoke token program ([.new mint false, .new account false] ++ authorityAccounts owner signers)
    (14 :: amountLayout.encode (amount, decimals))

def setAuthority (program owned : Pubkey) (newAuthority : Option Pubkey) (kind : AuthorityType) (owner : Pubkey)
    (signers : List Pubkey) : Except String Instruction :=
  invoke token program (.new owned false :: authorityAccounts owner signers) ([6, authorityByte kind] ++ optionalKey newAuthority)

def transferChecked (program source mint destination authority : Pubkey) (signers : List Pubkey) (amount : UInt64)
    (decimals : UInt8) : Except String Instruction :=
  invoke token program ([.new source false, .newReadonly mint false, .new destination false] ++ authorityAccounts authority signers)
    (12 :: amountLayout.encode (amount, decimals))

def readToken (accounts : List AccountMeta) (tag : UInt8) (arguments : Bytes) : Option TokenInstruction :=
  match accounts with
  | [mint] => do
    let (decimals, mintAuthority) ← initializationLayout.decode (arguments.take 33)
    let freezeAuthority ← readOptionalKey (arguments.drop 33)
    if tag = 0 then some (.initializeMint mint.pubkey mintAuthority freezeAuthority decimals) else none
  | [mint, owner] => do
    let newAuthority ← readOptionalKey (arguments.drop 1)
    if tag = 6 ∧ arguments.take 1 = [0] ∧ owner.isSigner then some (.setMintAuthority mint.pubkey newAuthority owner.pubkey)
    else none
  | [mint, account, owner] => do
    let (amount, decimals) ← amountLayout.decode arguments
    if tag = 14 ∧ owner.isSigner then some (.mintToChecked mint.pubkey account.pubkey owner.pubkey amount decimals) else none
  | [source, mint, destination, authority] => do
    let (amount, decimals) ← amountLayout.decode arguments
    if tag = 12 ∧ authority.isSigner then
      some (.transferChecked source.pubkey mint.pubkey destination.pubkey authority.pubkey amount decimals)
    else none
  | _ => none

def readAssociated : List AccountMeta → Bytes → Option TokenInstruction
  | [payer, address, owner, mint, _, _], [1] =>
    if payer.isSigner then some (.createAssociated payer.pubkey address.pubkey owner.pubkey mint.pubkey) else none
  | _, _ => none

def read (program : Pubkey) (accounts : List AccountMeta) (data : Bytes) : Option TokenInstruction :=
  if program = associated then readAssociated accounts data
  else if program = token then
    match data with
    | [] => none
    | tag :: arguments => readToken accounts tag arguments
  else none

variable {token associated}

theorem invoke_reads {accounts : List AccountMeta} {tag : UInt8} {arguments : Bytes} {instruction : Instruction}
    {meaning : TokenInstruction} (different : token ≠ associated)
    (built : invoke token token accounts (tag :: arguments) = .ok instruction)
    (understood : readToken accounts tag arguments = some meaning) : instruction.ReadsAs (read token associated) meaning := by
  rw [invoke, if_pos rfl] at built
  cases built
  change read token associated token accounts (tag :: arguments) = some meaning
  rw [read, if_neg different, if_pos rfl]
  exact understood

theorem readToken_initializeMint (mint mintAuthority : Pubkey) (freezeAuthority : Option Pubkey) (decimals : UInt8) :
    readToken [.new mint false] 0 (initializationLayout.encode (decimals, mintAuthority) ++ optionalKey freezeAuthority) =
      some (.initializeMint mint mintAuthority freezeAuthority decimals) := by
  have size : (initializationLayout.encode (decimals, mintAuthority)).length = 33 := initializationLayout.encode_length _
  simp only [readToken]
  rw [List.take_left' size, List.drop_left' size, initializationLayout.decode_encode, readOptionalKey_spelled]
  rfl

theorem readToken_mintToChecked (mint account owner : Pubkey) (amount : UInt64) (decimals : UInt8) :
    readToken [.new mint false, .new account false, .newReadonly owner true] 14 (amountLayout.encode (amount, decimals)) =
      some (.mintToChecked mint account owner amount decimals) := by
  simp only [readToken]
  rw [amountLayout.decode_encode]
  rfl

theorem readToken_setAuthority (mint owner : Pubkey) (newAuthority : Option Pubkey) :
    readToken [.new mint false, .newReadonly owner true] 6 (authorityByte .mintTokens :: optionalKey newAuthority) =
      some (.setMintAuthority mint newAuthority owner) := by
  simp only [readToken, List.drop_succ_cons, List.drop_zero]
  rw [readOptionalKey_spelled]
  rfl

theorem readToken_transferChecked (source mint destination authority : Pubkey) (amount : UInt64) (decimals : UInt8) :
    readToken [.new source false, .newReadonly mint false, .new destination false, .newReadonly authority true] 12
      (amountLayout.encode (amount, decimals)) = some (.transferChecked source mint destination authority amount decimals) := by
  simp only [readToken]
  rw [amountLayout.decode_encode]
  rfl

end Instructions

/-- The programs of the tokens and of the associated accounts, and the addresses the latter derives. -/
structure TokenPrograms where
  signing : SigningSdk
  token : Pubkey
  associated : Pubkey
  derive : Pubkey → Pubkey → Pubkey × UInt8
  foreign : token ≠ signing.systemProgram
  different : token ≠ associated

def TokenPrograms.sdk (programs : TokenPrograms) : TokenSdk where
  toSigningSdk := programs.signing
  tokenProgram := programs.token
  associatedTokenProgram := programs.associated
  mints := packing mintLayout Mint.isInitialized {} rfl
  accounts := packing accountLayout TokenAccount.isInitialized .blank rfl
  getAssociatedTokenAddressAndBumpSeed owner mint _ := programs.derive owner mint
  initializeMint := initializeMint programs.token
  createAssociatedTokenAccountIdempotent := createAssociated programs.associated
  mintToChecked := mintToChecked programs.token
  setAuthority := setAuthority programs.token
  transferChecked := transferChecked programs.token
  read := read programs.token programs.associated
  programs := programs.foreign
  lengths := by decide
  read_initializeMint _ _ _ _ _ built := invoke_reads programs.different built (readToken_initializeMint ..)
  read_createAssociated _ _ _ _ := if_pos rfl
  read_mintToChecked _ _ _ _ _ _ built := invoke_reads programs.different built (readToken_mintToChecked ..)
  read_setAuthority _ _ _ _ built := invoke_reads programs.different built (readToken_setAuthority ..)
  read_transferChecked _ _ _ _ _ _ _ built := invoke_reads programs.different built (readToken_transferChecked ..)

/-- Signing that cosigners cannot take part in. -/
def keyFileSigning : SigningSdk where
  toSdk := tables.sdk
  hash _ := []
  serialize _ := []
  verifyMessageBip322 _ _ _ _ _ := .error "invalid signature"
  display _ := "null"

/-- The programs at the addresses they have, with a table of the addresses they derive. -/
def programs (derive : Pubkey → Pubkey → Pubkey × UInt8) : TokenPrograms where
  signing := keyFileSigning
  token := .fromSlice "apl-token00000000000000000000000".toUTF8.data.toList
  associated := .fromSlice "associated-token-account00000000".toUTF8.data.toList
  derive
  foreign := by decide +kernel
  different := by decide +kernel

end ArchKit.Reference
