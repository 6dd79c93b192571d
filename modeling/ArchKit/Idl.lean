import ArchKit.Error
import ArchKit.Json
import ArchKit.Radix.LittleEndian

/-! Publication of a program's IDL. JSON and zlib come from libraries and are
parameters; everything the toolkit decides, sends and checks is written out. -/

namespace ArchKit
open Effects Radix

/-- `serde_json` and `flate2`. Compression reports the errors of writing and of
finishing separately. -/
structure Codec where
  fromSlice : Bytes → Except String Json
  toVec : Json → Except String Bytes
  inflate : Bytes → Except String Bytes
  deflate : Bytes → Except String (Except String Bytes)

/-- Parsing inverts serialization and inflation inverts compression. -/
structure Codec.Lawful (codec : Codec) : Prop where
  fromSlice_toVec : ∀ value bytes, codec.toVec value = .ok bytes → codec.fromSlice bytes = .ok value
  inflate_deflate : ∀ bytes compressed, codec.deflate bytes = .ok (.ok compressed) →
    codec.inflate compressed = .ok bytes

/-- `hex::encode(pubkey)`. -/
def pubkeyHex (pubkey : Pubkey) : String := String.ofList (hexEncode pubkey.bytes)

namespace Idl

def idlIxTagLe : Bytes := [0x40, 0xf4, 0xbc, 0x78, 0xa7, 0xe9, 0x69, 0x0a]
def idlAccountDiscriminator : Bytes := [0x18, 0x46, 0x62, 0xbf, 0x3a, 0x90, 0x7b, 0x9e]
def idlSeed : String := "anchor:idl"
def idlHeaderLen : Nat := 8 + 32 + 4
def defaultIdlAccountSize : Nat := 10000
def idlResizeIncrement : Nat := 10000
def maxWriteSize : Nat := 600

def tagCreate : UInt8 := 0
def tagCreateBuffer : UInt8 := 1
def tagWrite : UInt8 := 2
def tagSetBuffer : UInt8 := 3
def tagClose : UInt8 := 5
def tagResize : UInt8 := 6

structure PreparedIdl where
  expected : Json
  compressed : Bytes
  initialCapacity : Nat
  requestedCapacity : Option Nat
  deriving DecidableEq

/-- `usize` addition. -/
def checkedAdd (first second : Nat) : Option Nat := if first + second < 2 ^ 64 then some (first + second) else none

theorem checkedAdd_eq_some {first second sum : Nat} :
    checkedAdd first second = some sum ↔ first + second < 2 ^ 64 ∧ first + second = sum := by
  unfold checkedAdd
  split <;> simp_all

def toU64 (value : Nat) (label : String) : Except CliError Nat :=
  if value < 2 ^ 64 then .ok value else .error (.invalidIdl s!"{label} exceeds the protocol's u64 limit")

def createIxData (dataLen : Nat) : Bytes := idlIxTagLe ++ [tagCreate] ++ toLittleEndian 8 dataLen
def writeIxData (chunk : Bytes) : Bytes := idlIxTagLe ++ [tagWrite] ++ toLittleEndian 4 chunk.length ++ chunk
def resizeIxData (space : Nat) : Bytes := idlIxTagLe ++ [tagResize] ++ toLittleEndian 8 space
def unitIxData (tag : UInt8) : Bytes := idlIxTagLe ++ [tag]

def requiredSpace (payloadLen : Nat) : Except CliError Nat :=
  match checkedAdd idlHeaderLen payloadLen with
  | some space => .ok space
  | none => .error (.invalidIdl "IDL account size overflow")

def deriveIdlAddresses (sdk : Sdk) (program : Pubkey) : Except CliError (Pubkey × Pubkey) :=
  let base := sdk.findProgramAddress program
  match sdk.createWithSeed base idlSeed program with
  | .ok idl => .ok (base, idl)
  | .error error => .error (.idl s!"cannot derive IDL account: {error}")

def decompressJson (codec : Codec) (compressed : Bytes) : Except CliError Json :=
  match codec.inflate compressed with
  | .error error => .error (.idl s!"cannot inflate on-chain IDL: {error}")
  | .ok json =>
    match codec.fromSlice json with
    | .error error => .error (.idl s!"on-chain IDL is invalid JSON: {error}")
    | .ok value => .ok value

def compress (codec : Codec) (json : Bytes) : Except CliError Bytes :=
  match codec.deflate json with
  | .error error => .error (.invalidIdl s!"cannot compress JSON: {error}")
  | .ok (.error error) => .error (.invalidIdl s!"cannot finish compression: {error}")
  | .ok (.ok compressed) => .ok compressed

/-- The members of the root object after `address` and `metadata.spec` are set. -/
def normalizeMembers (program : Pubkey) (root : List (String × Json)) : Except CliError (List (String × Json)) :=
  let root := Json.insert "address" (.string (pubkeyHex program)) root
  match ((root.lookup "metadata").getD (.object [])).asObject with
  | none => .error (.invalidIdl "metadata must be an object")
  | some metadata => .ok (Json.insert "metadata" (.object (Json.insert "spec" (.string "0.1.0") metadata)) root)

def rootMembers (document : Json) : Except CliError (List (String × Json)) :=
  match document.asObject with
  | some root => .ok root
  | none => .error (.invalidIdl "JSON root must be an object")

def initialCapacity (required : Nat) : Option Nat → Except CliError Nat
  | some requested => if requested < required then .error (.idlSizeTooSmall requested required) else .ok requested
  | none => .ok (max defaultIdlAccountSize required)

def prepareBytes (codec : Codec) (raw : Bytes) (program : Pubkey) (requestedCapacity : Option Nat) :
    Except CliError PreparedIdl := do
  let parsed ← (codec.fromSlice raw).mapError fun error => .invalidIdl s!"invalid JSON: {error}"
  let root ← rootMembers parsed
  let expected := Json.object (← normalizeMembers program root)
  let normalized ← (codec.toVec expected).mapError .json
  let compressed ← compress codec normalized
  if compressed.length > 2 ^ 32 - 1 then
    throw (.idlPayloadTooLarge compressed.length)
  let required ← requiredSpace compressed.length
  let initialCapacity ← initialCapacity required requestedCapacity
  if initialCapacity ≥ 2 ^ 64 then
    throw (.invalidIdl "IDL account size exceeds u64")
  return { expected, compressed, initialCapacity, requestedCapacity }

def prepare (codec : Codec) (path : Path) (program : Pubkey) (requestedCapacity : Option Nat) : Cli PreparedIdl := do
  if ← Cli.isFile path then
    match ← Cli.read path with
    | .error source => throw (.readInput "IDL JSON" path source)
    | .ok raw => Fallible.ofExcept (prepareBytes codec raw program requestedCapacity)
  else throw (.inputNotFile "IDL JSON" path)

structure Range where
  start : Nat
  stop : Nat

def validateIdlAccount (account : AccountInfo) (program : Pubkey) (expectedAuthority : Option Pubkey) :
    Except CliError Range :=
  let owner := account.owner
  let len := account.data.length
  if owner ≠ program then
    .error (.idl s!"IDL owner mismatch: expected {program}, got {owner}")
  else if len < idlHeaderLen then
    .error (.idl s!"IDL account is only {len} bytes, shorter than its {idlHeaderLen}-byte header")
  else if slice account.data 0 8 ≠ idlAccountDiscriminator then
    .error (.idl "IDL account discriminator is invalid")
  else
    let authority := Pubkey.fromSlice (slice account.data 8 40)
    match expectedAuthority.filter (· ≠ authority) with
    | some expected => .error (.idl s!"IDL authority mismatch: expected {expected}, got {authority}")
    | none =>
      let declaredLen := ofLittleEndian (slice account.data 40 44)
      let capacity := len - idlHeaderLen
      match (checkedAdd idlHeaderLen declaredLen).filter (· ≤ len) with
      | some stop => .ok ⟨idlHeaderLen, stop⟩
      | none => .error (.idl s!"IDL payload length {declaredLen} exceeds account capacity {capacity}")

/-- `usize` subtraction; `None` is a panic. -/
def subtract? (first second : Nat) : Option Nat := if second ≤ first then some (first - second) else none

/-- The same with every slice, array conversion and subtraction where the source has it. -/
def validateIdlAccount? (account : AccountInfo) (program : Pubkey) (expectedAuthority : Option Pubkey) :
    Option (Except CliError Range) :=
  let owner := account.owner
  let len := account.data.length
  if owner ≠ program then
    some (.error (.idl s!"IDL owner mismatch: expected {program}, got {owner}"))
  else if len < idlHeaderLen then
    some (.error (.idl s!"IDL account is only {len} bytes, shorter than its {idlHeaderLen}-byte header"))
  else do
    let discriminator ← slice? account.data 0 8
    if discriminator ≠ idlAccountDiscriminator then
      some (.error (.idl "IDL account discriminator is invalid"))
    else do
      let authority := Pubkey.fromSlice (← slice? account.data 8 40)
      match expectedAuthority.filter (· ≠ authority) with
      | some expected => some (.error (.idl s!"IDL authority mismatch: expected {expected}, got {authority}"))
      | none => do
        let declared ← slice? account.data 40 44
        if declared.length ≠ 4 then
          some (.error (.idl "IDL data length is invalid"))
        else
          let declaredLen := ofLittleEndian declared
          match (checkedAdd idlHeaderLen declaredLen).filter (· ≤ len) with
          | some stop => some (.ok ⟨idlHeaderLen, stop⟩)
          | none => do
            let capacity ← subtract? len idlHeaderLen
            some (.error (.idl s!"IDL payload length {declaredLen} exceeds account capacity {capacity}"))

/-- `account.data[range]`. -/
def payloadAt (account : AccountInfo) (range : Range) : Bytes := slice account.data range.start range.stop

def setBufferInstruction (program buffer target authority : Pubkey) : Instruction :=
  .invoke program [.new buffer false, .new target false, .newReadonly authority true] (unitIxData tagSetBuffer)

def closeBufferInstruction (program buffer authority : Pubkey) : Instruction :=
  .invoke program [.new buffer false, .newReadonly authority true, .new authority false] (unitIxData tagClose)

/-- `bytes.chunks(size)`. -/
def chunks {α : Type} (size : Nat) (bytes : List α) : List (List α) :=
  if bytes = [] ∨ size = 0 then [] else bytes.take size :: chunks size (bytes.drop size)
termination_by bytes.length
decreasing_by
  have nonempty : bytes.length ≠ 0 := by simp_all
  simp only [List.length_drop]
  omega

inductive PublishOutcome where
  | initialized (capacity : Nat)
  | upgraded (capacity : Nat)
  | unchanged (capacity : Nat)
  deriving DecidableEq

end Idl

/-- What all publications of one program share: the libraries, the program and the
authority of its IDL. -/
structure Site where
  sdk : Sdk
  codec : Codec
  program : Pubkey
  authority : Pubkey

/-- What every step of one publication passes on unchanged. -/
structure Publisher extends Site where
  network : Network
  authorityKeypair : Keypair

namespace Site
open Idl
variable (site : Site)

def createInstruction (base idlAddress : Pubkey) (dataLen : Nat) : Instruction :=
  .invoke site.program
    [.new site.authority true, .new idlAddress false, .newReadonly base false,
      .newReadonly site.sdk.systemProgram false, .newReadonly site.program false]
    (createIxData dataLen)

def createBufferInstruction (buffer : Pubkey) : Instruction :=
  .invoke site.program [.new buffer false, .newReadonly site.authority true] (unitIxData tagCreateBuffer)

def writeInstruction (target : Pubkey) (chunk : Bytes) : Instruction :=
  .invoke site.program [.new target false, .newReadonly site.authority true] (writeIxData chunk)

def resizeInstruction (idlAddress : Pubkey) (space : Nat) : Instruction :=
  .invoke site.program
    [.new idlAddress false, .new site.authority true, .newReadonly site.sdk.systemProgram false]
    (resizeIxData space)

/-- One growth transaction. With buffers the account is emptied, resized and
restored, and the last transaction also closes them. -/
def growInstructions (idlAddress : Pubkey) (space : Nat) (buffers : Option (Pubkey × Pubkey)) (last : Bool) :
    List Instruction :=
  match buffers with
  | some (empty, backup) =>
    [setBufferInstruction site.program empty idlAddress site.authority,
      site.resizeInstruction idlAddress space,
      setBufferInstruction site.program backup idlAddress site.authority] ++
    if last then
      [closeBufferInstruction site.program empty site.authority,
        closeBufferInstruction site.program backup site.authority]
    else []
  | none => [site.resizeInstruction idlAddress space]

end Site

namespace Publisher
open Idl
variable (publisher : Publisher)

def send (action : String) (instructions : List Instruction) (payer : Pubkey) (signers : List Keypair) : Cli Hash := do
  let blockhash ← Cli.rpc (← Cli.getBestFinalizedBlockHash)
  let message := ArchMessage.new publisher.sdk instructions (some payer) blockhash
  let transaction ← Cli.rpc (publisher.sdk.buildAndSign message signers publisher.network)
  let id ← Cli.rpc (← Cli.sendTransaction transaction)
  let processed ← Cli.rpc (← Cli.waitForProcessedTransaction id)
  if processed.status ≠ .processed then
    throw (.transactionFailed action processed.status.debug)
  return id

def growAccount (idlAddress : Pubkey) (currentSpace targetSpace : Nat) (buffers : Option (Pubkey × Pubkey)) :
    Cli Unit :=
  if _smaller : currentSpace < targetSpace then do
    let space ← Fallible.ofExcept (toU64 targetSpace "IDL account size")
    match _next : checkedAdd currentSpace (min (targetSpace - currentSpace) idlResizeIncrement) with
    | none => throw (.invalidIdl "IDL resize overflow")
    | some nextSpace =>
      let _ ← publisher.send s!"IDL resize {nextSpace}/{targetSpace}"
        (publisher.growInstructions idlAddress space buffers (nextSpace == targetSpace))
        publisher.authority [publisher.authorityKeypair]
      growAccount idlAddress nextSpace targetSpace buffers
  else return ()
termination_by targetSpace - currentSpace
decreasing_by
  have grown := (checkedAdd_eq_some.mp _next).2
  simp only [idlResizeIncrement] at grown
  omega

def writeFrom (target : Pubkey) (total : Nat) : Nat → List Bytes → Cli Unit
  | _, [] => return ()
  | index, chunk :: rest => do
    let start := index * maxWriteSize
    let stop := start + chunk.length
    let _ ← publisher.send s!"IDL write {start}-{stop}/{total}" [publisher.writeInstruction target chunk]
      publisher.authority [publisher.authorityKeypair]
    writeFrom target total (index + 1) rest

def writeChunks (target : Pubkey) (compressed : Bytes) : Cli Unit :=
  publisher.writeFrom target compressed.length 0 (chunks maxWriteSize compressed)

def createBuffer (capacity : Nat) (copyFrom : Option Pubkey) : Cli Pubkey := do
  let (bufferKeypair, buffer) ← Cli.generateNewKeypair publisher.network
  let space ← Fallible.ofExcept (toU64 capacity "IDL buffer size")
  let createAccount := Instruction.createAccount publisher.authority buffer (publisher.sdk.minimumRent capacity) space
    publisher.program
  let copy := copyFrom.toList.map fun source =>
    setBufferInstruction publisher.program source buffer publisher.authority
  let _ ← publisher.send "IDL create buffer" ([createAccount, publisher.createBufferInstruction buffer] ++ copy)
    publisher.authority [publisher.authorityKeypair, bufferKeypair]
  return buffer

def prepareResizeBuffers (idlAddress : Pubkey) (existing : AccountInfo) : Cli (Pubkey × Pubkey) := do
  let range ← Fallible.ofExcept (validateIdlAccount existing publisher.program (some publisher.authority))
  let backup ← publisher.createBuffer range.stop (some idlAddress)
  let saved ← Cli.rpc (← Cli.readAccountInfo backup)
  let savedRange ← Fallible.ofExcept (validateIdlAccount saved publisher.program (some publisher.authority))
  if payloadAt saved savedRange ≠ payloadAt existing range then
    throw (.idl "IDL resize backup differs from the existing canonical IDL")
  let empty ← publisher.createBuffer idlHeaderLen none
  return (empty, backup)

def initializeIdl (idlAddress : Pubkey) (prepared : PreparedIdl) : Cli Unit := do
  let (base, expectedAddress) ← Fallible.ofExcept (deriveIdlAddresses publisher.sdk publisher.program)
  if expectedAddress ≠ idlAddress then
    throw (.idl "canonical IDL address changed during initialization")
  let payloadCapacity ← Fallible.ofExcept
    (if idlHeaderLen ≤ prepared.initialCapacity then .ok (prepared.initialCapacity - idlHeaderLen)
      else .error (.invalidIdl "IDL account size is below its header"))
  let dataLen ← Fallible.ofExcept (toU64 payloadCapacity "IDL payload capacity")
  let _ ← publisher.send "IDL create" [publisher.createInstruction base idlAddress dataLen]
    publisher.authority [publisher.authorityKeypair]
  publisher.growAccount idlAddress (min prepared.initialCapacity idlResizeIncrement) prepared.initialCapacity none
  publisher.writeChunks idlAddress prepared.compressed

/-- Upload the payload to a fresh buffer and swap it in. -/
def replacePayload (idlAddress : Pubkey) (prepared : PreparedIdl) (required : Nat) : Cli Unit := do
  let buffer ← publisher.createBuffer required none
  publisher.writeChunks buffer prepared.compressed
  let _ ← publisher.send "IDL set upgrade buffer"
    [setBufferInstruction publisher.program buffer idlAddress publisher.authority]
    publisher.authority [publisher.authorityKeypair]

/-- Grow a populated account and check that it came back with the same JSON. -/
def resizePopulated (idlAddress : Pubkey) (existing : AccountInfo) (existingJson : Json)
    (capacity targetCapacity : Nat) : Cli Nat := do
  let buffers ← publisher.prepareResizeBuffers idlAddress existing
  publisher.growAccount idlAddress capacity targetCapacity (some buffers)
  let resized ← Cli.rpc (← Cli.readAccountInfo idlAddress)
  let payloadRange ← Fallible.ofExcept (validateIdlAccount resized publisher.program (some publisher.authority))
  let capacity := resized.data.length
  if capacity < targetCapacity then
    throw (.idl s!"canonical IDL account has {capacity} bytes after resize; expected at least {targetCapacity}")
  let resizedJson ← Fallible.ofExcept (decompressJson publisher.codec (payloadAt resized payloadRange))
  if resizedJson ≠ existingJson then
    throw (.idl "canonical IDL contents changed during resize")
  return capacity

def fixedCapacityNote (capacity : Nat) : String :=
  s!"but the populated canonical IDL account has fixed capacity {capacity}; use --allow-idl-resize to opt into clearing, growing, and republishing it"

def upgradeOrSkip (idlAddress : Pubkey) (existing : AccountInfo) (prepared : PreparedIdl) (allowResize : Bool) :
    Cli PublishOutcome := do
  let payloadRange ← Fallible.ofExcept (validateIdlAccount existing publisher.program (some publisher.authority))
  let capacity := existing.data.length
  let note := fixedCapacityNote capacity
  let requested := prepared.requestedCapacity.getD 0
  if requested > capacity ∧ allowResize = false then
    throw (.idl s!"--idl-size requests {requested} bytes, {note}")
  let existingJson ← Fallible.ofExcept (decompressJson publisher.codec (payloadAt existing payloadRange))
  let unchanged := decide (existingJson = prepared.expected)
  let required ← Fallible.ofExcept (requiredSpace prepared.compressed.length)
  if unchanged = false ∧ required > capacity ∧ allowResize = false then
    throw (.idl s!"new compressed IDL requires {required} account bytes, {note}")
  let targetCapacity := max (max capacity requested) (if unchanged then 0 else required)
  let capacity ←
    if targetCapacity > capacity then
      publisher.resizePopulated idlAddress existing existingJson capacity targetCapacity
    else pure capacity
  if unchanged then
    return if targetCapacity > existing.data.length then .upgraded capacity else .unchanged capacity
  publisher.replacePayload idlAddress prepared required
  return .upgraded capacity

def verifyPublished (expected : Json) : Cli Unit := do
  let (_, address) ← Fallible.ofExcept (deriveIdlAddresses publisher.sdk publisher.program)
  let account ← Cli.rpc (← Cli.readAccountInfo address)
  let payloadRange ← Fallible.ofExcept (validateIdlAccount account publisher.program (some publisher.authority))
  let actual ← Fallible.ofExcept (decompressJson publisher.codec (payloadAt account payloadRange))
  if actual ≠ expected then
    throw (.idl "on-chain IDL differs from the normalized local IDL after publication")

def publish (prepared : PreparedIdl) (allowResize : Bool) : Cli Unit := do
  let (_, idlAddress) ← Fallible.ofExcept (deriveIdlAddresses publisher.sdk publisher.program)
  let _ ← Fallible.ofExcept ((publisher.codec.toVec prepared.expected).mapError .json)
  match ← Cli.readAccountInfo idlAddress with
  | .ok existing =>
    let _ ← publisher.upgradeOrSkip idlAddress existing prepared allowResize
  | .error (.notFound _) => publisher.initializeIdl idlAddress prepared
  | .error error => throw (.archRpc error)
  publisher.verifyPublished prepared.expected

end Publisher

/-- What may differ between two publications of one program by one authority. -/
structure Invocation where
  network : Network
  authorityKeypair : Keypair
  prepared : Idl.PreparedIdl
  allowResize : Bool

def Site.publisher (site : Site) (invocation : Invocation) : Publisher :=
  { site with network := invocation.network, authorityKeypair := invocation.authorityKeypair }

end ArchKit
