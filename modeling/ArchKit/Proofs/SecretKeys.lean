import ArchKit.Cargo
import ArchKit.JsonBytes
import ArchKit.Proofs.KeyFiles
import ArchKit.Reference

/-! What a key file means: hexadecimal digits or an array of bytes, never both. -/

namespace ArchKit.Keys
open Effects Radix Text Cargo JsonBytes
variable {sdk : Sdk} {contents : String} {key : SecretKey}

/-- Without the white space around it, the text is the key in hexadecimal digits of any case. -/
def SpellsHex (contents : String) (key : SecretKey) : Prop :=
  (trim contents.toList).map Char.toLower = hexEncode key.bytes

/-- The text is an array of bytes that begins with those of the key. -/
def SpellsArray (contents : String) (key : SecretKey) : Prop :=
  ∃ extra, JsonBytes.Spells contents.toList (key.bytes ++ extra)

theorem fromSlice?_eq_some {bytes : Bytes} : SecretKey.fromSlice? bytes = some key ↔ bytes = key.bytes := by
  rw [SecretKey.fromSlice?]
  constructor
  · intro read
    split at read
    next => cases read; rfl
    next => cases read
  · intro same
    subst same
    exact dif_pos key.valid

theorem spellsHex_iff : SpellsHex contents key ↔ (hexDecode (trim contents.toList)).bind SecretKey.fromSlice? = some key := by
  rw [SpellsHex, ← hexDecode_eq_some, Option.bind_eq_some_iff]
  constructor
  · intro decoded
    exact ⟨_, decoded, fromSlice?_eq_some.mpr rfl⟩
  · intro found
    obtain ⟨bytes, decoded, same⟩ := found
    rw [decoded, fromSlice?_eq_some.mp same]

theorem mem_trim {letter : Char} {text : List Char} (member : letter ∈ text) (visible : isWhitespace letter = false) :
    letter ∈ trim text := by
  obtain ⟨before, after, leading, trailing, shape⟩ := around_strip isWhitespace text
  rw [shape, List.mem_append, List.mem_append] at member
  rcases member with (first | inside) | last
  · exact absurd (leading letter first) (by simp [visible])
  · exact inside
  · exact absurd (trailing letter last) (by simp [visible])

/-- A bracket is no hexadecimal digit, so that no text is read in both ways. -/
theorem spells_once {bytes : Bytes} (array : JsonBytes.Spells contents.toList bytes) : ¬SpellsHex contents key := by
  intro digits
  obtain ⟨inner, ⟨before, after, _, _, shape⟩, _⟩ := array
  have member : '[' ∈ contents.toList := by simp [shape]
  have lowered : Char.toLower '[' ∈ (trim contents.toList).map Char.toLower :=
    List.mem_map_of_mem (mem_trim member (by decide))
  have kept : Char.toLower '[' = '[' := toLower_of_not_upper (by decide)
  rw [digits, kept] at lowered
  obtain ⟨digit, small, same⟩ := hexEncode_digits _ _ lowered
  exact (hexLetter_plain digit small).2.2 same.symm

section Parse
variable (spells : ∀ text bytes, sdk.bytesFromJson text = .ok bytes ↔ JsonBytes.Spells text.toList bytes)
include spells

theorem parseSecretKey_iff : parseSecretKey sdk contents = .ok key ↔ SpellsHex contents key ∨ SpellsArray contents key := by
  rw [parseSecretKey]
  cases decoded : (hexDecode (trim contents.toList)).bind SecretKey.fromSlice? with
  | some secret =>
    have digits := spellsHex_iff.mpr decoded
    constructor
    · intro same
      cases same
      exact .inl digits
    · intro either
      rcases either with hex | ⟨extra, array⟩
      · rw [spellsHex_iff, decoded] at hex
        cases hex
        rfl
      · exact absurd digits (spells_once array)
  | none =>
    have undecoded : ¬SpellsHex contents key := by
      rw [spellsHex_iff, decoded]
      exact fun same => by cases same
    rw [or_iff_right undecoded]
    dsimp only
    cases read : sdk.bytesFromJson contents with
    | error error =>
      refine iff_of_false (fun same => by cases same) (fun array => ?_)
      obtain ⟨extra, array⟩ := array
      cases read.symm.trans ((spells _ _).mpr array)
    | ok bytes =>
      have array := (spells _ _).mp read
      dsimp only
      constructor
      · intro parsed
        split at parsed
        next => cases parsed
        next =>
          split at parsed
          next secret found =>
            cases parsed
            refine ⟨bytes.drop secretKeySize, ?_⟩
            rw [← fromSlice?_eq_some.mp found, List.take_append_drop]
            exact array
          next => cases parsed
      · intro listed
        obtain ⟨extra, other⟩ := listed
        have same := Except.ok.inj (read.symm.trans ((spells _ _).mpr other))
        have size : key.bytes.length = secretKeySize := key.valid.1
        have first : bytes.take secretKeySize = key.bytes := by rw [same, ← size, List.take_left]
        rw [if_neg (by rw [same, List.length_append, size]; omega), fromSlice?_eq_some.mpr first]

end Parse

section Persist
variable {ι : Type} {client : ι} {path : Path} {disk : Disk ι} {writer : Option ι}

/-- A write that reports success has added the whole buffer. -/
theorem writeAll_adds (fail : IoError → CliError) {contents : Bytes} (opened : disk path = some (.file contents writer))
    (buffer : Bytes) : Fallible.Ensures (Disk.Serves sdk client) (writeAll fail ⟨path⟩ buffer)
      (fun outcome after => outcome = .ok () → after path = some (.file (contents ++ buffer) writer)) disk := by
  induction size : buffer.length using Nat.strong_induction_on generalizing contents buffer disk with
  | _ size ih =>
    subst size
    cases buffer with
    | nil =>
      rw [writeAll, List.append_nil]
      exact fun _ => opened
    | cons byte rest =>
      rw [writeAll]
      apply (Fallible.ensures_perform_bind (I := api) (.write ⟨path⟩ (byte :: rest))).mpr
      intro reply after served
      cases reply with
      | error source => exact fun failed => by cases failed
      | ok count =>
        obtain ⟨_, others, owner, found, changed⟩ := served
        cases found.symm.trans opened
        cases count with
        | zero => exact fun failed => by cases failed
        | succ count =>
          have grown : after path = some (.file (contents ++ (byte :: rest).take (count + 1)) writer) := by
            rw [changed]
            exact Function.update_self ..
          have remaining := ih (rest.drop count).length (by simp only [List.length_drop, List.length_cons]; omega)
            grown (rest.drop count) rfl
          rw [List.append_assoc, List.take_succ_cons, List.cons_append, List.take_append_drop] at remaining
          exact remaining

theorem persistKeyFile_writes (label : String) (keypair : Keypair) :
    Fallible.Ensures (Disk.Serves sdk client) (persistKeyFile path label keypair)
      (fun outcome after => outcome = .ok () → after path = some (.file (keyLine keypair) (some client))) disk := by
  unfold persistKeyFile
  apply (Fallible.ensures_perform_bind (I := api) (.createNew path)).mpr
  intro reply created served
  cases reply with
  | error source => exact fun failed => by cases failed
  | ok file =>
    obtain ⟨own, _, changed⟩ := served
    subst own
    have opened : created path = some (.file [] (some client)) := by
      rw [changed]
      exact Function.update_self ..
    dsimp only
    refine (writeAll_adds _ opened _).bind ?_ (fun _ _ _ failed => by cases failed)
    intro _ written wrote
    refine (writeAll_adds _ (wrote rfl) _).bind ?_ (fun _ _ _ failed => by cases failed)
    intro _ ended whole
    apply (Fallible.ensures_perform_bind (I := api) (.syncAll ⟨path⟩)).mpr
    intro reply after synced
    cases reply with
    | error source => exact fun failed => by cases failed
    | ok value =>
      cases synced
      exact fun _ => whole rfl

end Persist

/-- A key file is read exactly as digits or as an array, which exclude each other. What is written
for a key and an array of its bytes, whatever follows them, are read as that key. -/
theorem parseSecretKey_exact (spells : ∀ text bytes, sdk.bytesFromJson text = .ok bytes ↔ JsonBytes.Spells text.toList bytes) :
    (∀ contents key, parseSecretKey sdk contents = .ok key ↔ SpellsHex contents key ∨ SpellsArray contents key) ∧
    (∀ contents first second, SpellsHex contents first → ¬SpellsArray contents second) ∧
    ∀ (keypair : Keypair) (extra : Bytes) (array : String), JsonBytes.Spells array.toList (keypair.secretKey.bytes ++ extra) →
      heldKey? sdk (utf8 array) = some keypair.secretKey ∧
      ∀ (client : Unit) path label before after,
        Fallible.Executes (Disk.Serves sdk client) (persistKeyFile path label keypair) before (.ok ()) after →
        ∃ contents, after path = some (.file contents (some client)) ∧ heldKey? sdk contents = some keypair.secretKey := by
  refine ⟨fun contents key => parseSecretKey_iff spells, ?_, ?_⟩
  · intro contents first second digits array
    obtain ⟨extra, array⟩ := array
    exact spells_once array digits
  · intro keypair extra array spelled
    constructor
    · rw [heldKey?, fromUtf8?_eq_some.mpr rfl, Option.bind_some, (parseSecretKey_iff spells).mpr (.inr ⟨extra, spelled⟩)]
      rfl
    · intro client path label before after executed
      have written := Fallible.ensures_iff.mp (persistKeyFile_writes label keypair) _ _ executed rfl
      exact ⟨_, written, heldKey?_line keypair⟩

section Example
open Reference

def parsedArray : Option Bytes → Except String Bytes
  | some bytes => .ok bytes
  | none => .error "expected a byte array"

/-- The SDK of the example with a parser of byte arrays. -/
def readingSdk : Sdk :=
  { tables.sdk with
    bytesFromJson text := parsedArray (JsonBytes.read text.toList)
    bytesFromJson_array := by
      intro text bytes parsed
      cases found : JsonBytes.read text.toList with
      | none => rw [found] at parsed; cases parsed
      | some array =>
        obtain ⟨inner, ⟨before, after, _, _, shape⟩, _⟩ := JsonBytes.read_iff.mp found
        simp [shape] }

theorem readingSdk_spells (text : String) (bytes : Bytes) :
    readingSdk.bytesFromJson text = .ok bytes ↔ JsonBytes.Spells text.toList bytes := by
  rw [← JsonBytes.read_iff]
  change parsedArray (JsonBytes.read text.toList) = .ok bytes ↔ _
  cases JsonBytes.read text.toList <;> simp [parsedArray]

theorem parseSecretKey_exact_array : parseSecretKey readingSdk
    "[2,2,2,2,2,2,2,2, 2,2,2,2,2,2,2,2, 2,2,2,2,2,2,2,2, 2,2,2,2,2,2,2,2, 255]\n" = .ok authorityKeypair.secretKey :=
  ((parseSecretKey_exact readingSdk_spells).1 _ _).mpr (.inr ⟨[255], JsonBytes.read_iff.mp (by decide +kernel)⟩)

end Example
end ArchKit.Keys
