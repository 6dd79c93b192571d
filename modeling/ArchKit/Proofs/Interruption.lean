import ArchKit.Proofs.FaultFree
import ArchKit.Proofs.Publication
import ArchKit.Reference

/-! Publication after an earlier publication was interrupted. -/

namespace ArchKit
open Effects Idl Satellite Site Fallible

namespace Publisher
variable {ι : Type} {publisher : Publisher} {client : ι} {world : World ι} {always : World ι → Prop}

section Initialization
variable {base idlAddress : Pubkey} {prepared : PreparedIdl}
  (derived : deriveIdlAddresses publisher.sdk publisher.program = .ok (base, idlAddress))
  (valid : prepared.Valid publisher.codec)
  (signed : publisher.sdk.xOnlyPublicKey publisher.authorityKeypair = publisher.authority)
include derived valid signed

end Initialization

namespace Example
open Reference

end Example

end Publisher
end ArchKit
