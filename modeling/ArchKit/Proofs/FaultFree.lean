import ArchKit.Proofs.Growth
import ArchKit.Proofs.Upload

/-! Publication by a single run while no call fails. -/

namespace ArchKit
open Effects Idl Satellite Site Fallible

namespace Publisher
variable {ι : Type} {publisher : Publisher} {client : ι} {world : World ι}

section Signed
variable (signed : publisher.sdk.xOnlyPublicKey publisher.authorityKeypair = publisher.authority)
include signed

end Signed

end Publisher

namespace Site
variable (site : Site) (prepared : PreparedIdl)

end Site

namespace Publisher
variable {ι : Type} {publisher : Publisher} {client : ι} {world : World ι} {base idlAddress : Pubkey} {prepared : PreparedIdl}
  {allowResize : Bool}

end Publisher
end ArchKit
