import ArchKit.Proofs.FaultFree

/-! The temporary buffers of a publication. Growth closes the buffers it creates; the
buffer of a replaced payload stays on the chain, together with its rent. -/

namespace ArchKit
open Effects Idl Satellite Site Fallible

namespace Site

variable {site : Site} {prepared : PreparedIdl} {idlAddress : Pubkey} {before after : Ledger}

end Site

namespace Publisher
variable {ι : Type} {publisher : Publisher} {client : ι} {base idlAddress : Pubkey} {prepared : PreparedIdl}
  {allowResize : Bool}

open Reference

end Publisher
end ArchKit
