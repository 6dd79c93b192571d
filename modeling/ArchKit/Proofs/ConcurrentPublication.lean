import ArchKit.Proofs.Publication
import ArchKit.Reference

/-! Any number of publications, in any order and wherever each of them stops. -/

namespace ArchKit.Site
open Effects Radix Idl Satellite

section Launching
variable {ι : Type} (site : Site) (idlAddress : Pubkey)

/-- Runs of `publish` about to start on a chain whose canonical account is populated. -/
structure Launched (invocations : ι → Invocation) (account : AccountInfo) (published : Bytes)
    (start : System api ι (World ι) (Except CliError Unit)) : Prop where
  derived : ∃ base, deriveIdlAddresses site.sdk site.program = .ok (base, idlAddress)
  prepared : ∀ run, ∃ raw requested,
    prepareBytes site.codec raw site.program requested = .ok (invocations run).prepared
  clients : ∀ run, start.clients run = ExceptT.run
    ((site.publisher (invocations run)).publish (invocations run).prepared (invocations run).allowResize)
  populated : start.state.ledger.accounts idlAddress = some account
  held : site.Holds account published
  generated : start.state.generated = []
  log : start.state.log = []

/-- A payload that was published before, or that one of the runs has prepared. -/
def Offered (invocations : ι → Invocation) (published payload : Bytes) : Prop :=
  payload = published ∨ ∃ run, payload = (invocations run).prepared.compressed

variable {site idlAddress} {invocations : ι → Invocation} {account : AccountInfo} {published : Bytes}
  {start : System api ι (World ι) (Except CliError Unit)}

theorem Launched.outlined (launched : site.Launched idlAddress invocations account published start)
    (admissible : ι → World ι → Request → World ι → Prop) (verified : ι → World ι → Prop)
    (kept : ∀ run, (site.rules idlAddress (Offered invocations published) admissible).Stable run (verified run))
    (decodes : ∀ run world current payload, world.ledger.accounts idlAddress = some current →
      site.Holds current payload →
      decompressJson site.codec payload = .ok (invocations run).prepared.expected → verified run world) :
    Outlined (site.rules idlAddress (Offered invocations published) admissible)
      (fun run outcome world => ∀ value, outcome = .ok value → verified run world) start where
  invariant := by
    refine ⟨⟨account, published, launched.populated, launched.held, .inl rfl⟩, ?_, ?_⟩
    · simp [World.addresses, launched.generated]
    · simp [World.addresses, launched.generated]
  clients run := by
    obtain ⟨base, derived⟩ := launched.derived
    obtain ⟨raw, requested, prepared⟩ := launched.prepared run
    refine ⟨fun _ => True, Rules.Stable.true, trivial, ?_⟩
    rw [launched.clients run]
    exact (site.publisher (invocations run)).publish_achieves derived
      (prepareBytes_valid prepared) (.inr ⟨run, rfl⟩) (kept run)
      (fun world current payload _ found held read => decodes run world current payload found held read)

/-- The canonical account never shrinks. -/
def Grows (idlAddress : Pubkey) (before after : World ι) : Prop :=
  ∀ account, before.ledger.accounts idlAddress = some account →
    ∃ updated, after.ledger.accounts idlAddress = some updated ∧ account.data.length ≤ updated.data.length

/-- The part of the header that no handler rewrites. -/
theorem Holds.fixed {current : AccountInfo} {payload : Bytes} (held : site.Holds current payload) :
    current.owner = site.program ∧ current.data.take 40 = idlAccountDiscriminator ++ site.authority.bytes := by
  obtain ⟨owner, _, slack, layout⟩ := held
  refine ⟨owner, ?_⟩
  rw [layout, header]
  simp only [List.append_assoc]
  rw [← List.append_assoc]
  exact List.take_left' (by simp [idlAccountDiscriminator, site.authority.size])

end Launching

namespace Example
open Reference Chain.Choice

def invocations : Bool → Invocation
  | false => ⟨.bitcoin, authorityKeypair, preparedIdl plain (some 200), true⟩
  | true => ⟨.bitcoin, authorityKeypair, preparedIdl documented none, true⟩

/-- Two runs on a chain that holds nothing but the canonical account: the first asks for
more capacity, the second publishes another document. -/
def start : System api Bool (World Bool) (Except CliError Unit) where
  state := chain Bool (some (published plain 110))
  clients run := ExceptT.run ((site.publisher (invocations run)).publish (invocations run).prepared
    (invocations run).allowResize)

theorem launched : site.Launched canonical invocations (published plain 110) plain.compressed start where
  derived := ⟨base, derives⟩
  prepared run := by
    cases run with
    | false => exact ⟨plain.text, some 200, prepares_plain⟩
    | true => exact ⟨documented.text, none, prepares_documented⟩
  clients _ := rfl
  populated := by decide +kernel
  held := payload?_eq_some.mp (by decide +kernel)
  generated := rfl
  log := rfl

abbrev play (schedule : List (Bool × Chain.Choice)) : Option (System api Bool (World Bool) (Except CliError Unit)) :=
  System.play (fun client choice world operation => Chain.attempt site.sdk site.program client world choice operation)
    schedule start

theorem play_reaches {schedule : List (Bool × Chain.Choice)} {final : System api Bool (World Bool) (Except CliError Unit)}
    (played : play schedule = some final) : System.Reaches (Chain.Serves site.sdk site.program) start final :=
  System.play_reaches (fun _ _ _ _ _ _ attempted => Chain.attempt_serves attempted) schedule start final played

/-- The second run from its first request to its last. -/
def upgrade : List (Bool × Chain.Choice) :=
  [(true, honest), (true, draw thirdBuffer)] ++ List.replicate 10 (true, honest)

end Example

section Tearing
variable {ι : Type} [DecidableEq ι] {site : Site} {idlAddress : Pubkey} {invocations : ι → Invocation}
  {account : AccountInfo} {published : Bytes} {start : System api ι (World ι) (Except CliError Unit)}

private theorem unrestricted {first last : System api ι (World ι) (Except CliError Unit)}
    (run : System.Reaches (Chain.Serves site.sdk site.program) first last) :
    System.Reaches (site.rules idlAddress (Offered invocations published) (fun _ _ _ _ => True)).service first last :=
  run.mono (fun _ _ _ _ _ served => ⟨served, trivial⟩)

theorem published_never_torn (launched : site.Launched idlAddress invocations account published start)
    {earlier later : System api ι (World ι) (Except CliError Unit)}
    (reached : System.Reaches (Chain.Serves site.sdk site.program) start earlier)
    (continued : System.Reaches (Chain.Serves site.sdk site.program) earlier later) :
    ∃ before after payload, earlier.state.ledger.accounts idlAddress = some before ∧
      later.state.ledger.accounts idlAddress = some after ∧
      validateIdlAccount after site.program (some site.authority) =
        .ok ⟨idlHeaderLen, idlHeaderLen + payload.length⟩ ∧
      slice after.data idlHeaderLen (idlHeaderLen + payload.length) = payload ∧
      (payload = published ∨ ∃ run, payload = (invocations run).prepared.compressed) ∧
      after.owner = account.owner ∧ after.data.take 40 = account.data.take 40 ∧
      before.data.length ≤ after.data.length := by
  have outlined := launched.outlined (fun _ _ _ _ => True) (fun _ _ => True)
    (fun _ => Rules.Stable.true) (fun _ _ _ _ _ _ _ => trivial)
  have middle := outlined.reaches (unrestricted reached)
  have final := middle.reaches (unrestricted continued)
  have grows : Grows idlAddress earlier.state later.state := by
    apply middle.moves (unrestricted continued)
    · exact fun _ account found => ⟨account, found, Nat.le_refl _⟩
    · intro first second third one two account found
      obtain ⟨updated, found, short⟩ := one account found
      obtain ⟨final, found, long⟩ := two updated found
      exact ⟨final, found, Nat.le_trans short long⟩
    · intro client first second sound _ moves account found
      obtain ⟨current, payload, found', held, _⟩ := sound.canonical
      cases found.symm.trans found'
      obtain ⟨updated, _, kept, _, short, _⟩ := moves.canonical account payload found held
      exact ⟨updated, kept, short⟩
  obtain ⟨before, _, found, _, _⟩ := middle.invariant.canonical
  obtain ⟨after, payload, kept, held, offered⟩ := final.invariant.canonical
  obtain ⟨updated, found', short⟩ := grows before found
  cases kept.symm.trans found'
  refine ⟨before, after, payload, found, kept, validateIdlAccount_ok held, payloadAt_range held, offered, ?_, ?_, short⟩
  · rw [held.fixed.1, launched.held.fixed.1]
  · rw [held.fixed.2, launched.held.fixed.2]

end Tearing

open Example in
theorem published_never_torn_upgrade : ∃ final, play upgrade = some final ∧
    ∃ before after payload, start.state.ledger.accounts Reference.canonical = some before ∧
      final.state.ledger.accounts Reference.canonical = some after ∧
      validateIdlAccount after Reference.site.program (some Reference.site.authority) =
        .ok ⟨idlHeaderLen, idlHeaderLen + payload.length⟩ ∧
      slice after.data idlHeaderLen (idlHeaderLen + payload.length) = payload ∧
      (payload = Reference.plain.compressed ∨ ∃ run, payload = (invocations run).prepared.compressed) ∧
      after.owner = (Reference.published Reference.plain 110).owner ∧
      after.data.take 40 = (Reference.published Reference.plain 110).data.take 40 ∧
      before.data.length ≤ after.data.length := by
  obtain ⟨final, played⟩ := Option.isSome_iff_exists.mp (show (play upgrade).isSome by decide +kernel)
  exact ⟨final, played, published_never_torn launched .refl (play_reaches played)⟩

section Surviving
variable {ι : Type} [DecidableEq ι] {site : Site} {idlAddress : Pubkey} {invocations : ι → Invocation}
  {account : AccountInfo} {published : Bytes} {start : System api ι (World ι) (Except CliError Unit)}

/-- The runs other than `winner` restore only payloads that are still in place. -/
def RestoresCurrent (idlAddress : Pubkey) (winner client : ι) (before : World ι) (operation : Request)
    (after : World ι) : Prop :=
  client ≠ winner → ∀ transaction ledger backup saved payload, operation = .sendTransaction transaction →
    after = before.commit client transaction ledger → site.IsGrowth idlAddress transaction backup →
    before.ledger.accounts backup = some saved → site.Holds saved payload →
    ∃ current, before.ledger.accounts idlAddress = some current ∧ site.Holds current payload

/-- A run of `publish` that returned keeps its document published, whatever the other
runs do short of publishing their own, as long as they only restore what is in place. -/
theorem published_survives (launched : site.Launched idlAddress invocations account published start) (winner : ι)
    {final : System api ι (World ι) (Except CliError Unit)}
    (reached : System.Reaches (fun client before operation reply after =>
      Chain.Serves site.sdk site.program client before operation reply after ∧
        site.RestoresCurrent idlAddress winner client before operation after) start final)
    (returned : final.clients winner = .pure (.ok ()))
    (unpublished : ∀ entry ∈ final.state.log, entry.client ≠ winner → ¬site.IsSwap idlAddress entry.transaction) :
    ∃ current payload, final.state.ledger.accounts idlAddress = some current ∧ site.Holds current payload ∧
      decompressJson site.codec payload = .ok (invocations winner).prepared.expected := by
  let shown (world : World ι) : Prop := ∃ current payload, world.ledger.accounts idlAddress = some current ∧
    site.Holds current payload ∧ decompressJson site.codec payload = .ok (invocations winner).prepared.expected
  let swapped (world : World ι) : Prop := ∃ entry ∈ world.log, entry.client ≠ winner ∧
    site.IsSwap idlAddress entry.transaction
  have outlined := launched.outlined (site.RestoresCurrent idlAddress winner)
    (fun run world => run = winner → swapped world ∨ shown world) ?_ ?_
  · rcases (outlined.reaches reached).returned returned () rfl rfl with ⟨entry, member, other, swap⟩ | shown
    · exact absurd swap (unpublished entry member other)
    · exact shown
  · intro run other different before after sound _ moves holds same
    subst same
    rcases holds rfl with ⟨entry, member, foreign, swap⟩ | ⟨current, payload, found, held, read⟩
    · exact .inl ⟨entry, moves.log.subset member, foreign, swap⟩
    · obtain ⟨updated, replacement, kept, holds, _, same | ⟨⟨transaction, ledger, committed, admitted, cause⟩⟩⟩ :=
        moves.canonical current payload found held
      · subst same
        exact .inr ⟨updated, _, kept, holds, read⟩
      rcases cause with swap | ⟨backup, saved, growth, shown, restored⟩
      · refine .inl ⟨⟨other, transaction, .processed⟩, ?_, different, swap⟩
        rw [committed]
        exact List.mem_append_right _ (List.mem_singleton.mpr rfl)
      · obtain ⟨present, found', same⟩ := admitted different transaction ledger backup saved replacement rfl committed
          growth shown restored
        cases found.symm.trans found'
        cases held.unique same
        exact .inr ⟨updated, _, kept, holds, read⟩
  · intro run world current payload found held read same
    subst same
    exact .inr ⟨current, payload, found, held, read⟩

end Surviving

namespace Example
open Reference Chain.Choice

/-- The first run takes its backup, the second run publishes, and the first run then
restores the backup and loses its connection. -/
def overtaken : List (Bool × Chain.Choice) :=
  [(false, honest), (false, draw firstBuffer), (false, honest), (false, honest), (false, honest), (false, honest),
    (false, draw secondBuffer), (false, honest), (false, honest), (false, honest)] ++ upgrade ++
    List.replicate 3 (false, honest) ++ [(false, lose)]

end Example

open Example Reference in
theorem published_overwritten : ∃ final, site.Launched canonical invocations (published plain 110) plain.compressed start ∧
    System.Reaches (Chain.Serves site.sdk site.program) start final ∧ final.clients true = .pure (.ok ()) ∧
    (∃ error, final.clients false = .pure (.error error)) ∧
    (∀ entry ∈ final.state.log, entry.client ≠ true → ¬site.IsSwap canonical entry.transaction) ∧
    ¬∃ current payload, final.state.ledger.accounts canonical = some current ∧ site.Holds current payload ∧
      decompressJson site.codec payload = .ok (invocations true).prepared.expected := by
  have observed : (play overtaken).map (fun final => ((final.clients true).value?, (final.clients false).value?,
      (final.state.log.all fun entry => entry.client || entry.transaction.message.instructions.length != 1),
      (final.state.ledger.accounts canonical).bind (payload? site.program site.authority))) =
      some (some (.ok ()), some (.error (.archRpc (.other "connection lost"))), true, some plain.compressed) := by
    decide +kernel
  obtain ⟨final, played, shown⟩ := Option.map_eq_some_iff.mp observed
  obtain ⟨second, first, unpublished, kept⟩ : _ ∧ _ ∧ _ ∧ _ := by simpa only [Prod.mk.injEq] using shown
  refine ⟨final, launched, play_reaches played, Program.value?_eq_some.mp second, ⟨_, Program.value?_eq_some.mp first⟩, ?_, ?_⟩
  · intro entry member other
    have long := List.all_eq_true.mp unpublished entry member
    intro swap
    obtain ⟨buffer, instructions⟩ := swap
    simp [instructions, other] at long
  · intro survives
    obtain ⟨current, payload, found, held, read⟩ := survives
    rw [found, Option.bind_some, payload?_eq_some.mpr held] at kept
    cases kept
    exact absurd read (by decide +kernel)

open Example Reference in
theorem published_survives_upgrade : ∃ final,
    System.play (fun client choice world operation =>
      cond client (Chain.attempt site.sdk site.program client world choice operation) none) upgrade start =
      some final ∧
    ∃ current payload, final.state.ledger.accounts canonical = some current ∧ site.Holds current payload ∧
      decompressJson site.codec payload = .ok (invocations true).prepared.expected := by
  have observed : (System.play (fun client choice world operation =>
      cond client (Chain.attempt site.sdk site.program client world choice operation) none) upgrade start).map
      (fun final => ((final.clients true).value?, final.state.log.all fun entry => entry.client)) =
      some (some (.ok ()), true) := by
    decide +kernel
  obtain ⟨final, played, shown⟩ := Option.map_eq_some_iff.mp observed
  obtain ⟨finished, own⟩ : _ ∧ _ := by simpa only [Prod.mk.injEq] using shown
  refine ⟨final, played, published_survives launched true ?_ (Program.value?_eq_some.mp finished) ?_⟩
  · refine System.play_reaches ?_ upgrade start final played
    intro client choice world operation reply after attempted
    cases client with
    | true => exact ⟨Chain.attempt_serves attempted, fun different => absurd rfl different⟩
    | false => cases attempted
  · intro entry member other
    exact absurd (List.all_eq_true.mp own entry member) other

end ArchKit.Site
