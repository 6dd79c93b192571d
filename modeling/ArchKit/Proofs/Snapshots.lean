import ArchKit.Proofs.Sightings
import ArchKit.ToolkitReference

/-! What the commands that look at a chain print while others change it: the accounts as
they were at one moment of the command, with the decimals that their mints have for good. -/

namespace ArchKit
open Effects Fallible System Token TokenProgram

section Looking
variable {ι : Type} [DecidableEq ι] {sdk : TokenSdk} {reliable : Prop} {client : ι} {before middle after : Sessions ι}

/-- The user prints these lines. -/
structure Prints (sdk : TokenSdk) (reliable : Prop) (client : ι) (printed : List String) (before after : Sessions ι) : Prop where
  reaches : Reaches (Session.Serves (Node.tokens sdk) reliable) before after
  screen : after.state.screen client = before.state.screen client ++ printed

theorem Tool.println_delivers (line : String) : Delivers (desk sdk reliable client) (Tool.println line)
    fun _ before after => Prints sdk reliable client [line] before after := by
  refine (Delivers.perform (I := toolkit) _).mono ?_
  intro _ before after served
  obtain ⟨middle, waited, moved⟩ := served
  have step := moved.step
  obtain ⟨_, _, answered, _⟩ := moved
  refine ⟨waited.reaches.tail step, ?_⟩
  have shown : after.state.screen client = middle.state.screen client ++ [line] := by
    rw [show after.state = _ from answered]
    exact Function.update_self ..
  rw [shown, waits_screen waited]

theorem Tool.rpc_delivers {α : Type} (outcome : Except ArchError α) : Delivers (desk sdk reliable client) (Tool.rpc outcome)
    fun value before after => outcome = .ok value ∧ after = before := by
  refine (Delivers.ofExcept _).mono ?_
  intro value before after given
  exact ⟨mapError_eq_ok.mp (wrapError_eq_ok.mp given.1), given.2⟩

theorem Tool.printLines_delivers (lines : List String) : Delivers (desk sdk reliable client) (Tool.printLines lines)
    fun _ before after => Prints sdk reliable client lines before after := by
  induction lines with
  | nil =>
    intro before value same
    exact ⟨.refl, (List.append_nil _).symm⟩
  | cons line lines ih =>
    unfold Tool.printLines
    apply ((Tool.println_delivers line).bind fun _ => ih).mono
    intro _ before after steps
    obtain ⟨_, middle, first, rest⟩ := steps
    refine ⟨first.reaches.trans rest.reaches, ?_⟩
    rw [rest.screen, first.screen, List.append_assoc, List.singleton_append]

/-- What a report prints. -/
def Tool.Printed (pretty : Pretty) (json : Bool) (document : Json) (lines printed : List String) : Prop :=
  if json then ∃ text, pretty document = .ok text ∧ printed = [text] else printed = lines

theorem Tool.report_delivers (pretty : Pretty) (json : Bool) (document : Json) (lines : List String) :
    Delivers (desk sdk reliable client) (Tool.report pretty json document lines)
      fun _ before after => ∃ printed, Tool.Printed pretty json document lines printed ∧
        Prints sdk reliable client printed before after := by
  unfold Tool.report
  cases json with
  | false => exact (Tool.printLines_delivers lines).mono fun _ _ _ prints => ⟨lines, rfl, prints⟩
  | true =>
    apply ((Delivers.ofExcept _).bind fun text => Tool.println_delivers text).mono
    intro _ before after steps
    obtain ⟨text, _, ⟨rendered, same⟩, prints⟩ := steps
    subst same
    exact ⟨[text], ⟨text, mapError_eq_ok.mp (wrapError_eq_ok.mp rendered), rfl⟩, prints⟩

/-- At a moment in between, the ledger was as the printed lines show it. -/
def Reported (sdk : TokenSdk) (reliable : Prop) (client : ι) (shows : Ledger → Ledger → List String → Prop)
    (before after : Sessions ι) : Prop :=
  ∃ middle printed, Reaches (Session.Serves (Node.tokens sdk) reliable) before middle ∧
    Reaches (Session.Serves (Node.tokens sdk) reliable) middle after ∧
    after.state.screen client = before.state.screen client ++ printed ∧
    shows middle.state.world.ledger after.state.world.ledger printed

theorem Saw.reported {fact : Ledger → Prop} {shows : Ledger → Ledger → List String → Prop} {printed : List String}
    (saw : Saw sdk reliable client fact before middle) (prints : Prints sdk reliable client printed middle after)
    (implies : ∀ ledger, fact ledger → shows ledger after.state.world.ledger printed) :
    Reported sdk reliable client shows before after := by
  have screen := saw.passes.screen
  obtain ⟨moment, first, second, holds⟩ := saw
  exact ⟨moment, printed, first.reaches, second.reaches.trans prints.reaches, by rw [prints.screen, screen], implies _ holds⟩

end Looking

/-- The commands that look at the chain. -/
def Subcommand.inspects : Subcommand → Bool
  | .archBalance _ | .mintInfo _ | .tokenAccount _ | .tokenBalance _ | .tokenAccounts _ => true
  | _ => false

namespace CommandLine
variable {ι : Type} [DecidableEq ι] {reliable : Prop} {client : ι} {before after : Sessions ι}

/-- What a command prints of a ledger, with the decimals that the mints have in another one. -/
def Shows (sdk : TokenSdk) (pretty : Pretty) (json : Bool) (ledger final : Ledger) : Subcommand → List String → Prop
  | .archBalance args, printed => ∃ account info, parsePubkey args.account "account" = .ok account ∧
      ledger.accounts account = some info ∧
      Tool.Printed pretty json (ArchBalance.document account info.lamports) (ArchBalance.lines account info.lamports) printed
  | .mintInfo args, printed => ∃ mint : MintView, parsePubkey args.mint "mint" = .ok mint.address ∧
      mintAt sdk ledger mint.address = some mint.state ∧
      Tool.Printed pretty json (MintInfo.document mint) (MintInfo.lines mint) printed
  | .tokenAccount args, printed => ∃ view : TokenAccountView, parsePubkey args.address "token account" = .ok view.address ∧
      accountAt sdk ledger view.address = some view.state ∧ Counts sdk final view.state.mint view.mint.state.decimals ∧
      Tool.Printed pretty json (TokenAccountCommand.document view) (TokenAccountCommand.lines view) printed
  | .tokenBalance args, printed => ∃ (owner mintAddress address : Pubkey) (mint : MintView) (account : Option TokenAccount),
      parsePubkey args.owner "owner" = .ok owner ∧ parsePubkey args.mint "mint" = .ok mintAddress ∧
      address = (associatedTokenAddress sdk owner mintAddress).1 ∧ Owned sdk owner mintAddress address ledger account ∧
      Counts sdk final mintAddress mint.state.decimals ∧
      Tool.Printed pretty json (TokenBalance.document owner mintAddress address mint account)
        (TokenBalance.lines owner mintAddress address mint account) printed
  | .tokenAccounts args, printed => ∃ owner views, parsePubkey args.owner "owner" = .ok owner ∧ Showing sdk owner views ledger ∧
      (∀ view ∈ views, Counts sdk final view.state.mint view.mint.state.decimals) ∧
      Tool.Printed pretty json (TokenAccounts.document sdk owner views) (TokenAccounts.lines sdk owner views) printed
  | _, _ => False

variable {libraries : Libraries} {line : CommandLine}

theorem Shows.lasts {sdk : TokenSdk} {pretty : Pretty} {json : Bool} {ledger : Ledger} {command : Subcommand} {printed : List String}
    (shows : Shows sdk pretty json ledger before.state.world.ledger command printed)
    (reached : Reaches (Session.Serves (Node.tokens sdk) reliable) before after) :
    Shows sdk pretty json ledger after.state.world.ledger command printed := by
  cases command with
  | tokenAccount args =>
    obtain ⟨view, named, held, counts, prints⟩ := shows
    exact ⟨view, named, held, Counts.lasts counts reached, prints⟩
  | tokenBalance args =>
    obtain ⟨owner, mintAddress, address, mint, account, first, second, derived, owned, counts, prints⟩ := shows
    exact ⟨owner, mintAddress, address, mint, account, first, second, derived, owned, Counts.lasts counts reached, prints⟩
  | tokenAccounts args =>
    obtain ⟨owner, views, named, showing, counts, prints⟩ := shows
    exact ⟨owner, views, named, showing, fun view member => Counts.lasts (counts view member) reached, prints⟩
  | _ => exact shows

section Commands
variable {sdk : TokenSdk} {pretty : Pretty} {json : Bool}

theorem archBalance_delivers {args : ArchBalance.Args} : Delivers (desk sdk reliable client) (ArchBalance.run pretty args json)
    fun _ before after =>
      Reported sdk reliable client (fun ledger final => Shows sdk pretty json ledger final (.archBalance args)) before after := by
  unfold ArchBalance.run
  apply ((Delivers.ofExcept _).bind fun account => (Tool.readAccountInfo_delivers account).bind fun reply =>
    (Tool.rpc_delivers reply).bind fun info => Tool.report_delivers pretty json (ArchBalance.document account info.lamports)
      (ArchBalance.lines account info.lamports)).mono
  intro _ before after steps
  obtain ⟨account, _, ⟨parsed, same⟩, reply, middle, saw, info, _, ⟨answered, still⟩, printed, prints, shown⟩ := steps
  subst same answered still
  apply saw.reported shown
  intro ledger present
  exact ⟨account, info, wrapError_eq_ok.mp parsed, present, prints⟩

theorem mintInfo_delivers {args : MintInfo.Args} : Delivers (desk sdk reliable client) (MintInfo.run sdk pretty args json)
    fun _ before after =>
      Reported sdk reliable client (fun ledger final => Shows sdk pretty json ledger final (.mintInfo args)) before after := by
  unfold MintInfo.run
  apply ((Delivers.ofExcept _).bind fun address => (readMint_delivers address).wrap.left.bind fun mint =>
    Tool.report_delivers pretty json (MintInfo.document mint) (MintInfo.lines mint)).mono
  intro _ before after steps
  obtain ⟨address, _, ⟨parsed, same⟩, mint, middle, saw, printed, prints, shown⟩ := steps
  subst same
  apply saw.reported shown
  intro ledger holds
  obtain ⟨named, found⟩ := holds
  subst named
  exact ⟨mint, wrapError_eq_ok.mp parsed, found, prints⟩

theorem tokenAccount_delivers {args : TokenAccountCommand.Args} :
    Delivers (desk sdk reliable client) (TokenAccountCommand.run sdk pretty args json) fun _ before after =>
      Reported sdk reliable client (fun ledger final => Shows sdk pretty json ledger final (.tokenAccount args)) before after := by
  unfold TokenAccountCommand.run
  apply ((Delivers.ofExcept _).bind fun address => (readTokenAccount_delivers address).wrap.left.bind fun view =>
    Tool.report_delivers pretty json (TokenAccountCommand.document view) (TokenAccountCommand.lines view)).mono
  intro _ before after steps
  obtain ⟨address, _, ⟨parsed, same⟩, view, middle, ⟨saw, counted⟩, printed, prints, shown⟩ := steps
  subst same
  apply saw.reported shown
  intro ledger holds
  obtain ⟨named, held⟩ := holds
  subst named
  exact ⟨view, wrapError_eq_ok.mp parsed, held, Counts.lasts counted.counts shown.reaches, prints⟩

theorem tokenBalance_delivers {args : TokenBalance.Args} :
    Delivers (desk sdk reliable client) (TokenBalance.run sdk pretty args json) fun _ before after =>
      Reported sdk reliable client (fun ledger final => Shows sdk pretty json ledger final (.tokenBalance args)) before after := by
  unfold TokenBalance.run
  apply ((Delivers.ofExcept _).bind fun owner => (Delivers.ofExcept _).bind fun mintAddress =>
    (readAssociatedBalance_delivers owner mintAddress).left.bind fun found =>
      Tool.report_delivers pretty json (TokenBalance.document owner mintAddress found.1 found.2.1 found.2.2)
        (TokenBalance.lines owner mintAddress found.1 found.2.1 found.2.2)).mono
  intro _ before after steps
  obtain ⟨owner, _, ⟨first, same⟩, mintAddress, _, ⟨second, still⟩, found, middle, ⟨derived, saw, counted⟩, printed, prints, shown⟩ := steps
  subst still same
  apply saw.reported shown
  intro ledger owned
  exact ⟨owner, mintAddress, found.1, found.2.1, found.2.2, wrapError_eq_ok.mp first, wrapError_eq_ok.mp second, derived, owned,
    Counts.lasts counted.counts shown.reaches, prints⟩

theorem tokenAccounts_delivers {args : TokenAccounts.Args} :
    Delivers (desk sdk reliable client) (TokenAccounts.run sdk pretty args json) fun _ before after =>
      Reported sdk reliable client (fun ledger final => Shows sdk pretty json ledger final (.tokenAccounts args)) before after := by
  unfold TokenAccounts.run
  apply ((Delivers.ofExcept _).bind fun owner => (listTokenAccounts_delivers owner).wrap.left.bind fun views =>
    Tool.report_delivers pretty json (TokenAccounts.document sdk owner views) (TokenAccounts.lines sdk owner views)).mono
  intro _ before after steps
  obtain ⟨owner, _, ⟨parsed, same⟩, views, middle, ⟨saw, counted⟩, printed, prints, shown⟩ := steps
  subst same
  apply saw.reported shown
  intro ledger showing
  exact ⟨owner, views, wrapError_eq_ok.mp parsed, showing,
    fun view member => Counts.lasts (counted view member).counts shown.reaches, prints⟩

end Commands

theorem configured_delivers {sdk : TokenSdk} {post : Unit → Sessions ι → Sessions ι → Prop} {next : Config → Tool Unit}
    (delivers : ∀ config, Delivers (desk sdk reliable client) (next config) post) :
    Delivers (desk sdk reliable client) (line.configured next) post := by
  unfold configured
  apply ((Delivers.ofExcept _).bind delivers).mono
  intro value before after steps
  obtain ⟨_, _, ⟨_, same⟩, rest⟩ := steps
  subst same
  exact rest

theorem run_delivers (inspects : line.command.inspects = true) :
    Delivers (desk libraries.toTokenSdk reliable client) (line.run libraries) fun _ before after =>
      Reported libraries.toTokenSdk reliable client
        (fun ledger final => Shows libraries.toTokenSdk libraries.pretty line.json ledger final line.command) before after := by
  unfold run
  generalize line.command = command at inspects ⊢
  cases command with
  | archBalance args => exact configured_delivers fun _ => archBalance_delivers
  | mintInfo args => exact configured_delivers fun _ => mintInfo_delivers
  | tokenAccount args => exact configured_delivers fun _ => tokenAccount_delivers
  | tokenBalance args => exact configured_delivers fun _ => tokenBalance_delivers
  | tokenAccounts args => exact configured_delivers fun _ => tokenAccounts_delivers
  | _ => cases inspects

/-- Whatever the others do, a command that looks at the chain and reports success has
printed, and nothing else, the accounts as they were at one moment of its run, each amount
with the decimals that its mint has in the end. -/
theorem snapshot (libraries : Libraries) (reliable : Prop) (line : CommandLine) (client : ι) (before after : Sessions ι)
    (inspects : line.command.inspects = true) (started : before.clients client = ExceptT.run (line.run libraries))
    (reached : Reaches (Session.Serves (Node.tokens libraries.toTokenSdk) reliable) before after)
    (finished : after.clients client = .pure (.ok ())) :
    ∃ moment printed, Reaches (Session.Serves (Node.tokens libraries.toTokenSdk) reliable) before moment ∧
      Reaches (Session.Serves (Node.tokens libraries.toTokenSdk) reliable) moment after ∧
      after.state.screen client = before.state.screen client ++ printed ∧
      Shows libraries.toTokenSdk libraries.pretty line.json moment.state.world.ledger after.state.world.ledger line.command printed := by
  have delivers : Program.Ensures (desk libraries.toTokenSdk reliable client) (before.clients client)
      (fun outcome last => ∀ value, outcome = .ok value → Reported libraries.toTokenSdk reliable client (fun ledger final =>
        Shows libraries.toTokenSdk libraries.pretty line.json ledger final line.command) before last) before := by
    rw [started]
    exact run_delivers inspects before
  obtain ⟨last, holds, waited⟩ := reached.ensures finished delivers
  obtain ⟨moment, printed, earlier, later, screen, shows⟩ := holds () rfl
  exact ⟨moment, printed, earlier, later.trans waited.reaches, (waits_screen waited).trans screen, shows.lasts waited.reaches⟩

namespace Example

def sessions : Sessions Bool :=
  ⟨⟨Submission.Example.start, fun _ => []⟩, fun client => ExceptT.run ((if client then looking else paying).run shipped)⟩

/-- The payment comes between the look and the print. -/
def schedule : List (Bool × Unit) :=
  List.replicate 2 (true, ()) ++ List.replicate 8 (false, ()) ++ List.replicate 7 (true, ())

def play : Option (Sessions Bool) :=
  System.play (fun client _ session operation => Session.respond Submission.Example.process Submission.Example.desk client session operation)
    schedule sessions

end Example

open Example in
theorem snapshot_beside_payment : ∃ after moment printed, play = some after ∧
    (accountAt shipped.toTokenSdk after.state.world.ledger TokenTransfer.Example.holder).map TokenAccount.amount = some 500000 ∧
    "Raw amount: 2000000" ∈ printed ∧ Reaches (Session.Serves Submission.Example.process True) moment after ∧
    Shows shipped.toTokenSdk shipped.pretty false moment.state.world.ledger after.state.world.ledger looking.command printed := by
  have observed : play.map (fun after => (success? (after.clients true), decide ("Raw amount: 2000000" ∈ after.state.screen true),
      (accountAt shipped.toTokenSdk after.state.world.ledger TokenTransfer.Example.holder).map TokenAccount.amount)) =
      some (some true, true, some 500000) := by
    decide +kernel
  obtain ⟨after, played, seen⟩ := Option.map_eq_some_iff.mp observed
  simp only [Prod.mk.injEq, decide_eq_true_eq] at seen
  obtain ⟨returned, amount, left⟩ := seen
  obtain ⟨outcome, finished, succeeded⟩ := success?_eq_some returned
  have reached : Reaches (Session.Serves Submission.Example.process True) sessions after :=
    System.play_reaches (fun _ _ _ _ _ _ responded => Session.respond_serves responded) schedule sessions after played
  cases outcome with
  | error error => cases succeeded
  | ok value =>
    obtain ⟨moment, printed, _, later, screen, shows⟩ := snapshot shipped True looking true sessions after rfl rfl reached finished
    have all : after.state.screen true = printed := screen.trans (List.nil_append _)
    exact ⟨after, moment, printed, played, left, all ▸ amount, later, shows⟩

end CommandLine
end ArchKit
