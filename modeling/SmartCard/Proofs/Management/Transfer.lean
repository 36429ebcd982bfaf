import SmartCard.Proofs.Channel.Established
import SmartCard.Proofs.Management.Blocks
import SmartCard.Proofs.Management.Operations
import SmartCard.Proofs.Tlv.LengthValue

/-!
# Loading a file

A file is loaded by a plan: one command that prepares the load, and the LOAD commands that carry the
file. The plan is handed to the channel command by command, up to the first one that the card does
not accept (`ContentManager.Transfer`). A loop that sends blocks makes such a transfer and reports
each accepted block (`ContentManager.exists_transfer_sendBlocks`); the rest of the operation is put
before it.

`ContentManager.loading_of_reachable` says all that loading a file over an established channel does
(`ContentManager.Loading`): when nothing is sent, and what happens otherwise. The check of the block
size is what keeps every LOAD command within the limit of the session, which no accepted command
changes. -/

namespace SmartCard.ContentManager

open SecureChannel

variable {L : Type} [CardLink L] {ch next after : SecureChannel L} {command : Command}
  {plan accepted commands : List Command} {outcome : Except Error Unit} {e : Error}

/-! ### Transfers -/

/-- Commands that the card accepts one after the other. -/
inductive Accepts : SecureChannel L → List Command → SecureChannel L → Prop
  | nil {ch : SecureChannel L} : Accepts ch [] ch
  | cons {ch next after : SecureChannel L} {command : Command} {payload : Bytes}
    {commands : List Command} (h : ch.transmit command = (.ok (.success payload), next))
    (hrest : Accepts next commands after) : Accepts ch (command :: commands) after

/-- A command that is not accepted: it has no answer, or the answer is no success. -/
inductive Refuses (ch : SecureChannel L) (command : Command) : Error → SecureChannel L → Prop
  | failed {e : Error} {after : SecureChannel L} (h : ch.transmit command = (.error e, after)) :
    Refuses ch command e after
  | refused {response : Response} {after : SecureChannel L}
    (h : ch.transmit command = (.ok response, after)) (hstatus : response.status ≠ .success) :
    Refuses ch command (.cardStatus response.status) after

/-- **A plan is handed to a channel** up to the first command that is not accepted, which is the
last one to be handed over. -/
inductive Transfer (ch : SecureChannel L) (plan : List Command) :
    List Command → Except Error Unit → SecureChannel L → Prop
  | complete {after : SecureChannel L} (h : Accepts ch plan after) :
    Transfer ch plan plan (.ok ()) after
  | stopped {accepted rest : List Command} {command : Command} {next after : SecureChannel L}
    {e : Error} (hplan : plan = accepted ++ command :: rest) (h : Accepts ch accepted next)
    (hrefused : Refuses next command e after) : Transfer ch plan accepted (.error e) after

/-- A command that is accepted goes before the rest of the plan. -/
theorem Transfer.cons {payload : Bytes} (h : ch.transmit command = (.ok (.success payload), next))
    (hrest : Transfer next plan accepted outcome after) :
    Transfer ch (command :: plan) (command :: accepted) outcome after := by
  cases hrest with
  | complete haccepts => exact .complete (.cons h haccepts)
  | stopped hplan haccepts hrefused =>
    exact .stopped (by rw [hplan, List.cons_append]) (.cons h haccepts) hrefused

/-- A command that is not accepted ends the plan. -/
theorem Transfer.refused (h : Refuses ch command e after) :
    Transfer ch (command :: plan) [] (.error e) after :=
  .stopped (List.nil_append _).symm .nil h

/-- **A transfer succeeds exactly when the whole plan was accepted.** -/
theorem Transfer.ok_iff (h : Transfer ch plan accepted outcome after) :
    outcome = .ok () ↔ accepted = plan := by
  cases h with
  | complete _ => simp
  | @stopped _ rest command _ _ _ hplan _ _ =>
    rw [hplan]
    constructor
    · intro hok
      cases hok
    · intro heq
      -- a plan that stopped has at least the command it stopped at
      have hlen := congrArg List.length heq
      rw [List.length_append, List.length_cons] at hlen
      omega

theorem Transfer.accepts (h : Transfer ch plan accepted outcome after) :
    ∃ next, Accepts ch accepted next := by
  cases h with
  | complete haccepts => exact ⟨after, haccepts⟩
  | stopped _ haccepts _ => exact ⟨_, haccepts⟩

/-- **A plan that the card accepts is transferred as a whole.** -/
theorem Transfer.eq_of_accepts {last : SecureChannel L} (haccepts : Accepts ch plan last)
    (h : Transfer ch plan accepted outcome after) : accepted = plan := by
  -- on the accepted plan, for the transfer of what is left of it
  induction haccepts generalizing accepted with
  | nil =>
    cases h with
    | complete _ => rfl
    -- an empty plan has no command to stop at
    | stopped hplan _ _ => exact absurd hplan.symm (List.append_ne_nil_of_right_ne_nil _ (by simp))
  | @cons ch next _ command payload commands hsent _ ih =>
    cases h with
    | complete _ => rfl
    | stopped hplan haccepted hrefused =>
      cases haccepted with
      | nil =>
        -- the command that stopped the transfer is the one that was accepted
        obtain ⟨rfl, rfl⟩ := List.cons.inj hplan
        cases hrefused with
        | failed hfailed => rw [hsent] at hfailed; cases hfailed
        | refused hanswer hstatus =>
          rw [hsent] at hanswer
          cases hanswer
          exact absurd rfl hstatus
      | cons hfirst hrest =>
        -- the first command was accepted in both, so the rest of the plan is compared
        obtain ⟨rfl, htail⟩ := List.cons.inj hplan
        rw [hsent] at hfirst
        cases hfirst
        rw [ih (.stopped htail hrest hrefused)]

theorem Transfer.ok_iff_exists_accepts (h : Transfer ch plan accepted outcome after) :
    outcome = .ok () ↔ ∃ last, Accepts ch plan last := by
  rw [h.ok_iff]
  constructor
  · rintro rfl
    exact h.accepts
  · rintro ⟨last, haccepts⟩
    exact h.eq_of_accepts haccepts

/-- Accepted commands leave an established channel at the same level. -/
theorem Accepts.exists_works (h : Accepts ch commands after) {session : Session}
    (hworks : ch.Works session) :
    ∃ session', after.Works session' ∧ session'.level = session.level := by
  -- on the commands, for the session that each of them is sent with
  induction h generalizing session with
  | nil => exact ⟨session, hworks, rfl⟩
  | cons hsent _ ih =>
    -- the channel works after each command, which is what the next one needs
    obtain ⟨answered, hnext, hlevel, -⟩ := hworks.goesOn hsent
    obtain ⟨session', hafter, hlevel'⟩ := ih hnext
    exact ⟨session', hafter, hlevel'.trans hlevel⟩

/-- Commands within the limit are accepted by a card that has a success in store for each. -/
theorem exists_accepts {session : Session} (hworks : ch.Works session)
    (hplain : session.level.rMac = false)
    (hgives : CardLink.Gives ch.link (List.replicate commands.length (.statusOnly .success)))
    (hfits : ∀ command ∈ commands, command.dataBytes.length ≤ session.maxDataLength) :
    ∃ after, Accepts ch commands after := by
  induction commands generalizing ch session with
  | nil => exact ⟨ch, .nil⟩
  | cons command commands ih =>
    obtain ⟨hcommand, hfits⟩ := List.forall_mem_cons.1 hfits
    obtain ⟨wrapped, link, answered, -, -, -, hrest, hsent⟩ :=
      hworks.exists_answer command hplain hgives hcommand
    -- the next command finds the script without the answer that was used
    obtain ⟨session', hnext, hlevel, -⟩ := hworks.goesOn hsent
    obtain ⟨after, haccepts⟩ := ih hnext (by rw [hlevel, hplain]) hrest
      (fun c hc => Session.maxDataLength_congr hlevel ▸ hfits c hc)
    exact ⟨after, .cons hsent haccepts⟩

/-! ### Sending and reporting -/

theorem run_send_eq_ok_iff {payload : Bytes} :
    ExceptT.run (send command) ch = (.ok payload, after) ↔
      ch.transmit command = (.ok (.success payload), after) := by
  rw [run_send]
  cases hsent : ch.transmit command with
  | mk result next =>
    change ((result >>= accept), next) = _ ↔ _
    rw [Prod.mk.injEq, Prod.mk.injEq, bind_eq_ok_iff]
    -- the answer is accepted if its status is that of a success, whatever it carries
    constructor
    · rintro ⟨⟨response, rfl, haccept⟩, rfl⟩
      rw [accept_eq_ok_iff.1 haccept]
      exact ⟨rfl, rfl⟩
    · rintro ⟨rfl, rfl⟩
      exact ⟨⟨_, rfl, accept_eq_ok_iff.2 rfl⟩, rfl⟩

theorem refuses_of_run_send (h : ExceptT.run (send command) ch = (.error e, after)) :
    Refuses ch command e after := by
  rw [run_send] at h
  obtain ⟨houtcome, rfl⟩ := Prod.mk.inj h
  rcases bind_eq_error_iff.1 houtcome with hfailed | ⟨response, hsent, haccept⟩
  · exact .failed (Prod.ext hfailed rfl)
  · obtain ⟨hstatus, rfl⟩ := accept_eq_error_iff.1 haccept
    exact .refused (Prod.ext hsent rfl) hstatus

/-- The reports of a transfer of blocks, after `done` blocks and as many more as were accepted. -/
def reports (total done accepted : Nat) : List Progress :=
  (List.range accepted).map fun i => ⟨done + i + 1, total⟩

theorem reports_succ (total done accepted : Nat) :
    reports total done (accepted + 1) = ⟨done + 1, total⟩ :: reports total (done + 1) accepted := by
  unfold reports
  rw [List.range_succ_eq_map, List.map_cons, List.map_map]
  -- the reports count on from the block that was just accepted
  refine congrArg _ (List.map_congr_left fun i _ => ?_)
  change (⟨done + (i + 1) + 1, total⟩ : Progress) = ⟨done + 1 + i + 1, total⟩
  rw [show done + (i + 1) + 1 = done + 1 + i + 1 by omega]

theorem sendBlocks_cons (total done : Nat) (block : LoadBlock) (rest : List LoadBlock)
    (ch : SecureChannel L) : sendBlocks total done (block :: rest) ch =
      match ExceptT.run (send (loadCommand block)) ch with
      | (.error e, next) => ({ outcome := .error e }, next)
      | (.ok _, next) =>
        match sendBlocks total (done + 1) rest next with
        | (report, after) =>
          ({ report with progress := ⟨done + 1, total⟩ :: report.progress }, after) := by
  rw [sendBlocks]
  change StateT.bind (ExceptT.run (send (loadCommand block))) _ ch = _
  unfold StateT.bind
  cases ExceptT.run (send (loadCommand block)) ch with
  | mk outcome next =>
    cases outcome with
    | error e => rfl
    | ok payload => rfl

/-- **Sending blocks is a transfer**, and each accepted block is reported. -/
theorem exists_transfer_sendBlocks (total done : Nat) (blocks : List LoadBlock)
    (ch : SecureChannel L) : ∃ accepted outcome after,
      Transfer ch (blocks.map loadCommand) accepted outcome after ∧
        sendBlocks total done blocks ch =
          (⟨outcome, reports total done accepted.length⟩, after) := by
  -- on the blocks, for the channel that each of them is sent over
  induction blocks generalizing done ch with
  | nil => exact ⟨[], .ok (), ch, .complete .nil, rfl⟩
  | cons block rest ih =>
    rw [sendBlocks_cons]
    cases hsent : ExceptT.run (send (loadCommand block)) ch with
    | mk result next =>
      cases result with
      -- nothing is reported of a block that was not accepted
      | error e => exact ⟨[], .error e, next, .refused (refuses_of_run_send hsent), rfl⟩
      | ok payload =>
        -- the report of this block goes before those of the rest
        obtain ⟨accepted, outcome, after, htransfer, hrest⟩ := ih (done + 1) next
        refine ⟨loadCommand block :: accepted, outcome, after,
          .cons (run_send_eq_ok_iff.1 hsent) htransfer, ?_⟩
        rw [List.length_cons, reports_succ]
        simp only [hrest]

/-! ### The plan of a file -/

variable {file : LoadFile} {options : LoadOptions}

/-- Each field of the options fits its length byte. -/
structure FieldsFit (options : LoadOptions) : Prop where
  securityDomain : options.securityDomain.length ≤ 255
  parameters : options.parameters.length ≤ 255
  token : options.token.length ≤ 255

/-- What the card is told about a file before it is loaded. -/
def installFields (file : LoadFile) (options : LoadOptions) : List Bytes :=
  [file.aid, options.securityDomain, if options.includeHash then file.hash.toList else [],
    options.parameters, options.token]

/-- The commands that load a file. -/
def loadPlan (file : LoadFile) (options : LoadOptions) : List Command :=
  Command.install 0x02 ((installFields file options).flatMap LengthValue.field) ::
    loadCommands file

/-- AID and hash are short enough in any case. -/
theorem fieldsFit_iff : (∀ value ∈ installFields file options, value.length < 256) ↔
    -- an AID has at most sixteen bytes, and a hash at most thirty-two
    FieldsFit options := by
  have haid := file.aid_length
  have hhash : (if options.includeHash then file.hash.toList else []).length ≤ 32 := by
    split
    · exact Nat.le_of_eq file.hash.length_toList
    · exact Nat.zero_le _
  unfold installFields
  simp only [List.forall_mem_cons]
  constructor
  · rintro ⟨-, hdomain, -, hparameters, htoken, -⟩
    exact ⟨Nat.le_of_lt_succ hdomain, Nat.le_of_lt_succ hparameters, Nat.le_of_lt_succ htoken⟩
  · rintro ⟨hdomain, hparameters, htoken⟩
    exact ⟨by omega, Nat.lt_succ_of_le hdomain, by omega, Nat.lt_succ_of_le hparameters,
      Nat.lt_succ_of_le htoken, fun value hvalue => nomatch hvalue⟩

theorem installForLoad_eq (file : LoadFile) (options : LoadOptions) :
    installForLoad file options =
      (LengthValue.encode (installFields file options)).map (Command.install 0x02) := by
  change (LengthValue.encode (installFields file options) >>= fun data =>
    pure (Command.install 0x02 data)) = _
  cases LengthValue.encode (installFields file options) with
  | error e => rfl
  | ok data => rfl

theorem installForLoad_of_fieldsFit (h : FieldsFit options) : installForLoad file options =
    .ok (Command.install 0x02 ((installFields file options).flatMap LengthValue.field)) := by
  rw [installForLoad_eq, LengthValue.encode_eq_ok_iff.2 ⟨fieldsFit_iff.2 h, rfl⟩]
  rfl

theorem exists_of_not_fieldsFit (h : ¬FieldsFit options) :
    ∃ fault, installForLoad file options = .error (.protocol fault) := by
  rw [installForLoad_eq]
  cases hencode : LengthValue.encode (installFields file options) with
  -- the only reason for a failure is a value that is too long
  | ok data => exact absurd (fieldsFit_iff.1 (LengthValue.encode_eq_ok_iff.1 hencode).1) h
  | error e =>
    obtain ⟨value, -, -, rfl⟩ := LengthValue.exists_of_encode_eq_error hencode
    exact ⟨_, rfl⟩

/-! ### Loading -/

/-- **What loading a file over an established channel does.** -/
structure Loading (file : LoadFile) (options : LoadOptions) (ch : SecureChannel L)
    (session : Session) : Prop where
  /-- Blocks that no protected command can carry are refused before anything is sent. -/
  block_too_long : session.maxDataLength < file.blockSize →
    ∃ fault, loadFile file options ch = ({ outcome := .error (.configuration fault) }, ch)
  /-- So is a field that is longer than its length byte can tell. -/
  field_too_long : file.blockSize ≤ session.maxDataLength → ¬FieldsFit options →
    ∃ fault, loadFile file options ch = ({ outcome := .error (.protocol fault) }, ch)
  /-- Otherwise the plan is handed over up to the first command that is not accepted, and each
  accepted block is reported. -/
  transfers : file.blockSize ≤ session.maxDataLength → FieldsFit options →
    ∃ accepted outcome after, Transfer ch (loadPlan file options) accepted outcome after ∧
      loadFile file options ch =
        (⟨outcome, reports file.blockCount 0 (accepted.length - 1)⟩, after) ∧
      (outcome = .ok () ↔ accepted = loadPlan file options)
  /-- It succeeds exactly when the card accepts the whole plan. -/
  ok_iff : file.blockSize ≤ session.maxDataLength → FieldsFit options →
    ((loadFile file options ch).1.outcome = .ok () ↔
      ∃ after, Accepts ch (loadPlan file options) after)
  carries : CarriesFile file (loadCommands file)
  /-- Whatever was accepted before, a LOAD command can be protected, and sent when it is. -/
  protects : file.blockSize ≤ session.maxDataLength → ∀ accepted next, Accepts ch accepted next →
    ∀ load ∈ loadCommands file, ∃ session' wrapped, next.session = some session' ∧
      (session'.wrap load).1 = .ok wrapped ∧ wrapped.validate = .ok ()

/-- A transfer that is put after an accepted command makes the loading of a file. -/
theorem exists_transfer_loadFile {session : Session} (hsession : ch.session = some session)
    (hsize : file.blockSize ≤ session.maxDataLength) (hfields : FieldsFit options) :
    ∃ accepted outcome after, Transfer ch (loadPlan file options) accepted outcome after ∧
      loadFile file options ch =
        (⟨outcome, reports file.blockCount 0 (accepted.length - 1)⟩, after) := by
  unfold loadPlan
  rw [loadFile_eq, run_prepareLoad hsession, if_neg (Nat.not_lt.2 hsize),
    installForLoad_of_fieldsFit hfields]
  -- which command prepares the load makes no difference to what follows
  generalize Command.install 0x02 _ = install
  have hsend := run_send install ch
  cases houtcome : (ch.transmit install).1 >>= accept with
  | error e =>
    rw [houtcome] at hsend
    -- the load was not prepared, so no block was sent and none is reported
    refine ⟨[], .error e, _, .refused (refuses_of_run_send hsend), ?_⟩
    simp only [houtcome]
    rfl
  | ok payload =>
    rw [houtcome] at hsend
    obtain ⟨accepted, outcome, after, htransfer, hblocks⟩ :=
      exists_transfer_sendBlocks file.blockCount 0 file.blocks (ch.transmit install).2
    -- the first command of the plan is no block, which is why the reports are one fewer
    refine ⟨install :: accepted, outcome, after,
      .cons (run_send_eq_ok_iff.1 hsend) htransfer, ?_⟩
    simp only [houtcome]
    exact hblocks

/-- **Loading a file.** Over every established channel, for every file, all options and whatever the
card answers, the laws of `Loading` hold. -/
theorem loading_of_reachable (hreachable : Reachable ch) (hstate : ch.state = .established)
    (file : LoadFile) (options : LoadOptions) :
    ∃ session, ch.session = some session ∧ Loading file options ch session := by
  obtain ⟨session, hworks⟩ := hreachable.exists_works hstate
  refine ⟨session, hworks.current,
    { block_too_long := ?_, field_too_long := ?_, transfers := ?_, ok_iff := ?_
      carries := carriesFile file, protects := ?_ }⟩
  · -- the size of the blocks is looked at before the fields are
    intro hlong
    refine ⟨.loadBlockTooLong file.blockSize session.maxDataLength session.level, ?_⟩
    rw [loadFile_eq, run_prepareLoad hworks.current, if_pos hlong]
  · intro hsize hfields
    obtain ⟨fault, hfault⟩ : ∃ fault, installForLoad file options = .error (.protocol fault) :=
      -- the fields are put together after the size was checked, and before anything is sent
      exists_of_not_fieldsFit hfields
    refine ⟨fault, ?_⟩
    rw [loadFile_eq, run_prepareLoad hworks.current, if_neg (Nat.not_lt.2 hsize), hfault]
  · intro hsize hfields
    obtain ⟨accepted, outcome, after, htransfer, hload⟩ :=
      exists_transfer_loadFile hworks.current hsize hfields
    exact ⟨accepted, outcome, after, htransfer, hload, htransfer.ok_iff⟩
  · intro hsize hfields
    obtain ⟨accepted, outcome, after, htransfer, hload⟩ :=
      exists_transfer_loadFile hworks.current hsize hfields
    rw [hload]
    constructor
    · intro hok
      -- success means that nothing of the plan is left
      obtain rfl := htransfer.ok_iff.1 hok
      exact htransfer.accepts
    · rintro ⟨last, haccepts⟩
      exact htransfer.ok_iff.2 (htransfer.eq_of_accepts haccepts)
  · intro hsize accepted next haccepts load hload
    obtain ⟨session', hnext, hlevel⟩ := haccepts.exists_works hworks
    -- a block is at most as long as announced, and the limit is that of the session at the start
    have hblock : load.dataBytes.length ≤ file.blockSize := length_of_mem_loadCommands hload
    obtain ⟨wrapped, hwrap, hvalid⟩ := hnext.exists_protected load
      (Nat.le_trans hblock (Session.maxDataLength_congr hlevel ▸ hsize))
    exact ⟨session', wrapped, hnext.current, hwrap, hvalid⟩

/-- A file of three bytes in two blocks. -/
def shortFile : LoadFile where
  aid := [0xA0, 0x00, 0x00, 0x00, 0x62]
  data := [0x01, 0x02, 0x03]
  blockSize := 2
  aid_length := by decide
  blockSize_range := by decide
  data_ne_nil := by decide

/-- A card that plays its part in the recorded handshake and accepts three more commands. -/
def loadingCard : ScriptedCard :=
  ScriptedCard.ofAnswers ([recordedAnswer, .statusOnly .success, .statusOnly .success,
    .statusOnly .success, .statusOnly .success].map Response.encode)

/-- Over the recorded channel a short file is loaded with two blocks. -/
theorem loading_of_reachable_recorded : ∃ (ch : SecureChannel ScriptedCard) (session : Session),
    Reachable ch ∧ ch.state = .established ∧ Loading shortFile {} ch session ∧
      (loadFile shortFile {} ch).1.outcome = .ok () ∧
      (loadFile shortFile {} ch).1.progress = [⟨1, 2⟩, ⟨2, 2⟩] := by
  have hgives : CardLink.Gives loadingCard [recordedAnswer, .statusOnly .success,
      .statusOnly .success, .statusOnly .success, .statusOnly .success] := ScriptedCard.gives rfl
  obtain ⟨ch, first, proof, host, hopen, -, hauth, hworks, hgives⟩ :=
    exists_opened_recorded loadingCard hgives (fun first _ => first.allows_mac)
  have hlevel : host.level = .mac := Session.level_of_authenticate hauth
  have hreachable := (Reachable.new loadingCard Scp03Card.recordedKeys _).openWith hopen
  obtain ⟨session, hsession, hloading⟩ :=
    loading_of_reachable hreachable hworks.established shortFile {}
  obtain rfl := Option.some.inj (hworks.current.symm.trans hsession)
  -- one command that prepares the load, and two blocks
  have hcount : (loadPlan shortFile {}).length = 3 := by
    rw [loadPlan, List.length_cons, length_loadCommands]
    rfl
  have hsize : shortFile.blockSize ≤ host.maxDataLength :=
    Nat.le_trans (by decide) host.le_maxDataLength
  have hfields : FieldsFit {} := ⟨by decide, by decide, by decide⟩
  have haccepts : ∃ after, Accepts ch (loadPlan shortFile {}) after := by
    refine exists_accepts hworks (by rw [hlevel]; rfl) (by rw [hcount]; exact hgives) ?_
    refine List.forall_mem_cons.2 ⟨Nat.le_trans (by decide) host.le_maxDataLength, ?_⟩
    exact fun load hload => Nat.le_trans (length_of_mem_loadCommands hload) hsize
  have hok := (hloading.ok_iff hsize hfields).2 haccepts
  obtain ⟨accepted, outcome, after, -, hload, hwhole⟩ := hloading.transfers hsize hfields
  refine ⟨ch, host, hreachable, hworks.established, hloading, hok, ?_⟩
  rw [hload] at hok ⊢
  obtain rfl := hwhole.1 hok
  rw [hcount]
  rfl

end SmartCard.ContentManager
