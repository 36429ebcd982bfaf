import SmartCard.Proofs.Channel.Established
import SmartCard.Proofs.Key.KeyBlocks
import SmartCard.Proofs.Key.Slots
import SmartCard.Proofs.Management.Operations

/-!
# Replaced keys and their slots

Keys are replaced in two steps. The host asks for the key slots and checks that the new keys fit
them; only then are the keys enciphered and sent with PUT KEY. Two links between the steps are of
interest to the card: whether a key is sent as what it was checked for, and whether the slots that
were checked are those that are replaced.

`ContentManager.exists_replacement` goes back from a PUT KEY command that was sent to all that came
before it (`ContentManager.Replacement`). From there:

* `ContentManager.putKey_delivers` — each slot of the checked version finds a block in the command
  that announces its length, and its cipher if the key is one for triple DES or AES. A generic key
  passes the check for any slot and is sent for the cipher of the key encryption key
  (`ContentManager.putKey_other_cipher`).
* `ContentManager.putKey_covers` — the slots of the checked version are covered, and that version is
  the one named in the command where the new keys keep it, or where it is the first one listed and
  theirs is not. Nothing else keeps another version from being named
  (`ContentManager.putKey_other_version`).

All of it holds of every channel over a tapped link, since what is said starts from what was sent.
-/

namespace SmartCard.ContentManager

open SecureChannel ChannelM

variable {L : Type} [CardLink L] {ch : SecureChannel (Tapped L)} {command : Command}
  {candidate : KeySet} {replaced : UInt8} {bytes : Bytes}

/-! ### What is sent -/

/-- What an operation has sent, the first command first. -/
def newlySent {α : Type} (x : ChannelM (Tapped L) α) (ch : SecureChannel (Tapped L)) : List Bytes :=
  (ExceptT.run x ch).2.link.sent.drop ch.link.sent.length

/-- From one state of a channel to another, only such commands were sent. -/
def OnlySent (P : Bytes → Prop) (ch after : SecureChannel (Tapped L)) : Prop :=
  ∃ sent, after.link.sent = ch.link.sent ++ sent ∧ ∀ bytes ∈ sent, P bytes

omit [CardLink L] in
theorem onlySent_of_link_eq {P : Bytes → Prop} {after : SecureChannel (Tapped L)}
    (h : after.link = ch.link) : OnlySent P ch after :=
  ⟨[], by rw [h, List.append_nil], List.forall_mem_nil _⟩

omit [CardLink L] in
theorem OnlySent.of_mem_newlySent {α : Type} {x : ChannelM (Tapped L) α} {P : Bytes → Prop}
    (h : OnlySent P ch (ExceptT.run x ch).2) (hmem : bytes ∈ newlySent x ch) : P bytes := by
  obtain ⟨sent, hsent, hall⟩ := h
  unfold newlySent at hmem
  rw [hsent, List.drop_left] at hmem
  exact hall bytes hmem

/-- One command over the link. -/
theorem onlySent_of_link_transmit {P : Bytes → Prop} {after : SecureChannel (Tapped L)}
    (h : after.link = (CardLink.transmit ch.link command).2) (hsent : P command.encode) :
    OnlySent P ch after := by
  refine ⟨Tapped.recorded command, by rw [h, Tapped.transmit_eq], fun bytes hbytes => ?_⟩
  rw [Tapped.eq_of_mem_recorded hbytes]
  exact hsent

/-- A command goes out as the session of an open channel protects it, if it goes out at all. -/
theorem onlySent_transmit (ch : SecureChannel (Tapped L)) (command : Command) :
    OnlySent (fun bytes => ∃ session wrapped, ch.state = .established ∧
      ch.session = some session ∧ (session.wrap command).1 = .ok wrapped ∧
      bytes = wrapped.encode) ch (ch.transmit command).2 := by
  -- either the link was left alone, or the one command went out that the session had wrapped
  rcases link_transmit ch command with hlink | ⟨session, wrapped, hstate, hsession, hwrap, hlink⟩
  · exact onlySent_of_link_eq hlink
  · exact onlySent_of_link_transmit hlink ⟨session, wrapped, hstate, hsession, hwrap, rfl⟩

/-- With or without protection a command keeps its instruction and its parameters. -/
theorem onlySent_transmitEither (ch : SecureChannel (Tapped L)) (command : Command) :
    OnlySent (fun bytes => bytes[1]? = some command.ins ∧ bytes[2]? = some command.p1 ∧
      bytes[3]? = some command.p2) ch (ExceptT.run (transmitEither command) ch).2 := by
  rw [run_transmitEither]
  by_cases hstate : ch.state = .established
  · -- an open channel protects the command, and protection keeps the three bytes
    rw [if_pos hstate]
    obtain ⟨sent, hsent, hall⟩ := onlySent_transmit ch command
    refine ⟨sent, hsent, fun bytes hbytes => ?_⟩
    obtain ⟨session, wrapped, -, -, hwrap, rfl⟩ := hall bytes hbytes
    exact Session.getElem?_encode_of_wrap hwrap
  · rw [if_neg hstate]
    exact onlySent_of_link_transmit rfl command.getElem?_encode

/-- The command with the keys of a set, built and protected by the session of an open channel. -/
def CarriesKeys (ch : SecureChannel (Tapped L)) (candidate : KeySet) (replaced : UInt8)
    (bytes : Bytes) : Prop :=
  ∃ session command wrapped, ch.state = .established ∧ ch.session = some session ∧
    putKeysCommand session candidate replaced = .ok command ∧
    (session.wrap command).1 = .ok wrapped ∧ bytes = wrapped.encode

/-- Keys go out in their command, if they go out at all. -/
theorem onlySent_putKeys (candidate : KeySet) (replaced : UInt8)
    (ch : SecureChannel (Tapped L)) :
    OnlySent (CarriesKeys ch candidate replaced) ch
      (ExceptT.run (putKeys candidate replaced) ch).2 := by
  cases hsession : ch.session with
  -- without a session there is no key to encipher under, and the operation ends before the link
  | none =>
    obtain ⟨e, he⟩ := declines_putKeys hsession candidate replaced
    exact onlySent_of_link_eq (by rw [he])
  | some session =>
    rw [run_putKeys hsession]
    cases hbuilt : putKeysCommand session candidate replaced with
    | error e => exact onlySent_of_link_eq rfl
    | ok command =>
      obtain ⟨sent, hsent, hall⟩ := onlySent_transmit ch command
      refine ⟨sent, hsent, fun bytes hbytes => ?_⟩
      obtain ⟨session', wrapped, hstate, hcurrent, hwrap, hbytes⟩ := hall bytes hbytes
      -- the session that protects the command is the one that the keys were enciphered for
      obtain rfl := Option.some.inj (hsession.symm.trans hcurrent)
      exact ⟨session, command, wrapped, hstate, hsession, hbuilt, hwrap, hbytes⟩

/-! ### From PUT KEY back to the check -/

/-- What comes before a PUT KEY command. -/
structure Replacement where
  session : Session
  /-- The answer about the key slots. -/
  answer : Response
  slots : List KeySlot
  kek : Key
  /-- The command as it was built. -/
  command : Command
  /-- The session that protects it, after the answer. -/
  protecting : Session
  /-- The command as it was sent. -/
  wrapped : Command

/-- **The keys were checked and then sent**: the card has listed its slots, the set fits them, and
its keys were enciphered into a command that the channel protects. -/
structure Replacement.Follows (r : Replacement) (ch : SecureChannel (Tapped L))
    (candidate : KeySet) (replaced : UInt8) (bytes : Bytes) : Prop where
  established : ch.state = .established
  current : ch.session = some r.session
  answered : (ch.transmit keyInformationCommand).1 = .ok r.answer
  success : r.answer.status = .success
  parsed : KeySlot.parseAll r.answer.payload = .ok r.slots
  checked : KeySlot.checkReplacement r.slots candidate = .ok ()
  key : r.session.key .kek = .ok r.kek
  built : Command.putKeys replaced candidate.version (keysInOrder candidate) r.kek = .ok r.command
  next : (ch.transmit keyInformationCommand).2.session = some r.protecting
  protects : (r.protecting.wrap r.command).1 = .ok r.wrapped
  sent : bytes = r.wrapped.encode

/-- It is PUT KEY that is sent, with the version that is replaced. -/
theorem Replacement.Follows.header {r : Replacement} (h : r.Follows ch candidate replaced bytes) :
    bytes[1]? = some Instruction.putKey ∧ bytes[2]? = some replaced := by
  obtain ⟨hins, hp1⟩ := Command.header_of_putKeys h.built
  obtain ⟨hfirst, hsecond, -⟩ := Session.getElem?_encode_of_wrap h.protects
  rw [h.sent, hfirst, hsecond, hins, hp1]
  exact ⟨rfl, rfl⟩

theorem putKeysCommand_eq_ok_iff {session : Session} :
    putKeysCommand session candidate replaced = .ok command ↔ ∃ kek,
      session.key .kek = .ok kek ∧
        Command.putKeys replaced candidate.version (keysInOrder candidate) kek = .ok command :=
  bind_eq_ok_iff

/-- The command is the same for every session with the key encryption key. -/
theorem putKeysCommand_of_keys_eq {session session' : Session} {kek : Key}
    (hkeys : session'.keys = session.keys) (hkek : session.key .kek = .ok kek)
    (hbuilt : Command.putKeys replaced candidate.version (keysInOrder candidate) kek =
      .ok command) : putKeysCommand session' candidate replaced = .ok command := by
  refine putKeysCommand_eq_ok_iff.2 ⟨kek, ?_, hbuilt⟩
  rw [Session.key_eq_ok_iff, hkeys]
  exact Session.key_eq_ok_iff.1 hkek

/-- A command that is sent after the check has the slots and the key encryption key of the session
before it. -/
theorem exists_follows {next : SecureChannel (Tapped L)}
    (hcheck : ExceptT.run (checkKeys candidate) ch = (.ok (), next))
    (hcarries : CarriesKeys next candidate replaced bytes) : ∃ r : Replacement,
      r.Follows ch candidate replaced bytes ∧ next = (ch.transmit keyInformationCommand).2 ∧
        putKeysCommand r.protecting candidate replaced = .ok r.command := by
  obtain ⟨protecting, command, wrapped, hstate, hnext, hbuilt, hwrap, rfl⟩ := hcarries
  rw [run_checkKeys] at hcheck
  obtain ⟨houtcome, rfl⟩ := Prod.mk.inj hcheck
  -- a plain command opens no channel, so the one that protects PUT KEY was open before the check
  have hopen : ch.state = .established := by
    apply Classical.byContradiction
    intro hclosed
    rw [run_transmitEither, if_neg hclosed] at hstate
    exact hclosed hstate
  rw [run_transmitEither, if_pos hopen] at houtcome hnext ⊢
  obtain ⟨answer, hanswer, hpass⟩ := bind_eq_ok_iff.1 houtcome
  obtain ⟨hsuccess, slots, hparse, hchecked⟩ := checkAnswer_eq_ok_iff.1 hpass
  have hsent : ch.transmit keyInformationCommand =
      (.ok answer, (ch.transmit keyInformationCommand).2) := Prod.ext hanswer rfl
  -- the one answer that the check has seen is the one that moved the session on
  obtain ⟨p, hp, -⟩ := transmit_eq_ok_iff.1 hsent
  have hprotecting : protecting = p.answered := by
    rw [hp.goesOn] at hnext
    exact (Option.some.inj hnext).symm
  obtain ⟨kek, hkek, hcommand⟩ := putKeysCommand_eq_ok_iff.1 hbuilt
  -- the answer has not changed the keys of the session
  have hkey : p.session.key .kek = .ok kek := by
    obtain ⟨chaining, pending, -, -, hanswered⟩ := hp.exists_answered
    rw [hprotecting, hanswered] at hkek
    exact hkek
  exact ⟨⟨p.session, answer, slots, kek, command, protecting, wrapped⟩,
    { established := hopen, current := hp.current, answered := hanswer, success := hsuccess
      parsed := hparse, checked := hchecked, key := hkey, built := hcommand, next := hnext
      protects := hwrap, sent := rfl }, rfl, hbuilt⟩

/-- **What a replacement sends**: GET DATA, and then PUT KEY if the keys were checked. -/
theorem exists_sent_replaceKeys (candidate : KeySet) (replaced : UInt8)
    (ch : SecureChannel (Tapped L)) : ∃ asked put,
    newlySent (replaceKeys candidate replaced) ch = asked ++ put ∧
      (∀ bytes ∈ asked, bytes[1]? = some Instruction.getData) ∧
      ∀ bytes ∈ put, ∃ r : Replacement, r.Follows ch candidate replaced bytes := by
  unfold newlySent
  rw [run_replaceKeys]
  -- a set without a version is refused before anything is sent
  by_cases hversion : candidate.version = 0
  · refine ⟨[], [], ?_, List.forall_mem_nil _, List.forall_mem_nil _⟩
    rw [if_pos hversion, List.drop_length]
    rfl
  · rw [if_neg hversion, run_bind]
    obtain ⟨asked, hasked, hheader⟩ := onlySent_transmitEither ch keyInformationCommand
    have hget : ∀ bytes ∈ asked, bytes[1]? = some Instruction.getData :=
      fun bytes hbytes => (hheader bytes hbytes).1
    -- only a check that has passed is followed by the keys
    cases hcheck : ExceptT.run (checkKeys candidate) ch with
    | mk outcome next =>
      have hnext : next.link.sent = ch.link.sent ++ asked := by
        rw [run_checkKeys] at hcheck
        rw [← hasked, ← (Prod.mk.inj hcheck).2]
      cases outcome with
      | error e =>
        refine ⟨asked, [], ?_, hget, List.forall_mem_nil _⟩
        rw [hnext, List.drop_left, List.append_nil]
      | ok checked =>
        obtain ⟨put, hput, hall⟩ := onlySent_putKeys candidate replaced next
        refine ⟨asked, put, ?_, hget, fun bytes hbytes => ?_⟩
        · rw [hput, hnext, List.append_assoc, List.drop_left]
        · obtain ⟨r, hr, -⟩ := exists_follows hcheck (hall bytes hbytes)
          exact ⟨r, hr⟩

/-- **Before PUT KEY is sent, the keys were checked.** -/
theorem exists_replacement (hsent : bytes ∈ newlySent (replaceKeys candidate replaced) ch)
    (hins : bytes[1]? = some Instruction.putKey) :
    ∃ r : Replacement, r.Follows ch candidate replaced bytes := by
  obtain ⟨asked, put, hall, hget, hput⟩ := exists_sent_replaceKeys candidate replaced ch
  rw [hall] at hsent
  -- the commands of the check have another instruction
  rcases List.mem_append.1 hsent with hmem | hmem
  · rw [hget bytes hmem] at hins
    exact absurd hins (by decide)
  · exact hput bytes hmem

/-! ### A card that takes new keys -/

/-- A set passes the check when the card lists slots that it fits, and the channel goes on. -/
theorem exists_checkKeys_of_gives {session : Session} (hworks : ch.Works session)
    (hplain : session.level.rMac = false) {payload : Bytes} {answers : List Response}
    (hgives : CardLink.Gives ch.link (.success payload :: answers)) {slots : List KeySlot}
    (hparse : KeySlot.parseAll payload = .ok slots)
    (hcheck : KeySlot.checkReplacement slots candidate = .ok ()) : ∃ next session' asked,
      ExceptT.run (checkKeys candidate) ch = (.ok (), next) ∧
        (ch.transmit keyInformationCommand).1 = .ok (.success payload) ∧ next.Works session' ∧
        session'.level = session.level ∧ session'.keys = session.keys ∧
        CardLink.Gives next.link answers ∧ next.link.sent = ch.link.sent ++ asked := by
  -- the card takes the question, and the host reads what the card answers
  obtain ⟨asked, link, answered, -, -, hlisted, hrest, hasked⟩ :=
    hworks.exists_answer keyInformationCommand hplain hgives
      (Nat.le_trans (by decide) session.le_maxDataLength)
  obtain ⟨session', hnext, hlevel, hkeys⟩ := hworks.goesOn hasked
  have hread : checkAnswer candidate (.success payload) = .ok () :=
    checkAnswer_eq_ok_iff.2 ⟨rfl, slots, hparse, hcheck⟩
  have hpass : ExceptT.run (checkKeys candidate) ch =
      (.ok (), { ch with link, session := some answered }) := by
    rw [run_checkKeys, run_transmitEither, if_pos hworks.established, hasked]
    exact Prod.ext hread rfl
  have hlink : link.sent = ch.link.sent ++ Tapped.recorded asked := by
    rw [Tapped.transmit_eq] at hlisted
    rw [← (Prod.mk.inj hlisted).2]
  exact ⟨_, session', Tapped.recorded asked, hpass, by rw [hasked], hnext, hlevel, hkeys, hrest,
    hlink⟩

/-- Keys are sent if their command can be protected. -/
theorem exists_putKeys_of_gives {session : Session} (hworks : ch.Works session)
    (hplain : session.level.rMac = false) {answer : Response}
    (hgives : CardLink.Gives ch.link [answer])
    (hbuilt : putKeysCommand session candidate replaced = .ok command)
    (hlen : command.dataBytes.length ≤ session.maxDataLength) : ∃ wrapped,
      (session.wrap command).1 = .ok wrapped ∧
        (ExceptT.run (putKeys candidate replaced) ch).2.link.sent =
          ch.link.sent ++ [wrapped.encode] := by
  obtain ⟨wrapped, link, answered, hwrap, hvalid, htaken, -, hput⟩ :=
    hworks.exists_answer command hplain hgives hlen
  refine ⟨wrapped, hwrap, ?_⟩
  -- the command is short enough for the link, so the link has recorded it
  have hlink : link.sent = ch.link.sent ++ [wrapped.encode] := by
    rw [Tapped.transmit_eq, Tapped.recorded,
      if_pos (Command.validate_eq_ok_iff.1 hvalid)] at htaken
    rw [← (Prod.mk.inj htaken).2]
  simp only [run_putKeys hworks.current, hbuilt, hput]
  exact hlink

/-- **Keys that pass the check are sent** to a card that lists its slots and takes them, as long as
their command can be protected. -/
theorem exists_sent_of_gives {session : Session} (hworks : ch.Works session)
    (hplain : session.level.rMac = false) {payload : Bytes}
    (hgives : CardLink.Gives ch.link [.success payload, .statusOnly .success])
    (hversion : candidate.version ≠ 0) {slots : List KeySlot}
    (hparse : KeySlot.parseAll payload = .ok slots)
    (hcheck : KeySlot.checkReplacement slots candidate = .ok ()) {kek : Key}
    (hkek : session.key .kek = .ok kek)
    (hbuilt : Command.putKeys replaced candidate.version (keysInOrder candidate) kek = .ok command)
    (hlen : command.dataBytes.length ≤ session.maxDataLength) :
    ∃ bytes ∈ newlySent (replaceKeys candidate replaced) ch,
      bytes[1]? = some Instruction.putKey ∧
      ∀ r : Replacement, r.Follows ch candidate replaced bytes → r.slots = slots ∧ r.kek = kek := by
  obtain ⟨next, session', asked, hpass, hlisted, hnext, hlevel, hkeys, hrest, hasked⟩ :=
    exists_checkKeys_of_gives hworks hplain hgives hparse hcheck
  -- the answer has changed neither keys nor level, so the command is the one that was built before
  have hcommand := putKeysCommand_of_keys_eq hkeys hkek hbuilt
  obtain ⟨wrapped, hwrap, hput⟩ := exists_putKeys_of_gives hnext (by rw [hlevel, hplain]) hrest
    hcommand (Session.maxDataLength_congr hlevel ▸ hlen)
  -- of what is sent, the question comes first and the keys second
  have hsent : wrapped.encode ∈ newlySent (replaceKeys candidate replaced) ch := by
    unfold newlySent
    rw [run_replaceKeys, if_neg hversion, run_bind, hpass]
    simp only [hput]
    rw [hasked, List.append_assoc, List.drop_left]
    exact List.mem_append_right _ (List.mem_singleton_self _)
  have hins : wrapped.encode[1]? = some Instruction.putKey := by
    rw [(Session.getElem?_encode_of_wrap hwrap).1, (Command.header_of_putKeys hbuilt).1]
  -- whatever led to these bytes, it was this answer and this session
  refine ⟨wrapped.encode, hsent, hins, fun r hr => ⟨?_, ?_⟩⟩
  · have hparsed := hr.parsed
    rw [← Except.ok.inj (hlisted.symm.trans hr.answered)] at hparsed
    exact Except.ok.inj (hparsed.symm.trans hparse)
  · have hkey := hr.key
    rw [Option.some.inj (hr.current.symm.trans hworks.current)] at hkey
    exact Except.ok.inj (hkey.symm.trans hkek)

/-! ### The recorded channel -/

/-- The key encryption key of the recorded session is the static key. -/
theorem exists_recorded_kek {first host : Session} {level : SecurityLevel} {proof : Command}
    (hstart : Session.start Scp03Card.recordedKeys Scp03Card.recordedOffer
      Scp03Card.recordedChallenge none = .ok first)
    (hauth : first.authenticate level = .ok (proof, host)) :
    ∃ kek, host.key .kek = .ok kek ∧ kek.cipher = .aes ∧ kek.secret.length = 16 := by
  -- making the proof keeps the session keys, and among them is the one that is carried over
  obtain ⟨-, keys, hkeys, -, rfl⟩ := Session.start_eq_ok_iff.1 hstart
  obtain ⟨-, -, cryptogram, chaining, -, -, rfl⟩ := Session.authenticate_eq_ok_iff.1 hauth
  obtain ⟨source, kek, hsource, hkek, hcipher, hsecret⟩ := KeySet.find?_kek_of_scp03Session hkeys
  cases hsource
  refine ⟨kek, Session.key_eq_ok_iff.2 ?_, hcipher, by rw [hsecret]; rfl⟩
  change keys.get? .kek = some kek
  rw [KeySet.get?, hkek]
  rfl

/-- New keys of sixteen bytes are enciphered under an AES key, unless one of them is for DES. Their
command is short enough for every session. -/
theorem exists_putKeys_of_aes {kek : Key}
    (hkeys : ∀ k ∈ candidate.keys,
      (k.cipher = .generic ∨ k.cipher = .aes) ∧ k.secret.length = 16) (hne : candidate.keys ≠ [])
    (hkek : kek.cipher = .aes) (hkekLen : kek.secret.length = 16) (replaced : UInt8) :
    ∃ command,
      Command.putKeys replaced candidate.version (keysInOrder candidate) kek = .ok command ∧
        command.dataBytes.length ≤ 239 := by
  have hall : ∀ k ∈ keysInOrder candidate, ∃ block, k.envelope kek = .ok block := by
    intro k hk
    obtain ⟨hcipher, hlen⟩ := hkeys k (List.mem_mergeSort.1 hk)
    exact Key.exists_envelope_of_aes hcipher hlen hkek hkekLen
  obtain ⟨blocks, hblocks⟩ := exists_mapM_eq_ok hall
  have hperm := perm_keysInOrder candidate
  have hbuilt : ∃ command,
      Command.putKeys replaced candidate.version (keysInOrder candidate) kek = .ok command := by
    -- a set with keys has a first one, which names the command
    cases horder : keysInOrder candidate with
    | nil =>
      rw [horder] at hperm
      exact absurd hperm.nil_eq.symm hne
    | cons first rest =>
      rw [horder] at hblocks
      exact ⟨_, bind_eq_ok_iff.2 ⟨blocks, hblocks, rfl⟩⟩
  obtain ⟨command, hcommand⟩ := hbuilt
  exact ⟨command, hcommand, Command.length_le_of_putKeys hperm hcommand⟩

/-- **The recorded channel is ready to store AES keys**, over every link that plays its part in the
handshake. -/
theorem exists_recorded_putKeys (link : Tapped L) {answers : List Response}
    (hgives : CardLink.Gives link (recordedAnswer :: .statusOnly .success :: answers))
    (hkeys : ∀ k ∈ candidate.keys,
      (k.cipher = .generic ∨ k.cipher = .aes) ∧ k.secret.length = 16) (hne : candidate.keys ≠ [])
    (replaced : UInt8) :
    ∃ (ch : SecureChannel (Tapped L)) (session : Session) (kek : Key) (command : Command),
      (new link Scp03Card.recordedKeys {}).openWith Scp03Card.recordedChallenge = (.ok (), ch) ∧
        ch.Works session ∧ session.level.rMac = false ∧ CardLink.Gives ch.link answers ∧
        session.key .kek = .ok kek ∧ kek.cipher = .aes ∧
        Command.putKeys replaced candidate.version (keysInOrder candidate) kek = .ok command ∧
        command.dataBytes.length ≤ session.maxDataLength := by
  obtain ⟨ch, first, proof, host, hopen, hstart, hauth, hworks, hrest⟩ :=
    exists_opened_recorded link hgives (fun first _ => first.allows_mac)
  obtain ⟨kek, hkek, hcipher, hlen⟩ := exists_recorded_kek hstart hauth
  obtain ⟨command, hbuilt, hfits⟩ := exists_putKeys_of_aes hkeys hne hcipher hlen replaced
  have hlevel : host.level = .mac := Session.level_of_authenticate hauth
  have hplain : host.level.rMac = false := by
    rw [hlevel]
    rfl
  exact ⟨ch, host, kek, command, hopen, hworks, hplain, hrest, hkek, hcipher, hbuilt,
    Nat.le_trans hfits host.le_maxDataLength⟩

/-- A card that plays its part in the recorded handshake, lists its key slots and takes new keys. -/
def slotCard (payload : Bytes) : Tapped ScriptedCard :=
  ⟨ScriptedCard.ofAnswers ([recordedAnswer, .statusOnly .success, .success payload,
    .statusOnly .success].map Response.encode), []⟩

/-- **Over the recorded channel, a new key is sent** if it passes the check. -/
theorem exists_sent_recorded {payload : Bytes} {slots : List KeySlot}
    (hparse : KeySlot.parseAll payload = .ok slots) (version : UInt8) {cipher : KeyCipher}
    (h : cipher.accepts 16 = true) (hversion : version ≠ 0)
    (hcipher : cipher = .generic ∨ cipher = .aes)
    (hcheck : KeySlot.checkReplacement slots (newSet version cipher h) = .ok ())
    (replaced : UInt8) : ∃ (ch : SecureChannel (Tapped ScriptedCard)) (bytes : Bytes),
      (new (slotCard payload) Scp03Card.recordedKeys {}).openWith Scp03Card.recordedChallenge =
          (.ok (), ch) ∧
        bytes ∈ newlySent (replaceKeys (newSet version cipher h) replaced) ch ∧
        bytes[1]? = some Instruction.putKey ∧
        ∀ r : Replacement, r.Follows ch (newSet version cipher h) replaced bytes →
          r.slots = slots ∧ r.kek.cipher = .aes := by
  have hgives : CardLink.Gives (slotCard payload) [recordedAnswer, .statusOnly .success,
      .success payload, .statusOnly .success] := Tapped.gives (ScriptedCard.gives rfl)
  have hkeys : ∀ k ∈ (newSet version cipher h).keys,
      (k.cipher = .generic ∨ k.cipher = .aes) ∧ k.secret.length = 16 :=
    List.forall_mem_singleton.2 ⟨hcipher, rfl⟩
  -- the set has its one key, which is of sixteen bytes
  obtain ⟨ch, session, kek, command, hopen, hworks, hplain, hrest, hkek, haes, hbuilt, hlen⟩ :=
    exists_recorded_putKeys (slotCard payload) hgives hkeys (List.cons_ne_nil _ _) replaced
  obtain ⟨bytes, hsent, hins, hall⟩ :=
    exists_sent_of_gives hworks hplain hrest hversion hparse hcheck hkek hbuilt hlen
  refine ⟨ch, bytes, hopen, hsent, hins, fun r hr => ?_⟩
  obtain ⟨hslots, hr⟩ := hall r hr
  exact ⟨hslots, by rw [hr, haes]⟩

/-! ### What the card is told -/

/-- **The block of a key, next to the slot that the key is for.** -/
structure Replacement.Delivers (r : Replacement) (candidate : KeySet) (slot : KeySlot) (k : Key)
    (block : Bytes) : Prop where
  takes : slot.Takes candidate k
  built : k.envelope r.kek = .ok block
  contained : ∃ earlier later,
    r.command.dataBytes = candidate.version :: earlier ++ block ++ later
  /-- The length is that of the slot. -/
  announced : Key.announced? block = some (k.cipherUnder r.kek, slot.size.toNat)
  /-- So is the cipher, if the key is one for triple DES or AES. -/
  agrees : k.cipher = .des3 ∨ k.cipher = .aes → slot.cipher? = some (k.cipherUnder r.kek)

/-- A key that a slot takes is delivered. -/
theorem Replacement.Follows.exists_delivers {r : Replacement}
    (h : r.Follows ch candidate replaced bytes) {slot : KeySlot} {k : Key}
    (htakes : slot.Takes candidate k) : ∃ block, r.Delivers candidate slot k block := by
  -- the order of the keys is only an arrangement of them
  have hmem : k ∈ keysInOrder candidate := List.mem_mergeSort.2 htakes.mem
  obtain ⟨earlier, block, later, hdata, hblock⟩ := Command.exists_block_of_putKeys h.built hmem
  refine ⟨block, htakes, hblock, ⟨earlier, later, hdata⟩, ?_, fun hcipher => ?_⟩
  · rw [Key.announced?_of_envelope hblock, htakes.length_eq]
  · -- only a generic key could have passed without the cipher of the slot
    have hslot : slot.cipher? = some k.cipher := by
      rcases htakes.cipher with hgeneric | hslot
      · rw [hgeneric] at hcipher
        simp at hcipher
      · exact hslot
    rw [Key.cipherUnder_eq hcipher, hslot]

/-- **Keys are sent as they were checked**, but for their cipher. When PUT KEY is sent, each slot of
the version that was checked finds a block that announces its length; the cipher is that of the slot
if the key is one for triple DES or AES. -/
theorem putKey_delivers (hsent : bytes ∈ newlySent (replaceKeys candidate replaced) ch)
    (hins : bytes[1]? = some Instruction.putKey) :
    ∃ (r : Replacement) (version : UInt8), r.Follows ch candidate replaced bytes ∧
      KeySlot.replacedVersion? r.slots candidate = some version ∧
      ∀ slot ∈ r.slots, slot.keyVersion = version →
        ∃ k block, r.Delivers candidate slot k block := by
  obtain ⟨r, hr⟩ := exists_replacement hsent hins
  obtain ⟨version, hversion, hslots, -⟩ := KeySlot.checkReplacement_eq_ok_iff.1 hr.checked
  -- the version that was checked is the one whose slots the set has to fill
  refine ⟨r, version, hr, hversion, fun slot hslot hgroup => ?_⟩
  obtain ⟨k, htakes⟩ := hslots slot hslot hgroup
  obtain ⟨block, hdelivers⟩ := hr.exists_delivers htakes
  exact ⟨k, block, hdelivers⟩

/-- Over the recorded channel an AES key is delivered for the slot. -/
theorem putKey_delivers_recorded : ∃ (ch : SecureChannel (Tapped ScriptedCard)) (bytes : Bytes)
    (r : Replacement) (k : Key) (block : Bytes),
    bytes ∈ newlySent (replaceKeys (newSet 0x31 .aes rfl) 0x30) ch ∧
      bytes[1]? = some Instruction.putKey ∧ r.Follows ch (newSet 0x31 .aes rfl) 0x30 bytes ∧
      r.Delivers (newSet 0x31 .aes rfl) ⟨0x01, 0x30, 0x88, 0x10⟩ k block := by
  obtain ⟨ch, bytes, -, hsent, hins, hall⟩ :=
    exists_sent_recorded (KeySlot.parseAll_oneSlot ⟨0x01, 0x30, 0x88, 0x10⟩) 0x31 rfl (by decide)
      (.inr rfl) rfl 0x30
  obtain ⟨r, version, hr, hversion, hdelivers⟩ := putKey_delivers hsent hins
  -- the card has listed one slot, so the version that is checked is the one of this slot
  rw [(hall r hr).1] at hversion hdelivers
  obtain ⟨k, block, hblock⟩ := hdelivers _ (List.mem_singleton_self _) (Option.some.inj hversion)
  exact ⟨ch, bytes, r, k, block, hsent, hins, hr, hblock⟩

/-- **A key is sent for another cipher than that of its slot.** Over the recorded channel, a generic
key passes for a slot for triple DES and is sent as an AES key. -/
theorem putKey_other_cipher : ∃ (ch : SecureChannel (Tapped ScriptedCard)) (bytes : Bytes)
    (r : Replacement) (slot : KeySlot) (block : Bytes),
    (new (slotCard [0xE0, 0x06, 0xC0, 0x04, 0x01, 0x30, 0x80, 0x10])
        Scp03Card.recordedKeys {}).openWith Scp03Card.recordedChallenge = (.ok (), ch) ∧
      bytes ∈ newlySent (replaceKeys (newSet 0x31 .generic rfl) 0x30) ch ∧
      bytes[1]? = some Instruction.putKey ∧
      r.Follows ch (newSet 0x31 .generic rfl) 0x30 bytes ∧ r.slots = [slot] ∧
      KeySlot.replacedVersion? r.slots (newSet 0x31 .generic rfl) = some slot.keyVersion ∧
      r.Delivers (newSet 0x31 .generic rfl) slot (newKey .generic rfl) block ∧
      slot.cipher? = some .des3 ∧ Key.announced? block = some (.aes, 16) := by
  obtain ⟨ch, bytes, hopen, hsent, hins, hall⟩ :=
    exists_sent_recorded (KeySlot.parseAll_oneSlot ⟨0x01, 0x30, 0x80, 0x10⟩) 0x31 rfl (by decide)
      (.inl rfl) rfl 0x30
  obtain ⟨r, hr⟩ := exists_replacement hsent hins
  obtain ⟨hslots, hkek⟩ := hall r hr
  have htakes : KeySlot.Takes ⟨0x01, 0x30, 0x80, 0x10⟩ (newSet 0x31 .generic rfl)
      (newKey .generic rfl) := ⟨rfl, .inl rfl, rfl⟩
  obtain ⟨block, hdelivers⟩ := hr.exists_delivers htakes
  -- a generic key goes under the cipher of the key that enciphers it
  have hcipher : (newKey .generic rfl).cipherUnder r.kek = .aes := if_pos (.inr ⟨rfl, hkek⟩)
  -- the slot asks for triple DES, and the block announces AES
  refine ⟨ch, bytes, r, _, block, hopen, hsent, hins, hr, hslots, ?_, hdelivers, rfl, ?_⟩
  · rw [hslots]
    rfl
  · rw [hdelivers.announced, hcipher]
    rfl

/-! ### Which slots are covered -/

/-- **Which slots are covered.** When PUT KEY is sent for a version, the slots of the version that
was checked are matched by the keys of the set, one by one. That is the version that is replaced if
the set has it too, or if it is the first one listed and that of the set is not listed. -/
theorem putKey_covers (hsent : bytes ∈ newlySent (replaceKeys candidate replaced) ch)
    (hins : bytes[1]? = some Instruction.putKey) :
    bytes[2]? = some replaced ∧
      ∃ (r : Replacement) (version : UInt8), r.Follows ch candidate replaced bytes ∧
        KeySlot.replacedVersion? r.slots candidate = some version ∧
        (∀ slot ∈ r.slots, slot.keyVersion = version → ∃ k, slot.Takes candidate k) ∧
        (∀ k ∈ candidate.keys, ∃ slot ∈ r.slots,
          slot.keyVersion = version ∧ slot.keyId = k.id) ∧
        (candidate.version = replaced ∨ (∀ slot ∈ r.slots, slot.keyVersion ≠ candidate.version) ∧
            r.slots.head?.map KeySlot.keyVersion = some replaced →
          ∀ slot ∈ r.slots, slot.keyVersion = replaced → ∃ k, slot.Takes candidate k) := by
  obtain ⟨r, hr⟩ := exists_replacement hsent hins
  obtain ⟨version, hversion, hslots, hkeys⟩ := KeySlot.checkReplacement_eq_ok_iff.1 hr.checked
  refine ⟨?_, r, version, hr, hversion, hslots, hkeys, fun hnamed slot hslot hreplaced => ?_⟩
  · exact hr.header.2
  · -- either way of choosing a version ends at the one that is replaced
    have hsame : version = replaced := by
      rcases KeySlot.replacedVersion?_eq_some_iff.1 hversion with
        ⟨hlists, hcandidate⟩ | ⟨hnone, hhead⟩
      · rcases hnamed with hcandidate' | ⟨hnone, -⟩
        · exact hcandidate.symm.trans hcandidate'
        · obtain ⟨listed, hlisted, hversion⟩ := hlists
          exact absurd hversion (hnone listed hlisted)
      · rcases hnamed with hcandidate | ⟨-, hhead'⟩
        · exact absurd (hreplaced.trans hcandidate.symm) (hnone slot hslot)
        · exact Option.some.inj (hhead.symm.trans hhead')
    exact hslots slot hslot (hreplaced.trans hsame.symm)

/-- Over the recorded channel the one slot of the version that is replaced is covered. -/
theorem putKey_covers_recorded : ∃ (ch : SecureChannel (Tapped ScriptedCard)) (bytes : Bytes)
    (r : Replacement) (k : Key),
    bytes ∈ newlySent (replaceKeys (newSet 0x32 .aes rfl) 0x30) ch ∧
      bytes[1]? = some Instruction.putKey ∧ bytes[2]? = some 0x30 ∧
      r.Follows ch (newSet 0x32 .aes rfl) 0x30 bytes ∧
      KeySlot.Takes ⟨0x01, 0x30, 0x88, 0x10⟩ (newSet 0x32 .aes rfl) k := by
  obtain ⟨ch, bytes, -, hsent, hins, hall⟩ :=
    exists_sent_recorded (KeySlot.parseAll_oneSlot ⟨0x01, 0x30, 0x88, 0x10⟩) 0x32 rfl (by decide)
      (.inr rfl) rfl 0x30
  obtain ⟨hp1, r, version, hr, -, -, -, hcovered⟩ := putKey_covers hsent hins
  -- the set has a version that is not listed, so it is the first listed one that was checked
  rw [(hall r hr).1] at hcovered
  obtain ⟨k, hk⟩ := hcovered (.inr ⟨by decide, rfl⟩) _ (List.mem_singleton_self _) rfl
  exact ⟨ch, bytes, r, k, hsent, hins, hp1, hr, hk⟩

/-- **A version is replaced that was not checked.** The card lists the version that is replaced
after another one, and has a slot of it for which there is no key. -/
theorem putKey_other_version : ∃ (ch : SecureChannel (Tapped ScriptedCard)) (bytes : Bytes)
    (r : Replacement) (slot : KeySlot),
    (new (slotCard [0xE0, 0x0C, 0xC0, 0x04, 0x01, 0x31, 0x88, 0x10, 0xC0, 0x04, 0x02, 0x30, 0x88,
        0x10]) Scp03Card.recordedKeys {}).openWith Scp03Card.recordedChallenge = (.ok (), ch) ∧
      bytes ∈ newlySent (replaceKeys (newSet 0x32 .aes rfl) 0x30) ch ∧
      bytes[1]? = some Instruction.putKey ∧ bytes[2]? = some 0x30 ∧
      r.Follows ch (newSet 0x32 .aes rfl) 0x30 bytes ∧ slot ∈ r.slots ∧ slot.keyVersion = 0x30 ∧
      ∀ k ∈ (newSet 0x32 .aes rfl).keys, k.id ≠ slot.keyId := by
  obtain ⟨ch, bytes, hopen, hsent, hins, hall⟩ :=
    exists_sent_recorded (KeySlot.parseAll_twoSlots ⟨0x01, 0x31, 0x88, 0x10⟩
      ⟨0x02, 0x30, 0x88, 0x10⟩) 0x32 rfl (by decide) (.inr rfl) rfl 0x30
  obtain ⟨r, hr⟩ := exists_replacement hsent hins
  -- the slot of the replaced version is listed second, where the check does not look
  have hslot : (⟨0x02, 0x30, 0x88, 0x10⟩ : KeySlot) ∈ r.slots := by
    rw [(hall r hr).1]
    decide
  exact ⟨ch, bytes, r, _, hopen, hsent, hins, hr.header.2, hr, hslot, rfl, by decide⟩

end SmartCard.ContentManager
