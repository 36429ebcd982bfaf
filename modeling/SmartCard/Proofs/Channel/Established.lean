import SmartCard.Proofs.Apdu.Script
import SmartCard.Proofs.Channel.Handshake
import SmartCard.Proofs.Channel.Lifecycle
import SmartCard.Proofs.Channel.Limits

/-!
# Established channels

A channel is made new, calls are made to it, and its link may be used apart from it
(`SecureChannel.Reachable`). Whenever such a channel is established, it has a session with which
commands can be protected (`SecureChannel.Works`, `Reachable.exists_works`): the handshake has left
one, and every answer leaves one at the same level (`Works.goesOn`). What a sequence of commands
does over an established channel is proved from this, one command after the other. -/

namespace SmartCard

/-- Every session can be used with command MACs. -/
theorem Session.allows_mac (s : Session) : s.Allows .mac := by
  unfold Allows SecurityLevel.mac
  cases s.version with
  | scp01 => simp
  | scp02 => simp
  | scp03 => simp

/-- Protection leaves instruction and parameters as they are. -/
theorem Session.header_of_wrap {s : Session} {command wrapped : Command}
    (h : (s.wrap command).1 = .ok wrapped) :
    wrapped.ins = command.ins ∧ wrapped.p1 = command.p1 ∧ wrapped.p2 = command.p2 := by
  cases hmac : s.level.cMac with
  | true =>
    have hprotects := protects_of_wrap hmac h
    exact ⟨hprotects.ins_eq, hprotects.p1_eq, hprotects.p2_eq⟩
  | false =>
    have hcases := s.wrapped command
    generalize s.wrap command = outcome at h hcases
    -- only a command that was sent is left, and without command MACs it went as it was
    cases hcases with
    | early _ => cases h
    | failed _ _ => cases h
    | sent _ hmade =>
      rw [protectCommand_of_not_cMac hmac] at hmade
      cases hmade
      cases h
      exact ⟨rfl, rfl, rfl⟩

/-- So they can be read from the bytes that are sent. -/
theorem Session.getElem?_encode_of_wrap {s : Session} {command wrapped : Command}
    (h : (s.wrap command).1 = .ok wrapped) :
    wrapped.encode[1]? = some command.ins ∧ wrapped.encode[2]? = some command.p1 ∧
      wrapped.encode[3]? = some command.p2 := by
  obtain ⟨hins, hp1, hp2⟩ := header_of_wrap h
  rw [← hins, ← hp1, ← hp2]
  exact wrapped.getElem?_encode

namespace SecureChannel

variable {L : Type} [CardLink L] {ch after : SecureChannel L} {session : Session}
  {command : Command} {challenge : Block 8}

/-- An established channel, with the session that protects the next command. -/
structure Works (ch : SecureChannel L) (session : Session) : Prop where
  established : ch.state = .established
  current : ch.session = some session
  equipped : session.Equipped
  authenticated : session.authenticated = true

/-! ### Answers -/

namespace Passage

variable {p : Passage}

/-- The answer is passed on with its status. -/
theorem Follows.status_eq (h : p.Follows ch command after) : p.plain.status = p.raw.status :=
  Session.status_of_unwrap (congrArg Prod.fst h.opens)

/-- Command and answer change the links of the session, and nothing else about it. -/
theorem Follows.exists_answered (h : p.Follows ch command after) : ∃ chaining pending,
    chaining.version = p.session.chaining.version ∧
      p.waiting.level = p.session.level ∧
      p.answered = { p.session with chaining, pending } := by
  obtain ⟨chaining, pending, hversion, hwaiting⟩ := Session.exists_wrap p.session command
  obtain ⟨chaining', hversion', hanswered⟩ := Session.exists_unwrap p.waiting p.raw
  rw [h.protects] at hwaiting
  rw [h.opens] at hanswered
  change p.waiting = _ at hwaiting
  change p.answered = _ at hanswered
  -- the answer is taken by the session that the command has left, so both changes are in one
  -- session
  rw [hwaiting] at hanswered hversion'
  exact ⟨chaining', none, hversion'.trans hversion, by rw [hwaiting], hanswered⟩

/-- Neither the command nor the answer changes the level. -/
theorem Follows.level_eq (h : p.Follows ch command after) :
    p.waiting.level = p.session.level ∧ p.answered.level = p.session.level := by
  obtain ⟨chaining, pending, -, hwaiting, hanswered⟩ := h.exists_answered
  exact ⟨hwaiting, by rw [hanswered]⟩

end Passage

namespace Works

/-- **An answer leaves an established channel** with the same level and the same keys. -/
theorem goesOn (h : ch.Works session) {plain : Response}
    (hsent : ch.transmit command = (.ok plain, after)) : ∃ answered, after.Works answered ∧
      answered.level = session.level ∧ answered.keys = session.keys := by
  obtain ⟨p, hp, -⟩ := transmit_eq_ok_iff.1 hsent
  -- the session that has answered is the one that the channel had
  obtain rfl : session = p.session := Option.some.inj (h.current.symm.trans hp.current)
  obtain ⟨chaining, pending, hversion, -, hanswered⟩ := hp.exists_answered
  refine ⟨p.answered, ?_, hp.level_eq.2, by rw [hanswered]⟩
  rw [hp.goesOn, hanswered]
  exact ⟨h.established, rfl, h.equipped.relink hversion p.session.authenticated pending,
    h.authenticated⟩

omit [CardLink L] in
/-- Commands within the limit are protected, and can then be sent. -/
theorem exists_protected (h : ch.Works session) (command : Command)
    (hlen : command.dataBytes.length ≤ session.maxDataLength) :
    ∃ wrapped, (session.wrap command).1 = .ok wrapped ∧ wrapped.validate = .ok () := by
  cases hmac : session.level.cMac with
  | true =>
    obtain ⟨wrapped, hwrap⟩ := (h.equipped.wrap_ok_iff h.authenticated hmac).2 hlen
    exact ⟨wrapped, hwrap, (Session.protects_of_wrap hmac hwrap).validate_eq⟩
  | false =>
    -- the command goes as it is, and the limit is that of short commands
    have hmax : session.maxDataLength = Command.maxData := by
      unfold Session.maxDataLength
      rw [hmac]
      rfl
    exact ⟨command, Session.wrap_of_not_cMac h.authenticated hmac command,
      Command.validate_eq_ok_iff.2 (hmax ▸ hlen)⟩

/-- **A command over a channel without answer MACs** is protected and sent. The answer is passed on
as it is, and a link that has none closes the channel. -/
theorem exists_transmit_eq (h : ch.Works session) (hplain : session.level.rMac = false)
    (command : Command) (hlen : command.dataBytes.length ≤ session.maxDataLength) :
    ∃ wrapped answered, (session.wrap command).1 = .ok wrapped ∧ wrapped.validate = .ok () ∧
      answered.keys = session.keys ∧ answered.level = session.level ∧
      (∀ link : L, Works { ch with link, session := some answered } answered) ∧
      ch.transmit command = match CardLink.transmit ch.link wrapped with
        | (.ok answer, link) => (.ok answer, { ch with link, session := some answered })
        | (.error e, link) => (.error (.link e), { ch.close with link }) := by
  obtain ⟨wrapped, hwrap, hvalid⟩ := h.exists_protected command hlen
  obtain ⟨chaining, pending, hversion, hwaiting⟩ := session.exists_wrap command
  have hw : session.wrap command = (.ok wrapped, { session with chaining, pending }) :=
    Prod.ext hwrap hwaiting
  -- without answer MACs the session takes every answer, and only forgets that it waits
  have hopens (answer : Response) := Session.unwrap_of_not_rMac
    (s := { session with chaining, pending }) hplain answer
  have hworks (link : L) : Works { ch with link, session := some { session with
      chaining, pending := none } } { session with chaining, pending := none } :=
    ⟨h.established, rfl, h.equipped.relink hversion session.authenticated none, h.authenticated⟩
  refine ⟨wrapped, { session with chaining, pending := none }, hwrap, hvalid, rfl, rfl, hworks, ?_⟩
  unfold transmit
  rw [h.established, h.current]
  -- the link answers or fails, and there is nothing else that could go wrong
  cases hx : CardLink.transmit ch.link wrapped with
  | mk outcome link =>
    cases outcome with
    | error e => simp only [hw, hx]
    | ok answer => simp only [hw, hx, hopens]

/-- **An answer in store is passed on** at a level without answer MACs. -/
theorem exists_answer (h : ch.Works session) (command : Command)
    (hplain : session.level.rMac = false) {answer : Response} {answers : List Response}
    (hgives : CardLink.Gives ch.link (answer :: answers))
    (hlen : command.dataBytes.length ≤ session.maxDataLength) :
    ∃ wrapped link answered, (session.wrap command).1 = .ok wrapped ∧
      wrapped.validate = .ok () ∧ CardLink.transmit ch.link wrapped = (.ok answer, link) ∧
      CardLink.Gives link answers ∧
      ch.transmit command = (.ok answer, { ch with link, session := some answered }) := by
  obtain ⟨wrapped, answered, hwrap, hvalid, -, -, -, hsent⟩ :=
    h.exists_transmit_eq hplain command hlen
  obtain ⟨link, hanswer, hrest⟩ := hgives wrapped hvalid
  -- the answer is the first one in store
  rw [hanswer] at hsent
  exact ⟨wrapped, link, answered, hwrap, hvalid, hanswer, hrest, hsent⟩

end Works

/-- **What a channel sends is the command as its session protects it**, or nothing. -/
theorem link_transmit (ch : SecureChannel L) (command : Command) :
    (ch.transmit command).2.link = ch.link ∨ ∃ session wrapped, ch.state = .established ∧
      ch.session = some session ∧ (session.wrap command).1 = .ok wrapped ∧
      (ch.transmit command).2.link = (CardLink.transmit ch.link wrapped).2 := by
  unfold transmit
  split
  · rename_i session hstate hsession
    cases hwrap : session.wrap command with
    | mk outcome waiting =>
      cases outcome with
      | error e => exact .inl rfl
      | ok wrapped =>
        refine .inr ⟨session, wrapped, hstate, hsession, by rw [hwrap], ?_⟩
        cases hx : CardLink.transmit ch.link wrapped with
        | mk outcome link =>
          cases outcome with
          | error e => simp only [hx]
          | ok answer =>
            -- the answer is read without the link, whether it is taken or not
            simp only [hx]
            cases waiting.unwrap answer with
            | mk outcome answered =>
              cases outcome with
              | error e => rfl
              | ok plain => rfl
  · exact .inl rfl

/-! ### The handshake -/

omit [CardLink L] in
/-- The host replies with a session that it has started and authenticated. -/
theorem exists_start_of_reply {answer : Response} {proof : Command} {host : Session}
    (h : ch.reply challenge answer = .ok (proof, host)) :
    ∃ keys offer parameters first, Session.start keys offer challenge parameters = .ok first ∧
      first.authenticate ch.config.level = .ok (proof, host) := by
  unfold reply at h
  -- each check has passed, and what is left is the start of the session and the host's proof
  obtain ⟨-, h⟩ := guard_eq_ok_iff.1 h
  obtain ⟨offer, -, h⟩ := bind_eq_ok_iff.1 h
  obtain ⟨⟨⟩, -, h⟩ := bind_eq_ok_iff.1 h
  obtain ⟨keys, -, h⟩ := bind_eq_ok_iff.1 h
  obtain ⟨first, hstart, hauth⟩ := bind_eq_ok_iff.1 h
  exact ⟨keys, offer, ch.config.parameters, first, hstart, hauth⟩

/-- A handshake that succeeds ends with the session of the host's reply. -/
theorem exists_reply_of_handshake {link : L}
    (h : ch.handshake challenge = (.ok session, link)) :
    ∃ answer proof, ch.reply challenge answer = .ok (proof, session) := by
  unfold handshake at h
  split at h
  · cases h
  · -- the card has answered, the host has replied, and the card has taken the reply
    rename_i answer link₁ _
    split at h
    · cases h
    · rename_i proof host hreply
      split at h
      · cases h
      · split at h
        · cases h
          -- the session is that of the reply, whatever the card has said to it
          exact ⟨answer, proof, hreply⟩
        · cases h

/-- **A handshake establishes a channel that works.** -/
theorem exists_works_of_openWith {after : SecureChannel L}
    (h : ch.openWith challenge = (.ok (), after)) : ∃ session, after.Works session := by
  unfold openWith at h
  split at h
  · cases hshake : ch.handshake challenge with
    | mk outcome link =>
      rw [hshake] at h
      cases outcome with
      | error e => cases h
      | ok session =>
        cases h
        obtain ⟨answer, proof, hreply⟩ := exists_reply_of_handshake hshake
        -- all that a session needs is there from the host's proof on
        obtain ⟨keys, offer, parameters, first, hstart, hauth⟩ := exists_start_of_reply hreply
        exact ⟨session, rfl, rfl, Session.equipped_of_authenticate hstart hauth,
          Session.authenticated_of_authenticate hauth⟩
  · cases h

/-! ### What can become of a channel -/

/-- A channel that was made new and used since, and whose link was used apart from it. -/
inductive Reachable : SecureChannel L → Prop
  | new (link : L) (keys : KeySet) (config : ChannelConfig) : Reachable (new link keys config)
  | call {ch : SecureChannel L} (h : Reachable ch) (call : ChannelCall) : Reachable (call.run ch)
  | relink {ch : SecureChannel L} (h : Reachable ch) (link : L) : Reachable { ch with link }

theorem Reachable.openWith (h : Reachable ch) {outcome : Except Error Unit}
    (hopen : ch.openWith challenge = (outcome, after)) : Reachable after := by
  have hrun : (ChannelCall.openWith challenge).run ch = after := congrArg Prod.snd hopen
  rw [← hrun]
  exact .call h _

/-- A call leaves a channel that works, or one that is not established. -/
theorem exists_works_run (hbefore : ch.state = .established → ∃ session, ch.Works session)
    (call : ChannelCall) (hstate : (call.run ch).state = .established) :
    ∃ session, (call.run ch).Works session := by
  by_cases hwas : ch.state = .established
  · obtain ⟨session, hworks⟩ := hbefore hwas
    cases call with
    -- an open channel refuses to be opened again, and stays as it is
    | openWith challenge =>
      change ∃ session, (ch.openWith challenge).2.Works session
      rw [openWith_of_ne_idle (by rw [hwas]; simp)]
      exact ⟨session, hworks⟩
    | transmit command =>
      change (ch.transmit command).2.state = _ at hstate
      change ∃ session, (ch.transmit command).2.Works session
      cases hsent : ch.transmit command with
      | mk outcome after =>
        cases outcome with
        | ok plain =>
          obtain ⟨answered, hafter, -⟩ := hworks.goesOn hsent
          exact ⟨answered, hafter⟩
        | error e =>
          -- a failure has closed the channel
          rcases transmit_cases hwas hworks.current command with
            ⟨response, wrapped, answered, hok⟩ | ⟨e', link, hfailed, -⟩
          · rw [hok] at hsent
            cases hsent
          · rw [hfailed] at hstate
            cases hstate
    | close => cases hstate
    | reset =>
      -- whether the reset succeeds or not, it leaves no open channel
      change ch.reset.2.state = _ at hstate
      rcases reset_cases ch with ⟨link, hreset⟩ | ⟨e, link, hreset⟩
      · rw [hreset] at hstate
        cases hstate
      · rw [hreset] at hstate
        cases hstate
  · -- only a handshake establishes a channel
    obtain ⟨-, challenge, rfl, hopen⟩ := establishes call hwas hstate
    exact exists_works_of_openWith (Prod.ext hopen rfl)

/-- **Every established channel works.** -/
theorem Reachable.exists_works (h : Reachable ch) (hstate : ch.state = .established) :
    ∃ session, ch.Works session := by
  -- on what has become of the channel
  induction h with
  -- a new channel is idle
  | new link keys config => cases hstate
  | call _ call ih => exact exists_works_run ih call hstate
  -- another link takes nothing from the session
  | relink _ link ih =>
    obtain ⟨session, hworks⟩ := ih hstate
    exact ⟨session, hworks.established, hworks.current, hworks.equipped, hworks.authenticated⟩

/-! ### The recorded channel -/

omit [CardLink L] in
/-- A host that can prove itself at one level can do so at every level that the session allows. -/
theorem exists_authenticate {keys : KeySet} {offer : CardOffer} {parameters : Option UInt8}
    {first host : Session} {level other : SecurityLevel} {proof : Command}
    (hstart : Session.start keys offer challenge parameters = .ok first)
    (hauth : first.authenticate level = .ok (proof, host)) (hallows : first.Allows other) :
    ∃ proof host, first.authenticate other = .ok (proof, host) := by
  have hequipped := Session.equipped_of_authenticate hstart hauth
  have hlevel := (Session.unlinked_of_start hstart).level_eq
  obtain ⟨hnone, -, cryptogram, chaining, hproof, hmade, rfl⟩ :=
    Session.authenticate_eq_ok_iff.1 hauth
  have hversion : first.chaining.version = chaining.linkAnswers.version := by
    rw [Chaining.version_linkAnswers, Session.version_of_protectCommand hmade]
  -- the secrets are those that the host has after its proof
  have hsecrets := hequipped.relink hversion first.authenticated first.pending
  have hfirst : first.Equipped := by
    refine ⟨?_, hsecrets.enc, hsecrets.mac, ?_⟩
    · rw [hlevel]
      exact first.allows_mac
    · rw [hlevel]
      intro hmac
      cases hmac
  -- a proof has sixteen bytes of data at the most, so there is always room for its MAC
  have hfits : (Command.externalAuthenticate other.toByte cryptogram).dataBytes.length +
      (if SecurityLevel.mac.cEnc then 16 else 8) ≤ 255 := by
    rw [Command.externalAuthenticate, Command.dataBytes_globalPlatform, Block.length_toList]
    decide
  obtain ⟨field, chaining', hfield⟩ := hfirst.exists_protectData
    (CommandClass.globalPlatform ||| CommandClass.secureMessaging) hfits
  exact ⟨_, _, Session.authenticate_eq_ok_iff.2 ⟨hnone, hallows, cryptogram, chaining', hproof,
    (Session.protectCommand_eq_ok_iff rfl).2 ⟨field, hfield, rfl⟩, rfl⟩⟩

omit [CardLink L] in
/-- The host's proof fits its encoding. -/
theorem validate_of_authenticate {first host : Session} {level : SecurityLevel} {proof : Command}
    (hauth : first.authenticate level = .ok (proof, host)) : proof.validate = .ok () := by
  obtain ⟨-, -, cryptogram, chaining, -, hmade, -⟩ := Session.authenticate_eq_ok_iff.1 hauth
  obtain ⟨field, hfield, rfl⟩ := (Session.protectCommand_eq_ok_iff rfl).1 hmade
  rw [Command.validate_eq_ok_iff, Command.dataBytes_withData]
  exact Session.length_of_protectData hfield

/-- **The recorded handshake opens a channel** over every link that gives its two answers, at every
level that the session allows. -/
theorem exists_opened_recorded (link : L) {level : SecurityLevel} {answers : List Response}
    (hgives : CardLink.Gives link (recordedAnswer :: .statusOnly .success :: answers))
    (hallows : ∀ first, Session.start Scp03Card.recordedKeys Scp03Card.recordedOffer
      Scp03Card.recordedChallenge none = .ok first → first.Allows level) :
    ∃ (opened : SecureChannel L) (first : Session) (proof : Command) (host : Session),
      (new link Scp03Card.recordedKeys { level }).openWith Scp03Card.recordedChallenge =
          (.ok (), opened) ∧
        Session.start Scp03Card.recordedKeys Scp03Card.recordedOffer Scp03Card.recordedChallenge
          none = .ok first ∧
        first.authenticate level = .ok (proof, host) ∧ opened.Works host ∧
        CardLink.Gives opened.link answers := by
  obtain ⟨first, _, _, hstart, hfull⟩ := Scp03Card.recorded_authenticates
  obtain ⟨proof, host, hauth⟩ := exists_authenticate hstart hfull (hallows first hstart)
  -- any link with these answers plays the card, because the card of the record does not look at
  -- what is sent
  obtain ⟨link₁, hfirst, hgives⟩ := hgives (Command.initUpdate 0x30 Scp03Card.recordedChallenge) rfl
  obtain ⟨link₂, hsecond, hrest⟩ := hgives proof (validate_of_authenticate hauth)
  have hidle : (new link Scp03Card.recordedKeys { level }).state = .idle := rfl
  have hopen := openWith_of_reply hidle hfirst (reply_recordedAnswer link hstart hauth) hsecond rfl
  have hworks : Works { new link₂ Scp03Card.recordedKeys { level } with
      state := .established, session := some host } host :=
    ⟨rfl, rfl, Session.equipped_of_authenticate hstart hauth,
      Session.authenticated_of_authenticate hauth⟩
  exact ⟨_, first, proof, host, hopen, hstart, hauth, hworks, hrest⟩

end SecureChannel

end SmartCard
