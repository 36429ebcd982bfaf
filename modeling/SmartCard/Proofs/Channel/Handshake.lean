import SmartCard.Apdu.Script
import SmartCard.Channel.SecureChannel
import SmartCard.Proofs.Apdu.Tap
import SmartCard.Proofs.Channel.Scp03Card
import SmartCard.Proofs.Cipher.DerivedSecrets

/-!
# What a handshake takes

`SecureChannel.openWith_iff` says exactly when an idle channel can be opened, and what is sent
either way. Two answers of the card are needed. The first one has to pass all that
`Handshake.Follows` lists, from its status word to the card's proof and to the level asked for; the
second one only has to be a success. The first command is always sent, and the second one, which
carries the host's proof, exactly when the first answer has passed. So a card that cannot prove that
it has the keys never sees the host's proof.

The card's proof is stated apart from the session that checks it (`CardProof`): SCP01 and SCP02
cards give a MAC of both challenges, and SCP03 cards derive eight bytes from them. -/

namespace SmartCard

/-! ### The card's proof -/

/-- The proof of a card with these session keys. -/
def CardProof (keys : KeySet) (version : ScpVersion) (hostChallenge cardChallenge proof : Block 8) :
    Prop :=
  match version with
  | .scp01 | .scp02 => ∃ k, keys.get? .enc = some k ∧
      Mac.triple k.secret (Block.zero 8) (hostChallenge.toList ++ cardChallenge.toList) = .ok proof
  | .scp03 => ∃ k, keys.get? .mac = some k ∧
      Derivation.counterMode k.secret 0x00 (hostChallenge.toList ++ cardChallenge.toList) 64 =
        .ok proof.toList

namespace Session

theorem derivedCryptogram_eq_ok_iff {s : Session} {purpose : UInt8} {proof : Block 8} :
    s.derivedCryptogram purpose = .ok proof ↔ ∃ k, s.keys.get? .mac = some k ∧
      Derivation.counterMode k.secret purpose (context s.hostChallenge s.cardChallenge) 64 =
        .ok proof.toList := by
  unfold derivedCryptogram
  rw [bind_eq_ok_iff]
  constructor
  · rintro ⟨secret, hsecret, h⟩
    obtain ⟨k, hk, rfl⟩ := secret_eq_ok_iff.1 hsecret
    obtain ⟨block, hblock, h⟩ := bind_eq_ok_iff.1 h
    -- the key is derived in blocks, and the cryptogram is half of the first one
    rw [mapError_eq_ok_iff] at hblock
    cases h
    exact ⟨k, hk, by rw [Derivation.counterMode_64, hblock]; rfl⟩
  · rintro ⟨k, hk, h⟩
    rw [Derivation.counterMode_64, map_eq_ok_iff] at h
    obtain ⟨block, hblock, hproof⟩ := h
    refine ⟨k.secret, secret_eq_ok_iff.2 ⟨k, hk, rfl⟩, bind_eq_ok_iff.2
      ⟨block, mapError_eq_ok_iff.2 hblock, ?_⟩⟩
    rw [Block.ext hproof]
    rfl

/-- **The host computes the proof that it asks for.** -/
theorem cardCryptogram_eq_ok_iff {s : Session} {proof : Block 8} :
    s.cardCryptogram = .ok proof ↔
      CardProof s.keys s.version s.hostChallenge s.cardChallenge proof := by
  -- SCP01 and SCP02 ask for the same MAC, so what is said of it serves both
  have hmac : ((do
      let secret ← s.secret .enc
      (Mac.cryptogram secret s.hostChallenge.toList s.cardChallenge.toList).mapError .cipher) :
        Except Error (Block 8)) = .ok proof ↔ ∃ k, s.keys.get? .enc = some k ∧
      Mac.triple k.secret (Block.zero 8) (s.hostChallenge.toList ++ s.cardChallenge.toList) =
        .ok proof := by
    rw [bind_eq_ok_iff]
    constructor
    · rintro ⟨secret, hsecret, h⟩
      obtain ⟨k, hk, rfl⟩ := secret_eq_ok_iff.1 hsecret
      exact ⟨k, hk, mapError_eq_ok_iff.1 h⟩
    · rintro ⟨k, hk, h⟩
      exact ⟨k.secret, secret_eq_ok_iff.2 ⟨k, hk, rfl⟩, mapError_eq_ok_iff.2 h⟩
  unfold cardCryptogram CardProof
  cases s.version with
  | scp01 => exact hmac
  | scp02 => exact hmac
  | scp03 => exact derivedCryptogram_eq_ok_iff

end Session

/-! ### The first answer -/

/-- What the host has made of the first answer when it is about to prove itself. -/
structure Handshake where
  /-- What the card offers. -/
  offer : CardOffer
  /-- The static keys of this card. -/
  cardKeys : KeySet
  sessionKeys : KeySet
  /-- The host's proof. -/
  cryptogram : Block 8
  /-- The second command, which carries the host's proof. -/
  command : Command
  /-- The links between commands and answers after it. -/
  chaining : Chaining

variable {L : Type}

/-- The session before the host's proof was made. -/
def Handshake.session (h : Handshake) (ch : SecureChannel L) (challenge : Block 8) : Session :=
  Session.unproved h.sessionKeys h.offer challenge ch.config.parameters

/-- **The first answer passes**: each step that leads from it to the host's proof succeeds, and each
check is met. -/
structure Handshake.Follows (h : Handshake) (ch : SecureChannel L) (challenge : Block 8)
    (answer : Response) : Prop where
  success : answer.status = .success
  parsed : CardOffer.parse answer.payload = .ok h.offer
  /-- The protocol is the one that the host insists on, if there is one. -/
  protocol : ∀ version, ch.config.version = some version → version = h.offer.version
  /-- The keys fit any version or this one, or their version does not matter. -/
  keyVersion : ch.keys.version = 0 ∨ ch.keys.version = h.offer.keyVersion ∨
    ch.config.strictKeyVersion = false
  diversified : ch.keys.diversify ch.config.diversification h.offer.diversificationData =
    .ok h.cardKeys
  derived : Session.sessionKeys h.cardKeys h.offer challenge = .ok h.sessionKeys
  /-- **The card has proved itself.** -/
  cardProof : CardProof h.sessionKeys h.offer.version challenge h.offer.cardChallenge
    h.offer.cardCryptogram
  /-- An SCP03 card does not ask for cryptograms of sixteen bytes. -/
  shortMode : h.offer.version = .scp03 →
    Session.parametersOf h.offer ch.config.parameters &&& Session.longModeBit = 0
  allowed : (h.session ch challenge).Allows ch.config.level
  hostProof : (h.session ch challenge).hostCryptogram = .ok h.cryptogram
  built : (h.session ch challenge).protectCommand
    (Command.externalAuthenticate ch.config.level.toByte h.cryptogram) .mac =
      .ok (h.command, h.chaining)

namespace SecureChannel

variable {ch : SecureChannel L} {challenge : Block 8} {answer : Response}

theorem checkOffer_eq_ok_iff {offer : CardOffer} : ch.checkOffer offer = .ok () ↔
    (∀ version, ch.config.version = some version → version = offer.version) ∧
      (ch.keys.version = 0 ∨ ch.keys.version = offer.keyVersion ∨
        ch.config.strictKeyVersion = false) := by
  have hkeys : (¬(ch.config.strictKeyVersion ∧ ch.keys.version ≠ 0 ∧
      ch.keys.version ≠ offer.keyVersion)) ↔ (ch.keys.version = 0 ∨
        ch.keys.version = offer.keyVersion ∨ ch.config.strictKeyVersion = false) := by
    cases ch.config.strictKeyVersion with
    | false => simp
    | true =>
      simp only [true_and, Bool.true_eq_false, or_false, ne_eq]
      -- keys are refused only where strictness, a version of their own, and another one come
      -- together
      rw [← not_or, Classical.not_not]
  rw [← hkeys]
  unfold checkOffer
  -- the two checks are made one after the other, the first one if there is a protocol
  cases ch.config.version with
  | none =>
    constructor
    · intro h
      exact ⟨fun version hv => (nomatch hv), (guard_eq_ok_iff.1 h).1⟩
    · rintro ⟨-, h⟩
      exact guard_eq_ok_iff.2 ⟨h, rfl⟩
  | some expected =>
    constructor
    · intro h
      obtain ⟨hexpected, h⟩ := guard_eq_ok_iff.1 h
      refine ⟨fun version hv => ?_, (guard_eq_ok_iff.1 h).1⟩
      cases hv
      exact Classical.not_not.1 hexpected
    · rintro ⟨hexpected, h⟩
      exact guard_eq_ok_iff.2 ⟨Classical.not_not.2 (hexpected expected rfl),
        guard_eq_ok_iff.2 ⟨h, rfl⟩⟩

/-- **The host replies** exactly to an answer that passes. -/
theorem reply_eq_ok_iff {command : Command} {host : Session} :
    ch.reply challenge answer = .ok (command, host) ↔ ∃ h : Handshake,
      h.Follows ch challenge answer ∧ h.command = command ∧
        { h.session ch challenge with
          chaining := h.chaining.linkAnswers, level := ch.config.level, authenticated := true } =
          host := by
  unfold reply
  constructor
  · intro h
    -- every step up to the second command has succeeded, and is one of the conditions
    obtain ⟨hsuccess, h⟩ := guard_eq_ok_iff.1 h
    obtain ⟨offer, hparse, h⟩ := bind_eq_ok_iff.1 h
    obtain ⟨⟨⟩, hoffer, h⟩ := bind_eq_ok_iff.1 h
    obtain ⟨cardKeys, hdiversify, h⟩ := bind_eq_ok_iff.1 h
    obtain ⟨session, hstart, hauth⟩ := bind_eq_ok_iff.1 h
    -- the card's proof is checked when the session starts, before a level is asked for
    obtain ⟨hlong, sessionKeys, hkeys, hproof, rfl⟩ := Session.start_eq_ok_iff.1 hstart
    obtain ⟨-, hallows, cryptogram, chaining, hhost, hprotect, rfl⟩ :=
      Session.authenticate_eq_ok_iff.1 hauth
    rw [Bool.not_eq_true', Bool.not_eq_false] at hsuccess
    obtain ⟨hprotocol, hversion⟩ := checkOffer_eq_ok_iff.1 hoffer
    refine ⟨⟨offer, cardKeys, sessionKeys, cryptogram, command, chaining⟩, ?_, rfl, rfl⟩
    exact
      { success := beq_iff_eq.1 hsuccess
        parsed := hparse
        protocol := hprotocol
        keyVersion := hversion
        diversified := hdiversify
        derived := hkeys
        cardProof := by
          have h := Session.cardCryptogram_eq_ok_iff.1 hproof
          rwa [Session.version, Session.unproved, Chaining.version_start] at h
        shortMode := fun hv => Classical.not_not.1 fun hbit => hlong ⟨hv, hbit⟩
        allowed := hallows
        hostProof := hhost
        built := hprotect }
  · rintro ⟨h, hfollows, rfl, rfl⟩
    have hproof : (h.session ch challenge).cardCryptogram = .ok h.offer.cardCryptogram := by
      apply Session.cardCryptogram_eq_ok_iff.2
      rw [Session.version, Handshake.session, Session.unproved, Chaining.version_start]
      exact hfollows.cardProof
    have hstart : Session.start h.cardKeys h.offer challenge ch.config.parameters =
        .ok (h.session ch challenge) :=
      Session.start_eq_ok_iff.2 ⟨fun ⟨hv, hbit⟩ => hbit (hfollows.shortMode hv), h.sessionKeys,
        hfollows.derived, hproof, rfl⟩
    have hauth := Session.authenticate_eq_ok_iff.2 ⟨rfl, hfollows.allowed, h.cryptogram, h.chaining,
      hfollows.hostProof, hfollows.built, rfl⟩
    -- the steps in their order, each from its condition
    refine guard_eq_ok_iff.2 ⟨?_, bind_eq_ok_iff.2 ⟨h.offer, hfollows.parsed, bind_eq_ok_iff.2
      ⟨(), checkOffer_eq_ok_iff.2 ⟨hfollows.protocol, hfollows.keyVersion⟩, bind_eq_ok_iff.2
        ⟨h.cardKeys, hfollows.diversified, bind_eq_ok_iff.2
          ⟨h.session ch challenge, hstart, hauth⟩⟩⟩⟩⟩
    rw [Bool.not_eq_true', Bool.not_eq_false]
    exact beq_iff_eq.2 hfollows.success

/-! ### The second answer -/

section Link

variable [CardLink L]

/-- The first exchange of a handshake. -/
def firstExchange (ch : SecureChannel L) (challenge : Block 8) : Except LinkError Response × L :=
  CardLink.transmit ch.link (Command.initUpdate ch.keys.version challenge)

/-- An answer that does not pass ends the handshake after one command. -/
theorem handshake_of_not_follows (h : ∀ answer (h : Handshake),
    (ch.firstExchange challenge).1 = .ok answer → ¬h.Follows ch challenge answer) :
    ∃ e, ch.handshake challenge = (.error e, (ch.firstExchange challenge).2) := by
  cases hx : ch.firstExchange challenge with
  | mk outcome link =>
    have hexchange : CardLink.transmit ch.link (Command.initUpdate ch.keys.version challenge) =
        (outcome, link) := hx
    unfold handshake exchangeIn
    rw [hx] at h
    cases outcome with
    | error e => exact ⟨.link (.inContext "INITIALIZE UPDATE" e), by simp only [hexchange]⟩
    | ok answer =>
      cases hreply : ch.reply challenge answer with
      | error e => exact ⟨e, by simp only [hexchange, hreply]⟩
      -- the host would have replied only to an answer that passes
      | ok made =>
        obtain ⟨h', hfollows, -⟩ := reply_eq_ok_iff.1 hreply
        exact absurd hfollows (h answer h' rfl)

/-- An answer that passes is followed by the host's proof, and then the second answer decides. -/
theorem handshake_of_follows {h : Handshake} (hfirst : (ch.firstExchange challenge).1 = .ok answer)
    (hfollows : h.Follows ch challenge answer) :
    (ch.handshake challenge).2 =
        (CardLink.transmit (ch.firstExchange challenge).2 h.command).2 ∧
      ((∃ session, (ch.handshake challenge).1 = .ok session) ↔ ∃ confirmation,
        (CardLink.transmit (ch.firstExchange challenge).2 h.command).1 = .ok confirmation ∧
          confirmation.status = .success) := by
  have hreply := reply_eq_ok_iff.2 ⟨h, hfollows, rfl, rfl⟩
  have hexchange : CardLink.transmit ch.link (Command.initUpdate ch.keys.version challenge) =
      (.ok answer, (ch.firstExchange challenge).2) := by
    rw [← hfirst]
    rfl
  unfold handshake exchangeIn
  -- the first exchange and the reply are settled, so that the second exchange is all that is left
  simp only [hexchange, hreply]
  cases CardLink.transmit (ch.firstExchange challenge).2 h.command with
  | mk outcome link =>
    cases outcome with
    | error e => simp
    | ok confirmation =>
      have hsuccess : confirmation.isSuccess = true ↔ confirmation.status = .success := beq_iff_eq
      by_cases hs : confirmation.isSuccess = true
      · simp [hs, hsuccess.1 hs]
      · have hstatus : confirmation.status ≠ .success := fun hst => hs (hsuccess.2 hst)
        simp [hs, hstatus]

/-- An idle channel is opened by a handshake that succeeds, and keeps its link either way. -/
theorem openWith_of_idle (hidle : ch.state = .idle) (challenge : Block 8) :
    ((ch.openWith challenge).1 = .ok () ↔ ∃ session, (ch.handshake challenge).1 = .ok session) ∧
      (ch.openWith challenge).2.link = (ch.handshake challenge).2 := by
  unfold openWith
  rw [if_pos hidle]
  cases ch.handshake challenge with
  | mk outcome link =>
    cases outcome with
    | error e => simp
    | ok session => simp

/-- An idle channel is opened with the session of the host's reply, once the card has confirmed. -/
theorem openWith_of_reply (hidle : ch.state = .idle) {link₁ link₂ : L} {confirmation : Response}
    {proof : Command} {host : Session} (hfirst : ch.firstExchange challenge = (.ok answer, link₁))
    (hreply : ch.reply challenge answer = .ok (proof, host))
    (hsecond : CardLink.transmit link₁ proof = (.ok confirmation, link₂))
    (hsuccess : confirmation.isSuccess = true) : ch.openWith challenge =
      (.ok (), { ch with link := link₂, state := .established, session := some host }) := by
  unfold firstExchange at hfirst
  unfold openWith handshake exchangeIn
  rw [if_pos hidle]
  simp only [hfirst, hreply, hsecond, hsuccess, if_true]

end Link

/-! ### What is sent -/

theorem recorded_initUpdate (keyVersion : UInt8) (challenge : Block 8) :
    Tapped.recorded (Command.initUpdate keyVersion challenge) =
      [(Command.initUpdate keyVersion challenge).encode] := by
  have hdata : (Command.initUpdate keyVersion challenge).dataBytes = challenge.toList :=
    Command.dataBytes_withData
      ⟨CommandClass.globalPlatform, Instruction.initUpdate, keyVersion, 0x00, none, none⟩ _
  unfold Tapped.recorded
  rw [hdata, Block.length_toList]
  -- a challenge has eight bytes, so the first command always fits and is recorded
  rfl

/-- The second command fits its encoding, since protected data always do. -/
theorem length_command {h : Handshake} (hfollows : h.Follows ch challenge answer) :
    h.command.dataBytes.length ≤ Command.maxData := by
  obtain ⟨field, hfield, hcommand⟩ := (Session.protectCommand_eq_ok_iff rfl).1 hfollows.built
  rw [← hcommand, Command.dataBytes_withData]
  exact Session.length_of_protectData hfield

/-- **What it takes to open a channel, and what is sent meanwhile.** An idle channel is opened
exactly when the first command is answered, the answer passes, and the second command is answered
with success. The second command, with the host's proof in it, is sent exactly when the first answer
passes; nothing else is sent. -/
theorem openWith_iff [CardLink L] (ch : SecureChannel (Tapped L)) (hidle : ch.state = .idle)
    (challenge : Block 8) :
    ((ch.openWith challenge).1 = .ok () ↔ ∃ answer h confirmation,
        (ch.firstExchange challenge).1 = .ok answer ∧ Handshake.Follows h ch challenge answer ∧
        (CardLink.transmit (ch.firstExchange challenge).2 h.command).1 = .ok confirmation ∧
        confirmation.status = .success) ∧
      ((∃ answer h, (ch.firstExchange challenge).1 = .ok answer ∧
          Handshake.Follows h ch challenge answer ∧
          (ch.openWith challenge).2.link.sent = ch.link.sent ++
            [(Command.initUpdate ch.keys.version challenge).encode, h.command.encode]) ∨
        (∀ answer h, (ch.firstExchange challenge).1 = .ok answer →
          ¬Handshake.Follows h ch challenge answer) ∧
          (ch.openWith challenge).2.link.sent = ch.link.sent ++
            [(Command.initUpdate ch.keys.version challenge).encode]) := by
  obtain ⟨hopen, hlink⟩ := openWith_of_idle hidle challenge
  -- whatever the card answers, the first command has gone out
  have hfirst : (ch.firstExchange challenge).2.sent =
      ch.link.sent ++ [(Command.initUpdate ch.keys.version challenge).encode] := by
    unfold firstExchange
    rw [Tapped.transmit_eq, recorded_initUpdate]
  rw [hopen, hlink]
  by_cases hpass : ∃ answer h, (ch.firstExchange challenge).1 = .ok answer ∧
      Handshake.Follows h ch challenge answer
  · -- the second command is sent, and its answer decides
    obtain ⟨answer, h, hanswer, hfollows⟩ := hpass
    obtain ⟨hafter, hdecides⟩ := handshake_of_follows hanswer hfollows
    refine ⟨?_, .inl ⟨answer, h, hanswer, hfollows, ?_⟩⟩
    · constructor
      · intro hok
        obtain ⟨confirmation, hconfirmation⟩ := hdecides.1 hok
        exact ⟨answer, h, confirmation, hanswer, hfollows, hconfirmation⟩
      · rintro ⟨answer', h', confirmation, hanswer', hfollows', hconfirmation⟩
        -- the other direction holds for any answer that passes, not only for the one above
        exact (handshake_of_follows hanswer' hfollows').2.2 ⟨confirmation, hconfirmation⟩
    · have hrecorded : Tapped.recorded h.command = [h.command.encode] :=
        if_pos (length_command hfollows)
      rw [hafter, Tapped.transmit_eq, hrecorded]
      change (ch.firstExchange challenge).2.sent ++ _ = _
      rw [hfirst, List.append_assoc]
      rfl
  · have hfails (answer : Response) (h : Handshake)
        (hanswer : (ch.firstExchange challenge).1 = .ok answer) :
        ¬h.Follows ch challenge answer :=
      fun hfollows => hpass ⟨answer, h, hanswer, hfollows⟩
    -- no second command is sent, and there is no session
    obtain ⟨e, herror⟩ := handshake_of_not_follows hfails
    rw [herror]
    refine ⟨?_, .inr ⟨hfails, hfirst⟩⟩
    constructor
    · rintro ⟨session, hok⟩
      cases hok
    · rintro ⟨answer, h, confirmation, hanswer, hfollows, -⟩
      exact absurd hfollows (hfails answer h hanswer)

/-- The first answer of the recorded session. -/
def recordedAnswer : Response :=
  .success [0x00, 0x01, 0x02, 0x03, 0x04, 0x05, 0x06, 0x07, 0x08, 0x09, 0x30, 0x03, 0x70, 0x11,
    0x12, 0x13, 0x14, 0x15, 0x16, 0x17, 0x18, 0xD7, 0xC8, 0x6A, 0x7D, 0x0A, 0x2D, 0x0D, 0xDC, 0x00,
    0x00, 0x01]

/-- A channel to a card that answers as the one of the recorded session did. -/
def recordedChannel : SecureChannel (Tapped ScriptedCard) :=
  new ⟨ScriptedCard.ofAnswers [recordedAnswer.encode, [0x90, 0x00]], []⟩ Scp03Card.recordedKeys
    { level := .full }

/-- At every level the host replies to the recorded answer as the session does. -/
theorem reply_recordedAnswer (link : L) {level : SecurityLevel} {session host : Session}
    {command : Command}
    (hstart : Session.start Scp03Card.recordedKeys Scp03Card.recordedOffer
      Scp03Card.recordedChallenge none = .ok session)
    (hauth : session.authenticate level = .ok (command, host)) :
    (new link Scp03Card.recordedKeys { level }).reply Scp03Card.recordedChallenge
      recordedAnswer = .ok (command, host) := by
  unfold reply
  -- the recorded answer is a success, it is the recorded offer, and no option of the channel stands
  -- in its way
  refine guard_eq_ok_iff.2 ⟨by decide, bind_eq_ok_iff.2 ⟨Scp03Card.recordedOffer, rfl, ?_⟩⟩
  refine bind_eq_ok_iff.2 ⟨(), rfl, bind_eq_ok_iff.2 ⟨Scp03Card.recordedKeys, rfl, ?_⟩⟩
  exact bind_eq_ok_iff.2 ⟨session, hstart, hauth⟩

theorem recorded_follows : ∃ h : Handshake,
    h.Follows recordedChannel Scp03Card.recordedChallenge recordedAnswer := by
  obtain ⟨session, command, host, hstart, hauth⟩ := Scp03Card.recorded_authenticates
  have hreply := reply_recordedAnswer recordedChannel.link hstart hauth
  obtain ⟨h, hfollows, -⟩ := reply_eq_ok_iff.1 hreply
  exact ⟨h, hfollows⟩

/-- The recorded handshake succeeds with two commands. -/
theorem openWith_iff_recorded :
    recordedChannel.state = .idle ∧
      (recordedChannel.openWith Scp03Card.recordedChallenge).1 = .ok () ∧
      ∃ h : Handshake, (recordedChannel.openWith Scp03Card.recordedChallenge).2.link.sent =
        [(Command.initUpdate 0x30 Scp03Card.recordedChallenge).encode, h.command.encode] := by
  obtain ⟨h, hfollows⟩ := recorded_follows
  have hfirst : recordedChannel.firstExchange Scp03Card.recordedChallenge = (.ok recordedAnswer,
      ⟨{ script := [.ok [0x90, 0x00]]
         sent := [(Command.initUpdate 0x30 Scp03Card.recordedChallenge).encode] },
        [(Command.initUpdate 0x30 Scp03Card.recordedChallenge).encode]⟩) := rfl
  obtain ⟨hopen, hsent⟩ := openWith_iff recordedChannel rfl Scp03Card.recordedChallenge
  refine ⟨rfl, hopen.2 ⟨recordedAnswer, h, .statusOnly .success, by rw [hfirst], hfollows, ?_, rfl⟩,
    ?_⟩
  · rw [hfirst, Tapped.transmit_eq]
    unfold CardLink.transmit Command.validate
    rw [if_neg (Nat.not_lt.2 (length_command hfollows))]
    rfl
  · rcases hsent with ⟨answer', h', -, -, hsent⟩ | ⟨hfails, -⟩
    · exact ⟨h', hsent⟩
    · -- the recorded answer passes, so the handshake has not ended after one command
      exact absurd hfollows (hfails recordedAnswer h (by rw [hfirst]))

end SecureChannel

end SmartCard
