import SmartCard.Proofs.Channel.Conversation
import SmartCard.Proofs.Channel.Protection

/-!
# The card of an SCP01 or SCP02 session

`DesCard` is the other party of a session of SCP01 or SCP02: it holds the session keys, the
parameters and the MACs of the last command and the last answer. It accepts EXTERNAL AUTHENTICATE
(`DesCard.accept`), deciphers and checks each command (`DesCard.receive`), and adds a MAC to its
answers (`DesCard.respond`).

`DesCard.converse_desCard` is the main result. However a session was started, and whatever level it
was authenticated at, a card with the same keys and parameters understands every command of every
conversation, the host understands every answer, and in the end both have the same two MACs to go on
from. -/

namespace SmartCard

/-! ### The card -/

/-- A card with a session of SCP01 or SCP02. -/
structure DesCard where
  protocol : DesProtocol
  /-- The session keys. -/
  keys : KeySet
  /-- The options of the protocol. -/
  parameters : UInt8
  /-- The level that the host has asked for. -/
  level : SecurityLevel
  /-- The MAC of the last command, if there was one. -/
  commandMac : Option (Block 8)
  /-- The MAC of the last answer. -/
  answerMac : Block 8
  /-- The last command, without its protection. -/
  heard : Option Command

namespace DesCard

/-- A card that waits for EXTERNAL AUTHENTICATE. -/
def fresh (protocol : DesProtocol) (keys : KeySet) (parameters : UInt8) : DesCard where
  protocol := protocol
  keys := keys
  parameters := parameters
  level := .plain
  commandMac := none
  answerMac := Block.zero 8
  heard := none

/-- The chaining value of a command: zero for the first one, and then the MAC of the command before,
enciphered if the parameters say so. -/
def icv (card : DesCard) (secret : Bytes) : Option (Block 8) :=
  match card.commandMac with
  | none => some (Block.zero 8)
  | some mac =>
    if card.parameters &&& 0x10 ≠ 0 then (card.protocol.encryptIcv secret mac).toOption
    else some mac

/-- Checks the MAC of a command with plain data, and keeps it for the next one. -/
def checkMac (card : DesCard) (c : Command) (data : Bytes) (received : Block 8) :
    Option DesCard := do
  let secret ← card.keys.secret? .mac
  let icv ← card.icv secret
  let mac ← (card.protocol.mac secret icv
    (c.header ++ [(data.length + 8).toUInt8] ++ data)).toOption
  if mac = received then some { card with commandMac := some mac } else none

/-- The plain data of a command. -/
def decipher (card : DesCard) (rest : Bytes) : Option Bytes :=
  if card.level.cEnc && !rest.isEmpty then do
    let secret ← card.keys.secret? .enc
    let framed ← (TripleDes.cbcDecrypt secret (Block.zero 8) rest).toOption
    card.protocol.unframe framed
  else some rest

/-- Accepts EXTERNAL AUTHENTICATE, which carries a MAC and asks for a level. The MACs of answers go
on from it. -/
def accept (card : DesCard) (c : Command) : Option DesCard := do
  let (data, received) ← splitMac c.dataBytes
  let checked ← card.checkMac c data received
  return { checked with level := SecurityLevel.ofByte c.p1, answerMac := received }

/-- Checks a command and removes the protection of the level. -/
def unprotect (card : DesCard) (c : Command) : Option (Command × DesCard) :=
  if card.level.cMac then do
    let (rest, received) ← splitMac c.dataBytes
    let data ← card.decipher rest
    let checked ← card.checkMac c data received
    return (c.withData data, checked)
  else some (c, card)

/-- Removes the protection of a command and keeps the command for the answer. -/
def receive (card : DesCard) (c : Command) : Option (Command × DesCard) := do
  let (plain, checked) ← card.unprotect c
  return (plain, { checked with heard := some plain })

/-- What the MAC of an answer covers: the command, without the bits for secure messaging and
channels, and the answer. -/
def answerInput (c : Command) (answer : Response) : Bytes :=
  [c.cla &&& 0xF8, c.ins, c.p1, c.p2, c.dataBytes.length.toUInt8] ++ c.dataBytes ++
    [answer.payload.length.toUInt8] ++ answer.payload ++ answer.status.toBytes

/-- Adds a MAC to the answer, if the level asks for it. -/
def respond (card : DesCard) (answer : Response) : Option (Response × DesCard) :=
  if card.level.rMac then do
    let c ← card.heard
    let secret ← card.keys.secret? .rmac
    let mac ← (Mac.retail secret card.answerMac (answerInput c answer)).toOption
    return (⟨answer.payload ++ mac.toList, answer.status⟩, { card with answerMac := mac })
  else some (answer, card)

instance : CardSide DesCard where
  receive := receive
  respond := respond

/-- What links the next command and the next answer to the last ones. -/
def links (card : DesCard) : Chaining := card.protocol.links card.commandMac card.answerMac

/-! ### What the card makes of a command -/

variable {card : DesCard} {host : Session}

theorem icv_of_commandIcv (hparameters : card.parameters = host.parameters) {secret : Bytes}
    {icv : Block 8}
    (h : host.commandIcv card.protocol.encryptIcv secret card.commandMac = .ok icv) :
    card.icv secret = some icv := by
  unfold Session.commandIcv at h
  unfold DesCard.icv
  cases hmac : card.commandMac with
  -- before the first command there is no MAC to go on from
  | none =>
    rw [hmac] at h
    cases h
    rfl
  | some mac =>
    rw [hmac] at h
    rw [hparameters]
    change (if host.parameters &&& 0x10 ≠ 0 then _ else _) = _ at h
    change (if host.parameters &&& 0x10 ≠ 0 then _ else _) = _
    by_cases hbit : host.parameters &&& 0x10 ≠ 0
    · rw [if_pos hbit] at h ⊢
      exact toOption_of_eq_ok h
    · rw [if_neg hbit] at h ⊢
      cases h
      rfl

/-- **The card reads the data that the host has enciphered.** -/
theorem decipher_of_desBody (hkeys : card.keys = host.keys) {data body : Bytes}
    (hlen : data.length < 256)
    (h : host.desBody card.level.cEnc card.protocol.frame data = .ok body) :
    card.decipher body = some data := by
  unfold Session.desBody at h
  unfold decipher
  by_cases hc : (card.level.cEnc && !data.isEmpty) = true
  · rw [if_pos hc] at h
    obtain ⟨secret, hsecret, h⟩ := bind_eq_ok_iff.1 h
    rw [mapError_eq_ok_iff] at h
    -- framed data are never empty, so the card takes the branch that deciphers
    have hne := TripleDes.ne_nil_of_cbcEncrypt h (card.protocol.frame_ne_nil data)
    rw [if_pos (Session.enciphers_sent hc hne), hkeys, Session.secret?_of_secret hsecret]
    simp only [Option.bind_eq_bind, Option.bind_some,
      toOption_of_eq_ok (TripleDes.cbcDecrypt_of_cbcEncrypt h)]
    exact card.protocol.unframe_frame hlen
  · -- what is not enciphered arrives as it is, and the card sees that it is
    rw [if_neg hc] at h
    cases h
    rw [if_neg hc]

/-- **The card accepts the MAC of the host**, which covers the plain data, and both go on from the
same MAC. The field carries the data as they are sent in front of it. -/
theorem checkMac_of_desData (hkeys : card.keys = host.keys)
    (hparameters : card.parameters = host.parameters) {c : Command} {cla : UInt8}
    {encipher : Bool} {field : Bytes} {mac : Block 8}
    (h : host.desData card.protocol card.commandMac c cla encipher = .ok (field, mac)) :
    ∃ body, host.desBody encipher card.protocol.frame c.dataBytes = .ok body ∧
      c.dataBytes.length < 256 ∧ body ++ mac.toList = field ∧
      card.checkMac ((c.withClass cla).withData field) c.dataBytes mac =
        some { card with commandMac := some mac } := by
  -- the MAC is computed over the plain data, before they are enciphered
  obtain ⟨hlen, secret, icv, body, hsecret, hicv, hmac, hbody, -, rfl⟩ :=
    Session.desData_eq_ok_iff.1 h
  refine ⟨body, hbody, by omega, rfl, ?_⟩
  unfold checkMac
  rw [hkeys, Session.secret?_of_secret hsecret]
  change (card.icv secret).bind _ = _
  rw [icv_of_commandIcv hparameters hicv]
  change (card.protocol.mac secret icv (Session.macInput cla c (c.dataBytes.length + 8).toUInt8
    c.dataBytes)).toOption.bind _ = _
  rw [toOption_of_eq_ok hmac, Option.bind_some, if_pos rfl]

variable {p : DesProtocol}

/-! ### Host and card in step -/

/-- The host is at a level, and host and card agree on everything that links commands and
answers. -/
structure InStep (level : SecurityLevel) (host : Session) (card : DesCard) : Prop where
  authenticated : host.authenticated = true
  hostLevel : host.level = level
  cardLevel : card.level = level
  keys : card.keys = host.keys
  parameters : card.parameters = host.parameters
  enc : host.Usable .enc
  mac : host.Usable .mac
  /-- Only SCP02 has MACs of answers. -/
  rmac : level.rMac = true → card.protocol = .scp02 ∧ host.Usable .rmac
  chaining : host.chaining = card.links

variable {level : SecurityLevel}

/-- Neither protocol counts its commands. -/
theorem InStep.counted (h : InStep level host card) (c : Command) :
    InStep level (host.counted c) card := by
  refine { h with chaining := ?_ }
  change host.chaining.count = _
  rw [h.chaining, DesCard.links]
  -- counting is for SCP03: both kinds of links stay as they are
  cases card.protocol with
  | scp01 => rfl
  | scp02 => rfl

/-- **Every command that is protected is read.** The host can protect a command that fits, the card
reads what the host was given, and both have the MAC of this command in common. -/
theorem InStep.exists_protectCommand (h : InStep level host card) {c : Command}
    (hfits : c.dataBytes.length ≤ host.maxDataLength) :
    ∃ wrapped chaining checked, host.protectCommand c level = .ok (wrapped, chaining) ∧
      card.unprotect wrapped = some (c.delivered level, checked) ∧
      InStep level { host with chaining } checked := by
  unfold unprotect Command.delivered
  rw [h.cardLevel]
  cases hmac : level.cMac with
  | false =>
    -- without command MACs the card takes the command as it is sent
    exact ⟨c, host.chaining, card, Session.protectCommand_of_not_cMac hmac, rfl, h⟩
  | true =>
    obtain ⟨field, mac, hdata⟩ := Session.exists_desData (p := card.protocol) h.enc h.mac
      card.commandMac c (c.cla ||| CommandClass.secureMessaging) level.cEnc
      (h.hostLevel ▸ (Session.room_iff_le_maxDataLength (h.hostLevel ▸ hmac)).2 hfits)
    obtain ⟨body, hbody, hlen, rfl, hcheck⟩ := checkMac_of_desData h.keys h.parameters hdata
    refine ⟨_, card.protocol.links (some mac) card.answerMac, { card with commandMac := some mac },
      (Session.protectCommand_eq_ok_iff hmac).2 ⟨body ++ mac.toList, ?_, rfl⟩, ?_,
      { h with chaining := rfl }⟩
    · rw [Session.protectData_eq card.answerMac h.chaining, hdata]
      rfl
    · -- the card deciphers first, and checks the MAC of what it has found
      rw [← h.cardLevel] at hbody
      have hplain := decipher_of_desBody h.keys hlen hbody
      simp only [if_true, Command.dataBytes_withData, splitMac_append, hplain, hcheck,
        Option.bind_eq_bind, Option.bind_some]
      rfl

/-- The bits that the MAC of an answer leaves out include the one that marks a protected command. -/
theorem secureMessaging_and (cla : UInt8) :
    (cla ||| CommandClass.secureMessaging) &&& 0xF8 = cla &&& 0xF8 := by
  apply UInt8.toBitVec_inj.1
  rw [UInt8.toBitVec_and, UInt8.toBitVec_or, BitVec.and_or_distrib_right, UInt8.toBitVec_and]
  exact BitVec.or_zero

theorem answerInput_delivered (c : Command) (answer : Response) :
    answerInput (c.delivered level) answer =
      Session.scp02AnswerInput c answer.payload answer.status := by
  unfold Command.delivered
  -- without command MACs the class byte is sent as it is
  cases level.cMac with
  | false => rfl
  | true =>
    unfold answerInput Session.scp02AnswerInput
    rw [if_pos rfl, Command.dataBytes_withData]
    change [(c.cla ||| CommandClass.secureMessaging) &&& 0xF8, _, _, _, _] ++ _ ++ _ ++ _ ++ _ = _
    rw [secureMessaging_and]
    rfl

/-- **Every answer arrives.** The card refuses no answer to the command it has heard, the host reads
the one that the card was given, and both have the MAC of this answer in common. -/
theorem InStep.exists_respond (h : InStep level host card) {c : Command}
    (hpending : host.pending = if level.rMac then some c else none)
    (hheard : card.heard = some (c.delivered level)) (answer : Response) :
    ∃ sealed host' card', card.respond answer = some (sealed, card') ∧
      host.unwrap sealed = (.ok answer, host') ∧ InStep level host' card' := by
  unfold respond
  -- without answer MACs both sides pass the answer on
  cases hmac : level.rMac with
  | false =>
    exact ⟨answer, { host with pending := none }, card, by rw [h.cardLevel, hmac]; rfl,
      Session.unwrap_of_not_rMac (by rw [h.hostLevel, hmac]) answer, { h with }⟩
  | true =>
    -- a level with answer MACs is one of SCP02
    obtain ⟨hscp02, secret, hsecret, husable⟩ := h.rmac hmac
    obtain ⟨mac, hanswer⟩ := Mac.exists_retail husable card.answerMac
      (Session.scp02AnswerInput c answer.payload answer.status)
    have hchaining : host.chaining = .scp02 card.commandMac card.answerMac := by
      rw [h.chaining, DesCard.links, hscp02]
      rfl
    refine ⟨⟨answer.payload ++ mac.toList, answer.status⟩,
      { host with pending := none, chaining := .scp02 card.commandMac mac },
      { card with answerMac := mac }, ?_, ?_, { h with chaining := ?_ }⟩
    · rw [h.cardLevel, hmac, if_pos rfl, hheard, h.keys, Session.secret?_of_secret hsecret]
      simp only [Option.bind_eq_bind, Option.bind_some, answerInput_delivered,
        toOption_of_eq_ok hanswer]
      rfl
    · -- the host waits for the command that the card has heard
      rw [hmac, if_pos rfl] at hpending
      have hanswerMac : host.answerMac host.pending answer.payload answer.status =
          .ok (mac, .scp02 card.commandMac mac) := by
        unfold Session.answerMac
        rw [hchaining, hpending]
        exact bind_eq_ok_iff.2 ⟨secret, hsecret,
          bind_eq_ok_iff.2 ⟨mac, mapError_eq_ok_iff.2 hanswer, rfl⟩⟩
      have hdata : host.answerData answer.payload = .ok answer.payload := by
        unfold Session.answerData
        rw [hchaining]
      exact Session.unwrap_of_openAnswer (by rw [h.hostLevel, hmac]) (by simp)
        (Session.openAnswer_of_answerMac hanswerMac hdata)
    · -- the card's links are the host's, with the MAC of this answer
      rw [DesCard.links]
      change _ = card.protocol.links card.commandMac mac
      rw [hscp02]
      rfl

/-- One exchange leaves host and card in step. -/
theorem InStep.exists_exchange (h : InStep level host card) {e : Exchange}
    (hfits : e.command.dataBytes.length ≤ host.maxDataLength) :
    ∃ host' card', host.exchange card e = some (e.delivered level, host', card') ∧
      InStep level host' card' := by
  obtain ⟨wrapped, chaining, checked, hprotect, hunprotect, hchecked⟩ :=
    (h.counted e.command).exists_protectCommand (c := e.command) hfits
  -- protection does what the relation says, whatever was counted
  have hwrap := Session.wrap_of_protectCommand h.authenticated (by rw [h.hostLevel]; exact hprotect)
  have hreceive : card.receive wrapped = some (e.command.delivered level,
      { checked with heard := some (e.command.delivered level) }) := by
    unfold receive
    rw [hunprotect]
    rfl
  have hpending : (host.counted e.command).pending =
      if level.rMac then some e.command else none := by
    rw [← h.hostLevel]
    rfl
  -- the command that the card keeps for its answer is no part of the relation
  obtain ⟨sealed, host', card', hrespond, hunwrap, hstep⟩ :=
    (show InStep level _ { checked with heard := some (e.command.delivered level) } from
      { hchecked with }).exists_respond hpending rfl e.answer
  exact ⟨host', card', Session.exchange_eq_some hwrap hreceive hrespond hunwrap, hstep⟩

/-! ### Whole sessions -/

/-- The card's proof needs the encryption key. -/
theorem usable_of_cardCryptogram (hversion : host.version = p.version) {proof : Block 8}
    (h : host.cardCryptogram = .ok proof) : host.Usable .enc := by
  unfold Session.cardCryptogram at h
  rw [hversion] at h
  have hmac : ∃ secret, host.secret .enc = .ok secret ∧
      ((Mac.cryptogram secret host.hostChallenge.toList host.cardChallenge.toList).mapError
        Error.cipher) = .ok proof := by
    -- both protocols make the card's proof in one way
    cases p with
    | scp01 => exact bind_eq_ok_iff.1 h
    | scp02 => exact bind_eq_ok_iff.1 h
  obtain ⟨secret, hsecret, hmac⟩ := hmac
  exact ⟨secret, hsecret, Mac.usable_of_triple (mapError_eq_ok_iff.1 hmac)⟩

/-- The card accepts the proof of the host, which carries a MAC only, and knows the level. -/
theorem accept_of_protectCommand {session : Session}
    (hfresh : session.chaining = p.links none (Block.zero 8)) {cryptogram : Block 8}
    {proof : Command} {chaining : Chaining}
    (h : session.protectCommand (Command.externalAuthenticate level.toByte cryptogram) .mac =
      .ok (proof, chaining)) :
    session.Usable .mac ∧ ∃ mac, chaining = p.links (some mac) (Block.zero 8) ∧
      (fresh p session.keys session.parameters).accept proof =
        some { fresh p session.keys session.parameters with
          commandMac := some mac, level, answerMac := mac } := by
  obtain ⟨field, hfield, rfl⟩ := (Session.protectCommand_eq_ok_iff rfl).1 h
  rw [Session.protectData_eq (Block.zero 8) hfresh, map_eq_ok_iff] at hfield
  obtain ⟨⟨_, mac⟩, hdata, hfield⟩ := hfield
  cases hfield
  refine ⟨Session.usable_of_desData hdata, mac, rfl, ?_⟩
  obtain ⟨body, hbody, -, rfl, hcheck⟩ :=
    @checkMac_of_desData (fresh p session.keys session.parameters) _ rfl rfl _ _ _ _ _ hdata
  -- nothing is enciphered, so the body is the plain data
  cases hbody
  unfold accept
  rw [Command.dataBytes_withData, splitMac_append]
  change ((fresh p session.keys session.parameters).checkMac _ _ _).bind _ = _
  rw [hcheck, Option.bind_some]
  change some { fresh p session.keys session.parameters with
    commandMac := some mac, level := SecurityLevel.ofByte level.toByte, answerMac := mac } = _
  rw [SecurityLevel.ofByte_toByte]

/-- Authentication brings host and card in step. -/
theorem exists_accept {staticKeys : KeySet} {offer : CardOffer} {challenge : Block 8}
    {parameters : Option UInt8} {session : Session} {proof : Command}
    (hstart : Session.start staticKeys offer challenge parameters = .ok session)
    (hversion : offer.version = p.version)
    (hauth : session.authenticate level = .ok (proof, host)) :
    ∃ ready, (fresh p session.keys session.parameters).accept proof = some ready ∧
      InStep level host ready := by
  obtain ⟨-, keys, hkeys, hproof, rfl⟩ := Session.start_eq_ok_iff.1 hstart
  obtain ⟨-, ⟨-, -, hoffered⟩, cryptogram, chaining, -, hprotect, rfl⟩ :=
    Session.authenticate_eq_ok_iff.1 hauth
  -- both protocols start with no command MAC and a block of zeros
  have hfresh : (Session.unproved keys offer challenge parameters).chaining =
      p.links none (Block.zero 8) := by
    change Chaining.start offer.version = _
    rw [hversion]
    cases p with
    | scp01 => rfl
    | scp02 => rfl
  have hversion' : (Session.unproved keys offer challenge parameters).version = p.version := by
    rw [← hversion]
    exact Chaining.version_start offer.version
  have henc := usable_of_cardCryptogram hversion' hproof
  obtain ⟨hmac, mac, rfl, haccept⟩ := accept_of_protectCommand hfresh hprotect
  refine ⟨_, haccept, rfl, rfl, rfl, rfl, rfl, henc, hmac, fun hlevel => ?_, ?_⟩
  · rw [hversion'] at hoffered
    unfold Session.sessionKeys at hkeys
    rw [hversion] at hkeys
    cases p with
    -- a session of SCP01 was not allowed the level
    | scp01 => exact absurd hlevel hoffered.1
    | scp02 =>
      have hserves : keys.Serves .rmac := KeySet.serves_of_scp02Session hkeys (by decide)
      obtain ⟨secret, hsecret, hlen⟩ := Session.exists_secret
        (s := Session.unproved keys offer challenge parameters) hserves
      exact ⟨rfl, secret, hsecret, TripleDes.usable_of_length hlen⟩
  · cases p with
    | scp01 => rfl
    | scp02 => rfl

/-- **Host and card stay in lockstep** for the whole of a session of SCP01 or SCP02. A card with the
session keys and the parameters accepts the proof of the host. From then on, in every conversation
whose commands fit the level, the card reads the commands that the host was given, the host reads
the answers that the card was given, and both end with the same MACs to go on from. -/
theorem converse_desCard {p : DesProtocol} {staticKeys : KeySet} {offer : CardOffer}
    {challenge : Block 8} {parameters : Option UInt8} {session host : Session}
    {level : SecurityLevel} {proof : Command}
    (hstart : Session.start staticKeys offer challenge parameters = .ok session)
    (hversion : offer.version = p.version)
    (hauth : session.authenticate level = .ok (proof, host)) :
    ∃ ready, (fresh p session.keys session.parameters).accept proof = some ready ∧
      ∀ exchanges : List Exchange,
        (∀ e ∈ exchanges, e.command.dataBytes.length ≤ host.maxDataLength) →
          ∃ host' card',
            host.converse ready exchanges =
              some (exchanges.map (Exchange.delivered level), host', card') ∧
            host'.chaining = card'.protocol.links card'.commandMac card'.answerMac := by
  obtain ⟨ready, haccept, hready⟩ := exists_accept hstart hversion hauth
  refine ⟨ready, haccept, fun exchanges hfits => ?_⟩
  -- neither protocol counts, so the relation is the same after any number of exchanges
  obtain ⟨host', card', hconverse, hend⟩ := Session.converse_of_step (n := 0)
    (fun _ => InStep level) InStep.hostLevel (fun h he => h.exists_exchange he) hready hfits
  exact ⟨host', card', hconverse, hend.chaining⟩

/-- The challenge of a session that was recorded with a card before its personalisation. -/
def recordedChallenge : Block 8 := ⟨[0xF0, 0x46, 0x7F, 0x90, 0x8E, 0x5C, 0xA2, 0x3F], rfl⟩

/-- The card's answer in the recorded session. -/
def recordedOffer : CardOffer where
  diversificationData :=
    ⟨[0x00, 0x00, 0x02, 0x65, 0x01, 0x83, 0x03, 0x95, 0x36, 0x62], by decide⟩
  keyVersion := 0x20
  announced := .scp02
  cardChallenge := ⟨[0x00, 0x0D, 0xE9, 0xC6, 0x2B, 0xA1, 0xC4, 0xC8], rfl⟩
  cardCryptogram := ⟨[0xE5, 0x5F, 0xCB, 0x91, 0xB6, 0x65, 0x4C, 0xE4], rfl⟩

theorem recorded_authenticates : ∃ session proof host,
    Session.start KeySet.testKeys recordedOffer recordedChallenge none = .ok session ∧
      session.authenticate ⟨true, true, true, false⟩ = .ok (proof, host) := by
  have h : ((Session.start KeySet.testKeys recordedOffer recordedChallenge none) >>=
      fun session => session.authenticate ⟨true, true, true, false⟩).isOk = true := by
    decide +kernel
  obtain ⟨⟨proof, host⟩, hmade⟩ := isOk_iff.1 h
  obtain ⟨session, hstart, hauth⟩ := bind_eq_ok_iff.1 hmade
  exact ⟨session, proof, host, hstart, hauth⟩

/-- The recorded session with all that SCP02 protects: a command with data and one without, answered
with data and with an error. -/
theorem converse_desCard_recorded : ∃ session proof host ready host' card',
    Session.start KeySet.testKeys recordedOffer recordedChallenge none = .ok session ∧
      session.authenticate ⟨true, true, true, false⟩ = .ok (proof, host) ∧
      (fresh .scp02 session.keys session.parameters).accept proof = some ready ∧
      host.converse ready
          [⟨Command.storeData 0x80 0x00 [0x01, 0x02], .success [0x03]⟩,
            ⟨Command.getData 0x9F7F, .statusOnly .fileNotFound⟩] =
        some ([⟨(Command.storeData 0x80 0x00 [0x01, 0x02]).withClass 0x84, .success [0x03]⟩,
          ⟨(Command.getData 0x9F7F).withClass 0x84, .statusOnly .fileNotFound⟩], host', card') ∧
      host'.chaining = card'.protocol.links card'.commandMac card'.answerMac := by
  obtain ⟨session, proof, host, hstart, hauth⟩ := recorded_authenticates
  obtain ⟨ready, haccept, hall⟩ := converse_desCard (p := .scp02) hstart rfl hauth
  have hroom := host.le_maxDataLength
  obtain ⟨host', card', hconverse, hlinks⟩ := hall
    [⟨Command.storeData 0x80 0x00 [0x01, 0x02], .success [0x03]⟩,
      ⟨Command.getData 0x9F7F, .statusOnly .fileNotFound⟩]
    (List.forall_mem_cons.2 ⟨Nat.le_trans (by decide) hroom,
      List.forall_mem_cons.2 ⟨Nat.le_trans (by decide) hroom, fun _ he => nomatch he⟩⟩)
  exact ⟨session, proof, host, ready, host', card', hstart, hauth, haccept, hconverse, hlinks⟩

end DesCard

end SmartCard
