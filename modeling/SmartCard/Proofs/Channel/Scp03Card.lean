import SmartCard.Proofs.Bytes.BigEndian
import SmartCard.Proofs.Channel.Conversation
import SmartCard.Proofs.Channel.Protection

/-!
# The card of an SCP03 session

`Scp03Card` is the other party of an SCP03 session: it holds the session keys, the full MAC of the
last command and a command counter of four bytes. It accepts EXTERNAL AUTHENTICATE
(`Scp03Card.accept`), and from then on it checks and deciphers each command (`Scp03Card.receive`)
and protects its own answer to it (`Scp03Card.respond`).

`Scp03Card.converse_scp03Card` is the main result. However a session was started, and whatever level
it was authenticated at, a card with the same keys understands every command of every conversation,
the host understands every answer, and in the end both have the same chaining value and the same
counter.

The proof follows one exchange. What the host makes of a command is opened by the card
(`checkMac_of_scp03Data`, `decipher_of_aesBody`), what the card makes of an answer is opened by the
host (`exists_encipher`), and each of them leaves the two `InStep`. -/

namespace SmartCard

/-- A card with an SCP03 session. -/
structure Scp03Card where
  /-- The session keys. -/
  keys : KeySet
  /-- The level that the host has asked for. -/
  level : SecurityLevel
  /-- The full MAC of the last command. -/
  chaining : Block 16
  /-- The number of commands since the host proved itself, in four bytes. -/
  counter : Nat

namespace Scp03Card

/-! ### The card -/

/-- A card that waits for EXTERNAL AUTHENTICATE. -/
def fresh (keys : KeySet) : Scp03Card where
  keys := keys
  level := .plain
  chaining := Block.zero 16
  counter := 0

/-- The MAC of a message that follows the last command. -/
def mac (card : Scp03Card) (usage : KeyUsage) (message : Bytes) : Option (Block 16) := do
  let secret ← card.keys.secret? usage
  (Cmac.aes secret (card.chaining.toList ++ message)).toOption

/-- The data field of a command whose MAC is right, without it. The MAC becomes the next chaining
value. -/
def checkMac (card : Scp03Card) (c : Command) : Option (Bytes × Scp03Card) := do
  let (rest, received) ← splitMac c.dataBytes
  let full ← card.mac .mac (c.header ++ [c.dataBytes.length.toUInt8] ++ rest)
  if full.leftHalf = received then some (rest, { card with chaining := full }) else none

/-- The plain data of a command. -/
def decipher (card : Scp03Card) (rest : Bytes) : Option Bytes :=
  if card.level.cEnc && !rest.isEmpty then do
    let secret ← card.keys.secret? .enc
    let icv ← (Aes.encryptBlock secret (BigEndian.ofNat 16 card.counter)).toOption
    let padded ← (Aes.cbcDecrypt secret icv rest).toOption
    (Padding.unpad padded).toOption
  else some rest

/-- The data of an answer as they are sent. -/
def encipher (card : Scp03Card) (body : Bytes) : Option Bytes :=
  if card.level.rEnc && !body.isEmpty then do
    let secret ← card.keys.secret? .enc
    let block := (Block.fill 1 0x80).append (BigEndian.ofNat 15 card.counter)
    let icv ← (Aes.encryptBlock secret block).toOption
    (Aes.cbcEncrypt secret icv (Padding.pad 16 body)).toOption
  else some body

/-- Accepts EXTERNAL AUTHENTICATE, which carries a MAC and asks for a level. -/
def accept (card : Scp03Card) (c : Command) : Option Scp03Card := do
  let (_, checked) ← card.checkMac c
  return { checked with level := SecurityLevel.ofByte c.p1 }

/-- One more command. -/
def count (card : Scp03Card) : Scp03Card := { card with counter := (card.counter + 1) % 2 ^ 32 }

/-- Checks a command and removes the protection of the level. -/
def unprotect (card : Scp03Card) (c : Command) : Option (Command × Scp03Card) :=
  if card.level.cMac then do
    let (rest, checked) ← card.checkMac c
    let data ← checked.decipher rest
    return (c.withData data, checked)
  else some (c, card)

/-- Counts a command and removes its protection. -/
def receive (card : Scp03Card) (c : Command) : Option (Command × Scp03Card) :=
  card.count.unprotect c

/-- Protects an answer. -/
def respond (card : Scp03Card) (answer : Response) : Option (Response × Scp03Card) := do
  let body ← card.encipher answer.payload
  if card.level.rMac then
    let full ← card.mac .rmac (body ++ answer.status.toBytes)
    return (⟨body ++ full.leftHalf.toList, answer.status⟩, card)
  else return (⟨body, answer.status⟩, card)

instance : CardSide Scp03Card where
  receive := receive
  respond := respond

/-! ### The blocks of the counter -/

theorem commandCounterBlock_eq {counter : Nat} (h : counter < 2 ^ 32) :
    Session.commandCounterBlock counter.toUInt32 = BigEndian.ofNat 16 counter := by
  apply Block.ext
  exact BigEndian.replicate_append_ofUInt32 12 h

theorem answerCounterBlock_eq {counter : Nat} (h : counter < 2 ^ 32) :
    Session.answerCounterBlock counter.toUInt32 =
      (Block.fill 1 0x80).append (BigEndian.ofNat 15 counter) := by
  apply Block.ext
  -- the marking byte stands in front of eleven zeros and the counter
  change ([0x80] ++ List.replicate 11 0) ++ _ = [0x80] ++ _
  rw [List.append_assoc, BigEndian.replicate_append_ofUInt32 11 h]

/-- Host and card count alike, also when the four bytes run over. -/
theorem toUInt32_succ (counter : Nat) :
    counter.toUInt32 + 1 = ((counter + 1) % 2 ^ 32).toUInt32 := by
  apply UInt32.toNat_inj.1
  simp [Nat.toUInt32]

/-! ### What the card makes of a command -/

variable {card : Scp03Card} {host : Session}

/-- **The card reads the data that the host has enciphered.** -/
theorem decipher_of_aesBody (hkeys : card.keys = host.keys) (hcounter : card.counter < 2 ^ 32)
    {data body : Bytes}
    (h : host.aesBody card.counter.toUInt32 card.level.cEnc data = .ok body) :
    card.decipher body = some data := by
  unfold decipher
  rcases Session.aesBody_eq_ok h with ⟨hplain, rfl⟩ | ⟨hc, secret, icv, hsecret, hicv, hbody⟩
  · -- what is not enciphered arrives as it is, and the card sees that it is
    rw [hplain]
    rfl
  · rw [commandCounterBlock_eq hcounter] at hicv
    -- padded data are never empty, so the card takes the branch that deciphers
    have hne := Aes.ne_nil_of_cbcEncrypt hbody (Padding.pad_ne_nil 16 data)
    rw [if_pos (Session.enciphers_sent hc hne), hkeys, Session.secret?_of_secret hsecret]
    simp only [Option.bind_eq_bind, Option.bind_some, toOption_of_eq_ok hicv,
      toOption_of_eq_ok (Aes.cbcDecrypt_of_cbcEncrypt hbody),
      toOption_of_eq_ok (Padding.unpad_pad 16 data)]

theorem mac_of_aes (hkeys : card.keys = host.keys) {usage : KeyUsage} {secret message : Bytes}
    {full : Block 16} (hsecret : host.secret usage = .ok secret)
    (h : Cmac.aes secret (card.chaining.toList ++ message) = .ok full) :
    card.mac usage message = some full := by
  unfold mac
  rw [hkeys, Session.secret?_of_secret hsecret]
  exact toOption_of_eq_ok h

/-- **The card accepts the MAC of the host**, and both go on from the same chaining value. -/
theorem checkMac_of_scp03Data (hkeys : card.keys = host.keys) {counter : UInt32} {c : Command}
    {cla : UInt8} {encipher : Bool} {data : Bytes} {full : Block 16}
    (h : host.scp03Data card.chaining counter c cla encipher = .ok (data, full)) :
    ∃ body, host.aesBody counter encipher c.dataBytes = .ok body ∧
      card.checkMac ((c.withClass cla).withData data) =
        some (body, { card with chaining := full }) := by
  obtain ⟨body, secret, hbody, -, hsecret, hfull, rfl⟩ := Session.scp03Data_eq_ok_iff.1 h
  refine ⟨body, hbody, ?_⟩
  have hlen : (body ++ full.leftHalf.toList).length = body.length + 8 := by
    rw [List.length_append, Block.length_toList]
  -- the field is split where the host has joined it, so the MAC is over the same bytes
  have hmac : card.mac .mac (Session.macInput cla c (body.length + 8).toUInt8 body) = some full :=
    mac_of_aes hkeys hsecret hfull
  unfold checkMac
  simp only [Command.dataBytes_withData, splitMac_append, hlen]
  change (card.mac .mac (Session.macInput cla c (body.length + 8).toUInt8 body)).bind _ = _
  rw [hmac, Option.bind_some, if_pos rfl]

/-! ### What the host makes of an answer -/

/-- **The host reads the data that the card has enciphered.** -/
theorem exists_encipher (hkeys : card.keys = host.keys) (hserves : host.keys.Serves .enc)
    (hlevel : card.level = host.level) (hcounter : card.counter < 2 ^ 32) {chaining : Block 16}
    (hchaining : host.chaining = .scp03 chaining card.counter.toUInt32) (data : Bytes) :
    ∃ body, card.encipher data = some body ∧ host.answerData body = .ok data := by
  unfold encipher Session.answerData
  rw [hchaining, hlevel]
  by_cases hc : (host.level.rEnc && !data.isEmpty) = true
  · rw [if_pos hc]
    obtain ⟨secret, hsecret, hlen⟩ := Session.exists_secret hserves
    obtain ⟨icv, hicv⟩ := Aes.exists_encryptBlock hlen
      ((Block.fill 1 0x80).append (BigEndian.ofNat 15 card.counter))
    obtain ⟨body, hbody⟩ := Aes.exists_cbcEncrypt hlen
      (Padding.length_pad_mod (show 0 < 16 by decide) data) icv
    refine ⟨body, ?_, ?_⟩
    · rw [hkeys, Session.secret?_of_secret hsecret]
      simp only [Option.bind_eq_bind, Option.bind_some, toOption_of_eq_ok hicv,
        toOption_of_eq_ok hbody]
    · -- the host looks at the bytes that arrive, and a padded body has some
      have hne := Aes.ne_nil_of_cbcEncrypt hbody (Padding.pad_ne_nil 16 data)
      rw [← answerCounterBlock_eq hcounter] at hicv
      change (if _ then host.decipherAnswer card.counter.toUInt32 body else _) = _
      rw [if_pos (Session.enciphers_sent hc hne)]
      exact bind_eq_ok_iff.2 ⟨secret, hsecret, bind_eq_ok_iff.2 ⟨icv, mapError_eq_ok_iff.2 hicv,
        bind_eq_ok_iff.2 ⟨Padding.pad 16 data,
          mapError_eq_ok_iff.2 (Aes.cbcDecrypt_of_cbcEncrypt hbody),
          mapError_eq_ok_iff.2 (Padding.unpad_pad 16 data)⟩⟩⟩
  · rw [if_neg hc]
    refine ⟨data, rfl, ?_⟩
    change (if _ then host.decipherAnswer card.counter.toUInt32 data else _) = _
    rw [if_neg hc]

/-! ### Host and card in step -/

/-- The host is at a level, and host and card agree on everything that links commands and answers
after `n` commands. -/
structure InStep (level : SecurityLevel) (n : Nat) (host : Session) (card : Scp03Card) : Prop where
  authenticated : host.authenticated = true
  hostLevel : host.level = level
  cardLevel : card.level = level
  keys : card.keys = host.keys
  serves : ∀ usage ∈ [KeyUsage.enc, .mac, .rmac], host.keys.Serves usage
  chaining : host.chaining = .scp03 card.chaining card.counter.toUInt32
  counter : card.counter = n % 2 ^ 32

variable {level : SecurityLevel} {n : Nat}

theorem InStep.counter_lt (h : InStep level n host card) : card.counter < 2 ^ 32 := by
  rw [h.counter]
  exact Nat.mod_lt n (by decide)

/-- Both parties count a command alike. -/
theorem InStep.count (h : InStep level n host card) (c : Command) :
    InStep level (n + 1) (host.counted c) card.count := by
  refine { h with chaining := ?_, counter := ?_ }
  · -- the host counts in a word of four bytes, and the card in a number that is cut down
    change host.chaining.count = _
    rw [h.chaining, Chaining.count, toUInt32_succ]
    rfl
  · change (card.counter + 1) % 2 ^ 32 = _
    rw [h.counter]
    omega

/-- **Every command that is protected is read.** The host can protect a command that fits, the card
reads what the host was given, and both have the MAC of this command in common. -/
theorem InStep.exists_protectCommand (h : InStep level n host card) {c : Command}
    (hfits : c.dataBytes.length ≤ host.maxDataLength) :
    ∃ wrapped chaining heard, host.protectCommand c level = .ok (wrapped, chaining) ∧
      card.unprotect wrapped = some (c.delivered level, heard) ∧
      InStep level n { host with chaining } heard := by
  unfold unprotect Command.delivered
  rw [h.cardLevel]
  cases hmac : level.cMac with
  | false =>
    -- without command MACs the card takes the command as it is sent
    exact ⟨c, host.chaining, card, Session.protectCommand_of_not_cMac hmac, rfl, h⟩
  | true =>
    obtain ⟨data, full, hdata⟩ := Session.exists_scp03Data (h.serves .enc (by simp))
      (h.serves .mac (by simp)) card.chaining card.counter.toUInt32 c
      (c.cla ||| CommandClass.secureMessaging) level.cEnc
      (h.hostLevel ▸ (Session.room_iff_le_maxDataLength (h.hostLevel ▸ hmac)).2 hfits)
    obtain ⟨body, hbody, hcheck⟩ := checkMac_of_scp03Data h.keys hdata
    refine ⟨_, .scp03 full card.counter.toUInt32, { card with chaining := full },
      (Session.protectCommand_eq_ok_iff hmac).2 ⟨data, ?_, rfl⟩, ?_, { h with chaining := rfl }⟩
    · unfold Session.protectData
      rw [h.chaining]
      exact bind_eq_ok_iff.2 ⟨(data, full), hdata, rfl⟩
    · -- the new chaining value plays no part in deciphering
      have hplain : ({ card with chaining := full } : Scp03Card).decipher body =
          some c.dataBytes := by
        rw [← h.cardLevel] at hbody
        exact @decipher_of_aesBody { card with chaining := full } host h.keys h.counter_lt _ _ hbody
      simp only [if_true, hcheck, hplain, Option.bind_eq_bind, Option.bind_some]
      rfl

/-- **Every answer arrives.** The card refuses no answer, and the host reads the one that the card
was given. Nothing that links commands and answers moves. -/
theorem InStep.exists_respond (h : InStep level n host card)
    (hlevel : level.rEnc = true → level.rMac = true) (answer : Response) :
    ∃ sealed host', card.respond answer = some (sealed, card) ∧
      host.unwrap sealed = (.ok answer, host') ∧ InStep level n host' card := by
  obtain ⟨body, hbody, hdata⟩ := exists_encipher h.keys (h.serves _ (by simp))
    (h.cardLevel.trans h.hostLevel.symm) h.counter_lt h.chaining answer.payload
  unfold respond
  cases hmac : level.rMac with
  | false =>
    -- without a MAC nothing is enciphered either
    have hrEnc : card.level.rEnc = false := by
      rw [h.cardLevel]
      exact Bool.eq_false_iff.2 fun hr => Bool.eq_false_iff.1 hmac (hlevel hr)
    have hplain : card.encipher answer.payload = some answer.payload := by
      unfold encipher
      rw [hrEnc, Bool.false_and, if_neg Bool.false_ne_true]
    refine ⟨answer, { host with pending := none }, ?_, ?_, { h with }⟩
    · rw [hplain, h.cardLevel, hmac]
      rfl
    · exact Session.unwrap_of_not_rMac (by rw [h.hostLevel, hmac]) answer
  | true =>
    obtain ⟨secret, hsecret, hlen⟩ := Session.exists_secret (h.serves .rmac (by simp))
    obtain ⟨full, hfull⟩ := Cmac.exists_aes hlen
      (card.chaining.toList ++ (body ++ answer.status.toBytes))
    refine ⟨⟨body ++ full.leftHalf.toList, answer.status⟩, { host with pending := none }, ?_, ?_,
      { h with }⟩
    · rw [hbody, h.cardLevel, hmac]
      simp only [Option.bind_eq_bind, Option.bind_some, if_true,
        mac_of_aes h.keys hsecret hfull]
      rfl
    · -- the host puts the chaining value and the body together first
      rw [← List.append_assoc] at hfull
      have hanswerMac : host.answerMac host.pending body answer.status =
          .ok (full.leftHalf, host.chaining) := by
        unfold Session.answerMac
        rw [h.chaining]
        exact bind_eq_ok_iff.2 ⟨secret, hsecret,
          bind_eq_ok_iff.2 ⟨full, mapError_eq_ok_iff.2 hfull, rfl⟩⟩
      have hopen := Session.openAnswer_of_answerMac hanswerMac hdata
      exact Session.unwrap_of_openAnswer (by rw [h.hostLevel, hmac]) (by simp) hopen

/-- One exchange takes host and card from one step to the next. -/
theorem InStep.exists_exchange (h : InStep level n host card)
    (hlevel : level.rEnc = true → level.rMac = true) {e : Exchange}
    (hfits : e.command.dataBytes.length ≤ host.maxDataLength) :
    ∃ host' card', host.exchange card e = some (e.delivered level, host', card') ∧
      InStep level (n + 1) host' card' := by
  obtain ⟨wrapped, chaining, heard, hprotect, hreceive, hheard⟩ :=
    (h.count e.command).exists_protectCommand (c := e.command) hfits
  obtain ⟨sealed, host', hrespond, hunwrap, hstep⟩ := hheard.exists_respond hlevel e.answer
  have hwrap := Session.wrap_of_protectCommand h.authenticated (by rw [h.hostLevel]; exact hprotect)
  exact ⟨host', heard, Session.exchange_eq_some hwrap hreceive hrespond hunwrap, hstep⟩

/-! ### Whole sessions -/

/-- The card accepts the proof of the host, which carries a MAC only, and knows the level. -/
theorem accept_of_protectCommand {session : Session}
    (hfresh : session.chaining = .scp03 (Block.zero 16) 0) {cryptogram : Block 8}
    {proof : Command} {chaining : Chaining}
    (h : session.protectCommand (Command.externalAuthenticate level.toByte cryptogram) .mac =
      .ok (proof, chaining)) :
    ∃ full, chaining = .scp03 full 0 ∧
      (fresh session.keys).accept proof =
        some { fresh session.keys with chaining := full, level } := by
  obtain ⟨field, hfield, rfl⟩ := (Session.protectCommand_eq_ok_iff rfl).1 h
  unfold Session.protectData at hfield
  rw [hfresh] at hfield
  obtain ⟨⟨data, full⟩, hdata, hfield⟩ := bind_eq_ok_iff.1 hfield
  cases hfield
  refine ⟨full, rfl, ?_⟩
  obtain ⟨body, -, hcheck⟩ := @checkMac_of_scp03Data (fresh session.keys) _ rfl _ _ _ _ _ _ hdata
  unfold accept
  change ((fresh session.keys).checkMac _).bind _ = _
  rw [hcheck, Option.bind_some]
  -- the level travels as the first parameter of the command, and is read back from it
  change some { fresh session.keys with
    chaining := full, level := SecurityLevel.ofByte level.toByte } = _
  rw [SecurityLevel.ofByte_toByte]

/-- Authentication brings host and card in step. -/
theorem exists_accept {staticKeys : KeySet} {offer : CardOffer} {challenge : Block 8}
    {parameters : Option UInt8} {session : Session} {proof : Command}
    (hstart : Session.start staticKeys offer challenge parameters = .ok session)
    (hversion : offer.version = .scp03)
    (hauth : session.authenticate level = .ok (proof, host)) :
    ∃ ready, (fresh session.keys).accept proof = some ready ∧ InStep level 0 host ready := by
  obtain ⟨-, keys, hkeys, -, rfl⟩ := Session.start_eq_ok_iff.1 hstart
  obtain ⟨-, -, cryptogram, chaining, -, hprotect, rfl⟩ := Session.authenticate_eq_ok_iff.1 hauth
  have hfresh : (Session.unproved keys offer challenge parameters).chaining =
      .scp03 (Block.zero 16) 0 := by
    change Chaining.start offer.version = _
    rw [hversion]
    rfl
  obtain ⟨full, rfl, haccept⟩ := accept_of_protectCommand hfresh hprotect
  refine ⟨_, haccept, rfl, rfl, rfl, rfl, fun usage husage => ?_, rfl, rfl⟩
  -- the derivation of SCP03 has made a key for each of the three roles
  unfold Session.sessionKeys at hkeys
  rw [hversion] at hkeys
  refine KeySet.serves_of_scp03Session hkeys ?_ ?_
  · rintro rfl
    simp at husage
  · rintro rfl
    simp at husage

/-- **Host and card stay in lockstep** for the whole of an SCP03 session. A card with the session
keys accepts the proof of the host. From then on, in every conversation whose commands fit the
level, the card reads the commands that the host was given, the host reads the answers that the card
was given, and both end with the same chaining value and the same count of commands. -/
theorem converse_scp03Card {staticKeys : KeySet} {offer : CardOffer} {challenge : Block 8}
    {parameters : Option UInt8} {session host : Session} {level : SecurityLevel} {proof : Command}
    (hstart : Session.start staticKeys offer challenge parameters = .ok session)
    (hversion : offer.version = .scp03)
    (hauth : session.authenticate level = .ok (proof, host)) :
    ∃ ready, (fresh session.keys).accept proof = some ready ∧
      ∀ exchanges : List Exchange,
        (∀ e ∈ exchanges, e.command.dataBytes.length ≤ host.maxDataLength) →
          ∃ host' card',
            host.converse ready exchanges =
              some (exchanges.map (Exchange.delivered level), host', card') ∧
            host'.chaining = .scp03 card'.chaining card'.counter.toUInt32 ∧
            card'.counter = exchanges.length % 2 ^ 32 := by
  obtain ⟨ready, haccept, hready⟩ := exists_accept hstart hversion hauth
  -- no session allows a level that enciphers answers and leaves them without a MAC
  have hlevel : level.rEnc = true → level.rMac = true := by
    obtain ⟨-, ⟨-, hallowed, -⟩, -⟩ := Session.authenticate_eq_ok_iff.1 hauth
    exact fun hr => (hallowed hr).1
  refine ⟨ready, haccept, fun exchanges hfits => ?_⟩
  obtain ⟨host', card', hconverse, hend⟩ := Session.converse_of_step (InStep level)
    InStep.hostLevel (fun h he => h.exists_exchange hlevel he) hready hfits
  refine ⟨host', card', hconverse, hend.chaining, ?_⟩
  rw [hend.counter, Nat.zero_add]

/-- A card key for every role, as it was when the session below was recorded. -/
def recordedKeys : KeySet :=
  (KeySet.empty "recorded" 0x30).add
    ⟨0, .master, .aes, KeySet.testSecret, KeySet.aes_accepts_testSecret⟩ ⟨rfl, .inl rfl⟩

/-- The challenge of the recorded session. -/
def recordedChallenge : Block 8 := ⟨[0x01, 0x02, 0x03, 0x04, 0x05, 0x06, 0x07, 0x08], rfl⟩

/-- The card's answer in the recorded session. -/
def recordedOffer : CardOffer where
  diversificationData := ⟨[0x00, 0x01, 0x02, 0x03, 0x04, 0x05, 0x06, 0x07, 0x08, 0x09], rfl⟩
  keyVersion := 0x30
  announced := .scp03 (some 0x70) ⟨[0x00, 0x00, 0x01], rfl⟩
  cardChallenge := ⟨[0x11, 0x12, 0x13, 0x14, 0x15, 0x16, 0x17, 0x18], rfl⟩
  cardCryptogram := ⟨[0xD7, 0xC8, 0x6A, 0x7D, 0x0A, 0x2D, 0x0D, 0xDC], rfl⟩

theorem recorded_authenticates : ∃ session proof host,
    Session.start recordedKeys recordedOffer recordedChallenge none = .ok session ∧
      session.authenticate .full = .ok (proof, host) := by
  have h : ((Session.start recordedKeys recordedOffer recordedChallenge none) >>=
      fun session => session.authenticate .full).isOk = true := by
    decide +kernel
  obtain ⟨⟨proof, host⟩, hmade⟩ := isOk_iff.1 h
  obtain ⟨session, hstart, hauth⟩ := bind_eq_ok_iff.1 hmade
  exact ⟨session, proof, host, hstart, hauth⟩

/-- The recorded session at the full level: a command with data and one without, answered with data
and with an error. -/
theorem converse_scp03Card_recorded : ∃ session proof host ready host' card',
    Session.start recordedKeys recordedOffer recordedChallenge none = .ok session ∧
      session.authenticate .full = .ok (proof, host) ∧
      (fresh session.keys).accept proof = some ready ∧
      host.converse ready
          [⟨Command.storeData 0x80 0x00 [0x01, 0x02], .success [0x03]⟩,
            ⟨Command.getData 0x9F7F, .statusOnly .fileNotFound⟩] =
        some ([⟨(Command.storeData 0x80 0x00 [0x01, 0x02]).withClass 0x84, .success [0x03]⟩,
          ⟨(Command.getData 0x9F7F).withClass 0x84, .statusOnly .fileNotFound⟩], host', card') ∧
      card'.counter = 2 := by
  obtain ⟨session, proof, host, hstart, hauth⟩ := recorded_authenticates
  obtain ⟨ready, haccept, hall⟩ := converse_scp03Card hstart rfl hauth
  have hroom := host.le_maxDataLength
  obtain ⟨host', card', hconverse, -, hcounter⟩ := hall
    [⟨Command.storeData 0x80 0x00 [0x01, 0x02], .success [0x03]⟩,
      ⟨Command.getData 0x9F7F, .statusOnly .fileNotFound⟩]
    (List.forall_mem_cons.2 ⟨Nat.le_trans (by decide) hroom,
      List.forall_mem_cons.2 ⟨Nat.le_trans (by decide) hroom, fun _ he => nomatch he⟩⟩)
  exact ⟨session, proof, host, ready, host', card', hstart, hauth, haccept, hconverse, hcounter⟩

end Scp03Card

end SmartCard
