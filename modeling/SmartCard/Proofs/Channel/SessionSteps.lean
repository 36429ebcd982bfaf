import SmartCard.Channel.Session
import SmartCard.Proofs.Apdu.Codec
import SmartCard.Proofs.Cipher.Messages
import SmartCard.Proofs.Key.DerivedKeys

/-!
# The steps of a session

What has happened when an operation of a session has succeeded, and what the operations do once the
protection itself is known to succeed.

* `Session.start_eq_ok_iff` — the keys were derived, and the card has given the proof that the host
  computes from them;
* `Session.authenticate_eq_ok_iff` — the level is one that the card offers (`Session.Allows`), and
  the host's proof could be made and protected;
* `Session.wrap_of_protectCommand`, `Session.unwrap_of_openAnswer` — a command and an answer of an
  authenticated session.

Everything about the protocols themselves is left to `protectCommand` and `openAnswer`. -/

namespace SmartCard

/-- The secret of a set for a role. -/
def KeySet.secret? (s : KeySet) (usage : KeyUsage) : Option Bytes :=
  (s.get? usage).map Key.secret

namespace Session

variable {s t : Session} {level : SecurityLevel} {command : Command}

/-! ### Keys -/

theorem key_eq_ok_iff {usage : KeyUsage} {k : Key} :
    s.key usage = .ok k ↔ s.keys.get? usage = some k := by
  unfold key
  -- a role without a key has no secret either
  cases s.keys.get? usage with
  | none => simp
  | some k => simp

theorem secret_eq_ok_iff {usage : KeyUsage} {secret : Bytes} :
    s.secret usage = .ok secret ↔ ∃ k, s.keys.get? usage = some k ∧ k.secret = secret := by
  unfold Session.secret key
  cases s.keys.get? usage with
  | none => simp [Except.map]
  | some k => simp [Except.map]

theorem secret?_of_secret {usage : KeyUsage} {secret : Bytes} (h : s.secret usage = .ok secret) :
    s.keys.secret? usage = some secret := by
  obtain ⟨k, hk, rfl⟩ := secret_eq_ok_iff.1 h
  rw [KeySet.secret?, hk, Option.map_some]

theorem secret_of_secret? {usage : KeyUsage} {secret : Bytes}
    (h : s.keys.secret? usage = some secret) : s.secret usage = .ok secret := by
  obtain ⟨k, hk, hsecret⟩ := Option.map_eq_some_iff.1 h
  exact secret_eq_ok_iff.2 ⟨k, hk, hsecret⟩

/-- A key of sixteen bytes is a secret that every cipher of the protocols can use. -/
theorem exists_secret {usage : KeyUsage} (h : s.keys.Serves usage) :
    ∃ secret, s.secret usage = .ok secret ∧ secret.length = 16 := by
  obtain ⟨k, hk, hlen⟩ := h
  exact ⟨k.secret, secret_eq_ok_iff.2 ⟨k, hk, rfl⟩, hlen⟩

/-! ### Start -/

/-- The session of an offer before the card's proof was looked at. -/
def unproved (keys : KeySet) (offer : CardOffer) (challenge : Block 8)
    (parameters : Option UInt8) : Session where
  parameters := parametersOf offer parameters
  level := .mac
  keys := keys
  keyVersion := offer.keyVersion
  hostChallenge := challenge
  cardChallenge := offer.cardChallenge
  chaining := .start offer.version
  authenticated := false
  pending := none

/-- **A session starts** exactly when the card does not ask for the long mode of SCP03, the session
keys can be derived, and the card has given the proof that the host computes from these keys. -/
theorem start_eq_ok_iff {staticKeys : KeySet} {offer : CardOffer} {challenge : Block 8}
    {parameters : Option UInt8} :
    start staticKeys offer challenge parameters = .ok s ↔
      ¬(offer.version = .scp03 ∧ parametersOf offer parameters &&& longModeBit ≠ 0) ∧
        ∃ keys, sessionKeys staticKeys offer challenge = .ok keys ∧
          (unproved keys offer challenge parameters).cardCryptogram = .ok offer.cardCryptogram ∧
          unproved keys offer challenge parameters = s := by
  unfold start
  constructor
  · intro h
    obtain ⟨hlong, h⟩ := guard_eq_ok_iff.1 h
    obtain ⟨keys, hkeys, h⟩ := bind_eq_ok_iff.1 h
    obtain ⟨expected, hexpected, h⟩ := bind_eq_ok_iff.1 h
    obtain ⟨hagree, h⟩ := guard_eq_ok_iff.1 h
    rw [Bool.not_eq_true', Bool.not_eq_false, Mac.agree_iff] at hagree
    -- the cryptograms agree only if they are equal, so the card has given the expected one
    rw [Block.ext hagree] at hexpected
    exact ⟨hlong, keys, hkeys, hexpected, pure_eq_ok_iff.1 h⟩
  · rintro ⟨hlong, keys, hkeys, hproof, rfl⟩
    refine guard_eq_ok_iff.2 ⟨hlong, bind_eq_ok_iff.2 ⟨keys, hkeys, bind_eq_ok_iff.2
      ⟨_, hproof, guard_eq_ok_iff.2 ⟨?_, rfl⟩⟩⟩⟩
    rw [Bool.not_eq_true', Bool.not_eq_false, Mac.agree_iff]

/-! ### Authentication -/

/-- The level makes sense, and the protocol of the session offers it. -/
def Allows (s : Session) (level : SecurityLevel) : Prop :=
  (level.cEnc → level.cMac) ∧ (level.rEnc → level.rMac ∧ level.cEnc) ∧
    match s.version with
    | .scp01 => ¬level.rMac ∧ ¬level.rEnc
    | .scp02 => ¬level.rEnc
    | .scp03 => (level.rMac → s.parameters &&& answerMacBit ≠ 0) ∧
        (level.rEnc → s.parameters &&& answerEncryptionBit ≠ 0)

theorem checkLevel_eq_ok_iff : s.checkLevel level = .ok () ↔ s.Allows level := by
  unfold checkLevel Allows
  rw [guard_eq_ok_iff, guard_eq_ok_iff, not_and, Classical.not_not, not_and, Classical.not_not]
  -- each protocol adds its own condition, and for SCP03 it is about what the card has offered
  cases s.version with
  | scp01 => simp
  | scp02 => simp
  | scp03 => simp [guard_eq_ok_iff]

/-- **Authentication succeeds** exactly when it is the first one, the level is allowed, and the
host's proof can be made and protected with a MAC. -/
theorem authenticate_eq_ok_iff :
    s.authenticate level = .ok (command, t) ↔ s.authenticated = false ∧ s.Allows level ∧
      ∃ cryptogram chaining, s.hostCryptogram = .ok cryptogram ∧
        s.protectCommand (Command.externalAuthenticate level.toByte cryptogram) .mac =
          .ok (command, chaining) ∧
        { s with chaining := chaining.linkAnswers, level, authenticated := true } = t := by
  unfold authenticate
  rw [← checkLevel_eq_ok_iff]
  constructor
  · intro h
    -- the steps come in the order of the conditions, and the host's proof is what the last one
    -- gives
    obtain ⟨hfirst, h⟩ := guard_eq_ok_iff.1 h
    obtain ⟨⟨⟩, hlevel, h⟩ := bind_eq_ok_iff.1 h
    obtain ⟨cryptogram, hcryptogram, h⟩ := bind_eq_ok_iff.1 h
    obtain ⟨⟨sent, chaining⟩, hsent, h⟩ := bind_eq_ok_iff.1 h
    cases h
    exact ⟨Bool.not_eq_true _ ▸ hfirst, hlevel, cryptogram, chaining, hcryptogram, hsent, rfl⟩
  · rintro ⟨hfirst, hlevel, cryptogram, chaining, hcryptogram, hsent, rfl⟩
    refine guard_eq_ok_iff.2 ⟨by rw [hfirst]; exact Bool.false_ne_true, bind_eq_ok_iff.2
      ⟨(), hlevel, bind_eq_ok_iff.2 ⟨cryptogram, hcryptogram, bind_eq_ok_iff.2
        ⟨(command, chaining), hsent, rfl⟩⟩⟩⟩

theorem level_of_authenticate (h : s.authenticate level = .ok (command, t)) : t.level = level := by
  obtain ⟨-, -, cryptogram, chaining, -, -, rfl⟩ := authenticate_eq_ok_iff.1 h
  rfl

theorem authenticated_of_authenticate (h : s.authenticate level = .ok (command, t)) :
    t.authenticated = true := by
  obtain ⟨-, -, cryptogram, chaining, -, -, rfl⟩ := authenticate_eq_ok_iff.1 h
  rfl

/-! ### Commands and answers -/

/-- The session when a command is about to be protected: the command counts, and waits for its
answer if the answer carries a MAC. -/
def counted (s : Session) (command : Command) : Session :=
  { s with
    chaining := s.chaining.count
    pending := if s.level.rMac then some command else none }

theorem chaining_counted {last : Block 16} {n : UInt32} (h : s.chaining = .scp03 last n)
    (command : Command) : (s.counted command).chaining = .scp03 last (n + 1) := by
  change s.chaining.count = _
  rw [h]
  rfl

theorem wrap_of_protectCommand (hauth : s.authenticated = true) {wrapped : Command}
    {chaining : Chaining}
    (h : (s.counted command).protectCommand command s.level = .ok (wrapped, chaining)) :
    s.wrap command = (.ok wrapped, { s.counted command with chaining }) := by
  -- the counted session is written out in the definition, so it is written out here as well
  unfold counted at h
  unfold wrap
  rw [if_pos hauth]
  simp only [h]
  rfl

/-- A command that cannot be protected has been counted. -/
theorem wrap_of_protectCommand_error (hauth : s.authenticated = true) {e : Error}
    (h : (s.counted command).protectCommand command s.level = .error e) :
    s.wrap command = (.error e, s.counted command) := by
  unfold counted at h ⊢
  unfold wrap
  rw [if_pos hauth]
  simp only [h]

/-- Every level leaves room for 239 bytes of data. -/
theorem le_maxDataLength (s : Session) : 239 ≤ s.maxDataLength := by
  -- the room is least where data are enciphered as well: a MAC and a block of padding are left out
  unfold maxDataLength Command.maxData
  split
  · decide
  · split
    · decide
    · decide

theorem maxDataLength_congr (h : s.level = t.level) : s.maxDataLength = t.maxDataLength := by
  unfold maxDataLength
  rw [h]

/-- **The limit leaves room for the protection of the level, and no more**: for the MAC, and for one
block of padding where data are enciphered. -/
theorem room_iff_le_maxDataLength (hmac : s.level.cMac = true) {length : Nat} :
    length + (if s.level.cEnc then 16 else 8) ≤ 255 ↔ length ≤ s.maxDataLength := by
  unfold maxDataLength Command.maxData
  rw [hmac]
  cases s.level.cEnc with
  | false =>
    change length + 8 ≤ 255 ↔ length ≤ 247
    omega
  | true =>
    change length + 16 ≤ 255 ↔ length ≤ 239
    omega

theorem lengthByte_eq_ok_iff {length : Nat} {b : UInt8} :
    lengthByte length = .ok b ↔ length ≤ 255 ∧ length.toUInt8 = b := by
  unfold lengthByte
  rw [guard_eq_ok_iff, Nat.not_lt, Except.ok.injEq]
  rfl

theorem protocol_of_lengthByte {length : Nat} {e : Error} (h : lengthByte length = .error e) :
    ∃ fault, e = .protocol fault := by
  unfold lengthByte at h
  split at h
  · -- the only refusal is that of a length with no byte for it
    cases h
    exact ⟨_, rfl⟩
  · cases h

/-- A command at a level with command MACs: the data field with its MAC goes into the command. -/
theorem protectCommand_eq_ok_iff (hmac : level.cMac = true) {wrapped : Command}
    {chaining : Chaining} :
    s.protectCommand command level = .ok (wrapped, chaining) ↔ ∃ data,
      s.protectData command (command.cla ||| CommandClass.secureMessaging) level.cEnc =
          .ok (data, chaining) ∧
        (command.withClass (command.cla ||| CommandClass.secureMessaging)).withData data =
          wrapped := by
  unfold protectCommand
  rw [if_pos hmac]
  constructor
  · intro h
    obtain ⟨⟨data, chaining'⟩, hdata, h⟩ := bind_eq_ok_iff.1 h
    cases h
    exact ⟨data, hdata, rfl⟩
  · rintro ⟨data, hdata, rfl⟩
    exact bind_eq_ok_iff.2 ⟨(data, chaining), hdata, rfl⟩

theorem protectCommand_of_not_cMac (h : level.cMac = false) :
    s.protectCommand command level = .ok (command, s.chaining) := by
  unfold protectCommand
  rw [h]
  rfl

/-- Both parties find out alike whether data are enciphered: they are if the level says so and there
are any, and enciphering leaves some. -/
theorem enciphers_sent {asked : Bool} {data sent : Bytes}
    (h : (asked && !data.isEmpty) = true) (hsent : sent ≠ []) :
    (asked && !sent.isEmpty) = true := by
  rw [Bool.and_eq_true] at h
  rw [h.1, List.isEmpty_eq_false_iff.2 hsent]
  rfl

/-- Answers of a session without answer MACs are passed on. -/
theorem unwrap_of_not_rMac (h : s.level.rMac = false) (answer : Response) :
    s.unwrap answer = (.ok answer, { s with pending := none }) := by
  unfold unwrap
  rw [h]
  rfl

/-- An answer that has room for a MAC is opened. -/
theorem unwrap_of_openAnswer (hmac : s.level.rMac = true) {answer plain : Response}
    (hlen : 8 ≤ answer.payload.length) {chaining : Chaining}
    (h : s.openAnswer s.pending answer = .ok (plain, chaining)) :
    s.unwrap answer = (.ok plain, { s with pending := none, chaining }) := by
  unfold unwrap
  rw [hmac]
  -- what has room for a MAC is never taken for a refusal without one
  change (if answer.payload.length < 8 then _ else _) = _
  rw [if_neg (by omega), h]

/-- An answer that cannot be opened leaves the links as they were. -/
theorem unwrap_of_openAnswer_error (hmac : s.level.rMac = true) {answer : Response}
    (hlen : 8 ≤ answer.payload.length) {e : Error}
    (h : s.openAnswer s.pending answer = .error e) :
    s.unwrap answer = (.error e, { s with pending := none }) := by
  unfold unwrap
  rw [hmac]
  -- here too, the answer is opened because it has room
  change (if answer.payload.length < 8 then _ else _) = _
  rw [if_neg (by omega), h]

/-- The MAC of an answer is made for the rest of it, and compared with the one that came. Only then
are the data read. -/
theorem openAnswer_append (awaited : Option Command) (body : Bytes) (mac : Block 8)
    (status : StatusWord) :
    s.openAnswer awaited ⟨body ++ mac.toList, status⟩ =
      s.answerMac awaited body status >>= fun (expected, chaining) =>
        if expected = mac then (s.answerData body).map fun data => (⟨data, status⟩, chaining)
        else .error (.security .answerMac) := by
  have hlen : (body ++ mac.toList).length - 8 = body.length := by
    rw [List.length_append, Block.length_toList]
    omega
  unfold openAnswer
  -- the cut is made eight bytes from the end, and that is where the MAC was put
  simp only [hlen, List.take_left, List.drop_left]
  cases s.answerMac awaited body status with
  | error e => rfl
  | ok made =>
    obtain ⟨expected, chaining⟩ := made
    change (if _ then _ else _) = (if expected = mac then _ else _)
    -- the comparison goes byte by byte, and comes to equality of the blocks
    by_cases heq : expected = mac
    · have hagree : Mac.agree expected.toList mac.toList = true := by rw [Mac.agree_iff, heq]
      rw [hagree, if_pos heq]
      cases s.answerData body with
      | error e => rfl
      | ok data => rfl
    · have hagree : Mac.agree expected.toList mac.toList = false := by
        rw [Bool.eq_false_iff, ne_eq, Mac.agree_iff]
        exact fun h => heq (Block.ext h)
      rw [hagree, if_neg heq]
      rfl

/-- An answer that ends in the MAC that the host computes is read without it. -/
theorem openAnswer_of_answerMac {awaited : Option Command} {body data : Bytes}
    {status : StatusWord} {mac : Block 8} {chaining : Chaining}
    (hmac : s.answerMac awaited body status = .ok (mac, chaining))
    (hdata : s.answerData body = .ok data) :
    s.openAnswer awaited ⟨body ++ mac.toList, status⟩ = .ok (⟨data, status⟩, chaining) := by
  rw [openAnswer_append, hmac]
  change (if mac = mac then _ else _) = _
  rw [if_pos rfl, hdata]
  rfl

end Session

end SmartCard
