import SmartCard.Apdu.Command
import SmartCard.Apdu.Response
import SmartCard.Channel.CardOffer
import SmartCard.Cipher.Mac
import SmartCard.Key.SessionKeys
import SmartCard.Platform.Commands

/-!
# Sessions

A session is the state that host and card share once the card has proved itself: the session keys,
and values that link each command and each answer to those before it (`Chaining`). It protects
commands and removes the protection of answers.

* `Session.start` derives the session keys from the card's offer and checks the card's proof;
* `Session.authenticate` makes the command that proves the host and fixes the security level;
* `Session.wrap` protects a command, and `Session.unwrap` checks an answer and removes its
  protection.

Authentication succeeds at most once, and a failure leaves no trace. `wrap` and `unwrap` return the
session together with their outcome, since a failure may leave traces: a command counts as soon as
it is to be protected, and an answer uses up the command it belongs to. -/

namespace SmartCard

/-- The values that link commands and answers to those before them. -/
inductive Chaining
  /-- SCP01: the MAC of the last command, if there was one. -/
  | scp01 (commandMac : Option (Block 8))
  /-- SCP02: the MACs of the last command, if there was one, and of the last answer. -/
  | scp02 (commandMac : Option (Block 8)) (answerMac : Block 8)
  /-- SCP03: the full MAC of the last command, and the number of commands. -/
  | scp03 (commandMac : Block 16) (counter : UInt32)
deriving DecidableEq

namespace Chaining

/-- The values before the first command. -/
def start : ScpVersion → Chaining
  | .scp01 => scp01 none
  | .scp02 => scp02 none (Block.zero 8)
  | .scp03 => scp03 (Block.zero 16) 0

def version : Chaining → ScpVersion
  | scp01 _ => .scp01
  | scp02 _ _ => .scp02
  | scp03 _ _ => .scp03

/-- Counts a command that is to be protected; only SCP03 counts. -/
def count : Chaining → Chaining
  | scp03 commandMac counter => scp03 commandMac (counter + 1)
  | other => other

/-- Links the MACs of answers to the MAC of the last command; only SCP02 has a link to set. -/
def linkAnswers : Chaining → Chaining
  | scp02 (some mac) _ => scp02 (some mac) mac
  | other => other

@[simp] theorem version_start (v : ScpVersion) : (start v).version = v := by cases v <;> rfl

@[simp] theorem version_count (c : Chaining) : c.count.version = c.version := by
  cases c <;> rfl

@[simp] theorem version_linkAnswers (c : Chaining) : c.linkAnswers.version = c.version := by
  rcases c with _ | ⟨_ | _, _⟩ | _ <;> rfl

end Chaining

/-- The shared state of host and card. -/
structure Session where
  parameters : UInt8
  level : SecurityLevel
  keys : KeySet
  keyVersion : UInt8
  /-- The challenge to the card. -/
  hostChallenge : Block 8
  /-- The challenge to the host. -/
  cardChallenge : Block 8
  chaining : Chaining
  /-- Whether the host's proof was made. -/
  authenticated : Bool
  /-- The command whose answer is awaited, when the answer's MAC will cover it. -/
  pending : Option Command

def SecurityLevel.inspect (level : SecurityLevel) : String :=
  Record.text "SecurityLevel"
    [("c_mac", toString level.cMac), ("c_enc", toString level.cEnc),
      ("r_mac", toString level.rMac), ("r_enc", toString level.rEnc)]

namespace Session

/-- The parameter bit for enciphered chaining values. -/
def icvEncryptionBit : UInt8 := 0x10

/-- The parameter bit for the 16 byte mode of SCP03. -/
def longModeBit : UInt8 := 0x01

/-- The parameter bit for answer MACs in SCP03. -/
def answerMacBit : UInt8 := 0x20

/-- The parameter bit for answer encryption in SCP03. -/
def answerEncryptionBit : UInt8 := 0x40

def version (s : Session) : ScpVersion := s.chaining.version

/-- The session in one line, without its keys. -/
def inspect (s : Session) : String :=
  Record.abridged "Session"
    [("version", s.version.inspect), ("parameters", Hex.byte s.parameters),
      ("security_level", s.level.inspect), ("keys", Record.quoted s.keys.name),
      ("key_version", toString s.keyVersion.toNat), ("authenticated", toString s.authenticated)]

/-- The longest command data that fits a short command once it is protected: a MAC takes 8 bytes,
and encryption up to 8 more. -/
def maxDataLength (s : Session) : Nat :=
  if !s.level.cMac then Command.maxData
  else if s.level.cEnc then Command.maxData - 16
  else Command.maxData - 8

/-! ### Keys and cryptograms -/

def key (s : Session) (usage : KeyUsage) : Except Error Key :=
  match s.keys.get? usage with
  | some k => .ok k
  | none => .error (.configuration (.missingSessionKey usage))

def secret (s : Session) (usage : KeyUsage) : Except Error Bytes := (s.key usage).map Key.secret

/-- What SCP03 derives session values from: both challenges. -/
def context (hostChallenge cardChallenge : Block 8) : Bytes :=
  hostChallenge.toList ++ cardChallenge.toList

/-- The purpose byte of the card's proof in SCP03. -/
def cardPurpose : UInt8 := 0x00

/-- The purpose byte of the host's proof in SCP03. -/
def hostPurpose : UInt8 := 0x01

/-- A proof of SCP03: the first half of a derived block. -/
def derivedCryptogram (s : Session) (purpose : UInt8) : Except Error (Block 8) := do
  let block ← (Derivation.counterBlock (← s.secret .mac) purpose
    (context s.hostChallenge s.cardChallenge) 64 1).mapError .cipher
  return block.leftHalf

def cardCryptogram (s : Session) : Except Error (Block 8) :=
  match s.version with
  | .scp03 => s.derivedCryptogram cardPurpose
  | _ => do
    let secret ← s.secret .enc
    (Mac.cryptogram secret s.hostChallenge.toList s.cardChallenge.toList).mapError .cipher

def hostCryptogram (s : Session) : Except Error (Block 8) :=
  match s.version with
  | .scp03 => s.derivedCryptogram hostPurpose
  | _ => do
    let secret ← s.secret .enc
    (Mac.cryptogram secret s.cardChallenge.toList s.hostChallenge.toList).mapError .cipher

/-! ### Start -/

/-- The session keys of a protocol; SCP01 uses the static keys. -/
def sessionKeys (staticKeys : KeySet) (offer : CardOffer) (hostChallenge : Block 8) :
    Except Error KeySet :=
  match offer.version with
  | .scp01 => .ok staticKeys
  | .scp02 => staticKeys.scp02Session offer.sequenceCounter
  | .scp03 => staticKeys.scp03Session (context hostChallenge offer.cardChallenge)

/-- The options of a protocol: those the card reports for SCP03, and those of the host for the
others. -/
def parametersOf (offer : CardOffer) (parameters : Option UInt8) : UInt8 :=
  match offer.version with
  | .scp03 => offer.parameters?.getD ScpVersion.scp03.defaultParameters
  | version => parameters.getD version.defaultParameters

/-- A session from the card's offer. The static keys are those of this card, and the host gives the
parameters that SCP01 and SCP02 cards do not report. -/
def start (staticKeys : KeySet) (offer : CardOffer) (hostChallenge : Block 8)
    (parameters : Option UInt8) : Except Error Session := do
  let parameters := parametersOf offer parameters
  if offer.version = .scp03 ∧ parameters &&& longModeBit ≠ 0 then
    throw (.unsupported .scp03LongMode)
  let keys ← sessionKeys staticKeys offer hostChallenge
  let session : Session :=
    { parameters, keys, hostChallenge
      level := .mac
      keyVersion := offer.keyVersion
      cardChallenge := offer.cardChallenge
      chaining := .start offer.version
      authenticated := false
      pending := none }
  -- Only now does the card's proof tell whether both sides have derived the same keys.
  let expected ← session.cardCryptogram
  if !Mac.agree expected.toList offer.cardCryptogram.toList then
    throw (.security .cardCryptogram)
  return session

/-! ### Protection of commands -/

/-- A length byte, unless the data is too long for a short command. -/
def lengthByte (length : Nat) : Except Error UInt8 :=
  if Command.maxData < length then
    .error (.protocol (.protectedDataTooLong length Command.maxData))
  else .ok length.toUInt8

/-- What the MAC of a command covers: the header with the bit of secure messaging, the length of the
data field with its MAC, and the data. -/
def macInput (cla : UInt8) (command : Command) (length : UInt8) (data : Bytes) : Bytes :=
  [cla, command.ins, command.p1, command.p2, length] ++ data

/-- The initial chaining value of a command in SCP01 and SCP02: zero for the first one, and then the
MAC of the command before, which some cards expect to be enciphered. -/
def commandIcv (s : Session) (encrypt : Bytes → Block 8 → Except CipherFault (Block 8))
    (secret : Bytes) (commandMac : Option (Block 8)) : Except CipherFault (Block 8) :=
  match commandMac with
  | none => .ok (Block.zero 8)
  | some mac => if s.parameters &&& icvEncryptionBit ≠ 0 then encrypt secret mac else .ok mac

/-- The data that SCP01 enciphers: the length, the data, and a padding if it is needed. -/
def scp01Plain (data : Bytes) : Bytes :=
  let plain := data.length.toUInt8 :: data
  -- The length byte tells where the data end, so an aligned text is left as it is.
  if plain.length % 8 = 0 then plain else Padding.pad 8 plain

/-- The data field of a command in SCP01 and SCP02, enciphered if it is asked for. -/
def desBody (s : Session) (encipher : Bool) (plain : Bytes → Bytes) (data : Bytes) :
    Except Error Bytes :=
  if encipher && !data.isEmpty then do
    (TripleDes.cbcEncrypt (← s.secret .enc) (Block.zero 8) (plain data)).mapError .cipher
  else .ok data

/-- The protected data field of a command in SCP01, and its MAC. -/
def scp01Data (s : Session) (commandMac : Option (Block 8)) (command : Command) (cla : UInt8)
    (encipher : Bool) : Except Error (Bytes × Block 8) := do
  let data := command.dataBytes
  let length ← lengthByte (data.length + 8)
  let secret ← s.secret .mac
  let icv ← (s.commandIcv Icv.encryptTriple secret commandMac).mapError .cipher
  -- The MAC covers the plain data, and is made before the data are enciphered.
  let mac ← (Mac.triple secret icv (macInput cla command length data)).mapError .cipher
  let body ← s.desBody encipher scp01Plain data
  let _ ← lengthByte (body.length + 8)
  return (body ++ mac.toList, mac)

/-- The protected data field of a command in SCP02, and its MAC. -/
def scp02Data (s : Session) (commandMac : Option (Block 8)) (command : Command) (cla : UInt8)
    (encipher : Bool) : Except Error (Bytes × Block 8) := do
  let data := command.dataBytes
  let length ← lengthByte (data.length + 8)
  let secret ← s.secret .mac
  let icv ← (s.commandIcv Icv.encryptSingle secret commandMac).mapError .cipher
  let mac ← (Mac.retail secret icv (macInput cla command length data)).mapError .cipher
  let body ← s.desBody encipher (Padding.pad 8) data
  let _ ← lengthByte (body.length + 8)
  return (body ++ mac.toList, mac)

/-- The block that SCP03 enciphers into the initial chaining value of command data. -/
def commandCounterBlock (counter : UInt32) : Block 16 :=
  (Block.zero 12).append (BigEndian.ofUInt32 counter)

/-- The block that SCP03 enciphers into the initial chaining value of answer data. -/
def answerCounterBlock (counter : UInt32) : Block 16 :=
  ((Block.fill 1 0x80).append (Block.zero 11)).append (BigEndian.ofUInt32 counter)

/-- The data field of a command in SCP03, enciphered if it is asked for. -/
def aesBody (s : Session) (counter : UInt32) (encipher : Bool) (data : Bytes) :
    Except Error Bytes :=
  if encipher && !data.isEmpty then do
    let secret ← s.secret .enc
    let icv ← (Aes.encryptBlock secret (commandCounterBlock counter)).mapError .cipher
    (Aes.cbcEncrypt secret icv (Padding.pad 16 data)).mapError .cipher
  else .ok data

/-- The protected data field of a command in SCP03, and its full MAC, of which the field carries the
first half. -/
def scp03Data (s : Session) (commandMac : Block 16) (counter : UInt32) (command : Command)
    (cla : UInt8) (encipher : Bool) : Except Error (Bytes × Block 16) := do
  let body ← s.aesBody counter encipher command.dataBytes
  let length ← lengthByte (body.length + 8)
  -- Here the MAC covers the enciphered data.
  let mac ← (Cmac.aes (← s.secret .mac)
    (commandMac.toList ++ macInput cla command length body)).mapError .cipher
  return (body ++ mac.leftHalf.toList, mac)

/-- The protected data field of a command, and the links after it. -/
def protectData (s : Session) (command : Command) (cla : UInt8) (encipher : Bool) :
    Except Error (Bytes × Chaining) :=
  match s.chaining with
  | .scp01 commandMac => do
    let (data, mac) ← s.scp01Data commandMac command cla encipher
    return (data, .scp01 (some mac))
  | .scp02 commandMac answerMac => do
    let (data, mac) ← s.scp02Data commandMac command cla encipher
    return (data, .scp02 (some mac) answerMac)
  | .scp03 commandMac counter => do
    let (data, mac) ← s.scp03Data commandMac counter command cla encipher
    return (data, .scp03 mac counter)

/-- A command with the protection of a level, and the links after it. -/
def protectCommand (s : Session) (command : Command) (level : SecurityLevel) :
    Except Error (Command × Chaining) :=
  if level.cMac then do
    let cla := command.cla ||| CommandClass.secureMessaging
    let (data, chaining) ← s.protectData command cla level.cEnc
    return ((command.withClass cla).withData data, chaining)
  else .ok (command, s.chaining)

/-! ### Authentication -/

/-- Refuses a level that makes no sense, or that the card does not offer. -/
def checkLevel (s : Session) (level : SecurityLevel) : Except Error Unit :=
  if level.cEnc ∧ ¬level.cMac then .error (.configuration .encryptionWithoutMac)
  else if level.rEnc ∧ ¬(level.rMac ∧ level.cEnc) then
    .error (.configuration .answerEncryptionAlone)
  else
    match s.version with
    | .scp01 =>
      if level.rMac ∨ level.rEnc then .error (.configuration .scp01Answers) else .ok ()
    | .scp02 => if level.rEnc then .error (.configuration .scp02AnswerEncryption) else .ok ()
    | .scp03 =>
      if level.rMac ∧ s.parameters &&& answerMacBit = 0 then
        .error (.configuration (.noAnswerMac s.parameters))
      else if level.rEnc ∧ s.parameters &&& answerEncryptionBit = 0 then
        .error (.configuration (.noAnswerEncryption s.parameters))
      else .ok ()

/-- The command that proves the host, and the session after it. The command itself carries a MAC
only; the level holds for the commands that follow. -/
def authenticate (s : Session) (level : SecurityLevel) : Except Error (Command × Session) := do
  if s.authenticated then throw (.security .alreadyAuthenticated)
  s.checkLevel level
  let cryptogram ← s.hostCryptogram
  let (command, chaining) ←
    s.protectCommand (Command.externalAuthenticate level.toByte cryptogram) .mac
  return (command, { s with chaining := chaining.linkAnswers, level, authenticated := true })

/-- A command with the protection of the session. The command counts, and waits for its answer, even
if it cannot be protected. -/
def wrap (s : Session) (command : Command) : Except Error Command × Session :=
  if s.authenticated then
    -- The count and the pending command stand even if the protection fails below.
    let counted : Session :=
      { s with
        chaining := s.chaining.count
        pending := if s.level.rMac then some command else none }
    match counted.protectCommand command s.level with
    | .ok (wrapped, chaining) => (.ok wrapped, { counted with chaining })
    | .error e => (.error e, counted)
  else (.error (.link .noSecureChannel), s)

/-! ### Protection of answers -/

/-- What the MAC of an SCP02 answer covers: the command without its channel bits, and the answer. -/
def scp02AnswerInput (command : Command) (body : Bytes) (status : StatusWord) : Bytes :=
  let data := command.dataBytes
  [command.cla &&& 0xF8, command.ins, command.p1, command.p2, data.length.toUInt8] ++ data ++
    [body.length.toUInt8] ++ body ++ status.toBytes

/-- The MAC that an answer has to carry, and the links after it. -/
def answerMac (s : Session) (command : Option Command) (body : Bytes) (status : StatusWord) :
    Except Error (Block 8 × Chaining) :=
  match s.chaining with
  | .scp01 _ => .error (.configuration .scp01Answers)
  | .scp02 commandMac lastMac =>
    match command with
    | none => .error (.security .answerWithoutCommand)
    | some command => do
      let mac ← (Mac.retail (← s.secret .rmac) lastMac
        (scp02AnswerInput command body status)).mapError .cipher
      return (mac, .scp02 commandMac mac)
  | .scp03 commandMac counter => do
    let mac ← (Cmac.aes (← s.secret .rmac)
      (commandMac.toList ++ body ++ status.toBytes)).mapError .cipher
    return (mac.leftHalf, .scp03 commandMac counter)

def decipherAnswer (s : Session) (counter : UInt32) (body : Bytes) : Except Error Bytes := do
  let secret ← s.secret .enc
  let icv ← (Aes.encryptBlock secret (answerCounterBlock counter)).mapError .cipher
  let padded ← (Aes.cbcDecrypt secret icv body).mapError fun _ => .protocol .unalignedAnswer
  (Padding.unpad padded).mapError fun _ => .protocol .unpaddedAnswer

/-- The data of an answer whose MAC is right. -/
def answerData (s : Session) (body : Bytes) : Except Error Bytes :=
  match s.chaining with
  | .scp03 _ counter =>
    if s.level.rEnc && !body.isEmpty then s.decipherAnswer counter body else .ok body
  | _ => .ok body

/-- An answer that carries a MAC, checked and without it, and the links after it. -/
def openAnswer (s : Session) (command : Option Command) (response : Response) :
    Except Error (Response × Chaining) := do
  let length := response.payload.length - 8
  let body := response.payload.take length
  let (expected, chaining) ← s.answerMac command body response.status
  if !Mac.agree expected.toList (response.payload.drop length) then
    throw (.security .answerMac)
  let data ← s.answerData body
  return (⟨data, response.status⟩, chaining)

/-- An answer without the protection of the session. Error answers that are too short for a MAC are
passed on as they are. -/
def unwrap (s : Session) (response : Response) : Except Error Response × Session :=
  -- Whatever the verdict, this answer uses up the pending command.
  let answered := { s with pending := none }
  if !s.level.rMac then (.ok response, answered)
  else if response.payload.length < 8 then
    -- A card that completed a command owes a MAC; one that refused it may answer without.
    if response.status.isCompleted then
      (.error (.security (.answerWithoutMac response.status)), answered)
    else (.ok response, answered)
  else
    match s.openAnswer s.pending response with
    | .ok (plain, chaining) => (.ok plain, { answered with chaining })
    | .error e => (.error e, answered)

end Session

end SmartCard
