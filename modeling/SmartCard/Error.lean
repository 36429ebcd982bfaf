import SmartCard.Apdu.LinkError
import SmartCard.Apdu.StatusWord
import SmartCard.Channel.SecurityLevel
import SmartCard.Channel.State
import SmartCard.Channel.Version
import SmartCard.Cipher.Fault
import SmartCard.Key.Kind
import SmartCard.Tlv.Fault

/-!
# Errors of card management

Every operation on keys, sessions, channels and card content fails with an `Error`. Errors are
sorted by who has to act on them: the link failed, the card sent malformed data (`ProtocolFault`),
one of the parties could not prove itself (`SecurityFault`), the card refused a command, what was
asked for does not fit the card (`ConfigurationFault`) or is not provided (`UnsupportedFault`), a
key is already there, or a secret does not fit its cipher.

Each fault is a cause with the values it is about. The wording is given by `message` alone. No fault
carries the bytes of a secret.
-/

namespace SmartCard

/-- Card data that cannot be read, or data that no command can carry. -/
inductive ProtocolFault
  | malformedTlv (fault : TlvFault)
  | fieldTooLong (length : Nat)
  | keyInformationTooShort
  /-- Key information whose components are not pairs of type and size. -/
  | malformedKeyComponents (keyId : UInt8)
  | constructedKeyInformation
  | emptyLifeCycle
  | entryWithoutAid
  | truncatedRegistry
  /-- Production data whose header announces another length. -/
  | cplcHeaderLength (announced present : Nat)
  | cplcLength (length : Nat)
  /-- An answer to INITIALIZE UPDATE of a length that no protocol uses. -/
  | handshakeLength (length : Nat)
  /-- An answer to INITIALIZE UPDATE of a length that its protocol does not use. -/
  | handshakeLengthOf (version : ScpVersion) (length : Nat)
  /-- A protected data field is too long for a short command. -/
  | protectedDataTooLong (length limit : Nat)
  | unalignedAnswer
  | unpaddedAnswer
deriving DecidableEq, Repr

def ProtocolFault.message : ProtocolFault → String
  | malformedTlv fault => "malformed TLV: " ++ fault.name
  | fieldTooLong length => "field of " ++ toString length ++ " bytes does not fit an LV"
  | keyInformationTooShort => "key information data shorter than 2 bytes"
  | malformedKeyComponents keyId => "malformed key components for key " ++ Hex.byte keyId
  | constructedKeyInformation => "constructed key information data"
  | emptyLifeCycle => "empty life cycle state in registry entry"
  | entryWithoutAid => "registry entry without AID"
  | truncatedRegistry => "truncated legacy registry data"
  | cplcHeaderLength announced present =>
    "CPLC header announces " ++ toString announced ++ " bytes, " ++ toString present ++ " present"
  | cplcLength length => "CPLC of " ++ toString length ++ " bytes"
  | handshakeLength length => "INITIALIZE UPDATE response of " ++ toString length ++ " bytes"
  | handshakeLengthOf version length =>
    version.text ++ " announced in a " ++ toString length ++ " byte response"
  | protectedDataTooLong length limit =>
    "wrapped command data of " ++ toString length ++ " bytes exceeds " ++ toString limit
  | unalignedAnswer => "encrypted response is not block aligned"
  | unpaddedAnswer => "encrypted response has invalid padding"

/-- A proof that was not given, or an operation that a proof has to come before. -/
inductive SecurityFault
  | cardCryptogram
  | alreadyAuthenticated
  /-- An answer that needs a MAC is too short for one. -/
  | answerWithoutMac (status : StatusWord)
  | answerWithoutCommand
  | answerMac
  /-- A channel can be opened only once. -/
  | notIdle (state : ChannelState)
  | hostRefused (status : StatusWord)
deriving DecidableEq, Repr

def SecurityFault.message : SecurityFault → String
  | cardCryptogram => "card cryptogram does not verify"
  | alreadyAuthenticated => "session is already authenticated"
  | answerWithoutMac status => "response " ++ status.text ++ " carries no R-MAC"
  | answerWithoutCommand => "R-MAC without a command"
  | answerMac => "response MAC does not verify"
  | notIdle state => "cannot open a secure channel that is " ++ state.text
  | hostRefused status => "EXTERNAL AUTHENTICATE failed with status " ++ status.text

/-- Keys, settings or content that do not fit together or do not fit the card. -/
inductive ConfigurationFault
  /-- A secret of a length that its cipher does not have. -/
  | secretLength (cipher : KeyCipher) (usage : KeyUsage) (length : Nat)
  | missingKey (set : String) (usage : KeyUsage)
  /-- A static key set to which a scheme was applied before. -/
  | alreadyDiversified (set : String) (scheme : Option Diversification)
  | missingSessionKey (usage : KeyUsage)
  | encryptionWithoutMac
  /-- Answer encryption without the protections it builds on. -/
  | answerEncryptionAlone
  | scp01Answers
  | scp02AnswerEncryption
  /-- The card's parameters do not offer answer MACs. -/
  | noAnswerMac (parameters : UInt8)
  /-- The card's parameters do not offer answer encryption. -/
  | noAnswerEncryption (parameters : UInt8)
  | otherProtocol (expected offered : ScpVersion)
  | otherKeyVersion (card set : UInt8)
  | noKeySlots
  /-- A key slot for which there is no key. -/
  | missingKeyId (set : String) (keyId : UInt8)
  /-- A key of another cipher or length than its slot. -/
  | slotMismatch (cipher : KeyCipher) (keyId : UInt8) (length : Nat) (slotType : UInt8)
      (slotSize : Nat)
  /-- A key for which there is no slot. -/
  | missingSlot (usage : KeyUsage) (keyId : UInt8)
  | packageAidLength (length : Nat)
  /-- A block size outside the range of LOAD commands. -/
  | loadBlockSize (size limit : Nat)
  | emptyLoadFile
  /-- A block size that protected LOAD commands cannot carry. -/
  | loadBlockTooLong (size limit : Nat) (level : SecurityLevel)
  | noIdentity
  /-- The card tells nothing about its key slots. -/
  | noKeyInformation
  /-- New keys without a version of their own. -/
  | zeroKeyVersion
  | noKeys
deriving DecidableEq, Repr

def ConfigurationFault.message : ConfigurationFault → String
  | secretLength cipher usage length =>
    cipher.text ++ " key " ++ usage.text ++ " cannot hold a " ++ toString length ++ " byte secret"
  | missingKey set usage => "key set '" ++ set ++ "' has no " ++ usage.text ++ " key"
  | alreadyDiversified set scheme =>
    "key set '" ++ set ++ "' is already diversified (" ++ Diversification.textOf scheme ++ ")"
  | missingSessionKey usage => "session key set has no " ++ usage.text ++ " key"
  | encryptionWithoutMac => "C-ENC requires C-MAC"
  | answerEncryptionAlone => "R-ENC requires R-MAC and C-ENC"
  | scp01Answers => "SCP01 does not support response protection"
  | scp02AnswerEncryption => "SCP02 does not support R-ENC"
  | noAnswerMac parameters =>
    "card SCP03 parameters " ++ Hex.byte parameters ++ " do not support R-MAC"
  | noAnswerEncryption parameters =>
    "card SCP03 parameters " ++ Hex.byte parameters ++ " do not support R-ENC"
  | otherProtocol expected offered =>
    "expected " ++ expected.text ++ ", card offers " ++ offered.text
  | otherKeyVersion card set =>
    "card key version " ++ Hex.byte card ++ " does not match key set version " ++ Hex.byte set
  | noKeySlots => "card reported no key slots"
  | missingKeyId set keyId => "key set '" ++ set ++ "' has no key with id " ++ Hex.byte keyId
  | slotMismatch cipher keyId length slotType slotSize =>
    cipher.text ++ " key " ++ Hex.byte keyId ++ " (" ++ toString length ++
      " bytes) does not fit slot type " ++ Hex.byte slotType ++ " of " ++ toString slotSize ++
      " bytes"
  | missingSlot usage keyId =>
    usage.text ++ " key with id " ++ Hex.byte keyId ++ " has no matching slot"
  | packageAidLength length => "package AID of " ++ toString length ++ " bytes"
  | loadBlockSize size limit =>
    "LOAD block size " ++ toString size ++ ", expected 1..=" ++ toString limit
  | emptyLoadFile => "empty load file"
  | loadBlockTooLong size limit level =>
    "LOAD block size " ++ toString size ++ " exceeds " ++ toString limit ++
      " at security level " ++ level.text
  | noIdentity => "change identity needs an IIN, a CIN or an ISD AID"
  | noKeyInformation => "card reports no key information template, key slots cannot be checked"
  | zeroKeyVersion => "replacement keys need a nonzero key version"
  | noKeys => "PUT KEY without keys"

/-- Features of cards and keys that are not provided. -/
inductive UnsupportedFault
  | diversification (name : String)
  | diversifiedAes (scheme : Diversification)
  | scp02Aes
  /-- The 16 byte mode of SCP03. -/
  | scp03LongMode
  | protocolId (id : UInt8)
  /-- Keys of several components. -/
  | keyComponents (keyId keyVersion : UInt8) (count : Nat)
  /-- An AES key cannot be enciphered under a key of this cipher. -/
  | aesUnder (keyId : UInt8) (kek : KeyCipher)
  /-- A key of this cipher cannot be enciphered under an AES key. -/
  | underAes (cipher : KeyCipher) (keyId : UInt8)
deriving DecidableEq, Repr

def UnsupportedFault.message : UnsupportedFault → String
  | diversification name => "unknown diversification algorithm '" ++ name ++ "'"
  | diversifiedAes scheme => scheme.text ++ " diversification of AES keys"
  | scp02Aes => "SCP02 with AES keys"
  | scp03LongMode => "SCP03 S16 mode"
  | protocolId id => "secure channel protocol " ++ Hex.byte id
  | keyComponents keyId keyVersion count =>
    "key " ++ Hex.byte keyId ++ " version " ++ Hex.byte keyVersion ++ " has " ++ toString count ++
      " components"
  | aesUnder keyId kek =>
    "AES key " ++ Hex.byte keyId ++ " under a " ++ kek.text ++ " key encryption key"
  | underAes cipher keyId =>
    cipher.text ++ " key " ++ Hex.byte keyId ++ " under an AES key encryption key"

/-- Why an operation on a card failed. -/
inductive Error
  /-- The link to the card failed, or there is no channel to protect a command. -/
  | link (error : LinkError)
  | protocol (fault : ProtocolFault)
  | security (fault : SecurityFault)
  | cardStatus (status : StatusWord)
  | configuration (fault : ConfigurationFault)
  | unsupported (fault : UnsupportedFault)
  /-- The set has a key for the role or with the id of this one. -/
  | duplicateKey (usage : KeyUsage) (id : UInt8)
  /-- A secret or data does not fit its cipher. -/
  | cipher (fault : CipherFault)
deriving DecidableEq, Repr

namespace Error

def message : Error → String
  | link error => error.message
  | protocol fault => "Protocol error: " ++ fault.message
  | security fault => "Security error: " ++ fault.message
  | cardStatus status =>
    "Card returned error status " ++ status.text ++ " (" ++ status.name.getD "unknown" ++ ")"
  | configuration fault => "Configuration error: " ++ fault.message
  | unsupported fault => "Unsupported: " ++ fault.message
  | duplicateKey usage id => "Duplicate key: usage " ++ usage.text ++ ", id " ++ Hex.byte id
  | cipher fault => "Cryptographic error: " ++ fault.message

def status? : Error → Option StatusWord
  | cardStatus status => some status
  | _ => none

/-- The error of a malformed tag-length-value object. -/
def ofTlv (fault : TlvFault) : Error := protocol (.malformedTlv fault)

end Error

end SmartCard
