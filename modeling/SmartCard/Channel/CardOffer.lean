import SmartCard.Error
import SmartCard.Inspect.Record

/-!
# The card's offer

A card answers INITIALIZE UPDATE with its diversification data, the key version and the protocol it
will use, a challenge to the host and a cryptogram that proves its knowledge of the keys
(`CardOffer`). An SCP03 card adds its parameters and a sequence counter (`CardOffer.Announced`).

`CardOffer.parse` reads the answer. Its length tells SCP03 from the other two, and has to agree with
the protocol number in it. -/

namespace SmartCard

/-- The name of a protocol as it stands in records. -/
def ScpVersion.inspect : ScpVersion → String
  | scp01 => "Scp01"
  | scp02 => "Scp02"
  | scp03 => "Scp03"

/-- The protocol of a card, with what only that protocol reports. -/
inductive CardOffer.Announced
  | scp01
  | scp02
  /-- SCP03 with its parameters, if they are known, and a sequence counter. -/
  | scp03 (parameters : Option UInt8) (sequence : Block 3)
deriving DecidableEq

/-- What a card offers for a secure channel. -/
structure CardOffer where
  /-- The data that the card's keys are diversified with. -/
  diversificationData : Block 10
  keyVersion : UInt8
  announced : CardOffer.Announced
  /-- The challenge to the host; with SCP02 it starts with the sequence counter. -/
  cardChallenge : Block 8
  cardCryptogram : Block 8
deriving DecidableEq

namespace CardOffer

def Announced.version : Announced → ScpVersion
  | scp01 => .scp01
  | scp02 => .scp02
  | scp03 _ _ => .scp03

def version (offer : CardOffer) : ScpVersion := offer.announced.version

/-- The parameters that an SCP03 card reports. -/
def parameters? (offer : CardOffer) : Option UInt8 :=
  match offer.announced with
  | .scp03 parameters _ => parameters
  | _ => none

/-- The sequence counter that an SCP03 card reports. -/
def sequence? (offer : CardOffer) : Option (Block 3) :=
  match offer.announced with
  | .scp03 _ sequence => some sequence
  | _ => none

/-- The sequence counter of SCP02: the first two bytes of the card challenge. -/
def sequenceCounter (offer : CardOffer) : Block 2 := offer.cardChallenge.slice 0 2

/-- The same offer without reported parameters. -/
def withoutParameters (offer : CardOffer) : CardOffer :=
  { offer with
    announced := match offer.announced with
      | .scp03 _ sequence => .scp03 none sequence
      | other => other }

/-- Reads the shorter form, which SCP01 and SCP02 use. -/
def ofShort (b : Block 28) : Except Error CardOffer :=
  let offer (announced : Announced) : CardOffer :=
    { diversificationData := b.slice 0 10
      keyVersion := b[10]
      announced
      cardChallenge := b.slice 12 8
      cardCryptogram := b.slice 20 8 }
  match ScpVersion.ofId? b[11] with
  | some .scp01 => .ok (offer .scp01)
  | some .scp02 => .ok (offer .scp02)
  | some .scp03 => .error (.protocol (.handshakeLengthOf .scp03 28))
  | none => .error (.unsupported (.protocolId b[11]))

/-- Reads the longer form, which SCP03 uses. -/
def ofLong (b : Block 32) : Except Error CardOffer :=
  match ScpVersion.ofId? b[11] with
  | some .scp03 =>
    .ok
      { diversificationData := b.slice 0 10
        keyVersion := b[10]
        announced := .scp03 (some b[12]) (b.slice 29 3)
        cardChallenge := b.slice 13 8
        cardCryptogram := b.slice 21 8 }
  | some other => .error (.protocol (.handshakeLengthOf other 32))
  | none => .error (.unsupported (.protocolId b[11]))

def parse (s : Bytes) : Except Error CardOffer :=
  match Block.ofList? 28 s, Block.ofList? 32 s with
  | some b, _ => ofShort b
  | none, some b => ofLong b
  | none, none => .error (.protocol (.handshakeLength s.length))

/-- The offer in one line, without the cryptogram. -/
def inspect (offer : CardOffer) : String :=
  Record.abridged "InitializeUpdateResponse"
    [("diversification_data", Record.quoted (Hex.lower offer.diversificationData.toList)),
      ("key_version", Hex.byte offer.keyVersion),
      ("scp_version", offer.version.inspect),
      ("scp03_parameters",
        Record.optional (offer.parameters?.map fun parameters => toString parameters.toNat)),
      ("card_challenge", Record.quoted (Hex.lower offer.cardChallenge.toList)),
      ("scp03_sequence",
        Record.optional
          (offer.sequence?.map fun sequence => Record.quoted (Hex.lower sequence.toList)))]

end CardOffer

end SmartCard
