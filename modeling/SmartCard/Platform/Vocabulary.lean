import SmartCard.Apdu.Command

/-!
# The vocabulary of card management

Class and instruction bytes, parameters, tags, life cycle states and well-known application
identifiers of the GlobalPlatform card specification.
-/

namespace SmartCard

/-! ### Command classes

The class byte tells interindustry commands from those of GlobalPlatform. Bit `secureMessaging`
marks a command with a MAC, so that `globalPlatformMac` is `globalPlatform` with that bit. -/

namespace CommandClass

def iso : UInt8 := 0x00

def globalPlatform : UInt8 := 0x80

def globalPlatformMac : UInt8 := 0x84

def secureMessaging : UInt8 := 0x04

end CommandClass

/-! ### Instructions

`initUpdate` and `externalAuthenticate` make the handshake of a secure channel. Code reaches the
card by `install` and `load`, keys by `putKey`, and everything else by `storeData`; `getStatus` and
`setStatus` read and change the registry. -/

namespace Instruction

def select : UInt8 := 0xA4

def initUpdate : UInt8 := 0x50

def externalAuthenticate : UInt8 := 0x82

def getData : UInt8 := 0xCA

def delete : UInt8 := 0xE4

def load : UInt8 := 0xE8

def install : UInt8 := 0xE6

def getStatus : UInt8 := 0xF2

def setStatus : UInt8 := 0xF0

def putKey : UInt8 := 0xD8

def storeData : UInt8 := 0xE2

end Instruction

/-! ### Tags

Fields of commands have tags of one byte. Tags of data objects may have two. -/

namespace Tag

def aid : UInt8 := 0x4F

def issuerNumber : UInt8 := 0x42

def cardImageNumber : UInt8 := 0x45

def loadFileDataBlock : UInt8 := 0xC4

/-- The parameters of an application that is installed. -/
def installParameters : UInt8 := 0xC9

def lifeCycle : Bytes := [0x9F, 0x70]

def cplc : Bytes := [0x9F, 0x7F]

end Tag

/-! ### Data objects

What GET DATA reads: production data, a description of the card's abilities, the key slots, and the
two numbers that name the card. -/

namespace DataObject

def cplc : UInt16 := 0x9F7F

def cardData : UInt16 := 0x0066

def keyInformation : UInt16 := 0x00E0

def issuerNumber : UInt16 := 0x0042

def cardImageNumber : UInt16 := 0x0045

end DataObject

/-! ### Life cycle states

A card goes from its manufacturer to its issuer and to its holder; a locked card can come back, a
terminated one cannot. -/

namespace LifeCycle

def cardReady : UInt8 := 0x01

def cardInitialized : UInt8 := 0x07

def cardSecured : UInt8 := 0x0F

def cardLocked : UInt8 := 0x7F

def cardTerminated : UInt8 := 0xFF

def applicationInstalled : UInt8 := 0x03

def applicationSelectable : UInt8 := 0x07

def applicationLocked : UInt8 := 0x83

end LifeCycle

/-! ### Application identifiers -/

namespace Aid

def securityDomain : Bytes := [0xA0, 0x00, 0x00, 0x01, 0x51, 0x00, 0x00, 0x00]

/-- The issuer security domain of older cards. -/
def legacyCardManager : Bytes := [0xA0, 0x00, 0x00, 0x00, 0x03, 0x00, 0x00, 0x00]

end Aid

/-! ### Transfers in blocks -/

/-- The first parameter of a block: whether it is the last one. -/
def lastBlockParameter (last : Bool) : UInt8 := if last then 0x80 else 0x00

def storeDataBlockSize : Nat := 128

/-! ### Handshakes -/

def Command.challengeLength : Nat := 8

end SmartCard
