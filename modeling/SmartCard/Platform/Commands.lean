import SmartCard.Error
import SmartCard.Platform.Vocabulary
import SmartCard.Tlv.LengthValue
import SmartCard.Tlv.Simple

/-!
# Commands of card management

One function for each command that manages a card, giving its class, instruction, parameters and
fields. Commands whose answer has data ask for all of it with an expected length of zero. -/

namespace SmartCard.Command

def build (cla ins p1 p2 : UInt8) (data : Bytes) : Command :=
  (Command.mk cla ins p1 p2 none none).withData data

/-- A GlobalPlatform command with a data field. -/
def globalPlatform (ins p1 p2 : UInt8) (data : Bytes) : Command :=
  build CommandClass.globalPlatform ins p1 p2 data

/-- A tag-length-value field. -/
def taggedField (tag : UInt8) (value : Bytes) : Except Error Bytes :=
  (SimpleTlv.encode tag value).mapError .ofTlv

/-! ### Selection and reading -/

def selectWith (p1 p2 : UInt8) (aid : Bytes) : Command :=
  (build CommandClass.iso Instruction.select p1 p2 aid).withLe 0

/-- Selects an application by its identifier. -/
def select (aid : Bytes) : Command := selectWith 0x04 0x00 aid

def getData (tag : UInt16) : Command :=
  (globalPlatform Instruction.getData (tag >>> 8).toUInt8 tag.toUInt8 []).withLe 0

/-- Reads the registry entries that fit an identifier. -/
def getStatusOf (p1 p2 : UInt8) (aid : Bytes) : Except Error Command := do
  return (globalPlatform Instruction.getStatus p1 p2 (← taggedField Tag.aid aid)).withLe 0

def getStatus (p1 p2 : UInt8) : Command :=
  (globalPlatform Instruction.getStatus p1 p2 [Tag.aid, 0x00]).withLe 0

/-- Reads the first page of registry entries. -/
def getStatusFirst (subset format : UInt8) : Command := getStatus subset (format ||| 0x00)

def getStatusNext (subset format : UInt8) : Command := getStatus subset (format ||| 0x01)

/-! ### Handshake -/

/-- Starts a secure channel with keys of a version and a challenge to the card. -/
def initUpdate (keyVersion : UInt8) (challenge : Block 8) : Command :=
  (globalPlatform Instruction.initUpdate keyVersion 0x00 challenge.toList).withLe 0

/-- Proves the host to the card and asks for a security level. -/
def externalAuthenticate (level : UInt8) (cryptogram : Block 8) : Command :=
  globalPlatform Instruction.externalAuthenticate level 0x00 cryptogram.toList

/-! ### Content -/

/-- Deletes the object with an identifier, with given second parameter. -/
def deleteWith (p2 : UInt8) (aid : Bytes) : Except Error Command := do
  return (globalPlatform Instruction.delete 0x00 p2 (← taggedField Tag.aid aid)).withLe 0

/-- Deletes an object, and on demand everything that depends on it. -/
def delete (related : Bool) (aid : Bytes) : Except Error Command :=
  deleteWith (if related then 0x80 else 0x00) aid

def load (p1 number : UInt8) (data : Bytes) : Command :=
  (globalPlatform Instruction.load p1 number data).withLe 0

def storeData (p1 number : UInt8) (data : Bytes) : Command :=
  globalPlatform Instruction.storeData p1 number data

/-- Changes a life cycle state; an empty identifier leaves the data field out. -/
def setStatus (target state : UInt8) (aid : Bytes) : Command :=
  globalPlatform Instruction.setStatus target state aid

def install (p1 : UInt8) (data : Bytes) : Command :=
  globalPlatform Instruction.install p1 0x00 data

def installForLoad (loadFile securityDomain hash parameters token : Bytes) :
    Except Error Command := do
  return install 0x02 (← LengthValue.encode [loadFile, securityDomain, hash, parameters, token])

/-- Creates an application from a module and makes it selectable. -/
def installForInstall (loadFile module application privileges parameters token : Bytes) :
    Except Error Command := do
  let parameters ← taggedField Tag.installParameters parameters
  return install 0x0C
    (← LengthValue.encode [loadFile, module, application, privileges, parameters, token])

def installSelectable (application privileges : Bytes) : Except Error Command := do
  return install 0x08 (← LengthValue.encode [[], [], application, privileges, [], []])

end SmartCard.Command
