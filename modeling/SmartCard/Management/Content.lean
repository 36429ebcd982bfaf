import SmartCard.Channel.SecureChannel
import SmartCard.Key.Slot
import SmartCard.Management.Cplc
import SmartCard.Management.LoadFile
import SmartCard.Key.Envelope
import SmartCard.Registry.Listing

/-!
# Card content

The operations of a card issuer: selecting the security domain, reading what the card tells about
itself, loading, installing and deleting, and replacing keys. Selection uses the link as it is,
reading uses the channel when it is open, and everything that changes the card needs the channel.

An operation of several commands stops at the first one that fails. `ContentManager.loadFile` also
reports how far it got. -/

namespace SmartCard.ContentManager

variable {L : Type} [CardLink L]

/-! ### Sending -/

def accept (response : Response) : Except Error Bytes :=
  if response.isSuccess then .ok response.payload else .error (.cardStatus response.status)

def transmit (command : Command) : ChannelM L Response :=
  ExceptT.mk fun ch => ch.transmit command

/-- Sends a command through the channel, which has to succeed. -/
def send (command : Command) : ChannelM L Bytes := do
  accept (← transmit command)

def transmitPlain (command : Command) : ChannelM L Response :=
  ExceptT.mk fun ch =>
    match ch.transmitPlain command with
    | (outcome, ch) => (outcome.mapError .link, ch)

/-- Sends a command through the channel when it is open, and as it is otherwise. -/
def transmitEither (command : Command) : ChannelM L Response := do
  if (← get).isEstablished then transmit command else transmitPlain command

/-! ### Channel -/

/-- Opens the channel with a challenge to the card. -/
def openWith (challenge : Block 8) : ChannelM L Unit :=
  ExceptT.mk fun ch => ch.openWith challenge

def reset : ChannelM L Unit := ExceptT.mk fun ch => ch.reset

/-! ### Selection and reading -/

/-- Selects an application and returns what it tells about itself. -/
def select (aid : Bytes) : ChannelM L Bytes := do
  let response ← ExceptT.mk fun (ch : SecureChannel L) =>
    match SecureChannel.exchangeIn "SELECT" ch.link (Command.select aid) with
    | (outcome, link) => (outcome, { ch with link })
  accept response

/-- Selects the issuer security domain, under its older name if the card does not know the current
one. -/
def selectCardManager : ChannelM L Bytes :=
  tryCatch (select Aid.securityDomain) fun e =>
    if e.status? = some .fileNotFound then select Aid.legacyCardManager else throw e

/-- Selects the issuer security domain and opens the channel. -/
def connect (challenge : Block 8) : ChannelM L Unit := do
  let _ ← selectCardManager
  openWith challenge

/-- Reads a data object, if the card has it. -/
def getData (tag : UInt16) : ChannelM L (Option Bytes) := do
  let response ← transmitEither (Command.getData tag)
  -- Cards report a missing object by either of two status words.
  if response.status.isFileNotFound || response.status.isReferencedDataNotFound then return none
  else return some (← accept response)

/-- Reads the production data, if the card has it. -/
def getCplc : ChannelM L (Option Cplc) := do
  match ← getData DataObject.cplc with
  | none => return none
  | some data => return some (← Cplc.parse data)

/-- Reads the key slots, if the card lists them. -/
def getKeySlots : ChannelM L (Option (List KeySlot)) := do
  match ← getData DataObject.keyInformation with
  | none => return none
  | some data => return some (← KeySlot.parseAll data)

/-! ### Deleting, installing, and life cycle states -/

/-- Deletes an object, and on demand everything that depends on it. -/
def delete (aid : Bytes) (related : Bool) : ChannelM L Unit := do
  let _ ← send (← Command.delete related aid)

/-- Deletes a package with all applications made from it. -/
def deletePackage (aid : Bytes) : ChannelM L Unit := delete aid true

/-- Makes an application from a module and makes it selectable. The application takes the name of
the module, no privileges and no parameters unless they are given. -/
def install (loadFile module : Bytes) (application privileges parameters : Option Bytes) :
    ChannelM L Unit := do
  let _ ← send (← Command.installForInstall loadFile module (application.getD module)
    (privileges.getD [0x00]) (parameters.getD []) [])

def makeSelectable (aid privileges : Bytes) : ChannelM L Unit := do
  let _ ← send (← Command.installSelectable aid privileges)

def setStatus (target : StatusTarget) (aid : Bytes) (state : UInt8) : ChannelM L Unit := do
  let _ ← send (Command.setStatus target.parameter state aid)

/-! ### Loading -/

/-- How far a transfer in blocks has got. -/
structure Progress where
  /-- The number of blocks that the card has accepted. -/
  done : Nat
  total : Nat
deriving DecidableEq

/-- The outcome of a transfer, and its progress after each accepted block. -/
structure LoadReport where
  /-- Whether the whole file was accepted. -/
  outcome : Except Error Unit
  progress : List Progress := []

def loadCommand (block : LoadBlock) : Command :=
  Command.load (lastBlockParameter block.last) block.number block.data

/-- Sends blocks up to the first one that is not accepted, after `done` blocks. -/
def sendBlocks (total : Nat) : Nat → List LoadBlock → StateM (SecureChannel L) LoadReport
  | _, [] => return { outcome := .ok () }
  | done, block :: rest => do
    match ← (send (loadCommand block)).run with
    | .error e => return { outcome := .error e }
    | .ok _ =>
      let report ← sendBlocks total (done + 1) rest
      return { report with progress := ⟨done + 1, total⟩ :: report.progress }

/-- The command that prepares the load of a file. -/
def installForLoad (file : LoadFile) (options : LoadOptions) : Except Error Command :=
  let hash := if options.includeHash then file.hash.toList else []
  Command.installForLoad file.aid options.securityDomain hash options.parameters options.token

/-- Refuses a file whose blocks do not fit a protected command. -/
def checkBlockSize (file : LoadFile) : ChannelM L Unit := do
  if let some session := (← get).session then
    if session.maxDataLength < file.blockSize then
      throw (.configuration
        (.loadBlockTooLong file.blockSize session.maxDataLength session.level))

/-- Checks the block size and prepares the load. -/
def prepareLoad (file : LoadFile) (options : LoadOptions) : ChannelM L Unit := do
  checkBlockSize file
  let _ ← send (← installForLoad file options)

/-- Loads a file: prepares the load and sends the blocks. -/
def loadFile (file : LoadFile) (options : LoadOptions) : StateM (SecureChannel L) LoadReport := do
  match ← (prepareLoad file options).run with
  | .error e => return { outcome := .error e }
  | .ok () => sendBlocks file.blockCount 0 file.blocks

/-! ### Identity -/

/-- The fields of an identity: issuer number, card image number and AID, as far as they are given.
-/
def identityFields (issuer image aid : Option Bytes) : Except Error Bytes := do
  let field (tag : UInt8) (value : Option Bytes) : Except Error Bytes :=
    value.elim (.ok []) (Command.taggedField tag)
  return (← field Tag.issuerNumber issuer) ++ (← field Tag.cardImageNumber image) ++
    (← field Tag.aid aid)

def storeCommands (data : Bytes) : List Command :=
  let blocks := LoadFile.pieces storeDataBlockSize data
  let count := blocks.length
  blocks.zipIdx.map fun (block, index) =>
    Command.storeData (lastBlockParameter (index + 1 == count)) index.toUInt8 block

def changeIdentity (issuer image aid : Option Bytes) : ChannelM L Unit := do
  let data ← identityFields issuer image aid
  if data.isEmpty then throw (.configuration .noIdentity)
  (storeCommands data).forM fun command => do let _ ← send command

/-! ### Keys -/

/-- Stores prepared key data. -/
def putKey (keyId replaced : UInt8) (data : Bytes) (multiple : Bool) : ChannelM L Bytes :=
  send (Command.putKey keyId replaced data false multiple)

/-- Refuses keys that do not fit the card's key slots. -/
def checkKeys (candidate : KeySet) : ChannelM L Unit := do
  match ← getKeySlots with
  | some slots => KeySlot.checkReplacement slots candidate
  | none => throw (.configuration .noKeyInformation)

/-- Refuses keys without a version of their own. -/
def checkVersion (candidate : KeySet) : Except Error Unit :=
  if candidate.version = 0 then .error (.configuration .zeroKeyVersion) else .ok ()

/-- Stores all keys of a set in one command, in the order of their ids. -/
def putKeys (candidate : KeySet) (replaced : UInt8) : ChannelM L Unit := do
  match (← get).session with
  | none => throw (.link .noSecureChannel)
  | some session =>
    let kek ← session.key .kek
    -- The card numbers the keys of one command upwards from the id of the first one.
    let keys := candidate.keys.mergeSort fun k l => k.id ≤ l.id
    let _ ← send (← Command.putKeys replaced candidate.version keys kek)

/-- Replaces the keys of a version (zero adds a version), after a look at the card's key slots. -/
def replaceKeys (candidate : KeySet) (replaced : UInt8) : ChannelM L Unit := do
  checkVersion candidate
  checkKeys candidate
  putKeys candidate replaced

/-- Replaces the keys of a version without a look at the card's key slots. -/
def replaceKeysUnchecked (candidate : KeySet) (replaced : UInt8) : ChannelM L Unit := do
  checkVersion candidate
  putKeys candidate replaced

end SmartCard.ContentManager
