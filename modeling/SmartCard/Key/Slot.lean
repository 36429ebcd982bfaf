import SmartCard.Key.Set
import SmartCard.Tlv.Ber

/-!
# Key slots

A card lists the key slots of its security domain in a key information template. Each slot has an
id, a key version, and the type and size of the key that it holds (`KeySlot`). Slots whose keys have
several components are not provided for.

* `KeySlot.parseAll` reads a template, or a bare list of slots;
* `KeySlot.admits` says whether a key could be the one in a slot;
* `KeySlot.usable` says whether a key set has keys for a channel;
* `KeySlot.checkReplacement` says whether a key set can replace the keys of one version: each slot
  of that version needs a key, and each key needs a slot. -/

namespace SmartCard

/-- A place for a key on a card. -/
structure KeySlot where
  keyId : UInt8
  /-- The version of the key; zero stands for any version. -/
  keyVersion : UInt8
  keyType : UInt8
  size : UInt8
deriving DecidableEq, Repr

namespace KeySlot

/-! ### Reading -/

def templateTag : Bytes := [0xE0]

def slotTag : Bytes := [0xC0]

/-- Reads a slot: id, version, and one pair of type and size. -/
def parse (s : Bytes) : Except Error KeySlot :=
  match s with
  | keyId :: keyVersion :: components =>
    match components with
    | [keyType, size] => .ok ⟨keyId, keyVersion, keyType, size⟩
    | _ =>
      if components.isEmpty || components.length % 2 != 0 then
        .error (.protocol (.malformedKeyComponents keyId))
      else .error (.unsupported (.keyComponents keyId keyVersion (components.length / 2)))
  | _ => .error (.protocol .keyInformationTooShort)

def ofObject (object : Ber.Object) : Except Error KeySlot :=
  match object.value? with
  | some value => parse value
  | none => .error (.protocol .constructedKeyInformation)

/-- The objects of a template, or of a bare list. -/
def templateObjects (objects : List Ber.Object) : List Ber.Object :=
  match objects with
  | [object] => if object.tag = templateTag then object.parts else [object]
  | objects => objects

/-- Reads the slots of a template or of a bare list in the card's order; other objects are passed
over. -/
def parseAll (s : Bytes) : Except Error (List KeySlot) := do
  let objects ← (Ber.readAll s).mapError .ofTlv
  ((templateObjects objects).filter (·.tag = slotTag)).mapM ofObject

/-! ### Matching -/

/-- The cipher of the key type, if it is known. -/
def cipher? (slot : KeySlot) : Option KeyCipher := KeyCipher.ofKeyType? slot.keyType

/-- Whether a key has the cipher and the length of the slot; a generic key has every cipher. -/
def accepts (slot : KeySlot) (k : Key) : Bool :=
  (k.cipher == .generic || slot.cipher? == some k.cipher) && k.length == slot.size.toNat

/-- Whether a key of a set with this version could be the one in the slot. -/
def admits (slot : KeySlot) (k : Key) (version : UInt8) : Bool :=
  (k.id == 0 || k.id == slot.keyId) &&
    (slot.keyVersion == 0 || version == 0 || slot.keyVersion == version) && slot.accepts k

/-- The key versions of some slots, each where it occurs first. -/
def versions (slots : List KeySlot) : List UInt8 := (slots.map keyVersion).eraseDups

/-- Whether a set has keys for a channel: the keys for encryption, MAC and key encryption each match
a slot. -/
def usable (slots : List KeySlot) (s : KeySet) : Bool :=
  [KeyUsage.enc, .mac, .kek].all fun usage =>
    (s.get? usage).any fun k => slots.any (·.admits k s.version)

/-! ### Replacement -/

/-- The version whose keys a set would replace: its own when the card lists it, and otherwise the
first one listed. -/
def replacedVersion? (slots : List KeySlot) (candidate : KeySet) : Option UInt8 :=
  if slots.any (·.keyVersion == candidate.version) then some candidate.version
  else slots.head?.map keyVersion

/-- Refuses a set without a fitting key for the slot. -/
def checkSlot (candidate : KeySet) (slot : KeySlot) : Except Error Unit :=
  match candidate.keys.find? (·.id == slot.keyId) with
  | none => .error (.configuration (.missingKeyId candidate.name slot.keyId))
  | some k =>
    if slot.accepts k then .ok ()
    else
      .error (.configuration
        (.slotMismatch k.cipher k.id k.length slot.keyType slot.size.toNat))

/-- Refuses a set that cannot replace the keys of one version. -/
def checkReplacement (slots : List KeySlot) (candidate : KeySet) : Except Error Unit :=
  match replacedVersion? slots candidate with
  | none => .error (.configuration .noKeySlots)
  | some version => do
    let group := slots.filter (·.keyVersion == version)
    group.forM (checkSlot candidate)
    -- Each slot of the group has found its key; a key that none of them asked for has no place.
    match candidate.keys.find? fun k => !group.any (·.keyId == k.id) with
    | some extra => throw (.configuration (.missingSlot extra.usage extra.id))
    | none => return ()

end KeySlot

end SmartCard
