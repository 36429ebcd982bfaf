import SmartCard.Cipher.Derivation
import SmartCard.Key.Set

/-!
# Session keys

SCP02 and SCP03 derive fresh keys for every session.

* `KeySet.scp02Session` derives triple DES keys from the card's sequence counter, one for each role;
* `KeySet.scp03Session` derives AES keys from the two challenges, and carries the static key
  encryption key over.

The answer MAC key is derived from its own static key, or else from the static key of the command
MAC under id zero (`KeySet.answerMacSource`). Every static key is looked up before the first session
key is derived. -/

namespace SmartCard.KeySet

/-- The key for a role, with the master key standing in. -/
def required (s : KeySet) (usage : KeyUsage) : Except Error Key :=
  match s.get? usage with
  | some k => .ok k
  | none => .error (.configuration (.missingKey s.name usage))

def answerMacSource (s : KeySet) : Except Error Key :=
  match s.find? .rmac with
  | some k => .ok k
  | none => do
    let source ← s.required .mac
    Key.make 0 .rmac source.cipher source.secret

def scp02EncTag : Block 2 := ⟨[0x01, 0x82], rfl⟩

def scp02MacTag : Block 2 := ⟨[0x01, 0x01], rfl⟩

def scp02KekTag : Block 2 := ⟨[0x01, 0x81], rfl⟩

def scp02RmacTag : Block 2 := ⟨[0x01, 0x02], rfl⟩

/-- An SCP02 session key: the static key enciphers a tag for the role and the sequence counter. -/
def scp02Key (source : Key) (usage : KeyUsage) (tag sequence : Block 2) : Except Error Key := do
  if source.cipher = .aes then throw (.unsupported .scp02Aes)
  let secret ← (Derivation.fromSequence source.secret tag sequence).mapError .cipher
  source.derive usage .des3 secret.toList

/-- The session keys of SCP02 for a sequence counter. -/
def scp02Session (s : KeySet) (sequence : Block 2) : Except Error KeySet := do
  let enc ← s.required .enc
  let mac ← s.required .mac
  let kek ← s.required .kek
  let rmac ← s.answerMacSource
  [(KeyUsage.enc, scp02EncTag, enc), (.mac, scp02MacTag, mac), (.kek, scp02KekTag, kek),
      (.rmac, scp02RmacTag, rmac)].foldlM
    (fun session (usage, tag, source) => do
      session.insert (← scp02Key source usage tag sequence))
    (empty (s.name ++ "/scp02") s.version s.diversification)

/-- The purpose byte of the SCP03 encryption key. -/
def scp03EncPurpose : UInt8 := 0x04

/-- The purpose byte of the SCP03 command MAC key. -/
def scp03MacPurpose : UInt8 := 0x06

/-- The purpose byte of the SCP03 answer MAC key. -/
def scp03RmacPurpose : UInt8 := 0x07

/-- An SCP03 session key: as many bytes as the static key has, derived for a purpose from the
context of the session. -/
def scp03Key (source : Key) (usage : KeyUsage) (purpose : UInt8) (context : Bytes) :
    Except Error Key := do
  let bits := (source.length * 8).toUInt16
  let secret ← (Derivation.counterMode source.secret purpose context bits).mapError .cipher
  source.derive usage .aes secret

/-- The session keys of SCP03 for a context, which is the host challenge followed by the card
challenge. -/
def scp03Session (s : KeySet) (context : Bytes) : Except Error KeySet := do
  let enc ← s.required .enc
  let mac ← s.required .mac
  let rmac ← s.answerMacSource
  let session ← [(KeyUsage.enc, scp03EncPurpose, enc), (.mac, scp03MacPurpose, mac),
      (.rmac, scp03RmacPurpose, rmac)].foldlM
    (fun session (usage, purpose, source) => do
      session.insert (← scp03Key source usage purpose context))
    (empty (s.name ++ "/scp03") s.version s.diversification)
  -- The key encryption key is no session key: it keeps its cipher and its secret.
  let kek ← s.required .kek
  session.insert (← kek.derive .kek kek.cipher kek.secret)

end SmartCard.KeySet
