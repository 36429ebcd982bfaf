import SmartCard.Cipher.Derivation
import SmartCard.Key.Basic
import SmartCard.Platform.Commands

/-!
# Storing keys

PUT KEY carries new keys to the card, each enciphered under the key encryption key of the session
and followed by its check value (`Key.envelope`). A generic key takes on the cipher of the key it is
enciphered under, and a generic key encryption key takes on the cipher of the key that it enciphers.
-/

namespace SmartCard

namespace Key

/-- The block of a triple DES key: its type, its enciphered secret and its check value. -/
def tripleDesEnvelope (key kek : Key) : Except CipherFault Bytes := do
  let enciphered ← TripleDes.ecbEncrypt kek.secret key.secret
  let check ← CheckValue.tripleDes key.secret
  return [0x80, enciphered.length.toUInt8] ++ enciphered ++ [0x03] ++ check.toList

/-- The block of an AES key: its type, its length with its enciphered secret, and its check value.
-/
def aesEnvelope (key kek : Key) : Except CipherFault Bytes := do
  let enciphered ← Aes.cbcEncrypt kek.secret (Block.zero 16) key.secret
  let check ← CheckValue.aes key.secret
  return [0x88, enciphered.length.toUInt8 + 1, key.length.toUInt8] ++ enciphered ++ [0x03] ++
    check.toList

/-- The block of a key under a key encryption key. -/
def envelope (key kek : Key) : Except Error Bytes :=
  match key.cipher, kek.cipher with
  | .aes, .aes | .generic, .aes | .aes, .generic => (key.aesEnvelope kek).mapError .cipher
  | .aes, _ => .error (.unsupported (.aesUnder key.id kek.cipher))
  | _, .aes => .error (.unsupported (.underAes key.cipher key.id))
  | _, _ => (key.tripleDesEnvelope kek).mapError .cipher

end Key

namespace Command

/-- Stores prepared key data, replacing keys of a version (zero adds a version) from an id on. -/
def putKey (keyId replaced : UInt8) (data : Bytes) (more multiple : Bool) : Command :=
  (globalPlatform Instruction.putKey (replaced ||| if more then 0x80 else 0x00)
    (keyId ||| if multiple then 0x80 else 0x00) data).withLe 0

/-- Stores keys under a new version in one command, in the given order. -/
def putKeys (replaced version : UInt8) (keys : List Key) (kek : Key) : Except Error Command :=
  match keys with
  | [] => .error (.configuration .noKeys)
  | first :: _ => do
    -- One key that cannot be enciphered keeps all of them from being sent.
    let blocks ← keys.mapM (·.envelope kek)
    return putKey first.id replaced (version :: blocks.flatten) false (1 < keys.length)

end Command

end SmartCard
