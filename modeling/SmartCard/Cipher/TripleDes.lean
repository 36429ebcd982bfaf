import SmartCard.Cipher.Des
import SmartCard.Cipher.Padding

/-!
# Triple DES

Triple DES enciphers with a first key, deciphers with a second and enciphers with a third one.
Secrets of 8, 16 and 24 bytes are expanded to three keys (`TripleDes.Key.ofSecret`): a single key
stands in all three places, and a pair of keys uses its first key again in the third place.

The functions on byte strings check the data first and the secret second.
-/

namespace SmartCard.TripleDes

/-- Three DES keys in the order of their use. -/
structure Key where
  first : Block 8
  second : Block 8
  third : Block 8
deriving DecidableEq

/-- Expands a secret of one, two or three DES keys. -/
def Key.ofSecret (secret : Bytes) : Except CipherFault Key :=
  match Block.ofList? 8 secret, Block.ofList? 16 secret, Block.ofList? 24 secret with
  | some key, _, _ => .ok ⟨key, key, key⟩
  | _, some pair, _ => .ok ⟨pair.leftHalf, pair.rightHalf, pair.leftHalf⟩
  | _, _, some three => .ok ⟨three.slice 0 8, three.slice 8 8, three.slice 16 8⟩
  | none, none, none => .error .tripleDesKeyLength

def Key.toBlock (key : Key) : Block 24 := (key.first.append key.second).append key.third

def cipher (key : Key) : BlockCipher 8 :=
  let first := Des.cipher key.first
  let second := Des.cipher key.second
  let third := Des.cipher key.third
  { encrypt := fun b => third.encrypt (second.decrypt (first.encrypt b))
    decrypt := fun b => first.decrypt (second.encrypt (third.decrypt b)) }

def ofSecret (secret : Bytes) : Except CipherFault (BlockCipher 8) :=
  (Key.ofSecret secret).map cipher

def ecbEncrypt (secret data : Bytes) : Except CipherFault Bytes := do
  let blocks ← Padding.aligned 8 data
  let c ← ofSecret secret
  return Block.join (c.ecbEncrypt blocks)

def ecbDecrypt (secret data : Bytes) : Except CipherFault Bytes := do
  let blocks ← Padding.aligned 8 data
  let c ← ofSecret secret
  return Block.join (c.ecbDecrypt blocks)

def cbcEncrypt (secret : Bytes) (iv : Block 8) (data : Bytes) : Except CipherFault Bytes := do
  let blocks ← Padding.aligned 8 data
  let c ← ofSecret secret
  return Block.join (c.cbcEncrypt iv blocks)

def cbcDecrypt (secret : Bytes) (iv : Block 8) (data : Bytes) : Except CipherFault Bytes := do
  let blocks ← Padding.aligned 8 data
  let c ← ofSecret secret
  return Block.join (c.cbcDecrypt iv blocks)

end SmartCard.TripleDes
