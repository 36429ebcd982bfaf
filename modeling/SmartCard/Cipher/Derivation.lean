import SmartCard.Cipher.Cmac
import SmartCard.Cipher.TripleDes

/-!
# Derived secrets

Session secrets are derived from static ones in two ways:

* `Derivation.fromSequence` enciphers a tag and the card's sequence counter with triple DES;
* `Derivation.counterMode` is the key derivation of NIST SP 800-108 in counter mode over AES-CMAC.
  Each block of the result is the MAC of the same fields with the number of the block
  (`Derivation.counterInput`).

The check value of a secret (`CheckValue`) is the start of an enciphered constant block. It lets a
card confirm that a key arrived intact.
-/

namespace SmartCard

namespace Derivation

/-- The chained triple DES encryption of tag, sequence counter and twelve zeros. -/
def fromSequence (secret : Bytes) (tag sequence : Block 2) : Except CipherFault (Block 16) := do
  let c ← TripleDes.ofSecret secret
  let head : Block 8 := (tag.append sequence).append (Block.zero 4)
  return ⟨Block.join (c.cbcEncrypt (Block.zero 8) [head, Block.zero 8]), by simp⟩

/-- What the MAC of one derived block covers: eleven zeros, the constant that names the purpose, a
separator, the length of the whole result in bits, the number of the block, and the context. -/
def counterInput (constant : UInt8) (context : Bytes) (bits : UInt16) (number : UInt8) : Bytes :=
  List.replicate 11 0 ++ [constant, 0] ++ (BigEndian.ofUInt16 bits).toList ++ [number] ++ context

def counterBlock (secret : Bytes) (constant : UInt8) (context : Bytes) (bits : UInt16)
    (number : UInt8) : Except CipherFault (Block 16) :=
  Cmac.aes secret (counterInput constant context bits number)

/-- As many derived bytes as fit into `bits`, from blocks numbered from 1 on. -/
def counterMode (secret : Bytes) (constant : UInt8) (context : Bytes) (bits : UInt16) :
    Except CipherFault Bytes := do
  let length := bits.toNat / 8
  let count := (length + 15) / 16
  let blocks ← (List.range count).mapM fun i =>
    counterBlock secret constant context bits (i + 1).toUInt8
  return (Block.join blocks).take length

end Derivation

namespace CheckValue

/-- The first three bytes of the zero block under triple DES. -/
def tripleDes (secret : Bytes) : Except CipherFault (Block 3) := do
  let c ← TripleDes.ofSecret secret
  return (c.encrypt (Block.zero 8)).slice 0 3

/-- The first three bytes of the block of ones under AES. -/
def aes (secret : Bytes) : Except CipherFault (Block 3) := do
  let c ← Aes.ofSecret secret
  return (c.encrypt (Block.fill 16 1)).slice 0 3

end CheckValue

end SmartCard
