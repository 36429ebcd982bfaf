import SmartCard.Cipher.TripleDes

/-!
# MACs of the triple DES protocols

Messages are padded to 8 byte blocks and chained from an initial chaining value (`icv`):

* `Mac.triple` enciphers every block with triple DES and keeps the last enciphered block;
* `Mac.retail` chains with single DES and uses triple DES for the last block only.

A chaining value can itself be enciphered before it is used, with single DES (`Icv.encryptSingle`)
or with triple DES (`Icv.encryptTriple`). A cryptogram (`Mac.cryptogram`) is a `triple` MAC of two
challenges. Comparison of two MACs looks at every byte (`Mac.agree`). -/

namespace SmartCard

namespace Mac

/-- The last block of the chained triple DES encryption of the padded message. -/
def triple (secret : Bytes) (icv : Block 8) (message : Bytes) : Except CipherFault (Block 8) := do
  let c ← TripleDes.ofSecret secret
  return (c.cbcEncrypt icv (Padding.blocks 8 message)).getLastD icv

/-- Single DES under the first key over all blocks but the last, and triple DES on the last. -/
def retail (secret : Bytes) (icv : Block 8) (message : Bytes) : Except CipherFault (Block 8) := do
  let key ← TripleDes.Key.ofSecret secret
  let blocks := Padding.blocks 8 message
  let chain := (Des.cipher key.first).cbcMac icv blocks.dropLast
  return (TripleDes.cipher key).encrypt (chain ^^^ blocks.getLastD (Block.zero 8))

/-- The MAC that proves knowledge of a secret over two challenges. -/
def cryptogram (secret first second : Bytes) : Except CipherFault (Block 8) :=
  triple secret (Block.zero 8) (first ++ second)

/-- Whether two byte strings are equal, with the differences of all bytes gathered before the
verdict. -/
def agree (a b : Bytes) : Bool :=
  a.length == b.length && (List.zipWith (· ^^^ ·) a b).foldl (· ||| ·) 0 == 0

end Mac

namespace Icv

/-- Single DES under the first eight bytes of the MAC secret. -/
def encryptSingle (secret : Bytes) (icv : Block 8) : Except CipherFault (Block 8) :=
  match Block.ofList? 8 (secret.take 8) with
  | some key => .ok ((Des.cipher key).encrypt icv)
  | none => .error .macKeyLength

def encryptTriple (secret : Bytes) (icv : Block 8) : Except CipherFault (Block 8) := do
  let c ← TripleDes.ofSecret secret
  return c.encrypt icv

end Icv

end SmartCard
