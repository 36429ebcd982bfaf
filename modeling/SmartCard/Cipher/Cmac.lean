import SmartCard.Cipher.Aes

/-!
# CMAC

CMAC (RFC 4493, NIST SP 800-38B) authenticates messages of any length with a block cipher. It is a
chained MAC whose last block is masked: with one mask when the message ends with a whole block, and
with another when the last block had to be padded. The masks are the enciphered zero block, doubled
once and twice in the field of 128 bit blocks (`Cmac.double`).
-/

namespace SmartCard.Cmac

/-- Shifts a byte string to the left by one bit. -/
def shiftLeft : Bytes → Bytes
  | [] => []
  | [b] => [b <<< 1]
  | b :: c :: rest => (b <<< 1 ||| c >>> 7) :: shiftLeft (c :: rest)

@[simp] theorem length_shiftLeft (s : Bytes) : (shiftLeft s).length = s.length := by
  fun_induction shiftLeft s <;> simp_all

/-- What doubling adds when a bit is shifted out. -/
def reduction : Block 16 := ⟨List.replicate 15 0 ++ [0x87], rfl⟩

/-- Doubles a block in the field of 128 bit blocks. -/
def double (b : Block 16) : Block 16 :=
  let shifted : Block 16 := ⟨shiftLeft b.toList, by simp⟩
  if b.toList.headD 0 &&& 0x80 = 0 then shifted else shifted ^^^ reduction

/-- The blocks that the MAC chains over: those of the message, the last one masked. -/
def maskedBlocks (c : BlockCipher 16) (message : Bytes) : List (Block 16) :=
  let once := double (c.encrypt (Block.zero 16))
  -- The empty message has no whole block, and is padded like one that ends inside a block.
  let whole := message ≠ [] ∧ message.length % 16 = 0
  let blocks := if whole then Block.split 16 message else Padding.blocks 16 message
  let mask := if whole then once else double once
  blocks.dropLast ++ [blocks.getLastD (Block.zero 16) ^^^ mask]

def mac (c : BlockCipher 16) (message : Bytes) : Block 16 :=
  c.cbcMac (Block.zero 16) (maskedBlocks c message)

/-- The MAC of a message with AES under a secret. -/
def aes (secret message : Bytes) : Except CipherFault (Block 16) := do
  let c ← Aes.ofSecret secret
  return mac c message

end SmartCard.Cmac
