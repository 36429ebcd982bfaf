import SmartCard.Bytes.Block
import SmartCard.Cipher.Fault

/-!
# Padding to whole blocks

A message is padded with one byte `80` and then as few zero bytes as fill its last block
(ISO/IEC 7816-4). At least one byte is always added, so that the padding can be told from the
message: reading backwards, the zeros end at the byte that starts the padding.

* `Padding.pad` writes the padding and `Padding.unpad` strips it;
* `Padding.blocks` is the padded message as blocks;
* `Padding.aligned` reads unpadded data as blocks, and refuses data that ends inside one.
-/

namespace SmartCard.Padding

/-- The message followed by `80` and the zeros that complete the last block of `n` bytes. -/
def pad (n : Nat) (message : Bytes) : Bytes :=
  message ++ 0x80 :: List.replicate (n - 1 - message.length % n) 0

/-- The message in front of the last `80`, which only zeros may follow. -/
def unpad (padded : Bytes) : Except CipherFault Bytes :=
  match padded.reverse.dropWhile (· == 0) with
  | 0x80 :: message => .ok message.reverse
  | _ => .error .padding

def blocks (n : Nat) (message : Bytes) : List (Block n) := Block.split n (pad n message)

def aligned (n : Nat) (data : Bytes) : Except CipherFault (List (Block n)) :=
  if data.length % n = 0 then .ok (Block.split n data) else .error .unaligned

/-- A padded message is a whole number of blocks. -/
theorem length_pad_mod {n : Nat} (hn : 0 < n) (message : Bytes) :
    (pad n message).length % n = 0 := by
  have hlt := Nat.mod_lt message.length hn
  have hlen : (pad n message).length = n * (message.length / n + 1) := by
    simp only [pad, List.length_append, List.length_cons, List.length_replicate]
    have := Nat.div_add_mod message.length n
    rw [Nat.mul_add]
    omega
  simp [hlen]

/-- The blocks of a padded message hold the padded message. -/
theorem join_blocks {n : Nat} (hn : 0 < n) (message : Bytes) :
    Block.join (blocks n message) = pad n message :=
  Block.join_split hn (length_pad_mod hn message)

end SmartCard.Padding
