import SmartCard.Proofs.Cipher.Messages

/-!
# Where the two MACs of the triple DES protocols coincide

`Mac.triple` chains with triple DES over all blocks of the padded message. `Mac.retail` chains with
single DES under the first key, and enciphers only the last block with triple DES. What they have in
common is that last step, and it can be undone. So under one secret the two MACs of a message are
equal exactly if the chains in front of its last block are
(`Mac.retail_eq_triple_iff`). That is the case

* if the secret is a single DES key, because triple DES under three equal keys is single DES: the
  decryption in the middle undoes the encryption before it (`TripleDes.encrypt_same`);
* if the message has less than eight bytes, because then there is nothing in front of the last block
  (`Padding.blocks_of_lt`).

The same cancellation makes the two ways to encipher a chaining value agree. `Mac.coincides` has all
cases together, with those in which neither MAC exists. -/

namespace SmartCard

/-! ### Chains -/

theorem BlockCipher.cbcMac_append_singleton {n : Nat} (c : BlockCipher n) (iv : Block n)
    (blocks : List (Block n)) (last : Block n) :
    c.cbcMac iv (blocks ++ [last]) = c.encrypt (c.cbcMac iv blocks ^^^ last) := by
  unfold cbcMac
  rw [List.foldl_append]
  rfl

namespace Padding

/-- A padded message has a last block. -/
theorem exists_blocks_eq (message : Bytes) :
    ∃ front last, blocks 8 message = front ++ [last] := by
  -- without blocks there would be no padding, and there is always some
  have hne : blocks 8 message ≠ [] := by
    intro hnil
    apply pad_ne_nil 8 message
    rw [← join_blocks (by decide) message, hnil]
    rfl
  exact ⟨_, _, (List.dropLast_append_getLast hne).symm⟩

/-- **A message of less than eight bytes is one block.** -/
theorem blocks_of_lt {message : Bytes} (hshort : message.length < 8) {front : List (Block 8)}
    {last : Block 8} (h : blocks 8 message = front ++ [last]) : front = [] := by
  have hlen : (front.length + 1) * 8 = 8 := by
    calc (front.length + 1) * 8
        = (Block.join (blocks 8 message)).length := by
          rw [h, Block.length_join, List.length_append, List.length_singleton]
      _ = 8 * (message.length / 8 + 1) := by
          rw [join_blocks (by decide), length_pad (by decide)]
      _ = 8 := by rw [Nat.div_eq_of_lt hshort]
  apply List.eq_nil_of_length_eq_zero
  omega

end Padding

/-! ### Single DES as triple DES -/

namespace TripleDes

/-- **Triple DES under three equal keys is single DES.** -/
theorem encrypt_same (key block : Block 8) :
    (cipher ⟨key, key, key⟩).encrypt block = (Des.cipher key).encrypt block := by
  calc (cipher ⟨key, key, key⟩).encrypt block
      = (Des.cipher key).encrypt ((Des.cipher key).decrypt ((Des.cipher key).encrypt block)) := rfl
    _ = (Des.cipher key).encrypt block :=
        congrArg (Des.cipher key).encrypt ((Des.cipher_lawful key).decrypt_encrypt block)

/-- So are its chains. -/
theorem cbcMac_same (key iv : Block 8) (blocks : List (Block 8)) :
    (cipher ⟨key, key, key⟩).cbcMac iv blocks = (Des.cipher key).cbcMac iv blocks := by
  -- on the blocks, for the value that the chain has reached
  induction blocks generalizing iv with
  | nil => rw [BlockCipher.cbcMac_nil, BlockCipher.cbcMac_nil]
  | cons block blocks ih =>
    rw [BlockCipher.cbcMac_cons, BlockCipher.cbcMac_cons, encrypt_same]
    exact ih _

/-- A secret of eight bytes stands in all three places. -/
theorem Key.ofSecret_toList (key : Block 8) : Key.ofSecret key.toList = .ok ⟨key, key, key⟩ := by
  unfold ofSecret
  -- eight bytes are tried first, and taken for all three keys
  rw [Block.ofList?_toList]

/-- The length is all that can be wrong about a secret. -/
theorem Key.eq_of_ofSecret_eq_error {secret : Bytes} {fault : CipherFault}
    (h : Key.ofSecret secret = .error fault) : fault = .tripleDesKeyLength := by
  unfold ofSecret at h
  split at h
  case h_1 | h_2 | h_3 => cases h
  case h_4 =>
    cases h
    rfl

theorem Key.ofSecret_of_not_usable {secret : Bytes} (h : ¬Usable secret) :
    Key.ofSecret secret = .error .tripleDesKeyLength := by
  cases hkey : Key.ofSecret secret with
  | ok key => exact absurd ⟨key, hkey⟩ h
  | error fault => rw [Key.eq_of_ofSecret_eq_error hkey]

end TripleDes

/-! ### The two MACs -/

namespace Mac

variable {secret message : Bytes} {icv : Block 8} {key : TripleDes.Key} {front : List (Block 8)}
  {last : Block 8}

/-- The chain of triple DES, over all blocks. -/
theorem triple_eq (hkey : TripleDes.Key.ofSecret secret = .ok key) (icv : Block 8)
    (message : Bytes) : triple secret icv message =
      -- the MAC is the last block of the enciphered message, which is what the chain ends in
      .ok ((TripleDes.cipher key).cbcMac icv (Padding.blocks 8 message)) := by
  have hcipher : TripleDes.ofSecret secret = .ok (TripleDes.cipher key) := by
    rw [TripleDes.ofSecret, hkey]
    rfl
  rw [← BlockCipher.getLastD_cbcEncrypt, triple, hcipher]
  rfl

/-- The chain of single DES in front of the last block, which is enciphered with triple DES. -/
theorem retail_eq (hkey : TripleDes.Key.ofSecret secret = .ok key)
    (hblocks : Padding.blocks 8 message = front ++ [last]) (icv : Block 8) :
    retail secret icv message =
      .ok ((TripleDes.cipher key).encrypt ((Des.cipher key.first).cbcMac icv front ^^^ last)) := by
  rw [retail, hkey]
  simp only [hblocks, List.dropLast_concat, List.getLastD_concat]
  rfl

/-- **The MACs are equal exactly if the chains in front of the last block are.** -/
theorem retail_eq_triple_iff (hkey : TripleDes.Key.ofSecret secret = .ok key)
    (hblocks : Padding.blocks 8 message = front ++ [last]) :
    retail secret icv message = triple secret icv message ↔
      (Des.cipher key.first).cbcMac icv front = (TripleDes.cipher key).cbcMac icv front := by
  rw [retail_eq hkey hblocks, triple_eq hkey, hblocks, BlockCipher.cbcMac_append_singleton,
    Except.ok.injEq]
  constructor
  · intro h
    -- the last encryption is undone, and then the last block is taken out
    have hchain := (TripleDes.cipher_lawful key).encrypt_inj h
    rw [Block.xor_comm, Block.xor_comm _ last] at hchain
    exact Block.xor_left_cancel hchain
  · intro h
    rw [h]

end Mac

/-! ### Chaining values -/

namespace Icv

variable {secret : Bytes} {key : Block 8}

theorem encryptSingle_eq (hkey : secret.take 8 = key.toList) (icv : Block 8) :
    encryptSingle secret icv = .ok ((Des.cipher key).encrypt icv) := by
  rw [encryptSingle, hkey, Block.ofList?_toList]

theorem encryptTriple_eq (key icv : Block 8) :
    encryptTriple key.toList icv = .ok ((Des.cipher key).encrypt icv) := by
  have hcipher : TripleDes.ofSecret key.toList = .ok (TripleDes.cipher ⟨key, key, key⟩) := by
    rw [TripleDes.ofSecret, TripleDes.Key.ofSecret_toList]
    rfl
  rw [encryptTriple, hcipher, ← TripleDes.encrypt_same]
  rfl

end Icv

/-- Enciphering the bytes of one block is enciphering the block. -/
theorem TripleDes.ecbEncrypt_block (secret : Bytes) (block : Block 8) :
    ecbEncrypt secret block.toList =
      (Icv.encryptTriple secret block).map Block.toList := by
  have hblocks : Padding.aligned 8 block.toList = .ok [block] := by
    -- one block needs no padding, and stands alone when it is split
    have hjoin : Block.join [block] = block.toList := List.append_nil _
    rw [← hjoin, Padding.aligned_join (by decide)]
  unfold ecbEncrypt Icv.encryptTriple
  rw [hblocks]
  cases ofSecret secret with
  | error fault => rfl
  | ok c => exact congrArg Except.ok (List.append_nil (c.encrypt block).toList)

/-! ### All cases -/

namespace Mac

/-- **What the two MACs and their chaining values have in common** under one secret. -/
structure Coincides (secret : Bytes) (icv : Block 8) (message : Bytes) : Prop where
  /-- Under a single DES key each of them is the chained MAC of single DES. -/
  single : ∀ key : Block 8, secret = key.toList →
    retail secret icv message = .ok ((Des.cipher key).cbcMac icv (Padding.blocks 8 message)) ∧
    triple secret icv message = .ok ((Des.cipher key).cbcMac icv (Padding.blocks 8 message))
  /-- Under every secret they agree on a message that fits into one block. -/
  short : secret.length ∈ [8, 16, 24] → message.length < 8 →
    ∃ mac, retail secret icv message = .ok mac ∧ triple secret icv message = .ok mac
  /-- A chaining value is enciphered with the first eight bytes of the secret alone. -/
  icv_single : secret.length ∈ [8, 16, 24] → ∃ sealed,
    Icv.encryptSingle secret icv = .ok sealed ∧
    TripleDes.ecbEncrypt (secret.take 8) icv.toList = .ok sealed.toList
  icv_triple : secret.length = 8 → ∃ sealed,
    Icv.encryptSingle secret icv = .ok sealed ∧ Icv.encryptTriple secret icv = .ok sealed
  /-- A secret of any other length makes neither. -/
  unusable : secret.length ∉ [8, 16, 24] →
    retail secret icv message = .error .tripleDesKeyLength ∧
    triple secret icv message = .error .tripleDesKeyLength

/-- **Where the two MACs coincide.** For every secret, every initial value and every message the
laws of `Coincides` hold. -/
theorem coincides (secret : Bytes) (icv : Block 8) (message : Bytes) :
    Coincides secret icv message := by
  -- the statement names lengths, and the lemmas what they are good for
  have husable : TripleDes.Usable secret ↔ secret.length ∈ [8, 16, 24] := by
    rw [TripleDes.usable_iff]
    simp
  obtain ⟨front, last, hblocks⟩ := Padding.exists_blocks_eq message
  refine ⟨?single, ?short, ?icv_single, ?icv_triple, ?unusable⟩
  case single =>
    intro key hsecret
    have hkey := TripleDes.Key.ofSecret_toList key
    rw [← hsecret] at hkey
    have htriple := triple_eq hkey icv message
    rw [TripleDes.cbcMac_same] at htriple
    have hsame : retail secret icv message = triple secret icv message :=
      -- the chains agree block by block, so the MACs do
      (retail_eq_triple_iff hkey hblocks).2 (TripleDes.cbcMac_same key icv front).symm
    exact ⟨hsame.trans htriple, htriple⟩
  case short =>
    intro hlen hshort
    obtain ⟨key, hkey⟩ := husable.2 hlen
    have hfront : front = [] := Padding.blocks_of_lt hshort hblocks
    -- without blocks in front of the last one both chains are where they started
    have hsame : retail secret icv message = triple secret icv message := by
      rw [retail_eq_triple_iff hkey hblocks, hfront, BlockCipher.cbcMac_nil,
        BlockCipher.cbcMac_nil]
    have htriple := triple_eq hkey icv message
    exact ⟨_, hsame.trans htriple, htriple⟩
  case icv_single =>
    intro hlen
    -- whatever secret is usable, eight bytes of it are there
    have hstart : (secret.take 8).length = 8 := by
      have := (husable.2 hlen).length_le
      rw [List.length_take]
      omega
    obtain ⟨key, hkey⟩ : ∃ key : Block 8, secret.take 8 = key.toList := ⟨⟨_, hstart⟩, rfl⟩
    refine ⟨_, Icv.encryptSingle_eq hkey icv, ?_⟩
    rw [hkey, TripleDes.ecbEncrypt_block, Icv.encryptTriple_eq]
    rfl
  case icv_triple =>
    intro hlen
    obtain ⟨key, rfl⟩ : ∃ key : Block 8, secret = key.toList := ⟨⟨secret, hlen⟩, rfl⟩
    have hkey : key.toList.take 8 = key.toList := List.take_of_length_le (Nat.le_of_eq hlen)
    exact ⟨_, Icv.encryptSingle_eq hkey icv, Icv.encryptTriple_eq key icv⟩
  case unusable =>
    intro hlen
    have hkey := TripleDes.Key.ofSecret_of_not_usable (mt husable.1 hlen)
    refine ⟨?_, ?_⟩
    · rw [retail, hkey]
      rfl
    · rw [triple, TripleDes.ofSecret, hkey]
      rfl

/-- Two different DES keys. -/
def twoKeys : Bytes := List.replicate 8 0x01 ++ List.replicate 8 0x20

/-- Two bytes have one MAC under two keys, and eight bytes have one under the first of them. -/
theorem coincides_twoKeys :
    (∃ mac, retail twoKeys (Block.zero 8) [0x84, 0x82] = .ok mac ∧
      triple twoKeys (Block.zero 8) [0x84, 0x82] = .ok mac) ∧
    ∃ mac, retail (twoKeys.take 8) (Block.zero 8) (List.replicate 8 0) = .ok mac ∧
      triple (twoKeys.take 8) (Block.zero 8) (List.replicate 8 0) = .ok mac :=
  ⟨(coincides twoKeys (Block.zero 8) [0x84, 0x82]).short (by decide) (by decide),
    _, (coincides (twoKeys.take 8) (Block.zero 8) (List.replicate 8 0)).single
      ⟨twoKeys.take 8, by decide⟩ rfl⟩

end Mac

end SmartCard
