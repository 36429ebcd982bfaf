import SmartCard.Cipher.Derivation
import SmartCard.Proofs.Cipher.Messages

/-!
# Derived secrets and what they are derived from

A block of sixteen bytes is enciphered in two halves, each on its own
(`TripleDes.ecbEncrypt_block_eq_ok_iff`). Since every secret makes a permutation of the blocks, what
was enciphered can be told from the result, and the first half of it already from the first eight
bytes (`TripleDes.leftHalf_eq_of_ecbEncrypt`), however many bytes of the result are kept.

The chained encryption of a tag and a counter tells both of them
(`Derivation.eq_of_fromSequence`). What is derived in counter mode is as long as was asked for
(`Derivation.length_of_counterMode`). -/

namespace SmartCard

/-! ### Blocks of two halves -/

theorem Block.join_halves (block : Block 16) :
    Block.join [block.leftHalf, block.rightHalf] = block.toList := by
  rw [join_cons, join_cons, join_nil, List.append_nil]
  exact congrArg toList (append_halves block)

namespace TripleDes

variable {secret : Bytes} {block block' : Block 16}

/-- Each half of a block is enciphered on its own. -/
theorem ecbEncrypt_block_eq_ok_iff {sealed : Bytes} :
    ecbEncrypt secret block.toList = .ok sealed ↔ ∃ c, ofSecret secret = .ok c ∧
      ((c.encrypt block.leftHalf).append (c.encrypt block.rightHalf)).toList = sealed := by
  -- sixteen bytes are two blocks, which this mode enciphers one by one
  unfold ecbEncrypt
  rw [← Block.join_halves, Padding.aligned_join (by decide)]
  change (ofSecret secret >>= _) = _ ↔ _
  simp only [bind_eq_ok_iff, pure_eq_ok_iff, BlockCipher.ecbEncrypt, List.map_cons, List.map_nil,
    Block.join_cons, Block.join_nil, List.append_nil, Block.toList_append]

theorem exists_ecbEncrypt_iff :
    (∃ sealed, ecbEncrypt secret block.toList = .ok sealed) ↔ Usable secret := by
  simp only [ecbEncrypt_block_eq_ok_iff]
  constructor
  · rintro ⟨_, c, hc, -⟩
    exact usable_of_ofSecret hc
  · intro husable
    obtain ⟨c, hc⟩ := husable.exists_ofSecret
    exact ⟨_, c, hc, rfl⟩

/-- **Eight bytes tell the first half** of what was enciphered. -/
theorem leftHalf_eq_of_ecbEncrypt {sealed sealed' : Bytes} {n : Nat} (hn : 8 ≤ n)
    (h : ecbEncrypt secret block.toList = .ok sealed)
    (h' : ecbEncrypt secret block'.toList = .ok sealed')
    (hsame : sealed.take n = sealed'.take n) : block.leftHalf = block'.leftHalf := by
  obtain ⟨c, hc, rfl⟩ := ecbEncrypt_block_eq_ok_iff.1 h
  obtain ⟨_, hc', rfl⟩ := ecbEncrypt_block_eq_ok_iff.1 h'
  -- one secret makes one cipher, so the blocks are what differs
  cases hc.symm.trans hc'
  have hfirst (x y : Block 8) : ((x.append y).toList.take n).take 8 = x.toList := by
    rw [List.take_take, Nat.min_eq_left hn, Block.toList_append]
    exact List.take_left' x.length_toList
  have hsealed := congrArg (List.take 8) hsame
  rw [hfirst, hfirst] at hsealed
  exact (lawful_of_ofSecret hc).encrypt_inj (Block.ext hsealed)

end TripleDes

namespace Derivation

theorem exists_fromSequence_iff {secret : Bytes} {tag sequence : Block 2} :
    (∃ made, fromSequence secret tag sequence = .ok made) ↔ TripleDes.Usable secret := by
  constructor
  · rintro ⟨made, h⟩
    obtain ⟨c, hc, -⟩ := bind_eq_ok_iff.1 h
    exact TripleDes.usable_of_ofSecret hc
  · intro husable
    obtain ⟨c, hc⟩ := husable.exists_ofSecret
    exact ⟨_, bind_eq_ok_iff.2 ⟨c, hc, rfl⟩⟩

/-- **A secret that is derived from a tag and a counter tells both.** -/
theorem eq_of_fromSequence {secret : Bytes} {tag tag' sequence sequence' : Block 2}
    {made : Block 16} (h : fromSequence secret tag sequence = .ok made)
    (h' : fromSequence secret tag' sequence' = .ok made) : tag = tag' ∧ sequence = sequence' := by
  obtain ⟨c, hc, h⟩ := bind_eq_ok_iff.1 h
  obtain ⟨_, hc', h'⟩ := bind_eq_ok_iff.1 h'
  cases hc.symm.trans hc'
  rw [pure_eq_ok_iff] at h h'
  have hjoin := congrArg Block.toList (h.trans h'.symm)
  simp only [BlockCipher.cbcEncrypt, Block.join_cons] at hjoin
  -- the first block of the chain holds all that the secret is derived from
  obtain ⟨hfirst, -⟩ := List.append_inj hjoin (by simp)
  have hplain := (TripleDes.lawful_of_ofSecret hc).encrypt_inj (Block.ext hfirst)
  have hhead := Block.xor_left_cancel hplain
  -- the tag, the counter and the zeros stand one after the other
  have hfields := congrArg Block.toList hhead
  simp only [Block.toList_append] at hfields
  obtain ⟨hfields, -⟩ := List.append_inj hfields (by simp)
  obtain ⟨htag, hsequence⟩ := List.append_inj hfields (by simp)
  exact ⟨Block.ext htag, Block.ext hsequence⟩

/-- **As many bytes are derived as were asked for.** -/
theorem length_of_counterMode {secret context derived : Bytes} {constant : UInt8} {bits : UInt16}
    (h : counterMode secret constant context bits = .ok derived) :
    derived.length = bits.toNat / 8 := by
  obtain ⟨blocks, hblocks, h⟩ := bind_eq_ok_iff.1 h
  have hcount := length_of_mapM_eq_ok hblocks
  rw [pure_eq_ok_iff] at h
  rw [List.length_range] at hcount
  -- the blocks are as many as are needed, so cutting them leaves the number asked for
  rw [← h, List.length_take, Block.length_join, hcount]
  omega

/-- Eight derived bytes are half of the first block. -/
theorem counterMode_64 (secret : Bytes) (constant : UInt8) (context : Bytes) :
    counterMode secret constant context 64 =
      (counterBlock secret constant context 64 1).map fun block => block.leftHalf.toList := by
  have hbits : (64 : UInt16).toNat / 8 = 8 := rfl
  unfold counterMode
  -- one block has room for 64 bits, so the loop over the blocks runs once
  simp only [hbits, show (8 + 15) / 16 = 1 from rfl, List.range_one, List.mapM_cons, List.mapM_nil]
  change (((counterBlock secret constant context 64 1) >>= _) >>= _) = _
  cases counterBlock secret constant context 64 1 with
  | error e => rfl
  | ok block =>
    change Except.ok ((block.toList ++ []).take 8) = _
    rw [List.append_nil]
    rfl

end Derivation

end SmartCard
