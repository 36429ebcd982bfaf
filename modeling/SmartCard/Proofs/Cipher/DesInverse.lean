import SmartCard.Cipher.TripleDes
import SmartCard.Proofs.Bytes.BigEndian

/-!
# DES deciphers what it enciphers

`Des.cipher_lawful` and `TripleDes.cipher_lawful` say that the two maps of either cipher are inverse
to each other under every key. The rounds in the middle of DES are undone by `Des.feistel_reverse`,
which asks nothing of the round function. What is left is the way in and out of them.

* `Des.wire` moves bits about as its table says (`bit_wire`), so two tables that undo each other
  give wirings that undo each other (`wire_wire`). That is checked for the initial and the final
  permutation, table against table.
* A word is the two halves that it is cut into (`halves_join`, `join_halves`).
* A block is the word that it is read as. -/

namespace SmartCard

namespace Des

/-! ### Wiring, bit by bit -/

/-- The bit `i` of a word, counted from the least significant one on. -/
def bit (x : UInt64) (i : Nat) : Bool := x.toBitVec.getLsbD i

theorem ext_bit {x y : UInt64} (h : ∀ i < 64, bit x i = bit y i) : x = y := by
  apply UInt64.toBitVec_inj.1
  exact BitVec.eq_of_getLsbD_eq h

private theorem bit_push {x acc : UInt64} {p j : Nat} (hp : p < 64) (hj : j < 64) :
    bit (acc <<< 1 ||| (x >>> p.toUInt64 &&& 1)) j =
      if j = 0 then bit x p else bit acc (j - 1) := by
  unfold bit
  simp only [UInt64.toBitVec_or, UInt64.toBitVec_shiftLeft, UInt64.toBitVec_and,
    UInt64.toBitVec_shiftRight]
  cases j with
  -- the new bit is the lowest one, and every other bit has moved up by one
  | zero => simp [Nat.mod_eq_of_lt hp]
  | succ j => simp [hj, BitVec.getLsbD_eq_getElem (show j < 64 by omega)]

private theorem wire_append_singleton (width : Nat) (table : List Nat) (p : Nat) (x : UInt64) :
    wire width (table ++ [p]) x =
      wire width table x <<< 1 ||| (x >>> (width - p).toUInt64 &&& 1) := by
  unfold wire
  rw [List.foldl_append, List.foldl_cons, List.foldl_nil]

/-- **What a wiring does to a bit.** A table lists its bits from the top, so the bits of the result
are read from the end of the table. -/
theorem bit_wire {width : Nat} {table : List Nat} (hwidth : width ≤ 64)
    (htable : ∀ p ∈ table, 0 < p) (x : UInt64) {j : Nat} (hj : j < 64) :
    bit (wire width table.reverse x) j = (table[j]?).elim false fun p => bit x (width - p) := by
  -- the last entry of the table makes the lowest bit, so the table is built at its end
  induction table generalizing j with
  | nil => simp [wire, bit]
  | cons p table ih =>
    have hp : width - p < 64 := by have := htable p (by simp); omega
    rw [List.reverse_cons, wire_append_singleton, bit_push hp hj]
    cases j with
    | zero => simp
    | succ j =>
      rw [if_neg (by omega), ih (fun q hq => htable q (by simp [hq])) (by omega)]
      simp

/-- **Tables that undo each other.** Bit `i` comes from where the outer table points, and there it
comes from bit `i` again. -/
theorem wire_wire {outer inner : List Nat} (houter : ∀ p ∈ outer, 0 < p)
    (hinner : ∀ p ∈ inner, 0 < p)
    (h : ∀ i < 64, (outer.reverse[i]?).bind (fun p => inner.reverse[64 - p]?) = some (64 - i))
    (x : UInt64) : wire 64 outer (wire 64 inner x) = x := by
  apply ext_bit
  intro i hi
  -- bit `i` comes from position `p` of the inner word, and that one from bit `i` of `x`
  obtain ⟨p, hp, hq⟩ := Option.bind_eq_some_iff.1 (h i hi)
  have hpos : 0 < p := houter p (List.mem_reverse.1 (List.mem_of_getElem? hp))
  have hwire := bit_wire (Nat.le_refl 64) (fun q hq => houter q (List.mem_reverse.1 hq))
    (wire 64 inner x) hi
  have hwire' := bit_wire (Nat.le_refl 64) (fun q hq => hinner q (List.mem_reverse.1 hq))
    x (show 64 - p < 64 by omega)
  rw [List.reverse_reverse] at hwire hwire'
  rw [hwire, hp, Option.elim_some, hwire', hq, Option.elim_some]
  congr 1
  omega

theorem wire_final_initial (x : UInt64) :
    wire 64 finalPermutation (wire 64 initialPermutation x) = x :=
  wire_wire (by decide) (by decide) (by decide +kernel) x

theorem wire_initial_final (x : UInt64) :
    wire 64 initialPermutation (wire 64 finalPermutation x) = x :=
  wire_wire (by decide) (by decide) (by decide +kernel) x

/-! ### Halves of a word -/

/-- The two halves of a word, the high one first. -/
def halves (x : UInt64) : UInt32 × UInt32 := ((x >>> 32).toUInt32, x.toUInt32)

/-- The word of two halves. -/
def join (h : UInt32 × UInt32) : UInt64 := h.1.toUInt64 <<< 32 ||| h.2.toUInt64

theorem toNat_join (h : UInt32 × UInt32) : (join h).toNat = h.1.toNat * 2 ^ 32 + h.2.toNat := by
  have hhigh := h.1.toNat_lt
  have hlow := h.2.toNat_lt
  unfold join
  rw [UInt64.toNat_or, UInt64.toNat_shiftLeft, UInt32.toNat_toUInt64, UInt32.toNat_toUInt64]
  change h.1.toNat <<< 32 % 2 ^ 64 ||| h.2.toNat = _
  -- the low half needs its 32 bits and no more, so `|||` is a sum
  rw [Nat.mod_eq_of_lt (by rw [Nat.shiftLeft_eq]; omega),
    ← Nat.shiftLeft_add_eq_or_of_lt (by omega), Nat.shiftLeft_eq]

theorem toNat_halves (x : UInt64) :
    (halves x).1.toNat = x.toNat / 2 ^ 32 ∧ (halves x).2.toNat = x.toNat % 2 ^ 32 := by
  have hx := x.toNat_lt
  refine ⟨?_, UInt64.toNat_toUInt32 x⟩
  change (x >>> 32).toUInt32.toNat = _
  rw [UInt64.toNat_toUInt32, UInt64.toNat_shiftRight]
  change x.toNat >>> 32 % 2 ^ 32 = _
  rw [Nat.shiftRight_eq_div_pow]
  omega

theorem halves_join (h : UInt32 × UInt32) : halves (join h) = h := by
  obtain ⟨hhigh, hlow⟩ := toNat_halves (join h)
  rw [toNat_join] at hhigh hlow
  have := h.2.toNat_lt
  apply Prod.ext
  · exact UInt32.toNat_inj.1 (by omega)
  · exact UInt32.toNat_inj.1 (by omega)

theorem join_halves (x : UInt64) : join (halves x) = x := by
  obtain ⟨hhigh, hlow⟩ := toNat_halves x
  apply UInt64.toNat_inj.1
  rw [toNat_join, hhigh, hlow]
  omega

/-! ### The ciphers -/

/-- The whole of DES around the network. -/
private theorem apply_eq (keys : List UInt64) (block : Block 8) :
    apply keys block = BigEndian.ofUInt64 (wire 64 finalPermutation
      (join (feistel roundFunction keys
        (halves (wire 64 initialPermutation (BigEndian.toUInt64 block)))).swap)) := rfl

/-- **The network over the reversed round keys undoes the network.** The halves leave the last round
exchanged, which is how the reversed network has to be entered. -/
theorem apply_reverse_apply (keys : List UInt64) (block : Block 8) :
    apply keys.reverse (apply keys block) = block := by
  rw [apply_eq keys.reverse, apply_eq keys, BigEndian.toUInt64_ofUInt64, wire_initial_final,
    halves_join, feistel_reverse, Prod.swap_swap, join_halves, wire_final_initial,
    BigEndian.ofUInt64_toUInt64]

/-- **DES is lawful** under every key. -/
theorem cipher_lawful (key : Block 8) : (cipher key).Lawful where
  decrypt_encrypt b := apply_reverse_apply (roundKeys key) b
  encrypt_decrypt b := by
    have h := apply_reverse_apply (roundKeys key).reverse b
    rw [List.reverse_reverse] at h
    exact h

end Des

/-- **Triple DES is lawful** under every key. -/
theorem TripleDes.cipher_lawful (key : TripleDes.Key) : (TripleDes.cipher key).Lawful where
  decrypt_encrypt b := by
    simp only [TripleDes.cipher]
    rw [(Des.cipher_lawful key.third).decrypt_encrypt,
      (Des.cipher_lawful key.second).encrypt_decrypt, (Des.cipher_lawful key.first).decrypt_encrypt]
  encrypt_decrypt b := by
    simp only [TripleDes.cipher]
    rw [(Des.cipher_lawful key.first).encrypt_decrypt,
      (Des.cipher_lawful key.second).decrypt_encrypt, (Des.cipher_lawful key.third).encrypt_decrypt]

end SmartCard
