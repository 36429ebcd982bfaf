import Mathlib.Data.List.Nodup
import SmartCard.Proofs.Cipher.DerivedSecrets

/-!
# The blocks of a derivation in counter mode

A derivation in counter mode makes its result from MACs. `Derivation.counterInputs` are the messages
that they are made of: all fields but one are the same in each of them, and the one that differs is
the number of the block. It starts at 1 and has one byte of the message for itself.

The length of a result is told in bits, with a number of 16 bits, which has room for 512 blocks. The
byte does not. A message is the one that was 256 blocks before (`Derivation.counterInput_eq_iff`),
and with it the block (`Derivation.derives_distinct_iff`). So the messages of a derivation are
distinct exactly as long as it has at most 256 blocks, that is 4096 bytes. The secrets and
cryptograms of a session are one block or less. -/

namespace SmartCard

/-- A block is found behind those in front of it. -/
theorem Block.take_drop_join {n : Nat} {blocks : List (Block n)} {i : Nat} {block : Block n}
    (h : blocks[i]? = some block) : ((join blocks).drop (n * i)).take n = block.toList := by
  -- on the number of blocks in front
  induction blocks generalizing i with
  | nil => cases h
  | cons first blocks ih =>
    rw [join_cons]
    cases i with
    | zero =>
      obtain rfl : first = block := Option.some.inj h
      exact List.take_left' first.length_toList
    | succ i =>
      have hskip : (first.toList ++ join blocks).drop (n * (i + 1)) =
          (join blocks).drop (n * i) := by
        rw [Nat.mul_succ, Nat.add_comm, ← List.drop_drop, List.drop_left' first.length_toList]
      rw [hskip]
      exact ih h

namespace Derivation

variable {secret context : Bytes} {constant : UInt8} {bits : UInt16}

/-! ### The messages -/

/-- How many blocks it takes to make a result of so many bits. -/
def blockCount (bits : UInt16) : Nat := (bits.toNat / 8 + 15) / 16

/-- The messages whose MACs are the blocks of a derivation, in order. -/
def counterInputs (constant : UInt8) (context : Bytes) (bits : UInt16) : List Bytes :=
  (List.range (blockCount bits)).map fun i => counterInput constant context bits (i + 1).toUInt8

/-- **A derivation makes one MAC of each of its messages**, and cuts the last one. -/
theorem counterMode_eq (secret : Bytes) (constant : UInt8) (context : Bytes) (bits : UInt16) :
    counterMode secret constant context bits = (do
      let blocks ← (counterInputs constant context bits).mapM (Cmac.aes secret)
      return (Block.join blocks).take (bits.toNat / 8)) := by
  rw [counterInputs, List.mapM_map]
  rfl

theorem length_counterInputs (constant : UInt8) (context : Bytes) (bits : UInt16) :
    (counterInputs constant context bits).length = blockCount bits := by
  rw [counterInputs, List.length_map, List.length_range]

theorem getElem?_counterInputs {i : Nat} {input : Bytes} :
    (counterInputs constant context bits)[i]? = some input ↔
      i < blockCount bits ∧ counterInput constant context bits (i + 1).toUInt8 = input := by
  rw [counterInputs, List.getElem?_map, Option.map_eq_some_iff]
  constructor
  · rintro ⟨j, hj, hinput⟩
    obtain ⟨hlt, hget⟩ := List.getElem?_eq_some_iff.1 hj
    rw [List.length_range] at hlt
    rw [List.getElem_range] at hget
    exact ⟨hlt, hget ▸ hinput⟩
  · rintro ⟨hlt, hinput⟩
    exact ⟨i, List.getElem?_range hlt, hinput⟩

/-- The number of a block stands in its message, after fifteen other bytes. -/
theorem getElem?_counterInput (constant : UInt8) (context : Bytes) (bits : UInt16)
    (number : UInt8) : (counterInput constant context bits number)[15]? = some number := by
  rw [counterInput, List.getElem?_append_left (by simp), List.getElem?_append_right (by simp)]
  simp

/-- **The numbers of the blocks come again after 256 blocks**, and with them the messages. -/
theorem counterInput_eq_iff {i j : Nat} :
    counterInput constant context bits (i + 1).toUInt8 =
      counterInput constant context bits (j + 1).toUInt8 ↔ i % 256 = j % 256 := by
  have hnumber (n : Nat) : (n + 1).toUInt8.toNat = (n + 1) % 256 := UInt8.toNat_ofNat'
  constructor
  · intro h
    -- the messages have the byte of the number in the same place
    have hbyte := congrArg (·[15]?) h
    simp only [getElem?_counterInput, Option.some.injEq] at hbyte
    have hmod := congrArg UInt8.toNat hbyte
    rw [hnumber, hnumber] at hmod
    omega
  · intro h
    have hbyte : (i + 1).toUInt8 = (j + 1).toUInt8 := by
      apply UInt8.toNat_inj.1
      rw [hnumber, hnumber]
      omega
    rw [hbyte]

/-- **The messages are distinct up to 256 blocks.** -/
theorem nodup_counterInputs_iff :
    (counterInputs constant context bits).Nodup ↔ blockCount bits ≤ 256 := by
  rw [counterInputs, List.nodup_map_iff_inj_on List.nodup_range]
  simp only [List.mem_range, counterInput_eq_iff]
  constructor
  · intro h
    by_contra hmore
    -- the block after 256 others has the message of the first one
    exact absurd (h 0 (by omega) 256 (by omega) rfl) (by decide)
  · intro h i hi j hj hij
    omega

/-! ### The result -/

/-- **What a derivation has made.** -/
structure Derives (secret : Bytes) (constant : UInt8) (context : Bytes) (bits : UInt16)
    (derived : Bytes) : Prop where
  length_eq : derived.length = bits.toNat / 8
  /-- There are as many blocks as the result fills, and the last of them may be cut. -/
  length_inputs : (counterInputs constant context bits).length = (bits.toNat / 8 + 15) / 16
  blocks : ∀ i input, (counterInputs constant context bits)[i]? = some input → ∃ block,
    Cmac.aes secret input = .ok block ∧
    (derived.drop (16 * i)).take 16 = block.toList.take (bits.toNat / 8 - 16 * i)
  /-- The blocks are numbered from 1 on, as far as a byte can tell. -/
  numbers : ∀ i input, (counterInputs constant context bits)[i]? = some input →
    ∃ number : UInt8, input[15]? = some number ∧ number.toNat = (i + 1) % 256
  /-- Blocks have the same message exactly if they have the same number. -/
  inputs_eq_iff : ∀ i j input input', (counterInputs constant context bits)[i]? = some input →
    (counterInputs constant context bits)[j]? = some input' → (input = input' ↔ i % 256 = j % 256)

theorem derives_of_forall₂ {blocks : List (Block 16)}
    (h : List.Forall₂ (fun input block => Cmac.aes secret input = .ok block)
      (counterInputs constant context bits) blocks) :
    Derives secret constant context bits ((Block.join blocks).take (bits.toNat / 8)) where
  length_eq := by
    rw [List.length_take, Block.length_join, ← h.length_eq, length_counterInputs, blockCount]
    omega
  length_inputs := length_counterInputs constant context bits
  blocks i input hinput := by
    obtain ⟨hlt, rfl⟩ := List.getElem?_eq_some_iff.1 hinput
    have hlt' : i < blocks.length := h.length_eq ▸ hlt
    refine ⟨blocks[i], h.get hlt hlt', ?_⟩
    have hblock := Block.take_drop_join (List.getElem?_eq_getElem hlt')
    -- the cut leaves of the block what of the result is left for it
    rw [List.drop_take, List.take_take, Nat.min_comm, ← List.take_take, hblock]
  numbers i input hinput := by
    obtain ⟨-, rfl⟩ := getElem?_counterInputs.1 hinput
    exact ⟨_, getElem?_counterInput constant context bits _, UInt8.toNat_ofNat'⟩
  inputs_eq_iff i j input input' hinput hinput' := by
    obtain ⟨-, rfl⟩ := getElem?_counterInputs.1 hinput
    obtain ⟨-, rfl⟩ := getElem?_counterInputs.1 hinput'
    exact counterInput_eq_iff

/-- **A secret of AES derives a result of any length.** -/
theorem exists_derives (h : secret.length = 16) (constant : UInt8) (context : Bytes)
    (bits : UInt16) : ∃ derived, counterMode secret constant context bits = .ok derived ∧
      Derives secret constant context bits derived := by
  obtain ⟨blocks, hblocks⟩ :
      ∃ blocks, (counterInputs constant context bits).mapM (Cmac.aes secret) = .ok blocks :=
    exists_mapM_eq_ok fun input _ => Cmac.exists_aes h input
  refine ⟨_, ?_, derives_of_forall₂ (mapM_eq_ok_iff.1 hblocks)⟩
  rw [counterMode_eq, hblocks]
  rfl

/-- **A derivation succeeds, and its messages are distinct up to 4096 bytes.** Each block of the
result is the MAC of its own message, which carries the number of the block. -/
theorem derives_distinct_iff (h : secret.length = 16) (constant : UInt8) (context : Bytes)
    (bits : UInt16) : ∃ derived, counterMode secret constant context bits = .ok derived ∧
      Derives secret constant context bits derived ∧
      ((counterInputs constant context bits).Nodup ↔ bits.toNat / 8 ≤ 4096) := by
  obtain ⟨derived, hmade, hderived⟩ := exists_derives h constant context bits
  have hcount : blockCount bits ≤ 256 ↔ bits.toNat / 8 ≤ 4096 := by
    unfold blockCount
    omega
  exact ⟨derived, hmade, hderived, nodup_counterInputs_iff.trans hcount⟩

/-- The longest result whose messages are distinct. It is asked for with seven bits more, which make
no byte. -/
theorem derives_distinct_iff_longest :
    ∃ derived, counterMode (List.replicate 16 0x40) 0x06 [] 32775 = .ok derived ∧
      derived.length = 4096 ∧ (counterInputs 0x06 [] 32775).Nodup := by
  have hsecret : (List.replicate 16 0x40 : Bytes).length = 16 := List.length_replicate
  obtain ⟨derived, hmade, hderived, hdistinct⟩ := derives_distinct_iff hsecret 0x06 [] 32775
  exact ⟨derived, hmade, hderived.length_eq, hdistinct.2 (by decide)⟩

/-- The last one of 257 blocks has the message of the first one, and is the first one again. -/
theorem counterMode_repeats :
    (∃ input, (counterInputs 0x06 [] 32896)[0]? = some input ∧
      (counterInputs 0x06 [] 32896)[256]? = some input) ∧
    ¬(counterInputs 0x06 [] 32896).Nodup ∧
    ∃ derived, counterMode (List.replicate 16 0x40) 0x06 [] 32896 = .ok derived ∧
      derived.length = 4112 ∧ derived.take 16 = derived.drop 4096 := by
  have hfirst : (counterInputs 0x06 [] 32896)[0]? = some (counterInput 0x06 [] 32896 1) :=
    getElem?_counterInputs.2 ⟨by decide, rfl⟩
  have hlast : (counterInputs 0x06 [] 32896)[256]? = some (counterInput 0x06 [] 32896 1) :=
    getElem?_counterInputs.2 ⟨by decide, rfl⟩
  refine ⟨⟨_, hfirst, hlast⟩, mt nodup_counterInputs_iff.1 (by decide), ?_⟩
  have hsecret : (List.replicate 16 0x40 : Bytes).length = 16 := List.length_replicate
  obtain ⟨derived, hmade, hderived⟩ := exists_derives hsecret 0x06 [] 32896
  have hlen : derived.length = 4112 := hderived.length_eq
  obtain ⟨block, hblock, hstart⟩ := hderived.blocks 0 _ hfirst
  obtain ⟨again, hagain, hstop⟩ := hderived.blocks 256 _ hlast
  -- one message has one MAC
  obtain rfl : block = again := Except.ok.inj (hblock.symm.trans hagain)
  refine ⟨derived, hmade, hlen, ?_⟩
  calc derived.take 16
      = block.toList.take 4112 := hstart
    _ = block.toList.take 16 := by
        rw [List.take_of_length_le (by simp), List.take_of_length_le (by simp)]
    _ = (derived.drop 4096).take 16 := hstop.symm
    _ = derived.drop 4096 := List.take_of_length_le (by simp [hlen])

end Derivation

end SmartCard
