import SmartCard.Cipher.Mac
import SmartCard.Cipher.Cmac
import SmartCard.Proofs.Cipher.AesInverse
import SmartCard.Proofs.Cipher.DesInverse
import SmartCard.Proofs.Outcome

/-!
# Enciphered messages

What the receiver of an enciphered byte string makes of it. Padding is taken off again
(`Padding.unpad_pad`), and chained encryption is undone under the same secret and the same initial
chaining value (`Aes.cbcDecrypt_of_cbcEncrypt`, `TripleDes.cbcDecrypt_of_cbcEncrypt`). Both are
`BlockCipher.cbcOpen_of_cbcSeal` for their own way from secrets to keys. What holds of every mode is
said once, of `BlockCipher.inMode`.

On the sender's side, a secret that the cipher can use makes every operation succeed: encryption of
aligned data (`Aes.exists_cbcEncrypt`, `TripleDes.exists_cbcEncrypt`) and the MACs of any message
(`Cmac.exists_aes`, `Mac.exists_triple`, `Mac.exists_retail`). Secrets of AES have sixteen bytes,
and those of triple DES are `TripleDes.Usable`. The comparison of MACs is equality
(`Mac.agree_iff`). -/

namespace SmartCard

/-! ### Padding -/

namespace Padding

/-- **A padding is taken off** exactly where there is one: read from its end, the text is zeros down
to a byte `80`. -/
theorem unpad_eq_ok_iff {padded message : Bytes} :
    unpad padded = .ok message ↔ ∃ zeros, padded = message ++ 0x80 :: List.replicate zeros 0 := by
  constructor
  · intro h
    -- the zeros at the end, and what is in front of them
    have hsplit := List.takeWhile_append_dropWhile (p := (· == 0)) (l := padded.reverse)
    obtain ⟨zeros, hzeros⟩ : ∃ zeros, padded.reverse.takeWhile (· == 0) = List.replicate zeros 0 :=
      ⟨_, List.eq_replicate_iff.2 ⟨rfl, fun b hb =>
        beq_iff_eq.1 (List.all_eq_true.1 List.all_takeWhile b hb)⟩⟩
    unfold unpad at h
    split at h
    · rename_i front hfront
      cases h
      rw [hzeros, hfront] at hsplit
      refine ⟨zeros, ?_⟩
      -- reading from the end turns the list round, so the equation is turned back
      rw [← List.reverse_inj, ← hsplit]
      simp
    · cases h
  · rintro ⟨zeros, rfl⟩
    have h : (message ++ 0x80 :: List.replicate zeros 0).reverse.dropWhile (· == 0) =
        0x80 :: message.reverse := by
      rw [List.reverse_append, List.reverse_cons, List.reverse_replicate, List.append_assoc,
        List.dropWhile_append_of_pos]
      · rfl
      · -- everything behind the mark is zero, and the mark is not
        intro b hb
        rw [List.eq_of_mem_replicate hb]
        rfl
    unfold unpad
    rw [h]
    simp only [List.reverse_reverse]

/-- **Padding is taken off again**, whatever the message ends in. -/
theorem unpad_pad (n : Nat) (message : Bytes) : unpad (pad n message) = .ok message :=
  unpad_eq_ok_iff.2 ⟨_, rfl⟩

theorem length_pad {n : Nat} (hn : 0 < n) (message : Bytes) :
    (pad n message).length = n * (message.length / n + 1) := by
  -- the message falls short of whole blocks by less than one, and the padding fills the rest
  have hlt := Nat.mod_lt message.length hn
  have hdiv := Nat.div_add_mod message.length n
  unfold pad
  rw [List.length_append, List.length_cons, List.length_replicate, Nat.mul_add]
  omega

theorem pad_ne_nil (n : Nat) (message : Bytes) : pad n message ≠ [] := by
  unfold pad
  exact List.append_ne_nil_of_right_ne_nil _ (List.cons_ne_nil _ _)

theorem aligned_eq_ok_iff {n : Nat} {data : Bytes} {blocks : List (Block n)} :
    aligned n data = .ok blocks ↔ data.length % n = 0 ∧ Block.split n data = blocks := by
  unfold aligned
  by_cases h : data.length % n = 0
  · rw [if_pos h, Except.ok.injEq]
    exact ⟨fun hb => ⟨h, hb⟩, And.right⟩
  · rw [if_neg h]
    exact ⟨fun hb => (nomatch hb), fun hb => absurd hb.1 h⟩

/-- Written blocks are read again. -/
theorem aligned_join {n : Nat} (hn : 0 < n) (blocks : List (Block n)) :
    aligned n (Block.join blocks) = .ok blocks :=
  aligned_eq_ok_iff.2 ⟨by rw [Block.length_join, Nat.mul_mod_left], Block.split_join hn blocks⟩

end Padding

/-! ### Modes over byte strings -/

namespace BlockCipher

variable {n : Nat} {made : Except CipherFault (BlockCipher n)} {iv : Block n}
  {data sealed opened : Bytes}

section Mode

variable {mode undo : BlockCipher n → List (Block n) → List (Block n)} {out : Bytes}

/-- A mode over a byte string, with the cipher that a secret made, if it made one. In every mode of
both ciphers the data is looked at first and the secret second. -/
def inMode (made : Except CipherFault (BlockCipher n))
    (mode : BlockCipher n → List (Block n) → List (Block n)) (data : Bytes) :
    Except CipherFault Bytes := do
  let blocks ← Padding.aligned n data
  let c ← made
  return Block.join (mode c blocks)

/-- **A mode needs whole blocks and a cipher**, and nothing else. -/
theorem inMode_eq_ok_iff : inMode made mode data = .ok out ↔ data.length % n = 0 ∧
    ∃ c, made = .ok c ∧ Block.join (mode c (Block.split n data)) = out := by
  simp only [inMode, bind_eq_ok_iff, pure_eq_ok_iff, Padding.aligned_eq_ok_iff]
  constructor
  · rintro ⟨_, ⟨hlen, rfl⟩, h⟩
    exact ⟨hlen, h⟩
  · rintro ⟨hlen, h⟩
    exact ⟨_, ⟨hlen, rfl⟩, h⟩

theorem exists_inMode {c : BlockCipher n} (hmade : made = .ok c) (hdata : data.length % n = 0)
    (mode : BlockCipher n → List (Block n) → List (Block n)) :
    ∃ out, inMode made mode data = .ok out :=
  ⟨_, inMode_eq_ok_iff.2 ⟨hdata, c, hmade, rfl⟩⟩

theorem length_of_inMode (hn : 0 < n) (hmode : ∀ c blocks, (mode c blocks).length = blocks.length)
    (h : inMode made mode data = .ok out) : out.length = data.length := by
  -- a mode changes the blocks, not how many they are
  obtain ⟨hlen, c, -, rfl⟩ := inMode_eq_ok_iff.1 h
  rw [Block.length_join, hmode, ← Block.length_join, Block.join_split hn hlen]

/-- **Modes that undo each other on blocks do so on byte strings**: the blocks that were written are
the ones that are read. -/
theorem inMode_of_inMode (hn : 0 < n)
    (hundo : ∀ c, made = .ok c → ∀ blocks, undo c (mode c blocks) = blocks)
    (h : inMode made mode data = .ok out) : inMode made undo out = .ok data := by
  obtain ⟨hlen, c, hc, rfl⟩ := inMode_eq_ok_iff.1 h
  -- the blocks come out of the join as they went in, and the cipher is the same
  refine bind_eq_ok_iff.2 ⟨_, Padding.aligned_join hn _, bind_eq_ok_iff.2 ⟨c, hc, ?_⟩⟩
  rw [hundo c hc, Block.join_split hn hlen]
  rfl

theorem inMode_of_unaligned (h : data.length % n ≠ 0) :
    inMode made mode data = .error .unaligned := by
  have haligned : Padding.aligned n data = .error .unaligned := if_neg h
  rw [inMode, haligned]
  rfl

theorem inMode_of_error {fault : CipherFault} (hmade : made = .error fault)
    (hdata : data.length % n = 0) : inMode made mode data = .error fault := by
  have haligned : Padding.aligned n data = .ok (Block.split n data) := if_pos hdata
  rw [inMode, haligned, hmade]
  rfl

end Mode

/-- Chained encryption of a byte string, with the cipher that a secret made, if it made one. Both
ciphers of the protocols encipher so. -/
def cbcSeal (made : Except CipherFault (BlockCipher n)) (iv : Block n) (data : Bytes) :
    Except CipherFault Bytes := do
  let blocks ← Padding.aligned n data
  let c ← made
  return Block.join (c.cbcEncrypt iv blocks)

/-- Chained decryption of a byte string. -/
def cbcOpen (made : Except CipherFault (BlockCipher n)) (iv : Block n) (data : Bytes) :
    Except CipherFault Bytes := do
  let blocks ← Padding.aligned n data
  let c ← made
  return Block.join (c.cbcDecrypt iv blocks)

theorem cbcSeal_eq (made : Except CipherFault (BlockCipher n)) (iv : Block n) (data : Bytes) :
    cbcSeal made iv data = inMode made (fun c => c.cbcEncrypt iv) data := rfl

theorem cbcOpen_eq (made : Except CipherFault (BlockCipher n)) (iv : Block n) (data : Bytes) :
    cbcOpen made iv data = inMode made (fun c => c.cbcDecrypt iv) data := rfl

/-- **Chained decryption undoes chained encryption** of byte strings. -/
theorem cbcOpen_of_cbcSeal (hn : 0 < n) (hlawful : ∀ c, made = .ok c → c.Lawful)
    (h : cbcSeal made iv data = .ok sealed) : cbcOpen made iv sealed = .ok data := by
  rw [cbcSeal_eq] at h
  exact inMode_of_inMode hn (fun c hc => (hlawful c hc).cbcDecrypt_cbcEncrypt iv) h

theorem exists_cbcOpen {c : BlockCipher n} (hmade : made = .ok c) (hdata : data.length % n = 0)
    (iv : Block n) : ∃ opened, cbcOpen made iv data = .ok opened :=
  exists_inMode hmade hdata _

theorem aligned_of_cbcOpen (h : cbcOpen made iv data = .ok opened) : data.length % n = 0 := by
  rw [cbcOpen_eq] at h
  exact (inMode_eq_ok_iff.1 h).1

/-- **What is opened tells where the chain started**: the initial value goes into the first block.
-/
theorem iv_eq_of_cbcOpen {iv' : Block n} (h : cbcOpen made iv data = .ok opened)
    (h' : cbcOpen made iv' data = .ok opened) (hopened : opened ≠ []) : iv = iv' := by
  rw [cbcOpen_eq, inMode_eq_ok_iff] at h h'
  obtain ⟨-, c, hc, h⟩ := h
  obtain ⟨-, _, hc', h'⟩ := h'
  -- one secret makes one cipher
  cases hc.symm.trans hc'
  cases hblocks : Block.split n data with
  | nil =>
    rw [hblocks] at h
    exact absurd h.symm hopened
  | cons sealed rest =>
    have hjoin := h.trans h'.symm
    rw [hblocks, cbcDecrypt, cbcDecrypt, Block.join_cons, Block.join_cons] at hjoin
    -- the rest of the chain goes on from what was sent, so that the first blocks are left
    have hfirst : c.decrypt sealed ^^^ iv = c.decrypt sealed ^^^ iv' :=
      Block.ext (List.append_cancel_right hjoin)
    exact Block.xor_left_cancel hfirst

theorem length_of_cbcOpen (hn : 0 < n) (h : cbcOpen made iv data = .ok opened) :
    opened.length = data.length := by
  rw [cbcOpen_eq] at h
  exact length_of_inMode hn (fun c => c.length_cbcDecrypt iv) h

theorem length_of_cbcSeal (hn : 0 < n) (h : cbcSeal made iv data = .ok sealed) :
    sealed.length = data.length := by
  rw [cbcSeal_eq] at h
  exact length_of_inMode hn (fun c => c.length_cbcEncrypt iv) h

/-- Enciphering leaves something of what there was. -/
theorem ne_nil_of_cbcSeal (hn : 0 < n) (h : cbcSeal made iv data = .ok sealed)
    (hdata : data ≠ []) : sealed ≠ [] := by
  rw [← List.length_pos_iff] at hdata ⊢
  rw [length_of_cbcSeal hn h]
  exact hdata

theorem exists_cbcSeal {c : BlockCipher n} (hmade : made = .ok c) (hdata : data.length % n = 0)
    (iv : Block n) : ∃ sealed, cbcSeal made iv data = .ok sealed :=
  exists_inMode hmade hdata _

theorem Lawful.encrypt_inj {c : BlockCipher n} (h : c.Lawful) {block block' : Block n}
    (heq : c.encrypt block = c.encrypt block') : block = block' := by
  rw [← h.decrypt_encrypt block, heq, h.decrypt_encrypt]

end BlockCipher

/-! ### AES -/

namespace Aes

theorem ofSecret_toList (key : Block 16) : ofSecret key.toList = .ok (cipher key) := by
  unfold ofSecret
  rw [Block.ofList?_toList]

/-- A secret of the right length is a key. -/
theorem exists_ofSecret {secret : Bytes} (h : secret.length = 16) :
    ∃ key : Block 16, ofSecret secret = .ok (cipher key) :=
  ⟨⟨secret, h⟩, ofSecret_toList ⟨secret, h⟩⟩

theorem lawful_of_ofSecret {secret : Bytes} {c : BlockCipher 16} (h : ofSecret secret = .ok c) :
    c.Lawful := by
  unfold ofSecret at h
  -- only a secret of the right length makes a cipher, and it is the AES of that key
  split at h
  · cases h
    exact cipher_lawful _
  · cases h

theorem cbcDecrypt_of_cbcEncrypt {secret data sealed : Bytes} {iv : Block 16}
    (h : cbcEncrypt secret iv data = .ok sealed) : cbcDecrypt secret iv sealed = .ok data :=
  BlockCipher.cbcOpen_of_cbcSeal (by decide) (fun _ hc => lawful_of_ofSecret hc) h

theorem length_of_cbcEncrypt {secret data sealed : Bytes} {iv : Block 16}
    (h : cbcEncrypt secret iv data = .ok sealed) : sealed.length = data.length :=
  BlockCipher.length_of_cbcSeal (by decide) h

theorem ne_nil_of_cbcEncrypt {secret data sealed : Bytes} {iv : Block 16}
    (h : cbcEncrypt secret iv data = .ok sealed) (hdata : data ≠ []) : sealed ≠ [] :=
  BlockCipher.ne_nil_of_cbcSeal (by decide) h hdata

/-- A secret of the right length makes a permutation of the blocks. -/
theorem exists_encryptBlock_eq {secret : Bytes} (h : secret.length = 16) :
    ∃ c : BlockCipher 16, c.Lawful ∧
      ∀ block, encryptBlock secret block = .ok (c.encrypt block) := by
  obtain ⟨key, hkey⟩ := exists_ofSecret h
  refine ⟨cipher key, cipher_lawful key, fun block => ?_⟩
  rw [encryptBlock, hkey]
  rfl

theorem exists_encryptBlock {secret : Bytes} (h : secret.length = 16) (block : Block 16) :
    ∃ sealed, encryptBlock secret block = .ok sealed := by
  obtain ⟨c, -, hencrypt⟩ := exists_encryptBlock_eq h
  exact ⟨c.encrypt block, hencrypt block⟩

theorem exists_cbcEncrypt {secret data : Bytes} (h : secret.length = 16)
    (hdata : data.length % 16 = 0) (iv : Block 16) :
    ∃ sealed, cbcEncrypt secret iv data = .ok sealed := by
  obtain ⟨key, hkey⟩ := exists_ofSecret h
  exact BlockCipher.exists_cbcSeal hkey hdata iv

/-- Whatever is a number of whole blocks can be deciphered. -/
theorem exists_cbcDecrypt {secret data : Bytes} (h : secret.length = 16)
    (hdata : data.length % 16 = 0) (iv : Block 16) :
    ∃ opened, cbcDecrypt secret iv data = .ok opened := by
  obtain ⟨key, hkey⟩ := exists_ofSecret h
  exact BlockCipher.exists_cbcOpen hkey hdata iv

theorem length_of_cbcDecrypt {secret data opened : Bytes} {iv : Block 16}
    (h : cbcDecrypt secret iv data = .ok opened) : opened.length = data.length :=
  BlockCipher.length_of_cbcOpen (by decide) h

theorem iv_eq_of_cbcDecrypt {secret data opened : Bytes} {iv iv' : Block 16}
    (h : cbcDecrypt secret iv data = .ok opened) (h' : cbcDecrypt secret iv' data = .ok opened)
    (hopened : opened ≠ []) : iv = iv' :=
  BlockCipher.iv_eq_of_cbcOpen h h' hopened

theorem aligned_of_cbcDecrypt {secret data opened : Bytes} {iv : Block 16}
    (h : cbcDecrypt secret iv data = .ok opened) : data.length % 16 = 0 :=
  BlockCipher.aligned_of_cbcOpen h

end Aes

theorem Cmac.exists_aes {secret : Bytes} (h : secret.length = 16) (message : Bytes) :
    ∃ mac, Cmac.aes secret message = .ok mac := by
  obtain ⟨key, hkey⟩ := Aes.exists_ofSecret h
  exact ⟨Cmac.mac (Aes.cipher key) message, by rw [Cmac.aes, hkey]; rfl⟩

/-! ### Triple DES -/

namespace TripleDes

/-- The secret expands to three DES keys. -/
def Usable (secret : Bytes) : Prop := ∃ key, Key.ofSecret secret = .ok key

/-- **The secrets of triple DES** are one, two or three DES keys. -/
theorem usable_iff {secret : Bytes} :
    Usable secret ↔ secret.length = 8 ∨ secret.length = 16 ∨ secret.length = 24 := by
  unfold Usable Key.ofSecret
  -- the reader of secrets tries the three lengths one after the other
  cases h8 : Block.ofList? 8 secret with
  | some key =>
    rw [Block.ofList?_eq_some_iff.1 h8, key.length_toList]
    exact ⟨fun _ => .inl rfl, fun _ => ⟨_, rfl⟩⟩
  | none =>
    cases h16 : Block.ofList? 16 secret with
    | some pair =>
      rw [Block.ofList?_eq_some_iff.1 h16, pair.length_toList]
      exact ⟨fun _ => .inr (.inl rfl), fun _ => ⟨_, rfl⟩⟩
    | none =>
      cases h24 : Block.ofList? 24 secret with
      | some three =>
        rw [Block.ofList?_eq_some_iff.1 h24, three.length_toList]
        exact ⟨fun _ => .inr (.inr rfl), fun _ => ⟨_, rfl⟩⟩
      | none =>
        -- a secret that no length fits has none of the three
        rw [Block.ofList?_eq_none_iff] at h8 h16 h24
        exact ⟨fun ⟨_, h⟩ => (nomatch h), fun h => by omega⟩

theorem usable_of_length {secret : Bytes} (h : secret.length = 16) : Usable secret :=
  usable_iff.2 (.inr (.inl h))

theorem Usable.length_le {secret : Bytes} (h : Usable secret) : 8 ≤ secret.length := by
  rcases usable_iff.1 h with hlen | hlen | hlen <;> omega

theorem usable_of_ofSecret {secret : Bytes} {c : BlockCipher 8} (h : ofSecret secret = .ok c) :
    Usable secret := by
  obtain ⟨key, hkey, -⟩ := map_eq_ok_iff.1 h
  exact ⟨key, hkey⟩

theorem Usable.exists_ofSecret {secret : Bytes} (h : Usable secret) :
    ∃ c, ofSecret secret = .ok c := by
  obtain ⟨key, hkey⟩ := h
  exact ⟨cipher key, by rw [ofSecret, hkey]; rfl⟩

theorem lawful_of_ofSecret {secret : Bytes} {c : BlockCipher 8} (h : ofSecret secret = .ok c) :
    c.Lawful := by
  obtain ⟨key, -, rfl⟩ := map_eq_ok_iff.1 h
  exact cipher_lawful key

theorem cbcDecrypt_of_cbcEncrypt {secret data sealed : Bytes} {iv : Block 8}
    (h : cbcEncrypt secret iv data = .ok sealed) : cbcDecrypt secret iv sealed = .ok data :=
  BlockCipher.cbcOpen_of_cbcSeal (by decide) (fun _ hc => lawful_of_ofSecret hc) h

theorem length_of_cbcEncrypt {secret data sealed : Bytes} {iv : Block 8}
    (h : cbcEncrypt secret iv data = .ok sealed) : sealed.length = data.length :=
  BlockCipher.length_of_cbcSeal (by decide) h

theorem ne_nil_of_cbcEncrypt {secret data sealed : Bytes} {iv : Block 8}
    (h : cbcEncrypt secret iv data = .ok sealed) (hdata : data ≠ []) : sealed ≠ [] :=
  BlockCipher.ne_nil_of_cbcSeal (by decide) h hdata

theorem exists_cbcEncrypt {secret data : Bytes} (h : Usable secret) (hdata : data.length % 8 = 0)
    (iv : Block 8) : ∃ sealed, cbcEncrypt secret iv data = .ok sealed := by
  obtain ⟨c, hc⟩ := h.exists_ofSecret
  exact BlockCipher.exists_cbcSeal hc hdata iv

end TripleDes

/-! ### MACs of triple DES -/

theorem Mac.exists_triple {secret : Bytes} (h : TripleDes.Usable secret) (icv : Block 8)
    (message : Bytes) : ∃ mac, Mac.triple secret icv message = .ok mac := by
  obtain ⟨c, hc⟩ := h.exists_ofSecret
  exact ⟨_, by rw [Mac.triple, hc]; rfl⟩

theorem Mac.usable_of_triple {secret message : Bytes} {icv mac : Block 8}
    (h : Mac.triple secret icv message = .ok mac) : TripleDes.Usable secret := by
  obtain ⟨c, hc, -⟩ := bind_eq_ok_iff.1 h
  exact TripleDes.usable_of_ofSecret hc

theorem Mac.exists_retail {secret : Bytes} (h : TripleDes.Usable secret) (icv : Block 8)
    (message : Bytes) : ∃ mac, Mac.retail secret icv message = .ok mac := by
  obtain ⟨key, hkey⟩ := h
  exact ⟨_, by rw [Mac.retail, hkey]; rfl⟩

theorem Mac.usable_of_retail {secret message : Bytes} {icv mac : Block 8}
    (h : Mac.retail secret icv message = .ok mac) : TripleDes.Usable secret := by
  obtain ⟨key, hkey, -⟩ := bind_eq_ok_iff.1 h
  exact ⟨key, hkey⟩

theorem Icv.exists_encryptTriple {secret : Bytes} (h : TripleDes.Usable secret) (icv : Block 8) :
    ∃ sealed, Icv.encryptTriple secret icv = .ok sealed := by
  obtain ⟨c, hc⟩ := h.exists_ofSecret
  exact ⟨c.encrypt icv, by rw [Icv.encryptTriple, hc]; rfl⟩

theorem Icv.exists_encryptSingle {secret : Bytes} (h : TripleDes.Usable secret) (icv : Block 8) :
    ∃ sealed, Icv.encryptSingle secret icv = .ok sealed := by
  -- every usable secret starts with a key of single DES
  have hlen : (secret.take 8).length = 8 := by
    have := h.length_le
    rw [List.length_take]
    omega
  have hkey : Block.ofList? 8 (secret.take 8) = some ⟨secret.take 8, hlen⟩ :=
    Block.ofList?_eq_some_iff.2 rfl
  exact ⟨(Des.cipher ⟨secret.take 8, hlen⟩).encrypt icv, by rw [Icv.encryptSingle, hkey]⟩

/-! ### Comparison of MACs -/

namespace Mac

private theorem foldl_or_eq_zero (s : Bytes) (acc : UInt8) :
    s.foldl (· ||| ·) acc = 0 ↔ acc = 0 ∧ ∀ b ∈ s, b = 0 := by
  -- bits that were set once stay set, whatever the accumulator is
  induction s generalizing acc with
  | nil => simp
  | cons b s ih => rw [List.foldl_cons, ih, UInt8.or_eq_zero_iff, List.forall_mem_cons, and_assoc]

private theorem zipWith_xor_eq_zero {a b : Bytes} (hlen : a.length = b.length) :
    (∀ d ∈ List.zipWith (· ^^^ ·) a b, d = 0) ↔ a = b := by
  induction a generalizing b with
  | nil => simp [List.length_eq_zero_iff.1 hlen.symm]
  | cons x a ih =>
    cases b with
    | nil => cases hlen
    | cons y b =>
      rw [List.length_cons, List.length_cons, Nat.add_right_cancel_iff] at hlen
      rw [List.zipWith_cons_cons, List.forall_mem_cons, ih hlen, UInt8.xor_eq_zero_iff,
        List.cons.injEq]

/-- **The comparison of two MACs is equality**, for all that it looks at every byte. -/
theorem agree_iff {a b : Bytes} : agree a b = true ↔ a = b := by
  unfold agree
  rw [Bool.and_eq_true, beq_iff_eq, beq_iff_eq, foldl_or_eq_zero]
  constructor
  · rintro ⟨hlen, -, h⟩
    exact (zipWith_xor_eq_zero hlen).1 h
  · rintro rfl
    exact ⟨rfl, rfl, (zipWith_xor_eq_zero rfl).2 rfl⟩

end Mac

end SmartCard
