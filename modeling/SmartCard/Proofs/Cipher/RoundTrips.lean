import Mathlib.Order.Bounds.Defs
import SmartCard.Proofs.Cipher.Messages

/-!
# Padding and chaining, there and back

A padded message is the shortest string of whole blocks that is longer than the message
(`Padding.isLeast_length_pad`), so that there is always a byte that starts the padding. Reading from
the end finds that byte, whatever the message itself ends in (`Padding.reversible`).

Chained encryption carries each enciphered block on to the next one. The two directions undo each
other block by block, on any blocks: `BlockCipher.Lawful.cbcDecrypt_cbcEncrypt` for what was
enciphered, and `BlockCipher.Lawful.cbcEncrypt_cbcDecrypt` for what was deciphered. On byte strings
both of them look at the length of the data first and at the secret second, and there is nothing
else that they refuse (`Aes.reversible`). -/

namespace SmartCard

/-! ### Padding -/

namespace Padding

variable {n : Nat}

/-- **The shortest padding.** No string of whole blocks that is longer than the message is shorter
than the padded message. -/
theorem isLeast_length_pad (hn : 0 < n) (message : Bytes) :
    IsLeast {length | n ∣ length ∧ message.length < length} (pad n message).length := by
  rw [length_pad hn]
  refine ⟨⟨Nat.dvd_mul_right _ _, Nat.lt_mul_div_succ _ hn⟩, ?_⟩
  rintro _ ⟨⟨blocks, rfl⟩, hlt⟩
  -- `blocks` blocks hold the message and more, so they are more than the message fills
  have hblocks : message.length / n < blocks := Nat.div_lt_of_lt_mul hlt
  exact Nat.mul_le_mul_left n hblocks

theorem unpad_eq_error {padded : Bytes}
    (h : ∀ message zeros, padded ≠ message ++ 0x80 :: List.replicate zeros 0) :
    unpad padded = .error .padding := by
  cases hunpad : unpad padded with
  | ok message =>
    obtain ⟨zeros, hpadded⟩ := unpad_eq_ok_iff.1 hunpad
    exact absurd hpadded (h message zeros)
  | error fault =>
    unfold unpad at hunpad
    split at hunpad
    · cases hunpad
    · rw [← Except.error.inj hunpad]

/-- **Padding to blocks of `n` bytes, and its removal.** -/
structure Reversible (n : Nat) : Prop where
  /-- As few bytes are added as make whole blocks, and at least one. -/
  shortest : ∀ message,
    IsLeast {length | n ∣ length ∧ message.length < length} (pad n message).length
  starts : ∀ message, message <+: pad n message
  unpad_pad : ∀ message, unpad (pad n message) = .ok message
  injective : Function.Injective (pad n)
  /-- Zeros down to a byte `80` are taken off, however many they are, and nothing else is. -/
  unpad_iff : ∀ padded message, unpad padded = .ok message ↔
    ∃ zeros, padded = message ++ 0x80 :: List.replicate zeros 0
  unpad_fails : ∀ padded,
    (∀ message zeros, padded ≠ message ++ 0x80 :: List.replicate zeros 0) →
      unpad padded = .error .padding

theorem reversible (hn : 0 < n) : Reversible n where
  shortest := isLeast_length_pad hn
  starts message := List.prefix_append _ _
  unpad_pad := Padding.unpad_pad n
  injective message message' h := by
    -- what is padded to the same bytes is found again as the same message
    have hunpad := Padding.unpad_pad n message
    rw [h, Padding.unpad_pad] at hunpad
    exact (Except.ok.inj hunpad).symm
  unpad_iff _ _ := unpad_eq_ok_iff
  unpad_fails _ := unpad_eq_error

end Padding

/-! ### Chains -/

namespace BlockCipher

variable {n : Nat}

/-- Chained encryption undoes chained decryption. -/
theorem Lawful.cbcEncrypt_cbcDecrypt {c : BlockCipher n} (h : c.Lawful) (iv : Block n)
    (blocks : List (Block n)) : c.cbcEncrypt iv (c.cbcDecrypt iv blocks) = blocks := by
  -- on the blocks, for the enciphered block that stands before them
  induction blocks generalizing iv with
  | nil => rfl
  | cons sealed rest ih =>
    -- the chaining value goes in twice, and takes itself out
    have hfirst : c.encrypt (iv ^^^ (c.decrypt sealed ^^^ iv)) = sealed := by
      rw [Block.xor_comm iv, Block.xor_xor_cancel, h.encrypt_decrypt]
    rw [cbcDecrypt, cbcEncrypt, hfirst, ih]

variable {made : Except CipherFault (BlockCipher n)} {iv : Block n} {data opened : Bytes}

/-- Chained encryption undoes chained decryption of byte strings. -/
theorem cbcSeal_of_cbcOpen (hn : 0 < n) (hlawful : ∀ c, made = .ok c → c.Lawful)
    (h : cbcOpen made iv data = .ok opened) : cbcSeal made iv opened = .ok data := by
  rw [cbcOpen_eq] at h
  exact inMode_of_inMode hn (fun c hc => (hlawful c hc).cbcEncrypt_cbcDecrypt iv) h

end BlockCipher

/-! ### AES -/

namespace Aes

variable {secret data opened : Bytes} {iv : Block 16}

theorem ofSecret_of_length_ne (h : secret.length ≠ 16) :
    ofSecret secret = .error .aesKeyLength := by
  unfold ofSecret
  rw [Block.ofList?_eq_none_iff.2 h]

theorem cbcEncrypt_of_cbcDecrypt (h : cbcDecrypt secret iv data = .ok opened) :
    cbcEncrypt secret iv opened = .ok data :=
  BlockCipher.cbcSeal_of_cbcOpen (by decide) (fun _ hc => lawful_of_ofSecret hc) h

/-- Data that is no number of whole blocks is refused both ways, under every secret. -/
theorem cbc_of_unaligned (h : data.length % 16 ≠ 0) :
    cbcEncrypt secret iv data = .error .unaligned ∧
      cbcDecrypt secret iv data = .error .unaligned := by
  have hmode (mode : BlockCipher 16 → List (Block 16) → List (Block 16)) :
      BlockCipher.inMode (ofSecret secret) mode data = .error .unaligned :=
    BlockCipher.inMode_of_unaligned h
  exact ⟨hmode _, hmode _⟩

/-- A secret that is no key is refused both ways. -/
theorem cbc_of_length_ne (hdata : data.length % 16 = 0) (h : secret.length ≠ 16) :
    cbcEncrypt secret iv data = .error .aesKeyLength ∧
      cbcDecrypt secret iv data = .error .aesKeyLength := by
  have hmode (mode : BlockCipher 16 → List (Block 16) → List (Block 16)) :
      BlockCipher.inMode (ofSecret secret) mode data = .error .aesKeyLength :=
    BlockCipher.inMode_of_error (ofSecret_of_length_ne h) hdata
  exact ⟨hmode _, hmode _⟩

/-- **Chained encryption under a secret from an initial value, and its inverse.** -/
structure Reversible (secret : Bytes) (iv : Block 16) : Prop where
  opens_sealed : secret.length = 16 → ∀ data : Bytes, data.length % 16 = 0 → ∃ sealed,
    cbcEncrypt secret iv data = .ok sealed ∧ sealed.length = data.length ∧
    cbcDecrypt secret iv sealed = .ok data
  seals_opened : secret.length = 16 → ∀ data : Bytes, data.length % 16 = 0 → ∃ opened,
    cbcDecrypt secret iv data = .ok opened ∧ opened.length = data.length ∧
    cbcEncrypt secret iv opened = .ok data
  unaligned : ∀ data : Bytes, data.length % 16 ≠ 0 →
    cbcEncrypt secret iv data = .error .unaligned ∧ cbcDecrypt secret iv data = .error .unaligned
  other_length : secret.length ≠ 16 → ∀ data : Bytes, data.length % 16 = 0 →
    cbcEncrypt secret iv data = .error .aesKeyLength ∧
      cbcDecrypt secret iv data = .error .aesKeyLength

theorem reversible (secret : Bytes) (iv : Block 16) : Reversible secret iv where
  opens_sealed hsecret data hdata := by
    obtain ⟨sealed, h⟩ := exists_cbcEncrypt hsecret hdata iv
    exact ⟨sealed, h, length_of_cbcEncrypt h, cbcDecrypt_of_cbcEncrypt h⟩
  seals_opened hsecret data hdata := by
    obtain ⟨opened, h⟩ := exists_cbcDecrypt hsecret hdata iv
    exact ⟨opened, h, length_of_cbcDecrypt h, cbcEncrypt_of_cbcDecrypt h⟩
  unaligned _ := cbc_of_unaligned
  other_length h _ hdata := cbc_of_length_ne hdata h

/-- **Padding and chaining lose nothing**, for blocks of any size and under every secret. So a
message that was padded and enciphered is found again. -/
theorem padding_and_chaining_reversible {n : Nat} (hn : 0 < n) (secret : Bytes) (iv : Block 16) :
    Padding.Reversible n ∧ Aes.Reversible secret iv ∧
    (secret.length = 16 → ∀ message, ∃ sealed,
      cbcEncrypt secret iv (Padding.pad 16 message) = .ok sealed ∧
      (cbcDecrypt secret iv sealed >>= Padding.unpad) = .ok message) := by
  have hchain : Aes.Reversible secret iv := Aes.reversible secret iv
  refine ⟨Padding.reversible hn, hchain, ?_⟩
  intro hsecret message
  have hblocks : (Padding.pad 16 message).length % 16 = 0 :=
    Padding.length_pad_mod (by decide) message
  obtain ⟨sealed, hsealed, -, hopened⟩ := hchain.opens_sealed hsecret _ hblocks
  exact ⟨sealed, hsealed, bind_eq_ok_iff.2 ⟨_, hopened, Padding.unpad_pad 16 message⟩⟩

/-- A message that ends like a padding and fills its block is found again, and so are two blocks of
such bytes that were enciphered. -/
theorem padding_and_chaining_reversible_lookalike :
    0 < 4 ∧ Padding.pad 4 [0x01, 0x80, 0x00, 0x00] =
      [0x01, 0x80, 0x00, 0x00, 0x80, 0x00, 0x00, 0x00] ∧
    Padding.unpad (Padding.pad 4 [0x01, 0x80, 0x00, 0x00]) = .ok [0x01, 0x80, 0x00, 0x00] ∧
    ∃ sealed, cbcEncrypt (List.replicate 16 0x40) (Block.fill 16 0x11) (List.replicate 32 0x80) =
        .ok sealed ∧
      cbcDecrypt (List.replicate 16 0x40) (Block.fill 16 0x11) sealed =
        .ok (List.replicate 32 0x80) := by
  obtain ⟨hpadding, hchain, -⟩ := padding_and_chaining_reversible (show 0 < 4 by decide)
    (List.replicate 16 0x40) (Block.fill 16 0x11)
  obtain ⟨sealed, hsealed, -, hopened⟩ :=
    hchain.opens_sealed (by decide) (List.replicate 32 0x80) (by decide)
  exact ⟨by decide, rfl, hpadding.unpad_pad _, sealed, hsealed, hopened⟩

end Aes

end SmartCard
