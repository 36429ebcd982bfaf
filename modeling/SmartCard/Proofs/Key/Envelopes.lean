import SmartCard.Key.Envelope
import SmartCard.Proofs.Apdu.Codec
import SmartCard.Proofs.Cipher.Messages
import SmartCard.Proofs.Outcome

/-!
# What the block of a key announces

The block of a key starts with a key type and a length, from which the card tells what kind of key
is coming (`Key.announced?`). Which cipher it announces is decided by the key and by the key that it
is enciphered under: a generic key takes on the cipher of the other one, and a single DES key is
sent as one for triple DES (`Key.cipherUnder`). The length that is announced is always that of the
key (`Key.announced?_of_envelope`). -/

namespace SmartCard

namespace TripleDes

/-- Enciphering keeps the length. -/
theorem length_of_ecbEncrypt {secret data sealed : Bytes}
    (h : ecbEncrypt secret data = .ok sealed) : sealed.length = data.length := by
  change BlockCipher.inMode (ofSecret secret) BlockCipher.ecbEncrypt data = .ok sealed at h
  exact BlockCipher.length_of_inMode (by decide) (fun _ _ => List.length_map _) h

end TripleDes

namespace Key

variable {key kek : Key} {block : Bytes}

/-- The keys of all ciphers are one to four DES keys long. -/
theorem length_cases (key : Key) :
    key.length = 8 ∨ key.length = 16 ∨ key.length = 24 ∨ key.length = 32 := by
  have hfits := key.fits
  unfold length
  revert hfits
  cases key.cipher with
  | generic | des | des3 | aes =>
    -- what a cipher accepts is a list of lengths, and the longest list has four of them
    intro hfits
    simp [KeyCipher.accepts] at hfits
    omega

/-- No cipher has keys of more than 32 bytes. -/
theorem length_le (key : Key) : key.length ≤ 32 := by
  rcases key.length_cases with h | h | h | h <;> omega

theorem toNat_length (key : Key) : key.length.toUInt8.toNat = key.length :=
  UInt8.toNat_ofNat_of_lt' (Nat.lt_of_le_of_lt key.length_le (by decide))

/-- The cipher that a key is sent for under a key encryption key. -/
def cipherUnder (key kek : Key) : KeyCipher :=
  if key.cipher = .aes ∨ key.cipher = .generic ∧ kek.cipher = .aes then .aes else .des3

/-- The cipher of the key type that a block starts with, and the length of the key. The block of an
AES key has the length of the key after the length of the field. -/
def announced? : Bytes → Option (KeyCipher × Nat)
  | keyType :: length :: rest =>
    match KeyCipher.ofKeyType? keyType with
    | some .aes => rest.head?.map fun length => (.aes, length.toNat)
    | some cipher => some (cipher, length.toNat)
    | none => none
  | _ => none

/-- A key is enciphered for the cipher that it is sent for. -/
theorem envelope_cases (h : key.envelope kek = .ok block) :
    key.cipherUnder kek = .aes ∧ key.aesEnvelope kek = .ok block ∨
      key.cipherUnder kek = .des3 ∧ key.tripleDesEnvelope kek = .ok block := by
  unfold envelope at h
  unfold cipherUnder
  -- only an AES key, or a generic one under an AES key, is sent as an AES key
  cases hkey : key.cipher with
  | aes =>
    cases hkek : kek.cipher with
    | aes =>
      rw [hkey, hkek] at h
      exact .inl ⟨by simp, mapError_eq_ok_iff.1 h⟩
    | generic =>
      rw [hkey, hkek] at h
      exact .inl ⟨by simp, mapError_eq_ok_iff.1 h⟩
    -- a key for AES is not enciphered under one for DES
    | des => rw [hkey, hkek] at h; cases h
    | des3 => rw [hkey, hkek] at h; cases h
  | generic =>
    cases hkek : kek.cipher with
    | aes =>
      rw [hkey, hkek] at h
      exact .inl ⟨by simp, mapError_eq_ok_iff.1 h⟩
    | generic | des | des3 =>
      rw [hkey, hkek] at h
      exact .inr ⟨by simp, mapError_eq_ok_iff.1 h⟩
  | des | des3 =>
    cases hkek : kek.cipher with
    -- nor is a key for DES enciphered under one for AES
    | aes => rw [hkey, hkek] at h; cases h
    | generic | des | des3 =>
      rw [hkey, hkek] at h
      exact .inr ⟨by simp, mapError_eq_ok_iff.1 h⟩

theorem announced?_of_aesEnvelope (h : key.aesEnvelope kek = .ok block) :
    announced? block = some (.aes, key.length) := by
  obtain ⟨enciphered, -, h⟩ := bind_eq_ok_iff.1 h
  obtain ⟨check, -, h⟩ := bind_eq_ok_iff.1 h
  cases h
  -- the second byte is the length of the field, and the third one that of the key
  change some (KeyCipher.aes, key.length.toUInt8.toNat) = _
  rw [key.toNat_length]

theorem announced?_of_tripleDesEnvelope (h : key.tripleDesEnvelope kek = .ok block) :
    announced? block = some (.des3, key.length) := by
  obtain ⟨enciphered, hsealed, h⟩ := bind_eq_ok_iff.1 h
  obtain ⟨check, -, h⟩ := bind_eq_ok_iff.1 h
  cases h
  -- the field is the enciphered key, which is as long as the key
  have hlen : enciphered.length = key.length := TripleDes.length_of_ecbEncrypt hsealed
  change some (KeyCipher.des3, enciphered.length.toUInt8.toNat) = _
  rw [hlen, key.toNat_length]

/-- **A block announces the length of its key**, and the cipher that the key is sent for. -/
theorem announced?_of_envelope (h : key.envelope kek = .ok block) :
    announced? block = some (key.cipherUnder kek, key.length) := by
  rcases envelope_cases h with ⟨hcipher, h⟩ | ⟨hcipher, h⟩
  · rw [hcipher, announced?_of_aesEnvelope h]
  · rw [hcipher, announced?_of_tripleDesEnvelope h]

/-- A secret of sixteen bytes is enciphered under another one. -/
theorem exists_aesEnvelope (hkey : key.secret.length = 16) (hkek : kek.secret.length = 16) :
    ∃ block, key.aesEnvelope kek = .ok block := by
  -- the block of an AES key needs the secret in whole blocks and a check value under it
  have haligned : key.secret.length % 16 = 0 := by rw [hkey]
  obtain ⟨enciphered, hsealed⟩ := Aes.exists_cbcEncrypt hkek haligned (Block.zero 16)
  obtain ⟨c, hc⟩ := Aes.exists_ofSecret hkey
  have hcheck : CheckValue.aes key.secret =
      .ok (((Aes.cipher c).encrypt (Block.fill 16 1)).slice 0 3) := by
    rw [CheckValue.aes, hc]
    rfl
  exact ⟨_, bind_eq_ok_iff.2 ⟨enciphered, hsealed, bind_eq_ok_iff.2 ⟨_, hcheck, rfl⟩⟩⟩

/-- A key of sixteen bytes is enciphered under an AES key, unless it is one for DES. -/
theorem exists_envelope_of_aes (hcipher : key.cipher = .generic ∨ key.cipher = .aes)
    (hkey : key.secret.length = 16) (hkek : kek.cipher = .aes) (hlen : kek.secret.length = 16) :
    ∃ block, key.envelope kek = .ok block := by
  obtain ⟨block, hblock⟩ := exists_aesEnvelope hkey hlen
  refine ⟨block, ?_⟩
  unfold envelope
  rcases hcipher with hcipher | hcipher
  · rw [hcipher, hkek]
    exact mapError_eq_ok_iff.2 hblock
  · rw [hcipher, hkek]
    exact mapError_eq_ok_iff.2 hblock

/-- A key for triple DES or AES is sent as what it is. -/
theorem cipherUnder_eq (h : key.cipher = .des3 ∨ key.cipher = .aes) :
    key.cipherUnder kek = key.cipher := by
  unfold cipherUnder
  rcases h with h | h
  · simp [h]
  · simp [h]

end Key

namespace Command

@[simp] theorem dataBytes_putKey (keyId replaced : UInt8) (data : Bytes) (more multiple : Bool) :
    (putKey keyId replaced data more multiple).dataBytes = data := by
  rw [putKey, dataBytes_withLe, dataBytes_globalPlatform]

/-- The blocks of all keys follow the new version. -/
theorem putKeys_eq_ok {replaced version : UInt8} {keys : List Key} {kek : Key} {command : Command}
    (h : putKeys replaced version keys kek = .ok command) :
    ∃ first rest blocks, keys = first :: rest ∧ keys.mapM (·.envelope kek) = .ok blocks ∧
      command = putKey first.id replaced (version :: blocks.flatten) false (1 < keys.length) := by
  unfold putKeys at h
  cases keys with
  -- without a key there is no command to put its block into
  | nil => cases h
  | cons first rest =>
    obtain ⟨blocks, hblocks, h⟩ := bind_eq_ok_iff.1 h
    cases h
    exact ⟨first, rest, blocks, rfl, hblocks, rfl⟩

/-- The command names the version that is replaced. -/
theorem header_of_putKeys {replaced version : UInt8} {keys : List Key} {kek : Key}
    {command : Command} (h : putKeys replaced version keys kek = .ok command) :
    command.ins = Instruction.putKey ∧ command.p1 = replaced := by
  obtain ⟨first, rest, blocks, -, -, rfl⟩ := putKeys_eq_ok h
  exact ⟨rfl, UInt8.or_zero⟩

/-- **Each key has its block in the command.** -/
theorem exists_block_of_putKeys {replaced version : UInt8} {keys : List Key} {kek : Key}
    {command : Command} (h : putKeys replaced version keys kek = .ok command) {k : Key}
    (hk : k ∈ keys) :
    ∃ earlier block later, command.dataBytes = version :: earlier ++ block ++ later ∧
      k.envelope kek = .ok block := by
  -- the blocks before that of the key, and those after it, are only moved together
  obtain ⟨first, rest, blocks, -, hblocks, rfl⟩ := putKeys_eq_ok h
  obtain ⟨earlier, block, later, rfl, hblock⟩ := exists_of_mapM_eq_ok hblocks hk
  refine ⟨earlier.flatten, block, later.flatten, ?_, hblock⟩
  rw [dataBytes_putKey, List.flatten_append, List.flatten_cons, List.cons_append,
    List.cons_append, List.append_assoc]

end Command

end SmartCard
