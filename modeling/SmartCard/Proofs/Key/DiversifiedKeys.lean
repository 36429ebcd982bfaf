import SmartCard.Proofs.Key.Derivations
import SmartCard.Proofs.Key.Envelopes

/-!
# Diversified keys and their sources

A diversified key is cut from an enciphered block of sixteen bytes (`Key.CutFrom`): it has as many
of them as its source has bytes. Sources have one to four DES keys. One or two are what there is
room for in the block, four are no secret of triple DES, and of a source with three the block has
only two (`Key.length_of_cut`). What is cut is still a key of the same cipher
(`KeyCipher.accepts_min`), so that nothing refuses the shorter key.

`KeySet.diversifies` says when a key set can be diversified, and what its keys are then. -/

namespace SmartCard

variable {s t : KeySet} {k source : Key} {u : KeyUsage} {scheme : Diversification}
  {data : Block 10} {block : Block 16}

/-- A key that is cut to sixteen bytes is still one of its cipher. -/
theorem KeyCipher.accepts_min {cipher : KeyCipher} {length : Nat}
    (h : cipher.accepts length = true) : cipher.accepts (min length 16) = true := by
  cases cipher with
  | generic | des | des3 | aes =>
    simp [accepts] at h ⊢
    omega

namespace Key

/-- Triple DES can use all keys but those of four DES keys. -/
theorem usable_iff (k : Key) : TripleDes.Usable k.secret ↔ k.length ≤ 24 := by
  rw [TripleDes.usable_iff]
  change k.length = 8 ∨ k.length = 16 ∨ k.length = 24 ↔ _
  rcases k.length_cases with h | h | h | h <;> omega

/-- The key is of the cipher of its source, and its secret is the start of a block that is
enciphered under the source: as many bytes as the source has. -/
def CutFrom (k source : Key) (block : Block 16) : Prop :=
  k.cipher = source.cipher ∧ ∃ enciphered : Block 16,
    TripleDes.ecbEncrypt source.secret block.toList = .ok enciphered.toList ∧
      k.secret = enciphered.toList.take source.length

/-- **A key is as long as its source, unless that has three DES keys**: then two of them are made.
-/
theorem length_of_cut (h : k.CutFrom source block) :
    if source.length = 24 then k.length = 16 else k.length = source.length := by
  obtain ⟨-, enciphered, henciphered, hsecret⟩ := h
  -- the block has sixteen bytes, so there are no more to be cut off
  have hlen : k.length = min source.length 16 := by
    rw [length, hsecret, List.length_take, enciphered.length_toList]
  have hle := source.usable_iff.1 (TripleDes.exists_ecbEncrypt_iff.1 ⟨_, henciphered⟩)
  rw [hlen]
  -- by the number of DES keys in the source; four would not have enciphered anything
  rcases source.length_cases with h | h | h | h
  · rw [h]; decide
  · rw [h]; decide
  · rw [h]; decide
  · omega

end Key

namespace KeySet

/-- **When a key can be diversified.** -/
theorem exists_diversifyKey_iff : (∃ k, diversifyKey scheme data source u = .ok k) ↔
    source.cipher ≠ .aes ∧ source.length ≤ 24 := by
  simp only [diversifyKey_eq_ok_iff, exists_and_left]
  -- an AES key is refused before anything is enciphered
  refine and_congr_right fun _ => ?_
  rw [← source.usable_iff]
  constructor
  · rintro ⟨k, enciphered, henciphered, -⟩
    exact TripleDes.exists_ecbEncrypt_iff.1 ⟨enciphered, henciphered⟩
  · intro husable
    obtain ⟨enciphered, henciphered⟩ := TripleDes.exists_ecbEncrypt_iff.2 husable
    have hlen : (enciphered.take source.length).length = min source.length 16 := by
      rw [List.length_take, TripleDes.length_of_ecbEncrypt henciphered, Block.length_toList]
    -- a key of any cipher may be cut, and is still accepted
    have hfits : source.cipher.accepts (enciphered.take source.length).length = true :=
      hlen ▸ KeyCipher.accepts_min source.fits
    obtain ⟨k, hk⟩ : ∃ k, source.derive u source.cipher (enciphered.take source.length) = .ok k :=
      Key.exists_make hfits
    exact ⟨k, enciphered, henciphered, hk⟩

theorem cutFrom_of_diversified (h : Diversified scheme data u source k) :
    k.CutFrom source (scheme.block data u) := by
  obtain ⟨hcipher, enciphered, henciphered, hsecret⟩ := h
  have hlen := TripleDes.length_of_ecbEncrypt henciphered
  rw [Block.length_toList] at hlen
  exact ⟨hcipher, ⟨enciphered, hlen⟩, henciphered, hsecret⟩

/-- **What diversification takes and what it makes.** -/
structure Diversifies (s : KeySet) (scheme : Diversification) (data : Block 10) : Prop where
  /-- It succeeds exactly if no scheme was applied before, and triple DES can use every key that it
  takes, none of which is an AES key. -/
  succeeds_iff : (∃ t, s.diversify (some scheme) data = .ok t) ↔
    s.diversification = none ∧ ∀ u source, u ≠ .master → s.diversificationSource? u = some source →
      source.cipher ≠ .aes ∧ source.length ≤ 24
  /-- Each key is cut from the block of its role. -/
  cutFrom : ∀ t u k, s.diversify (some scheme) data = .ok t → t.find? u = some k →
    ∃ source, s.diversificationSource? u = some source ∧
      k.CutFrom source (scheme.block data u) ∧
      if source.length = 24 then k.length = 16 else k.length = source.length

/-- **Diversification of any key set.** -/
theorem diversifies (s : KeySet) (scheme : Diversification) (data : Block 10) :
    s.Diversifies scheme data where
  succeeds_iff := by
    -- the keys that are made fit into one set, so that only making them can fail
    rw [diversify_eq_fill]
    simp only [guard_eq_ok_iff, exists_and_left, Option.not_isSome_iff_eq_none]
    refine and_congr_right fun _ => ?_
    refine (s.makes_diversifiedKeys scheme data).exists_fill_iff.trans ?_
    simp only [Option.map_eq_some_iff]
    constructor
    · intro h u source hu hsource
      exact exists_diversifyKey_iff.1 (h u hu _ ⟨source, hsource, rfl⟩)
    · rintro h u hu key ⟨source, hsource, rfl⟩
      exact exists_diversifyKey_iff.2 (h u source hu hsource)
  cutFrom t u k h hk := by
    have hderived := derived_of_diversify h
    -- nothing is put in for the master key
    have hu : u ≠ .master := by
      rintro rfl
      rw [hderived.find?_master] at hk
      cases hk
    obtain ⟨source, _, hsource, hfound, -, hmade⟩ :=
      hderived.exists_of_isSome hu (hk ▸ rfl)
    cases hk.symm.trans hfound
    have hcut := cutFrom_of_diversified hmade
    exact ⟨source, hsource, hcut, Key.length_of_cut hcut⟩

/-- Two DES keys are diversified to two. -/
theorem diversifies_issuerKeys : ∃ t k, issuerKeys.diversify (some .emv) issuerData = .ok t ∧
    t.find? .enc = some k ∧ k.length = 16 ∧
      ∃ source, issuerKeys.diversificationSource? .enc = some source ∧
        k.CutFrom source (Diversification.emv.block issuerData .enc) := by
  have hmade : (issuerKeys.diversify (some .emv) issuerData).toOption.bind
      (fun t => (t.find? .enc).map Key.length) = some 16 := by decide +kernel
  obtain ⟨t, ht, hkey⟩ := Option.bind_eq_some_iff.1 hmade
  obtain ⟨k, hk, hlen⟩ := Option.map_eq_some_iff.1 hkey
  rw [toOption_eq_some_iff] at ht
  obtain ⟨source, hsource, hcut, -⟩ := (issuerKeys.diversifies .emv issuerData).cutFrom t _ k ht hk
  exact ⟨t, k, ht, hk, hlen, source, hsource, hcut⟩

/-- A master key of three DES keys. -/
def threeDesKeys : KeySet :=
  (empty "m" 0).add ⟨0, .master, .des3, [0x01, 0x23, 0x45, 0x67, 0x89, 0xAB, 0xCD, 0xEF, 0xFE, 0xDC,
    0xBA, 0x98, 0x76, 0x54, 0x32, 0x10, 0x00, 0x11, 0x22, 0x33, 0x44, 0x55, 0x66, 0x77],
    by decide⟩ ⟨rfl, .inl rfl⟩

/-- Three DES keys are diversified to two, without an error. -/
theorem diversify_threeDesKeys : ∃ t source k,
    threeDesKeys.diversify (some .visa2) issuerData = .ok t ∧
      threeDesKeys.diversificationSource? .enc = some source ∧ t.find? .enc = some k ∧
      source.length = 24 ∧ k.length = 16 := by
  have hmade : (threeDesKeys.diversify (some .visa2) issuerData).toOption.bind
      (fun t => (t.find? .enc).map Key.length) = some 16 := by decide +kernel
  obtain ⟨t, ht, hkey⟩ := Option.bind_eq_some_iff.1 hmade
  obtain ⟨k, hk, hlen⟩ := Option.map_eq_some_iff.1 hkey
  exact ⟨t, _, k, toOption_eq_some_iff.1 ht, rfl, hk, rfl, hlen⟩

end KeySet

end SmartCard
