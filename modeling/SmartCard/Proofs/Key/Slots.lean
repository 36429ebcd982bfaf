import SmartCard.Key.Slot
import SmartCard.Proofs.Outcome

/-!
# The check of a replacement

A set can replace the keys of one version if each slot of that version finds its key in the set
(`KeySlot.Takes`) and each key of the set is asked for by one of these slots.
`KeySlot.checkReplacement_eq_ok_iff` says that the check passes exactly then. The version is chosen
by the check (`KeySlot.replacedVersion?_eq_some_iff`): that of the set if a slot has it, and that of
the first slot otherwise. -/

namespace SmartCard.KeySlot

variable {slots : List KeySlot} {slot : KeySlot} {candidate : KeySet} {k : Key} {version : UInt8}

/-! ### Reading -/

/-- Slots are read from the objects that were read. -/
theorem parseAll_of_readAll {s : Bytes} {objects : List Ber.Object}
    (h : Ber.readAll s = .ok objects) :
    parseAll s = ((templateObjects objects).filter (·.tag = slotTag)).mapM ofObject := by
  change (Ber.readAll s).mapError _ >>= _ = _
  rw [h]
  rfl

/-- A template with one slot. -/
theorem parseAll_oneSlot (slot : KeySlot) : parseAll [0xE0, 0x06, 0xC0, 0x04, slot.keyId,
    slot.keyVersion, slot.keyType, slot.size] = .ok [slot] := by
  -- the reader is run on the bytes around the four that are open
  have hread : Ber.readAll [0xE0, 0x06, 0xC0, 0x04, slot.keyId, slot.keyVersion, slot.keyType,
      slot.size] = .ok [.constructed [0xE0] [.primitive [0xC0] [slot.keyId, slot.keyVersion,
        slot.keyType, slot.size]]] := by
    cbv
  rw [parseAll_of_readAll hread]
  rfl

/-- A template with two slots. -/
theorem parseAll_twoSlots (slot other : KeySlot) : parseAll [0xE0, 0x0C, 0xC0, 0x04, slot.keyId,
    slot.keyVersion, slot.keyType, slot.size, 0xC0, 0x04, other.keyId, other.keyVersion,
    other.keyType, other.size] = .ok [slot, other] := by
  have hread : Ber.readAll [0xE0, 0x0C, 0xC0, 0x04, slot.keyId, slot.keyVersion, slot.keyType,
      slot.size, 0xC0, 0x04, other.keyId, other.keyVersion, other.keyType, other.size] =
        .ok [.constructed [0xE0] [
          .primitive [0xC0] [slot.keyId, slot.keyVersion, slot.keyType, slot.size],
          .primitive [0xC0] [other.keyId, other.keyVersion, other.keyType, other.size]]] := by
    cbv
  rw [parseAll_of_readAll hread]
  rfl

/-! ### Checking -/

/-- A key has the length of the slot, and its cipher unless it is generic. -/
theorem accepts_iff : slot.accepts k = true ↔
    (k.cipher = .generic ∨ slot.cipher? = some k.cipher) ∧ k.length = slot.size.toNat := by
  unfold accepts
  rw [Bool.and_eq_true, Bool.or_eq_true, beq_iff_eq, beq_iff_eq, beq_iff_eq]

/-- The slot takes a key of the set: the first one with its id. -/
structure Takes (slot : KeySlot) (candidate : KeySet) (k : Key) : Prop where
  found : candidate.keys.find? (·.id == slot.keyId) = some k
  cipher : k.cipher = .generic ∨ slot.cipher? = some k.cipher
  length_eq : k.length = slot.size.toNat

theorem Takes.mem (h : slot.Takes candidate k) : k ∈ candidate.keys :=
  List.mem_of_find?_eq_some h.found

theorem checkSlot_eq_ok_iff : checkSlot candidate slot = .ok () ↔ ∃ k, slot.Takes candidate k := by
  unfold checkSlot
  cases hfound : candidate.keys.find? (·.id == slot.keyId) with
  | none =>
    constructor
    · intro h
      cases h
    · rintro ⟨k, hk⟩
      -- a slot takes a key only if the search finds one
      rw [hk.found] at hfound
      cases hfound
  | some k =>
    constructor
    · intro h
      change (if slot.accepts k = true then _ else _) = _ at h
      by_cases haccepts : slot.accepts k = true
      · obtain ⟨hcipher, hlength⟩ := accepts_iff.1 haccepts
        exact ⟨k, hfound, hcipher, hlength⟩
      · rw [if_neg haccepts] at h
        cases h
    · rintro ⟨l, hl⟩
      -- the search has one outcome, so the key is the one that was checked
      obtain rfl := Option.some.inj (hfound.symm.trans hl.found)
      exact if_pos (accepts_iff.2 ⟨hl.cipher, hl.length_eq⟩)

/-- **The version is that of the set if the card lists it**, and the first one listed otherwise. -/
theorem replacedVersion?_eq_some_iff : replacedVersion? slots candidate = some version ↔
    (∃ slot ∈ slots, slot.keyVersion = candidate.version) ∧ candidate.version = version ∨
      (∀ slot ∈ slots, slot.keyVersion ≠ candidate.version) ∧
        slots.head?.map keyVersion = some version := by
  unfold replacedVersion?
  by_cases hlisted : ∃ slot ∈ slots, slot.keyVersion = candidate.version
  · -- both searches look for the same version
    have hany : slots.any (·.keyVersion == candidate.version) = true := by
      obtain ⟨slot, hslot, hversion⟩ := hlisted
      exact List.any_eq_true.2 ⟨slot, hslot, beq_iff_eq.2 hversion⟩
    have hnot : ¬∀ slot ∈ slots, slot.keyVersion ≠ candidate.version := by
      obtain ⟨slot, hslot, hversion⟩ := hlisted
      exact fun h => h slot hslot hversion
    rw [if_pos hany, Option.some.injEq]
    exact ⟨fun h => .inl ⟨hlisted, h⟩, fun h => h.elim And.right fun h => absurd h.1 hnot⟩
  · -- no slot has the version, so the first one listed decides
    have hnone : ∀ slot ∈ slots, slot.keyVersion ≠ candidate.version :=
      fun slot hslot hversion => hlisted ⟨slot, hslot, hversion⟩
    have hany : ¬slots.any (·.keyVersion == candidate.version) = true := by
      intro h
      obtain ⟨slot, hslot, hversion⟩ := List.any_eq_true.1 h
      exact hnone slot hslot (beq_iff_eq.1 hversion)
    rw [if_neg hany]
    exact ⟨fun h => .inr ⟨hnone, h⟩, fun h => h.elim (fun h => absurd h.1 hlisted) And.right⟩

/-- **The check passes exactly if slots and keys match**: the slots of the chosen version, and all
keys of the set. -/
theorem checkReplacement_eq_ok_iff : checkReplacement slots candidate = .ok () ↔
    ∃ version, replacedVersion? slots candidate = some version ∧
      (∀ slot ∈ slots, slot.keyVersion = version → ∃ k, slot.Takes candidate k) ∧
      ∀ k ∈ candidate.keys, ∃ slot ∈ slots, slot.keyVersion = version ∧ slot.keyId = k.id := by
  unfold checkReplacement
  cases replacedVersion? slots candidate with
  | none => simp
  | some version =>
    -- the last step of the check looks for a key that no slot asks for
    have hextra : (∀ k ∈ candidate.keys, ∃ slot ∈ slots, slot.keyVersion = version ∧
        slot.keyId = k.id) ↔ candidate.keys.find? (fun k =>
          !(slots.filter (·.keyVersion == version)).any (·.keyId == k.id)) = none := by
      rw [List.find?_eq_none]
      simp
    have hslots : (∀ slot ∈ slots, slot.keyVersion = version → ∃ k, slot.Takes candidate k) ↔
        (slots.filter (·.keyVersion == version)).forM (checkSlot candidate) = .ok () := by
      rw [forM_eq_ok_iff]
      simp [checkSlot_eq_ok_iff]
    simp only [Option.some.injEq, exists_eq_left']
    rw [hextra, hslots, bind_eq_ok_iff]
    constructor
    · rintro ⟨⟨⟩, hpass, hrest⟩
      refine ⟨hpass, ?_⟩
      -- a key without a slot would have been an error
      split at hrest
      · cases hrest
      · assumption
    · rintro ⟨hpass, hnone⟩
      exact ⟨(), hpass, by rw [hnone]; rfl⟩

end SmartCard.KeySlot
