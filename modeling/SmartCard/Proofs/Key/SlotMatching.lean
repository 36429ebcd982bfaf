import SmartCard.Proofs.Key.Slots
import SmartCard.Proofs.Key.Table

/-!
# Slots and keys that fit each other

The check of a replacement goes through the slots of one version and looks for a key for each of
them. A key fits a slot if it has its id, its length, and its cipher unless it is generic
(`KeySlot.Fits`).

`KeySlot.checkReplacement_iff_matched` says what the check is worth: it passes exactly if slots
and keys match in both directions (`KeySlot.Matched`), where of all keys with the id zero only the
first one counts (`KeySet.Leads`). Nonzero ids belong to one key of a set each, so nothing is lost
for them. The id zero may be shared, and a look-up by id then finds the first key that has it. The
others pass on the strength of that one, whatever they are (`KeySlot.checkReplacement_unfit`). -/

namespace SmartCard

/-! ### Keys that are found by their id -/

namespace KeySet

variable {s : KeySet} {k l : Key} {id : UInt8}

/-- A key that is found by its id: every key with a nonzero id, and of those with the id zero the
first one. -/
def Leads (s : KeySet) (k : Key) : Prop :=
  k ∈ s.keys ∧ (k.id = 0 → s.keys.find? (·.id == 0) = some k)

theorem leads_of_id_ne_zero (hk : k ∈ s.keys) (hid : k.id ≠ 0) : s.Leads k :=
  ⟨hk, fun hzero => absurd hzero hid⟩

/-- **A look-up by id finds the key that leads.** -/
theorem find?_id_eq_some_iff :
    s.keys.find? (·.id == id) = some k ↔ s.Leads k ∧ k.id = id := by
  by_cases hid : id = 0
  · rw [hid]
    constructor
    · intro hfound
      have hzero : k.id = 0 := by simpa using List.find?_some hfound
      exact ⟨⟨List.mem_of_find?_eq_some hfound, fun _ => hfound⟩, hzero⟩
    · rintro ⟨hleads, hzero⟩
      exact hleads.2 hzero
  · -- only one key has this id, so it does not matter which one comes first
    rw [find?_keys_eq_some_iff hid, ← mem_keys]
    constructor
    · rintro ⟨hk, rfl⟩
      exact ⟨leads_of_id_ne_zero hk hid, rfl⟩
    · rintro ⟨hleads, rfl⟩
      exact ⟨hleads.1, rfl⟩

/-- No two keys with one id both lead. -/
theorem Leads.eq (hk : s.Leads k) (hl : s.Leads l) (h : k.id = l.id) : k = l := by
  have hfound : s.keys.find? (·.id == l.id) = some k := find?_id_eq_some_iff.2 ⟨hk, h⟩
  exact Option.some.inj (hfound.symm.trans (find?_id_eq_some_iff.2 ⟨hl, rfl⟩))

/-- Every key has one with its id that leads. -/
theorem exists_leads (hk : k ∈ s.keys) : ∃ l, s.Leads l ∧ l.id = k.id := by
  cases hfound : s.keys.find? (·.id == k.id) with
  -- the key itself has the id, so the search finds one
  | none => exact absurd (beq_self_eq_true k.id) (List.find?_eq_none.1 hfound k hk)
  | some l => exact ⟨l, find?_id_eq_some_iff.1 hfound⟩

end KeySet

namespace KeySlot

variable {slots : List KeySlot} {slot : KeySlot} {candidate : KeySet} {k : Key} {version : UInt8}

/-! ### Matching in both directions -/

/-- The key is one for the slot. -/
structure Fits (slot : KeySlot) (k : Key) : Prop where
  id_eq : k.id = slot.keyId
  cipher : k.cipher = .generic ∨ slot.cipher? = some k.cipher
  length_eq : k.length = slot.size.toNat

instance (slot : KeySlot) (k : Key) : Decidable (slot.Fits k) :=
  decidable_of_iff (k.id = slot.keyId ∧ (k.cipher = .generic ∨ slot.cipher? = some k.cipher) ∧
    k.length = slot.size.toNat) ⟨fun h => ⟨h.1, h.2.1, h.2.2⟩, fun h => ⟨h.1, h.2, h.3⟩⟩

/-- A slot takes the leading key with its id, if that fits. -/
theorem takes_iff : slot.Takes candidate k ↔ candidate.Leads k ∧ slot.Fits k := by
  constructor
  · intro h
    -- what the search finds leads, and has the id of the slot
    obtain ⟨hleads, hid⟩ := KeySet.find?_id_eq_some_iff.1 h.found
    exact ⟨hleads, hid, h.cipher, h.length_eq⟩
  · rintro ⟨hleads, hfits⟩
    exact ⟨KeySet.find?_id_eq_some_iff.2 ⟨hleads, hfits.id_eq⟩, hfits.cipher, hfits.length_eq⟩

/-- The version whose slots are checked: that of the set if a slot has it, and that of the first
slot otherwise. -/
def Checks (slots : List KeySlot) (candidate : KeySet) (version : UInt8) : Prop :=
  ((∃ slot ∈ slots, slot.keyVersion = candidate.version) ∧ version = candidate.version) ∨
    (∀ slot ∈ slots, slot.keyVersion ≠ candidate.version) ∧
      ∃ first rest, slots = first :: rest ∧ version = first.keyVersion

theorem replacedVersion?_eq_some_iff_checks :
    replacedVersion? slots candidate = some version ↔ Checks slots candidate version := by
  have hhead : slots.head?.map keyVersion = some version ↔
      ∃ first rest, slots = first :: rest ∧ version = first.keyVersion := by
    -- the first slot decides, if there is one
    cases slots with
    | nil => simp
    | cons first rest =>
      constructor
      · intro h
        exact ⟨first, rest, rfl, (Option.some.inj h).symm⟩
      · rintro ⟨_, _, h, rfl⟩
        cases h
        rfl
  rw [replacedVersion?_eq_some_iff, hhead, Checks, eq_comm (a := candidate.version)]

/-- **Slots and keys fit each other**: there is a key for each slot, and a slot for each key that
leads. -/
structure Matched (group : List KeySlot) (candidate : KeySet) : Prop where
  served : ∀ slot ∈ group, ∃ k, candidate.Leads k ∧ slot.Fits k
  placed : ∀ k, candidate.Leads k → ∃ slot ∈ group, slot.Fits k

/-- Keys that each have a slot with their id match the slots, once each slot has its key. -/
theorem matched_iff {group : List KeySlot} : Matched group candidate ↔
    (∀ slot ∈ group, ∃ k, slot.Takes candidate k) ∧
      ∀ k ∈ candidate.keys, ∃ slot ∈ group, slot.keyId = k.id := by
  constructor
  · intro h
    refine ⟨fun slot hslot => ?_, fun k hk => ?_⟩
    · obtain ⟨k, hk⟩ := h.served slot hslot
      exact ⟨k, takes_iff.2 hk⟩
    · -- a key that does not lead passes with the slot of the one that does
      obtain ⟨l, hleads, hid⟩ := KeySet.exists_leads hk
      obtain ⟨slot, hslot, hfits⟩ := h.placed l hleads
      exact ⟨slot, hslot, hfits.id_eq.symm.trans hid⟩
  · rintro ⟨hslots, hkeys⟩
    have hserved : ∀ slot ∈ group, ∃ k, candidate.Leads k ∧ slot.Fits k := by
      intro slot hslot
      obtain ⟨k, hk⟩ := hslots slot hslot
      exact ⟨k, takes_iff.1 hk⟩
    refine ⟨hserved, fun k hleads => ?_⟩
    -- the slot with the id of the key has been served, and by no other key
    obtain ⟨slot, hslot, hid⟩ := hkeys k hleads.1
    obtain ⟨l, hl, hfits⟩ := hserved slot hslot
    have hsame : l = k := hl.eq hleads (hfits.id_eq.trans hid)
    exact ⟨slot, hslot, hsame ▸ hfits⟩

/-- **The check passes exactly if slots and keys match.** Of the slots, those of the chosen version
count; of the keys, those that lead, which are all with a nonzero id and the first one with the id
zero. -/
theorem checkReplacement_iff_matched (slots : List KeySlot) (candidate : KeySet) :
    checkReplacement slots candidate = .ok () ↔ ∃ version, Checks slots candidate version ∧
      Matched (slots.filter (·.keyVersion = version)) candidate := by
  rw [checkReplacement_eq_ok_iff]
  refine exists_congr fun version => ?_
  rw [replacedVersion?_eq_some_iff_checks, matched_iff]
  simp only [List.mem_filter, decide_eq_true_eq, and_imp, and_assoc]

/-! ### Two keys with the id zero -/

/-- A key for the one slot with the id zero. -/
def zeroEnc : Key := ⟨0x00, .enc, .aes, KeySet.testSecret, KeySet.aes_accepts_testSecret⟩

/-- A key with the id zero that is of another cipher and another length. -/
def zeroMac : Key :=
  ⟨0x00, .mac, .des3, [0x40, 0x41, 0x42, 0x43, 0x44, 0x45, 0x46, 0x47], by decide⟩

/-- **A key passes without a slot that fits it.** The card lists one slot, for an AES key with the
id zero. The set has such a key, and a triple DES key with the same id. -/
theorem checkReplacement_unfit : ∃ candidate : KeySet,
    (KeySet.empty "new" 0x31).insertAll [zeroEnc, zeroMac] = .ok candidate ∧
      parseAll [0xE0, 0x06, 0xC0, 0x04, 0x00, 0x30, 0x88, 0x10] = .ok [⟨0x00, 0x30, 0x88, 0x10⟩] ∧
      checkReplacement [⟨0x00, 0x30, 0x88, 0x10⟩] candidate = .ok () ∧
      zeroMac ∈ candidate.keys ∧ ¬Fits ⟨0x00, 0x30, 0x88, 0x10⟩ zeroMac :=
  ⟨((KeySet.empty "new" 0x31).add zeroEnc (by decide)).add zeroMac (by decide), rfl,
    parseAll_oneSlot ⟨0x00, 0x30, 0x88, 0x10⟩, rfl, by decide, by decide⟩

end KeySlot

end SmartCard
