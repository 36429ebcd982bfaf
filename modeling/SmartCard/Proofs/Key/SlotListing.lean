import SmartCard.Proofs.Key.Slots
import SmartCard.Proofs.Tlv.ShortestForm

/-!
# Listed slots and their reader

A slot is listed as an object with its id, its version, and the type and size of its key
(`KeySlot.slotObject`). The objects stand in a template or in a bare list, and objects with other
tags may stand between them (`KeySlot.slotObjects` leaves these out).

What an object with the tag of a slot tells is one of three things: a slot (`KeySlot.Lists`), a key
with several components (`KeySlot.ListsSeveral`), or neither (`KeySlot.Malformed`). Only the first
one is read (`KeySlot.parseAll_eq_ok_iff`), and the first object that tells something else decides
how reading fails (`KeySlot.parseAll_eq_error`). So no slot is lost between a card and the check of
a replacement. -/

namespace SmartCard.KeySlot

variable {objects before after : List Ber.Object} {object : Ber.Object} {slot : KeySlot}
  {slots : List KeySlot} {s : Bytes} {e : Error}

/-! ### What an object tells -/

/-- The object that lists a slot. -/
def slotObject (slot : KeySlot) : Ber.Object :=
  .primitive slotTag [slot.keyId, slot.keyVersion, slot.keyType, slot.size]

/-- The object lists the slot: after id and version come the type and the size of one component. -/
def Lists (object : Ber.Object) (slot : KeySlot) : Prop :=
  object.value? = some [slot.keyId, slot.keyVersion, slot.keyType, slot.size]

/-- The object lists a key with several components. -/
def ListsSeveral (object : Ber.Object) : Prop :=
  ∃ value, object.value? = some value ∧ 6 ≤ value.length ∧ value.length % 2 = 0

/-- The object has objects inside, or a value without a component, or half of one at its end. -/
def Malformed (object : Ber.Object) : Prop :=
  ∀ value, object.value? = some value → value.length < 4 ∨ value.length % 2 = 1

theorem parse_eq_ok_iff :
    parse s = .ok slot ↔ s = [slot.keyId, slot.keyVersion, slot.keyType, slot.size] := by
  constructor
  · intro h
    unfold parse at h
    -- the four arms of the reader: one component, an odd rest, several components, no header
    split at h
    · split at h
      · obtain rfl := Except.ok.inj h
        rfl
      · split at h
        · cases h
        · cases h
    · cases h
  · rintro rfl
    rfl

theorem parse_of_malformed (h : s.length < 4 ∨ s.length % 2 = 1) :
    ∃ fault, parse s = .error (.protocol fault) := by
  unfold parse
  split
  · rename_i keyId keyVersion components
    -- a single component has two bytes, which are neither too few nor odd
    simp only [List.length_cons] at h
    split
    · simp at h
    · rw [if_pos]
      · exact ⟨_, rfl⟩
      · -- fewer than two bytes, or half a component
        rw [Bool.or_eq_true, List.isEmpty_iff_length_eq_zero, bne_iff_ne]
        omega
  · exact ⟨_, rfl⟩

theorem parse_of_several (hlen : 6 ≤ s.length) (heven : s.length % 2 = 0) :
    ∃ feature, parse s = .error (.unsupported feature) := by
  unfold parse
  split
  · rename_i keyId keyVersion components
    simp only [List.length_cons] at hlen heven
    split
    · -- six bytes and more leave four for the components, so they are not one component
      simp at hlen
    · rw [if_neg]
      · exact ⟨_, rfl⟩
      · rw [Bool.or_eq_true, List.isEmpty_iff_length_eq_zero, bne_iff_ne]
        omega
  · rename_i hshort
    match s, hlen with
    | keyId :: keyVersion :: components, _ => exact absurd rfl (hshort keyId keyVersion components)

/-- **A slot is made of the objects that list one.** -/
theorem ofObject_eq_ok_iff : ofObject object = .ok slot ↔ Lists object slot := by
  unfold ofObject Lists
  cases object.value? with
  -- objects inside and no value: neither side holds
  | none => exact ⟨nofun, nofun⟩
  | some value => rw [Option.some.injEq, ← parse_eq_ok_iff]

theorem ofObject_of_malformed (h : Malformed object) :
    ∃ fault, ofObject object = .error (.protocol fault) := by
  unfold ofObject
  cases hvalue : object.value? with
  | none => exact ⟨_, rfl⟩
  | some value => exact parse_of_malformed (h value hvalue)

theorem ofObject_of_several (h : ListsSeveral object) :
    ∃ feature, ofObject object = .error (.unsupported feature) := by
  obtain ⟨value, hvalue, hlen, heven⟩ := h
  unfold ofObject
  rw [hvalue]
  exact parse_of_several hlen heven

/-! ### Lists -/

/-- The objects of a template or of a bare list that have the tag of a slot. -/
def slotObjects (objects : List Ber.Object) : List Ber.Object :=
  (templateObjects objects).filter (·.tag = slotTag)

/-- **Slots are read exactly if each object with the tag of a slot lists one**, and these are the
slots, in order. -/
theorem parseAll_eq_ok_iff : parseAll s = .ok slots ↔ ∃ objects, Ber.readAll s = .ok objects ∧
    List.Forall₂ Lists (slotObjects objects) slots := by
  unfold parseAll slotObjects
  rw [bind_eq_ok_iff]
  simp only [mapError_eq_ok_iff, mapM_eq_ok_iff, ofObject_eq_ok_iff]

/-- **The first object that lists no slot decides how reading fails.** -/
theorem parseAll_eq_error (hread : Ber.readAll s = .ok objects)
    (hobjects : slotObjects objects = before ++ object :: after)
    (hbefore : ∀ earlier ∈ before, ∃ slot, Lists earlier slot)
    (hobject : ofObject object = .error e) : parseAll s = .error e := by
  rw [parseAll_of_readAll hread]
  -- the reader stops at the first failure, so the objects before it have to list slots
  refine mapM_eq_error_iff.2 ⟨before, object, after, hobjects, fun earlier hearlier => ?_, hobject⟩
  obtain ⟨slot, hslot⟩ := hbefore earlier hearlier
  exact ⟨slot, ofObject_eq_ok_iff.2 hslot⟩

/-- If slots are read, each object with the tag of a slot lists one. -/
theorem exists_lists_of_parseAll (hread : Ber.readAll s = .ok objects)
    (h : parseAll s = .ok slots) (hobject : object ∈ slotObjects objects) :
    ∃ slot, Lists object slot := by
  rw [parseAll_of_readAll hread] at h
  obtain ⟨-, slot, -, -, hslot⟩ := exists_of_mapM_eq_ok h hobject
  exact ⟨slot, ofObject_eq_ok_iff.1 hslot⟩

/-- Slots are listed by their objects. -/
theorem forall₂_lists_map (slots : List KeySlot) :
    List.Forall₂ Lists (slots.map slotObject) slots :=
  List.forall₂_map_left_iff.2 (List.forall₂_same.2 fun _ _ => rfl)

/-- A list without a template among its objects is a bare one. -/
theorem slotObjects_of_bare (h : ∀ object ∈ objects, object.tag ≠ templateTag) :
    slotObjects objects = objects.filter (·.tag = slotTag) := by
  unfold slotObjects templateObjects
  split
  · -- a single object could be a template, if it had the tag of one
    rw [if_neg (h _ (List.mem_singleton_self _))]
  · rfl

/-! ### Exact reading -/

/-- **What is made of listed slots.** -/
structure ReadsSlots (s : Bytes) : Prop where
  /-- Slots are read exactly if the objects of the data, as the reader takes them, list these slots,
  in this order. -/
  lossless : ∀ slots, parseAll s = .ok slots ↔ ∃ objects, Ber.SpellsAll Ber.counted objects s ∧
    List.Forall₂ Lists (slotObjects objects) slots
  /-- The first object that lists no slot is a fault of the card if it is malformed. -/
  malformed : ∀ objects before object after, Ber.SpellsAll Ber.counted objects s →
    slotObjects objects = before ++ object :: after →
    (∀ earlier ∈ before, ∃ slot, Lists earlier slot) → Malformed object →
      ∃ fault, parseAll s = .error (.protocol fault)
  /-- It is not provided for if it has several components. -/
  several : ∀ objects before object after, Ber.SpellsAll Ber.counted objects s →
    slotObjects objects = before ++ object :: after →
    (∀ earlier ∈ before, ∃ slot, Lists earlier slot) → ListsSeveral object →
      ∃ feature, parseAll s = .error (.unsupported feature)
  /-- No slot is left out. -/
  kept : ∀ objects, Ber.SpellsAll Ber.counted objects s →
    (∃ object ∈ slotObjects objects, Malformed object ∨ ListsSeveral object) →
      ∀ slots, parseAll s ≠ .ok slots

/-- **Listed slots are read exactly**, from a template and from a bare list alike. -/
theorem readsSlots :
    (∀ slot : KeySlot, slot.slotObject.encode =
      [0xC0, 0x04, slot.keyId, slot.keyVersion, slot.keyType, slot.size]) ∧
    (∀ slots objects, (∀ object ∈ objects, object.WellFormed) →
      (∀ object ∈ objects, object.tag ≠ templateTag) →
      objects.filter (·.tag = slotTag) = slots.map slotObject →
        parseAll (Ber.encodeAll objects) = .ok slots ∧
        ((Ber.encodeAll objects).length < 2 ^ 32 →
          parseAll (Ber.Object.constructed templateTag objects).encode = .ok slots)) ∧
    ∀ s, ReadsSlots s := by
  refine ⟨fun slot => rfl, ?written, fun s => ⟨?lossless, ?malformed, ?several, ?kept⟩⟩
  case written =>
    intro slots objects hformed hbare hslots
    have hlists : List.Forall₂ Lists (objects.filter (·.tag = slotTag)) slots := by
      rw [hslots]
      exact forall₂_lists_map slots
    refine ⟨parseAll_eq_ok_iff.2 ⟨objects, Ber.readAll_encodeAll hformed, ?_⟩, fun hlen => ?_⟩
    · -- no template among the objects: the list itself holds the slots
      rwa [slotObjects_of_bare hbare]
    · -- the template is read as one object, and its parts are the list again
      have htemplate : (Ber.Object.constructed templateTag objects).WellFormed :=
        ⟨by decide, rfl, Ber.length_encodeAll objects ▸ hlen, Ber.wellFormedAll_iff.2 hformed⟩
      have hread := Ber.readAll_encodeAll (List.forall_mem_singleton.2 htemplate)
      rw [Ber.encodeAll, Ber.encodeAll, List.append_nil] at hread
      exact parseAll_eq_ok_iff.2 ⟨_, hread, hlists⟩
  case lossless =>
    intro slots
    simp only [parseAll_eq_ok_iff, Ber.readAll_eq_ok_iff]
  case malformed =>
    intro objects before object after hspells hobjects hbefore hobject
    obtain ⟨fault, hfault⟩ := ofObject_of_malformed hobject
    -- these are the objects that the reader finds, so it fails at this one
    exact ⟨fault, parseAll_eq_error (Ber.readAll_eq_ok_iff.2 hspells) hobjects hbefore hfault⟩
  case several =>
    intro objects before object after hspells hobjects hbefore hobject
    obtain ⟨feature, hfeature⟩ := ofObject_of_several hobject
    exact ⟨feature, parseAll_eq_error (Ber.readAll_eq_ok_iff.2 hspells) hobjects hbefore hfeature⟩
  case kept =>
    rintro objects hspells ⟨object, hobject, hother⟩ slots hslots
    -- if slots were read, this object would list one
    obtain ⟨slot, hslot⟩ :=
      exists_lists_of_parseAll (Ber.readAll_eq_ok_iff.2 hspells) hslots hobject
    rcases hother with hmalformed | ⟨value, hvalue, hlen, -⟩
    · -- four bytes are not too few, and not odd
      have hshort := hmalformed _ hslot
      simp at hshort
    · obtain rfl := Option.some.inj (hvalue.symm.trans hslot)
      -- four bytes are one component, not several
      simp at hlen

/-- Slots for two keys of 16 bytes. -/
def twoSlots : List KeySlot := [⟨0x01, 0xFF, 0x80, 0x10⟩, ⟨0x02, 0xFF, 0x80, 0x10⟩]

/-- The two slots are read from a bare list and from a template, with objects of other tags after
each of them. Half a component in the second slot is a fault of the card, two components are not
provided for, and neither leaves the first slot alone. -/
theorem readsSlots_twoSlots :
    parseAll [0xC0, 0x04, 0x01, 0xFF, 0x80, 0x10, 0x85, 0x00, 0xC0, 0x04, 0x02, 0xFF, 0x80, 0x10,
      0x7F, 0x21, 0x02, 0xC0, 0x00] = .ok twoSlots ∧
    parseAll [0xE0, 0x13, 0xC0, 0x04, 0x01, 0xFF, 0x80, 0x10, 0x85, 0x00, 0xC0, 0x04, 0x02, 0xFF,
      0x80, 0x10, 0x7F, 0x21, 0x02, 0xC0, 0x00] = .ok twoSlots ∧
    (∃ fault, parseAll [0xC0, 0x04, 0x01, 0xFF, 0x80, 0x10, 0xC0, 0x03, 0x02, 0xFF, 0x80] =
      .error (.protocol fault)) ∧
    (∃ feature, parseAll [0xC0, 0x04, 0x01, 0xFF, 0x80, 0x10, 0xC0, 0x06, 0x02, 0xFF, 0x80, 0x10,
      0x80, 0x10] = .error (.unsupported feature)) ∧
    ∀ slots, parseAll [0xC0, 0x04, 0x01, 0xFF, 0x80, 0x10, 0xC0, 0x03, 0x02, 0xFF, 0x80] ≠
      .ok slots := by
  obtain ⟨-, written, exact⟩ := readsSlots
  obtain ⟨hlist, htemplate⟩ := written twoSlots
    [slotObject ⟨0x01, 0xFF, 0x80, 0x10⟩, .primitive [0x85] [],
      slotObject ⟨0x02, 0xFF, 0x80, 0x10⟩, .constructed [0x7F, 0x21] [.primitive [0xC0] []]]
    (by decide) (by decide) rfl
  have hmalformed : Ber.readAll [0xC0, 0x04, 0x01, 0xFF, 0x80, 0x10, 0xC0, 0x03, 0x02, 0xFF, 0x80] =
      .ok [slotObject ⟨0x01, 0xFF, 0x80, 0x10⟩, .primitive slotTag [0x02, 0xFF, 0x80]] := by cbv
  have hseveral : Ber.readAll [0xC0, 0x04, 0x01, 0xFF, 0x80, 0x10, 0xC0, 0x06, 0x02, 0xFF, 0x80,
      0x10, 0x80, 0x10] = .ok [slotObject ⟨0x01, 0xFF, 0x80, 0x10⟩,
        .primitive slotTag [0x02, 0xFF, 0x80, 0x10, 0x80, 0x10]] := by cbv
  have hfirst : ∀ earlier ∈ [slotObject ⟨0x01, 0xFF, 0x80, 0x10⟩], ∃ slot, Lists earlier slot :=
    List.forall_mem_singleton.2 ⟨_, rfl⟩
  have hhalf : Malformed (.primitive slotTag [0x02, 0xFF, 0x80]) := by
    rintro value ⟨⟩
    exact .inl (by decide)
  have hspells := Ber.readAll_eq_ok_iff.1 hmalformed
  refine ⟨hlist, htemplate (by decide), ?_, ?_, ?_⟩
  · exact (exact _).malformed _ _ _ [] hspells rfl hfirst hhalf
  · exact (exact _).several _ _ _ [] (Ber.readAll_eq_ok_iff.1 hseveral) rfl hfirst
      ⟨_, rfl, by decide, rfl⟩
  · exact (exact _).kept _ hspells ⟨_, List.mem_cons_of_mem _ (List.mem_singleton_self _),
      .inl hhalf⟩

end SmartCard.KeySlot
