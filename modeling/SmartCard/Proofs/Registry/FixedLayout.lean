import SmartCard.Proofs.Tlv.LengthValue
import SmartCard.Registry.Legacy

/-!
# The fixed layout and its reader

In the fixed layout an entry is its identifier with a length byte, the life cycle state, one byte of
privileges and, where entries have modules, their number and each of them with a length byte
(`RegistryEntry.encodeLegacy`). `RegistryEntry.Legacy` says which entries the layout has room for.

Each reader of a part takes exactly what is written for the part and leaves what follows, so reading
is exact (`RegistryEntry.parseLegacy_eq_ok_iff`): the data is read if it is written for some
entries, and these entries are read. All other data ends inside an entry
(`RegistryEntry.endsEarly_parseLegacy`). -/

namespace SmartCard.RegistryEntry

open LengthValue (field)

variable {α β : Type} {withModules : Bool} {s rest value : Bytes} {values modules : List Bytes}
  {entry : RegistryEntry} {entries : List RegistryEntry} {count : Nat} {b : UInt8}

/-! ### The layout -/

/-- The modules of an entry after their number. An entry without modules has no number either. -/
def encodeModules (withModules : Bool) (modules : List Bytes) : Bytes :=
  if withModules then modules.length.toUInt8 :: modules.flatMap field else []

/-- The bytes of an entry. -/
def encodeLegacy (withModules : Bool) (entry : RegistryEntry) : Bytes :=
  field entry.aid ++ entry.lifeCycle :: (entry.privileges ++
    encodeModules withModules entry.modules)

/-- The layout has room for the entry, and for all that the entry tells. -/
structure Legacy (withModules : Bool) (entry : RegistryEntry) : Prop where
  aid_lt : entry.aid.length < 256
  privileges_length : entry.privileges.length = 1
  modules_lt : entry.modules.length < 256
  module_lt : ∀ name ∈ entry.modules, name.length < 256
  /-- Without modules in the layout, the entry has none. -/
  modules_eq : withModules = false → entry.modules = []
  loadFile_eq : entry.loadFile = none
  version_eq : entry.version = none
  securityDomain_eq : entry.securityDomain = none

/-! ### Reading the parts -/

theorem takeByte_eq_ok_iff : takeByte s = .ok (b, rest) ↔ s = b :: rest := by
  cases s with
  | nil => simp [takeByte, truncated]
  | cons c s => simp [takeByte]

/-- **A field is taken exactly if it is there.** -/
theorem takeField_eq_ok_iff : takeField s = .ok (value, rest) ↔
    value.length < 256 ∧ s = field value ++ rest := by
  constructor
  · intro h
    cases s with
    | nil => cases h
    | cons length s =>
      obtain ⟨henough, h⟩ := guard_eq_ok_iff.1 h
      obtain ⟨rfl, rfl⟩ := Prod.mk.inj (Except.ok.inj h)
      -- the length byte is the length of what was taken
      have hlen : (s.take length.toNat).length = length.toNat := by
        rw [List.length_take] at henough ⊢
        omega
      refine ⟨by rw [hlen]; exact length.toNat_lt, ?_⟩
      unfold field
      rw [hlen, Nat.toUInt8_eq, UInt8.ofNat_toNat, List.cons_append, List.take_append_drop]
  · rintro ⟨hlt, rfl⟩
    have hlen : value.length.toUInt8.toNat = value.length := UInt8.toNat_ofNat_of_lt' hlt
    show takeField (value.length.toUInt8 :: (value ++ rest)) = _
    rw [takeField, hlen, List.take_left, List.drop_left, if_neg (Nat.lt_irrefl _)]

theorem takeFields_eq_ok_iff : takeFields count s = .ok (values, rest) ↔
    values.length = count ∧ (∀ value ∈ values, value.length < 256) ∧
      s = values.flatMap field ++ rest := by
  -- on the number of fields that are left
  induction count generalizing s values with
  -- no fields are taken, so all bytes are left
  | zero =>
    constructor
    · intro h
      obtain ⟨rfl, rfl⟩ := Prod.mk.inj (Except.ok.inj h)
      exact ⟨rfl, nofun, rfl⟩
    · rintro ⟨hlen, -, rfl⟩
      obtain rfl := List.length_eq_zero_iff.1 hlen
      rfl
  | succ count ih =>
    constructor
    · intro h
      -- one field is taken, and by induction the others are
      obtain ⟨⟨value, after⟩, hvalue, h⟩ := bind_eq_ok_iff.1 h
      obtain ⟨⟨others, left⟩, hothers, h⟩ := bind_eq_ok_iff.1 h
      obtain ⟨rfl, rfl⟩ := Prod.mk.inj (pure_eq_ok_iff.1 h)
      obtain ⟨hlt, rfl⟩ := takeField_eq_ok_iff.1 hvalue
      obtain ⟨rfl, hall, rfl⟩ := ih.1 hothers
      refine ⟨rfl, List.forall_mem_cons.2 ⟨hlt, hall⟩, ?_⟩
      rw [List.flatMap_cons, List.append_assoc]
    · rintro ⟨hlen, hall, rfl⟩
      cases values with
      | nil => cases hlen
      | cons value others =>
        obtain ⟨hlt, hall⟩ := List.forall_mem_cons.1 hall
        have hvalue : takeField (field value ++ (others.flatMap field ++ rest)) =
            .ok (value, others.flatMap field ++ rest) := takeField_eq_ok_iff.2 ⟨hlt, rfl⟩
        have hothers : takeFields count (others.flatMap field ++ rest) = .ok (others, rest) :=
          ih.2 ⟨Nat.succ.inj hlen, hall, rfl⟩
        rw [List.flatMap_cons, List.append_assoc]
        exact bind_eq_ok_iff.2 ⟨_, hvalue, bind_eq_ok_iff.2 ⟨_, hothers, rfl⟩⟩

theorem takeModules_eq_ok_iff : takeModules withModules s = .ok (modules, rest) ↔
    modules.length < 256 ∧ (∀ name ∈ modules, name.length < 256) ∧
      (withModules = false → modules = []) ∧ s = encodeModules withModules modules ++ rest := by
  cases withModules with
  | false =>
    constructor
    · intro h
      -- without modules nothing is taken, not even a number
      obtain ⟨rfl, rfl⟩ := Prod.mk.inj (Except.ok.inj h)
      exact ⟨by decide, nofun, fun _ => rfl, rfl⟩
    · rintro ⟨-, -, hnone, rfl⟩
      rw [hnone rfl]
      rfl
  | true =>
    constructor
    · intro h
      obtain ⟨⟨number, after⟩, hnumber, h⟩ := bind_eq_ok_iff.1 h
      -- the number comes first, and as many names after it
      obtain rfl := takeByte_eq_ok_iff.1 hnumber
      obtain ⟨hlen, hall, rfl⟩ := takeFields_eq_ok_iff.1 h
      have hmark : number = modules.length.toUInt8 := by
        rw [hlen, Nat.toUInt8_eq, UInt8.ofNat_toNat]
      refine ⟨hlen ▸ number.toNat_lt, hall, nofun, ?_⟩
      rw [hmark]
      rfl
    · rintro ⟨hlt, hall, -, rfl⟩
      have hnumber : modules.length.toUInt8.toNat = modules.length := UInt8.toNat_ofNat_of_lt' hlt
      have hmodules : takeFields modules.length.toUInt8.toNat (modules.flatMap field ++ rest) =
          .ok (modules, rest) := takeFields_eq_ok_iff.2 ⟨hnumber.symm, hall, rfl⟩
      exact bind_eq_ok_iff.2 ⟨_, takeByte_eq_ok_iff.2 rfl, hmodules⟩

/-- **An entry is taken exactly if it is there.** -/
theorem takeEntry_eq_ok_iff : takeEntry withModules s = .ok (entry, rest) ↔
    entry.Legacy withModules ∧ s = encodeLegacy withModules entry ++ rest := by
  constructor
  · intro h
    -- four steps in the order of the entry: name, state, privileges, modules
    obtain ⟨⟨aid, afterAid⟩, hfield, h⟩ := bind_eq_ok_iff.1 h
    obtain ⟨⟨state, afterState⟩, hstate, h⟩ := bind_eq_ok_iff.1 h
    obtain ⟨⟨privileges, afterPrivileges⟩, hprivileges, h⟩ := bind_eq_ok_iff.1 h
    obtain ⟨⟨modules, left⟩, hmodules, h⟩ := bind_eq_ok_iff.1 h
    obtain ⟨rfl, rfl⟩ := Prod.mk.inj (pure_eq_ok_iff.1 h)
    obtain ⟨haid, rfl⟩ := takeField_eq_ok_iff.1 hfield
    obtain rfl := takeByte_eq_ok_iff.1 hstate
    obtain rfl := takeByte_eq_ok_iff.1 hprivileges
    obtain ⟨hcount, hnames, hnone, rfl⟩ := takeModules_eq_ok_iff.1 hmodules
    refine ⟨⟨haid, rfl, hcount, hnames, hnone, rfl, rfl, rfl⟩, ?_⟩
    unfold encodeLegacy
    rw [List.append_assoc]
    rfl
  · rintro ⟨hentry, rfl⟩
    obtain ⟨aid, state, privileges, loadFile, modules, version, securityDomain⟩ := entry
    obtain ⟨haid, hprivileges, hcount, hnames, hnone, rfl, rfl, rfl⟩ := hentry
    -- the privileges are one byte, which is taken as such
    obtain ⟨privilege, rfl⟩ := List.length_eq_one_iff.1 hprivileges
    have hmodules : takeModules withModules (encodeModules withModules modules ++ rest) =
        .ok (modules, rest) := takeModules_eq_ok_iff.2 ⟨hcount, hnames, hnone, rfl⟩
    unfold encodeLegacy
    rw [List.append_assoc]
    refine bind_eq_ok_iff.2 ⟨_, takeField_eq_ok_iff.2 ⟨haid, rfl⟩, ?_⟩
    refine bind_eq_ok_iff.2 ⟨_, takeByte_eq_ok_iff.2 rfl, ?_⟩
    refine bind_eq_ok_iff.2 ⟨_, takeByte_eq_ok_iff.2 rfl, ?_⟩
    exact bind_eq_ok_iff.2 ⟨_, hmodules, rfl⟩

/-! ### Reading entries -/

/-- The bytes of entries one after the other. -/
def legacyData (withModules : Bool) (entries : List RegistryEntry) : Bytes :=
  entries.flatMap (encodeLegacy withModules)

theorem parseLegacyAfter_nil (before : List RegistryEntry) (withModules : Bool) :
    parseLegacyAfter before withModules [] = .ok before.reverse := by
  rw [parseLegacyAfter]
  rfl

theorem parseLegacyAfter_of_ne_nil (hne : s ≠ []) (before : List RegistryEntry) :
    parseLegacyAfter before withModules s = takeEntry withModules s >>= fun found =>
      parseLegacyAfter (found.1 :: before) withModules found.2 := by
  -- something is left, so the reader takes an entry from the front
  rw [parseLegacyAfter, if_neg (fun h => hne (List.isEmpty_iff.1 h))]
  split
  · rename_i e he
    rw [he]
    rfl
  · rename_i entry rest hentry
    show parseLegacyAfter (entry :: before) withModules rest = _
    rw [hentry]
    rfl

theorem parseLegacyAfter_eq_ok_iff {before found : List RegistryEntry} :
    parseLegacyAfter before withModules s = .ok found ↔
      ∃ entries, found = before.reverse ++ entries ∧
        (∀ entry ∈ entries, entry.Legacy withModules) ∧ s = legacyData withModules entries := by
  constructor
  · intro h
    -- on the bytes that are left, for all entries read before
    induction hlen : s.length using Nat.strongRecOn generalizing s before with
    | ind n ih =>
      by_cases hne : s = []
      · rw [hne, parseLegacyAfter_nil] at h
        exact ⟨[], by rw [← Except.ok.inj h, List.append_nil], nofun, hne⟩
      · rw [parseLegacyAfter_of_ne_nil hne] at h
        obtain ⟨⟨entry, rest⟩, hentry, h⟩ := bind_eq_ok_iff.1 h
        -- an entry has at least three bytes, so fewer are left to the induction
        have hshorter : rest.length < n := hlen ▸ length_of_takeEntry hentry
        obtain ⟨entries, hfound, hall, hrest⟩ := ih _ hshorter h rfl
        obtain ⟨hroom, hs⟩ := takeEntry_eq_ok_iff.1 hentry
        refine ⟨entry :: entries, ?_, List.forall_mem_cons.2 ⟨hroom, hall⟩, ?_⟩
        · rw [hfound, List.reverse_cons, List.append_assoc]
          rfl
        · obtain rfl : rest = legacyData withModules entries := hrest
          exact hs
  · rintro ⟨entries, rfl, hall, rfl⟩
    -- on the entries, of which the first is at the front
    induction entries generalizing before with
    | nil => rw [List.append_nil]; exact parseLegacyAfter_nil before withModules
    | cons entry entries ih =>
      obtain ⟨hentry, hall⟩ := List.forall_mem_cons.1 hall
      -- each entry starts with a length, so its bytes are not empty
      have hne : legacyData withModules (entry :: entries) ≠ [] := List.cons_ne_nil _ _
      have htake : takeEntry withModules (legacyData withModules (entry :: entries)) =
          .ok (entry, legacyData withModules entries) := takeEntry_eq_ok_iff.2 ⟨hentry, rfl⟩
      rw [parseLegacyAfter_of_ne_nil hne, htake]
      change parseLegacyAfter (entry :: before) withModules (legacyData withModules entries) = _
      rw [ih hall, List.reverse_cons, List.append_assoc]
      rfl

/-- **Data is read exactly if it is written for some entries**, and these are what is read. -/
theorem parseLegacy_eq_ok_iff : parseLegacy withModules s = .ok entries ↔
    (∀ entry ∈ entries, entry.Legacy withModules) ∧ s = legacyData withModules entries := by
  unfold parseLegacy
  rw [parseLegacyAfter_eq_ok_iff]
  constructor
  · rintro ⟨found, rfl, h⟩
    exact h
  · intro h
    exact ⟨entries, rfl, h⟩

/-! ### Data that ends inside an entry -/

/-- If something goes wrong, it is that the data ends too early. -/
def EndsEarly (x : Except Error α) : Prop := ∀ e, x = .error e → e = .protocol .truncatedRegistry

theorem EndsEarly.bind {x : Except Error α} {f : α → Except Error β} (hx : EndsEarly x)
    (hf : ∀ a, EndsEarly (f a)) : EndsEarly (x >>= f) := by
  intro e h
  rcases bind_eq_error_iff.1 h with h | ⟨a, -, h⟩
  · exact hx e h
  · exact hf a e h

theorem endsEarly_ok (a : α) : EndsEarly (.ok a) := nofun

theorem endsEarly_truncated : EndsEarly (truncated : Except Error α) := by
  intro e h
  cases h
  rfl

theorem endsEarly_takeByte (s : Bytes) : EndsEarly (takeByte s) := by
  cases s with
  | nil => exact endsEarly_truncated
  | cons b s => exact endsEarly_ok _

theorem endsEarly_takeField (s : Bytes) : EndsEarly (takeField s) := by
  cases s with
  | nil => exact endsEarly_truncated
  | cons length s =>
    rw [takeField]
    split
    · exact endsEarly_truncated
    · exact endsEarly_ok _

theorem endsEarly_takeFields (count : Nat) (s : Bytes) : EndsEarly (takeFields count s) := by
  induction count generalizing s with
  | zero => exact endsEarly_ok _
  | succ count ih =>
    exact (endsEarly_takeField s).bind fun found =>
      (ih found.2).bind fun others => endsEarly_ok _

theorem endsEarly_takeEntry (withModules : Bool) (s : Bytes) :
    EndsEarly (takeEntry withModules s) := by
  -- a listing without modules has no bytes that could be missing there
  have hmodules : ∀ t, EndsEarly (takeModules withModules t) := by
    intro t
    cases withModules with
    | false => exact endsEarly_ok _
    -- the number may be missing, or the names after it
    | true => exact (endsEarly_takeByte t).bind fun found => endsEarly_takeFields _ found.2
  exact (endsEarly_takeField s).bind fun aid =>
    (endsEarly_takeByte aid.2).bind fun state =>
      (endsEarly_takeByte state.2).bind fun privileges =>
        (hmodules privileges.2).bind fun modules => endsEarly_ok _

/-- **What is not read ends inside an entry.** -/
theorem endsEarly_parseLegacy (withModules : Bool) (s : Bytes) :
    EndsEarly (parseLegacy withModules s) := by
  suffices hafter : ∀ before, EndsEarly (parseLegacyAfter before withModules s) from hafter []
  -- on the bytes that are left
  induction hlen : s.length using Nat.strongRecOn generalizing s with
  | ind n ih =>
    intro before
    by_cases hne : s = []
    · rw [hne, parseLegacyAfter_nil]
      exact endsEarly_ok _
    · rw [parseLegacyAfter_of_ne_nil hne]
      intro e h
      rcases bind_eq_error_iff.1 h with h | ⟨⟨entry, rest⟩, hentry, h⟩
      · -- the entry ends early, or one of those after it does
        exact endsEarly_takeEntry withModules s e h
      · exact ih _ (hlen ▸ length_of_takeEntry hentry) rest rfl _ e h

/-! ### Exact reading -/

/-- **What is made of data in the fixed layout.** -/
structure ReadsLegacy (withModules : Bool) (s : Bytes) : Prop where
  /-- It is read exactly if it is entries one after the other. -/
  succeeds_iff : (∃ entries, parseLegacy withModules s = .ok entries) ↔
    ∃ entries, (∀ entry ∈ entries, entry.Legacy withModules) ∧ s = legacyData withModules entries
  /-- The entries that are read are those it was written for. -/
  lossless : ∀ entries, parseLegacy withModules s = .ok entries ↔
    (∀ entry ∈ entries, entry.Legacy withModules) ∧ s = legacyData withModules entries
  /-- All other data is refused. -/
  refused : (¬∃ entries, (∀ entry ∈ entries, entry.Legacy withModules) ∧
      s = legacyData withModules entries) →
    parseLegacy withModules s = .error (.protocol .truncatedRegistry)

/-- **Data in the fixed layout is read exactly.** -/
theorem readsLegacy (withModules : Bool) (s : Bytes) : ReadsLegacy withModules s where
  succeeds_iff := exists_congr fun _ => parseLegacy_eq_ok_iff
  lossless _ := parseLegacy_eq_ok_iff
  refused hnone := by
    cases hparse : parseLegacy withModules s with
    -- data that is read is made of entries, which was excluded
    | ok entries => exact absurd ⟨entries, parseLegacy_eq_ok_iff.1 hparse⟩ hnone
    | error e => rw [endsEarly_parseLegacy withModules s e hparse]

/-- A load file with two modules, of which the second has no name, as a card lists it. -/
def twoModules : RegistryEntry where
  aid := [0xA0, 0x00, 0x00, 0x00, 0x01]
  lifeCycle := 0x01
  privileges := [0x00]
  modules := [[0xA0, 0x00, 0x00, 0x00, 0x01, 0x01], []]

/-- The load file is read from its bytes, and nothing is read if the last one is missing. -/
theorem readsLegacy_twoModules :
    parseLegacy true [0x05, 0xA0, 0x00, 0x00, 0x00, 0x01, 0x01, 0x00, 0x02, 0x06, 0xA0, 0x00, 0x00,
      0x00, 0x01, 0x01, 0x00] = .ok [twoModules] ∧
    parseLegacy true [0x05, 0xA0, 0x00, 0x00, 0x00, 0x01, 0x01, 0x00, 0x02, 0x06, 0xA0, 0x00, 0x00,
      0x00, 0x01, 0x01] = .error (.protocol .truncatedRegistry) := by
  have hroom : twoModules.Legacy true :=
    ⟨by decide, rfl, by decide, by decide, nofun, rfl, rfl, rfl⟩
  refine ⟨((readsLegacy true _).lossless [twoModules]).2
    ⟨List.forall_mem_singleton.2 hroom, rfl⟩, (readsLegacy true _).refused ?_⟩
  rintro ⟨entries, hentries⟩
  have hread := ((readsLegacy true _).lossless entries).2 hentries
  have hcut : parseLegacy true [0x05, 0xA0, 0x00, 0x00, 0x00, 0x01, 0x01, 0x00, 0x02, 0x06, 0xA0,
      0x00, 0x00, 0x00, 0x01, 0x01] = .error (.protocol .truncatedRegistry) := by
    cbv
  rw [hcut] at hread
  cases hread

end SmartCard.RegistryEntry
