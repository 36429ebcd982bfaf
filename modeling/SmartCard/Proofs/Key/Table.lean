import SmartCard.Proofs.Key.Additions

/-!
# Key sets in two tables

A key set can be kept in two tables, one with the key for each role and one with the role for each
nonzero id (`KeyTable`). Nothing in the type relates the tables: a key that is put in has to go into
both, and the test keys are written into one of them directly. `KeyTable.Coherent` says that the two
agree.

The argument goes through `KeySet`, whose type has the relation between keys built in. Every key set
has its tables (`KeySet.table`); these are coherent, and there are no other coherent tables
(`KeySet.coherent_iff`). Look-ups find the same in both, and putting a key in does to the tables of
a set what adding it does to the set (`KeySet.put_table`, `KeySet.fill_table`). -/

namespace SmartCard

/-- The keys by role, and the roles by id. -/
structure KeyTable where
  name : String
  version : UInt8
  diversification : Option Diversification
  key? : KeyUsage → Option Key
  /-- The role of the key with this id, which is not zero. -/
  role? : UInt8 → Option KeyUsage

namespace KeyTable

def empty (name : String) (version : UInt8) (scheme : Option Diversification := none) :
    KeyTable where
  name := name
  version := version
  diversification := scheme
  key? _ := none
  role? _ := none

/-- Adds a key, unless its role or its nonzero id is taken. -/
def put (t : KeyTable) (k : Key) : Except Error Unit × KeyTable :=
  if (k.id ≠ 0 ∧ (t.role? k.id).isSome) ∨ (t.key? k.usage).isSome then
    (.error (.duplicateKey k.usage k.id), t)
  else
    (.ok (), { t with
      key? := fun u => if u = k.usage then some k else t.key? u
      -- The id zero is not listed.
      role? := fun i => if i = k.id ∧ i ≠ 0 then some k.usage else t.role? i })

/-- The table with one more key. -/
def withKey (t : KeyTable) (k : Key) : Except Error KeyTable :=
  match t.put k with
  | (.ok (), after) => .ok after
  | (.error e, _) => .error e

def ofMaster (name : String) (version : UInt8) (cipher : KeyCipher) (secret : Bytes) :
    Except Error KeyTable := do
  (empty name version).withKey (← Key.make 0 .master cipher secret)

/-- The keys of a card that was not personalised yet. The key is not put in, but written into the
table of keys. -/
def testKeys : KeyTable :=
  { empty "default" 0 with
    key? := fun u => if u = .master then some KeySet.testKey else none }

/-- The key for a role, or else the master key. -/
def get? (t : KeyTable) (usage : KeyUsage) : Option Key := (t.key? usage).or (t.key? .master)

/-- The key with a nonzero id, or else the master key. -/
def byId? (t : KeyTable) (id : UInt8) : Option Key :=
  (if id = 0 then none else (t.role? id).bind t.key?).or (t.key? .master)

/-- Puts keys in one after the other, up to the first one that cannot be made or is refused. -/
def fill (t : KeyTable) (keys : List (Except Error Key)) : Except Error KeyTable :=
  keys.foldlM (fun t key => key >>= t.withKey) t

/-! ### Coherent tables -/

/-- **The tables agree with each other**, and every key is where it belongs. -/
structure Coherent (t : KeyTable) : Prop where
  usage_eq : ∀ {u k}, t.key? u = some k → k.usage = u
  fits : ∀ {u k}, t.key? u = some k → k.cipher.accepts k.secret.length = true
  eq_of_id_eq : ∀ {u v k l},
    t.key? u = some k → t.key? v = some l → k.id ≠ 0 → k.id = l.id → k = l
  role_iff : ∀ {i u}, t.role? i = some u ↔ i ≠ 0 ∧ ∃ k, t.key? u = some k ∧ k.id = i

/-- The role or the nonzero id of a key is taken by another one. -/
def Taken (t : KeyTable) (k : Key) : Prop :=
  ∃ u l, t.key? u = some l ∧ (u = k.usage ∨ k.id ≠ 0 ∧ l.id = k.id)

variable {t t' : KeyTable} {k l : Key} {u v : KeyUsage} {i : UInt8}

/-- The tables tell whether a key is taken. -/
theorem Coherent.taken_iff (h : t.Coherent) : t.Taken k ↔
    (k.id ≠ 0 ∧ (t.role? k.id).isSome) ∨ (t.key? k.usage).isSome := by
  -- both say the same of the table of keys, once ids are looked up in it
  simp only [Taken, Option.isSome_iff_exists, h.role_iff]
  constructor
  · rintro ⟨u, l, hl, rfl | ⟨hne, hid⟩⟩
    · exact .inr ⟨l, hl⟩
    · exact .inl ⟨hne, u, hne, l, hl, hid⟩
  · rintro (⟨hne, u, -, l, hl, hid⟩ | ⟨l, hl⟩)
    · exact ⟨u, l, hl, .inr ⟨hne, hid⟩⟩
    · exact ⟨k.usage, l, hl, .inl rfl⟩

end KeyTable

/-! ### The tables of a set -/

namespace KeySet

variable {s : KeySet} {k l : Key} {u : KeyUsage} {i : UInt8}

/-- The tables in which a set is kept. -/
def table (s : KeySet) : KeyTable where
  name := s.name
  version := s.version
  diversification := s.diversification
  key? := s.find?
  role? i := if i = 0 then none else (s.keys.find? (·.id == i)).map Key.usage

theorem find?_keys_eq_some_iff (hi : i ≠ 0) :
    s.keys.find? (·.id == i) = some k ↔ s.find? k.usage = some k ∧ k.id = i := by
  constructor
  · intro h
    have hid : k.id = i := by simpa using List.find?_some h
    exact ⟨mem_keys.1 (List.mem_of_find?_eq_some h), hid⟩
  · rintro ⟨hk, rfl⟩
    cases hfound : s.keys.find? (·.id == k.id) with
    -- the key itself is in the list, so the search does not come back empty
    | none =>
      have hne := List.find?_eq_none.1 hfound k (mem_keys.2 hk)
      exact absurd (beq_self_eq_true k.id) hne
    | some l =>
      -- no other key has this id
      have hid : l.id = k.id := by simpa using List.find?_some hfound
      have hl := mem_keys.1 (List.mem_of_find?_eq_some hfound)
      rw [s.eq_of_id_eq hk hl hi hid.symm]

/-- **The ids that are listed are those of the keys.** -/
theorem role?_table_eq_some_iff :
    s.table.role? i = some u ↔ i ≠ 0 ∧ ∃ k, s.find? u = some k ∧ k.id = i := by
  change (if i = 0 then none else (s.keys.find? (·.id == i)).map Key.usage) = some u ↔ _
  by_cases hi : i = 0
  · simp [hi]
  · rw [if_neg hi, Option.map_eq_some_iff]
    simp only [find?_keys_eq_some_iff hi]
    constructor
    · rintro ⟨k, ⟨hk, hid⟩, rfl⟩
      exact ⟨hi, k, hk, hid⟩
    · rintro ⟨-, k, hk, hid⟩
      obtain rfl := s.usage_of_find? hk
      exact ⟨k, ⟨hk, hid⟩, rfl⟩

theorem coherent_table (s : KeySet) : s.table.Coherent where
  usage_eq := s.usage_of_find?
  fits {_ k} _ := k.fits
  eq_of_id_eq := s.eq_of_id_eq
  role_iff := role?_table_eq_some_iff

/-- Tables that have the keys of a set, and list their ids, are the tables of the set. -/
theorem table_eq {t : KeyTable} (name : s.name = t.name) (version : s.version = t.version)
    (scheme : s.diversification = t.diversification) (keys : s.find? = t.key?)
    (role_iff : ∀ i u, t.role? i = some u ↔ i ≠ 0 ∧ ∃ k, t.key? u = some k ∧ k.id = i) :
    s.table = t := by
  -- the listed ids are those of the keys, so they are determined by the first table
  have hrole : s.table.role? = t.role? := by
    funext i
    apply Option.ext
    intro u
    rw [role?_table_eq_some_iff, role_iff, keys]
  cases t
  cases name
  cases version
  cases scheme
  cases keys
  cases hrole
  rfl

/-- **Key sets are the coherent tables.** -/
theorem coherent_iff {t : KeyTable} : t.Coherent ↔ ∃ s : KeySet, s.table = t := by
  constructor
  · intro h
    -- the tables hold all that a set is made of, and coherence is what its type asks for
    exact ⟨⟨t.name, t.version, t.diversification, t.key?, h.usage_eq, h.eq_of_id_eq⟩,
      table_eq rfl rfl rfl rfl fun _ _ => h.role_iff⟩
  · rintro ⟨s, rfl⟩
    exact s.coherent_table

theorem get?_table (s : KeySet) (usage : KeyUsage) : s.table.get? usage = s.get? usage := rfl

/-- A look-up by id finds the same key in the tables. -/
theorem byId?_table (s : KeySet) (id : UInt8) : s.table.byId? id = s.byId? id := by
  unfold KeyTable.byId? byId?
  by_cases hid : id = 0
  · rw [if_pos hid, if_pos hid]
    rfl
  · rw [if_neg hid, if_neg hid]
    refine congrArg (Option.or · (s.find? .master)) (Option.ext fun k => ?_)
    rw [Option.bind_eq_some_iff, find?_keys_eq_some_iff hid]
    simp only [role?_table_eq_some_iff]
    constructor
    · -- the listed role has the key with this id, and there is one
      rintro ⟨u, ⟨-, l, hl, rfl⟩, hk⟩
      obtain rfl : l = k := Option.some.inj (hl.symm.trans hk)
      exact ⟨by rw [s.usage_of_find? hl]; exact hl, rfl⟩
    · rintro ⟨hk, hsame⟩
      exact ⟨k.usage, ⟨hid, k, hk, hsame⟩, hk⟩

/-! ### Operations -/

theorem table_empty (name : String) (version : UInt8) (scheme : Option Diversification) :
    (empty name version scheme).table = KeyTable.empty name version scheme :=
  table_eq rfl rfl rfl rfl fun _ _ => ⟨fun h => (nomatch h), fun ⟨_, _, h, _⟩ => (nomatch h)⟩

/-- The one key that is not put in has no id to be listed. -/
theorem table_testKeys : testKeys.table = KeyTable.testKeys := by
  refine table_eq rfl rfl rfl rfl fun i u => ⟨fun h => (nomatch h), ?_⟩
  rintro ⟨hi, k, hk, rfl⟩
  change (if u = .master then some testKey else none) = some k at hk
  -- the only test key is the master key, whose id is zero
  split at hk
  · cases hk
    exact absurd rfl hi
  · cases hk

/-- A set admits what is not taken. -/
theorem admits_iff_not_taken : s.Admits k ↔ ¬s.table.Taken k := by
  rw [admits_iff]
  constructor
  · rintro hapart ⟨u, l, hl, hu | ⟨hne, hid⟩⟩
    · -- an own key of the role would not be apart from the new one
      exact (hapart u l hl).1 (hu.symm.trans (s.usage_of_find? hl).symm)
    · exact (hapart u l hl).2.elim hne fun hother => hother hid.symm
  · intro hfree u l hl
    refine ⟨fun hsame => ?_, ?_⟩
    · exact hfree ⟨u, l, hl, .inl ((s.usage_of_find? hl).symm.trans hsame.symm)⟩
    · by_cases hzero : k.id = 0
      · exact .inl hzero
      · exact .inr fun hid => hfree ⟨u, l, hl, .inr ⟨hzero, hid.symm⟩⟩

/-- The tables after a key was added: the key goes into the first, and its id into the second. -/
theorem table_add (h : s.Admits k) : (s.add k h).table = { s.table with
    key? := fun u => if u = k.usage then some k else s.find? u
    role? := fun i => if i = k.id ∧ i ≠ 0 then some k.usage else s.table.role? i } := by
  refine table_eq rfl rfl rfl rfl fun i u => ?_
  change (if i = k.id ∧ i ≠ 0 then some k.usage else s.table.role? i) = some u ↔
    i ≠ 0 ∧ ∃ l, (s.add k h).find? u = some l ∧ l.id = i
  simp only [find?_add_eq_some_iff]
  by_cases hi : i = k.id ∧ i ≠ 0
  · rw [if_pos hi, Option.some.injEq]
    obtain ⟨rfl, hne⟩ := hi
    constructor
    · rintro rfl
      exact ⟨hne, k, .inr ⟨rfl, rfl⟩, rfl⟩
    · rintro ⟨-, l, hl | ⟨-, hu⟩, hid⟩
      · -- the id was free before
        exact ((admits_iff.1 h u l hl).2.elim hne fun hother => hother hid.symm).elim
      · exact hu
  · rw [if_neg hi, role?_table_eq_some_iff]
    constructor
    · -- the new key's id is another one, or zero, so the list is as it was
      rintro ⟨hne, l, hl, hid⟩
      exact ⟨hne, l, .inl hl, hid⟩
    · rintro ⟨hne, l, hl | ⟨rfl, -⟩, hid⟩
      · exact ⟨hne, l, hl, hid⟩
      · exact absurd ⟨hid.symm, hne⟩ hi

/-- What an operation on a set does to its tables: they become those of the new set, or stay as they
are. -/
def onTables (s : KeySet) : Except Error KeySet → Except Error Unit × KeyTable
  | .ok t => (.ok (), t.table)
  | .error e => (.error e, s.table)

/-- **A key goes into the tables as it goes into the set.** -/
theorem put_table (s : KeySet) (k : Key) : s.table.put k = s.onTables (s.insert k) := by
  unfold KeyTable.put insert
  by_cases h : s.Admits k
  · -- being admitted, being apart and not being taken are one condition
    have hfree := mt s.coherent_table.taken_iff.2 (admits_iff_not_taken.1 h)
    rw [dif_pos h, if_neg hfree]
    change _ = (Except.ok (), (s.add k h).table)
    rw [table_add h]
    rfl
  · have htaken := s.coherent_table.taken_iff.1 (Classical.not_not.1 (mt admits_iff_not_taken.2 h))
    rw [dif_neg h, if_pos htaken]
    rfl

theorem withKey_table (s : KeySet) (k : Key) : s.table.withKey k = (s.insert k).map table := by
  unfold KeyTable.withKey
  rw [put_table]
  cases s.insert k with
  | error e => rfl
  | ok t => rfl

/-- Puts keys in one after the other, up to the first one that cannot be made or is refused. -/
def fill (s : KeySet) (keys : List (Except Error Key)) : Except Error KeySet :=
  keys.foldlM (fun s key => key >>= s.insert) s

theorem fill_table (s : KeySet) (keys : List (Except Error Key)) :
    s.table.fill keys = (s.fill keys).map table := by
  unfold KeyTable.fill fill
  -- on the keys, for the set that each of them is put into
  induction keys generalizing s with
  | nil => rfl
  | cons key keys ih =>
    rw [List.foldlM_cons, List.foldlM_cons]
    cases key with
    -- a key that could not be made stops both
    | error e => rfl
    | ok k =>
      change (s.table.withKey k >>= _) = ((s.insert k) >>= _).map table
      rw [withKey_table]
      cases s.insert k with
      | error e => rfl
      | ok t => exact ih t

/-- Keys that have been made are added one after the other. -/
theorem fill_map_ok (s : KeySet) (keys : List Key) : s.fill (keys.map .ok) = s.insertAll keys := by
  unfold fill insertAll
  rw [List.foldlM_map]
  rfl

end KeySet

end SmartCard
