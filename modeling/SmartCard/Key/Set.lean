import SmartCard.Key.Basic

/-!
# Key sets

A key set holds the keys of one key version of a card, at most one for each role. A look-up by role
or by id that finds no key of its own falls back to the master key, so that a set with a master key
alone serves every role.

A set is seen through `KeySet.find?`, the key for exactly one role. The type records that a key is
found under its own role and that no two keys share a nonzero id; `KeySet.insert` keeps this by
refusing a key whose role or nonzero id is taken. Two sets with the same name, version, scheme and
keys are equal (`KeySet.ext`), so the order in which keys were added leaves no trace. -/

namespace SmartCard

/-- The keys of one key version. -/
structure KeySet where
  name : String
  /-- The key version; zero stands for any version. -/
  version : UInt8
  /-- The scheme that was applied to the keys. -/
  diversification : Option Diversification
  /-- The key for exactly this role. -/
  find? : KeyUsage → Option Key
  /-- A key is found under its own role. -/
  usage_of_find? : ∀ {u : KeyUsage} {k : Key}, find? u = some k → k.usage = u
  /-- No two keys share a nonzero id. -/
  eq_of_id_eq : ∀ {u v : KeyUsage} {k l : Key},
    find? u = some k → find? v = some l → k.id ≠ 0 → k.id = l.id → k = l

namespace KeySet

@[ext] theorem ext {s t : KeySet} (name : s.name = t.name) (version : s.version = t.version)
    (scheme : s.diversification = t.diversification) (keys : ∀ u, s.find? u = t.find? u) :
    s = t := by
  cases s; cases t
  have := funext keys
  simp_all

def empty (name : String) (version : UInt8) (scheme : Option Diversification := none) : KeySet where
  name := name
  version := version
  diversification := scheme
  find? _ := none
  usage_of_find? h := by simp at h
  eq_of_id_eq h := by simp at h

def keys (s : KeySet) : List Key := KeyUsage.all.filterMap s.find?

def size (s : KeySet) : Nat := s.keys.length

def isEmpty (s : KeySet) : Bool := s.keys.isEmpty

/-- The key for a role, or else the master key. -/
def get? (s : KeySet) (usage : KeyUsage) : Option Key := (s.find? usage).or (s.find? .master)

/-- The key with a nonzero id, or else the master key. -/
def byId? (s : KeySet) (id : UInt8) : Option Key :=
  (if id = 0 then none else s.keys.find? (·.id == id)).or (s.find? .master)

theorem mem_keys {s : KeySet} {k : Key} : k ∈ s.keys ↔ s.find? k.usage = some k := by
  simp only [keys, List.mem_filterMap, KeyUsage.mem_all, true_and]
  constructor
  · rintro ⟨u, h⟩
    rw [s.usage_of_find? h]
    exact h
  · intro h
    exact ⟨_, h⟩

/-- Whether neither the role nor the nonzero id of a key is taken. -/
def Admits (s : KeySet) (k : Key) : Prop :=
  s.find? k.usage = none ∧ (k.id = 0 ∨ ∀ l ∈ s.keys, l.id ≠ k.id)

instance (s : KeySet) (k : Key) : Decidable (s.Admits k) :=
  inferInstanceAs (Decidable (_ ∧ _))

def add (s : KeySet) (k : Key) (h : s.Admits k) : KeySet where
  name := s.name
  version := s.version
  diversification := s.diversification
  find? u := if u = k.usage then some k else s.find? u
  usage_of_find? {u l} hl := by
    split at hl
    · cases hl; simp_all
    · exact s.usage_of_find? hl
  eq_of_id_eq {u v l m} hl hm hne heq := by
    have other : ∀ {w : KeyUsage} {x : Key}, s.find? w = some x → k.id ≠ 0 → x.id ≠ k.id := by
      intro w x hx hk
      refine (h.2.resolve_left hk) x (mem_keys.2 ?_)
      rw [s.usage_of_find? hx]
      exact hx
    split at hl <;> split at hm
    · cases hl; cases hm; rfl
    · cases hl; exact absurd heq.symm (other hm hne)
    · cases hm; exact absurd heq (other hl (heq ▸ hne))
    · exact s.eq_of_id_eq hl hm hne heq

/-- Adds a key, unless its role or its nonzero id is taken. -/
def insert (s : KeySet) (k : Key) : Except Error KeySet :=
  if h : s.Admits k then .ok (s.add k h) else .error (.duplicateKey k.usage k.id)

/-- Adds keys in order, up to the first one that is refused. -/
def insertAll (s : KeySet) (keys : List Key) : Except Error KeySet := keys.foldlM insert s

def ofMaster (name : String) (version : UInt8) (cipher : KeyCipher) (secret : Bytes) :
    Except Error KeySet := do
  (empty name version).insert (← Key.make 0 .master cipher secret)

/-- The secret that cards carry before they are personalised. -/
def testSecret : Bytes :=
  [0x40, 0x41, 0x42, 0x43, 0x44, 0x45, 0x46, 0x47, 0x48, 0x49, 0x4A, 0x4B, 0x4C, 0x4D, 0x4E, 0x4F]

theorem aes_accepts_testSecret : KeyCipher.aes.accepts testSecret.length = true := by decide

theorem des3_accepts_testSecret : KeyCipher.des3.accepts testSecret.length = true := by decide

/-- The key that cards carry before they are personalised. -/
def testKey : Key := ⟨0, .master, .generic, testSecret, by decide⟩

/-- The keys of a card that was not personalised yet, for any key version. -/
def testKeys : KeySet := (empty "default" 0).add testKey ⟨rfl, .inl rfl⟩

def inspect (s : KeySet) : String :=
  let indexed := (s.keys.filter (·.id != 0)).mergeSort fun k l => k.id ≤ l.id
  Record.text "KeySet"
    [("name", Record.quoted s.name), ("version", toString s.version.toNat),
      ("diversification",
        match s.diversification with
        | none => "None"
        | some .emv => "Emv"
        | some .visa2 => "Visa2"),
      ("keys", Record.mapText (s.keys.map fun k => (k.usage.inspect, k.inspect))),
      ("keys_by_id", Record.mapText (indexed.map fun k => (toString k.id.toNat, k.usage.inspect)))]

@[simp] theorem find?_add (s : KeySet) (k : Key) (h : s.Admits k) (u : KeyUsage) :
    (s.add k h).find? u = if u = k.usage then some k else s.find? u := rfl

@[simp] theorem find?_empty (name : String) (version : UInt8) (scheme : Option Diversification)
    (u : KeyUsage) : (empty name version scheme).find? u = none := rfl

end KeySet

end SmartCard
