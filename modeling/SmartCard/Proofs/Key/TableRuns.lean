import SmartCard.Key.Diversification
import SmartCard.Key.SessionKeys
import SmartCard.Proofs.Key.Table

/-!
# What becomes of key sets

A key set is made new, of a master key or with the test keys; keys are put into it; and other sets
are derived from it, for one card or for one session (`KeyCall`). A derivation makes its keys from
those of one set and puts them into an empty one, so that two functions tell all about it: the keys
that it makes (`KeyTable.diversifiedKeys`, `KeyTable.scp02Keys`, `KeyTable.scp03Keys`), which only
depend on what look-ups find, and `KeySet.fill`.

Every call does to the tables of a set what it does to the set (`KeySet.call_table`), and by
induction so does every run of calls (`KeySet.after_table`). `KeySet.kept_after` draws the
consequences: after any run, what the set and its tables hold, what they answer, and which keys they
refuse. -/

namespace SmartCard

namespace KeyTable

/-! ### Derivations -/

def required (t : KeyTable) (usage : KeyUsage) : Except Error Key :=
  match t.get? usage with
  | some k => .ok k
  | none => .error (.configuration (.missingKey t.name usage))

def answerMacSource (t : KeyTable) : Except Error Key :=
  match t.key? .rmac with
  | some k => .ok k
  | none => do
    let source ← t.required .mac
    Key.make 0 .rmac source.cipher source.secret

/-- The keys that diversification makes, one for each role that has a key to make it from. -/
def diversifiedKeys (t : KeyTable) (scheme : Diversification) (data : Block 10) :
    List (Except Error Key) :=
  [KeyUsage.enc, .mac, .kek, .rmac].filterMap fun usage =>
    (if usage = .rmac then t.key? usage else t.get? usage).map fun source =>
      KeySet.diversifyKey scheme data source usage

def diversify (t : KeyTable) (scheme : Option Diversification) (data : Block 10) :
    Except Error KeyTable :=
  match scheme with
  | none => .ok t
  | some scheme =>
    if t.diversification.isSome then
      .error (.configuration (.alreadyDiversified t.name t.diversification))
    else
      (empty (t.name ++ "+" ++ scheme.text) t.version (some scheme)).fill
        (t.diversifiedKeys scheme data)

/-- The keys of an SCP02 session, made once all static keys were found. -/
def scp02Keys (t : KeyTable) (sequence : Block 2) : Except Error (List (Except Error Key)) := do
  let enc ← t.required .enc
  let mac ← t.required .mac
  let kek ← t.required .kek
  let rmac ← t.answerMacSource
  return [KeySet.scp02Key enc .enc KeySet.scp02EncTag sequence,
    KeySet.scp02Key mac .mac KeySet.scp02MacTag sequence,
    KeySet.scp02Key kek .kek KeySet.scp02KekTag sequence,
    KeySet.scp02Key rmac .rmac KeySet.scp02RmacTag sequence]

def scp02Session (t : KeyTable) (sequence : Block 2) : Except Error KeyTable := do
  (empty (t.name ++ "/scp02") t.version t.diversification).fill (← t.scp02Keys sequence)

/-- The keys of an SCP03 session. The key encryption key is looked up last, and carried over. -/
def scp03Keys (t : KeyTable) (context : Bytes) : Except Error (List (Except Error Key)) := do
  let enc ← t.required .enc
  let mac ← t.required .mac
  let rmac ← t.answerMacSource
  return [KeySet.scp03Key enc .enc KeySet.scp03EncPurpose context,
    KeySet.scp03Key mac .mac KeySet.scp03MacPurpose context,
    KeySet.scp03Key rmac .rmac KeySet.scp03RmacPurpose context,
    t.required .kek >>= fun kek => kek.derive .kek kek.cipher kek.secret]

def scp03Session (t : KeyTable) (context : Bytes) : Except Error KeyTable := do
  (empty (t.name ++ "/scp03") t.version t.diversification).fill (← t.scp03Keys context)

end KeyTable

namespace KeySet

theorem ofMaster_table (name : String) (version : UInt8) (cipher : KeyCipher) (secret : Bytes) :
    KeyTable.ofMaster name version cipher secret =
      (ofMaster name version cipher secret).map table := by
  unfold KeyTable.ofMaster ofMaster
  rw [← table_empty]
  -- without a key there is no set, and otherwise both put the key in
  cases Key.make 0 .master cipher secret with
  | error e => rfl
  | ok k => exact withKey_table _ k

/-- A loop that adds the keys that there are puts them in one after the other. -/
theorem foldlM_eq_fill {α : Type} (made? : α → Option (Except Error Key))
    (step : KeySet → α → Except Error KeySet) (hnone : ∀ s x, made? x = none → step s x = .ok s)
    (hsome : ∀ s x key, made? x = some key → step s x = key >>= s.insert) (xs : List α)
    (s : KeySet) : xs.foldlM step s = s.fill (xs.filterMap made?) := by
  unfold fill
  -- on what there are keys for, for the set that each of them is put into
  induction xs generalizing s with
  | nil => rfl
  | cons x xs ih =>
    rw [List.foldlM_cons, List.filterMap_cons]
    cases hmade : made? x with
    -- there is nothing to add, so the loop goes on with the same set
    | none =>
      rw [hnone s x hmade]
      exact ih s
    | some key =>
      rw [hsome s x key hmade, List.foldlM_cons]
      exact congrArg _ (funext ih)

/-- Diversification puts the keys that it makes into an empty set. -/
theorem diversify_eq_fill (s : KeySet) (scheme : Diversification) (data : Block 10) :
    s.diversify (some scheme) data =
      if s.diversification.isSome then
        .error (.configuration (.alreadyDiversified s.name s.diversification))
      else (empty (s.name ++ "+" ++ scheme.text) s.version (some scheme)).fill
        (s.table.diversifiedKeys scheme data) := by
  change (if s.diversification.isSome then _ else _) = _
  split
  · rfl
  · refine foldlM_eq_fill (fun usage => (s.diversificationSource? usage).map fun source =>
      diversifyKey scheme data source usage) _ (fun set usage hnone => ?_)
      (fun set usage key hsome => ?_) [KeyUsage.enc, .mac, .kek, .rmac] _
    · -- a role without a source is passed over
      rw [Option.map_eq_none_iff.1 hnone]
    · -- a role with a source puts the key made of it into the set
      obtain ⟨source, hsource, rfl⟩ := Option.map_eq_some_iff.1 hsome
      rw [hsource]

theorem diversify_table (s : KeySet) (scheme : Option Diversification) (data : Block 10) :
    s.table.diversify scheme data = (s.diversify scheme data).map table := by
  cases scheme with
  | none => rfl
  | some scheme =>
    rw [diversify_eq_fill]
    -- both refuse a set that was diversified, so only a first scheme is left to compare
    change (if s.diversification.isSome then _ else _) = _
    split
    · rfl
    · rw [← fill_table, table_empty]
      rfl

theorem required_table (s : KeySet) (usage : KeyUsage) :
    s.table.required usage = s.required usage := rfl

theorem answerMacSource_table (s : KeySet) : s.table.answerMacSource = s.answerMacSource := rfl

/-- An SCP02 session is filled with its keys, once all static keys were found. -/
theorem scp02Session_eq_fill (s : KeySet) (sequence : Block 2) :
    s.scp02Session sequence = s.table.scp02Keys sequence >>=
      (empty (s.name ++ "/scp02") s.version s.diversification).fill := by
  unfold scp02Session KeyTable.scp02Keys fill
  -- the four keys are put in one by one, where `fill` goes through a list of them
  simp only [required_table, answerMacSource_table, bind_assoc, pure_bind, List.foldlM_cons,
    List.foldlM_nil]

/-- So is an SCP03 session, whose last key is the one that is carried over. -/
theorem scp03Session_eq_fill (s : KeySet) (context : Bytes) :
    s.scp03Session context = s.table.scp03Keys context >>=
      (empty (s.name ++ "/scp03") s.version s.diversification).fill := by
  unfold scp03Session KeyTable.scp03Keys fill
  simp only [required_table, answerMacSource_table, bind_assoc, pure_bind, bind_pure,
    List.foldlM_cons, List.foldlM_nil]

/-- A set that is filled with what was made from tables has the tables that are filled so. -/
theorem bind_fill_table (name : String) (version : UInt8) (scheme : Option Diversification)
    (made : Except Error (List (Except Error Key))) :
    made >>= (KeyTable.empty name version scheme).fill =
      (made >>= (empty name version scheme).fill).map table := by
  rw [← table_empty]
  -- a failure before the keys are made is the same for both
  cases made with
  | error e => rfl
  | ok keys => exact fill_table _ keys

theorem scp02Session_table (s : KeySet) (sequence : Block 2) :
    s.table.scp02Session sequence = (s.scp02Session sequence).map table := by
  rw [scp02Session_eq_fill]
  exact bind_fill_table _ _ _ _

theorem scp03Session_table (s : KeySet) (context : Bytes) :
    s.table.scp03Session context = (s.scp03Session context).map table := by
  rw [scp03Session_eq_fill]
  exact bind_fill_table _ _ _ _

end KeySet

/-! ### Runs of calls -/

/-- A call that makes a key set, or changes the one there is. -/
inductive KeyCall
  | new (name : String) (version : UInt8)
  | ofMaster (name : String) (version : UInt8) (cipher : KeyCipher) (secret : Bytes)
  | testKeys
  | put (key : Key)
  | diversify (scheme : Option Diversification) (data : Block 10)
  | scp02Session (sequence : Block 2)
  | scp03Session (context : Bytes)

/-- What a call makes of a set. -/
def KeySet.call (s : KeySet) : KeyCall → Except Error KeySet
  | .new name version => .ok (empty name version)
  | .ofMaster name version cipher secret => ofMaster name version cipher secret
  | .testKeys => .ok testKeys
  | .put key => s.insert key
  | .diversify scheme data => s.diversify scheme data
  | .scp02Session sequence => s.scp02Session sequence
  | .scp03Session context => s.scp03Session context

namespace KeyTable

/-- New tables take the place of these, if they could be made. -/
def replacedBy (t : KeyTable) : Except Error KeyTable → Except Error Unit × KeyTable
  | .ok made => (.ok (), made)
  | .error e => (.error e, t)

/-- A call to tables, and the tables after it. -/
def call (t : KeyTable) : KeyCall → Except Error Unit × KeyTable
  | .new name version => (.ok (), empty name version)
  | .ofMaster name version cipher secret => t.replacedBy (ofMaster name version cipher secret)
  | .testKeys => (.ok (), testKeys)
  | .put key => t.put key
  | .diversify scheme data => t.replacedBy (t.diversify scheme data)
  | .scp02Session sequence => t.replacedBy (t.scp02Session sequence)
  | .scp03Session context => t.replacedBy (t.scp03Session context)

/-- The tables after a run of calls. -/
def after (t : KeyTable) (calls : List KeyCall) : KeyTable :=
  calls.foldl (fun t call => (t.call call).2) t

end KeyTable

namespace KeySet

/-- The set after a run of calls, of which those that fail leave it as it is. -/
def after (s : KeySet) (calls : List KeyCall) : KeySet :=
  calls.foldl (fun s call => (s.call call).toOption.getD s) s

theorem replacedBy_table (s : KeySet) (made : Except Error KeySet) :
    s.table.replacedBy (made.map table) = s.onTables made := by
  cases made with
  | error e => rfl
  | ok t => rfl

/-- **Every call does to the tables what it does to the set.** -/
theorem call_table (s : KeySet) (call : KeyCall) :
    s.table.call call = s.onTables (s.call call) := by
  cases call with
  | new name version =>
    change (Except.ok (), KeyTable.empty name version) = (Except.ok (), (empty name version).table)
    rw [table_empty]
  | testKeys =>
    change (Except.ok (), KeyTable.testKeys) = (Except.ok (), testKeys.table)
    rw [table_testKeys]
  | put key => exact s.put_table key
  | ofMaster name version cipher secret =>
    rw [KeyTable.call, ofMaster_table, replacedBy_table]
    rfl
  | diversify scheme data =>
    rw [KeyTable.call, diversify_table, replacedBy_table]
    rfl
  | scp02Session sequence =>
    rw [KeyTable.call, scp02Session_table, replacedBy_table]
    rfl
  | scp03Session context =>
    rw [KeyTable.call, scp03Session_table, replacedBy_table]
    rfl

/-- **And so does every run of calls.** -/
theorem after_table (s : KeySet) (calls : List KeyCall) :
    s.table.after calls = (s.after calls).table := by
  -- on the calls, for the set that each of them finds
  induction calls generalizing s with
  | nil => rfl
  | cons call calls ih =>
    have hstep : (s.table.call call).2 = ((s.call call).toOption.getD s).table := by
      -- a failed call leaves the set and the tables as they are
      rw [call_table]
      cases s.call call with
      | error e => rfl
      | ok t => rfl
    change (s.table.call call).2.after calls = _
    rw [hstep, ih]
    rfl

/-! ### What a set and its tables hold -/

/-- **What holds of a key set and of the tables that it is kept in.** -/
structure Kept (s : KeySet) (t : KeyTable) : Prop where
  table_eq : s.table = t
  coherent : t.Coherent
  /-- A role has its own key, or else the master key. -/
  get_own : ∀ u k, t.key? u = some k → s.get? u = some k
  get_master : ∀ u, t.key? u = none → s.get? u = t.key? .master
  get_eq : ∀ u, t.get? u = s.get? u
  /-- A nonzero id has the only key with it, or else the master key. -/
  byId_own : ∀ u k, t.key? u = some k → k.id ≠ 0 → s.byId? k.id = some k ∧
    ∀ v l, t.key? v = some l → l.id = k.id → l = k
  byId_master : ∀ i, (i = 0 ∨ ∀ u k, t.key? u = some k → k.id ≠ i) →
    s.byId? i = t.key? .master
  byId_eq : ∀ i, t.byId? i = s.byId? i
  /-- A key whose role or nonzero id is taken is refused, and any other one is added. -/
  put_taken : ∀ k, t.Taken k → s.insert k = .error (.duplicateKey k.usage k.id) ∧
    t.put k = (.error (.duplicateKey k.usage k.id), t)
  put_free : ∀ k, ¬t.Taken k → ∃ added, s.insert k = .ok added ∧ t.put k = (.ok (), added.table)

theorem kept_table (s : KeySet) : s.Kept s.table where
  table_eq := rfl
  coherent := s.coherent_table
  get_own := by
    intro u k hk
    -- the key of the role comes first in the look-up
    have hfound : s.find? u = some k := hk
    rw [get?, hfound, Option.some_or]
  get_master := by
    intro u hnone
    -- no key of the role, and the look-up goes on to the master key
    have hfound : s.find? u = none := hnone
    rw [get?, hfound, Option.none_or]
    rfl
  get_eq := s.get?_table
  byId_own := by
    intro u k hk hne
    have hfound : s.find? u = some k := hk
    -- a nonzero id finds the key in the set's list, and the list has one key with it
    have hown : s.keys.find? (·.id == k.id) = some k :=
      (find?_keys_eq_some_iff hne).2 ⟨by rw [s.usage_of_find? hfound, hfound], rfl⟩
    refine ⟨?_, fun v l hl hid => s.eq_of_id_eq hl hk (hid ▸ hne) hid⟩
    rw [byId?, if_neg hne, hown, Option.some_or]
  byId_master := by
    intro i habsent
    unfold byId?
    -- the id 0 is never looked up, and any other one that is absent is not found
    by_cases hi : i = 0
    · rw [if_pos hi, Option.none_or]
      rfl
    · have hnone : s.keys.find? (·.id == i) = none := by
        refine Option.eq_none_iff_forall_ne_some.2 fun k hk => ?_
        obtain ⟨hfound, hid⟩ := (find?_keys_eq_some_iff hi).1 hk
        exact habsent.resolve_left hi k.usage k hfound hid
      rw [if_neg hi, hnone, Option.none_or]
      rfl
  byId_eq := s.byId?_table
  put_taken := by
    intro k htaken
    have hrefused : s.insert k = .error (.duplicateKey k.usage k.id) :=
      -- a key that is taken is not admitted, which is what `insert` tests
      dif_neg fun h => admits_iff_not_taken.1 h htaken
    exact ⟨hrefused, by rw [put_table, hrefused]; rfl⟩
  put_free := by
    intro k hfree
    have hadded : s.insert k = .ok (s.add k (admits_iff_not_taken.2 hfree)) :=
      dif_pos (admits_iff_not_taken.2 hfree)
    exact ⟨_, hadded, by rw [put_table, hadded]; rfl⟩

/-- **Key sets and their tables.** After any run of calls the tables are those of the set, and the
laws of `Kept` hold. Keys can be added to a new set exactly if they are apart from each other, to
the tables as to the set, and it does not matter in which order. -/
theorem kept_after (name : String) (version : UInt8) :
    (∀ calls, ((empty name version).after calls).Kept
      ((KeyTable.empty name version).after calls)) ∧
    (∀ keys, (KeyTable.empty name version).fill (keys.map .ok) =
        ((empty name version).insertAll keys).map table ∧
      ((∃ s, (empty name version).insertAll keys = .ok s) ↔ keys.Pairwise Key.Apart)) ∧
    ∀ keys keys' s, keys.Perm keys' → (empty name version).insertAll keys = .ok s →
      (empty name version).insertAll keys' = .ok s := by
  refine ⟨?runs, ?lists, ?orders⟩
  case runs =>
    intro calls
    -- the run starts at empty tables, which are those of the empty set
    rw [← table_empty, after_table]
    exact kept_table _
  case lists =>
    intro keys
    refine ⟨?_, insertAll_empty_ok_iff⟩
    rw [← table_empty, fill_table, fill_map_ok]
  case orders =>
    intro keys keys' s hperm h
    exact insertAll_of_perm hperm h

/-- The keys of a card: two with an id, and the master key for all other roles. -/
def cardKeys : List Key :=
  [⟨1, .enc, .aes, testSecret, aes_accepts_testSecret⟩,
    ⟨2, .mac, .aes, testSecret, aes_accepts_testSecret⟩, testKey]

/-- A card's keys take the place of the test keys, and a session is made from them. -/
def cardCalls : List KeyCall :=
  [.testKeys, .new "card" 0x30] ++ cardKeys.map .put ++ [.scp03Session []]

/-- A session is made from a card's keys, which can be put in in either order. -/
theorem kept_after_cardCalls :
    ((empty "card" 0x30).after cardCalls).Kept ((KeyTable.empty "card" 0x30).after cardCalls) ∧
    ∃ s, (empty "card" 0x30).insertAll cardKeys = .ok s ∧
      (empty "card" 0x30).insertAll cardKeys.reverse = .ok s := by
  obtain ⟨runs, lists, orders⟩ := kept_after "card" 0x30
  obtain ⟨s, hs⟩ := (lists cardKeys).2.2 (by decide)
  exact ⟨runs cardCalls, s, hs, orders _ _ s (List.reverse_perm cardKeys).symm hs⟩

end KeySet

end SmartCard
