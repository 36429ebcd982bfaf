import SmartCard.Proofs.Key.Table

/-!
# Sets of derived keys

A derivation takes one key for each of several roles from the keys of a set, and puts what it makes
into an empty set. That set would refuse a second key with the same nonzero id. The keys that a
derivation takes can share one: the master key has an id of its own and stands in for several roles,
and so does the key of the command MAC, which also stands in for that of the answer MAC. This is why
a key that is taken from a stand-in gets the id zero (`Key.takenId`).

A key with another id is then taken from the role's own key (`KeySet.find?_of_takenId_ne_zero`), and
the own keys of a set do not share ids, so that whatever is made for different roles fits into one
set (`KeySet.apart_of_yields`). `KeySet.Makes` says of a list of keys what this takes. Such keys are
never refused (`KeySet.Makes.unclashing_fill`), and the set that was filled with them has exactly
those (`KeySet.Makes.derived`). -/

namespace SmartCard

/-! ### Outcomes without a clash -/

section Unclashing

variable {α β : Type} {x : Except Error α} {f : α → Except Error β}

/-- The outcome is not that a key is already there. -/
def Unclashing (x : Except Error α) : Prop := ∀ usage id, x ≠ .error (.duplicateKey usage id)

theorem unclashing_ok (a : α) : Unclashing (.ok a) := nofun

theorem Unclashing.bind (hx : Unclashing x) (hf : ∀ a, x = .ok a → Unclashing (f a)) :
    Unclashing (x >>= f) := by
  intro usage id h
  -- the clash is in the first step, or in the second one on the value of the first
  rcases bind_eq_error_iff.1 h with hfailed | ⟨a, ha, hfailed⟩
  · exact hx usage id hfailed
  · exact hf a ha usage id hfailed

theorem unclashing_mapError_cipher (y : Except CipherFault α) :
    Unclashing (y.mapError Error.cipher) := by
  intro usage id h
  obtain ⟨fault, -, hfault⟩ := mapError_eq_error_iff.1 h
  cases hfault

theorem Key.unclashing_make (id : UInt8) (usage : KeyUsage) (cipher : KeyCipher)
    (secret : Bytes) : Unclashing (make id usage cipher secret) := by
  unfold make
  split
  · exact unclashing_ok _
  · intro id' usage' h
    cases h

end Unclashing

/-- The id of a key that is taken from another one for a role. It is that of its source, but zero if
the source stands in: a master key for any role, or the key of the command MAC for the answer MAC.
-/
def Key.takenId (source : Key) (usage : KeyUsage) : UInt8 :=
  if source.usage = .master ∨ (usage = .rmac ∧ source.usage = .mac) then 0 else source.id

namespace KeySet

variable {s t : KeySet} {k l source : Key} {u : KeyUsage}

/-- The key that a session key is taken from: the key for the role, and for the answer MAC that of
the command MAC if it has no key of its own. -/
def sessionSource? (s : KeySet) (usage : KeyUsage) : Option Key :=
  if usage = .rmac then (s.find? .rmac).or (s.get? .mac) else s.get? usage

/-! ### Keys that are taken from one set -/

/-- **A key with an id is taken from the role's own key.** -/
theorem find?_of_takenId_ne_zero (h : s.sessionSource? u = some source)
    (hne : source.takenId u ≠ 0) : s.find? u = some source ∧ source.takenId u = source.id := by
  unfold Key.takenId at hne ⊢
  by_cases hstandIn : source.usage = .master ∨ (u = .rmac ∧ source.usage = .mac)
  · exact absurd (if_pos hstandIn) hne
  · rw [if_neg hstandIn]
    refine ⟨?_, rfl⟩
    obtain ⟨hmaster, hmac⟩ := not_or.1 hstandIn
    -- the source is no master key, so a look-up finds it under its own role
    have hown (v : KeyUsage) (hv : s.get? v = some source) : s.find? v = some source := by
      rcases Option.or_eq_some_iff.1 hv with hfound | ⟨-, hfound⟩
      · -- the own key of a role comes first in the look-up, and a master key is excluded
        exact hfound
      · exact absurd (s.usage_of_find? hfound) hmaster
    unfold sessionSource? at h
    by_cases hu : u = .rmac
    · rw [if_pos hu] at h
      rcases Option.or_eq_some_iff.1 h with hfound | ⟨-, hfound⟩
      · -- the key of the command MAC may not stand in here
        rw [hu, hfound]
      · exact absurd ⟨hu, s.usage_of_find? (hown .mac hfound)⟩ hmac
    · rw [if_neg hu] at h
      exact hown u h

/-- The key has the id of one that is taken from the set's source for its role. -/
def Yields (s : KeySet) (k : Key) : Prop :=
  ∃ source, s.sessionSource? k.usage = some source ∧ k.id = source.takenId k.usage

/-- **Keys that are taken from one set for different roles fit into one set.** -/
theorem apart_of_yields (hk : s.Yields k) (hl : s.Yields l) (husage : k.usage ≠ l.usage) :
    k.Apart l := by
  refine ⟨husage, ?_⟩
  obtain ⟨source, hsource, hid⟩ := hk
  obtain ⟨source', hsource', hid'⟩ := hl
  -- a key without an id is apart by its role alone
  by_cases hzero : k.id = 0
  · exact .inl hzero
  · refine .inr fun hsame => ?_
    obtain ⟨hown, htaken⟩ := find?_of_takenId_ne_zero hsource (hid ▸ hzero)
    obtain ⟨hown', htaken'⟩ := find?_of_takenId_ne_zero hsource' (hid' ▸ hsame ▸ hzero)
    -- two own keys with one id are one key, and it has one role
    have hsameId : source.id = source'.id := by
      rw [← htaken, ← htaken', ← hid, ← hid', hsame]
    have hsource_eq : source = source' :=
      s.eq_of_id_eq hown hown' (by rw [← htaken, ← hid]; exact hzero) hsameId
    rw [← s.usage_of_find? hown, ← s.usage_of_find? hown', hsource_eq] at husage
    exact husage rfl

/-! ### Filling a set -/

/-- **Keys that are apart never clash**, and a set is filled with them unless one cannot be made. -/
theorem unclashing_fill {keys : List (Except Error Key)}
    (hadmits : ∀ k, .ok k ∈ keys → s.Admits k)
    (hapart : keys.Pairwise fun x y => ∀ k l, x = .ok k → y = .ok l → k.Apart l)
    (hkeys : ∀ key ∈ keys, Unclashing key) : Unclashing (s.fill keys) := by
  -- on the keys, for the set that each of them is put into
  induction keys generalizing s with
  | nil => exact unclashing_ok s
  | cons key keys ih =>
    obtain ⟨hhead, htail⟩ := List.pairwise_cons.1 hapart
    obtain ⟨hkey, hkeys⟩ := List.forall_mem_cons.1 hkeys
    have hcons : s.fill (key :: keys) = (key >>= s.insert) >>= fun s' => s'.fill keys :=
      List.foldlM_cons
    rw [hcons, bind_assoc]
    -- each key is made before it is put in, so a clash could come from either
    refine hkey.bind fun k hk => ?_
    have hadmitted : s.Admits k := hadmits k (hk ▸ List.mem_cons_self)
    have hinsert : s.insert k = .ok (s.add k hadmitted) := dif_pos hadmitted
    rw [hinsert]
    refine ih (fun l hl => ?_) htail hkeys
    exact (admits_add_iff hadmitted).2
      -- what is left was admitted before, and is apart from the key that was added
      ⟨hadmits l (List.mem_cons_of_mem _ hl), hhead _ hl k l hk rfl⟩

/-- A set that was filled was given keys that could all be made. -/
theorem exists_of_fill_eq_ok {keys : List (Except Error Key)} (h : s.fill keys = .ok t) :
    ∃ made, keys = made.map .ok ∧ s.insertAll made = .ok t := by
  induction keys generalizing s with
  | nil => exact ⟨[], rfl, h⟩
  | cons key keys ih =>
    unfold fill at h
    rw [List.foldlM_cons] at h
    obtain ⟨s', hs', hrest⟩ := bind_eq_ok_iff.1 h
    obtain ⟨k, hk, hinsert⟩ := bind_eq_ok_iff.1 hs'
    -- the key was made and admitted, and the rest goes into the set with it
    obtain ⟨made, rfl, hmade⟩ := ih hrest
    refine ⟨k :: made, by rw [hk]; rfl, ?_⟩
    unfold insertAll
    rw [List.foldlM_cons, hinsert]
    exact hmade

/-- A set that was not filled was given a key that could not be made, or one that clashes. -/
theorem fill_eq_error {keys : List (Except Error Key)} {e : Error} (h : s.fill keys = .error e) :
    .error e ∈ keys ∨ ∃ usage id, e = .duplicateKey usage id := by
  -- on the keys, for the set that each of them is put into
  induction keys generalizing s with
  | nil => cases h
  | cons key keys ih =>
    unfold fill at h
    rw [List.foldlM_cons] at h
    rcases bind_eq_error_iff.1 h with hfailed | ⟨s', -, hrest⟩
    · -- the key could not be made, or it was refused
      rcases bind_eq_error_iff.1 hfailed with hkey | ⟨k, -, hinsert⟩
      · exact .inl (hkey ▸ List.mem_cons_self)
      · unfold insert at hinsert
        split at hinsert
        · cases hinsert
        · cases hinsert
          exact .inr ⟨_, _, rfl⟩
    · exact (ih hrest).imp_left (List.mem_cons_of_mem _)

/-! ### What a derived set is -/

/-- **A set that is derived from another one**, with the name extended and marked with a scheme. It
keeps the version and has no master key. For every other role it has a key exactly if there is a
source: one with the id of a key that is taken from it, and made of it as `Made` tells. -/
structure Derived (s t : KeySet) (suffix : String) (scheme : Option Diversification)
    (source? : KeyUsage → Option Key) (Made : KeyUsage → Key → Key → Prop) : Prop where
  name_eq : t.name = s.name ++ suffix
  version_eq : t.version = s.version
  diversification_eq : t.diversification = scheme
  find?_master : t.find? .master = none
  found : ∀ u, u ≠ .master →
    Option.Rel (fun source k => k.id = source.takenId u ∧ Made u source k) (source? u) (t.find? u)

/-- Each key of a derived set has its source. -/
theorem Derived.exists_of_isSome {suffix : String} {scheme : Option Diversification}
    {source? : KeyUsage → Option Key} {Made : KeyUsage → Key → Key → Prop}
    (h : s.Derived t suffix scheme source? Made) (hu : u ≠ .master) (hsome : (t.find? u).isSome) :
    ∃ source k, source? u = some source ∧ t.find? u = some k ∧ k.id = source.takenId u ∧
      Made u source k := by
  obtain ⟨k, hk⟩ := Option.isSome_iff_exists.1 hsome
  have hrel := h.found u hu
  rw [hk] at hrel
  cases hsource : source? u with
  | none => rw [hsource] at hrel; nomatch hrel
  | some source =>
    -- a relation of options has both sides or none
    rw [hsource] at hrel
    cases hrel with
    | some hmade => exact ⟨source, k, rfl, hk, hmade⟩

/-- Keys are made for all roles but the master's, each of its source in a set. -/
structure Makes (s : KeySet) (roles : List KeyUsage) (source? : KeyUsage → Option Key)
    (Made : KeyUsage → Key → Key → Prop) (made? : KeyUsage → Option (Except Error Key)) :
    Prop where
  nodup : roles.Nodup
  mem_iff : ∀ u, u ∈ roles ↔ u ≠ .master
  source_eq : ∀ u source, source? u = some source → s.sessionSource? u = some source
  unclashing : ∀ u key, made? u = some key → Unclashing key
  taken : ∀ u k, u ≠ .master → made? u = some (.ok k) → k.usage = u ∧
    ∃ source, source? u = some source ∧ k.id = source.takenId u ∧ Made u source k
  /-- A role for which nothing is made has no source. -/
  complete : ∀ u, u ≠ .master → made? u = none → source? u = none

namespace Makes

variable {roles : List KeyUsage} {source? : KeyUsage → Option Key}
  {Made : KeyUsage → Key → Key → Prop} {made? : KeyUsage → Option (Except Error Key)}
  {name suffix : String} {version : UInt8} {scheme : Option Diversification}

theorem yields (h : s.Makes roles source? Made made?) (hu : u ∈ roles)
    (hk : made? u = some (.ok k)) : k.usage = u ∧ s.Yields k := by
  obtain ⟨rfl, source, hsource, hid, -⟩ := h.taken u k ((h.mem_iff u).1 hu) hk
  exact ⟨rfl, source, h.source_eq _ source hsource, hid⟩

/-- **An empty set refuses none of them.** -/
theorem unclashing_fill (h : s.Makes roles source? Made made?) :
    Unclashing ((empty name version scheme).fill (roles.filterMap made?)) := by
  refine KeySet.unclashing_fill ?admits ?apart ?keys
  case admits =>
    intro k _
    -- an empty set has no keys to clash with
    exact ⟨rfl, .inr fun l hl => nomatch mem_keys.1 hl⟩
  case apart =>
    refine List.pairwise_filterMap.2 (h.nodup.imp_of_mem ?_)
    -- different roles yield keys that are apart
    rintro u v hu hv hne _ hx _ hy k l rfl rfl
    obtain ⟨rfl, hk⟩ := h.yields hu hx
    obtain ⟨rfl, hl⟩ := h.yields hv hy
    exact apart_of_yields hk hl hne
  case keys =>
    intro key hkey
    obtain ⟨u, -, hmade⟩ := List.mem_filterMap.1 hkey
    exact h.unclashing u key hmade

/-- A set that was filled with them has nothing else. -/
theorem find?_eq_some_iff (h : s.Makes roles source? Made made?)
    (hfill : (empty name version scheme).fill (roles.filterMap made?) = .ok t) :
    t.find? u = some k ↔ u ∈ roles ∧ made? u = some (.ok k) := by
  obtain ⟨made, hmade, hinsert⟩ := exists_of_fill_eq_ok hfill
  -- what was put in are the keys that were made
  have hmem : k ∈ made ↔ ∃ v ∈ roles, made? v = some (.ok k) := by
    rw [← List.mem_filterMap, hmade, List.mem_map]
    constructor
    · intro hk
      exact ⟨k, hk, rfl⟩
    · rintro ⟨l, hl, hsame⟩
      cases hsame
      exact hl
  rw [find?_insertAll hinsert, hmem]
  constructor
  · rintro (hempty | ⟨⟨v, hv, hk⟩, rfl⟩)
    · cases hempty
    · -- the role of the key is the one that it was made for
      obtain ⟨rfl, -⟩ := h.yields hv hk
      exact ⟨hv, hk⟩
  · rintro ⟨hu, hk⟩
    exact .inr ⟨⟨u, hu, hk⟩, (h.yields hu hk).1⟩

/-- **A set that was filled with them has exactly what was made**: every key could be. -/
theorem made?_eq (h : s.Makes roles source? Made made?)
    (hfill : (empty name version scheme).fill (roles.filterMap made?) = .ok t) (hu : u ∈ roles) :
    made? u = (t.find? u).map .ok := by
  obtain ⟨made, hmade, -⟩ := exists_of_fill_eq_ok hfill
  cases hkey : made? u with
  | none =>
    have hnone : t.find? u = none := by
      -- a key in the set would have been made for the role
      refine Option.eq_none_iff_forall_ne_some.2 fun k hk => ?_
      have hsome := ((h.find?_eq_some_iff hfill).1 hk).2
      rw [hkey] at hsome
      cases hsome
    rw [hnone]
    rfl
  | some key =>
    have hlisted : key ∈ roles.filterMap made? := List.mem_filterMap.2 ⟨u, hu, hkey⟩
    rw [hmade] at hlisted
    obtain ⟨k, -, rfl⟩ := List.mem_map.1 hlisted
    rw [(h.find?_eq_some_iff hfill).2 ⟨hu, hkey⟩]
    rfl

/-- **A set is filled with them exactly if each of them can be made**: they fit together. -/
theorem exists_fill_iff (h : s.Makes roles source? Made made?) :
    (∃ t, (empty name version scheme).fill (roles.filterMap made?) = .ok t) ↔
      ∀ u, u ≠ .master → ∀ key, made? u = some key → ∃ k, key = .ok k := by
  constructor
  · rintro ⟨t, hfill⟩ u hu key hkey
    rw [h.made?_eq hfill ((h.mem_iff u).2 hu)] at hkey
    obtain ⟨k, -, rfl⟩ := Option.map_eq_some_iff.1 hkey
    exact ⟨k, rfl⟩
  · intro hall
    cases hfill : (empty name version scheme).fill (roles.filterMap made?) with
    | ok t => exact ⟨t, rfl⟩
    | error e =>
      rcases fill_eq_error hfill with hkey | ⟨usage, id, rfl⟩
      · obtain ⟨u, hu, hmade⟩ := List.mem_filterMap.1 hkey
        obtain ⟨k, hk⟩ := hall u ((h.mem_iff u).1 hu) _ hmade
        nomatch hk
      · exact absurd hfill (h.unclashing_fill usage id)

/-- **A set that was filled with them is derived.** -/
theorem derived (h : s.Makes roles source? Made made?)
    (hfill : (empty (s.name ++ suffix) s.version scheme).fill (roles.filterMap made?) = .ok t) :
    s.Derived t suffix scheme source? Made := by
  obtain ⟨made, -, hinsert⟩ := exists_of_fill_eq_ok hfill
  obtain ⟨hname, hversion, hscheme⟩ := name_insertAll hinsert
  refine ⟨hname, hversion, hscheme, ?master, ?found⟩
  case master =>
    refine Option.eq_none_iff_forall_ne_some.2 fun k hk => ?_
    exact (h.mem_iff .master).1 ((h.find?_eq_some_iff hfill).1 hk).1 rfl
  case found =>
    intro u hu
    have hmade := h.made?_eq hfill ((h.mem_iff u).2 hu)
    cases hfound : t.find? u with
    | none =>
      rw [hfound] at hmade
      rw [h.complete u hu hmade]
      exact .none
    | some k =>
      rw [hfound] at hmade
      obtain ⟨-, source, hsource, htaken⟩ := h.taken u k hu hmade
      rw [hsource]
      exact .some htaken

/-- If something is made for every role, there is a key for each but the master's. -/
theorem isSome_find?_iff (h : s.Makes roles source? Made made?)
    (hfill : (empty (s.name ++ suffix) s.version scheme).fill (roles.filterMap made?) = .ok t)
    (hall : ∀ u, (made? u).isSome) (u : KeyUsage) : (t.find? u).isSome ↔ u ≠ .master := by
  constructor
  · rintro hsome rfl
    rw [(h.derived hfill).find?_master] at hsome
    cases hsome
  · intro hu
    have hmade := hall u
    rw [h.made?_eq hfill ((h.mem_iff u).2 hu), Option.isSome_map] at hmade
    exact hmade

end Makes

end KeySet

end SmartCard
