import SmartCard.Key.Set
import SmartCard.Proofs.Outcome

/-!
# Keys that one set can hold

Two keys can be in one set if they have different roles and do not share a nonzero id (`Key.Apart`).
A set admits a key that is apart from each of its own (`KeySet.admits_iff`), so a list of keys can
be added exactly if they are apart from these and from each other (`KeySet.insertAll_ok_iff`), and
in any order: the keys that are found afterwards are those of the set and those of the list
(`KeySet.find?_insertAll`, `KeySet.insertAll_of_perm`). -/

namespace SmartCard

/-- Two keys that one set can hold: their roles differ, and so do their ids unless they are zero. -/
def Key.Apart (k l : Key) : Prop := k.usage ≠ l.usage ∧ (k.id = 0 ∨ k.id ≠ l.id)

instance (k l : Key) : Decidable (k.Apart l) := inferInstanceAs (Decidable (_ ∧ _))

theorem Key.Apart.symm {k l : Key} (h : k.Apart l) : l.Apart k := by
  obtain ⟨husage, hid⟩ := h
  refine ⟨fun hsame => husage hsame.symm, ?_⟩
  by_cases hzero : l.id = 0
  · exact .inl hzero
  · refine .inr fun hsame => ?_
    rcases hid with hk | hne
    · exact hzero (hsame.trans hk)
    · exact hne hsame.symm

namespace KeySet

variable {s t : KeySet} {k l : Key} {u : KeyUsage} {keys keys' : List Key}

/-! ### One key -/

theorem insert_eq_ok_iff : s.insert k = .ok t ↔ ∃ h : s.Admits k, s.add k h = t := by
  unfold insert
  by_cases h : s.Admits k
  · rw [dif_pos h, Except.ok.injEq]
    exact ⟨fun ht => ⟨h, ht⟩, fun ⟨_, ht⟩ => ht⟩
  · rw [dif_neg h]
    exact ⟨fun ht => (nomatch ht), fun ⟨h', _⟩ => absurd h' h⟩

/-- **A set admits what is apart from its keys.** -/
theorem admits_iff : s.Admits k ↔ ∀ u l, s.find? u = some l → k.Apart l := by
  constructor
  · rintro ⟨hfree, hid⟩ u l hl
    have husage : l.usage = u := s.usage_of_find? hl
    refine ⟨fun hsame => ?_, hid.imp_right fun hne hsame => ?_⟩
    · -- two keys of one role: the place would not be free
      rw [hsame, husage, hl] at hfree
      cases hfree
    · exact hne l (mem_keys.2 (husage ▸ hl)) hsame.symm
  · intro hapart
    constructor
    · cases hfound : s.find? k.usage with
      | none => rfl
      | some l => exact absurd (s.usage_of_find? hfound).symm (hapart _ l hfound).1
    · -- only a nonzero id can be shared
      by_cases hzero : k.id = 0
      · exact .inl hzero
      · refine .inr fun l hl hsame => ?_
        exact (hapart _ l (mem_keys.1 hl)).2.elim hzero fun hne => hne hsame.symm

theorem find?_add_eq_some_iff (h : s.Admits k) :
    (s.add k h).find? u = some l ↔ s.find? u = some l ∨ k = l ∧ k.usage = u := by
  rw [find?_add]
  -- the place of the key was empty, so nothing was lost
  by_cases hu : u = k.usage
  · rw [if_pos hu, hu, h.1]
    simp
  · rw [if_neg hu]
    simp [Ne.symm hu]

/-- What a set admits after a key was added. -/
theorem admits_add_iff (h : s.Admits k) : (s.add k h).Admits l ↔ s.Admits l ∧ k.Apart l := by
  simp only [admits_iff, find?_add_eq_some_iff]
  constructor
  · intro hapart
    exact ⟨fun u m hm => hapart u m (.inl hm), (hapart k.usage k (.inr ⟨rfl, rfl⟩)).symm⟩
  · rintro ⟨hold, hnew⟩ u m (hm | ⟨rfl, -⟩)
    · exact hold u m hm
    · exact hnew.symm

/-! ### Lists of keys -/

theorem insertAll_cons_eq_ok_iff : s.insertAll (k :: keys) = .ok t ↔
    ∃ h : s.Admits k, (s.add k h).insertAll keys = .ok t := by
  unfold insertAll
  rw [List.foldlM_cons, bind_eq_ok_iff]
  constructor
  · rintro ⟨_, hinsert, hrest⟩
    obtain ⟨h, rfl⟩ := insert_eq_ok_iff.1 hinsert
    exact ⟨h, hrest⟩
  · rintro ⟨h, hrest⟩
    exact ⟨_, insert_eq_ok_iff.2 ⟨h, rfl⟩, hrest⟩

/-- **Keys can be added exactly if they are apart**, from the keys of the set and from each other.
-/
theorem insertAll_ok_iff : (∃ t, s.insertAll keys = .ok t) ↔
    (∀ k ∈ keys, s.Admits k) ∧ keys.Pairwise Key.Apart := by
  -- on the keys, for the set that each of them is added to
  induction keys generalizing s with
  | nil => exact ⟨fun _ => ⟨fun k hk => (nomatch hk), .nil⟩, fun _ => ⟨s, rfl⟩⟩
  | cons k keys ih =>
    simp only [insertAll_cons_eq_ok_iff, List.forall_mem_cons, List.pairwise_cons]
    constructor
    · rintro ⟨t, h, hrest⟩
      obtain ⟨hadmits, hpairwise⟩ := ih.1 ⟨t, hrest⟩
      -- the later keys are admitted with this one in place, which is both conditions at once
      have hboth (l : Key) (hl : l ∈ keys) := (admits_add_iff h).1 (hadmits l hl)
      exact ⟨⟨h, fun l hl => (hboth l hl).1⟩, fun l hl => (hboth l hl).2, hpairwise⟩
    · rintro ⟨⟨h, hadmits⟩, hapart, hpairwise⟩
      obtain ⟨t, ht⟩ := ih.2
        ⟨fun l hl => (admits_add_iff h).2 ⟨hadmits l hl, hapart l hl⟩, hpairwise⟩
      exact ⟨t, h, ht⟩

/-- **What is found after keys were added** are the keys of the set and those of the list. -/
theorem find?_insertAll (h : s.insertAll keys = .ok t) :
    t.find? u = some l ↔ s.find? u = some l ∨ l ∈ keys ∧ l.usage = u := by
  -- on the keys, for the set that each of them is added to
  induction keys generalizing s with
  | nil =>
    obtain rfl : s = t := Except.ok.inj h
    simp
  | cons k keys ih =>
    obtain ⟨hk, hrest⟩ := insertAll_cons_eq_ok_iff.1 h
    rw [ih hrest, find?_add_eq_some_iff, List.mem_cons, or_assoc]
    refine or_congr_right ?_
    -- the key is the first one, or one of the rest
    constructor
    · rintro (⟨rfl, hu⟩ | ⟨hl, hu⟩)
      · exact ⟨.inl rfl, hu⟩
      · exact ⟨.inr hl, hu⟩
    · rintro ⟨rfl | hl, hu⟩
      · exact .inl ⟨rfl, hu⟩
      · exact .inr ⟨hl, hu⟩

/-- Adding keys changes nothing else. -/
theorem name_insertAll (h : s.insertAll keys = .ok t) :
    t.name = s.name ∧ t.version = s.version ∧ t.diversification = s.diversification := by
  induction keys generalizing s with
  | nil =>
    obtain rfl : s = t := Except.ok.inj h
    exact ⟨rfl, rfl, rfl⟩
  | cons k keys ih =>
    obtain ⟨hk, hrest⟩ := insertAll_cons_eq_ok_iff.1 h
    exact ih (s := s.add k hk) hrest

/-- **The order in which keys are added does not matter.** -/
theorem insertAll_of_perm (hperm : keys.Perm keys') (h : s.insertAll keys = .ok t) :
    s.insertAll keys' = .ok t := by
  obtain ⟨hadmits, hpairwise⟩ := insertAll_ok_iff.1 ⟨t, h⟩
  obtain ⟨t', ht'⟩ : ∃ t', s.insertAll keys' = .ok t' := insertAll_ok_iff.2
    ⟨fun k hk => hadmits k (hperm.mem_iff.2 hk), hperm.pairwise hpairwise Key.Apart.symm⟩
  obtain ⟨hname, hversion, hscheme⟩ := name_insertAll h
  obtain ⟨hname', hversion', hscheme'⟩ := name_insertAll ht'
  -- both sets find the same keys, and everything else is that of the first set
  have hfind (u : KeyUsage) : t.find? u = t'.find? u := by
    apply Option.ext
    intro l
    rw [find?_insertAll h, find?_insertAll ht', hperm.mem_iff]
  rw [ht', KeySet.ext (hname.trans hname'.symm) (hversion.trans hversion'.symm)
    (hscheme.trans hscheme'.symm) hfind]

/-- Keys can be added to an empty set exactly if they are apart from each other. -/
theorem insertAll_empty_ok_iff {name : String} {version : UInt8} {scheme : Option Diversification} :
    (∃ t, (empty name version scheme).insertAll keys = .ok t) ↔ keys.Pairwise Key.Apart := by
  rw [insertAll_ok_iff]
  refine and_iff_right fun k _ => admits_iff.2 ?_
  intro u l hl
  cases hl

end KeySet

end SmartCard
