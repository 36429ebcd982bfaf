import SmartCard.Proofs.Key.Derivations

/-!
# Keys without their ciphers

A key says which cipher it is meant for. `KeySet.untyped` forgets that of all keys of a set: they
become generic keys, which any cipher takes that their length fits. How far the ciphers matter is
then a question of two runs, one with the keys as they are and one with keys of no cipher.

Forgetting the ciphers commutes with look-ups (`KeySet.required_untyped`) and with filling a set
(`KeySet.fill_untyped`). The keys of an SCP02 session are the same without the ciphers, unless there
is an AES key among their sources (`KeySet.scp02Session_untyped`). Those of an SCP03 session are the
same in any case, up to the cipher of the key encryption key that is carried over
(`KeySet.scp03Session_untyped`). -/

namespace SmartCard

variable {s : KeySet} {k base source : Key} {u : KeyUsage}

theorem KeyCipher.accepts_generic {cipher : KeyCipher} {length : Nat}
    (h : cipher.accepts length = true) : generic.accepts length = true := by
  cases cipher with
  | generic | des | des3 | aes =>
    simp [accepts] at h ⊢
    omega

namespace Key

/-- The key as one that is meant for any cipher. -/
def untyped (k : Key) : Key where
  id := k.id
  usage := k.usage
  cipher := .generic
  secret := k.secret
  fits := KeyCipher.accepts_generic k.fits

theorem make_untyped {id : UInt8} {usage : KeyUsage} {cipher : KeyCipher} {secret : Bytes}
    (h : cipher.accepts secret.length = true) :
    make id usage .generic secret = (make id usage cipher secret).map untyped := by
  unfold make
  rw [dif_pos h, dif_pos (KeyCipher.accepts_generic h)]
  rfl

end Key

namespace KeySet

/-! ### Forgetting the ciphers -/

/-- The keys as ones that are meant for any cipher. -/
def untyped (s : KeySet) : KeySet where
  name := s.name
  version := s.version
  diversification := s.diversification
  find? u := (s.find? u).map Key.untyped
  usage_of_find? h := by
    obtain ⟨k, hk, rfl⟩ := Option.map_eq_some_iff.1 h
    change k.usage = _
    exact s.usage_of_find? hk
  eq_of_id_eq h h' hne heq := by
    obtain ⟨k, hk, rfl⟩ := Option.map_eq_some_iff.1 h
    obtain ⟨l, hl, rfl⟩ := Option.map_eq_some_iff.1 h'
    exact congrArg Key.untyped (s.eq_of_id_eq hk hl hne heq)

@[simp] theorem find?_untyped (s : KeySet) (u : KeyUsage) :
    s.untyped.find? u = (s.find? u).map Key.untyped := rfl

@[simp] theorem get?_untyped (s : KeySet) (u : KeyUsage) :
    s.untyped.get? u = (s.get? u).map Key.untyped :=
  Option.map_or.symm

@[simp] theorem untyped_untyped (s : KeySet) : s.untyped.untyped = s.untyped := by
  refine KeySet.ext rfl rfl rfl fun u => ?_
  rw [find?_untyped, find?_untyped, Option.map_map]
  rfl

theorem required_untyped (s : KeySet) (u : KeyUsage) :
    s.untyped.required u = (s.required u).map Key.untyped := by
  unfold required
  rw [get?_untyped]
  cases s.get? u with
  | none => rfl
  | some k => rfl

theorem answerMacSource_untyped (s : KeySet) :
    s.untyped.answerMacSource = s.answerMacSource.map Key.untyped := by
  unfold answerMacSource
  rw [find?_untyped, required_untyped]
  cases s.find? .rmac with
  -- a key of its own is found either way
  | some k => rfl
  | none =>
    cases s.required .mac with
    | error e => rfl
    -- the copy is made of a key that there is, so its length is accepted
    | ok source => exact Key.make_untyped source.fits

/-! ### Filling a set -/

theorem admits_untyped_iff : s.untyped.Admits k.untyped ↔ s.Admits k := by
  -- being apart is about roles and ids, which forgetting the ciphers leaves
  rw [admits_iff, admits_iff]
  constructor
  · intro h u l hl
    exact h u l.untyped (congrArg (Option.map Key.untyped) hl)
  · intro h u l hl
    obtain ⟨l, hfound, rfl⟩ := Option.map_eq_some_iff.1 hl
    exact h u l hfound

theorem insert_untyped (s : KeySet) (k : Key) :
    s.untyped.insert k.untyped = (s.insert k).map untyped := by
  unfold insert
  by_cases h : s.Admits k
  · rw [dif_pos h, dif_pos (admits_untyped_iff.2 h)]
    refine congrArg Except.ok (KeySet.ext rfl rfl rfl fun u => ?_)
    -- the added key is found under its role, and the others where they were
    rw [find?_untyped, find?_add, find?_add]
    change (if u = k.usage then _ else _) = _
    split
    · rfl
    · rfl
  · rw [dif_neg h, dif_neg (mt admits_untyped_iff.1 h)]
    rfl

/-- **A set is filled without the ciphers as it is with them.** -/
theorem fill_untyped (s : KeySet) (keys : List (Except Error Key)) :
    s.untyped.fill (keys.map (Except.map Key.untyped)) = (s.fill keys).map untyped := by
  unfold fill
  -- on the keys, for the set that each of them is put into
  induction keys generalizing s with
  | nil => rfl
  | cons key keys ih =>
    rw [List.map_cons, List.foldlM_cons, List.foldlM_cons]
    cases key with
    | error e => rfl
    | ok k =>
      show (s.untyped.insert k.untyped >>= _) = (s.insert k >>= _).map untyped
      rw [insert_untyped]
      cases s.insert k with
      | error e => rfl
      | ok t => exact ih t

/-! ### Session keys -/

theorem scp02Key_untyped {tag sequence : Block 2} (h : base.cipher ≠ .aes) :
    scp02Key base.untyped u tag sequence = scp02Key base u tag sequence := by
  have huntyped : base.untyped.cipher ≠ .aes := nofun
  unfold scp02Key
  -- the refusal of AES keys is the only place where the cipher is asked for
  rw [if_neg h, if_neg huntyped]
  rfl

/-- No key that a session key is taken from is an AES key. -/
def NoAes (s : KeySet) : Prop :=
  ∀ u source, u ≠ .master → s.sessionSource? u = some source → source.cipher ≠ .aes

theorem NoAes.cipher_ne_of_required (h : s.NoAes) (hmaster : u ≠ .master) (hu : u ≠ .rmac)
    (hbase : s.required u = .ok base) : base.cipher ≠ .aes := by
  obtain ⟨source, hsource, hstands⟩ := exists_source_of_required hu hbase
  rw [hstands.cipher_eq]
  exact h u source hmaster hsource

theorem NoAes.cipher_ne_of_answerMacSource (h : s.NoAes) (hbase : s.answerMacSource = .ok base) :
    base.cipher ≠ .aes := by
  obtain ⟨source, hsource, hstands⟩ := exists_source_of_answerMacSource hbase
  rw [hstands.cipher_eq]
  exact h .rmac source (by decide) hsource

/-- **SCP02 derives the same keys without the ciphers**, if there is no AES key to be refused. -/
theorem scp02Session_untyped (h : s.NoAes) (sequence : Block 2) :
    s.untyped.scp02Session sequence = s.scp02Session sequence := by
  have hkeys : s.untyped.table.scp02Keys sequence = s.table.scp02Keys sequence := by
    unfold KeyTable.scp02Keys
    simp only [required_table, answerMacSource_table, required_untyped, answerMacSource_untyped,
      map_bind]
    -- a key that is not found is not found either way, and those that are found are no AES keys
    refine bind_congr_of_ok fun enc henc => bind_congr_of_ok fun mac hmac =>
      bind_congr_of_ok fun kek hkek => bind_congr_of_ok fun rmac hrmac => ?_
    rw [scp02Key_untyped (h.cipher_ne_of_required (by decide) (by decide) henc),
      scp02Key_untyped (h.cipher_ne_of_required (by decide) (by decide) hmac),
      scp02Key_untyped (h.cipher_ne_of_required (by decide) (by decide) hkek),
      scp02Key_untyped (h.cipher_ne_of_answerMacSource hrmac)]
  rw [scp02Session_eq_fill, scp02Session_eq_fill, hkeys]
  rfl

/-- What is carried over keeps its cipher, and nothing else depends on it. -/
theorem carried_untyped (kek : Key) :
    (kek.untyped.derive .kek kek.untyped.cipher kek.untyped.secret).map Key.untyped =
      (kek.derive .kek kek.cipher kek.secret).map Key.untyped := by
  unfold Key.derive Key.make
  rw [dif_pos kek.fits, dif_pos kek.untyped.fits]
  rfl

/-- **SCP03 derives the same keys without the ciphers**, whatever they are. -/
theorem scp03Session_untyped (s : KeySet) (context : Bytes) :
    (s.untyped.scp03Session context).map untyped = (s.scp03Session context).map untyped := by
  rw [scp03Session_eq_fill, scp03Session_eq_fill, bind_map, bind_map]
  unfold KeyTable.scp03Keys
  simp only [required_table, answerMacSource_table, required_untyped, answerMacSource_untyped,
    map_bind, bind_assoc, pure_bind]
  refine bind_congr_of_ok fun enc _ => bind_congr_of_ok fun mac _ =>
    bind_congr_of_ok fun rmac _ => ?_
  -- the three session keys are made by AES in any case, and the last key is the one carried over
  have hkek : (s.required .kek >>= fun kek =>
        kek.untyped.derive .kek kek.untyped.cipher kek.untyped.secret).map Key.untyped =
      (s.required .kek >>= fun kek => kek.derive .kek kek.cipher kek.secret).map Key.untyped := by
    rw [bind_map, bind_map]
    exact bind_congr_of_ok fun kek _ => carried_untyped kek
  rw [← fill_untyped, ← fill_untyped]
  simp only [List.map_cons, List.map_nil, hkek]
  rfl

end KeySet

end SmartCard
