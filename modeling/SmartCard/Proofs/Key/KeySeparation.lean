import SmartCard.Proofs.Key.Derivations

/-!
# Separate keys

A key that got into the wrong hands, or was used up, must not be a key of another session or of
another role. Derived secrets are enciphered under the secret of their source, and what was
enciphered can be told from them. In SCP02 that is a tag for the role and the counter of the session
(`KeySet.eq_of_scp02Made`). In a diversified key it is, even if eight bytes only were kept, the data
of the card and the byte of the role (`KeySet.eq_of_diversified`).

Hence keys whose sources have one secret are separate: no counter makes the secrets of another one,
and no role has those of another role (`KeySet.separates`). The counter itself is never refused, so
that a card that starts one session can start one with every counter. -/

namespace SmartCard

variable {s t t' : KeySet} {k k' source source' : Key} {u v : KeyUsage}
  {scheme scheme' : Diversification} {data data' : Block 10} {sequence sequence' : Block 2}

theorem KeyUsage.id_inj (h : u.id = v.id) : u = v := by
  revert h
  cases u <;> cases v <;> decide

/-! ### Marked halves -/

namespace Diversification

/-- The first half of a block: the data of the card, a mark, and the byte of the role. -/
theorem toList_leftHalf_block (scheme : Diversification) (data : Block 10) (u : KeyUsage) :
    (scheme.block data u).leftHalf.toList = (scheme.used data).toList ++ [0xF0, u.id] := by
  show List.take 8 ((((scheme.used data).toList ++ [0xF0, u.id]) ++ (scheme.used data).toList) ++
    [0x0F, u.id]) = _
  rw [List.append_assoc]
  exact List.take_left' (by simp)

/-- **Half a block tells the card and the role.** -/
theorem eq_of_leftHalf_block
    (h : (scheme.block data u).leftHalf = (scheme'.block data' v).leftHalf) :
    scheme.used data = scheme'.used data' ∧ u = v := by
  have hbytes := congrArg Block.toList h
  rw [toList_leftHalf_block, toList_leftHalf_block] at hbytes
  -- the data of the card have six bytes in every scheme, so the mark is at one place
  obtain ⟨hused, hmark⟩ := List.append_inj hbytes (by simp)
  simp only [List.cons.injEq, and_true, true_and] at hmark
  exact ⟨Block.ext hused, KeyUsage.id_inj hmark⟩

end Diversification

namespace KeySet

/-! ### What a key tells -/

/-- **A diversified key tells the card and the role** for which it was made of a secret. -/
theorem eq_of_diversified (h : Diversified scheme data u source k)
    (h' : Diversified scheme' data' v source' k') (hsource : source.secret = source'.secret)
    (hsame : k.secret = k'.secret) : scheme.used data = scheme'.used data' ∧ u = v := by
  obtain ⟨-, enciphered, henciphered, hk⟩ := h
  obtain ⟨-, enciphered', henciphered', hk'⟩ := h'
  -- at least eight bytes of what was enciphered are in the key
  have hkept : 8 ≤ source.length :=
    (TripleDes.exists_ecbEncrypt_iff.1 ⟨enciphered, henciphered⟩).length_le
  have hlength : source'.length = source.length := congrArg List.length hsource.symm
  rw [hk, hk', hlength] at hsame
  rw [← hsource] at henciphered'
  have hhalves := TripleDes.leftHalf_eq_of_ecbEncrypt hkept henciphered henciphered' hsame
  exact Diversification.eq_of_leftHalf_block hhalves

theorem scp02Tag_inj (hu : u ≠ .master) (hv : v ≠ .master) (h : scp02Tag u = scp02Tag v) :
    u = v := by
  revert hu hv h
  cases u <;> cases v <;> decide

/-- **A key of an SCP02 session tells the counter and the role** for which it was made of a secret.
-/
theorem eq_of_scp02Made (hu : u ≠ .master) (hv : v ≠ .master) (h : Scp02Made sequence u source k)
    (h' : Scp02Made sequence' v source' k') (hsource : source.secret = source'.secret)
    (hsame : k.secret = k'.secret) : sequence = sequence' ∧ u = v := by
  obtain ⟨-, -, made, hmade, hk⟩ := h
  obtain ⟨-, -, made', hmade', hk'⟩ := h'
  rw [hk, hk'] at hsame
  -- one secret that was made, so what was enciphered into it is one block
  obtain rfl := Block.ext hsame
  rw [← hsource] at hmade'
  obtain ⟨htag, hsequence⟩ := Derivation.eq_of_fromSequence hmade hmade'
  exact ⟨hsequence, scp02Tag_inj hu hv htag⟩

/-! ### Separate secrets -/

/-- The keys of two roles are made of equal secrets, such as that of a master key. -/
def SameSource (source? : KeyUsage → Option Key) (u v : KeyUsage) : Prop :=
  ∃ source source', source? u = some source ∧ source? v = some source' ∧
    source.secret = source'.secret

/-- There is a key for a role in one set and for a role in another one, and their secrets differ. -/
def SecretsDiffer (t : KeySet) (u : KeyUsage) (t' : KeySet) (v : KeyUsage) : Prop :=
  ∃ k k', t.find? u = some k ∧ t'.find? v = some k' ∧ k.secret ≠ k'.secret

/-- **The secrets of derived keys are separate.** -/
structure Separates (s : KeySet) : Prop where
  /-- A session can be derived for any counter, or for none. -/
  any_counter : ∀ sequence sequence', (∃ t, s.scp02Session sequence = .ok t) →
    ∃ t, s.scp02Session sequence' = .ok t
  /-- Two sessions with different counters have different secrets in each role. -/
  counters : ∀ sequence sequence' t t', s.scp02Session sequence = .ok t →
    s.scp02Session sequence' = .ok t' → sequence ≠ sequence' → ∀ u, u ≠ .master →
      t.SecretsDiffer u t' u
  /-- The keys of one session have different secrets, if they are made of the same one. -/
  session : ∀ sequence t, s.scp02Session sequence = .ok t → ∀ u v, u ≠ .master → v ≠ .master →
    u ≠ v → SameSource s.sessionSource? u v → t.SecretsDiffer u t v
  /-- The keys of one card have different secrets, if they are made of the same one. -/
  card : ∀ scheme data t, s.diversify (some scheme) data = .ok t → ∀ u v, u ≠ .master →
    v ≠ .master → u ≠ v → SameSource s.diversificationSource? u v → t.SecretsDiffer u t v

theorem exists_diversified (h : s.diversify (some scheme) data = .ok t) (hu : u ≠ .master)
    (hsource : s.diversificationSource? u = some source) :
    ∃ k, t.find? u = some k ∧ Diversified scheme data u source k := by
  have hfound := (derived_of_diversify h).found u hu
  rw [hsource] at hfound
  cases hk : t.find? u with
  | none => rw [hk] at hfound; nomatch hfound
  | some k =>
    rw [hk] at hfound
    cases hfound with
    | some hmade => exact ⟨k, rfl, hmade.2⟩

/-- **Keys that are derived from any key set are separate.** -/
theorem separates (s : KeySet) : s.Separates where
  any_counter := by
    intro sequence sequence' h
    -- whether the keys can be derived says nothing about the counter
    exact exists_scp02Session_iff.2 (exists_scp02Session_iff.1 h)
  counters := by
    intro sequence sequence' t t' h h' hne u hu
    obtain ⟨source, k, hsource, hk, hmade⟩ := exists_made_of_scp02Session h hu
    obtain ⟨source', k', hsource', hk', hmade'⟩ := exists_made_of_scp02Session h' hu
    -- the sources are the same, since both sessions are made from one set
    cases hsource.symm.trans hsource'
    refine ⟨k, k', hk, hk', fun hsame => hne ?_⟩
    exact (eq_of_scp02Made hu hu hmade hmade' rfl hsame).1
  session := by
    rintro sequence t h u v hu hv hne ⟨source, source', hsource, hsource', hsecret⟩
    obtain ⟨_, k, hfound, hk, hmade⟩ := exists_made_of_scp02Session h hu
    obtain ⟨_, k', hfound', hk', hmade'⟩ := exists_made_of_scp02Session h hv
    -- the sources are the ones that were found to have one secret
    cases hsource.symm.trans hfound
    cases hsource'.symm.trans hfound'
    refine ⟨k, k', hk, hk', fun hsame => hne ?_⟩
    exact (eq_of_scp02Made hu hv hmade hmade' hsecret hsame).2
  card := by
    rintro scheme data t h u v hu hv hne ⟨source, source', hsource, hsource', hsecret⟩
    obtain ⟨k, hk, hmade⟩ := exists_diversified h hu hsource
    obtain ⟨k', hk', hmade'⟩ := exists_diversified h hv hsource'
    refine ⟨k, k', hk, hk', fun hsame => hne ?_⟩
    -- equal secrets would mean one role
    exact (eq_of_diversified hmade hmade' hsecret hsame).2

/-- A master key of eight bytes, of which one block is enciphered and half of it kept. -/
def oneDesKeys : KeySet :=
  (empty "m" 0).add ⟨0, .master, .des, testSecret.take 8, by decide⟩ ⟨rfl, .inl rfl⟩

/-- One key of eight bytes makes separate keys for two sessions, and for all roles of a card. -/
theorem separates_oneDesKeys :
    (∃ t t', oneDesKeys.scp02Session ⟨[0x00, 0x0D], rfl⟩ = .ok t ∧
      oneDesKeys.scp02Session ⟨[0x00, 0x0E], rfl⟩ = .ok t' ∧ t.SecretsDiffer .enc t' .enc ∧
      t.SecretsDiffer .enc t .rmac) ∧
    ∃ t, oneDesKeys.diversify (some .emv) issuerData = .ok t ∧ t.SecretsDiffer .enc t .mac := by
  have hseparates := oneDesKeys.separates
  have hsession : (oneDesKeys.scp02Session ⟨[0x00, 0x0D], rfl⟩).isOk = true := by decide +kernel
  obtain ⟨t, ht⟩ := isOk_iff.1 hsession
  obtain ⟨t', ht'⟩ := hseparates.any_counter _ ⟨[0x00, 0x0E], rfl⟩ ⟨t, ht⟩
  have hdiversified : (oneDesKeys.diversify (some .emv) issuerData).isOk = true := by
    decide +kernel
  obtain ⟨card, hcard⟩ := isOk_iff.1 hdiversified
  refine ⟨⟨t, t', ht, ht', ?counters, ?session⟩, card, hcard, ?card⟩
  case counters => exact hseparates.counters _ _ t t' ht ht' (by decide) .enc (by decide)
  case session =>
    exact hseparates.session _ t ht .enc .rmac (by decide) (by decide) (by decide)
      ⟨_, _, rfl, rfl, rfl⟩
  case card =>
    exact hseparates.card _ _ card hcard .enc .mac (by decide) (by decide) (by decide)
      ⟨_, _, rfl, rfl, rfl⟩

end KeySet

end SmartCard
