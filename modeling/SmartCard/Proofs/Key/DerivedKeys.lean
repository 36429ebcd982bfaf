import SmartCard.Proofs.Key.Derivations

/-!
# The keys of a session

What the protocols rely on is the length of the session keys (`KeySet.Serves`): SCP02 sessions have
a key of sixteen bytes for every role (`KeySet.serves_of_scp02Session`), and SCP03 sessions have one
for each of the three roles that protect commands and answers (`KeySet.serves_of_scp03Session`).
Their key encryption key is the static one. -/

namespace SmartCard

namespace KeySet

variable {s t : KeySet} {usage : KeyUsage}

/-- The set has a key of sixteen bytes for a role. -/
def Serves (s : KeySet) (usage : KeyUsage) : Prop :=
  ∃ k, s.get? usage = some k ∧ k.secret.length = 16

theorem serves_of_find? {k : Key} (h : s.find? usage = some k) (hlen : k.secret.length = 16) :
    s.Serves usage :=
  ⟨k, by rw [get?, h, Option.some_or], hlen⟩

/-- **SCP02 sessions have a key of sixteen bytes for every role.** -/
theorem serves_of_scp02Session {sequence : Block 2} (h : s.scp02Session sequence = .ok t)
    (hu : usage ≠ .master) : t.Serves usage := by
  obtain ⟨source, k, -, hk, -, hlen, -⟩ := exists_made_of_scp02Session h hu
  exact serves_of_find? hk hlen

/-- **SCP03 sessions have a key of sixteen bytes for the roles that protect commands and answers.**
The key encryption key is the static one, and says nothing about them. -/
theorem serves_of_scp03Session {context : Bytes} (h : s.scp03Session context = .ok t)
    (hmaster : usage ≠ .master) (hkek : usage ≠ .kek) : t.Serves usage := by
  obtain ⟨source, k, -, hk, hmade⟩ := exists_made_of_scp03Session h hmaster
  unfold Scp03Made at hmade
  -- for every other role the key is one that was made, not carried over
  rw [if_neg hkek] at hmade
  exact serves_of_find? hk hmade.2.1

/-- **The key encryption key of an SCP03 session is the static one.** -/
theorem find?_kek_of_scp03Session {context : Bytes} (h : s.scp03Session context = .ok t) :
    ∃ source k, s.get? .kek = some source ∧ t.find? .kek = some k ∧ k.cipher = source.cipher ∧
      k.secret = source.secret := by
  obtain ⟨source, k, hsource, hk, hcipher, hsecret⟩ :=
    exists_made_of_scp03Session (u := .kek) h (by decide)
  exact ⟨source, k, hsource, hk, hcipher, hsecret⟩

end KeySet

end SmartCard
