import SmartCard.Proofs.Channel.DesCard
import SmartCard.Proofs.Channel.Handshake
import SmartCard.Proofs.Key.DiversifiedKeys
import SmartCard.Proofs.Key.UntypedKeys

/-!
# The ciphers of static keys

The card announces the protocol, and a session starts with whatever static keys there are for it.
What they are meant for is looked at in one place only: SCP02 takes no AES key. Everywhere else a
session starts with keys of a cipher exactly if it starts with the same secrets as generic keys, and
nothing about it differs but the ciphers of its keys (`Session.start_untyped`). SCP01 takes an AES
key where triple DES can use the secret, and SCP03 takes a triple DES key of sixteen bytes
(`Session.start_otherCiphers`).

The lengths that remain are what the operations themselves need (`Session.startsFrom`): a secret of
triple DES for SCP01 and SCP02, and sixteen bytes for SCP03, which no key of single DES has. -/

namespace SmartCard

open KeySet (NoAes)

namespace Session

variable {staticKeys : KeySet} {offer : CardOffer} {challenge : Block 8}
  {parameters : Option UInt8} {s : Session} {u : KeyUsage}

/-! ### Sessions without the ciphers -/

/-- The session with its keys as ones that are meant for any cipher. -/
def untyped (s : Session) : Session := { s with keys := s.keys.untyped }

theorem key_untyped (s : Session) (u : KeyUsage) :
    s.untyped.key u = (s.key u).map Key.untyped := by
  simp only [key, untyped, KeySet.get?_untyped]
  cases s.keys.get? u with
  | none => rfl
  | some k => rfl

theorem secret_untyped (s : Session) (u : KeyUsage) : s.untyped.secret u = s.secret u := by
  unfold Session.secret
  rw [key_untyped]
  cases s.key u with
  | error e => rfl
  | ok k => rfl

theorem cardCryptogram_untyped (s : Session) : s.untyped.cardCryptogram = s.cardCryptogram := by
  unfold cardCryptogram derivedCryptogram
  simp only [secret_untyped]
  rfl

/-- The session of some keys, if the card has proved that it has them too. -/
def proved (keys : KeySet) (offer : CardOffer) (challenge : Block 8)
    (parameters : Option UInt8) : Except Error Session := do
  let session := unproved keys offer challenge parameters
  let expected ← session.cardCryptogram
  if !Mac.agree expected.toList offer.cardCryptogram.toList then
    throw (.security .cardCryptogram)
  return session

theorem start_eq (staticKeys : KeySet) (offer : CardOffer) (challenge : Block 8)
    (parameters : Option UInt8) : start staticKeys offer challenge parameters =
      if offer.version = .scp03 ∧ parametersOf offer parameters &&& longModeBit ≠ 0 then
        .error (.unsupported .scp03LongMode)
      else sessionKeys staticKeys offer challenge >>=
        fun keys => proved keys offer challenge parameters :=
  rfl

theorem proved_untyped (keys : KeySet) : proved keys.untyped offer challenge parameters =
    (proved keys offer challenge parameters).map untyped := by
  have hproof := cardCryptogram_untyped (unproved keys offer challenge parameters)
  -- both sessions expect the same proof, and differ in the keys that they carry on with
  unfold proved
  rw [bind_map]
  change ((unproved keys offer challenge parameters).untyped.cardCryptogram >>= _) = _
  rw [hproof]
  refine bind_congr_of_ok fun expected _ => ?_
  split
  · rfl
  · rfl

/-- **The session keys are the same without the ciphers**, if SCP02 has no AES key to refuse. -/
theorem sessionKeys_untyped (h : offer.version = .scp02 → staticKeys.NoAes) :
    (sessionKeys staticKeys.untyped offer challenge).map KeySet.untyped =
      (sessionKeys staticKeys offer challenge).map KeySet.untyped := by
  unfold sessionKeys
  cases hversion : offer.version with
  | scp01 => exact congrArg Except.ok staticKeys.untyped_untyped
  | scp02 => exact congrArg _ (KeySet.scp02Session_untyped (h hversion) offer.sequenceCounter)
  | scp03 => exact staticKeys.scp03Session_untyped _

/-- **A session starts without the ciphers as it does with them**, or fails as it does, if SCP02 has
no AES key to refuse. -/
theorem start_untyped (h : offer.version = .scp02 → staticKeys.NoAes) :
    (start staticKeys.untyped offer challenge parameters).map untyped =
      (start staticKeys offer challenge parameters).map untyped := by
  -- what is made of the session keys does not depend on their ciphers either
  have hstart (keys : KeySet) : (start keys offer challenge parameters).map untyped =
      if offer.version = .scp03 ∧ parametersOf offer parameters &&& longModeBit ≠ 0 then
        .error (.unsupported .scp03LongMode)
      else (sessionKeys keys offer challenge).map KeySet.untyped >>=
        fun keys => proved keys offer challenge parameters := by
    rw [start_eq, map_bind]
    simp only [proved_untyped, ← bind_map]
    split
    · rfl
    · rfl
  rw [hstart, hstart, sessionKeys_untyped h]

/-! ### What is taken -/

theorem length_of_scp03Made {k source : Key} {context : Bytes} (hu : u ≠ .kek)
    (h : KeySet.Scp03Made context u source k) : source.length = 16 := by
  unfold KeySet.Scp03Made at h
  rw [if_neg hu] at h
  obtain ⟨-, hlen, hderived⟩ := h
  -- as many bytes are derived as the source has, and AES keys have one length
  have hasked := Derivation.length_of_counterMode hderived
  have hbits : (source.length * 8).toUInt16.toNat = source.length * 8 :=
    UInt16.toNat_ofNat_of_lt' (Nat.lt_of_le_of_lt
      (Nat.mul_le_mul_right 8 source.length_le) (by decide))
  rw [hlen, hbits] at hasked
  omega

/-- **The static keys that a session takes.** -/
structure StartsFrom (staticKeys : KeySet) (offer : CardOffer) (challenge : Block 8)
    (parameters : Option UInt8) : Prop where
  /-- SCP01 takes any encryption key that triple DES can use. -/
  scp01 : ∀ s, start staticKeys offer challenge parameters = .ok s → offer.version = .scp01 →
    ∃ source, staticKeys.get? .enc = some source ∧ source.length ≤ 24
  /-- SCP02 takes keys that triple DES can use, and no AES key. -/
  scp02 : ∀ s, start staticKeys offer challenge parameters = .ok s → offer.version = .scp02 →
    ∀ u, u ≠ .master → ∃ source, staticKeys.sessionSource? u = some source ∧
      source.cipher ≠ .aes ∧ source.length ≤ 24
  /-- SCP03 takes keys of sixteen bytes, and hence no key of single DES. -/
  scp03 : ∀ s, start staticKeys offer challenge parameters = .ok s → offer.version = .scp03 →
    ∀ u, u ≠ .master → u ≠ .kek → ∃ source, staticKeys.sessionSource? u = some source ∧
      source.cipher ≠ .des ∧ source.length = 16
  /-- **Nothing else depends on the ciphers**: generic keys start the same session, or fail in the
  same way. -/
  untyped : (offer.version = .scp02 → staticKeys.NoAes) →
    (start staticKeys.untyped offer challenge parameters).map untyped =
      (start staticKeys offer challenge parameters).map untyped

/-- **Start of any session.** -/
theorem startsFrom (staticKeys : KeySet) (offer : CardOffer) (challenge : Block 8)
    (parameters : Option UInt8) : StartsFrom staticKeys offer challenge parameters where
  scp01 := by
    intro s hstart hversion
    obtain ⟨-, keys, hkeys, hproof, -⟩ := start_eq_ok_iff.1 hstart
    -- there are no session keys: the card's proof is a MAC of triple DES under the static key
    have hstatic : sessionKeys staticKeys offer challenge = .ok staticKeys := by
      unfold sessionKeys
      rw [hversion]
    cases hstatic.symm.trans hkeys
    have hstarted : (unproved staticKeys offer challenge parameters).version = .scp01 :=
      (Chaining.version_start offer.version).trans hversion
    have hcard := cardCryptogram_eq_ok_iff.1 hproof
    rw [hstarted] at hcard
    obtain ⟨source, hsource, hmac⟩ := hcard
    exact ⟨source, hsource, source.usable_iff.1 (Mac.usable_of_triple hmac)⟩
  scp02 := by
    intro s hstart hversion u hu
    obtain ⟨-, keys, hkeys, -⟩ := start_eq_ok_iff.1 hstart
    unfold sessionKeys at hkeys
    rw [hversion] at hkeys
    obtain ⟨source, hsource, hcipher, husable⟩ :=
      KeySet.exists_scp02Session_iff.1 ⟨keys, hkeys⟩ u hu
    exact ⟨source, hsource, hcipher, source.usable_iff.1 husable⟩
  scp03 := by
    intro s hstart hversion u hu hkek
    obtain ⟨-, keys, hkeys, -⟩ := start_eq_ok_iff.1 hstart
    unfold sessionKeys at hkeys
    rw [hversion] at hkeys
    obtain ⟨source, k, hsource, -, hmade⟩ := KeySet.exists_made_of_scp03Session hkeys hu
    have hlen := length_of_scp03Made hkek hmade
    -- a key of single DES is too short
    refine ⟨source, hsource, fun hdes => ?_, hlen⟩
    have hfits := source.fits
    rw [hdes] at hfits
    change (source.length == 8) = true at hfits
    rw [hlen] at hfits
    nomatch hfits
  untyped := start_untyped

/-- The recorded SCP03 session starts with its AES key, and with the same secret for any cipher. -/
theorem startsFrom_recorded : ∃ s s',
    start Scp03Card.recordedKeys Scp03Card.recordedOffer Scp03Card.recordedChallenge none = .ok s ∧
      start Scp03Card.recordedKeys.untyped Scp03Card.recordedOffer Scp03Card.recordedChallenge
        none = .ok s' ∧ s'.untyped = s.untyped := by
  obtain ⟨s, -, -, hstart, -⟩ := Scp03Card.recorded_authenticates
  have hsame := (startsFrom Scp03Card.recordedKeys Scp03Card.recordedOffer
    Scp03Card.recordedChallenge none).untyped nofun
  rw [hstart] at hsame
  obtain ⟨s', hstart', huntyped⟩ := map_eq_ok_iff.1 hsame
  exact ⟨s, s', hstart, hstart', huntyped⟩

/-- An offer of SCP01, with the proof of a card that has the test secret. -/
def scp01Offer : CardOffer :=
  { DesCard.recordedOffer with
    announced := .scp01
    cardCryptogram := ⟨[0x43, 0x26, 0x96, 0x11, 0x5C, 0x9D, 0x40, 0x94], rfl⟩ }

/-- The keys of the recorded SCP03 session, with the secret as one of triple DES. -/
def tripleDesKeys : KeySet :=
  (KeySet.empty "recorded" 0x30).add
    ⟨0, .master, .des3, KeySet.testSecret, KeySet.des3_accepts_testSecret⟩ ⟨rfl, .inl rfl⟩

theorem untyped_tripleDesKeys : tripleDesKeys.untyped = Scp03Card.recordedKeys.untyped := by
  refine KeySet.ext rfl rfl rfl fun u => ?_
  cases u <;> rfl

/-- **SCP01 starts with an AES key, and SCP03 with a triple DES key.** -/
theorem start_otherCiphers :
    (∃ s source, start Scp03Card.recordedKeys scp01Offer DesCard.recordedChallenge none = .ok s ∧
      scp01Offer.version = .scp01 ∧ Scp03Card.recordedKeys.get? .enc = some source ∧
      source.cipher = .aes) ∧
    ∃ s source, start tripleDesKeys Scp03Card.recordedOffer Scp03Card.recordedChallenge none =
      .ok s ∧ Scp03Card.recordedOffer.version = .scp03 ∧
      tripleDesKeys.get? .enc = some source ∧ tripleDesKeys.get? .mac = some source ∧
      source.cipher = .des3 := by
  have hscp01 : (start Scp03Card.recordedKeys scp01Offer DesCard.recordedChallenge
      none).isOk = true := by decide +kernel
  obtain ⟨s, hs⟩ := isOk_iff.1 hscp01
  have hother (keys : KeySet) : Scp03Card.recordedOffer.version = .scp02 → keys.NoAes :=
    fun h => nomatch h
  -- the secrets are those of the recorded session, and SCP03 looks at nothing else
  have hscp03 : (start tripleDesKeys Scp03Card.recordedOffer Scp03Card.recordedChallenge
        none).map untyped =
      (start Scp03Card.recordedKeys Scp03Card.recordedOffer Scp03Card.recordedChallenge
        none).map untyped := by
    rw [← start_untyped (hother _), untyped_tripleDesKeys, start_untyped (hother _)]
  obtain ⟨session, -, -, hstart, -⟩ := Scp03Card.recorded_authenticates
  rw [hstart] at hscp03
  obtain ⟨s', hs', -⟩ := map_eq_ok_iff.1 hscp03
  exact ⟨⟨s, _, hs, rfl, rfl, rfl⟩, s', _, hs', rfl, rfl, rfl, rfl⟩

end Session

end SmartCard
