import SmartCard.Proofs.Cipher.DerivedSecrets
import SmartCard.Proofs.Key.DerivedSets
import SmartCard.Proofs.Key.TableRuns

/-!
# Derivations from a key set

Diversification and the derivations of session keys make their keys from the static keys of one set:
from the role's own key, or else from one that stands in for it (`Key.StandsFor`). For each of the
three, `KeySet.Makes` holds of the keys that it makes. Hence no derivation finds a key already
there, and one that has succeeded leaves exactly the keys that it should, each made of its source
(`KeySet.derived_of_diversify`, `KeySet.derived_of_scp02Session`, `KeySet.derived_of_scp03Session`).
What can fail is the making of single keys, which tells when a derivation succeeds
(`KeySet.exists_scp02Session_iff`).

A set that is marked with a scheme hands the mark on to every set that is made of it, by induction
on the calls (`KeySet.diversification_after`), and no scheme is applied to a marked set.
`KeySet.derivesWell` is the result for every key set. -/

namespace SmartCard

variable {s t : KeySet} {k source : Key} {u : KeyUsage}

namespace Key

/-- A key that another one is taken from, or that stands in for it: what is derived of it gets the
id of a key that is taken from the source. -/
structure StandsFor (base source : Key) (u : KeyUsage) : Prop where
  cipher_eq : base.cipher = source.cipher
  secret_eq : base.secret = source.secret
  id_eq : (if base.usage = .master then 0 else base.id) = source.takenId u

theorem standsFor_self (h : ¬(u = .rmac ∧ source.usage = .mac)) : source.StandsFor source u where
  cipher_eq := rfl
  secret_eq := rfl
  id_eq := by unfold takenId; simp only [h, or_false]

theorem exists_make {id : UInt8} {usage : KeyUsage} {cipher : KeyCipher} {secret : Bytes}
    (h : cipher.accepts secret.length = true) : ∃ k, make id usage cipher secret = .ok k :=
  ⟨_, dif_pos h⟩

/-- A derived key is taken from the source. -/
theorem StandsFor.derive {base : Key} {cipher : KeyCipher} {secret : Bytes}
    (hbase : base.StandsFor source u) (h : base.derive u cipher secret = .ok k) :
    k.usage = u ∧ k.id = source.takenId u ∧ k.cipher = cipher ∧ k.secret = secret := by
  obtain ⟨hid, husage, hcipher, hsecret⟩ := make_eq_ok_iff.1 h
  exact ⟨husage, hid.trans hbase.id_eq, hcipher, hsecret⟩

end Key

namespace KeySet

/-! ### Diversified keys -/

/-- Diversified keys are taken from the same sources, except that nothing stands in for the answer
MAC. -/
theorem sessionSource?_of_diversificationSource? (h : s.diversificationSource? u = some source) :
    s.sessionSource? u = some source := by
  -- for every other role the two searches are one
  unfold diversificationSource? at h
  unfold sessionSource?
  by_cases hu : u = .rmac
  · subst hu
    rw [if_pos rfl] at h ⊢
    rw [h, Option.some_or]
  · rw [if_neg hu] at h ⊢
    exact h

/-- A diversified key: the cipher is that of its source, and the secret is the block of the role
enciphered under the source. -/
def Diversified (scheme : Diversification) (data : Block 10) (u : KeyUsage) (source k : Key) :
    Prop :=
  k.cipher = source.cipher ∧ ∃ secret,
    TripleDes.ecbEncrypt source.secret (scheme.block data u).toList = .ok secret ∧
      k.secret = secret.take source.length

theorem unclashing_diversifyKey (scheme : Diversification) (data : Block 10) (source : Key)
    (u : KeyUsage) : Unclashing (diversifyKey scheme data source u) := by
  unfold diversifyKey
  split
  · nofun
  · exact (unclashing_mapError_cipher _).bind fun secret _ => Key.unclashing_make _ _ _ _

/-- **When a key is diversified, and to what.** -/
theorem diversifyKey_eq_ok_iff {scheme : Diversification} {data : Block 10} :
    diversifyKey scheme data source u = .ok k ↔ source.cipher ≠ .aes ∧ ∃ enciphered,
      TripleDes.ecbEncrypt source.secret (scheme.block data u).toList = .ok enciphered ∧
        source.derive u source.cipher (enciphered.take source.length) = .ok k := by
  unfold diversifyKey
  -- an AES key is refused first, and the rest are steps that have to succeed
  refine guard_eq_ok_iff.trans (and_congr_right fun _ => ?_)
  simp only [bind_eq_ok_iff, mapError_eq_ok_iff]

theorem diversified_of_diversifyKey {scheme : Diversification} {data : Block 10}
    (hown : ¬(u = .rmac ∧ source.usage = .mac)) (h : diversifyKey scheme data source u = .ok k) :
    k.usage = u ∧ k.id = source.takenId u ∧ Diversified scheme data u source k := by
  obtain ⟨-, secret, hsecret, h⟩ := diversifyKey_eq_ok_iff.1 h
  obtain ⟨husage, hid, hcipher, hk⟩ := (Key.standsFor_self hown).derive h
  exact ⟨husage, hid, hcipher, secret, hsecret, hk⟩

theorem makes_diversifiedKeys (s : KeySet) (scheme : Diversification) (data : Block 10) :
    s.Makes [.enc, .mac, .kek, .rmac] s.diversificationSource? (Diversified scheme data)
      (fun u => (s.diversificationSource? u).map fun source =>
        diversifyKey scheme data source u) where
  nodup := by decide
  mem_iff u := by cases u <;> decide
  source_eq u source h := sessionSource?_of_diversificationSource? h
  unclashing u key h := by
    obtain ⟨source, -, rfl⟩ := Option.map_eq_some_iff.1 h
    exact unclashing_diversifyKey scheme data source u
  taken u k _ h := by
    obtain ⟨source, hsource, hk⟩ := Option.map_eq_some_iff.1 h
    -- nothing stands in for the answer MAC
    have hown : ¬(u = .rmac ∧ source.usage = .mac) := by
      rintro ⟨rfl, hmac⟩
      rw [s.usage_of_find? (u := .rmac) hsource] at hmac
      cases hmac
    obtain ⟨husage, hmade⟩ := diversified_of_diversifyKey hown hk
    exact ⟨husage, source, hsource, hmade⟩
  complete u _ h := Option.map_eq_none_iff.1 h

/-! ### Static keys of a session -/

theorem required_eq_ok_iff : s.required u = .ok k ↔ s.get? u = some k := by
  unfold required
  cases s.get? u with
  | none => simp
  | some l => simp

theorem unclashing_required (s : KeySet) (u : KeyUsage) : Unclashing (s.required u) := by
  unfold required
  split
  · exact unclashing_ok _
  · nofun

theorem unclashing_answerMacSource (s : KeySet) : Unclashing s.answerMacSource := by
  unfold answerMacSource
  split
  · exact unclashing_ok _
  · exact (s.unclashing_required .mac).bind fun source _ => Key.unclashing_make _ _ _ _

theorem exists_source_of_required {base : Key} (hu : u ≠ .rmac) (h : s.required u = .ok base) :
    ∃ source, s.sessionSource? u = some source ∧ base.StandsFor source u := by
  refine ⟨base, ?_, Key.standsFor_self fun hrmac => hu hrmac.1⟩
  unfold sessionSource?
  rw [if_neg hu, required_eq_ok_iff.1 h]

/-- The key of the command MAC stands in for that of the answer MAC under the id zero. -/
theorem exists_source_of_answerMacSource {base : Key} (h : s.answerMacSource = .ok base) :
    ∃ source, s.sessionSource? .rmac = some source ∧ base.StandsFor source .rmac := by
  unfold answerMacSource at h
  unfold sessionSource?
  rw [if_pos rfl]
  cases hfound : s.find? .rmac with
  | some own =>
    rw [hfound] at h
    cases h
    -- a key of its own for the answer MAC stands for itself
    refine ⟨base, Option.some_or, Key.standsFor_self fun hmac => ?_⟩
    rw [s.usage_of_find? hfound] at hmac
    cases hmac.2
  | none =>
    rw [hfound] at h
    obtain ⟨source, hsource, h⟩ := bind_eq_ok_iff.1 h
    obtain ⟨hid, husage, hcipher, hsecret⟩ := Key.make_eq_ok_iff.1 h
    have hget := required_eq_ok_iff.1 hsource
    refine ⟨source, by rw [Option.none_or, hget], hcipher, hsecret, ?_⟩
    -- the source is the key of the command MAC or the master key
    have hstandIn : source.usage = .master ∨ (KeyUsage.rmac = .rmac ∧ source.usage = .mac) := by
      rcases Option.or_eq_some_iff.1 hget with hmac | ⟨-, hmaster⟩
      · exact .inr ⟨rfl, s.usage_of_find? hmac⟩
      · exact .inl (s.usage_of_find? hmaster)
    unfold Key.takenId
    rw [if_pos hstandIn, husage, hid]
    rfl

/-! ### SCP02 -/

/-- The tag of a role in SCP02 derivations. -/
def scp02Tag : KeyUsage → Block 2
  | .enc => scp02EncTag
  | .mac => scp02MacTag
  | .kek => scp02KekTag
  | _ => scp02RmacTag

/-- An SCP02 session key: a triple DES key of sixteen bytes, from the tag and the counter. -/
def Scp02Made (sequence : Block 2) (u : KeyUsage) (source k : Key) : Prop :=
  k.cipher = .des3 ∧ k.secret.length = 16 ∧ ∃ secret,
    Derivation.fromSequence source.secret (scp02Tag u) sequence = .ok secret ∧
      k.secret = secret.toList

theorem unclashing_scp02Key (base : Key) (u : KeyUsage) (tag sequence : Block 2) :
    Unclashing (scp02Key base u tag sequence) := by
  unfold scp02Key
  split
  · nofun
  · exact (unclashing_mapError_cipher _).bind fun secret _ => Key.unclashing_make _ _ _ _

theorem scp02Made_of_scp02Key {base : Key} {sequence : Block 2} (hbase : base.StandsFor source u)
    (h : scp02Key base u (scp02Tag u) sequence = .ok k) :
    k.usage = u ∧ k.id = source.takenId u ∧ Scp02Made sequence u source k := by
  unfold scp02Key at h
  obtain ⟨-, h⟩ := guard_eq_ok_iff.1 h
  obtain ⟨secret, hsecret, h⟩ := bind_eq_ok_iff.1 h
  obtain ⟨husage, hid, hcipher, hk⟩ := hbase.derive h
  rw [hbase.secret_eq] at hsecret
  have hlen : k.secret.length = 16 := by rw [hk, secret.length_toList]
  exact ⟨husage, hid, hcipher, hlen, secret, mapError_eq_ok_iff.1 hsecret, hk⟩

theorem unclashing_scp02Keys (s : KeySet) (sequence : Block 2) :
    Unclashing (s.table.scp02Keys sequence) :=
  (s.unclashing_required .enc).bind fun _ _ => (s.unclashing_required .mac).bind fun _ _ =>
    (s.unclashing_required .kek).bind fun _ _ => s.unclashing_answerMacSource.bind fun _ _ =>
      unclashing_ok _

/-- Once all static keys were found, the session keys of all roles can be made. -/
theorem makes_scp02Keys {sequence : Block 2} {keys : List (Except Error Key)}
    (h : s.table.scp02Keys sequence = .ok keys) : ∃ base : KeyUsage → Key,
      keys = [.enc, .mac, .kek, .rmac].filterMap
        (fun u => some (scp02Key (base u) u (scp02Tag u) sequence)) ∧
      s.Makes [.enc, .mac, .kek, .rmac] s.sessionSource? (Scp02Made sequence)
        (fun u => some (scp02Key (base u) u (scp02Tag u) sequence)) ∧
      ∀ u, u ≠ .master →
        ∃ source, s.sessionSource? u = some source ∧ (base u).StandsFor source u := by
  unfold KeyTable.scp02Keys at h
  obtain ⟨enc, henc, h⟩ := bind_eq_ok_iff.1 h
  obtain ⟨mac, hmac, h⟩ := bind_eq_ok_iff.1 h
  obtain ⟨kek, hkek, h⟩ := bind_eq_ok_iff.1 h
  obtain ⟨rmac, hrmac, h⟩ := bind_eq_ok_iff.1 h
  cases h
  -- one key for each role, so that the four look-ups are said at once
  let base : KeyUsage → Key
    | .enc => enc
    | .mac => mac
    | .kek => kek
    | _ => rmac
  have hbase (u : KeyUsage) (hu : u ≠ .master) :
      ∃ source, s.sessionSource? u = some source ∧ (base u).StandsFor source u := by
    cases u with
    | master => exact absurd rfl hu
    | enc => exact exists_source_of_required (by decide) henc
    | mac => exact exists_source_of_required (by decide) hmac
    | kek => exact exists_source_of_required (by decide) hkek
    | rmac => exact exists_source_of_answerMacSource hrmac
  refine ⟨base, rfl, ⟨by decide, fun u => by cases u <;> decide, fun _ _ hsource => hsource,
    ?unclashing, ?taken, nofun⟩, hbase⟩
  case unclashing =>
    intro u key hkey
    cases hkey
    exact unclashing_scp02Key (base u) u _ _
  case taken =>
    intro u k hu hk
    obtain ⟨source, hsource, hstands⟩ := hbase u hu
    -- what stands for the source is derived as the source would be
    obtain ⟨husage, hmade⟩ := scp02Made_of_scp02Key hstands (Option.some.inj hk)
    exact ⟨husage, source, hsource, hmade⟩

/-! ### SCP03 -/

/-- The purpose byte of a role in SCP03 derivations. -/
def scp03Purpose : KeyUsage → UInt8
  | .enc => scp03EncPurpose
  | .mac => scp03MacPurpose
  | _ => scp03RmacPurpose

/-- An SCP03 session key: an AES key of sixteen bytes, derived from the context. The key encryption
key is carried over. -/
def Scp03Made (context : Bytes) (u : KeyUsage) (source k : Key) : Prop :=
  if u = .kek then k.cipher = source.cipher ∧ k.secret = source.secret
  else k.cipher = .aes ∧ k.secret.length = 16 ∧
    Derivation.counterMode source.secret (scp03Purpose u) context
      (source.length * 8).toUInt16 = .ok k.secret

/-- What is put into an SCP03 session for a role. -/
def scp03Put (s : KeySet) (base : KeyUsage → Key) (context : Bytes) (u : KeyUsage) :
    Except Error Key :=
  if u = .kek then s.required .kek >>= fun kek => kek.derive .kek kek.cipher kek.secret
  else scp03Key (base u) u (scp03Purpose u) context

theorem unclashing_scp03Put (s : KeySet) (base : KeyUsage → Key) (context : Bytes)
    (u : KeyUsage) : Unclashing (s.scp03Put base context u) := by
  unfold scp03Put
  split
  · exact (s.unclashing_required .kek).bind fun kek _ => Key.unclashing_make _ _ _ _
  · exact (unclashing_mapError_cipher _).bind fun secret _ => Key.unclashing_make _ _ _ _

theorem scp03Made_of_scp03Key {base : Key} {context : Bytes} (hbase : base.StandsFor source u)
    (hu : u ≠ .kek) (h : scp03Key base u (scp03Purpose u) context = .ok k) :
    k.usage = u ∧ k.id = source.takenId u ∧ Scp03Made context u source k := by
  unfold scp03Key at h
  obtain ⟨secret, hsecret, h⟩ := bind_eq_ok_iff.1 h
  obtain ⟨husage, hid, hcipher, rfl⟩ := hbase.derive h
  unfold Key.length at hsecret
  rw [hbase.secret_eq] at hsecret
  -- AES keys have one length
  have hlen : k.secret.length = 16 := by
    have hfits := k.fits
    rw [hcipher] at hfits
    exact of_decide_eq_true hfits
  unfold Scp03Made
  rw [if_neg hu]
  exact ⟨husage, hid, hcipher, hlen, mapError_eq_ok_iff.1 hsecret⟩

theorem scp03Made_of_kek {context : Bytes}
    (h : (s.required .kek >>= fun kek => kek.derive .kek kek.cipher kek.secret) = .ok k) :
    k.usage = .kek ∧ ∃ source, s.sessionSource? .kek = some source ∧
      k.id = source.takenId .kek ∧ Scp03Made context .kek source k := by
  obtain ⟨kek, hkek, h⟩ := bind_eq_ok_iff.1 h
  obtain ⟨source, hsource, hstands⟩ := exists_source_of_required (by decide) hkek
  obtain ⟨husage, hid, hcipher, hsecret⟩ := hstands.derive h
  refine ⟨husage, source, hsource, hid, ?_⟩
  unfold Scp03Made
  rw [if_pos rfl]
  exact ⟨hcipher.trans hstands.cipher_eq, hsecret.trans hstands.secret_eq⟩

theorem unclashing_scp03Keys (s : KeySet) (context : Bytes) :
    Unclashing (s.table.scp03Keys context) :=
  (s.unclashing_required .enc).bind fun _ _ => (s.unclashing_required .mac).bind fun _ _ =>
    s.unclashing_answerMacSource.bind fun _ _ => unclashing_ok _

theorem makes_scp03Keys {context : Bytes} {keys : List (Except Error Key)}
    (h : s.table.scp03Keys context = .ok keys) : ∃ base : KeyUsage → Key,
      keys = [.enc, .mac, .rmac, .kek].filterMap (fun u => some (s.scp03Put base context u)) ∧
      s.Makes [.enc, .mac, .rmac, .kek] s.sessionSource? (Scp03Made context)
        (fun u => some (s.scp03Put base context u)) := by
  unfold KeyTable.scp03Keys at h
  obtain ⟨enc, henc, h⟩ := bind_eq_ok_iff.1 h
  obtain ⟨mac, hmac, h⟩ := bind_eq_ok_iff.1 h
  obtain ⟨rmac, hrmac, h⟩ := bind_eq_ok_iff.1 h
  cases h
  let base : KeyUsage → Key
    | .enc => enc
    | .mac => mac
    | _ => rmac
  refine ⟨base, rfl, by decide, fun u => by cases u <;> decide, fun _ _ hsource => hsource,
    ?unclashing, ?taken, nofun⟩
  case unclashing =>
    intro u key hkey
    cases hkey
    exact s.unclashing_scp03Put base context u
  case taken =>
    intro u k hu hk
    have hput : s.scp03Put base context u = .ok k := Option.some.inj hk
    unfold scp03Put at hput
    -- the key encryption key is the only one that is carried over
    by_cases hkek : u = .kek
    · subst hkek
      exact scp03Made_of_kek hput
    · rw [if_neg hkek] at hput
      obtain ⟨source, hsource, hstands⟩ :
          ∃ source, s.sessionSource? u = some source ∧ (base u).StandsFor source u := by
        cases u with
        | master => exact absurd rfl hu
        | kek => exact absurd rfl hkek
        | enc => exact exists_source_of_required (by decide) henc
        | mac => exact exists_source_of_required (by decide) hmac
        | rmac => exact exists_source_of_answerMacSource hrmac
      obtain ⟨husage, hmade⟩ := scp03Made_of_scp03Key hstands hkek hput
      exact ⟨husage, source, hsource, hmade⟩

/-! ### Derivations -/

theorem unclashing_diversify (s : KeySet) (scheme : Option Diversification) (data : Block 10) :
    Unclashing (s.diversify scheme data) := by
  cases scheme with
  | none => exact unclashing_ok s
  | some scheme =>
    rw [diversify_eq_fill]
    -- a set that was diversified is refused with an error of its own
    split
    · nofun
    · exact (s.makes_diversifiedKeys scheme data).unclashing_fill

theorem unclashing_scp02Session (s : KeySet) (sequence : Block 2) :
    Unclashing (s.scp02Session sequence) := by
  rw [scp02Session_eq_fill]
  refine (s.unclashing_scp02Keys sequence).bind fun keys hkeys => ?_
  obtain ⟨base, rfl, hmakes, -⟩ := makes_scp02Keys hkeys
  exact hmakes.unclashing_fill

theorem unclashing_scp03Session (s : KeySet) (context : Bytes) :
    Unclashing (s.scp03Session context) := by
  rw [scp03Session_eq_fill]
  refine (s.unclashing_scp03Keys context).bind fun keys hkeys => ?_
  obtain ⟨base, rfl, hmakes⟩ := makes_scp03Keys hkeys
  exact hmakes.unclashing_fill

theorem derived_of_diversify {scheme : Diversification} {data : Block 10}
    (h : s.diversify (some scheme) data = .ok t) :
    s.Derived t ("+" ++ scheme.text) (some scheme) s.diversificationSource?
      (Diversified scheme data) := by
  rw [diversify_eq_fill] at h
  -- the set was not marked, so its keys were made and put in
  obtain ⟨-, h⟩ := guard_eq_ok_iff.1 h
  rw [String.append_assoc] at h
  exact (s.makes_diversifiedKeys scheme data).derived h

theorem derived_of_scp02Session {sequence : Block 2} (h : s.scp02Session sequence = .ok t) :
    s.Derived t "/scp02" s.diversification s.sessionSource? (Scp02Made sequence) ∧
      ∀ u, (t.find? u).isSome ↔ u ≠ .master := by
  rw [scp02Session_eq_fill] at h
  obtain ⟨keys, hkeys, h⟩ := bind_eq_ok_iff.1 h
  obtain ⟨base, rfl, hmakes, -⟩ := makes_scp02Keys hkeys
  exact ⟨hmakes.derived h, hmakes.isSome_find?_iff h fun _ => rfl⟩

/-- Each key of an SCP02 session is made of its source. -/
theorem exists_made_of_scp02Session {sequence : Block 2} (h : s.scp02Session sequence = .ok t)
    (hu : u ≠ .master) : ∃ source k, s.sessionSource? u = some source ∧ t.find? u = some k ∧
      Scp02Made sequence u source k := by
  obtain ⟨hderived, hall⟩ := derived_of_scp02Session h
  obtain ⟨source, k, hsource, hk, -, hmade⟩ := hderived.exists_of_isSome hu ((hall u).2 hu)
  exact ⟨source, k, hsource, hk, hmade⟩

theorem derived_of_scp03Session {context : Bytes} (h : s.scp03Session context = .ok t) :
    s.Derived t "/scp03" s.diversification s.sessionSource? (Scp03Made context) ∧
      ∀ u, (t.find? u).isSome ↔ u ≠ .master := by
  rw [scp03Session_eq_fill] at h
  obtain ⟨keys, hkeys, h⟩ := bind_eq_ok_iff.1 h
  obtain ⟨base, rfl, hmakes⟩ := makes_scp03Keys hkeys
  exact ⟨hmakes.derived h, hmakes.isSome_find?_iff h fun _ => rfl⟩

/-- Each key of an SCP03 session is made of its source, or carried over from it. -/
theorem exists_made_of_scp03Session {context : Bytes} (h : s.scp03Session context = .ok t)
    (hu : u ≠ .master) : ∃ source k, s.sessionSource? u = some source ∧ t.find? u = some k ∧
      Scp03Made context u source k := by
  obtain ⟨hderived, hall⟩ := derived_of_scp03Session h
  obtain ⟨source, k, hsource, hk, -, hmade⟩ := hderived.exists_of_isSome hu ((hall u).2 hu)
  exact ⟨source, k, hsource, hk, hmade⟩

/-! ### When SCP02 keys can be derived -/

theorem exists_scp02Key_iff {base : Key} {tag sequence : Block 2} :
    (∃ k, scp02Key base u tag sequence = .ok k) ↔
      base.cipher ≠ .aes ∧ TripleDes.Usable base.secret := by
  unfold scp02Key
  constructor
  · rintro ⟨k, h⟩
    obtain ⟨hcipher, h⟩ := guard_eq_ok_iff.1 h
    obtain ⟨secret, hsecret, -⟩ := bind_eq_ok_iff.1 h
    exact ⟨hcipher, Derivation.exists_fromSequence_iff.1 ⟨secret, mapError_eq_ok_iff.1 hsecret⟩⟩
  · -- a secret that can be derived is of the length of a triple DES key
    rintro ⟨hcipher, husable⟩
    obtain ⟨secret, hsecret⟩ := Derivation.exists_fromSequence_iff.2 husable
    obtain ⟨k, hk⟩ : ∃ k, base.derive u .des3 secret.toList = .ok k :=
      Key.exists_make (by rw [secret.length_toList]; rfl)
    exact ⟨k, guard_eq_ok_iff.2
      ⟨hcipher, bind_eq_ok_iff.2 ⟨secret, mapError_eq_ok_iff.2 hsecret, hk⟩⟩⟩

/-- All static keys are found, if there is a source for every role. -/
theorem exists_scp02Keys (h : ∀ u, u ≠ .master → ∃ source, s.sessionSource? u = some source)
    (sequence : Block 2) : ∃ keys, s.table.scp02Keys sequence = .ok keys := by
  have hrequired (u : KeyUsage) (hu : u ≠ .master) (hrmac : u ≠ .rmac) :
      ∃ base, s.required u = .ok base := by
    -- every role but the last one is looked up as it is
    obtain ⟨source, hsource⟩ := h u hu
    unfold sessionSource? at hsource
    rw [if_neg hrmac] at hsource
    exact ⟨source, required_eq_ok_iff.2 hsource⟩
  obtain ⟨enc, henc⟩ := hrequired .enc (by decide) (by decide)
  obtain ⟨mac, hmac⟩ := hrequired .mac (by decide) (by decide)
  obtain ⟨kek, hkek⟩ := hrequired .kek (by decide) (by decide)
  obtain ⟨rmac, hrmac⟩ : ∃ rmac, s.answerMacSource = .ok rmac := by
    unfold answerMacSource
    cases s.find? .rmac with
    | some own => exact ⟨own, rfl⟩
    | none =>
      -- a found key has a length that its cipher accepts, so the copy is made
      obtain ⟨k, hk⟩ := Key.exists_make mac.fits
      exact ⟨k, bind_eq_ok_iff.2 ⟨mac, hmac, hk⟩⟩
  exact ⟨_, bind_eq_ok_iff.2 ⟨enc, henc, bind_eq_ok_iff.2 ⟨mac, hmac, bind_eq_ok_iff.2
    ⟨kek, hkek, bind_eq_ok_iff.2 ⟨rmac, hrmac, rfl⟩⟩⟩⟩⟩

/-- **When SCP02 keys can be derived**: every role has a source, and each of them is a key that
triple DES can use and no AES key. The counter does not matter. -/
theorem exists_scp02Session_iff {sequence : Block 2} : (∃ t, s.scp02Session sequence = .ok t) ↔
    ∀ u, u ≠ .master → ∃ source, s.sessionSource? u = some source ∧ source.cipher ≠ .aes ∧
      TripleDes.Usable source.secret := by
  rw [scp02Session_eq_fill]
  constructor
  · rintro ⟨t, h⟩ u hu
    obtain ⟨keys, hkeys, h⟩ := bind_eq_ok_iff.1 h
    obtain ⟨base, rfl, hmakes, hbase⟩ := makes_scp02Keys hkeys
    obtain ⟨source, hsource, hstands⟩ := hbase u hu
    -- the key of the role was made, so its base was one that triple DES can use
    have hmade := exists_scp02Key_iff.1 (hmakes.exists_fill_iff.1 ⟨t, h⟩ u hu _ rfl)
    rw [hstands.cipher_eq, hstands.secret_eq] at hmade
    exact ⟨source, hsource, hmade⟩
  · intro h
    obtain ⟨keys, hkeys⟩ := exists_scp02Keys
      (fun u hu => (h u hu).imp fun source hsource => hsource.1) sequence
    obtain ⟨base, rfl, hmakes, hbase⟩ := makes_scp02Keys hkeys
    -- the keys fit into one set, so that only making them can fail
    rw [hkeys]
    refine hmakes.exists_fill_iff.2 fun u hu key hkey => ?_
    cases hkey
    obtain ⟨source, hsource, hstands⟩ := hbase u hu
    obtain ⟨_, hfound, hmade⟩ := h u hu
    -- the source is the one that the hypothesis speaks of
    cases hsource.symm.trans hfound
    rw [← hstands.cipher_eq, ← hstands.secret_eq] at hmade
    exact exists_scp02Key_iff.2 hmade

/-! ### One scheme only -/

theorem diversify_of_isSome (h : s.diversification.isSome) (scheme : Diversification)
    (data : Block 10) : s.diversify (some scheme) data =
      .error (.configuration (.alreadyDiversified s.name s.diversification)) :=
  if_pos h

end KeySet

/-- The call goes on from the set that there is. -/
def KeyCall.GoesOn : KeyCall → Prop
  | .new _ _ | .ofMaster _ _ _ _ | .testKeys => False
  | .put _ | .diversify _ _ | .scp02Session _ | .scp03Session _ => True

namespace KeySet

/-- **No call takes the mark off a set, or replaces it.** -/
theorem diversification_of_call {call : KeyCall} (hcall : call.GoesOn)
    (hmarked : s.diversification.isSome) (h : s.call call = .ok t) :
    t.diversification = s.diversification := by
  cases call with
  | new name version => cases hcall
  | ofMaster name version cipher secret => cases hcall
  | testKeys => cases hcall
  | put key =>
    obtain ⟨hkey, rfl⟩ := insert_eq_ok_iff.1 h
    rfl
  | diversify scheme data =>
    cases scheme with
    | none =>
      cases h
      rfl
    | some scheme =>
      -- a marked set refuses a scheme, so there is no new set
      change s.diversify (some scheme) data = .ok t at h
      rw [diversify_of_isSome hmarked] at h
      cases h
  | scp02Session sequence => exact (derived_of_scp02Session h).1.diversification_eq
  | scp03Session context => exact (derived_of_scp03Session h).1.diversification_eq

/-- **A set that is made of a marked one has the same mark.** -/
theorem diversification_after {calls : List KeyCall} (hcalls : ∀ call ∈ calls, call.GoesOn)
    (hmarked : s.diversification.isSome) :
    (s.after calls).diversification = s.diversification := by
  -- on the calls, for the set that each of them finds
  induction calls generalizing s with
  | nil => rfl
  | cons call calls ih =>
    obtain ⟨hcall, hcalls⟩ := List.forall_mem_cons.1 hcalls
    -- a call that fails leaves the set as it is
    have hstep : ((s.call call).toOption.getD s).diversification = s.diversification := by
      cases h : s.call call with
      | error e => rfl
      | ok t => exact diversification_of_call hcall hmarked h
    exact (ih hcalls (hstep ▸ hmarked)).trans hstep

/-- **What holds of the derivations from a set.** -/
structure DerivesWell (s : KeySet) : Prop where
  /-- No derivation finds a key already there. -/
  unclashing : (∀ scheme data, Unclashing (s.diversify scheme data)) ∧
    (∀ sequence, Unclashing (s.scp02Session sequence)) ∧
    ∀ context, Unclashing (s.scp03Session context)
  /-- Diversification makes a key for each role that has one, or the master key in its place, and
  for the answer MAC only if it has a key of its own. -/
  diversified : ∀ scheme data t, s.diversify (some scheme) data = .ok t →
    s.Derived t ("+" ++ scheme.text) (some scheme)
      (fun u => if u = .rmac then s.find? u else s.get? u) (Diversified scheme data)
  /-- Sessions have a key for every role but the master's. -/
  scp02 : ∀ sequence t, s.scp02Session sequence = .ok t →
    s.Derived t "/scp02" s.diversification s.sessionSource? (Scp02Made sequence) ∧
      ∀ u, (t.find? u).isSome ↔ u ≠ .master
  scp03 : ∀ context t, s.scp03Session context = .ok t →
    s.Derived t "/scp03" s.diversification s.sessionSource? (Scp03Made context) ∧
      ∀ u, (t.find? u).isSome ↔ u ≠ .master
  /-- A scheme is applied neither to a set that is marked with one, nor to a set that was made of
  such a set. -/
  once : s.diversification.isSome → ∀ calls : List KeyCall, (∀ call ∈ calls, call.GoesOn) →
    ∀ scheme data, (s.after calls).diversify (some scheme) data =
      .error (.configuration (.alreadyDiversified (s.after calls).name s.diversification))

/-- **Derivations from any key set.** They never clash, and make exactly the keys that they should,
each of its source. -/
theorem derivesWell (s : KeySet) : s.DerivesWell where
  unclashing := ⟨s.unclashing_diversify, s.unclashing_scp02Session, s.unclashing_scp03Session⟩
  diversified _ _ _ h := derived_of_diversify h
  scp02 _ _ h := derived_of_scp02Session h
  scp03 _ _ h := derived_of_scp03Session h
  once hmarked calls hcalls scheme data := by
    have hmark := diversification_after hcalls hmarked
    rw [diversify_of_isSome (hmark ▸ hmarked), hmark]

/-- The keys of a card: a master key with an id, and a key of its own for the answer MAC. -/
def issuerKeys : KeySet :=
  ((empty "card" 0x20).add ⟨1, .master, .des3, testSecret, des3_accepts_testSecret⟩
      ⟨rfl, .inr nofun⟩).add
    ⟨2, .rmac, .des3, testSecret, des3_accepts_testSecret⟩ ⟨rfl, .inr (by decide)⟩

/-- The diversification data of a card. -/
def issuerData : Block 10 :=
  ⟨[0x00, 0x00, 0x02, 0x65, 0x01, 0x83, 0x03, 0x95, 0x36, 0x62], rfl⟩

/-- A session is made from diversified keys, and these cannot be diversified again. -/
theorem derivesWell_issuerKeys : ∃ card session : KeySet,
    issuerKeys.diversify (some .emv) issuerData = .ok card ∧
      card.scp02Session ⟨[0x00, 0x0D], rfl⟩ = .ok session ∧
      session.keys.map (fun k => (k.usage, k.id)) =
        [(.enc, 0), (.mac, 0), (.kek, 0), (.rmac, 2)] ∧
      session.diversify (some .visa2) issuerData =
        .error (.configuration (.alreadyDiversified session.name (some .emv))) := by
  -- both derivations are run at once, and what they left is then taken apart
  have hmade : (issuerKeys.diversify (some .emv) issuerData >>=
      (·.scp02Session ⟨[0x00, 0x0D], rfl⟩)).toOption.map
        (fun session => session.keys.map fun k => (k.usage, k.id)) =
      some [(.enc, 0), (.mac, 0), (.kek, 0), (.rmac, 2)] := by decide +kernel
  obtain ⟨session, hmade, hids⟩ := Option.map_eq_some_iff.1 hmade
  obtain ⟨card, hcard, hsession⟩ := bind_eq_ok_iff.1 (toOption_eq_some_iff.1 hmade)
  have hmark := (issuerKeys.derivesWell.diversified _ _ card hcard).diversification_eq
  have hafter : card.after [.scp02Session ⟨[0x00, 0x0D], rfl⟩] = session := by
    change (card.scp02Session _).toOption.getD card = session
    rw [hsession]
    rfl
  have honce := card.derivesWell.once (by rw [hmark]; rfl)
    [.scp02Session ⟨[0x00, 0x0D], rfl⟩] (by simp [KeyCall.GoesOn]) .visa2 issuerData
  rw [hafter, hmark] at honce
  exact ⟨card, session, hcard, hsession, hids, honce⟩

end KeySet

end SmartCard
