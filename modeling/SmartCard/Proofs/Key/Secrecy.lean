import SmartCard.Proofs.Cipher.SecretLengths
import SmartCard.Proofs.Key.TableRuns

/-!
# What key sets show of their secrets

A key without the bytes of its secret is its outline (`Key.Outline`). Two key sets are alike if they
differ in these bytes at most (`KeySet.Alike`), and whatever is done to both of them then comes to
the same: it succeeds on both, and makes sets that are alike again, or fails on both with the same
error.

This is shown for the single key first, from what the length of a secret decides, and then for the
loops that put keys into a set (`KeySet.Alike.agrees_insert`, `KeySet.Alike.agrees_diversify`,
`KeySet.Alike.agrees_scp02Session`, `KeySet.Alike.agrees_scp03Session`). A run of calls keeps sets
alike (`KeySet.Alike.after`), so that it holds of derived sets as well.

`KeySet.hides_of_alike` puts it together, with the texts that show keys and sets, and with the
blocks and commands that carry keys to a card (`KeySet.Hides`). -/

namespace SmartCard

variable {s t : KeySet} {k l kek kek' : Key} {u : KeyUsage}

namespace Key

/-! ### Keys without their secrets -/

/-- What a key is without the bytes of its secret. -/
structure Outline where
  id : UInt8
  usage : KeyUsage
  cipher : KeyCipher
  length : Nat
deriving DecidableEq

def outline (k : Key) : Outline := ⟨k.id, k.usage, k.cipher, k.secret.length⟩

/-- How a key stands in the list of ids. -/
def Outline.entry (o : Outline) : String × String := (toString o.id.toNat, o.usage.inspect)

/-- Two keys differ in the bytes of their secrets at most. -/
def Alike (k l : Key) : Prop := k.outline = l.outline

namespace Alike

theorem id_eq (h : k.Alike l) : k.id = l.id := congrArg Outline.id h

theorem usage_eq (h : k.Alike l) : k.usage = l.usage := congrArg Outline.usage h

theorem cipher_eq (h : k.Alike l) : k.cipher = l.cipher := congrArg Outline.cipher h

theorem length_eq (h : k.Alike l) : k.secret.length = l.secret.length :=
  congrArg Outline.length h

/-- **The text of a key shows its outline and nothing else.** -/
theorem inspect_eq (h : k.Alike l) : k.inspect = l.inspect := by
  unfold inspect length
  rw [h.id_eq, h.usage_eq, h.cipher_eq, h.length_eq]

end Alike

/-- Where a look-up shows the same outline, it finds keys that are alike, or none. -/
theorem none_or_alike {x y : Option Key} (h : x.map outline = y.map outline) :
    x = none ∧ y = none ∨ ∃ k l, x = some k ∧ y = some l ∧ k.Alike l := by
  cases x with
  | none => exact .inl ⟨rfl, Option.map_eq_none_iff.1 h.symm⟩
  | some k =>
    obtain ⟨l, hl, hsame⟩ := Option.map_eq_some_iff.1 h.symm
    exact .inr ⟨k, l, rfl, hl, hsame.symm⟩

/-- Whether there is a key depends on the length of the secret. -/
theorem agrees_make {id : UInt8} {usage : KeyUsage} {cipher : KeyCipher} {secret secret' : Bytes}
    (h : secret.length = secret'.length) :
    Agrees Alike (make id usage cipher secret) (make id usage cipher secret') := by
  unfold make
  -- the test of the secret sees its length alone, so it comes out the same way twice
  by_cases hfits : cipher.accepts secret.length = true
  · have hfits' : cipher.accepts secret'.length = true := h ▸ hfits
    rw [dif_pos hfits, dif_pos hfits']
    refine .ok ?_
    unfold Alike outline
    rw [h]
  · have hfits' : ¬cipher.accepts secret'.length = true := h ▸ hfits
    rw [dif_neg hfits, dif_neg hfits', h]
    exact .error _

theorem Alike.agrees_derive (h : k.Alike l) {cipher : KeyCipher} {secret secret' : Bytes}
    (hsecret : secret.length = secret'.length) :
    Agrees Alike (k.derive u cipher secret) (l.derive u cipher secret') := by
  unfold derive
  rw [h.usage_eq, h.id_eq]
  exact agrees_make hsecret

/-! ### Keys on their way to a card -/

theorem Alike.agrees_tripleDesEnvelope (h : k.Alike l) (hkek : kek.Alike kek') :
    Agrees (fun a b : Bytes => a.length = b.length) (k.tripleDesEnvelope kek)
      (l.tripleDesEnvelope kek') := by
  -- enciphering keeps the length of the secret, and the check value has a length of its own
  refine (TripleDes.agrees_ecbEncrypt hkek.length_eq h.length_eq).bind fun a b hab => ?_
  refine (CheckValue.agrees_tripleDes h.length_eq).bind fun check check' _ => .ok ?_
  simp only [List.length_append, Block.length_toList, hab]

theorem Alike.agrees_aesEnvelope (h : k.Alike l) (hkek : kek.Alike kek') :
    Agrees (fun a b : Bytes => a.length = b.length) (k.aesEnvelope kek) (l.aesEnvelope kek') := by
  refine (Aes.agrees_cbcEncrypt hkek.length_eq h.length_eq).bind fun a b hab => ?_
  refine (CheckValue.agrees_aes h.length_eq).bind fun check check' _ => .ok ?_
  simp only [List.length_append, List.length_cons, Block.length_toList, hab]

/-- **The block of a key tells no more than its outline**, but for what is enciphered in it. -/
theorem Alike.agrees_envelope (h : k.Alike l) (hkek : kek.Alike kek') :
    Agrees (fun a b : Bytes => a.length = b.length) (k.envelope kek) (l.envelope kek') := by
  have hdes := (h.agrees_tripleDesEnvelope hkek).mapError Error.cipher
  have haes := (h.agrees_aesEnvelope hkek).mapError Error.cipher
  unfold envelope
  rw [h.cipher_eq, h.id_eq, hkek.cipher_eq]
  -- the ciphers of both keys select the block, or the error
  cases l.cipher with
  | aes =>
    cases kek'.cipher with
    | aes | generic => exact haes
    | des | des3 => exact .error _
  | generic =>
    cases kek'.cipher with
    | aes => exact haes
    | generic | des | des3 => exact hdes
  | des | des3 =>
    cases kek'.cipher with
    | aes => exact .error _
    | generic | des | des3 => exact hdes

end Key

/-- Two commands differ in the bytes of their data at most. -/
structure Command.Alike (c d : Command) : Prop where
  header_eq : { c with data := none } = { d with data := none }
  length_eq : c.dataBytes.length = d.dataBytes.length

/-- **A command that carries keys tells no more than their outlines.** -/
theorem Command.agrees_putKeys {replaced version : UInt8} {keys keys' : List Key}
    (hkeys : List.Forall₂ Key.Alike keys keys') (hkek : kek.Alike kek') :
    Agrees Command.Alike (putKeys replaced version keys kek)
      (putKeys replaced version keys' kek') := by
  -- the header counts the keys and names the first one
  have hcount := hkeys.length_eq
  have hblocks := Agrees.mapM (hkeys.imp fun _ _ h => h.agrees_envelope hkek)
  unfold putKeys
  cases hkeys with
  | nil => exact .error _
  | @cons first first' rest rest' hfirst hrest =>
    -- the blocks fail together, so the empty list is the only error of the command itself
    refine hblocks.bind fun blocks blocks' hlengths => .ok ⟨?_, ?_⟩
    · rw [hfirst.id_eq, hcount]
      rfl
    · have htotal : blocks.flatten.length = blocks'.flatten.length := by
        rw [List.length_flatten, List.length_flatten, map_eq_of_forall₂ hlengths]
      rw [dataBytes_putKey, dataBytes_putKey, List.length_cons, List.length_cons, htotal]

namespace KeySet

/-! ### Sets without their secrets -/

/-- Two key sets differ in the bytes of their secrets at most. -/
structure Alike (s t : KeySet) : Prop where
  name_eq : s.name = t.name
  version_eq : s.version = t.version
  diversification_eq : s.diversification = t.diversification
  outline_eq : ∀ u, (s.find? u).map Key.outline = (t.find? u).map Key.outline

namespace Alike

theorem refl (s : KeySet) : s.Alike s := ⟨rfl, rfl, rfl, fun _ => rfl⟩

theorem symm (h : s.Alike t) : t.Alike s :=
  ⟨h.name_eq.symm, h.version_eq.symm, h.diversification_eq.symm, fun u => (h.outline_eq u).symm⟩

/-- A key of one set has a counterpart in the other one. -/
theorem exists_find? (h : s.Alike t) (hk : s.find? u = some k) :
    ∃ l, t.find? u = some l ∧ k.Alike l := by
  rcases Key.none_or_alike (h.outline_eq u) with ⟨hnone, -⟩ | ⟨k', l, hk', hl, hsame⟩
  · rw [hnone] at hk
    cases hk
  · rw [hk'] at hk
    cases hk
    exact ⟨l, hl, hsame⟩

theorem get?_eq (h : s.Alike t) (u : KeyUsage) :
    (s.get? u).map Key.outline = (t.get? u).map Key.outline := by
  -- a master key stands in for a missing role in both sets, or in neither
  unfold get?
  rw [Option.map_or, Option.map_or, h.outline_eq, h.outline_eq]

theorem keys_eq (h : s.Alike t) : s.keys.map Key.outline = t.keys.map Key.outline := by
  unfold keys
  rw [List.map_filterMap, List.map_filterMap]
  exact congrArg (fun f => KeyUsage.all.filterMap f) (funext h.outline_eq)

theorem forall₂_keys (h : s.Alike t) : List.Forall₂ Key.Alike s.keys t.keys := by
  have houtlines := h.keys_eq
  rw [← List.forall₂_eq_eq_eq, List.forall₂_map_left_iff, List.forall₂_map_right_iff] at houtlines
  exact houtlines

/-- The list of ids shows the outlines of the keys. -/
theorem listed_eq (h : s.Alike t) :
    ((s.keys.filter (·.id != 0)).mergeSort fun k l => k.id ≤ l.id).map
        (fun k => (toString k.id.toNat, k.usage.inspect)) =
      ((t.keys.filter (·.id != 0)).mergeSort fun k l => k.id ≤ l.id).map
        fun k => (toString k.id.toNat, k.usage.inspect) := by
  -- what a key is chosen and sorted by is in its outline
  have hlisted : ∀ keys : List Key,
      ((keys.filter (·.id != 0)).mergeSort fun k l => k.id ≤ l.id).map
          (Key.Outline.entry ∘ Key.outline) =
        (((keys.map Key.outline).filter (·.id != 0)).mergeSort fun a b => a.id ≤ b.id).map
          Key.Outline.entry := by
    intro keys
    have hsorted := List.map_mergeSort (r := fun k l : Key => k.id ≤ l.id)
      (s := fun a b : Key.Outline => a.id ≤ b.id) (f := Key.outline)
      (l := keys.filter (·.id != 0)) fun _ _ _ _ => rfl
    rw [← List.map_map, hsorted, List.filter_map]
    rfl
  exact (hlisted s.keys).trans (h.keys_eq ▸ (hlisted t.keys).symm)

/-- **The text of a set shows the outlines of its keys and nothing else of them.** -/
theorem inspect_eq (h : s.Alike t) : s.inspect = t.inspect := by
  have hkeys : s.keys.map (fun k => (k.usage.inspect, k.inspect)) =
      t.keys.map fun k => (k.usage.inspect, k.inspect) :=
    map_eq_of_forall₂ (h.forall₂_keys.imp fun k l hkl => by rw [hkl.usage_eq, hkl.inspect_eq])
  unfold inspect
  dsimp only
  rw [h.name_eq, h.version_eq, h.diversification_eq, hkeys, h.listed_eq]

/-! ### Adding keys -/

theorem admits (h : s.Alike t) (hk : k.Alike l) (hadmits : s.Admits k) : t.Admits l := by
  -- a clash is one of roles and ids, and the clashing key has a counterpart with the same ones
  rw [admits_iff] at hadmits ⊢
  intro u m hm
  obtain ⟨m', hm', hsame⟩ := h.symm.exists_find? hm
  obtain ⟨husage, hid⟩ := hadmits u m' hm'
  rw [hk.usage_eq, ← hsame.usage_eq] at husage
  rw [hk.id_eq, ← hsame.id_eq] at hid
  exact ⟨husage, hid⟩

/-- **A key is added to both sets or refused by both.** -/
theorem agrees_insert (h : s.Alike t) (hk : k.Alike l) :
    Agrees Alike (s.insert k) (t.insert l) := by
  unfold insert
  by_cases hadmits : s.Admits k
  · rw [dif_pos hadmits, dif_pos (h.admits hk hadmits)]
    -- the new key stands under its own role, and every other role is as it was
    refine .ok ⟨h.name_eq, h.version_eq, h.diversification_eq, fun u => ?_⟩
    rw [find?_add, find?_add, hk.usage_eq]
    split
    · exact congrArg some hk
    · exact h.outline_eq u
  · have hadmits' : ¬t.Admits l := fun hl => hadmits (h.symm.admits hk.symm hl)
    rw [dif_neg hadmits, dif_neg hadmits', hk.usage_eq, hk.id_eq]
    exact .error _

/-- So is a key that was made before, unless making it has failed. -/
theorem agrees_bind_insert (h : s.Alike t) {made made' : Except Error Key}
    (hmade : Agrees Key.Alike made made') :
    Agrees Alike (made >>= s.insert) (made' >>= t.insert) :=
  hmade.bind fun _ _ hkey => h.agrees_insert hkey

end Alike

/-! ### Derived sets -/

theorem agrees_diversifyKey (scheme : Diversification) (data : Block 10) (h : k.Alike l) :
    Agrees Key.Alike (diversifyKey scheme data k u) (diversifyKey scheme data l u) := by
  unfold diversifyKey Key.length
  -- which cipher is asked for and what length is left are read off the outlines
  rw [h.cipher_eq, h.length_eq]
  -- a key is refused for its cipher, and what is made of the others is cut to the same length
  by_cases haes : l.cipher = .aes
  · rw [if_pos haes, if_pos haes]
    exact .error _
  · rw [if_neg haes, if_neg haes]
    refine ((TripleDes.agrees_ecbEncrypt h.length_eq rfl).mapError _).bind fun a b hab => ?_
    refine h.agrees_derive ?_
    rw [List.length_take, List.length_take, hab]

theorem agrees_scp02Key {tag sequence : Block 2} (h : k.Alike l) :
    Agrees Key.Alike (scp02Key k u tag sequence) (scp02Key l u tag sequence) := by
  unfold scp02Key
  rw [h.cipher_eq]
  by_cases haes : l.cipher = .aes
  · rw [if_pos haes, if_pos haes]
    exact .error _
  · rw [if_neg haes, if_neg haes]
    refine ((Derivation.agrees_fromSequence h.length_eq).mapError _).bind fun a b _ => ?_
    refine h.agrees_derive ?_
    rw [Block.length_toList, Block.length_toList]

theorem agrees_scp03Key {purpose : UInt8} {context : Bytes} (h : k.Alike l) :
    Agrees Key.Alike (scp03Key k u purpose context) (scp03Key l u purpose context) := by
  unfold scp03Key Key.length
  rw [h.length_eq]
  exact ((Derivation.agrees_counterMode h.length_eq).mapError _).bind fun a b hab =>
    h.agrees_derive hab

namespace Alike

theorem agrees_required (h : s.Alike t) (u : KeyUsage) :
    Agrees Key.Alike (s.required u) (t.required u) := by
  -- the error names the set, and the sets have one name
  unfold required
  rcases Key.none_or_alike (h.get?_eq u) with ⟨hs, ht⟩ | ⟨k, l, hk, hl, hsame⟩
  · rw [hs, ht, h.name_eq]
    exact .error _
  · rw [hk, hl]
    exact .ok hsame

theorem agrees_answerMacSource (h : s.Alike t) :
    Agrees Key.Alike s.answerMacSource t.answerMacSource := by
  unfold answerMacSource
  -- without an RMAC key both sets fall back on the MAC key, which is taken under the other role
  rcases Key.none_or_alike (h.outline_eq .rmac) with ⟨hs, ht⟩ | ⟨k, l, hk, hl, hsame⟩
  · rw [hs, ht]
    refine (h.agrees_required .mac).bind fun k l hsame => ?_
    rw [hsame.cipher_eq]
    exact Key.agrees_make hsame.length_eq
  · rw [hk, hl]
    exact .ok hsame

/-- **Diversification comes to the same for both sets.** -/
theorem agrees_diversify (h : s.Alike t) (scheme : Option Diversification) (data : Block 10) :
    Agrees Alike (s.diversify scheme data) (t.diversify scheme data) := by
  cases scheme with
  | none => exact .ok h
  | some scheme =>
    unfold diversify
    dsimp only
    -- whether a set was diversified before is told in both, and by the same mark
    rw [h.diversification_eq, h.name_eq, h.version_eq]
    split
    · exact .error _
    · refine .foldlM (fun set set' u u' hset (hu : u = u') => ?_)
        (List.forall₂_same.2 fun _ _ => rfl) (Alike.refl _)
      subst hu
      -- a role has a key in both sets or in none
      have hsource : (s.diversificationSource? u).map Key.outline =
          (t.diversificationSource? u).map Key.outline := by
        unfold diversificationSource?
        split
        · exact h.outline_eq u
        · exact h.get?_eq u
      rcases Key.none_or_alike hsource with ⟨hs, ht⟩ | ⟨k, l, hk, hl, hsame⟩
      · rw [hs, ht]
        exact .ok hset
      · rw [hk, hl]
        exact hset.agrees_bind_insert (agrees_diversifyKey scheme data hsame)

/-- Two steps that make a session key for the same role, from sources that are alike. -/
inductive SameStep {α : Type} : KeyUsage × α × Key → KeyUsage × α × Key → Prop
  | intro (u : KeyUsage) (tag : α) {k l : Key} (h : k.Alike l) : SameStep (u, tag, k) (u, tag, l)

/-- So do the session keys of SCP02. -/
theorem agrees_scp02Session (h : s.Alike t) (sequence : Block 2) :
    Agrees Alike (s.scp02Session sequence) (t.scp02Session sequence) := by
  unfold scp02Session
  rw [h.diversification_eq, h.name_eq, h.version_eq]
  -- the static keys are looked up in both sets before the first session key is made
  refine (h.agrees_required .enc).bind fun enc enc' henc =>
    (h.agrees_required .mac).bind fun mac mac' hmac =>
    (h.agrees_required .kek).bind fun kek kek' hkek =>
    h.agrees_answerMacSource.bind fun rmac rmac' hrmac => ?_
  refine .foldlM (fun set set' x y hset (hxy : SameStep x y) => ?_)
    (.cons (.intro _ _ henc) (.cons (.intro _ _ hmac) (.cons (.intro _ _ hkek)
      (.cons (.intro _ _ hrmac) .nil)))) (Alike.refl _)
  cases hxy with
  | intro u tag hsource => exact hset.agrees_bind_insert (agrees_scp02Key hsource)

/-- So do the session keys of SCP03, and the key that is carried over. -/
theorem agrees_scp03Session (h : s.Alike t) (context : Bytes) :
    Agrees Alike (s.scp03Session context) (t.scp03Session context) := by
  unfold scp03Session
  rw [h.diversification_eq, h.name_eq, h.version_eq]
  refine (h.agrees_required .enc).bind fun enc enc' henc =>
    (h.agrees_required .mac).bind fun mac mac' hmac =>
    h.agrees_answerMacSource.bind fun rmac rmac' hrmac => ?_
  -- the sessions that the carried key is put into are alike already
  refine Agrees.bind (R := Alike) ?keys fun session session' hsession => ?carried
  case keys =>
    refine .foldlM (fun set set' x y hset (hxy : SameStep x y) => ?_)
      (.cons (.intro _ _ henc) (.cons (.intro _ _ hmac) (.cons (.intro _ _ hrmac) .nil)))
      (Alike.refl _)
    cases hxy with
    | intro u purpose hsource => exact hset.agrees_bind_insert (agrees_scp03Key hsource)
  case carried =>
    refine (h.agrees_required .kek).bind fun kek kek' hkek => ?_
    rw [hkek.cipher_eq]
    exact hsession.agrees_bind_insert (hkek.agrees_derive hkek.length_eq)

end Alike

end KeySet

/-! ### Runs of calls -/

/-- Two calls differ in the bytes of the secrets that are given to them at most. -/
inductive KeyCall.Alike : KeyCall → KeyCall → Prop
  | same (call : KeyCall) : Alike call call
  | ofMaster (name : String) (version : UInt8) (cipher : KeyCipher) {secret secret' : Bytes}
    (h : secret.length = secret'.length) :
    Alike (.ofMaster name version cipher secret) (.ofMaster name version cipher secret')
  | put {k l : Key} (h : k.Alike l) : Alike (.put k) (.put l)

namespace KeySet

variable {call call' : KeyCall} {calls calls' : List KeyCall}

theorem Alike.agrees_call (h : s.Alike t) (hcall : call.Alike call') :
    Agrees Alike (s.call call) (t.call call') := by
  cases hcall with
  | same =>
    cases call with
    | new name version => exact .ok (.refl _)
    | ofMaster name version cipher secret => exact .of_eq .refl _
    | testKeys => exact .ok (.refl _)
    | put key => exact h.agrees_insert rfl
    | diversify scheme data => exact h.agrees_diversify scheme data
    | scp02Session sequence => exact h.agrees_scp02Session sequence
    | scp03Session context => exact h.agrees_scp03Session context
  | ofMaster name version cipher hlen =>
    -- secrets of one length are both taken for a key, or neither is
    exact (Alike.refl (empty name version)).agrees_bind_insert (Key.agrees_make hlen)
  | put hkey => exact h.agrees_insert hkey

/-- **Sets stay alike under every run of calls.** -/
theorem Alike.after (h : s.Alike t) (hcalls : List.Forall₂ KeyCall.Alike calls calls') :
    (s.after calls).Alike (t.after calls') := by
  -- on the calls, for any two sets that are alike before them
  induction hcalls generalizing s t with
  | nil => exact h
  | @cons call call' calls calls' hcall _ ih =>
    have hnext : ((s.call call).toOption.getD s).Alike ((t.call call').toOption.getD t) := by
      have hmade := h.agrees_call hcall
      generalize s.call call = made at hmade
      generalize t.call call' = made' at hmade
      cases hmade with
      | ok hmade => exact hmade
      -- a call that fails leaves both sets as they are
      | error e => exact h
    exact ih hnext

/-! ### Secrecy -/

/-- Keys of two sets for the same role. -/
structure Twins (s t : KeySet) (k l : Key) : Prop where
  left : k ∈ s.keys
  right : l ∈ t.keys
  usage_eq : k.usage = l.usage

theorem Alike.of_twins (h : s.Alike t) (hkeys : Twins s t k l) : k.Alike l := by
  -- there is one key for each role, so the counterpart of `k` is `l`
  obtain ⟨l', hl', hsame⟩ := h.exists_find? (mem_keys.1 hkeys.left)
  rw [hkeys.usage_eq, mem_keys.1 hkeys.right] at hl'
  rw [Option.some.inj hl']
  exact hsame

/-- **Nothing tells two key sets apart** but the bytes that were enciphered or derived with their
secrets. -/
structure Hides (s t : KeySet) : Prop where
  text_eq : s.inspect = t.inspect
  key_text_eq : ∀ k l, Twins s t k l → k.inspect = l.inspect
  insert : ∀ k l, k.Alike l → Agrees Alike (s.insert k) (t.insert l)
  diversify : ∀ scheme data, Agrees Alike (s.diversify scheme data) (t.diversify scheme data)
  scp02Session : ∀ sequence, Agrees Alike (s.scp02Session sequence) (t.scp02Session sequence)
  scp03Session : ∀ context, Agrees Alike (s.scp03Session context) (t.scp03Session context)
  /-- The block of a key has its length from the outlines. -/
  envelope : ∀ k l kek kek', Twins s t k l → Twins s t kek kek' →
    Agrees (fun block block' : Bytes => block.length = block'.length) (k.envelope kek)
      (l.envelope kek')
  /-- A command that carries keys has its header from the outlines, and its length. -/
  putKeys : ∀ replaced version keys keys' kek kek', List.Forall₂ (Twins s t) keys keys' →
    Twins s t kek kek' → Agrees Command.Alike (Command.putKeys replaced version keys kek)
      (Command.putKeys replaced version keys' kek')
  /-- The same holds of what becomes of the two sets, since they stay alike. -/
  after : ∀ calls calls', List.Forall₂ KeyCall.Alike calls calls' →
    (s.after calls).Alike (t.after calls')

/-- **Key sets hide their secrets.** Two sets that differ in the bytes of their secrets at most have
one text. Whatever is done with them succeeds on both, and makes what differs in such bytes at most,
or fails on both with the same error. -/
theorem hides_of_alike (h : s.Alike t) : s.Hides t where
  text_eq := h.inspect_eq
  key_text_eq := by
    intro k l hkeys
    exact (h.of_twins hkeys).inspect_eq
  insert := by
    intro k l hkey
    exact h.agrees_insert hkey
  diversify := h.agrees_diversify
  scp02Session := h.agrees_scp02Session
  scp03Session := h.agrees_scp03Session
  envelope := by
    intro k l kek kek' hkeys hkeks
    exact (h.of_twins hkeys).agrees_envelope (h.of_twins hkeks)
  putKeys := by
    intro replaced version keys keys' kek kek' hkeys hkeks
    have halike := hkeys.imp fun _ _ => h.of_twins
    exact Command.agrees_putKeys halike (h.of_twins hkeks)
  after := by
    intro calls calls' hcalls
    exact h.after hcalls

/-- Keys of zeros in place of the test keys. -/
def zeroKeys : KeySet :=
  (empty "default" 0).add ⟨0, .master, .generic, List.replicate 16 0, by decide⟩ ⟨rfl, .inl rfl⟩

/-- The test keys are not told from keys of zeros. -/
theorem hides_of_alike_testKeys : testKeys.Alike zeroKeys ∧ testKeys ≠ zeroKeys ∧
    testKeys.Hides zeroKeys := by
  have halike : testKeys.Alike zeroKeys := by
    refine ⟨rfl, rfl, rfl, fun u => ?_⟩
    cases u with
    | master | enc | mac | kek | rmac => rfl
  refine ⟨halike, fun hsame => ?_, hides_of_alike halike⟩
  -- what tells the two sets apart is the secret, which no text shows
  have hmaster := congrArg (fun s : KeySet => s.find? .master) hsame
  cases hmaster

end KeySet

end SmartCard
