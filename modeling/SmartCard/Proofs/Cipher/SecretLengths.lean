import SmartCard.Proofs.Cipher.DerivedSecrets
import SmartCard.Proofs.Cipher.MacPaths
import SmartCard.Proofs.Key.Envelopes

/-!
# What the length of a secret decides

Two runs of a computation agree if both succeed, with values that are related, or both fail with the
same error (`Agrees`). Agreement is carried through a sequence of steps (`Agrees.bind`), through a
list (`Agrees.mapM`) and through a loop (`Agrees.foldlM`), so that it only has to be shown for the
single steps.

The ciphers take a secret and data, and whether they do depends on the lengths of both alone. Runs
with two secrets of one length therefore agree, and what they make has one length:

* `TripleDes.agrees_ecbEncrypt`, `Aes.agrees_cbcEncrypt` — enciphered data;
* `CheckValue.agrees_tripleDes`, `CheckValue.agrees_aes` — check values;
* `Derivation.agrees_fromSequence`, `Derivation.agrees_counterMode` — derived secrets. -/

namespace SmartCard

/-! ### Two runs -/

variable {ε ε' α β γ δ : Type}

/-- **Two outcomes agree**: both are values, which are related, or both are the same error. -/
inductive Agrees (R : α → β → Prop) : Except ε α → Except ε β → Prop
  | ok {a : α} {b : β} (h : R a b) : Agrees R (.ok a) (.ok b)
  | error (e : ε) : Agrees R (.error e) (.error e)

/-- Both succeed, with any values, or both fail with the same error. -/
abbrev SameFate (x : Except ε α) (y : Except ε β) : Prop := Agrees (fun _ _ => True) x y

namespace Agrees

variable {R : α → β → Prop} {S : γ → δ → Prop} {x : Except ε α} {y : Except ε β}

theorem of_eq {R : α → α → Prop} (hR : ∀ a, R a a) (x : Except ε α) : Agrees R x x := by
  cases x with
  | error e => exact .error e
  | ok a => exact .ok (hR a)

/-- What is known of the values may be used to relate them. -/
theorem relate {Q : α → β → Prop} (h : Agrees R x y)
    (hvalues : ∀ a b, x = .ok a → y = .ok b → R a b → Q a b) : Agrees Q x y := by
  cases h with
  | ok hab => exact .ok (hvalues _ _ rfl rfl hab)
  | error e => exact .error e

/-- **Steps that agree on related values go on from steps that agree.** -/
theorem bind {f : α → Except ε γ} {g : β → Except ε δ} (h : Agrees R x y)
    (hstep : ∀ a b, R a b → Agrees S (f a) (g b)) : Agrees S (x >>= f) (y >>= g) := by
  cases h with
  | ok hab => exact hstep _ _ hab
  | error e => exact .error e

theorem map {f : α → γ} {g : β → δ} (h : Agrees R x y) (hvalue : ∀ a b, R a b → S (f a) (g b)) :
    Agrees S (x.map f) (y.map g) := by
  cases h with
  | ok hab => exact .ok (hvalue _ _ hab)
  | error e => exact .error e

theorem mapError (h : Agrees R x y) (f : ε → ε') : Agrees R (x.mapError f) (y.mapError f) := by
  cases h with
  | ok hab => exact .ok hab
  | error e => exact .error (f e)

/-- Making something of each element agrees if it does for each two elements. -/
theorem mapM {f : α → Except ε γ} {g : β → Except ε δ} {xs : List α} {ys : List β}
    (h : List.Forall₂ (fun a b => Agrees S (f a) (g b)) xs ys) :
    Agrees (List.Forall₂ S) (xs.mapM f) (ys.mapM g) := by
  induction h with
  | nil => exact .ok .nil
  | cons hfirst _ ih =>
    rw [List.mapM_cons, List.mapM_cons]
    -- the rest agrees by induction, once the first elements do
    exact hfirst.bind fun a b hab => ih.bind fun as bs hrest => .ok (.cons hab hrest)

/-- **A loop over steps that agree on related states agrees**, and ends in related states. -/
theorem foldlM {f : γ → α → Except ε γ} {g : δ → β → Except ε δ} {xs : List α} {ys : List β}
    (hstep : ∀ s t a b, S s t → R a b → Agrees S (f s a) (g t b)) (h : List.Forall₂ R xs ys)
    {s : γ} {t : δ} (hstart : S s t) : Agrees S (xs.foldlM f s) (ys.foldlM g t) := by
  -- on the two lists, for the states that each two elements find
  induction h generalizing s t with
  | nil => exact .ok hstart
  | cons hab _ ih =>
    rw [List.foldlM_cons, List.foldlM_cons]
    exact (hstep _ _ _ _ hstart hab).bind fun _ _ hnext => ih hnext

end Agrees

theorem map_eq_of_forall₂ {f : α → γ} {g : β → γ} {xs : List α} {ys : List β}
    (h : List.Forall₂ (fun a b => f a = g b) xs ys) : xs.map f = ys.map g := by
  rw [← List.forall₂_eq_eq_eq, List.forall₂_map_left_iff, List.forall₂_map_right_iff]
  exact h

/-! ### Ciphers -/

variable {secret secret' data data' : Bytes}

theorem Padding.agrees_aligned {n : Nat} (hdata : data.length = data'.length) :
    SameFate (aligned n data) (aligned n data') := by
  -- one length decides for both whether there are whole blocks
  unfold aligned
  rw [hdata]
  split
  · exact .ok trivial
  · exact .error _

namespace TripleDes

theorem agrees_keyOfSecret (h : secret.length = secret'.length) :
    SameFate (Key.ofSecret secret) (Key.ofSecret secret') := by
  have husable : Usable secret ↔ Usable secret' := by
    rw [usable_iff, usable_iff, h]
  by_cases hsecret : Usable secret
  · obtain ⟨key, hkey⟩ := hsecret
    obtain ⟨key', hkey'⟩ := husable.1 ⟨key, hkey⟩
    rw [hkey, hkey']
    exact .ok trivial
  · rw [Key.ofSecret_of_not_usable hsecret, Key.ofSecret_of_not_usable (mt husable.2 hsecret)]
    exact .error _

theorem agrees_ofSecret (h : secret.length = secret'.length) :
    SameFate (ofSecret secret) (ofSecret secret') :=
  (agrees_keyOfSecret h).map fun _ _ _ => trivial

theorem agrees_ecbEncrypt (h : secret.length = secret'.length)
    (hdata : data.length = data'.length) :
    Agrees (fun a b : Bytes => a.length = b.length) (ecbEncrypt secret data)
      (ecbEncrypt secret' data') := by
  -- data first and secret second, as every mode looks at them
  have hfate : SameFate (ecbEncrypt secret data) (ecbEncrypt secret' data') :=
    (Padding.agrees_aligned hdata).bind fun _ _ _ => (agrees_ofSecret h).bind fun _ _ _ =>
      .ok trivial
  refine hfate.relate fun sealed sealed' hsealed hsealed' _ => ?_
  rw [length_of_ecbEncrypt hsealed, length_of_ecbEncrypt hsealed', hdata]

end TripleDes

namespace Aes

theorem agrees_ofSecret (h : secret.length = secret'.length) :
    SameFate (ofSecret secret) (ofSecret secret') := by
  unfold ofSecret Block.ofList?
  by_cases hlen : secret.length = 16
  · rw [dif_pos hlen, dif_pos (h ▸ hlen)]
    exact .ok trivial
  · rw [dif_neg hlen, dif_neg (h ▸ hlen)]
    exact .error _

theorem agrees_cbcEncrypt {iv : Block 16} (h : secret.length = secret'.length)
    (hdata : data.length = data'.length) :
    Agrees (fun a b : Bytes => a.length = b.length) (cbcEncrypt secret iv data)
      (cbcEncrypt secret' iv data') := by
  have hfate : SameFate (cbcEncrypt secret iv data) (cbcEncrypt secret' iv data') :=
    (Padding.agrees_aligned hdata).bind fun _ _ _ => (agrees_ofSecret h).bind fun _ _ _ =>
      .ok trivial
  refine hfate.relate fun sealed sealed' hsealed hsealed' _ => ?_
  rw [length_of_cbcEncrypt hsealed, length_of_cbcEncrypt hsealed', hdata]

end Aes

namespace CheckValue

theorem agrees_tripleDes (h : secret.length = secret'.length) :
    SameFate (tripleDes secret) (tripleDes secret') :=
  (TripleDes.agrees_ofSecret h).bind fun _ _ _ => .ok trivial

theorem agrees_aes (h : secret.length = secret'.length) : SameFate (aes secret) (aes secret') :=
  (Aes.agrees_ofSecret h).bind fun _ _ _ => .ok trivial

end CheckValue

namespace Derivation

theorem agrees_fromSequence {tag sequence : Block 2} (h : secret.length = secret'.length) :
    SameFate (fromSequence secret tag sequence) (fromSequence secret' tag sequence) :=
  (TripleDes.agrees_ofSecret h).bind fun _ _ _ => .ok trivial

theorem agrees_counterMode {constant : UInt8} {context : Bytes} {bits : UInt16}
    (h : secret.length = secret'.length) :
    Agrees (fun a b : Bytes => a.length = b.length) (counterMode secret constant context bits)
      (counterMode secret' constant context bits) := by
  -- the blocks are made one by one, each under the same secret
  have hblocks : ∀ numbers : List Nat,
      Agrees (List.Forall₂ fun _ _ => True)
        (numbers.mapM fun i => counterBlock secret constant context bits (i + 1).toUInt8)
        (numbers.mapM fun i => counterBlock secret' constant context bits (i + 1).toUInt8) := by
    intro numbers
    refine .mapM (List.forall₂_same.2 fun i _ => ?_)
    exact (Aes.agrees_ofSecret h).bind fun _ _ _ => .ok trivial
  have hfate : SameFate (counterMode secret constant context bits)
      (counterMode secret' constant context bits) :=
    (hblocks _).bind fun _ _ _ => .ok trivial
  refine hfate.relate fun made made' hmade hmade' _ => ?_
  rw [length_of_counterMode hmade, length_of_counterMode hmade']

end Derivation

end SmartCard
