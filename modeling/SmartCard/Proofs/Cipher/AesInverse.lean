import SmartCard.Cipher.Aes

/-!
# AES deciphers what it enciphers

`Aes.cipher_lawful` says that the two maps of `Aes.cipher` are inverse to each other under every
key. The steps of a round are inverted one by one.

* The substitution is a look-up in one of two tables, which are compared byte by byte
  (`unsubstitute_substitute`).
* The rotation of the rows is inverted by definition.
* The column map needs the field only through `double_xor`, the linearity of doubling. Applied twice
  it is `spread` (`mixColumn_mixColumn`), and `spread` is its own inverse (`spread_spread`), so the
  column map applied four times changes nothing, and `unmixColumn` is three of these four.

Rounds are then undone from the last to the first (`foldl_unround_foldl_round`), whatever the round
keys are; the key schedule plays no part. -/

namespace SmartCard.Aes

/-! ### Substitution -/

theorem unsubstitute_substitute (b : UInt8) : unsubstitute (substitute b) = b := by
  have h : ∀ n : Fin 256, unsubstitute (substitute (UInt8.ofFin n)) = UInt8.ofFin n := by
    decide +kernel
  exact h b.toFin

theorem substitute_unsubstitute (b : UInt8) : substitute (unsubstitute b) = b := by
  have h : ∀ n : Fin 256, substitute (unsubstitute (UInt8.ofFin n)) = UInt8.ofFin n := by
    decide +kernel
  exact h b.toFin

/-! ### Sums of bytes -/

theorem xor_left_comm (a b c : UInt8) : a ^^^ (b ^^^ c) = b ^^^ (a ^^^ c) := by
  rw [← UInt8.xor_assoc, UInt8.xor_comm a b, UInt8.xor_assoc]

/-- Adding a byte twice changes nothing. -/
theorem xor_cancel_left (a b : UInt8) : a ^^^ (a ^^^ b) = b := by
  rw [← UInt8.xor_assoc, UInt8.xor_self, UInt8.zero_xor]

private theorem and_xor_distrib (a b c : UInt8) : (a ^^^ b) &&& c = (a &&& c) ^^^ (b &&& c) := by
  apply UInt8.toBitVec_inj.1
  ext i hi
  simp [Bool.and_xor_distrib_right]

private theorem topBit_eq (b : UInt8) : b &&& 0x80 = 0 ∨ b &&& 0x80 = 0x80 := by
  have h : ∀ n : Fin 256, UInt8.ofFin n &&& 0x80 = 0 ∨ UInt8.ofFin n &&& 0x80 = 0x80 := by
    decide +kernel
  exact h b.toFin

/-- **Doubling is linear.** The reduction is added once for each summand whose top bit is set, and
twice is as good as never. -/
theorem double_xor (a b : UInt8) : double (a ^^^ b) = double a ^^^ double b := by
  unfold double
  rw [and_xor_distrib, UInt8.shiftLeft_xor]
  -- by cases on the two top bits: each that is set adds the reduction once
  rcases topBit_eq a with ha | ha <;> rcases topBit_eq b with hb | hb <;> rw [ha, hb]
  · rfl
  · rw [if_neg (by decide), if_pos rfl, if_neg (by decide), UInt8.xor_assoc]
  · rw [if_neg (by decide), if_neg (by decide), if_pos rfl, UInt8.xor_assoc, UInt8.xor_assoc,
      UInt8.xor_comm (b <<< 1)]
  · rw [if_pos (by decide), if_neg (by decide), if_neg (by decide), UInt8.xor_assoc,
      xor_left_comm 0x1b, UInt8.xor_self, UInt8.xor_zero]

/-! ### Columns -/

theorem spread_spread (w : Word) : spread (spread w) = w := by
  obtain ⟨a, b, c, d⟩ := w
  simp only [spread, double_xor, Word.mk.injEq]
  -- with doubling taken to the single bytes, all summands but one cancel in pairs
  refine ⟨?_, ?_, ?_, ?_⟩ <;>
    simp only [UInt8.xor_comm, xor_left_comm, UInt8.xor_self, UInt8.xor_zero, UInt8.zero_xor]

/-- **The column map twice is `spread`.** Of the 25 summands of each byte all but five meet a second
time and cancel. -/
theorem mixColumn_mixColumn (w : Word) : mixColumn (mixColumn w) = spread w := by
  obtain ⟨a, b, c, d⟩ := w
  simp only [mixColumn, spread, Word.map, double_xor, Word.mk.injEq]
  refine ⟨?_, ?_, ?_, ?_⟩ <;>
    simp only [UInt8.xor_assoc, UInt8.xor_comm, xor_left_comm, xor_cancel_left, UInt8.xor_self,
      UInt8.zero_xor]

theorem unmixColumn_mixColumn (w : Word) : unmixColumn (mixColumn w) = w := by
  rw [unmixColumn, ← mixColumn_mixColumn (mixColumn w), mixColumn_mixColumn w,
    mixColumn_mixColumn (spread w), spread_spread]

theorem mixColumn_unmixColumn (w : Word) : mixColumn (unmixColumn w) = w := by
  rw [unmixColumn, mixColumn_mixColumn, spread_spread]

/-! ### Rounds -/

private theorem Word.xor_xor_cancel (v w : Word) : v ^^^ w ^^^ w = v := by
  change (⟨v.b0 ^^^ w.b0 ^^^ w.b0, v.b1 ^^^ w.b1 ^^^ w.b1, v.b2 ^^^ w.b2 ^^^ w.b2,
    v.b3 ^^^ w.b3 ^^^ w.b3⟩ : Word) = v
  simp only [UInt8.xor_assoc, UInt8.xor_self, UInt8.xor_zero]

/-- A round key added twice changes nothing. -/
theorem State.xor_xor_cancel (s key : State) : s ^^^ key ^^^ key = s := by
  change (⟨s.c0 ^^^ key.c0 ^^^ key.c0, s.c1 ^^^ key.c1 ^^^ key.c1, s.c2 ^^^ key.c2 ^^^ key.c2,
    s.c3 ^^^ key.c3 ^^^ key.c3⟩ : State) = s
  simp only [Word.xor_xor_cancel]

/-- Maps on columns that undo each other undo each other on states. -/
private theorem State.map_map_cancel {f g : Word → Word} (h : ∀ w, g (f w) = w) (s : State) :
    (s.map f).map g = s := by
  change (⟨g (f s.c0), g (f s.c1), g (f s.c2), g (f s.c3)⟩ : State) = s
  simp only [h]

/-- Maps on bytes that undo each other undo each other on columns. -/
private theorem Word.map_map_cancel {f g : UInt8 → UInt8} (h : ∀ b, g (f b) = b) (w : Word) :
    (w.map f).map g = w := by
  change (⟨g (f w.b0), g (f w.b1), g (f w.b2), g (f w.b3)⟩ : Word) = w
  simp only [h]

theorem unround_round (s key : State) : unround (round s key) key = s := by
  unfold unround round
  rw [State.xor_xor_cancel, State.map_map_cancel unmixColumn_mixColumn, unshiftRows_shiftRows,
    State.map_map_cancel (Word.map_map_cancel unsubstitute_substitute)]

theorem round_unround (s key : State) : round (unround s key) key = s := by
  unfold unround round
  rw [State.map_map_cancel (Word.map_map_cancel substitute_unsubstitute), shiftRows_unshiftRows,
    State.map_map_cancel mixColumn_unmixColumn, State.xor_xor_cancel]

/-- **Rounds are undone from the last to the first.** -/
theorem foldl_unround_foldl_round (keys : List State) (s : State) :
    keys.reverse.foldl unround (keys.foldl round s) = s := by
  -- the last round is undone first, so the reversed keys are taken apart at their end
  induction keys generalizing s with
  | nil => rfl
  | cons key keys ih =>
    rw [List.foldl_cons, List.reverse_cons, List.foldl_append, ih (round s key)]
    exact unround_round s key

theorem foldl_round_foldl_unround (keys : List State) (s : State) :
    keys.foldl round (keys.reverse.foldl unround s) = s := by
  induction keys generalizing s with
  | nil => rfl
  | cons key keys ih =>
    rw [List.reverse_cons, List.foldl_append, List.foldl_cons]
    -- the key at the front was the last one to be undone, and is the first one to be used
    change keys.foldl round (round (unround (keys.reverse.foldl unround s) key) key) = s
    rw [round_unround]
    exact ih s

theorem decryptState_encryptState (keys : RoundKeys) (s : State) :
    decryptState keys (encryptState keys s) = s := by
  unfold decryptState encryptState
  simp only [State.xor_xor_cancel, unshiftRows_shiftRows,
    State.map_map_cancel (Word.map_map_cancel unsubstitute_substitute), foldl_unround_foldl_round]

theorem encryptState_decryptState (keys : RoundKeys) (s : State) :
    encryptState keys (decryptState keys s) = s := by
  unfold decryptState encryptState
  simp only [State.xor_xor_cancel, foldl_round_foldl_unround,
    State.map_map_cancel (Word.map_map_cancel substitute_unsubstitute), shiftRows_unshiftRows]

/-! ### The cipher -/

@[simp] theorem State.ofBlock_toBlock (s : State) : State.ofBlock s.toBlock = s := rfl

@[simp] theorem State.toBlock_ofBlock (b : Block 16) : (State.ofBlock b).toBlock = b := by
  obtain ⟨l, hl⟩ := b
  -- a block of sixteen bytes is a list of exactly this shape
  match l, hl with
  | [_, _, _, _, _, _, _, _, _, _, _, _, _, _, _, _], _ => rfl

/-- **AES is lawful** under every key. -/
theorem cipher_lawful (key : Block 16) : (cipher key).Lawful where
  decrypt_encrypt b := by
    change (decryptState _ (State.ofBlock (encryptState _ (State.ofBlock b)).toBlock)).toBlock = b
    rw [State.ofBlock_toBlock, decryptState_encryptState, State.toBlock_ofBlock]
  encrypt_decrypt b := by
    change (encryptState _ (State.ofBlock (decryptState _ (State.ofBlock b)).toBlock)).toBlock = b
    rw [State.ofBlock_toBlock, encryptState_decryptState, State.toBlock_ofBlock]

end SmartCard.Aes
