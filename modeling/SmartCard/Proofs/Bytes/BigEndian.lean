import Mathlib.Algebra.Group.Nat.Defs
import SmartCard.Bytes.BigEndian

/-!
# Words and their bytes

Writing a word most significant byte first and reading the bytes back gives the word, and the other
way round (`toUInt64_ofUInt64`, `ofUInt64_toUInt64`). Both go through the number that a byte string
stands for (`BigEndian.toNat`): strings of one length that stand for the same number are equal
(`toNat_inj`), so a writer and a reader are compared by their numbers only.

`BigEndian.ofNat` writes any number into a given width. It says what a counter field holds without
saying how a word is taken apart. -/

namespace SmartCard.BigEndian

/-! ### The number of a byte string -/

private theorem foldl_byte (s : Bytes) (n : Nat) :
    s.foldl (fun acc byte => acc * 256 + byte.toNat) n = n * 256 ^ s.length + toNat s := by
  unfold toNat
  -- each byte moves the accumulator up by one power, so it is left general
  induction s generalizing n with
  | nil => simp
  | cons b s ih =>
    rw [List.foldl_cons, List.foldl_cons, ih, ih (0 * 256 + b.toNat), List.length_cons,
      Nat.pow_succ, Nat.add_mul, Nat.zero_mul, Nat.zero_add, Nat.mul_assoc, Nat.mul_comm 256,
      Nat.add_assoc]

@[simp] theorem toNat_nil : toNat [] = 0 := rfl

theorem toNat_cons (b : UInt8) (s : Bytes) :
    toNat (b :: s) = b.toNat * 256 ^ s.length + toNat s := by
  have h := foldl_byte s b.toNat
  rw [← h]
  unfold toNat
  rw [List.foldl_cons, Nat.zero_mul, Nat.zero_add]

theorem toNat_append (s t : Bytes) : toNat (s ++ t) = toNat s * 256 ^ t.length + toNat t := by
  rw [← foldl_byte]
  unfold toNat
  rw [List.foldl_append]

theorem toNat_replicate_zero (n : Nat) : toNat (List.replicate n 0) = 0 := by
  induction n with
  | zero => rfl
  | succ n ih => rw [List.replicate_succ, toNat_cons, ih, UInt8.toNat_zero, Nat.zero_mul]

theorem toNat_lt (s : Bytes) : toNat s < 256 ^ s.length := by
  induction s with
  | nil => simp
  | cons b s ih =>
    -- the leading byte leaves at least one unit of its power for the rest
    have hb : b.toNat + 1 ≤ 256 := b.toNat_lt
    have hmul := Nat.mul_le_mul_right (256 ^ s.length) hb
    rw [toNat_cons, List.length_cons, Nat.pow_succ, Nat.mul_comm (256 ^ s.length)]
    rw [Nat.add_mul, Nat.one_mul] at hmul
    omega

/-- **A byte string of a given length is its number.** -/
theorem toNat_inj {s t : Bytes} (hlen : s.length = t.length) (h : toNat s = toNat t) : s = t := by
  induction s generalizing t with
  | nil => exact (List.length_eq_zero_iff.1 hlen.symm).symm
  | cons b s ih =>
    cases t with
    | nil => simp at hlen
    | cons c t =>
      rw [List.length_cons, List.length_cons, Nat.add_right_cancel_iff] at hlen
      rw [toNat_cons, toNat_cons, ← hlen] at h
      have hs := toNat_lt s
      have ht : toNat t < 256 ^ s.length := hlen ▸ toNat_lt t
      -- the leading bytes are the quotients, and the rests are the remainders
      have hpos : 0 < 256 ^ s.length := Nat.pow_pos (by decide)
      have hq := congrArg (· / 256 ^ s.length) h
      have hr := congrArg (· % 256 ^ s.length) h
      simp only [Nat.mul_comm _ (256 ^ s.length), Nat.mul_add_div hpos, Nat.mul_add_mod,
        Nat.div_eq_of_lt hs, Nat.div_eq_of_lt ht, Nat.mod_eq_of_lt hs, Nat.mod_eq_of_lt ht,
        Nat.add_zero] at hq hr
      rw [UInt8.toNat_inj.1 hq, ih hlen hr]

/-! ### Words of 64 bits -/

/-- Appending a byte to a word that leaves room for it. -/
private theorem toNat_push {acc : UInt64} (b : UInt8) (h : acc.toNat < 2 ^ 56) :
    (acc <<< 8 ||| b.toUInt64).toNat = acc.toNat * 256 + b.toNat := by
  have hb := b.toNat_lt
  rw [UInt64.toNat_or, UInt64.toNat_shiftLeft, UInt8.toNat_toUInt64]
  change acc.toNat <<< 8 % 2 ^ 64 ||| b.toNat = _
  -- the word has room for eight more bits, and the low ones are free, so `|||` is a sum
  rw [Nat.mod_eq_of_lt (by rw [Nat.shiftLeft_eq]; omega),
    ← Nat.shiftLeft_add_eq_or_of_lt (by omega), Nat.shiftLeft_eq]

private theorem toNat_foldl_push (s : Bytes) (acc : UInt64)
    (h : acc.toNat < 256 ^ (8 - s.length)) (hs : s.length ≤ 8) :
    (s.foldl (fun (acc : UInt64) byte => acc <<< 8 ||| byte.toUInt64) acc).toNat =
      s.foldl (fun acc byte => acc * 256 + byte.toNat) acc.toNat := by
  induction s generalizing acc with
  | nil => rfl
  | cons b s ih =>
    rw [List.length_cons] at h hs
    -- the room shrinks by a byte with each step, and before a step there is one byte left
    have hroom : acc.toNat < 2 ^ 56 := by
      have := Nat.pow_le_pow_right (show 0 < 256 by decide) (show 8 - (s.length + 1) ≤ 7 by omega)
      omega
    have hpush := toNat_push b hroom
    have hb := b.toNat_lt
    rw [List.foldl_cons, List.foldl_cons, ih _ ?_ (by omega), hpush]
    rw [hpush, show 8 - s.length = (8 - (s.length + 1)) + 1 by omega, Nat.pow_succ]
    omega

theorem toNat_toUInt64 (b : Block 8) : (toUInt64 b).toNat = toNat b.toList := by
  unfold toUInt64 toNat
  rw [toNat_foldl_push b.toList 0 (by simp) (by simp)]
  rfl

theorem toNat_ofUInt64 (w : UInt64) : toNat (ofUInt64 w).toList = w.toNat := by
  have hw := w.toNat_lt
  simp [ofUInt64, toNat, Nat.shiftRight_eq_div_pow]
  omega

@[simp] theorem toUInt64_ofUInt64 (w : UInt64) : toUInt64 (ofUInt64 w) = w := by
  apply UInt64.toNat_inj.1
  rw [toNat_toUInt64, toNat_ofUInt64]

@[simp] theorem ofUInt64_toUInt64 (b : Block 8) : ofUInt64 (toUInt64 b) = b := by
  apply Block.ext
  apply toNat_inj
  · simp
  · rw [toNat_ofUInt64, toNat_toUInt64]

/-! ### Numbers of any width -/

/-- A number in `n` bytes; what does not fit is left out at the top. -/
def ofNat : (n : Nat) → Nat → Block n
  | 0, _ => ⟨[], rfl⟩
  | n + 1, value => (ofNat n (value / 256)).append ⟨[value.toUInt8], rfl⟩

theorem toNat_ofNat_mod (n value : Nat) : toNat (ofNat n value).toList = value % 256 ^ n := by
  induction n generalizing value with
  | zero =>
    rw [Nat.pow_zero, Nat.mod_one]
    rfl
  | succ n ih =>
    -- the last byte is the remainder, and the bytes before it hold the quotient
    have hlow : toNat [value.toUInt8] = value % 256 := by
      rw [toNat_cons, Nat.toUInt8_eq, UInt8.toNat_ofNat', List.length_nil, Nat.pow_zero,
        Nat.mul_one]
      rfl
    rw [ofNat, Block.toList_append, toNat_append, ih, hlow, List.length_singleton, Nat.pow_one,
      Nat.pow_succ, Nat.mul_comm (256 ^ n), Nat.mod_mul, Nat.mul_comm, Nat.add_comm]

theorem toNat_ofNat {n value : Nat} (h : value < 256 ^ n) :
    toNat (ofNat n value).toList = value := by
  rw [toNat_ofNat_mod, Nat.mod_eq_of_lt h]

theorem toNat_ofUInt32 (w : UInt32) : toNat (ofUInt32 w).toList = w.toNat := by
  have hw := w.toNat_lt
  simp [ofUInt32, toNat, Nat.shiftRight_eq_div_pow]
  omega

/-- The last bytes of a block hold a whole word. -/
theorem append_ofUInt32_inj {k : Nat} {front : Block k} {n m : UInt32}
    (h : front.append (ofUInt32 n) = front.append (ofUInt32 m)) : n = m := by
  have hlist := congrArg Block.toList h
  rw [Block.toList_append, Block.toList_append] at hlist
  have hnat := congrArg toNat (List.append_cancel_left hlist)
  rw [toNat_ofUInt32, toNat_ofUInt32] at hnat
  exact UInt32.toNat_inj.1 hnat

/-- A word at the end of a wider field is the field of its number. -/
theorem replicate_append_ofUInt32 (n : Nat) {value : Nat} (h : value < 2 ^ 32) :
    List.replicate n 0 ++ (ofUInt32 value.toUInt32).toList = (ofNat (n + 4) value).toList := by
  apply toNat_inj
  · simp
  · rw [toNat_append, toNat_replicate_zero, toNat_ofUInt32, toNat_ofNat, Nat.zero_mul,
      Nat.zero_add]
    · exact UInt32.toNat_ofNat_of_lt' h
    · calc value < 256 ^ 4 := h
        _ ≤ 256 ^ (n + 4) := Nat.pow_le_pow_right (by decide) (by omega)

end SmartCard.BigEndian
