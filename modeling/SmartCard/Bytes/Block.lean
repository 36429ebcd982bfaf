/-!
# Byte strings and blocks

Cards exchange byte strings (`Bytes`). Challenges, cryptograms, chaining values and cipher
blocks have a width that never changes, and `Block n` carries that width in its type, so that
an operation on blocks has no length to check and no length to get wrong.

* `Block.ofList?` recognises a byte string of the right length;
* `Block.split` cuts a byte string into blocks from the front and `Block.join` writes blocks one
  after the other; on an aligned string they are inverse to each other;
* `b₁ ^^^ b₂` combines two blocks byte by byte, and combining twice with the same block changes
  nothing (`Block.xor_xor_cancel`).

The view of a block is `Block.toList`; two blocks with the same bytes are equal (`Block.ext`).
-/

namespace SmartCard

/-- A byte string of any length. -/
abbrev Bytes := List UInt8

/-- A byte string of exactly `n` bytes. -/
structure Block (n : Nat) where
  toList : Bytes
  length_toList : toList.length = n
deriving DecidableEq

namespace Block

variable {n m : Nat}

attribute [simp] length_toList

/-- A block is its bytes. -/
@[ext] theorem ext {a b : Block n} (h : a.toList = b.toList) : a = b := by
  cases a; cases b; cases h; rfl

instance : GetElem (Block n) Nat UInt8 (fun _ i => i < n) where
  getElem b i h := b.toList.get ⟨i, by simpa using h⟩

/-- A byte string as a block, if it has the right length. -/
def ofList? (n : Nat) (s : Bytes) : Option (Block n) :=
  if h : s.length = n then some ⟨s, h⟩ else none

def fill (n : Nat) (byte : UInt8) : Block n := ⟨List.replicate n byte, by simp⟩

/-- The all-zero block. -/
def zero (n : Nat) : Block n := fill n 0

instance : Inhabited (Block n) := ⟨zero n⟩

/-- Combines two blocks byte by byte with exclusive or. -/
def xor (a b : Block n) : Block n :=
  ⟨List.zipWith (· ^^^ ·) a.toList b.toList, by simp⟩

instance : XorOp (Block n) := ⟨xor⟩

def append (a : Block n) (b : Block m) : Block (n + m) :=
  ⟨a.toList ++ b.toList, by simp⟩

/-- The `len` bytes from position `start` on; the positions are fixed in the program, so that the
bound is settled where the slice is written. -/
def slice (b : Block n) (start len : Nat) (h : start + len ≤ n := by decide) : Block len :=
  ⟨(b.toList.drop start).take len, by simp; omega⟩

def leftHalf (b : Block 16) : Block 8 := b.slice 0 8

def rightHalf (b : Block 16) : Block 8 := b.slice 8 8

/-- Cuts a byte string into blocks from the front. Bytes that fill no block are left out, which
an aligned string has none of. -/
def split (n : Nat) (s : Bytes) : List (Block n) :=
  if h : (s.take n).length = n ∧ 0 < n then
    ⟨s.take n, h.1⟩ :: split n (s.drop n)
  else []
termination_by s.length
decreasing_by
  simp only [List.length_take] at h
  simp only [List.length_drop]
  omega

def join (blocks : List (Block n)) : Bytes := blocks.flatMap toList

@[simp] theorem toList_fill (n : Nat) (byte : UInt8) :
    (fill n byte).toList = List.replicate n byte := rfl

@[simp] theorem toList_zero (n : Nat) : (zero n).toList = List.replicate n 0 := rfl

@[simp] theorem toList_xor (a b : Block n) :
    (a ^^^ b).toList = List.zipWith (· ^^^ ·) a.toList b.toList := rfl

@[simp] theorem toList_append (a : Block n) (b : Block m) :
    (a.append b).toList = a.toList ++ b.toList := rfl

@[simp] theorem toList_slice (b : Block n) (start len : Nat) (h : start + len ≤ n) :
    (b.slice start len h).toList = (b.toList.drop start).take len := rfl

/-- The halves of a double block make the block. -/
theorem append_halves (b : Block 16) : b.leftHalf.append b.rightHalf = b := by
  apply ext
  change (b.toList.drop 0).take 8 ++ (b.toList.drop 8).take 8 = b.toList
  rw [List.drop_zero, List.take_of_length_le (l := b.toList.drop 8) (by simp)]
  exact List.take_append_drop 8 b.toList

theorem ofList?_eq_some_iff {s : Bytes} {b : Block n} : ofList? n s = some b ↔ s = b.toList := by
  unfold ofList?
  split
  · simp only [Option.some.injEq]
    constructor
    · rintro rfl; rfl
    · intro h; exact ext h
  · rename_i h
    simp only [reduceCtorEq, false_iff]
    rintro rfl
    exact h b.length_toList

@[simp] theorem ofList?_toList (b : Block n) : ofList? n b.toList = some b :=
  ofList?_eq_some_iff.2 rfl

/-- A byte string of another length is no block. -/
theorem ofList?_eq_none_iff {s : Bytes} : ofList? n s = none ↔ s.length ≠ n := by
  unfold ofList?; split <;> simp_all

/-- Exclusive or with the same block twice changes nothing. -/
@[simp] theorem xor_xor_cancel (a b : Block n) : a ^^^ b ^^^ b = a := by
  apply ext
  apply List.ext_getElem
  · simp
  · intro i h₁ h₂
    simp only [toList_xor, List.getElem_zipWith]
    rw [UInt8.xor_assoc, UInt8.xor_self, UInt8.xor_zero]

theorem xor_comm (a b : Block n) : a ^^^ b = b ^^^ a := by
  apply ext
  apply List.ext_getElem
  · simp
  · intro i h₁ h₂
    simpa using UInt8.xor_comm _ _

theorem xor_left_cancel {a b c : Block n} (h : a ^^^ b = a ^^^ c) : b = c := by
  rw [xor_comm a, xor_comm a] at h
  rw [← xor_xor_cancel b a, h, xor_xor_cancel]

@[simp] theorem join_nil : join ([] : List (Block n)) = [] := rfl

@[simp] theorem join_cons (b : Block n) (bs : List (Block n)) :
    join (b :: bs) = b.toList ++ join bs := rfl

@[simp] theorem length_join (bs : List (Block n)) : (join bs).length = bs.length * n := by
  induction bs with
  | nil => simp
  | cons b bs ih => simp [ih, Nat.add_mul, Nat.add_comm]

/-- Cutting the written form of some blocks gives these blocks back. -/
theorem split_join (hn : 0 < n) (bs : List (Block n)) : split n (join bs) = bs := by
  induction bs with
  | nil =>
    unfold split
    simp
    omega
  | cons b bs ih =>
    unfold split
    have htake : (join (b :: bs)).take n = b.toList := by
      simp
    have hdrop : (join (b :: bs)).drop n = join bs := by
      simp
    have hlen : ((join (b :: bs)).take n).length = n ∧ 0 < n := by simp [hn]
    rw [dif_pos hlen, hdrop, ih]
    congr 1
    exact ext htake

/-- An aligned byte string loses nothing when it is cut. -/
theorem join_split {s : Bytes} (hn : 0 < n) (h : s.length % n = 0) : join (split n s) = s := by
  fun_induction split n s with
  | case1 s hs ih =>
    have hlen : n ≤ s.length := by have := hs.1; simp only [List.length_take] at this; omega
    rw [join_cons, ih (by rw [List.length_drop, ← Nat.mod_eq_sub_mod hlen]; exact h)]
    exact List.take_append_drop n s
  | case2 s hs =>
    have : s.length < n := by
      apply Nat.lt_of_not_le
      intro hle
      exact hs ⟨by simp [hle], hn⟩
    rw [Nat.mod_eq_of_lt this] at h
    simp [List.eq_nil_of_length_eq_zero h]

end Block

end SmartCard
