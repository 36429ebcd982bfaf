import SmartCard.Bytes.BigEndian
import SmartCard.Cipher.Basic

/-!
# The Data Encryption Standard

DES (FIPS 46-3) enciphers 64 bit blocks under a 56 bit key. It is a Feistel network: each of sixteen
rounds replaces the halves `(l, r)` by `(r, l ^^^ f k r)`, where the round key `k` is a choice of 48
key bits. The network is written as recursion over the list of round keys (`Des.feistel`), so that
deciphering is the same network over the reversed list; for this no property of the round function
is needed (`Des.feistel_reverse`).

All wiring of the standard is one operation, `Des.wire`: the result lists the bits of its argument
in the order of a table. The tables number bits as the standard does, from 1 for the most
significant bit on. The parity bits of a key are in none of the tables, so they do not matter.
-/

namespace SmartCard.Des

/-- The bits of a `width` bit word in the order of a table of bit numbers, where bit 1 is the most
significant one. -/
def wire (width : Nat) (table : List Nat) (x : UInt64) : UInt64 :=
  table.foldl (fun acc p => acc <<< 1 ||| (x >>> (width - p).toUInt64 &&& 1)) 0

/-! ### Tables -/

def initialPermutation : List Nat :=
  [58, 50, 42, 34, 26, 18, 10, 2, 60, 52, 44, 36, 28, 20, 12, 4,
   62, 54, 46, 38, 30, 22, 14, 6, 64, 56, 48, 40, 32, 24, 16, 8,
   57, 49, 41, 33, 25, 17, 9, 1, 59, 51, 43, 35, 27, 19, 11, 3,
   61, 53, 45, 37, 29, 21, 13, 5, 63, 55, 47, 39, 31, 23, 15, 7]

/-- The final permutation, which undoes the initial one. -/
def finalPermutation : List Nat :=
  [40, 8, 48, 16, 56, 24, 64, 32, 39, 7, 47, 15, 55, 23, 63, 31,
   38, 6, 46, 14, 54, 22, 62, 30, 37, 5, 45, 13, 53, 21, 61, 29,
   36, 4, 44, 12, 52, 20, 60, 28, 35, 3, 43, 11, 51, 19, 59, 27,
   34, 2, 42, 10, 50, 18, 58, 26, 33, 1, 41, 9, 49, 17, 57, 25]

/-- The bits of a half that each round spreads over 48 positions. -/
def expansion : List Nat :=
  [32, 1, 2, 3, 4, 5, 4, 5, 6, 7, 8, 9, 8, 9, 10, 11, 12, 13, 12, 13, 14, 15, 16, 17,
   16, 17, 18, 19, 20, 21, 20, 21, 22, 23, 24, 25, 24, 25, 26, 27, 28, 29, 28, 29, 30, 31, 32, 1]

/-- The permutation that ends a round function. -/
def roundPermutation : List Nat :=
  [16, 7, 20, 21, 29, 12, 28, 17, 1, 15, 23, 26, 5, 18, 31, 10,
   2, 8, 24, 14, 32, 27, 3, 9, 19, 13, 30, 6, 22, 11, 4, 25]

/-- The 56 key bits, left half before right half. -/
def keyChoice : List Nat :=
  [57, 49, 41, 33, 25, 17, 9, 1, 58, 50, 42, 34, 26, 18, 10, 2, 59, 51, 43, 35, 27, 19, 11, 3,
   60, 52, 44, 36, 63, 55, 47, 39, 31, 23, 15, 7, 62, 54, 46, 38, 30, 22, 14, 6, 61, 53, 45, 37,
   29, 21, 13, 5, 28, 20, 12, 4]

/-- The 48 of the 56 rotated key bits that make a round key. -/
def roundKeyChoice : List Nat :=
  [14, 17, 11, 24, 1, 5, 3, 28, 15, 6, 21, 10, 23, 19, 12, 4, 26, 8, 16, 7, 27, 20, 13, 2,
   41, 52, 31, 37, 47, 55, 30, 40, 51, 45, 33, 48, 44, 49, 39, 56, 34, 53, 46, 42, 50, 36, 29, 32]

/-- By how many places the key halves are rotated before each round. -/
def rotations : List UInt32 := [1, 1, 2, 2, 2, 2, 2, 2, 1, 2, 2, 2, 2, 2, 2, 1]

/-- The eight substitution boxes, each row by row. -/
def boxes : List (Array UInt64) :=
  [#[14, 4, 13, 1, 2, 15, 11, 8, 3, 10, 6, 12, 5, 9, 0, 7,
     0, 15, 7, 4, 14, 2, 13, 1, 10, 6, 12, 11, 9, 5, 3, 8,
     4, 1, 14, 8, 13, 6, 2, 11, 15, 12, 9, 7, 3, 10, 5, 0,
     15, 12, 8, 2, 4, 9, 1, 7, 5, 11, 3, 14, 10, 0, 6, 13],
   #[15, 1, 8, 14, 6, 11, 3, 4, 9, 7, 2, 13, 12, 0, 5, 10,
     3, 13, 4, 7, 15, 2, 8, 14, 12, 0, 1, 10, 6, 9, 11, 5,
     0, 14, 7, 11, 10, 4, 13, 1, 5, 8, 12, 6, 9, 3, 2, 15,
     13, 8, 10, 1, 3, 15, 4, 2, 11, 6, 7, 12, 0, 5, 14, 9],
   #[10, 0, 9, 14, 6, 3, 15, 5, 1, 13, 12, 7, 11, 4, 2, 8,
     13, 7, 0, 9, 3, 4, 6, 10, 2, 8, 5, 14, 12, 11, 15, 1,
     13, 6, 4, 9, 8, 15, 3, 0, 11, 1, 2, 12, 5, 10, 14, 7,
     1, 10, 13, 0, 6, 9, 8, 7, 4, 15, 14, 3, 11, 5, 2, 12],
   #[7, 13, 14, 3, 0, 6, 9, 10, 1, 2, 8, 5, 11, 12, 4, 15,
     13, 8, 11, 5, 6, 15, 0, 3, 4, 7, 2, 12, 1, 10, 14, 9,
     10, 6, 9, 0, 12, 11, 7, 13, 15, 1, 3, 14, 5, 2, 8, 4,
     3, 15, 0, 6, 10, 1, 13, 8, 9, 4, 5, 11, 12, 7, 2, 14],
   #[2, 12, 4, 1, 7, 10, 11, 6, 8, 5, 3, 15, 13, 0, 14, 9,
     14, 11, 2, 12, 4, 7, 13, 1, 5, 0, 15, 10, 3, 9, 8, 6,
     4, 2, 1, 11, 10, 13, 7, 8, 15, 9, 12, 5, 6, 3, 0, 14,
     11, 8, 12, 7, 1, 14, 2, 13, 6, 15, 0, 9, 10, 4, 5, 3],
   #[12, 1, 10, 15, 9, 2, 6, 8, 0, 13, 3, 4, 14, 7, 5, 11,
     10, 15, 4, 2, 7, 12, 9, 5, 6, 1, 13, 14, 0, 11, 3, 8,
     9, 14, 15, 5, 2, 8, 12, 3, 7, 0, 4, 10, 1, 13, 11, 6,
     4, 3, 2, 12, 9, 5, 15, 10, 11, 14, 1, 7, 6, 0, 8, 13],
   #[4, 11, 2, 14, 15, 0, 8, 13, 3, 12, 9, 7, 5, 10, 6, 1,
     13, 0, 11, 7, 4, 9, 1, 10, 14, 3, 5, 12, 2, 15, 8, 6,
     1, 4, 11, 13, 12, 3, 7, 14, 10, 15, 6, 8, 0, 5, 9, 2,
     6, 11, 13, 8, 1, 4, 10, 7, 9, 5, 0, 15, 14, 2, 3, 12],
   #[13, 2, 8, 4, 6, 15, 11, 1, 10, 9, 3, 14, 5, 0, 12, 7,
     1, 15, 13, 8, 10, 3, 7, 4, 12, 5, 6, 11, 0, 14, 9, 2,
     7, 11, 4, 1, 9, 12, 14, 2, 0, 6, 10, 13, 15, 3, 5, 8,
     2, 1, 14, 7, 4, 10, 8, 13, 15, 12, 9, 0, 3, 5, 6, 11]]

/-! ### Rounds -/

/-- The box entry for six bits: the outer two choose the row and the inner four the column. -/
def substitute (box : Array UInt64) (six : UInt64) : UInt64 :=
  let row := (six >>> 4 &&& 2) ||| (six &&& 1)
  let column := six >>> 1 &&& 15
  box.getD (row * 16 + column).toNat 0

/-- What the remaining boxes make of the remaining bits, appended to `acc`. -/
def substituteAll (x : UInt64) : List (Array UInt64) → UInt64 → UInt64
  | [], acc => acc
  | box :: rest, acc =>
    let six := x >>> (6 * rest.length.toUInt64) &&& 63
    substituteAll x rest (acc <<< 4 ||| substitute box six)

/-- What one round makes of the right half under a round key. -/
def roundFunction (key : UInt64) (right : UInt32) : UInt32 :=
  let mixed := wire 32 expansion right.toUInt64 ^^^ key
  -- The boxes bring the 48 bits back to 32.
  (wire 32 roundPermutation (substituteAll mixed boxes 0)).toUInt32

/-- The rounds of a Feistel network over a list of round keys. -/
def feistel (f : UInt64 → UInt32 → UInt32) : List UInt64 → UInt32 × UInt32 → UInt32 × UInt32
  | [], halves => halves
  | key :: keys, (left, right) => feistel f keys (right, left ^^^ f key right)

theorem feistel_append (f : UInt64 → UInt32 → UInt32) (ks ls : List UInt64)
    (halves : UInt32 × UInt32) :
    feistel f (ks ++ ls) halves = feistel f ls (feistel f ks halves) := by
  induction ks generalizing halves with
  | nil => rfl
  | cons k ks ih => exact ih _

/-- The network over the reversed keys, entered with exchanged halves, undoes the network. -/
theorem feistel_reverse (f : UInt64 → UInt32 → UInt32) (ks : List UInt64)
    (halves : UInt32 × UInt32) :
    feistel f ks.reverse (feistel f ks halves).swap = halves.swap := by
  induction ks generalizing halves with
  | nil => rfl
  | cons k ks ih =>
    obtain ⟨left, right⟩ := halves
    rw [List.reverse_cons, feistel_append]
    change feistel f [k] (feistel f ks.reverse (feistel f ks (right, left ^^^ f k right)).swap) = _
    rw [ih]
    -- one more round puts the same value on the left half again
    change (right, left ^^^ f k right ^^^ f k right) = (right, left)
    rw [UInt32.xor_assoc, UInt32.xor_self, UInt32.xor_zero]

/-! ### Key schedule -/

def rotate28 (x amount : UInt32) : UInt32 :=
  (x <<< amount ||| x >>> (28 - amount)) &&& 0xFFFFFFF

/-- The round keys from the two key halves, one for each rotation. -/
def schedule : List UInt32 → UInt32 × UInt32 → List UInt64
  | [], _ => []
  | amount :: rest, (left, right) =>
    let left := rotate28 left amount
    let right := rotate28 right amount
    wire 56 roundKeyChoice (left.toUInt64 <<< 28 ||| right.toUInt64) ::
      schedule rest (left, right)

def roundKeys (key : Block 8) : List UInt64 :=
  let chosen := wire 64 keyChoice (BigEndian.toUInt64 key)
  schedule rotations ((chosen >>> 28).toUInt32, chosen.toUInt32 &&& 0xFFFFFFF)

/-! ### The cipher -/

/-- All rounds between the two outer permutations. The halves leave the last round exchanged. -/
def apply (keys : List UInt64) (block : Block 8) : Block 8 :=
  let entered := wire 64 initialPermutation (BigEndian.toUInt64 block)
  let (left, right) :=
    feistel roundFunction keys ((entered >>> 32).toUInt32, entered.toUInt32)
  BigEndian.ofUInt64 (wire 64 finalPermutation (right.toUInt64 <<< 32 ||| left.toUInt64))

def cipher (key : Block 8) : BlockCipher 8 :=
  let keys := roundKeys key
  { encrypt := apply keys, decrypt := apply keys.reverse }

end SmartCard.Des
