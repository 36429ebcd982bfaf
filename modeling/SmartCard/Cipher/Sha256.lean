import SmartCard.Bytes.BigEndian

/-!
# SHA-256

The secure hash of FIPS 180-4 with 256 bit results. The message is padded to whole 64 byte blocks
with its length at the end, and each block is mixed into eight working words.

The sixteen most recent words of the message schedule are kept as a list (`Sha256.rounds`): each
round takes the oldest one and appends the word that follows from four of them.
-/

namespace SmartCard.Sha256

/-- The eight working words. -/
structure State where
  a : UInt32
  b : UInt32
  c : UInt32
  d : UInt32
  e : UInt32
  f : UInt32
  g : UInt32
  h : UInt32
deriving DecidableEq

/-- The working words before the first block. -/
def start : State :=
  ⟨0x6a09e667, 0xbb67ae85, 0x3c6ef372, 0xa54ff53a, 0x510e527f, 0x9b05688c, 0x1f83d9ab, 0x5be0cd19⟩

def constants : List UInt32 :=
  [0x428a2f98, 0x71374491, 0xb5c0fbcf, 0xe9b5dba5, 0x3956c25b, 0x59f111f1, 0x923f82a4, 0xab1c5ed5,
   0xd807aa98, 0x12835b01, 0x243185be, 0x550c7dc3, 0x72be5d74, 0x80deb1fe, 0x9bdc06a7, 0xc19bf174,
   0xe49b69c1, 0xefbe4786, 0x0fc19dc6, 0x240ca1cc, 0x2de92c6f, 0x4a7484aa, 0x5cb0a9dc, 0x76f988da,
   0x983e5152, 0xa831c66d, 0xb00327c8, 0xbf597fc7, 0xc6e00bf3, 0xd5a79147, 0x06ca6351, 0x14292967,
   0x27b70a85, 0x2e1b2138, 0x4d2c6dfc, 0x53380d13, 0x650a7354, 0x766a0abb, 0x81c2c92e, 0x92722c85,
   0xa2bfe8a1, 0xa81a664b, 0xc24b8b70, 0xc76c51a3, 0xd192e819, 0xd6990624, 0xf40e3585, 0x106aa070,
   0x19a4c116, 0x1e376c08, 0x2748774c, 0x34b0bcb5, 0x391c0cb3, 0x4ed8aa4a, 0x5b9cca4f, 0x682e6ff3,
   0x748f82ee, 0x78a5636f, 0x84c87814, 0x8cc70208, 0x90befffa, 0xa4506ceb, 0xbef9a3f7, 0xc67178f2]

def rotate (x amount : UInt32) : UInt32 := x >>> amount ||| x <<< (32 - amount)

/-- One round with a constant and a word of the schedule. -/
def round (s : State) (constant word : UInt32) : State :=
  let mixE := rotate s.e 6 ^^^ rotate s.e 11 ^^^ rotate s.e 25
  let choice := (s.e &&& s.f) ^^^ (~~~s.e &&& s.g)
  let t1 := s.h + mixE + choice + constant + word
  let mixA := rotate s.a 2 ^^^ rotate s.a 13 ^^^ rotate s.a 22
  let majority := (s.a &&& s.b) ^^^ (s.a &&& s.c) ^^^ (s.b &&& s.c)
  ⟨t1 + (mixA + majority), s.a, s.b, s.c, s.d + t1, s.e, s.f, s.g⟩

/-- The schedule word after sixteen words, from four of them. -/
def nextWord (w0 w1 w9 w14 : UInt32) : UInt32 :=
  (rotate w14 17 ^^^ rotate w14 19 ^^^ w14 >>> 10) + w9 +
    (rotate w1 7 ^^^ rotate w1 18 ^^^ w1 >>> 3) + w0

/-- The rounds over the remaining constants, with the sixteen most recent words of the schedule. -/
def rounds : List UInt32 → List UInt32 → State → State
  | [], _, s => s
  | _, [], s => s
  | constant :: constants, word :: words, s =>
    let next := nextWord word (words.getD 0 0) (words.getD 8 0) (words.getD 13 0)
    rounds constants (words ++ [next]) (round s constant word)

def wordsOf : Bytes → List UInt32
  | b0 :: b1 :: b2 :: b3 :: rest =>
    (b0.toUInt32 <<< 24 ||| b1.toUInt32 <<< 16 ||| b2.toUInt32 <<< 8 ||| b3.toUInt32) ::
      wordsOf rest
  | _ => []

def compress (s : State) (block : Block 64) : State :=
  let t := rounds constants (wordsOf block.toList) s
  ⟨s.a + t.a, s.b + t.b, s.c + t.c, s.d + t.d, s.e + t.e, s.f + t.f, s.g + t.g, s.h + t.h⟩

/-- The message, one byte `80`, zeros, and the length of the message in bits at the end of the last
block. -/
def pad (message : Bytes) : Bytes :=
  -- 9 bytes besides the message and the zeros: with them the sum is a multiple of 64.
  message ++ 0x80 :: List.replicate ((119 - message.length % 64) % 64) 0 ++
    (BigEndian.ofUInt64 (8 * message.length).toUInt64).toList

def State.toBlock (s : State) : Block 32 :=
  let w := BigEndian.ofUInt32
  (((((((w s.a).append (w s.b)).append (w s.c)).append (w s.d)).append (w s.e)).append
    (w s.f)).append (w s.g)).append (w s.h)

def digest (message : Bytes) : Block 32 :=
  ((Block.split 64 (pad message)).foldl compress start).toBlock

end SmartCard.Sha256
