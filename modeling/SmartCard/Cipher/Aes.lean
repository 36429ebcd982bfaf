import SmartCard.Cipher.Basic
import SmartCard.Cipher.Padding

/-!
# The Advanced Encryption Standard

AES with 128 bit keys (FIPS 197). The state is four columns of four bytes (`Aes.Word`, `Aes.State`),
and a round is a substitution of every byte, a rotation of the rows, a linear map on every column
and the addition of a round key. A round key has the shape of a state, and each one follows from the
one before it (`Aes.nextRoundKey`).

Each step stands beside its inverse: `substitute` and `unsubstitute`, `shiftRows` and
`unshiftRows`, `mixColumn` and `unmixColumn`.

The functions on byte strings check the data first and the secret second.
-/

namespace SmartCard.Aes

/-- Four bytes, the one of the first row first: a column of the state or a word of the key
schedule. -/
structure Word where
  b0 : UInt8
  b1 : UInt8
  b2 : UInt8
  b3 : UInt8
deriving DecidableEq

/-- Four columns. -/
structure State where
  c0 : Word
  c1 : Word
  c2 : Word
  c3 : Word
deriving DecidableEq

def Word.map (f : UInt8 → UInt8) (w : Word) : Word := ⟨f w.b0, f w.b1, f w.b2, f w.b3⟩

def State.map (f : Word → Word) (s : State) : State := ⟨f s.c0, f s.c1, f s.c2, f s.c3⟩

instance : XorOp Word :=
  ⟨fun v w => ⟨v.b0 ^^^ w.b0, v.b1 ^^^ w.b1, v.b2 ^^^ w.b2, v.b3 ^^^ w.b3⟩⟩

instance : XorOp State :=
  ⟨fun s t => ⟨s.c0 ^^^ t.c0, s.c1 ^^^ t.c1, s.c2 ^^^ t.c2, s.c3 ^^^ t.c3⟩⟩

def State.ofBlock (b : Block 16) : State :=
  ⟨⟨b[0], b[1], b[2], b[3]⟩, ⟨b[4], b[5], b[6], b[7]⟩,
    ⟨b[8], b[9], b[10], b[11]⟩, ⟨b[12], b[13], b[14], b[15]⟩⟩

def State.toBlock (s : State) : Block 16 :=
  ⟨[s.c0.b0, s.c0.b1, s.c0.b2, s.c0.b3, s.c1.b0, s.c1.b1, s.c1.b2, s.c1.b3,
    s.c2.b0, s.c2.b1, s.c2.b2, s.c2.b3, s.c3.b0, s.c3.b1, s.c3.b2, s.c3.b3], rfl⟩

/-! ### Substitution -/

def box : Array UInt8 :=
  #[0x63, 0x7c, 0x77, 0x7b, 0xf2, 0x6b, 0x6f, 0xc5, 0x30, 0x01, 0x67, 0x2b, 0xfe, 0xd7, 0xab, 0x76,
    0xca, 0x82, 0xc9, 0x7d, 0xfa, 0x59, 0x47, 0xf0, 0xad, 0xd4, 0xa2, 0xaf, 0x9c, 0xa4, 0x72, 0xc0,
    0xb7, 0xfd, 0x93, 0x26, 0x36, 0x3f, 0xf7, 0xcc, 0x34, 0xa5, 0xe5, 0xf1, 0x71, 0xd8, 0x31, 0x15,
    0x04, 0xc7, 0x23, 0xc3, 0x18, 0x96, 0x05, 0x9a, 0x07, 0x12, 0x80, 0xe2, 0xeb, 0x27, 0xb2, 0x75,
    0x09, 0x83, 0x2c, 0x1a, 0x1b, 0x6e, 0x5a, 0xa0, 0x52, 0x3b, 0xd6, 0xb3, 0x29, 0xe3, 0x2f, 0x84,
    0x53, 0xd1, 0x00, 0xed, 0x20, 0xfc, 0xb1, 0x5b, 0x6a, 0xcb, 0xbe, 0x39, 0x4a, 0x4c, 0x58, 0xcf,
    0xd0, 0xef, 0xaa, 0xfb, 0x43, 0x4d, 0x33, 0x85, 0x45, 0xf9, 0x02, 0x7f, 0x50, 0x3c, 0x9f, 0xa8,
    0x51, 0xa3, 0x40, 0x8f, 0x92, 0x9d, 0x38, 0xf5, 0xbc, 0xb6, 0xda, 0x21, 0x10, 0xff, 0xf3, 0xd2,
    0xcd, 0x0c, 0x13, 0xec, 0x5f, 0x97, 0x44, 0x17, 0xc4, 0xa7, 0x7e, 0x3d, 0x64, 0x5d, 0x19, 0x73,
    0x60, 0x81, 0x4f, 0xdc, 0x22, 0x2a, 0x90, 0x88, 0x46, 0xee, 0xb8, 0x14, 0xde, 0x5e, 0x0b, 0xdb,
    0xe0, 0x32, 0x3a, 0x0a, 0x49, 0x06, 0x24, 0x5c, 0xc2, 0xd3, 0xac, 0x62, 0x91, 0x95, 0xe4, 0x79,
    0xe7, 0xc8, 0x37, 0x6d, 0x8d, 0xd5, 0x4e, 0xa9, 0x6c, 0x56, 0xf4, 0xea, 0x65, 0x7a, 0xae, 0x08,
    0xba, 0x78, 0x25, 0x2e, 0x1c, 0xa6, 0xb4, 0xc6, 0xe8, 0xdd, 0x74, 0x1f, 0x4b, 0xbd, 0x8b, 0x8a,
    0x70, 0x3e, 0xb5, 0x66, 0x48, 0x03, 0xf6, 0x0e, 0x61, 0x35, 0x57, 0xb9, 0x86, 0xc1, 0x1d, 0x9e,
    0xe1, 0xf8, 0x98, 0x11, 0x69, 0xd9, 0x8e, 0x94, 0x9b, 0x1e, 0x87, 0xe9, 0xce, 0x55, 0x28, 0xdf,
    0x8c, 0xa1, 0x89, 0x0d, 0xbf, 0xe6, 0x42, 0x68, 0x41, 0x99, 0x2d, 0x0f, 0xb0, 0x54, 0xbb, 0x16]

def inverseBox : Array UInt8 :=
  #[0x52, 0x09, 0x6a, 0xd5, 0x30, 0x36, 0xa5, 0x38, 0xbf, 0x40, 0xa3, 0x9e, 0x81, 0xf3, 0xd7, 0xfb,
    0x7c, 0xe3, 0x39, 0x82, 0x9b, 0x2f, 0xff, 0x87, 0x34, 0x8e, 0x43, 0x44, 0xc4, 0xde, 0xe9, 0xcb,
    0x54, 0x7b, 0x94, 0x32, 0xa6, 0xc2, 0x23, 0x3d, 0xee, 0x4c, 0x95, 0x0b, 0x42, 0xfa, 0xc3, 0x4e,
    0x08, 0x2e, 0xa1, 0x66, 0x28, 0xd9, 0x24, 0xb2, 0x76, 0x5b, 0xa2, 0x49, 0x6d, 0x8b, 0xd1, 0x25,
    0x72, 0xf8, 0xf6, 0x64, 0x86, 0x68, 0x98, 0x16, 0xd4, 0xa4, 0x5c, 0xcc, 0x5d, 0x65, 0xb6, 0x92,
    0x6c, 0x70, 0x48, 0x50, 0xfd, 0xed, 0xb9, 0xda, 0x5e, 0x15, 0x46, 0x57, 0xa7, 0x8d, 0x9d, 0x84,
    0x90, 0xd8, 0xab, 0x00, 0x8c, 0xbc, 0xd3, 0x0a, 0xf7, 0xe4, 0x58, 0x05, 0xb8, 0xb3, 0x45, 0x06,
    0xd0, 0x2c, 0x1e, 0x8f, 0xca, 0x3f, 0x0f, 0x02, 0xc1, 0xaf, 0xbd, 0x03, 0x01, 0x13, 0x8a, 0x6b,
    0x3a, 0x91, 0x11, 0x41, 0x4f, 0x67, 0xdc, 0xea, 0x97, 0xf2, 0xcf, 0xce, 0xf0, 0xb4, 0xe6, 0x73,
    0x96, 0xac, 0x74, 0x22, 0xe7, 0xad, 0x35, 0x85, 0xe2, 0xf9, 0x37, 0xe8, 0x1c, 0x75, 0xdf, 0x6e,
    0x47, 0xf1, 0x1a, 0x71, 0x1d, 0x29, 0xc5, 0x89, 0x6f, 0xb7, 0x62, 0x0e, 0xaa, 0x18, 0xbe, 0x1b,
    0xfc, 0x56, 0x3e, 0x4b, 0xc6, 0xd2, 0x79, 0x20, 0x9a, 0xdb, 0xc0, 0xfe, 0x78, 0xcd, 0x5a, 0xf4,
    0x1f, 0xdd, 0xa8, 0x33, 0x88, 0x07, 0xc7, 0x31, 0xb1, 0x12, 0x10, 0x59, 0x27, 0x80, 0xec, 0x5f,
    0x60, 0x51, 0x7f, 0xa9, 0x19, 0xb5, 0x4a, 0x0d, 0x2d, 0xe5, 0x7a, 0x9f, 0x93, 0xc9, 0x9c, 0xef,
    0xa0, 0xe0, 0x3b, 0x4d, 0xae, 0x2a, 0xf5, 0xb0, 0xc8, 0xeb, 0xbb, 0x3c, 0x83, 0x53, 0x99, 0x61,
    0x17, 0x2b, 0x04, 0x7e, 0xba, 0x77, 0xd6, 0x26, 0xe1, 0x69, 0x14, 0x63, 0x55, 0x21, 0x0c, 0x7d]

def substitute (b : UInt8) : UInt8 := box.getD b.toNat 0

def unsubstitute (b : UInt8) : UInt8 := inverseBox.getD b.toNat 0

/-! ### Rows -/

/-- Rotates row `i` to the left by `i` places. -/
def shiftRows (s : State) : State :=
  ⟨⟨s.c0.b0, s.c1.b1, s.c2.b2, s.c3.b3⟩, ⟨s.c1.b0, s.c2.b1, s.c3.b2, s.c0.b3⟩,
    ⟨s.c2.b0, s.c3.b1, s.c0.b2, s.c1.b3⟩, ⟨s.c3.b0, s.c0.b1, s.c1.b2, s.c2.b3⟩⟩

/-- Rotates row `i` to the right by `i` places. -/
def unshiftRows (s : State) : State :=
  ⟨⟨s.c0.b0, s.c3.b1, s.c2.b2, s.c1.b3⟩, ⟨s.c1.b0, s.c0.b1, s.c3.b2, s.c2.b3⟩,
    ⟨s.c2.b0, s.c1.b1, s.c0.b2, s.c3.b3⟩, ⟨s.c3.b0, s.c2.b1, s.c1.b2, s.c0.b3⟩⟩

@[simp] theorem unshiftRows_shiftRows (s : State) : unshiftRows (shiftRows s) = s := rfl

@[simp] theorem shiftRows_unshiftRows (s : State) : shiftRows (unshiftRows s) = s := rfl

/-! ### Columns -/

/-- Doubles a byte in the field of the standard. -/
def double (b : UInt8) : UInt8 := if b &&& 0x80 = 0 then b <<< 1 else b <<< 1 ^^^ 0x1b

/-- The column map: each byte is twice its own, three times the next and once each of the others. -/
def mixColumn (w : Word) : Word :=
  let d := w.map double
  ⟨d.b0 ^^^ d.b1 ^^^ w.b1 ^^^ w.b2 ^^^ w.b3, d.b1 ^^^ d.b2 ^^^ w.b2 ^^^ w.b3 ^^^ w.b0,
    d.b2 ^^^ d.b3 ^^^ w.b3 ^^^ w.b0 ^^^ w.b1, d.b3 ^^^ d.b0 ^^^ w.b0 ^^^ w.b1 ^^^ w.b2⟩

/-- Adds to each byte four times the sum of itself and its opposite, which turns `mixColumn` into
its own inverse. -/
def spread (w : Word) : Word :=
  let even := double (double (w.b0 ^^^ w.b2))
  let odd := double (double (w.b1 ^^^ w.b3))
  ⟨w.b0 ^^^ even, w.b1 ^^^ odd, w.b2 ^^^ even, w.b3 ^^^ odd⟩

def unmixColumn (w : Word) : Word := mixColumn (spread w)

/-! ### Round keys -/

/-- The round key after a round key; `constant` tells the rounds apart. -/
def nextRoundKey (key : State) (constant : UInt8) : State :=
  let turned : Word := ⟨key.c3.b1, key.c3.b2, key.c3.b3, key.c3.b0⟩
  let c0 := key.c0 ^^^ (turned.map substitute ^^^ ⟨constant, 0, 0, 0⟩)
  let c1 := key.c1 ^^^ c0
  let c2 := key.c2 ^^^ c1
  let c3 := key.c3 ^^^ c2
  ⟨c0, c1, c2, c3⟩

/-- The round keys after `key`, one for each constant. -/
def schedule (key : State) : List UInt8 → List State
  | [] => []
  | constant :: rest =>
    let next := nextRoundKey key constant
    next :: schedule next rest

def innerConstants : List UInt8 := [0x01, 0x02, 0x04, 0x08, 0x10, 0x20, 0x40, 0x80, 0x1b]

def lastConstant : UInt8 := 0x36

/-- The round keys of a key: the key itself, those of the inner rounds, and the last one. -/
structure RoundKeys where
  first : State
  inner : List State
  last : State

def RoundKeys.ofKey (key : Block 16) : RoundKeys :=
  let first := State.ofBlock key
  let inner := schedule first innerConstants
  ⟨first, inner, nextRoundKey (inner.getLastD first) lastConstant⟩

/-! ### The cipher -/

def round (state key : State) : State :=
  (shiftRows (state.map (Word.map substitute))).map mixColumn ^^^ key

def unround (state key : State) : State :=
  (unshiftRows ((state ^^^ key).map unmixColumn)).map (Word.map unsubstitute)

/-- Enciphers a state; the last round leaves the columns unmixed. -/
def encryptState (keys : RoundKeys) (s : State) : State :=
  let s := keys.inner.foldl round (s ^^^ keys.first)
  shiftRows (s.map (Word.map substitute)) ^^^ keys.last

def decryptState (keys : RoundKeys) (s : State) : State :=
  let s := (unshiftRows (s ^^^ keys.last)).map (Word.map unsubstitute)
  keys.inner.reverse.foldl unround s ^^^ keys.first

def cipher (key : Block 16) : BlockCipher 16 :=
  let keys := RoundKeys.ofKey key
  { encrypt := fun b => (encryptState keys (State.ofBlock b)).toBlock
    decrypt := fun b => (decryptState keys (State.ofBlock b)).toBlock }

def ofSecret (secret : Bytes) : Except CipherFault (BlockCipher 16) :=
  match Block.ofList? 16 secret with
  | some key => .ok (cipher key)
  | none => .error .aesKeyLength

def encryptBlock (secret : Bytes) (block : Block 16) : Except CipherFault (Block 16) := do
  let c ← ofSecret secret
  return c.encrypt block

def cbcEncrypt (secret : Bytes) (iv : Block 16) (data : Bytes) : Except CipherFault Bytes := do
  let blocks ← Padding.aligned 16 data
  let c ← ofSecret secret
  return Block.join (c.cbcEncrypt iv blocks)

def cbcDecrypt (secret : Bytes) (iv : Block 16) (data : Bytes) : Except CipherFault Bytes := do
  let blocks ← Padding.aligned 16 data
  let c ← ofSecret secret
  return Block.join (c.cbcDecrypt iv blocks)

end SmartCard.Aes
