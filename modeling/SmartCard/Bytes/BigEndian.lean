import SmartCard.Bytes.Block

/-!
# Numbers as bytes

Lengths, counters and tags are written with the most significant byte first. `ofUInt16`, `ofUInt32`
and `ofUInt64` write a word into a block of its width, and `toNat` reads a byte string of any
length as a number.
-/

namespace SmartCard.BigEndian

/-- A 16 bit word, most significant byte first. -/
def ofUInt16 (w : UInt16) : Block 2 := ⟨[(w >>> 8).toUInt8, w.toUInt8], rfl⟩

/-- A 32 bit word, most significant byte first. -/
def ofUInt32 (w : UInt32) : Block 4 :=
  ⟨[(w >>> 24).toUInt8, (w >>> 16).toUInt8, (w >>> 8).toUInt8, w.toUInt8], rfl⟩

/-- A 64 bit word, most significant byte first. -/
def ofUInt64 (w : UInt64) : Block 8 :=
  ⟨[(w >>> 56).toUInt8, (w >>> 48).toUInt8, (w >>> 40).toUInt8, (w >>> 32).toUInt8,
    (w >>> 24).toUInt8, (w >>> 16).toUInt8, (w >>> 8).toUInt8, w.toUInt8], rfl⟩

def toUInt64 (b : Block 8) : UInt64 :=
  b.toList.foldl (fun acc byte => acc <<< 8 ||| byte.toUInt64) 0

def toNat (s : Bytes) : Nat := s.foldl (fun acc byte => acc * 256 + byte.toNat) 0

end SmartCard.BigEndian
