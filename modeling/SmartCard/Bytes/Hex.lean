import SmartCard.Bytes.Block

/-!
# Hexadecimal text

Byte strings appear in messages and listings as hexadecimal text: two digits a byte, in lower case
(`Hex.lower`) for raw data and in upper case (`Hex.upper`) for identifiers and status words. A
single byte inside a sentence is written `0x1f` (`Hex.byte`).
-/

namespace SmartCard.Hex

def digits (b : UInt8) : List Char :=
  [Nat.digitChar (b.toNat / 16), Nat.digitChar (b.toNat % 16)]

def lower (s : Bytes) : String := String.ofList (s.flatMap digits)

def upper (s : Bytes) : String := String.ofList ((s.flatMap digits).map Char.toUpper)

/-- One byte in a sentence: `0x` and two lower case digits. -/
def byte (b : UInt8) : String := "0x" ++ String.ofList (digits b)

end SmartCard.Hex
