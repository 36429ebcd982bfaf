import SmartCard.Bytes.BigEndian
import SmartCard.Tlv.Fault

/-!
# SIMPLE-TLV

SIMPLE-TLV objects (ISO/IEC 7816-4) have a tag of one byte, which is neither `00` nor `FF`, and a
length of one byte below 255 or of `FF` and two bytes. The commands for the card write their fields
as such objects (`SimpleTlv.encode`). -/

namespace SmartCard.SimpleTlv

/-- The length field for a value of `n` bytes. -/
def length (n : Nat) : Bytes :=
  if n < 255 then [n.toUInt8] else 0xFF :: (BigEndian.ofUInt16 n.toUInt16).toList

/-- One object: tag, length and value. The tag is checked first, and a value may have at most 65536
bytes. -/
def encode (tag : UInt8) (value : Bytes) : Except TlvFault Bytes :=
  if tag = 0x00 ∨ tag = 0xFF then .error .invalidTag
  else if 65536 < value.length then .error .invalidLength
  else .ok (tag :: length value.length ++ value)

end SmartCard.SimpleTlv
