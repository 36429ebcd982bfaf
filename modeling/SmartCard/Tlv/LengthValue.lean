import SmartCard.Error

/-!
# Length-value fields

Some commands carry fields without tags: a length byte and the value, one field after the other. A
field has at most 255 bytes, and an empty field is a single zero byte. -/

namespace SmartCard.LengthValue

/-- Appends a field to what was written before. -/
def append (written value : Bytes) : Except Error Bytes :=
  if value.length < 256 then .ok (written ++ value.length.toUInt8 :: value)
  else .error (.protocol (.fieldTooLong value.length))

def encode (fields : List Bytes) : Except Error Bytes := fields.foldlM append []

end SmartCard.LengthValue
