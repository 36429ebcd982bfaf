/-!
# What a TLV reader refuses

The names of the faults are part of the error messages (`TlvFault.name`).
-/

namespace SmartCard

/-- Why a tag-length-value object cannot be read or written. -/
inductive TlvFault
  /-- The data ends inside an object. -/
  | truncated
  | invalidTag
  /-- A length that the encoding does not allow. -/
  | invalidLength
  /-- A tag of more than three bytes, which is reserved for future use. -/
  | reservedTag
  /-- The parts of a constructed object do not add up to its length. -/
  | inconsistent
deriving DecidableEq, Repr

def TlvFault.name : TlvFault → String
  | truncated => "TruncatedInput"
  | invalidTag => "InvalidInput"
  | invalidLength => "InvalidLength"
  | reservedTag => "TagIsRFU"
  | inconsistent => "Inconsistant"

end SmartCard
