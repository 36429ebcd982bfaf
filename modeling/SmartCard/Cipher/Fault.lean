/-!
# What a cipher refuses

The ciphers themselves are defined on blocks and cannot fail. What can fail is the way into them: a
secret of the wrong length, data that is not a whole number of blocks, a padding that is none.
-/

namespace SmartCard

/-- Why a byte string cannot be used with a cipher. -/
inductive CipherFault
  | unaligned
  | tripleDesKeyLength
  | aesKeyLength
  | macKeyLength
  | padding
deriving DecidableEq, Repr

def CipherFault.message : CipherFault → String
  | unaligned => "data is not block aligned"
  | tripleDesKeyLength => "triple DES key must be 8, 16 or 24 bytes"
  | aesKeyLength => "AES key must be 16 bytes"
  | macKeyLength => "MAC key too short"
  | padding => "invalid ISO 7816-4 padding"

end SmartCard
