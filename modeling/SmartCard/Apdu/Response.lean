import SmartCard.Apdu.LinkError
import SmartCard.Apdu.StatusWord

/-!
# Answers

An answer of the card is a payload and a status word. `Response.encode` writes the payload followed
by the two status bytes, and `Response.decode` reads any byte string that has them. -/

namespace SmartCard

/-- An answer of the card. -/
structure Response where
  payload : Bytes
  status : StatusWord
deriving DecidableEq

namespace Response

def success (payload : Bytes) : Response := ⟨payload, .success⟩

def statusOnly (status : StatusWord) : Response := ⟨[], status⟩

def isSuccess (r : Response) : Bool := r.status.isSuccess

/-- The payload followed by the status bytes. -/
def encode (r : Response) : Bytes := r.payload ++ r.status.toBytes

/-- Reads an answer: the last two bytes are the status word. -/
def decode (s : Bytes) : Except LinkError Response :=
  match s.reverse with
  | sw2 :: sw1 :: payload => .ok ⟨payload.reverse, ⟨sw1, sw2⟩⟩
  | _ => .error (.parse .responseWithoutStatus)

@[simp] theorem decode_encode (r : Response) : decode r.encode = .ok r := by
  simp [decode, encode, StatusWord.toBytes]

end Response

end SmartCard
