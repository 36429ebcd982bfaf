import SmartCard.Bytes.Block
import SmartCard.Apdu.LinkError

/-!
# Commands

A short command (ISO/IEC 7816-4) has four header bytes, an optional data field of up to 255 bytes
and an optional expected length. `Command.encode` writes the bytes for the card and `Command.decode`
reads them; every command whose data field is absent or has 1 to 255 bytes is read back as it was
written.

A data field that is longer is kept as it is and refused only when the command is to be sent
(`Command.validate`). An empty data field can be held, but not be set: `Command.withData` leaves it
out.
-/

namespace SmartCard

/-- A short command. -/
structure Command where
  cla : UInt8
  ins : UInt8
  p1 : UInt8
  p2 : UInt8
  data : Option Bytes := none
  /-- The expected length of the answer; zero asks for up to 256 bytes. -/
  le : Option UInt8 := none
deriving DecidableEq

namespace Command

/-- The longest data field of a short command. -/
def maxData : Nat := 255

/-- Sets the data field; an empty one is left out. -/
def withData (c : Command) (data : Bytes) : Command :=
  { c with data := if data.isEmpty then none else some data }

def withLe (c : Command) (le : UInt8) : Command := { c with le := some le }

def withClass (c : Command) (cla : UInt8) : Command := { c with cla := cla }

/-- The data field, empty when there is none. -/
def dataBytes (c : Command) : Bytes := c.data.getD []

def header (c : Command) : Bytes := [c.cla, c.ins, c.p1, c.p2]

/-- The bytes for the card: header, length and data, and the expected length. -/
def encode (c : Command) : Bytes :=
  c.header ++ (c.data.elim [] fun data => data.length.toUInt8 :: data) ++ c.le.toList

/-- The number of bytes that `encode` writes. -/
def encodedLength (c : Command) : Nat :=
  4 + (c.data.elim 0 fun data => 1 + data.length) + c.le.toList.length

/-- Refuses a data field that is too long for a short command. -/
def validate (c : Command) : Except LinkError Unit :=
  if maxData < c.dataBytes.length then .error (.commandTooLong c.dataBytes.length) else .ok ()

/-- Reads the bytes after the header into a command. -/
def decodeBody (c : Command) : Bytes → Except LinkError Command
  | [] => .ok c
  | [le] => .ok (c.withLe le)
  | length :: body =>
    -- A length of zero announces the extended form, which short commands do not have.
    if length = 0 then .error (.parse .zeroLengthWithData)
    else
      let data := body.take length.toNat
      if data.length < length.toNat then .error (.parse .lengthMismatch)
      else
        match body.drop length.toNat with
        | [] => .ok (c.withData data)
        | [le] => .ok ((c.withData data).withLe le)
        | _ => .error (.parse .lengthMismatch)

/-- Reads a command: a header, alone or with an expected length, a data field, or both. -/
def decode : Bytes → Except LinkError Command
  | cla :: ins :: p1 :: p2 :: body => decodeBody ⟨cla, ins, p1, p2, none, none⟩ body
  | _ => .error (.parse .commandWithoutHeader)

@[simp] theorem length_encode (c : Command) : c.encode.length = c.encodedLength := by
  unfold encode encodedLength header
  cases c.data <;> simp <;> omega

end Command

end SmartCard
