import SmartCard.Cipher.Sha256
import SmartCard.Error
import SmartCard.Platform.Vocabulary
import SmartCard.Tlv.Ber

/-!
# Load files

A load file carries the code of a package to the card. Its data is one tag-length-value object with
the components of the package in load order (`LoadFile.ofComponents?`), which is sent in numbered
blocks (`LoadFile.blocks`). The type records what `LoadFile.ofData?` checks: the AID of the package
has 5 to 16 bytes, a block has 1 to 247 bytes, and there is data to send. -/

namespace SmartCard

/-- The code of a package, ready to be sent. -/
structure LoadFile where
  aid : Bytes
  data : Bytes
  /-- The number of bytes of a full block. -/
  blockSize : Nat
  /-- The AID has the length of one. -/
  aid_length : 5 ≤ aid.length ∧ aid.length ≤ 16
  /-- A block has data and fits a command with a MAC. -/
  blockSize_range : 0 < blockSize ∧ blockSize ≤ 247
  /-- There is something to send. -/
  data_ne_nil : data ≠ []

/-- One block of a load file. -/
structure LoadBlock where
  number : UInt8
  /-- Whether it is the last block. -/
  last : Bool
  data : Bytes
deriving DecidableEq

/-- What goes along with a load file. -/
structure LoadOptions where
  securityDomain : Bytes := []
  includeHash : Bool := false
  parameters : Bytes := []
  token : Bytes := []
deriving DecidableEq

namespace LoadFile

/-- The longest block: a short command less its MAC. -/
def maxBlockSize : Nat := 247

/-- The block size that leaves room for a MAC and a padding. -/
def defaultBlockSize : Nat := 239

/-- A load file from complete data. The AID is checked first, then the block size, then the data. -/
def ofData? (aid data : Bytes) (blockSize : Nat := defaultBlockSize) : Except Error LoadFile :=
  if haid : 5 ≤ aid.length ∧ aid.length ≤ 16 then
    if hsize : 0 < blockSize ∧ blockSize ≤ 247 then
      if hdata : data ≠ [] then .ok ⟨aid, data, blockSize, haid, hsize, hdata⟩
      else .error (.configuration .emptyLoadFile)
    else .error (.configuration (.loadBlockSize blockSize maxBlockSize))
  else .error (.configuration (.packageAidLength aid.length))

/-- The data block of some components: a header with their length, and the components. -/
def dataBlock (components : List Bytes) : Bytes :=
  let code := components.flatten
  Tag.loadFileDataBlock :: Ber.encodeLength code.length ++ code

/-- A load file from the components of a package in load order. -/
def ofComponents? (aid : Bytes) (components : List Bytes) (blockSize : Nat := defaultBlockSize) :
    Except Error LoadFile :=
  ofData? aid (dataBlock components) blockSize

def size (file : LoadFile) : Nat := file.data.length

def blockCount (file : LoadFile) : Nat := (file.data.length + file.blockSize - 1) / file.blockSize

/-- Cuts data into pieces of `n` bytes and a shorter one at the end, after the pieces already cut,
the last one first. -/
def piecesAfter (pieces : List Bytes) : Nat → Bytes → List Bytes
  | 0, _ => pieces.reverse
  | _, [] => pieces.reverse
  | n + 1, b :: rest => piecesAfter ((b :: rest.take n) :: pieces) (n + 1) (rest.drop n)
termination_by _ data => data.length

/-- The data in pieces of `n` bytes and a shorter one at the end. -/
def pieces (n : Nat) (data : Bytes) : List Bytes := piecesAfter [] n data

/-- The blocks in the order in which they are sent. -/
def blocks (file : LoadFile) : List LoadBlock :=
  let count := file.blockCount
  (pieces file.blockSize file.data).zipIdx.map fun (data, index) =>
    ⟨index.toUInt8, index + 1 == count, data⟩

/-- The hash of the data. -/
def hash (file : LoadFile) : Block 32 := Sha256.digest file.data

end LoadFile

end SmartCard
