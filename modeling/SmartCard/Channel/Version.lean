/-!
# Secure channel protocols

Cards offer one of three protocols, which they announce by a number (`ScpVersion.ofId?`). Each has
options in a parameter byte. SCP03 cards report that byte; for SCP01 and SCP02 the host has to know
it, and `ScpVersion.defaultParameters` is what it assumes. -/

namespace SmartCard

/-- A secure channel protocol. -/
inductive ScpVersion
  /-- Static triple DES keys, and a MAC that is triple DES throughout. -/
  | scp01
  /-- Triple DES session keys, and a MAC that ends in triple DES. -/
  | scp02
  | scp03
deriving DecidableEq, Repr

namespace ScpVersion

def ofId? (id : UInt8) : Option ScpVersion :=
  match id with
  | 1 => some scp01
  | 2 => some scp02
  | 3 => some scp03
  | _ => none

def id : ScpVersion → UInt8
  | scp01 => 1
  | scp02 => 2
  | scp03 => 3

/-- The parameter byte that is assumed when none is known. -/
def defaultParameters : ScpVersion → UInt8
  | scp01 => 0x05
  | scp02 => 0x55
  | scp03 => 0x00

def text : ScpVersion → String
  | scp01 => "SCP01"
  | scp02 => "SCP02"
  | scp03 => "SCP03"

@[simp] theorem ofId?_id (version : ScpVersion) : ofId? version.id = some version := by
  cases version <;> rfl

end ScpVersion

end SmartCard
