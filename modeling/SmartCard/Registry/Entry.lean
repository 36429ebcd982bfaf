import SmartCard.Bytes.Hex

/-!
# Registry entries

A registry entry names an object on the card with its life cycle state and privileges. Applications
also name their load file and security domain, and load files their modules and version. -/

namespace SmartCard

/-- What a card tells about an object. -/
structure RegistryEntry where
  aid : Bytes
  lifeCycle : UInt8 := 0
  /-- The privileges; load files have none. -/
  privileges : Bytes := []
  loadFile : Option Bytes := none
  modules : List Bytes := []
  version : Option Bytes := none
  /-- The security domain that the object belongs to. -/
  securityDomain : Option Bytes := none
deriving DecidableEq

namespace RegistryEntry

def text (entry : RegistryEntry) : String :=
  Hex.upper entry.aid ++ " (lifecycle " ++ Hex.byte entry.lifeCycle ++
    (if entry.privileges.isEmpty then "" else ", privileges " ++ Hex.upper entry.privileges) ++ ")"

end RegistryEntry

end SmartCard
