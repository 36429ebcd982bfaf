/-!
# Questions to the registry

A card keeps a registry of its applications and load files. GET STATUS asks for one part of it
(`RegistrySubset`) in one of two formats (`RegistryFormat`); SET STATUS changes the life cycle state
of one object (`StatusTarget`). Each choice has a parameter byte. -/

namespace SmartCard

/-- A part of the registry. -/
inductive RegistrySubset
  | issuerSecurityDomain
  | applications
  | loadFiles
  | loadFilesAndModules
deriving DecidableEq, Repr

namespace RegistrySubset

def parameter : RegistrySubset → UInt8
  | issuerSecurityDomain => 0x80
  | applications => 0x40
  | loadFiles => 0x20
  | loadFilesAndModules => 0x10

def text : RegistrySubset → String
  | issuerSecurityDomain => "ISD"
  | applications => "applications"
  | loadFiles => "load files"
  | loadFilesAndModules => "load files and modules"

end RegistrySubset

/-- A format of registry data. -/
inductive RegistryFormat
  | legacy
  /-- One tag-length-value template for each entry. -/
  | tlv
deriving DecidableEq, Repr

namespace RegistryFormat

instance : Inhabited RegistryFormat := ⟨tlv⟩

def parameter : RegistryFormat → UInt8
  | legacy => 0x00
  | tlv => 0x02

def text : RegistryFormat → String
  | legacy => "legacy"
  | tlv => "TLV"

end RegistryFormat

/-- An object whose life cycle state can be changed. -/
inductive StatusTarget
  /-- The issuer security domain, and with it the card. -/
  | issuerSecurityDomain
  | application
  | securityDomainAndApplications
deriving DecidableEq, Repr

namespace StatusTarget

def parameter : StatusTarget → UInt8
  | issuerSecurityDomain => 0x80
  | application => 0x40
  | securityDomainAndApplications => 0x60

def text : StatusTarget → String
  | issuerSecurityDomain => "ISD"
  | application => "application"
  | securityDomainAndApplications => "security domain and applications"

end StatusTarget

end SmartCard
