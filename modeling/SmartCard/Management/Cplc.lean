import SmartCard.Error

/-!
# Production data

The card production life cycle data (CPLC) tells who made a card, when and from what. It is 42 bytes
in eighteen fields of two or four bytes (`Cplc.ofBlock`, `Cplc.toBlock`). Cards return it with or
without a header of tag and length (`Cplc.parse`); data that is exactly 42 bytes long is never taken
to have one. -/

namespace SmartCard

/-- The production data of a card. -/
structure Cplc where
  icFabricator : Block 2
  icType : Block 2
  osId : Block 2
  osReleaseDate : Block 2
  osReleaseLevel : Block 2
  icFabricationDate : Block 2
  icSerialNumber : Block 4
  icBatchId : Block 2
  icModuleFabricator : Block 2
  icModulePackagingDate : Block 2
  iccManufacturer : Block 2
  icEmbeddingDate : Block 2
  icPrePersonalizer : Block 2
  icPrePersonalizationDate : Block 2
  icPrePersonalizationEquipment : Block 4
  icPersonalizer : Block 2
  icPersonalizationDate : Block 2
  icPersonalizationEquipment : Block 4
deriving DecidableEq

namespace Cplc

def length : Nat := 42

def ofBlock (b : Block 42) : Cplc where
  icFabricator := b.slice 0 2
  icType := b.slice 2 2
  osId := b.slice 4 2
  osReleaseDate := b.slice 6 2
  osReleaseLevel := b.slice 8 2
  icFabricationDate := b.slice 10 2
  icSerialNumber := b.slice 12 4
  icBatchId := b.slice 16 2
  icModuleFabricator := b.slice 18 2
  icModulePackagingDate := b.slice 20 2
  iccManufacturer := b.slice 22 2
  icEmbeddingDate := b.slice 24 2
  icPrePersonalizer := b.slice 26 2
  icPrePersonalizationDate := b.slice 28 2
  icPrePersonalizationEquipment := b.slice 30 4
  icPersonalizer := b.slice 34 2
  icPersonalizationDate := b.slice 36 2
  icPersonalizationEquipment := b.slice 38 4

def fields (c : Cplc) : List Bytes :=
  [c.icFabricator.toList, c.icType.toList, c.osId.toList, c.osReleaseDate.toList,
    c.osReleaseLevel.toList, c.icFabricationDate.toList, c.icSerialNumber.toList,
    c.icBatchId.toList, c.icModuleFabricator.toList, c.icModulePackagingDate.toList,
    c.iccManufacturer.toList, c.icEmbeddingDate.toList, c.icPrePersonalizer.toList,
    c.icPrePersonalizationDate.toList, c.icPrePersonalizationEquipment.toList,
    c.icPersonalizer.toList, c.icPersonalizationDate.toList, c.icPersonalizationEquipment.toList]

def toBlock (c : Cplc) : Block 42 := ⟨c.fields.flatten, by simp [fields]⟩

/-- The data after a header of tag and length, or all of it when there is no header. -/
def withoutHeader (s : Bytes) : Except Error Bytes :=
  match s with
  | 0x9F :: 0x7F :: announced :: value =>
    -- A fabricator may be numbered `9F7F`, so data of the full length are taken as they are.
    if s.length = length then .ok s
    else if announced.toNat = value.length then .ok value
    else .error (.protocol (.cplcHeaderLength announced.toNat value.length))
  | _ => .ok s

/-- Reads production data with or without a header. -/
def parse (s : Bytes) : Except Error Cplc := do
  let value ← withoutHeader s
  match Block.ofList? 42 value with
  | some b => return ofBlock b
  | none => throw (.protocol (.cplcLength value.length))

def text (c : Cplc) : String :=
  "IC fabricator " ++ Hex.upper c.icFabricator.toList ++ ", IC type " ++
    Hex.upper c.icType.toList ++ ", OS " ++ Hex.upper c.osId.toList ++ " (release " ++
    Hex.upper c.osReleaseLevel.toList ++ "), IC serial " ++ Hex.upper c.icSerialNumber.toList

end Cplc

end SmartCard
