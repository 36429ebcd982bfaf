import SmartCard.Error
import SmartCard.Registry.Entry
import SmartCard.Tlv.Ber

/-!
# Registry data in templates

In the format of current cards, registry data is one tag-length-value template for each entry
(`RegistryEntry.parseTlv`). The fields of a template come in any order, a repeated field replaces
the earlier one, modules add up, and objects that are no field are passed over. A template is read
by taking one object after the other into a draft (`RegistryEntry.Draft`). -/

namespace SmartCard.RegistryEntry

/-- The fields of an entry that were read so far. -/
structure Draft where
  /-- The identifier, once it was read. -/
  aid : Option Bytes := none
  fields : RegistryEntry := { aid := [] }

/-- Takes one object of a template into the draft. -/
def Draft.take (draft : Draft) (object : Ber.Object) : Except Error Draft :=
  match object.value? with
  -- A field is a value; objects with objects inside are none.
  | none => .ok draft
  | some value =>
    match object.tag with
    | [0x4F] => .ok { draft with aid := some value }
    | [0x9F, 0x70] =>
      match value.head? with
      | some state => .ok { draft with fields := { draft.fields with lifeCycle := state } }
      | none => .error (.protocol .emptyLifeCycle)
    | [0xC5] => .ok { draft with fields := { draft.fields with privileges := value } }
    | [0xC4] => .ok { draft with fields := { draft.fields with loadFile := some value } }
    | [0x84] =>
      .ok { draft with fields := { draft.fields with modules := draft.fields.modules ++ [value] } }
    | [0xCE] => .ok { draft with fields := { draft.fields with version := some value } }
    | [0xCC] => .ok { draft with fields := { draft.fields with securityDomain := some value } }
    | _ => .ok draft

/-- The entry of a draft, which needs an identifier. -/
def Draft.finish (draft : Draft) : Except Error RegistryEntry :=
  match draft.aid with
  | some aid => .ok { draft.fields with aid }
  | none => .error (.protocol .entryWithoutAid)

def ofParts (parts : List Ber.Object) : Except Error RegistryEntry := do
  (← parts.foldlM Draft.take {}).finish

/-- Whether an object is the template of an entry; older cards use a tag of their own. -/
def isTemplate (object : Ber.Object) : Bool := object.tag == [0xE3] || object.tag == [0xE2]

/-- Reads entries as templates; objects that are no templates are passed over. -/
def parseTlv (s : Bytes) : Except Error (List RegistryEntry) := do
  let objects ← (Ber.readAll s).mapError .ofTlv
  (objects.filter isTemplate).mapM fun object => ofParts object.parts

end SmartCard.RegistryEntry
