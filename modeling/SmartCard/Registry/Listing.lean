import SmartCard.Registry.Legacy
import SmartCard.Registry.Query
import SmartCard.Registry.Template

/-!
# Registry listings

The data of one question to the registry, read as the question asked for it (`RegistryEntry.parse`).
-/

namespace SmartCard.RegistryEntry

/-- Reads the entries of a subset in a format; load files are listed with modules when these were
asked for. -/
def parse (subset : RegistrySubset) (format : RegistryFormat) (s : Bytes) :
    Except Error (List RegistryEntry) :=
  match format with
  | .tlv => parseTlv s
  | .legacy => parseLegacy (subset == .loadFilesAndModules) s

end SmartCard.RegistryEntry
