import SmartCard.Management.Content

/-!
# Reading the registry

Registry data may come in several pages: a status word tells that more data follows, and the host
asks for the next page until it does not (`ContentManager.registryData`). An empty part of the
registry is reported by the card as a missing object and read as no data.

Pages are read as long as the card asks for it. Each page takes an answer from the card, so reading
ends with any card that has only so many answers (`FiniteLink`). -/

namespace SmartCard.ContentManager

variable {L : Type} [FiniteLink L]

/-- Reads pages from `command` on, after the data of the pages already read. -/
def registryPages (subset : RegistrySubset) (format : RegistryFormat) (command : Command)
    (read : Bytes) (ch : SecureChannel L) : Except Error Bytes × SecureChannel L :=
  match h : ch.transmit command with
  | (.error e, after) => (.error e, after)
  | (.ok response, after) =>
    have := SecureChannel.transmit_lt h
    let status := response.status
    let read := read ++ response.payload
    if status = .moreData then
      let next := Command.getStatusNext subset.parameter format.parameter
      registryPages subset format next read after
    -- The page that ends the listing may be empty and say that nothing more was found.
    else if status.isSuccess || status.isFileNotFound || status.isReferencedDataNotFound then
      (.ok read, after)
    else (.error (.cardStatus status), after)
termination_by FiniteLink.answersLeft ch.link

/-- The data of all pages of a part of the registry. -/
def registryData (subset : RegistrySubset) (format : RegistryFormat) : ChannelM L Bytes :=
  ExceptT.mk
    (registryPages subset format (Command.getStatusFirst subset.parameter format.parameter) [])

def registry (subset : RegistrySubset) (format : RegistryFormat) :
    ChannelM L (List RegistryEntry) := do
  RegistryEntry.parse subset format (← registryData subset format)

def applications : ChannelM L (List RegistryEntry) := registry .applications .tlv

def packages : ChannelM L (List RegistryEntry) := registry .loadFilesAndModules .tlv

end SmartCard.ContentManager
