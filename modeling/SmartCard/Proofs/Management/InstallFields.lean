import SmartCard.Proofs.Tlv.Fields
import SmartCard.Proofs.Tlv.LengthValue

/-!
# Fields of an installation

The commands that prepare a load, install an application, and make one selectable carry fields with
a length before each. Which fields these are is told once for all of them (`InstallRequest.fields`,
`InstallRequest.command_eq`). There is a command exactly if no field is too long
(`InstallRequest.exists_command_iff`), and a reader finds in its data the fields that were given, an
empty one included, and nothing after them (`InstallRequest.readAll_dataBytes`).

The data then tell what was asked for (`InstallRequest.eq_of_dataBytes_eq`). Two commands of one
kind have as many fields each, so that equal data mean equal fields. Between the kinds it is the
number of fields that differs, or the parameters: these are a tagged object for an application that
is installed, and empty for one that is made selectable.

`InstallRequest.unambiguous` puts this together, with what becomes of a buffer to which fields are
written. -/

namespace SmartCard

namespace SimpleTlv

variable {tag : UInt8} {value other data : Bytes}

/-- The first byte of a length field is its mark, or the length. -/
theorem length_eq_cons (n : Nat) : ∃ more, length n = (min n 255).toUInt8 :: more ∧
    -- from 255 bytes on the first byte is a mark, and two bytes with the length follow
    more.length = if n < 255 then 0 else 2 := by
  unfold length
  by_cases hn : n < 255
  · rw [if_pos hn, if_pos hn, Nat.min_eq_left (Nat.le_of_lt hn)]
    exact ⟨[], rfl, rfl⟩
  · rw [if_neg hn, if_neg hn, Nat.min_eq_right (Nat.not_lt.1 hn)]
    exact ⟨_, rfl, Block.length_toList _⟩

/-- **An object tells its value.** -/
theorem field_inj (h : field tag value = field tag other) : value = other := by
  obtain ⟨more, hlength, hmore⟩ := length_eq_cons value.length
  obtain ⟨more', hlength', hmore'⟩ := length_eq_cons other.length
  unfold field at h
  rw [hlength, hlength', List.cons_append, List.cons_append] at h
  obtain ⟨hfirst, hrest⟩ := List.cons.inj (List.tail_eq_of_cons_eq h)
  -- equal first bytes mean length fields of one size
  have hmin : min value.length 255 = min other.length 255 := by
    have hlt : ∀ n, min n 255 < 256 := fun n => Nat.lt_succ_of_le (Nat.min_le_right n 255)
    have hbytes := congrArg UInt8.toNat hfirst
    rwa [UInt8.toNat_ofNat_of_lt' (hlt _), UInt8.toNat_ofNat_of_lt' (hlt _)] at hbytes
  -- both have none, or both have two
  have hsize : more.length = more'.length := by
    rw [hmore, hmore']
    split <;> split <;> omega
  exact (List.append_inj hrest hsize).2

theorem ne_nil_of_encode (h : encode tag value = .ok data) : data ≠ [] := by
  obtain ⟨-, -, rfl⟩ := encode_eq_ok_iff.1 h
  exact List.cons_ne_nil _ _

/-- Objects of one tag are equal only if their values are. -/
theorem encode_inj (hvalue : encode tag value = .ok data) (hother : encode tag other = .ok data) :
    value = other := by
  obtain ⟨-, -, hvalue⟩ := encode_eq_ok_iff.1 hvalue
  obtain ⟨-, -, hother⟩ := encode_eq_ok_iff.1 hother
  exact field_inj (hvalue.trans hother.symm)

end SimpleTlv

/-- What a command for an installation is asked to do. -/
inductive InstallRequest
  | load (loadFile securityDomain hash parameters token : Bytes)
  | install (loadFile module application privileges parameters token : Bytes)
  | select (application privileges : Bytes)
deriving Repr, DecidableEq

namespace InstallRequest

variable {request other : InstallRequest} {c d : Command} {given : List Bytes}

def command : InstallRequest → Except Error Command
  | .load loadFile securityDomain hash parameters token =>
    Command.installForLoad loadFile securityDomain hash parameters token
  | .install loadFile module application privileges parameters token =>
    Command.installForInstall loadFile module application privileges parameters token
  | .select application privileges => Command.installSelectable application privileges

/-- The fields of the data, in order. -/
def fields : InstallRequest → Except TlvFault (List Bytes)
  | .load loadFile securityDomain hash parameters token =>
    .ok [loadFile, securityDomain, hash, parameters, token]
  | .install loadFile module application privileges parameters token =>
    (SimpleTlv.encode Tag.installParameters parameters).map fun object =>
      [loadFile, module, application, privileges, object, token]
  | .select application privileges => .ok [[], [], application, privileges, [], []]

/-- The parameter that tells what is asked for. -/
def p1 : InstallRequest → UInt8
  | .load .. => 0x02
  | .install .. => 0x0C
  | .select .. => 0x08

/-- **All commands are made in one way**, from their fields. -/
theorem command_eq (request : InstallRequest) : request.command = do
    let fields ← request.fields.mapError .ofTlv
    let data ← LengthValue.encode fields
    return Command.install request.p1 data := by
  cases request with
  | load loadFile securityDomain hash parameters token => rfl
  | install loadFile module application privileges parameters token =>
    -- only here can the fields themselves fail, because of the object with the parameters
    change Command.installForInstall loadFile module application privileges parameters token =
      ((SimpleTlv.encode Tag.installParameters parameters).map _).mapError .ofTlv >>= _
    unfold Command.installForInstall Command.taggedField
    cases SimpleTlv.encode Tag.installParameters parameters with
    | error fault => rfl
    | ok object => rfl
  | select application privileges => rfl

theorem command_eq_ok_iff : request.command = .ok c ↔ ∃ fields data,
    request.fields = .ok fields ∧ LengthValue.encode fields = .ok data ∧
      Command.install request.p1 data = c := by
  rw [command_eq]
  constructor
  · intro h
    obtain ⟨fields, hfields, h⟩ := bind_eq_ok_iff.1 h
    obtain ⟨data, hdata, h⟩ := bind_eq_ok_iff.1 h
    exact ⟨fields, data, mapError_eq_ok_iff.1 hfields, hdata, pure_eq_ok_iff.1 h⟩
  · rintro ⟨fields, data, hfields, hdata, rfl⟩
    exact bind_eq_ok_iff.2 ⟨fields, mapError_eq_ok_iff.2 hfields,
      bind_eq_ok_iff.2 ⟨data, hdata, rfl⟩⟩

/-- **The data are read as the fields, and nothing is left.** -/
theorem readAll_dataBytes (h : request.command = .ok c) : ∃ fields,
    request.fields = .ok fields ∧ LengthValue.readAll c.dataBytes = some fields := by
  obtain ⟨fields, data, hfields, hdata, rfl⟩ := command_eq_ok_iff.1 h
  refine ⟨fields, hfields, LengthValue.readAll_eq_some_iff.2 ?_⟩
  rw [Command.install, Command.dataBytes_globalPlatform]
  exact hdata

/-- There is a command if there are fields and none of them is too long. -/
theorem exists_command_iff (request : InstallRequest) : (∃ c, request.command = .ok c) ↔
    ∃ fields, request.fields = .ok fields ∧ ∀ value ∈ fields, value.length ≤ 255 := by
  constructor
  · rintro ⟨c, h⟩
    obtain ⟨fields, data, hfields, hdata, -⟩ := command_eq_ok_iff.1 h
    have hfits := (LengthValue.encode_eq_ok_iff.1 hdata).1
    exact ⟨fields, hfields, fun value hvalue => Nat.le_of_lt_succ (hfits value hvalue)⟩
  · rintro ⟨fields, hfields, hfits⟩
    have hdata : LengthValue.encode fields = .ok (fields.flatMap LengthValue.field) :=
      -- a field fits into a length byte if it has at most 255 bytes
      LengthValue.encode_eq_ok_iff.2
        ⟨fun value hvalue => Nat.lt_succ_of_le (hfits value hvalue), rfl⟩
    exact ⟨_, command_eq_ok_iff.2 ⟨fields, _, hfields, hdata, rfl⟩⟩

theorem exists_command_iff_of_fields (h : request.fields = .ok given) :
    (∃ c, request.command = .ok c) ↔ ∀ value ∈ given, value.length ≤ 255 := by
  rw [exists_command_iff, h]
  constructor
  · rintro ⟨fields, hfields, hfits⟩
    cases hfields
    exact hfits
  · intro hfits
    exact ⟨given, rfl, hfits⟩

/-- The fields tell what was asked for. -/
theorem eq_of_fields_eq (hrequest : request.fields = .ok given)
    (hother : other.fields = .ok given) : request = other := by
  -- on the kinds: one kind has its own number of fields, or its own parameters
  cases request with
  | load =>
    cases hrequest
    cases other with
    | load =>
      cases hother
      -- the numbers of fields differ: five against six
      rfl
    | install =>
      obtain ⟨object, -, heq⟩ := map_eq_ok_iff.1 hother
      cases heq
    | select => cases hother
  | install =>
    obtain ⟨object, hobject, rfl⟩ := map_eq_ok_iff.1 hrequest
    cases other with
    | load => cases hother
    | install =>
      obtain ⟨object', hobject', heq⟩ := map_eq_ok_iff.1 hother
      -- the fields are the same, so the objects are, and an object tells its value
      cases heq
      obtain rfl := SimpleTlv.encode_inj hobject hobject'
      rfl
    | select =>
      -- the parameters of the one are an object, and those of the other are empty
      cases hother
      exact absurd rfl (SimpleTlv.ne_nil_of_encode hobject)
  | select =>
    cases hrequest
    cases other with
    | load => cases hother
    | install =>
      obtain ⟨object, hobject, heq⟩ := map_eq_ok_iff.1 hother
      cases heq
      exact absurd rfl (SimpleTlv.ne_nil_of_encode hobject)
    | select =>
      cases hother
      rfl

/-- **The data tell what was asked for.** -/
theorem eq_of_dataBytes_eq (hrequest : request.command = .ok c) (hother : other.command = .ok d)
    (hdata : c.dataBytes = d.dataBytes) : request = other := by
  -- the data are read in one way, so the fields are the same
  obtain ⟨fields, hfields, hread⟩ := readAll_dataBytes hrequest
  obtain ⟨fields', hfields', hread'⟩ := readAll_dataBytes hother
  rw [hdata, hread'] at hread
  cases hread
  exact eq_of_fields_eq hfields hfields'

/-- **The fields of an installation are unambiguous.** A command that prepares a load is made
exactly if none of its five fields is too long, one that installs exactly if this holds with the
parameters as a tagged object, and one that makes selectable exactly if it holds for the name and
the privileges. The data are then read as the fields, so that different requests never have the same
data. A field that is too long changes nothing in a buffer, and after any number of fields the
buffer holds those that are not. -/
theorem unambiguous :
    (∀ loadFile securityDomain hash parameters token : Bytes,
      (∃ c, Command.installForLoad loadFile securityDomain hash parameters token = .ok c) ↔
        ∀ value ∈ [loadFile, securityDomain, hash, parameters, token], value.length ≤ 255) ∧
    (∀ loadFile module application privileges parameters token : Bytes,
      (∃ c, Command.installForInstall loadFile module application privileges parameters token =
        .ok c) ↔
        ∃ object, SimpleTlv.encode Tag.installParameters parameters = .ok object ∧
          ∀ value ∈ [loadFile, module, application, privileges, object, token],
            value.length ≤ 255) ∧
    (∀ application privileges : Bytes,
      (∃ c, Command.installSelectable application privileges = .ok c) ↔
        application.length ≤ 255 ∧ privileges.length ≤ 255) ∧
    (∀ (request : InstallRequest) (c : Command), request.command = .ok c → ∃ fields,
      request.fields = .ok fields ∧ LengthValue.readAll c.dataBytes = some fields) ∧
    (∀ (request other : InstallRequest) (c d : Command), request.command = .ok c →
      other.command = .ok d → c.dataBytes = d.dataBytes → request = other) ∧
    (∀ value buffer : Bytes, ((LengthValue.put value).run buffer).1 ≠ .ok () →
      ((LengthValue.put value).run buffer).2 = buffer) ∧
    ∀ (values : List Bytes) (buffer : Bytes), (LengthValue.putEach values).run buffer =
      (values.map LengthValue.verdict,
        buffer ++ (values.filter (·.length < 256)).flatMap LengthValue.field) := by
  refine ⟨?load, ?install, ?select, ?reads, ?tells, ?keeps, LengthValue.run_putEach⟩
  case load =>
    intro loadFile securityDomain hash parameters token
    have hfields : (load loadFile securityDomain hash parameters token).fields =
        .ok [loadFile, securityDomain, hash, parameters, token] := rfl
    exact exists_command_iff_of_fields hfields
  case install =>
    intro loadFile module application privileges parameters token
    apply (exists_command_iff
      (install loadFile module application privileges parameters token)).trans
    constructor
    · rintro ⟨fields, hfields, hfits⟩
      obtain ⟨object, hobject, rfl⟩ := map_eq_ok_iff.1 hfields
      exact ⟨object, hobject, hfits⟩
    · rintro ⟨object, hobject, hfits⟩
      exact ⟨_, map_eq_ok_iff.2 ⟨object, hobject, rfl⟩, hfits⟩
  case select =>
    intro application privileges
    have hfields : (select application privileges).fields =
        .ok [[], [], application, privileges, [], []] := rfl
    apply (exists_command_iff_of_fields hfields).trans
    -- the empty fields are never too long
    simp
  case reads =>
    intro request c h
    exact readAll_dataBytes h
  case tells =>
    intro request other c d hrequest hother hdata
    exact eq_of_dataBytes_eq hrequest hother hdata
  case keeps =>
    intro value buffer hfails
    rw [LengthValue.run_put] at hfails ⊢
    -- the value was refused, so it is too long, and nothing was written
    unfold LengthValue.verdict at hfails
    by_cases hlen : value.length < 256
    · exact absurd (if_pos hlen) hfails
    · exact if_neg hlen

/-- The card manager made selectable, its fields read again, and a field that is too long for a
buffer with these data. -/
theorem unambiguous_cardManager : ∃ c,
    Command.installSelectable Aid.legacyCardManager [0x00] = .ok c ∧
    LengthValue.readAll c.dataBytes =
      some [[], [], Aid.legacyCardManager, [0x00], [], []] ∧
    ((LengthValue.put (List.replicate 256 0)).run c.dataBytes).2 = c.dataBytes ∧
    ∀ (other : InstallRequest) (d : Command), other.command = .ok d →
      c.dataBytes = d.dataBytes → select Aid.legacyCardManager [0x00] = other := by
  obtain ⟨-, -, exists_select, reads, tells, keeps, -⟩ := unambiguous
  obtain ⟨c, hc⟩ := (exists_select Aid.legacyCardManager [0x00]).2 (by decide)
  have hrequest : (select Aid.legacyCardManager [0x00]).command = .ok c := hc
  -- the data are read as the fields of the request that they were made for
  obtain ⟨fields, hfields, hread⟩ := reads _ c hrequest
  cases hfields
  have hlong : ¬(List.replicate 256 (0 : UInt8)).length < 256 := by
    rw [List.length_replicate]
    decide
  refine ⟨c, hc, hread, keeps _ _ ?_, fun other d => tells _ other c d hrequest⟩
  rw [LengthValue.run_put, LengthValue.verdict, if_neg hlong]
  exact nofun

end InstallRequest
end SmartCard
