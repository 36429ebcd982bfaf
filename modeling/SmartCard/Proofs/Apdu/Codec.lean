import SmartCard.Apdu.Link
import SmartCard.Platform.Commands
import SmartCard.Proofs.Outcome

/-!
# Commands and their bytes

A command whose data field is absent, or not empty and short enough (`Command.Short`), is read back
from its bytes as it was written (`Command.decode_encode`), and may be sent
(`Command.validate_of_short`). A data field starts with its length, which tells it from an expected
length that stands alone, and tells where an expected length after it begins.

Nothing else can be read: reading is the inverse of writing such commands
(`Command.decode_eq_ok_iff`), and the byte strings that it accepts have one of four forms
(`Command.WellFormed`, `Command.exists_decode_iff`). A data field that is too long for its length
byte is written with a length that has lost its top. `Command.refused_of_long` says that no harm
comes from it: commands of the same bytes have data fields of the same length, since an expected
length makes a difference of one byte and the length byte only forgets multiples of 256, so no
short command has these bytes. `Command.encode_faithful` says all of this together. -/

namespace SmartCard.Command

variable {c : Command} {data : Bytes}

/-- A data field, if there is one, has between one byte and as many as a short command can carry. -/
def Short (c : Command) : Prop := ∀ data ∈ c.data, 1 ≤ data.length ∧ data.length ≤ maxData

/-- The data field that was set. -/
@[simp] theorem dataBytes_withData (c : Command) (data : Bytes) :
    (c.withData data).dataBytes = data := by
  cases data with
  | nil => rfl
  | cons b data => rfl

@[simp] theorem dataBytes_withLe (c : Command) (le : UInt8) :
    (c.withLe le).dataBytes = c.dataBytes := rfl

@[simp] theorem dataBytes_globalPlatform (ins p1 p2 : UInt8) (data : Bytes) :
    (globalPlatform ins p1 p2 data).dataBytes = data :=
  dataBytes_withData ⟨CommandClass.globalPlatform, ins, p1, p2, none, none⟩ data

/-- The header of a command is where its bytes begin. -/
theorem getElem?_encode (c : Command) :
    c.encode[1]? = some c.ins ∧ c.encode[2]? = some c.p1 ∧ c.encode[3]? = some c.p2 :=
  ⟨rfl, rfl, rfl⟩

theorem withData_of_ne_nil (h : data ≠ []) : c.withData data = { c with data := some data } := by
  unfold withData
  rw [List.isEmpty_eq_false_iff.2 h]
  rfl

/-- The length of a data field that is short enough fits its byte. -/
private theorem toNat_length (hlen : data.length ≤ maxData) :
    data.length.toUInt8.toNat = data.length :=
  UInt8.toNat_ofNat_of_lt' (Nat.lt_of_le_of_lt hlen (by decide))

private theorem length_ne_zero (hpos : 1 ≤ data.length) (hlen : data.length ≤ maxData) :
    data.length.toUInt8 ≠ 0 := by
  intro h
  have hlength := toNat_length hlen
  -- a length of zero in the byte is a length of zero in fact
  rw [h] at hlength
  exact absurd hlength.symm (Nat.ne_of_gt hpos)

private theorem toNat_pos {length : UInt8} (h : length ≠ 0) : 0 < length.toNat :=
  Nat.pos_of_ne_zero fun hzero => h (UInt8.toNat_inj.1 hzero)

/-- **The data field is read by its length**, and what follows it is the expected length. -/
theorem decodeBody_data (hpos : 1 ≤ data.length) (hlen : data.length ≤ maxData)
    (hle : c.le = none) (le : Option UInt8) :
    decodeBody c (data.length.toUInt8 :: (data ++ le.toList)) =
      .ok { c with data := some data, le } := by
  have hne : data ≠ [] := List.length_pos_iff.1 hpos
  -- the length fits its byte, so it is read as it was written
  have hlength := toNat_length hlen
  have hzero := length_ne_zero hpos hlen
  have hbody : data ++ le.toList ≠ [] := List.append_ne_nil_of_left_ne_nil hne _
  have htake : (data ++ le.toList).take data.length = data := List.take_left
  have hdrop : (data ++ le.toList).drop data.length = le.toList := List.drop_left
  obtain ⟨b, rest, hrest⟩ := List.exists_cons_of_ne_nil hbody
  rw [hrest] at htake hdrop ⊢
  unfold decodeBody
  simp only [if_neg hzero, hlength, htake, hdrop, Nat.lt_irrefl, if_false]
  rw [withData_of_ne_nil hne]
  obtain ⟨cla, ins, p1, p2, _, _⟩ := c
  cases hle
  cases le with
  | none => rfl
  | some le => rfl

/-- **A command is read back as it was written**, unless its data field is empty or too long. -/
theorem decode_encode (h : c.Short) : decode c.encode = .ok c := by
  obtain ⟨cla, ins, p1, p2, data, le⟩ := c
  cases data with
  -- without data the reader is at the end, or has one byte left
  | none =>
    cases le with
    | none => rfl
    | some le => rfl
  | some data =>
    obtain ⟨hpos, hlen⟩ := h data rfl
    exact decodeBody_data hpos hlen rfl le

theorem validate_eq_ok_iff : c.validate = .ok () ↔ c.dataBytes.length ≤ maxData := by
  unfold validate
  rw [guard_eq_ok_iff, Nat.not_lt]
  exact and_iff_left rfl

theorem validate_of_short (h : c.Short) : c.validate = .ok () := by
  rw [validate_eq_ok_iff]
  unfold dataBytes
  cases hdata : c.data with
  | none => exact Nat.zero_le _
  | some data => exact (h data hdata).2

/-! ### What can be read -/

/-- The byte strings that are commands: a header, alone or with an expected length, or with a length
other than zero, as many bytes of data and possibly an expected length. -/
inductive WellFormed : Bytes → Prop
  | header (cla ins p1 p2 : UInt8) : WellFormed [cla, ins, p1, p2]
  | expecting (cla ins p1 p2 le : UInt8) : WellFormed [cla, ins, p1, p2, le]
  | carrying (cla ins p1 p2 length : UInt8) (data : Bytes) (le : Option UInt8)
    (hpos : length ≠ 0) (hdata : data.length = length.toNat) :
    WellFormed (cla :: ins :: p1 :: p2 :: length :: (data ++ le.toList))

theorem short_of_data_eq_none (h : c.data = none) : c.Short := by
  intro data hdata
  rw [h] at hdata
  cases hdata

/-- Reading a data field by a length takes all bytes but at most one. -/
theorem exists_of_decodeBody_data {d : Command} {length first : UInt8} {rest : Bytes}
    (h : decodeBody c (length :: first :: rest) = .ok d) : ∃ data, ∃ le : Option UInt8,
      length ≠ 0 ∧ data.length = length.toNat ∧ first :: rest = data ++ le.toList ∧
        d = { c with data := some data, le := le.or c.le } := by
  change (if length = 0 then _ else _) = _ at h
  -- two checks on the length, which have passed
  obtain ⟨hzero, h⟩ := guard_eq_ok_iff.1 h
  obtain ⟨hlong, h⟩ := guard_eq_ok_iff.1 h
  have hlen : ((first :: rest).take length.toNat).length = length.toNat :=
    Nat.le_antisymm (List.length_take_le _ _) (Nat.le_of_not_lt hlong)
  have hne : (first :: rest).take length.toNat ≠ [] := by
    rw [← List.length_pos_iff, hlen]
    -- a length other than zero takes a byte at least
    exact toNat_pos hzero
  have hsplit := List.take_append_drop length.toNat (first :: rest)
  -- what is left after the data is nothing, or the expected length
  split at h
  · rename_i hdrop
    rw [hdrop] at hsplit
    cases h
    exact ⟨_, none, hzero, hlen, hsplit.symm, withData_of_ne_nil hne⟩
  · rename_i le hdrop
    rw [hdrop] at hsplit
    cases h
    refine ⟨_, some le, hzero, hlen, hsplit.symm, ?_⟩
    rw [withData_of_ne_nil hne]
    rfl
  · cases h

/-- **What is read can be read back**, and is written as the bytes that it was read from. -/
theorem encode_of_decode {b : Bytes} (h : decode b = .ok c) : c.Short ∧ c.encode = b := by
  obtain ⟨cla, ins, p1, p2, body, rfl⟩ : ∃ cla ins p1 p2 body,
      b = cla :: ins :: p1 :: p2 :: body := by
    unfold decode at h
    split at h
    · exact ⟨_, _, _, _, _, rfl⟩
    · cases h
  change decodeBody ⟨cla, ins, p1, p2, none, none⟩ body = _ at h
  -- no byte after the header, one byte, or more than one: only these carry data
  rcases body with _ | ⟨length, _ | ⟨first, rest⟩⟩
  · cases h
    exact ⟨short_of_data_eq_none rfl, rfl⟩
  · cases h
    exact ⟨short_of_data_eq_none rfl, rfl⟩
  · obtain ⟨data, le, hzero, hlen, hbody, rfl⟩ := exists_of_decodeBody_data h
    rw [Option.or_none]
    constructor
    · intro data' hdata
      obtain rfl : data = data' := Option.some.inj hdata
      rw [hlen]
      -- the length is a byte, so the data are no longer than the command allows
      exact ⟨toNat_pos hzero, Nat.le_of_lt_succ length.toNat_lt⟩
    · change cla :: ins :: p1 :: p2 :: (data.length.toUInt8 :: data ++ le.toList) = _
      rw [hbody, hlen, Nat.toUInt8_eq, UInt8.ofNat_toNat, List.cons_append]

/-- **Reading is the inverse of writing** commands that are short enough. -/
theorem decode_eq_ok_iff {b : Bytes} : decode b = .ok c ↔ c.Short ∧ c.encode = b := by
  constructor
  · exact encode_of_decode
  · rintro ⟨hshort, rfl⟩
    exact decode_encode hshort

/-- The bytes of a command that is short enough have one of the four forms. -/
theorem wellFormed_encode (h : c.Short) : WellFormed c.encode := by
  obtain ⟨cla, ins, p1, p2, data, le⟩ := c
  cases data with
  | none =>
    cases le with
    | none => exact .header cla ins p1 p2
    | some le => exact .expecting cla ins p1 p2 le
  | some data =>
    obtain ⟨hpos, hlen⟩ := h data rfl
    exact .carrying cla ins p1 p2 data.length.toUInt8 data le (length_ne_zero hpos hlen)
      (toNat_length hlen).symm

/-- **A byte string can be read exactly if it has one of the four forms.** -/
theorem exists_decode_iff {b : Bytes} : (∃ c, decode b = .ok c) ↔ WellFormed b := by
  constructor
  · rintro ⟨c, hc⟩
    obtain ⟨hshort, rfl⟩ := encode_of_decode hc
    exact wellFormed_encode hshort
  · intro h
    cases h with
    | header cla ins p1 p2 => exact ⟨⟨cla, ins, p1, p2, none, none⟩, rfl⟩
    | expecting cla ins p1 p2 le => exact ⟨⟨cla, ins, p1, p2, none, some le⟩, rfl⟩
    | carrying cla ins p1 p2 length data le hzero hdata =>
      -- the length byte tells how many bytes there are, and it is not zero
      have hpos : 1 ≤ data.length := by
        rw [hdata]
        exact toNat_pos hzero
      have hlen : data.length ≤ maxData := by
        rw [hdata]
        exact Nat.le_of_lt_succ length.toNat_lt
      have hread := decodeBody_data (c := ⟨cla, ins, p1, p2, none, none⟩) hpos hlen rfl le
      rw [hdata, Nat.toUInt8_eq, UInt8.ofNat_toNat] at hread
      exact ⟨_, hread⟩

/-- What cannot be read fails to parse, and in no other way. -/
theorem exists_fault_of_decode_eq_error {b : Bytes} {e : LinkError} (h : decode b = .error e) :
    ∃ fault, e = .parse fault := by
  unfold decode decodeBody at h
  split at h
  · split at h
    · cases h
    · cases h
    · -- a length of zero, too few bytes, or too many: each is a fault of its own
      rcases guard_eq_error_iff.1 h with ⟨-, rfl⟩ | ⟨-, h⟩
      · exact ⟨_, rfl⟩
      · rcases guard_eq_error_iff.1 h with ⟨-, rfl⟩ | ⟨-, h⟩
        · exact ⟨_, rfl⟩
        · split at h
          · cases h
          · cases h
          · cases h
            exact ⟨_, rfl⟩
  · cases h
    exact ⟨_, rfl⟩

/-! ### Data fields that are too long -/

/-- **Commands of the same bytes have data fields of the same length**, even where the length byte
does not tell it. -/
theorem length_data_of_encode_eq {c d : Command} {s t : Bytes} (hc : c.data = some s)
    (hd : d.data = some t) (h : c.encode = d.encode) : s.length = t.length := by
  -- the fifth byte of both is the length, as far as a byte can hold it
  have hbyte : s.length % 256 = t.length % 256 := by
    have hfour : c.encode[4]? = d.encode[4]? := by rw [h]
    have hfourth : some s.length.toUInt8 = some t.length.toUInt8 := by
      simpa [encode, header, hc, hd] using hfour
    have hnat := congrArg UInt8.toNat (Option.some.inj hfourth)
    rwa [Nat.toUInt8_eq, UInt8.toNat_ofNat', Nat.toUInt8_eq, UInt8.toNat_ofNat'] at hnat
  have htotal : 4 + (1 + s.length) + c.le.toList.length =
      4 + (1 + t.length) + d.le.toList.length := by
    have hlength := congrArg List.length h
    rw [length_encode, length_encode] at hlength
    unfold encodedLength at hlength
    rwa [hc, hd] at hlength
  -- an expected length makes a difference of one byte, and the length byte forgets multiples of 256
  have hcle : c.le.toList.length ≤ 1 := Option.length_toList_le
  have hdle : d.le.toList.length ≤ 1 := Option.length_toList_le
  omega

/-- What becomes of a command whose data field is too long. -/
structure Refused (c : Command) : Prop where
  validate_eq : c.validate = .error (.commandTooLong c.dataBytes.length)
  /-- Its bytes are those of no command. -/
  decode_eq : ∃ fault, decode c.encode = .error (.parse fault)
  /-- It is not sent over any link. -/
  transmit_eq : ∀ (L : Type) [CardLink L] (link : L),
    CardLink.transmit link c = (.error (.commandTooLong c.dataBytes.length), link)

theorem exists_data_of_long (h : maxData < c.dataBytes.length) :
    ∃ data, c.data = some data ∧ maxData < data.length := by
  unfold dataBytes at h
  cases hdata : c.data with
  | none =>
    rw [hdata] at h
    cases h
  | some data =>
    rw [hdata] at h
    exact ⟨data, rfl, h⟩

/-- No command that can be read has the bytes of a command that is too long. -/
theorem decode_encode_ne_ok (h : maxData < c.dataBytes.length) (d : Command) :
    decode c.encode ≠ .ok d := by
  intro hd
  -- what is read is short, and has the bytes that it was read from
  obtain ⟨hshort, hencode⟩ := encode_of_decode hd
  obtain ⟨s, hs, hlong⟩ := exists_data_of_long h
  cases ht : d.data with
  | none =>
    -- without a data field there are at most five bytes
    have hlength := congrArg List.length hencode
    rw [length_encode, length_encode] at hlength
    unfold encodedLength at hlength
    rw [hs, ht] at hlength
    change 4 + 0 + d.le.toList.length = 4 + (1 + s.length) + c.le.toList.length at hlength
    have hle : d.le.toList.length ≤ 1 := Option.length_toList_le
    change 255 < s.length at hlong
    omega
  | some t =>
    -- equal bytes mean data of one length, and one of the two is short
    have hlen := length_data_of_encode_eq ht hs hencode
    exact absurd (hshort t ht).2 (by omega)

/-- **A command that is too long does no harm**: it is refused before it is sent, and its bytes
cannot be taken for those of another command. -/
theorem refused_of_long (h : maxData < c.dataBytes.length) : c.Refused := by
  have hvalidate : c.validate = .error (.commandTooLong c.dataBytes.length) := if_pos h
  refine ⟨hvalidate, ?_, ?_⟩
  · -- some outcome of the reader is left, and it is no success
    cases hdecode : decode c.encode with
    | ok d => exact absurd hdecode (decode_encode_ne_ok h d)
    | error e =>
      obtain ⟨fault, rfl⟩ := exists_fault_of_decode_eq_error hdecode
      exact ⟨fault, rfl⟩
  · intro L _ link
    unfold CardLink.transmit
    rw [hvalidate]

/-- **Commands and byte strings correspond**, for every command and every byte string: a command
has as many bytes as it says; the commands that are read are those that are short enough, each from
the bytes that it is written as; a command that is too long is refused; and what can be read has one
of the four forms. -/
theorem encode_faithful (c : Command) (b : Bytes) :
    c.encodedLength = c.encode.length ∧ (decode b = .ok c ↔ c.Short ∧ c.encode = b) ∧
      (maxData < c.dataBytes.length → c.Refused) ∧ ((∃ d, decode b = .ok d) ↔ WellFormed b) :=
  ⟨(length_encode c).symm, decode_eq_ok_iff, refused_of_long, exists_decode_iff⟩

/-- A command with 256 bytes of data. It has as many bytes as the longest short command, and its
length byte is zero. -/
def oversized : Command :=
  ⟨CommandClass.globalPlatform, Instruction.load, 0x00, 0x00, some (List.replicate 256 0xAA), none⟩

theorem encode_faithful_oversized : maxData < oversized.dataBytes.length ∧ oversized.Refused := by
  have hlong : maxData < oversized.dataBytes.length := by
    change maxData < (List.replicate 256 (0xAA : UInt8)).length
    rw [List.length_replicate]
    decide
  exact ⟨hlong, (encode_faithful oversized []).2.2.1 hlong⟩

end SmartCard.Command
