import SmartCard.Management.Cplc
import SmartCard.Proofs.Bytes.Fields
import SmartCard.Proofs.Outcome

/-!
# Reading production data

Production data is eighteen fields in 42 bytes. The positions that they are read from are those that
are reached by cutting them off in order, and the last one ends with the data
(`Cplc.run_cutAll_toList`). So the fields, one after the other, are the data again, and a record and
its data are the same thing written in two ways (`Cplc.toBlock_ofBlock`, `Cplc.ofBlock_toBlock`).

A card may put a header in front. Data may also start with the bytes of a header where a fabricator
has that number, but with the header it is longer, so the length tells which it is. A record is read
from its own 42 bytes, from these with the header in front of them, and from nothing else
(`Cplc.parse_eq_ok_iff`). -/

namespace SmartCard.Cplc

variable {s value : Bytes} {c c' : Cplc}

/-! ### Fields -/

/-- The widths of the fields, in order. -/
def widths : List Nat := [2, 2, 2, 2, 2, 2, 4, 2, 2, 2, 2, 2, 2, 2, 4, 2, 2, 4]

theorem map_length_fields (c : Cplc) : c.fields.map List.length = widths := by
  simp [fields, widths]

theorem fields_inj (h : c.fields = c'.fields) : c = c' := by
  cases c
  cases c'
  simpa [fields, Block.ext_iff] using h

/-- **Each field is read from where the one before it has ended**, and the last one ends with the
data. -/
theorem run_cutAll_toList (b : Block 42) :
    (Fields.cutAll b.toList widths).run 0 = some ((ofBlock b).fields, 42) := by
  -- each cut is within the 42 bytes, so the slice is the field
  have hcut (width start : Nat) (h : start + width ≤ 42) :
      (Fields.cut b.toList width).run start =
        some ((b.slice start width h).toList, start + width) :=
    if_pos (by rw [b.length_toList]; exact h)
  simp [widths, Fields.run_cutAll_cons, Fields.run_cutAll_nil, hcut, fields, ofBlock]

/-- **The fields, one after the other, are the data.** -/
theorem toBlock_ofBlock (b : Block 42) : (ofBlock b).toBlock = b := by
  have hcut : (Fields.cutAll ([] ++ b.toList) widths).run ([] : Bytes).length =
      some ((ofBlock b).fields, 42) := run_cutAll_toList b
  obtain ⟨rest, hdata, -, -⟩ := Fields.run_cutAll_eq_some_iff.1 hcut
  have hprod : b.toList = (ofBlock b).toBlock.toList ++ rest := hdata
  -- the fields are as long as the data, so that nothing is left behind them
  have hrest : rest = [] := by
    have hlen := congrArg List.length hprod
    rw [List.length_append, Block.length_toList, Block.length_toList] at hlen
    exact List.eq_nil_of_length_eq_zero (by omega)
  rw [hrest, List.append_nil] at hprod
  exact Block.ext hprod.symm

/-- **The data of a record is read as the record.** -/
theorem ofBlock_toBlock (c : Cplc) : ofBlock c.toBlock = c := by
  have hflat : (ofBlock c.toBlock).fields.flatten = c.fields.flatten :=
    congrArg Block.toList (toBlock_ofBlock c.toBlock)
  -- fields of the same widths are told apart in what they make together
  refine fields_inj (List.eq_iff_flatten_eq.2 ⟨hflat, ?_⟩)
  rw [map_length_fields, map_length_fields]

/-! ### The header -/

/-- What may stand in front of the data: its tag and its length. -/
def header : Bytes := [0x9F, 0x7F, 0x2A]

/-- Data of the full length is taken as it is, whatever it starts with. -/
theorem withoutHeader_of_length (h : s.length = 42) : withoutHeader s = .ok s := by
  unfold withoutHeader
  split
  · exact if_pos h
  · rfl

theorem withoutHeader_header (h : value.length = 42) :
    withoutHeader (header ++ value) = .ok value := by
  -- with the header in front there are 45 bytes
  have hlonger : ¬(header ++ value).length = Cplc.length := by
    rw [List.length_append, h]
    decide
  have hannounced : (0x2A : UInt8).toNat = value.length := h.symm
  show (if (header ++ value).length = Cplc.length then _ else
    if (0x2A : UInt8).toNat = value.length then _ else _) = _
  rw [if_neg hlonger, if_pos hannounced]
  rfl

theorem withoutHeader_eq_ok_iff (hlen : value.length = 42) :
    withoutHeader s = .ok value ↔ s = value ∨ s = header ++ value := by
  constructor
  · intro h
    unfold withoutHeader at h
    split at h
    case h_1 announced rest =>
      -- a tag in front: the data are taken as they are if they have the full length
      split at h
      · exact .inl (Except.ok.inj h)
      · split at h
        case isTrue hannounced =>
          obtain rfl : rest = value := Except.ok.inj h
          -- what the header announces is there, so it announces 42 bytes
          have hbyte : announced = 0x2A := UInt8.toNat_inj.1 (hannounced.trans hlen)
          exact .inr (by rw [hbyte]; rfl)
        case isFalse => cases h
    case h_2 => exact .inl (Except.ok.inj h)
  · rintro (rfl | rfl)
    · exact withoutHeader_of_length hlen
    · exact withoutHeader_header hlen

/-! ### Reading -/

/-- **A record is read from its data, with or without the header, and from nothing else.** -/
theorem parse_eq_ok_iff :
    parse s = .ok c ↔ s = c.toBlock.toList ∨ s = header ++ c.toBlock.toList := by
  constructor
  · intro h
    obtain ⟨value, hvalue, h⟩ := bind_eq_ok_iff.1 h
    -- the block is what was left without the header
    split at h
    case h_1 b hb =>
      obtain rfl : ofBlock b = c := pure_eq_ok_iff.1 h
      rw [Block.ofList?_eq_some_iff.1 hb] at hvalue
      rw [toBlock_ofBlock]
      exact (withoutHeader_eq_ok_iff b.length_toList).1 hvalue
    case h_2 => cases h
  · intro h
    have hvalue : withoutHeader s = .ok c.toBlock.toList :=
      (withoutHeader_eq_ok_iff c.toBlock.length_toList).2 h
    refine bind_eq_ok_iff.2 ⟨_, hvalue, ?_⟩
    rw [Block.ofList?_toList]
    exact congrArg Except.ok (ofBlock_toBlock c)

/-- Whatever is not read is malformed card data. -/
theorem protocol_of_parse {e : Error} (h : parse s = .error e) : ∃ fault, e = .protocol fault := by
  unfold parse at h
  rcases bind_eq_error_iff.1 h with h | ⟨value, -, h⟩
  · -- only a header whose length is wrong can be refused here
    unfold withoutHeader at h
    split at h
    case h_1 announced rest =>
      split at h
      · cases h
      · split at h
        · cases h
        · exact ⟨_, (Except.error.inj h).symm⟩
    case h_2 => cases h
  · -- without the header there were not 42 bytes
    split at h
    · cases h
    · exact ⟨_, (Except.error.inj h).symm⟩

/-- **What is made of production data.** -/
structure ReadsFields (s : Bytes) : Prop where
  /-- It is 42 bytes, with the header in front of them or without it. -/
  succeeds_iff : (∃ c, parse s = .ok c) ↔
    s.length = 42 ∨ ∃ value : Bytes, value.length = 42 ∧ s = header ++ value
  /-- The fields are the data, and the header makes no difference. -/
  lossless : s.length = 42 → ∃ c, parse s = .ok c ∧ parse (header ++ s) = .ok c ∧
    c.fields.flatten = s ∧ c.fields.map List.length = widths
  exact_iff : ∀ c, parse s = .ok c ↔ s = c.fields.flatten ∨ s = header ++ c.fields.flatten
  /-- Cut off in order, the fields never reach over the end, and the last one ends there. -/
  in_bounds : ∀ c, parse s = .ok c →
    (Fields.cutAll c.fields.flatten widths).run 0 = some (c.fields, c.fields.flatten.length)
  fails : ∀ e, parse s = .error e → ∃ fault, e = .protocol fault

/-- **All production data is read exactly.** -/
theorem readsFields (s : Bytes) : ReadsFields s where
  succeeds_iff := by
    constructor
    · rintro ⟨c, h⟩
      have hlen : c.toBlock.toList.length = 42 := c.toBlock.length_toList
      rcases parse_eq_ok_iff.1 h with rfl | rfl
      · exact .inl hlen
      · exact .inr ⟨_, hlen, rfl⟩
    · rintro (hlen | ⟨value, hlen, rfl⟩)
      · exact ⟨ofBlock ⟨s, hlen⟩, parse_eq_ok_iff.2 (.inl (by rw [toBlock_ofBlock]))⟩
      · exact ⟨ofBlock ⟨value, hlen⟩, parse_eq_ok_iff.2 (.inr (by rw [toBlock_ofBlock]))⟩
  -- the data make a record, and the record makes these data
  lossless hlen := by
    have hdata : (ofBlock ⟨s, hlen⟩).toBlock.toList = s := by rw [toBlock_ofBlock]
    refine ⟨ofBlock ⟨s, hlen⟩, parse_eq_ok_iff.2 (.inl hdata.symm), parse_eq_ok_iff.2 (.inr ?_),
      hdata, map_length_fields _⟩
    rw [hdata]
  exact_iff _ := parse_eq_ok_iff
  in_bounds c _ := by
    have hcut := run_cutAll_toList c.toBlock
    have hstop : c.fields.flatten.length = 42 := c.toBlock.length_toList
    -- cutting the fields off again ends where the data do
    rw [ofBlock_toBlock] at hcut
    rw [hstop]
    exact hcut
  fails _ := protocol_of_parse

/-- Data of a fabricator with the number `9F7F`. It starts like a header with 39 bytes behind it. -/
def lookalike : Bytes := [0x9F, 0x7F, 0x27] ++ List.replicate 39 0x11

/-- It is read like other data, and like other data with a header in front; with a header that
announces one byte less it is not read. -/
theorem readsFields_lookalike :
    (∃ c, parse lookalike = .ok c ∧ parse (header ++ lookalike) = .ok c ∧
      c.fields.flatten = lookalike) ∧
    parse ([0x9F, 0x7F, 0x29] ++ lookalike) =
      .error (.protocol (.cplcHeaderLength 41 42)) := by
  obtain ⟨c, h, hheader, hdata, -⟩ := (readsFields lookalike).lossless rfl
  exact ⟨⟨c, h, hheader, hdata⟩, rfl⟩

end SmartCard.Cplc
