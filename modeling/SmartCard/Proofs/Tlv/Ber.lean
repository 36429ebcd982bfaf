import SmartCard.Proofs.Outcome
import SmartCard.Tlv.Ber

/-!
# Reading values

An object is read from the front of a byte string in two steps: its header, and then its contents.
For a value the contents are the bytes that the length announces (`Ber.read_of_readHeader`). Objects
are read one after the other, up to the first one that cannot be read (`Ber.readAll_of_read`,
`Ber.readAll_of_read_error`). -/

namespace SmartCard.Ber

variable {s rest tag : Bytes} {header : Header} {object : Object} {objects : List Object}
  {fault : TlvFault}

/-! ### Headers -/

/-- A tag of one byte. -/
theorem readTag_singleton {b : UInt8} (hne : b ≠ 0) (hends : tagContinues b = false)
    (s : Bytes) : readTag (b :: s) = .ok ([b], s) := by
  have hbytes : readTagBytes (b :: s) = .ok ([b], s) := by
    change (if tagContinues b = true then _ else _) = _
    exact if_neg (Bool.eq_false_iff.1 hends)
  have htag : [b] ≠ [0x00] := fun h => hne (List.cons.inj h).1
  have hlen : ¬3 < [b].length := Nat.not_lt.2 (Nat.le_add_left 1 2)
  unfold readTag
  rw [hbytes]
  exact (if_neg htag).trans (if_neg hlen)

/-- After a tag of one byte comes the length. -/
theorem readHeader_singleton {b : UInt8} (hne : b ≠ 0) (hends : tagContinues b = false)
    (s : Bytes) :
    readHeader (b :: s) = (readLength s).map fun field => ⟨[b], field.1, field.2⟩ := by
  unfold readHeader
  rw [readTag_singleton hne hends]
  change readLength s >>= _ = _
  cases readLength s with
  | error fault => rfl
  | ok field => rfl

/-- A length of one byte. -/
theorem readLength_of_lt {n : Nat} (h : n < 128) (s : Bytes) :
    readLength (n.toUInt8 :: s) = .ok (n, s) := by
  have hn : n.toUInt8.toNat = n := UInt8.toNat_ofNat_of_lt' (Nat.lt_trans h (by decide))
  have hlt : n.toUInt8 < 0x80 := by
    rw [UInt8.lt_iff_toNat_lt, hn]
    exact h
  unfold readLength
  simp only [if_pos hlt, hn]

/-- A length of up to four bytes, whose number the first byte tells. -/
theorem readLength_of_ge {n : Nat} (hge : 128 ≤ n) (hlt : n < 256) (s : Bytes) :
    readLength (n.toUInt8 :: s) = if 4 < n - 128 then .error .invalidLength
      else if s.length < n - 128 then .error .truncated
      else .ok (BigEndian.toNat (s.take (n - 128)), s.drop (n - 128)) := by
  have hn : n.toUInt8.toNat = n := UInt8.toNat_ofNat_of_lt' hlt
  have hlong : ¬n.toUInt8 < 0x80 := by
    rw [UInt8.lt_iff_toNat_lt, hn]
    exact Nat.not_lt.2 hge
  have hcount : (n.toUInt8 &&& 0x7F).toNat = n - 128 := by
    rw [UInt8.toNat_and, hn]
    -- the seven low bits of the byte are the remainder by 128
    change n &&& (2 ^ 7 - 1) = n - 128
    rw [Nat.and_two_pow_sub_one_eq_mod]
    omega
  have hshort : (s.take (n - 128)).length < n - 128 ↔ s.length < n - 128 := by
    rw [List.length_take]
    omega
  unfold readLength
  simp only [if_neg hlong, hcount, hshort]

/-! ### Values -/

/-- **A value is as many bytes as its header announces.** -/
theorem read_of_readHeader (h : readHeader s = .ok header)
    (hvalue : isConstructed header.tag = false) :
    read s = if header.rest.length < header.length then .error .truncated
      else .ok (.primitive header.tag (header.rest.take header.length),
        header.rest.drop header.length) := by
  have hshort : (header.rest.take header.length).length < header.length ↔
      header.rest.length < header.length := by
    rw [List.length_take]
    omega
  unfold read
  rw [readObject]
  split
  · rename_i fault hfault
    rw [h] at hfault
    cases hfault
  · rename_i header' hheader
    obtain rfl := Except.ok.inj (h.symm.trans hheader)
    -- the tag tells of a value, so the reader takes bytes and no parts
    rw [if_neg (by rw [hvalue]; decide)]
    by_cases hlen : header.rest.length < header.length
    · rw [if_pos hlen, if_pos (hshort.2 hlen)]
      rfl
    · rw [if_neg hlen, if_neg (fun h => hlen (hshort.1 h))]
      rfl

theorem read_of_readHeader_error (h : readHeader s = .error fault) : read s = .error fault := by
  unfold read
  rw [readObject]
  split
  · rename_i fault' hfault
    rw [h] at hfault
    cases hfault
    rfl
  · rename_i header hheader
    rw [h] at hheader
    cases hheader

/-! ### One after the other -/

/-- Reading goes forward. -/
theorem length_of_read (h : read s = .ok (object, rest)) : rest.length < s.length := by
  obtain ⟨⟨_, _, shorter⟩, -, hvalue⟩ := map_eq_ok_iff.1 h
  cases hvalue
  exact shorter

theorem readAllAfter_nil (objects : List Object) :
    readAllAfter objects [] = .ok objects.reverse := by
  rw [readAllAfter]
  rfl

theorem readAllAfter_of_read (h : read s = .ok (object, rest)) (objects : List Object) :
    readAllAfter objects s = readAllAfter (object :: objects) rest := by
  -- an object was read, so there were bytes to read it from
  have hne : ¬s.isEmpty = true := by
    intro hnil
    have hlt := length_of_read h
    rw [List.isEmpty_iff.1 hnil] at hlt
    exact Nat.not_lt_zero _ hlt
  obtain ⟨⟨_, _, _⟩, hread, hvalue⟩ := map_eq_ok_iff.1 h
  cases hvalue
  rw [readAllAfter, if_neg hne, hread]

theorem readAllAfter_of_read_error (hne : s ≠ []) (h : read s = .error fault)
    (objects : List Object) : readAllAfter objects s = .error fault := by
  rw [readAllAfter, if_neg (fun hnil => hne (List.isEmpty_iff.1 hnil)), map_eq_error_iff.1 h]

/-- Objects that were read before stand in front. -/
theorem readAllAfter_eq (objects : List Object) (s : Bytes) :
    readAllAfter objects s = (readAll s).map (objects.reverse ++ ·) := by
  unfold readAll
  -- on the bytes that are left, for all that was read before
  induction hlen : s.length using Nat.strongRecOn generalizing s objects with
  | ind n ih =>
    by_cases hne : s = []
    · rw [hne, readAllAfter_nil, readAllAfter_nil]
      exact congrArg Except.ok (List.append_nil _).symm
    · cases hread : read s with
      | error fault =>
        rw [readAllAfter_of_read_error hne hread, readAllAfter_of_read_error hne hread]
        rfl
      | ok reading =>
        obtain ⟨object, rest⟩ := reading
        -- the object took at least a byte, so the induction goes down
        have hlt : rest.length < n := hlen ▸ length_of_read hread
        rw [readAllAfter_of_read hread, readAllAfter_of_read hread, ih _ hlt _ _ rfl,
          ih _ hlt [object] _ rfl]
        cases readAllAfter [] rest with
        | error fault => rfl
        | ok read => simp [Except.map]

@[simp] theorem readAll_nil : readAll [] = .ok [] := readAllAfter_nil []

/-- **The first object is read, and then all others.** -/
theorem readAll_of_read (h : read s = .ok (object, rest)) :
    readAll s = (readAll rest).map (object :: ·) := by
  unfold readAll
  rw [readAllAfter_of_read h, readAllAfter_eq]
  rfl

theorem readAll_of_read_error (hne : s ≠ []) (h : read s = .error fault) :
    readAll s = .error fault :=
  readAllAfter_of_read_error hne h []

end SmartCard.Ber
