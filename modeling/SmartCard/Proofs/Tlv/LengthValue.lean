import SmartCard.Proofs.Outcome
import SmartCard.Tlv.LengthValue

/-!
# Length-value fields and their lengths

Fields are written one after the other, each with its length before it, unless one of them is longer
than its length byte can tell (`LengthValue.encode_eq_ok_iff`). The first such field is what the
error is about (`LengthValue.exists_of_encode_eq_error`).

Each field tells where it ends, so the fields can be found again (`LengthValue.readAll`). What is
read from data are the fields that were written to it, and no others
(`LengthValue.readAll_eq_some_iff`).

Fields are written to a buffer (`LengthValue.put`). A field that is too long leaves nothing in it
(`LengthValue.run_put`), so after any number of calls the buffer holds the fields of those that have
succeeded (`LengthValue.run_putEach`). -/

namespace SmartCard.LengthValue

variable {fields : List Bytes} {written value data : Bytes} {e : Error}

/-! ### Writing -/

/-- A field with its length. -/
def field (value : Bytes) : Bytes := value.length.toUInt8 :: value

theorem append_eq_ok_iff : append written value = .ok data ↔
    value.length < 256 ∧ written ++ field value = data := by
  unfold append field
  by_cases hlen : value.length < 256
  · simp [hlen]
  · simp [hlen]

theorem append_eq_error_iff : append written value = .error e ↔
    256 ≤ value.length ∧ .protocol (.fieldTooLong value.length) = e := by
  unfold append
  by_cases hlen : value.length < 256
  · simp [hlen, Nat.not_le.2 hlen]
  · simp [hlen, Nat.not_lt.1 hlen]

/-- Fields go after what was written before. -/
theorem foldlM_append_eq_ok_iff : fields.foldlM append written = .ok data ↔
    (∀ value ∈ fields, value.length < 256) ∧ written ++ fields.flatMap field = data := by
  -- on the fields, for all that was written before
  induction fields generalizing written with
  | nil => simp [pure_eq_ok_iff]
  | cons value fields ih =>
    rw [List.foldlM_cons, bind_eq_ok_iff]
    constructor
    · rintro ⟨next, hnext, hrest⟩
      obtain ⟨hlen, rfl⟩ := append_eq_ok_iff.1 hnext
      obtain ⟨hfields, rfl⟩ := ih.1 hrest
      -- each field goes behind what there was, and the rest behind both
      exact ⟨List.forall_mem_cons.2 ⟨hlen, hfields⟩, by rw [List.flatMap_cons, List.append_assoc]⟩
    · rintro ⟨hfields, rfl⟩
      obtain ⟨hlen, hfields⟩ := List.forall_mem_cons.1 hfields
      exact ⟨_, append_eq_ok_iff.2 ⟨hlen, rfl⟩, ih.2 ⟨hfields, by
        rw [List.flatMap_cons, List.append_assoc]⟩⟩

/-- **Fields are written exactly if each of them has at most 255 bytes.** -/
theorem encode_eq_ok_iff : encode fields = .ok data ↔
    (∀ value ∈ fields, value.length < 256) ∧ fields.flatMap field = data := by
  unfold encode
  rw [foldlM_append_eq_ok_iff, List.nil_append]

theorem exists_of_foldlM_append_eq_error (h : fields.foldlM append written = .error e) :
    ∃ value ∈ fields, 256 ≤ value.length ∧ .protocol (.fieldTooLong value.length) = e := by
  induction fields generalizing written with
  | nil => cases h
  | cons value fields ih =>
    rw [List.foldlM_cons] at h
    rcases bind_eq_error_iff.1 h with hvalue | ⟨next, -, hrest⟩
    · -- the first field was too long, or one of the others was
      obtain ⟨hlen, rfl⟩ := append_eq_error_iff.1 hvalue
      exact ⟨value, List.mem_cons_self, hlen, rfl⟩
    · obtain ⟨longer, hmem, hlen, rfl⟩ := ih hrest
      exact ⟨longer, List.mem_cons_of_mem _ hmem, hlen, rfl⟩

/-- **What cannot be written is a field that is too long.** -/
theorem exists_of_encode_eq_error (h : encode fields = .error e) :
    ∃ value ∈ fields, 256 ≤ value.length ∧ .protocol (.fieldTooLong value.length) = e :=
  exists_of_foldlM_append_eq_error h

/-! ### Reading -/

/-- Reads fields one after the other, up to the end of the data. -/
def readAll : Bytes → Option (List Bytes)
  | [] => some []
  | length :: s =>
    if length.toNat ≤ s.length then
      (readAll (s.drop length.toNat)).map (s.take length.toNat :: ·)
    else none
termination_by s => s.length
decreasing_by
  rw [List.length_drop, List.length_cons]
  omega

/-- A field is read as it was written, whatever follows it. -/
theorem readAll_field_append (hlen : value.length < 256) (rest : Bytes) :
    readAll (field value ++ rest) = (readAll rest).map (value :: ·) := by
  have hbyte : value.length.toUInt8.toNat = value.length := UInt8.toNat_ofNat_of_lt' hlen
  have henough : value.length ≤ (value ++ rest).length := by
    rw [List.length_append]
    omega
  unfold field
  rw [List.cons_append, readAll, hbyte, if_pos henough, List.take_left, List.drop_left]

/-- What is read was written. -/
theorem eq_of_readAll (h : readAll data = some fields) :
    (∀ value ∈ fields, value.length < 256) ∧ fields.flatMap field = data := by
  -- along the reader, which takes one field after the other
  induction data using readAll.induct generalizing fields with
  | case1 =>
    rw [readAll] at h
    cases h
    exact ⟨nofun, rfl⟩
  | case2 length s henough ih =>
    rw [readAll, if_pos henough] at h
    obtain ⟨others, hothers, rfl⟩ := Option.map_eq_some_iff.1 h
    obtain ⟨hfits, hdata⟩ := ih hothers
    -- the length was there, so as many bytes were taken
    have hlen : (s.take length.toNat).length = length.toNat := List.length_take_of_le henough
    have hfield : field (s.take length.toNat) = length :: s.take length.toNat := by
      unfold field
      rw [hlen, Nat.toUInt8_eq, UInt8.ofNat_toNat]
    constructor
    · exact List.forall_mem_cons.2 ⟨by rw [hlen]; exact length.toNat_lt, hfits⟩
    · rw [List.flatMap_cons, hdata, hfield, List.cons_append, List.take_append_drop]
  | case3 length s hshort =>
    rw [readAll, if_neg hshort] at h
    cases h

/-- **The fields that are read are those that were written.** -/
theorem readAll_eq_some_iff : readAll data = some fields ↔ encode fields = .ok data := by
  rw [encode_eq_ok_iff]
  constructor
  · exact eq_of_readAll
  · rintro ⟨hfits, rfl⟩
    induction fields with
    | nil => rw [List.flatMap_nil, readAll]
    -- the first field is taken off again, and the rest is read by induction
    | cons value fields ih =>
      obtain ⟨hvalue, hfits⟩ := List.forall_mem_cons.1 hfits
      rw [List.flatMap_cons, readAll_field_append hvalue, ih hfits, Option.map_some]

/-! ### Writing to a buffer -/

/-- Writes a field to a buffer. Its length is looked at before anything is written. -/
def put (value : Bytes) : ExceptT Error (StateM Bytes) Unit := do
  if 256 ≤ value.length then throw (.protocol (.fieldTooLong value.length))
  modify (· ++ [value.length.toUInt8])
  modify (· ++ value)

/-- What such a call comes to. -/
def verdict (value : Bytes) : Except Error Unit :=
  if value.length < 256 then .ok () else .error (.protocol (.fieldTooLong value.length))

theorem append_eq (written value : Bytes) :
    append written value = (verdict value).map fun _ => written ++ field value := by
  unfold append verdict
  by_cases hlen : value.length < 256
  · rw [if_pos hlen, if_pos hlen]
    rfl
  · rw [if_neg hlen, if_neg hlen]
    rfl

/-- **A field is appended to the buffer, or leaves it as it is.** -/
theorem run_put (value buffer : Bytes) : (put value).run buffer =
    (verdict value, if value.length < 256 then buffer ++ field value else buffer) := by
  unfold put verdict
  by_cases hlen : value.length < 256
  · -- the length goes in first and the value after it, once the check has passed
    rw [if_neg (Nat.not_le.2 hlen), if_pos hlen, if_pos hlen, field, List.append_cons]
    rfl
  · rw [if_pos (Nat.not_lt.1 hlen), if_neg hlen, if_neg hlen]
    rfl

/-- What comes after a field is written behind it, or not at all. -/
theorem run_put_bind (value buffer : Bytes) (rest : ExceptT Error (StateM Bytes) Unit) :
    (put value >>= fun _ => rest).run buffer =
      if value.length < 256 then rest.run (buffer ++ field value)
      else (verdict value, buffer) := by
  change (match (put value).run buffer with
    | (outcome, next) => (ExceptT.bindCont (fun _ => rest) outcome : StateM Bytes _) next) = _
  rw [run_put]
  unfold verdict
  by_cases hlen : value.length < 256
  · rw [if_pos hlen, if_pos hlen, if_pos hlen]
    rfl
  · rw [if_neg hlen, if_neg hlen, if_neg hlen]
    rfl

/-- Fields are encoded by writing them to an empty buffer, up to the first one that fails. -/
theorem encode_eq_run_put (fields : List Bytes) : encode fields =
    ((fields.forM put).run []).1.map fun _ => ((fields.forM put).run []).2 := by
  unfold encode
  -- on the fields, for all that the buffer held before
  generalize ([] : Bytes) = buffer
  induction fields generalizing buffer with
  | nil => rfl
  | cons value fields ih =>
    have hforM : (value :: fields).forM put = put value >>= fun _ => fields.forM put := rfl
    rw [List.foldlM_cons, append_eq, hforM, run_put_bind]
    -- the first field that fails ends both, and nothing comes after it
    unfold verdict
    by_cases hlen : value.length < 256
    · rw [if_pos hlen, if_pos hlen]
      exact ih (buffer ++ field value)
    · rw [if_neg hlen, if_neg hlen]
      rfl

/-- Calls one after the other on one buffer, each with its own outcome. -/
def putEach (values : List Bytes) : StateM Bytes (List (Except Error Unit)) :=
  values.mapM fun value => (put value).run

/-- **The buffer holds the fields of the calls that have succeeded**, and nothing of the others. -/
theorem run_putEach (values : List Bytes) (buffer : Bytes) : (putEach values).run buffer =
    (values.map verdict, buffer ++ (values.filter (·.length < 256)).flatMap field) := by
  -- on the calls, for all that the buffer held before
  induction values generalizing buffer with
  | nil =>
    rw [List.filter_nil, List.flatMap_nil, List.append_nil]
    rfl
  | cons value values ih =>
    have hcons : (putEach (value :: values)).run buffer =
        (((put value).run buffer).1 :: ((putEach values).run ((put value).run buffer).2).1,
          ((putEach values).run ((put value).run buffer).2).2) := by
      unfold putEach
      rw [List.mapM_cons]
      rfl
    rw [hcons, run_put, ih, List.map_cons]
    by_cases hlen : value.length < 256
    · have hfilter : (value :: values).filter (·.length < 256) =
          value :: values.filter (·.length < 256) :=
        -- a call that has failed leaves the buffer to the next one
        List.filter_cons_of_pos (decide_eq_true hlen)
      rw [if_pos hlen, hfilter, List.flatMap_cons, List.append_assoc]
    · have hfilter : (value :: values).filter (·.length < 256) =
          values.filter (·.length < 256) :=
        List.filter_cons_of_neg (mt of_decide_eq_true hlen)
      rw [if_neg hlen, hfilter]

end SmartCard.LengthValue
