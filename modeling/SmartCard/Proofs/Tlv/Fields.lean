import SmartCard.Proofs.Bytes.BigEndian
import SmartCard.Proofs.Management.Blocks
import SmartCard.Proofs.Tlv.Ber

/-!
# Tagged fields and their readers

Commands carry tagged fields that are written as SIMPLE-TLV objects (`SimpleTlv.field`), and cards
read such fields as BER-TLV. The two formats have the same tags, and the same lengths as long as
these are below 128. From there on a length byte means two things: SIMPLE-TLV counts on to 254, and
BER-TLV takes it for the number of length bytes that follow.

* `SimpleTlv.read_field` — a field with a value of less than 128 bytes is read as it was written;
* `SimpleTlv.read_field_ne` — no longer one is, whichever field follows it in the same data;
* `SimpleTlv.readsBack_iff` — so fields one after the other are read back exactly if each of them
  has less than 128 bytes.

The second point is the one with an argument. A reader that takes the length byte `80 + k` for `k`
length bytes still finds a value of `128 + k` bytes if these say so, but one that starts `k` bytes
later. For the two values to be equal, each byte would have to be the one `k` places before it, up
to the tag of the next field, which would then be one of the length bytes
(`SimpleTlv.mem_take_of_shifted`).

`SimpleTlv.fields_readBack` says it for each of the commands that have tagged fields, and
`SimpleTlv.parameters_misread` is a field that is read as two. -/

namespace SmartCard.SimpleTlv

variable {tag : UInt8} {value rest after data : Bytes} {fields : List (UInt8 × Bytes)}

/-! ### One field -/

/-- The bytes of a field. -/
def field (tag : UInt8) (value : Bytes) : Bytes := tag :: (length value.length ++ value)

theorem encode_eq_ok_iff : encode tag value = .ok data ↔
    ¬(tag = 0x00 ∨ tag = 0xFF) ∧ value.length ≤ 65536 ∧ field tag value = data := by
  unfold encode
  -- two checks and a tag in front, as the writer has them
  rw [guard_eq_ok_iff, guard_eq_ok_iff, Nat.not_lt, Except.ok.injEq]
  rfl

/-- The tags of the fields that commands carry. -/
def fieldTags : List UInt8 :=
  [Tag.aid, Tag.issuerNumber, Tag.cardImageNumber, Tag.installParameters]

/-- Each of these tags is one byte of both formats, and marks a value. -/
theorem primitive_of_mem : ∀ tag ∈ fieldTags,
    tag ≠ 0 ∧ Ber.tagContinues tag = false ∧ Ber.isConstructed [tag] = false := by
  decide +kernel

/-- None of these tags is a byte that could stand in a misread length. -/
theorem ne_of_mem : ∀ tag ∈ fieldTags, tag ≠ 0 ∧ ∀ k < 5, tag ≠ (128 + k).toUInt8 := by
  decide +kernel

/-- After the tag of a field, the length is read as BER-TLV has it. -/
theorem readHeader_field (htag : tag ∈ fieldTags) (value rest : Bytes) :
    Ber.readHeader (field tag value ++ rest) =
      (Ber.readLength (length value.length ++ (value ++ rest))).map
        fun found => ⟨[tag], found.1, found.2⟩ := by
  obtain ⟨hne, hends, -⟩ := primitive_of_mem tag htag
  unfold field
  rw [List.cons_append, List.append_assoc, Ber.readHeader_singleton hne hends]

/-- **A short value is read as it was written.** -/
theorem read_field (htag : tag ∈ fieldTags) (hshort : value.length < 128) (rest : Bytes) :
    Ber.read (field tag value ++ rest) = .ok (.primitive [tag] value, rest) := by
  obtain ⟨-, -, hvalue⟩ := primitive_of_mem tag htag
  -- below 128 the length is one byte, the same in both formats
  have hlength : length value.length = [value.length.toUInt8] :=
    if_pos (Nat.lt_trans hshort (by decide))
  have hheader : Ber.readHeader (field tag value ++ rest) =
      .ok ⟨[tag], value.length, value ++ rest⟩ := by
    rw [readHeader_field htag, hlength, List.singleton_append, Ber.readLength_of_lt hshort]
    rfl
  have hlen : ¬(value ++ rest).length < value.length := by
    rw [List.length_append]
    omega
  rw [Ber.read_of_readHeader hheader hvalue, if_neg hlen, List.take_left, List.drop_left]

/-! ### Long values -/

/-- What stands `k` places after itself, for `n` bytes, has no bytes but the first `k`. -/
theorem mem_take_of_shifted {w : Bytes} {k n j : Nat} {b : UInt8} (hpos : 0 < k)
    (hshift : (w.drop k).take n = w.take n) (hj : j < n + k) (hb : w[j]? = some b) :
    b ∈ w.take k := by
  -- on the place, which moves back by `k` until it is among the first
  induction j using Nat.strongRecOn with
  | ind j ih =>
    by_cases hfirst : j < k
    · have hget : (w.take k)[j]? = some b := by
        rw [List.getElem?_take_of_lt hfirst, hb]
      exact List.mem_of_getElem? hget
    · have hlt : j - k < n := by omega
      have hback : w[j - k]? = some b := by
        have hsame := congrArg (fun s : Bytes => s[j - k]?) hshift
        simp only [List.getElem?_take_of_lt hlt, List.getElem?_drop] at hsame
        rw [← hsame, show k + (j - k) = j by omega, hb]
      exact ih (j - k) (by omega) (by omega) hback

/-- A number below 256 in several bytes has no byte but zero and itself. -/
theorem eq_of_mem_of_toNat {s : Bytes} {n : Nat} {b : UInt8} (hn : BigEndian.toNat s = n)
    (hlt : n < 256) (hne : s ≠ []) (hb : b ∈ s) : b = 0 ∨ b = n.toUInt8 := by
  have hs : s = List.replicate (s.length - 1) 0 ++ [n.toUInt8] := by
    have hpos := List.length_pos_iff.2 hne
    -- as many bytes that stand for the same number are the same bytes
    apply BigEndian.toNat_inj
    · simp only [List.length_append, List.length_replicate, List.length_singleton]
      omega
    · have hbyte : n.toUInt8.toNat = n := UInt8.toNat_ofNat_of_lt' hlt
      rw [BigEndian.toNat_append, BigEndian.toNat_replicate_zero, BigEndian.toNat_cons, hbyte, hn]
      simp
  rw [hs] at hb
  -- the byte is one of the zeros in front, or the last one
  rcases List.mem_append.1 hb with hzero | hlast
  · exact .inl (List.eq_of_mem_replicate hzero)
  · exact .inr (List.mem_singleton.1 hlast)

/-- **The length of a long value is misread**, as the number of length bytes. -/
theorem readLength_of_long (hlong : 128 ≤ value.length) {n : Nat}
    (h : Ber.readLength (length value.length ++ (value ++ rest)) = .ok (n, after)) :
    value.length - 128 ≤ 4 ∧
      n = BigEndian.toNat ((value ++ rest).take (value.length - 128)) ∧
      after = (value ++ rest).drop (value.length - 128) := by
  unfold length at h
  split at h
  · rename_i hone
    rw [List.singleton_append, Ber.readLength_of_ge hlong (Nat.lt_succ_of_lt hone)] at h
    obtain ⟨hcount, h⟩ := guard_eq_ok_iff.1 h
    obtain ⟨-, h⟩ := guard_eq_ok_iff.1 h
    obtain ⟨hn, hafter⟩ := Prod.mk.inj (Except.ok.inj h)
    exact ⟨Nat.not_lt.1 hcount, hn.symm, hafter.symm⟩
  · -- the mark of a longer field announces more length bytes than there can be
    rw [List.cons_append, show (0xFF : UInt8) = (255 : Nat).toUInt8 from rfl,
      Ber.readLength_of_ge (by decide) (by decide), if_pos (by decide)] at h
    cases h

/-- The value that is found after a misread length is not the one that was written. -/
theorem take_drop_ne {k : Nat} (hlen : value.length = 128 + k) (hk : k < 5)
    (hnext : ∀ b ∈ rest.head?, b ∈ fieldTags)
    (hn : BigEndian.toNat ((value ++ rest).take k) = value.length)
    (hfits : value.length ≤ ((value ++ rest).drop k).length) :
    ((value ++ rest).drop k).take value.length ≠ value := by
  intro heq
  have hpos : 0 < k := by
    rcases Nat.eq_zero_or_pos k with rfl | hpos
    · -- no length bytes make an empty value
      rw [List.take_zero, BigEndian.toNat_nil] at hn
      omega
    · exact hpos
  have hshift : ((value ++ rest).drop k).take value.length =
      (value ++ rest).take value.length := by
    rw [heq, List.take_left]
  -- the value ends `k` bytes later, so there is a next field
  obtain ⟨next, more, rfl⟩ : ∃ next more, rest = next :: more := by
    cases rest with
    | nil =>
      rw [List.length_drop, List.append_nil] at hfits
      omega
    | cons next more => exact ⟨next, more, rfl⟩
  have hget : (value ++ next :: more)[value.length]? = some next := by
    rw [List.getElem?_append_right (Nat.le_refl _), Nat.sub_self]
    rfl
  have hmem := mem_take_of_shifted hpos hshift (by omega) hget
  have hne : (value ++ next :: more).take k ≠ [] := List.ne_nil_of_mem hmem
  obtain ⟨hzero, hother⟩ := ne_of_mem next (hnext next rfl)
  rcases eq_of_mem_of_toNat hn (by omega) hne hmem with h | h
  · -- both are ruled out by the tag that the next field starts with
    exact hzero h
  · exact hother k hk (by rw [h, hlen])

/-- **A long value is not read as it was written**, whether it is the last one or another field
follows. -/
theorem read_field_ne (htag : tag ∈ fieldTags) (hlong : 128 ≤ value.length)
    (hnext : ∀ b ∈ rest.head?, b ∈ fieldTags) :
    Ber.read (field tag value ++ rest) ≠ .ok (.primitive [tag] value, after) := by
  intro hread
  obtain ⟨-, -, hvalue⟩ := primitive_of_mem tag htag
  have hheader := readHeader_field htag value rest
  -- a length that cannot be read makes no object
  cases hlength : Ber.readLength (length value.length ++ (value ++ rest)) with
  | error fault =>
    rw [hlength] at hheader
    rw [Ber.read_of_readHeader_error hheader] at hread
    cases hread
  | ok found =>
    obtain ⟨n, found⟩ := found
    obtain ⟨hcount, hn, hfound⟩ := readLength_of_long hlong hlength
    rw [hlength] at hheader
    rw [Ber.read_of_readHeader hheader hvalue] at hread
    obtain ⟨hfits, hread⟩ := guard_eq_ok_iff.1 hread
    have htaken : found.take n = value :=
      (Ber.Object.primitive.inj (Prod.mk.inj (Except.ok.inj hread)).1).2
    -- the length that was misread is the right one all the same
    have hlen : n = value.length := by
      have htotal := congrArg List.length htaken
      rwa [List.length_take_of_le (Nat.not_lt.1 hfits)] at htotal
    have hfits' : value.length ≤ found.length := hlen ▸ Nat.not_lt.1 hfits
    rw [hlen] at htaken hn
    rw [hfound] at htaken hfits'
    exact take_drop_ne (by omega) (by omega) hnext hn.symm hfits' htaken

/-- **A value of 128 bytes is taken for an empty one**, and its own bytes are read as objects. -/
theorem read_field_of_length_eq (htag : tag ∈ fieldTags) (hlen : value.length = 128)
    (rest : Bytes) :
    Ber.read (field tag value ++ rest) = .ok (.primitive [tag] [], value ++ rest) := by
  obtain ⟨-, -, hvalue⟩ := primitive_of_mem tag htag
  have hlength : length value.length = [(128 : Nat).toUInt8] := by
    rw [hlen]
    rfl
  -- the length byte announces no length bytes, and so no value
  have hheader : Ber.readHeader (field tag value ++ rest) = .ok ⟨[tag], 0, value ++ rest⟩ := by
    rw [readHeader_field htag, hlength, List.singleton_append,
      Ber.readLength_of_ge (by decide) (by decide)]
    rfl
  rw [Ber.read_of_readHeader hheader hvalue]
  rfl

/-! ### Fields one after the other -/

/-- The bytes of fields one after the other. -/
def written (fields : List (UInt8 × Bytes)) : Bytes := fields.flatMap fun f => field f.1 f.2

/-- A reader of BER-TLV finds the fields, each as one value, and nothing else. -/
def ReadsBack (fields : List (UInt8 × Bytes)) (s : Bytes) : Prop :=
  Ber.readAll s = .ok (fields.map fun f => .primitive [f.1] f.2)

/-- Where a field can follow, its tag does. -/
theorem mem_head?_written (htags : ∀ f ∈ fields, f.1 ∈ fieldTags) :
    ∀ b ∈ (written fields).head?, b ∈ fieldTags := by
  cases fields with
  -- nothing follows, so there is no byte to look at
  | nil => intro b hb; cases hb
  | cons f fields =>
    intro b hb
    obtain rfl : f.1 = b := Option.some.inj hb
    exact htags f List.mem_cons_self

/-- **Fields are read back exactly if each of them has less than 128 bytes.** -/
theorem readsBack_iff (htags : ∀ f ∈ fields, f.1 ∈ fieldTags) :
    ReadsBack fields (written fields) ↔ ∀ f ∈ fields, f.2.length < 128 := by
  -- on the fields, of which the first that is too long is misread
  induction fields with
  | nil => exact ⟨fun _ f hf => (nomatch hf), fun _ => Ber.readAll_nil⟩
  | cons f fields ih =>
    obtain ⟨htag, htags⟩ := List.forall_mem_cons.1 htags
    rw [List.forall_mem_cons, ← ih htags]
    unfold ReadsBack
    change Ber.readAll (field f.1 f.2 ++ written fields) = _ ↔ _
    by_cases hshort : f.2.length < 128
    · -- this field is read, and the others have to be
      rw [Ber.readAll_of_read (read_field htag hshort _), map_eq_ok_iff]
      constructor
      · rintro ⟨objects, hobjects, heq⟩
        obtain ⟨-, rfl⟩ := List.cons.inj heq
        exact ⟨hshort, hobjects⟩
      · rintro ⟨-, hrest⟩
        exact ⟨_, hrest, rfl⟩
    · have hlong := Nat.not_lt.1 hshort
      -- the first field is too long, so neither side holds
      refine ⟨fun hall => ?_, fun h => absurd h.1 hshort⟩
      cases hread : Ber.read (field f.1 f.2 ++ written fields) with
      | error fault =>
        have hne : field f.1 f.2 ++ written fields ≠ [] := List.cons_ne_nil _ _
        rw [Ber.readAll_of_read_error hne hread] at hall
        cases hall
      | ok found =>
        obtain ⟨object, after⟩ := found
        rw [Ber.readAll_of_read hread] at hall
        obtain ⟨objects, -, heq⟩ := map_eq_ok_iff.1 hall
        -- an object was read, but not the one that was written
        obtain ⟨rfl, -⟩ := List.cons.inj heq
        exact absurd hread (read_field_ne htag hlong (mem_head?_written htags))

/-! ### Fields of commands -/

theorem taggedField_eq_ok_iff : Command.taggedField tag value = .ok data ↔
    encode tag value = .ok data := mapError_eq_ok_iff

/-- A field that was written is the only one. -/
theorem written_singleton (h : encode tag value = .ok data) : written [(tag, value)] = data := by
  obtain ⟨-, -, hfield⟩ := encode_eq_ok_iff.1 h
  rw [← hfield]
  exact List.append_nil _

/-- A single field is read back exactly if its value has less than 128 bytes. -/
theorem readsBack_encode_iff (htag : tag ∈ fieldTags) (h : encode tag value = .ok data) :
    ReadsBack [(tag, value)] data ↔ value.length < 128 := by
  have htags : ∀ f ∈ [(tag, value)], f.1 ∈ fieldTags := List.forall_mem_singleton.2 htag
  rw [← written_singleton h, readsBack_iff htags, List.forall_mem_singleton]

theorem encode_of_deleteWith {p2 : UInt8} {aid : Bytes} {command : Command}
    (h : Command.deleteWith p2 aid = .ok command) :
    encode Tag.aid aid = .ok command.dataBytes := by
  obtain ⟨field, hfield, hcommand⟩ := bind_eq_ok_iff.1 h
  rw [← pure_eq_ok_iff.1 hcommand, Command.dataBytes_withLe, Command.dataBytes_globalPlatform]
  exact taggedField_eq_ok_iff.1 hfield

theorem encode_of_getStatusOf {p1 p2 : UInt8} {aid : Bytes} {command : Command}
    (h : Command.getStatusOf p1 p2 aid = .ok command) :
    encode Tag.aid aid = .ok command.dataBytes := by
  obtain ⟨field, hfield, hcommand⟩ := bind_eq_ok_iff.1 h
  rw [← pure_eq_ok_iff.1 hcommand, Command.dataBytes_withLe, Command.dataBytes_globalPlatform]
  exact taggedField_eq_ok_iff.1 hfield

/-- The parameters of an installation are one tagged field among the fields with lengths. -/
theorem encode_of_installForInstall
    {loadFile module application privileges parameters token : Bytes} {command : Command}
    (h : Command.installForInstall loadFile module application privileges parameters token =
      .ok command) : ∃ field, encode Tag.installParameters parameters = .ok field ∧
      LengthValue.encode [loadFile, module, application, privileges, field, token] =
        .ok command.dataBytes := by
  obtain ⟨field, hfield, h⟩ := bind_eq_ok_iff.1 h
  obtain ⟨fields, hfields, hcommand⟩ := bind_eq_ok_iff.1 h
  refine ⟨field, taggedField_eq_ok_iff.1 hfield, ?_⟩
  rw [← pure_eq_ok_iff.1 hcommand, Command.install, Command.dataBytes_globalPlatform]
  exact hfields

/-- A field that may be left out. -/
def optional (tag : UInt8) (value : Option Bytes) : List (UInt8 × Bytes) :=
  (value.map (tag, ·)).toList

theorem written_optional {value : Option Bytes}
    (h : value.elim (.ok []) (Command.taggedField tag) = .ok data) :
    written (optional tag value) = data := by
  cases value with
  | none => exact Except.ok.inj h
  | some value => exact written_singleton (taggedField_eq_ok_iff.1 h)

/-- The fields of an identity that are given. -/
def identity (issuer image aid : Option Bytes) : List (UInt8 × Bytes) :=
  optional Tag.issuerNumber issuer ++ optional Tag.cardImageNumber image ++ optional Tag.aid aid

theorem mem_fieldTags_of_identity {issuer image aid : Option Bytes} :
    ∀ f ∈ identity issuer image aid, f.1 ∈ fieldTags := by
  intro f hf
  have hoptional : ∀ {tag value}, f ∈ optional tag value → f.1 = tag := by
    intro tag value h
    obtain ⟨value, -, rfl⟩ := Option.map_eq_some_iff.1 (Option.mem_toList.1 h)
    rfl
  unfold identity at hf
  rcases List.mem_append.1 hf with hf | haid
  · rcases List.mem_append.1 hf with hissuer | himage
    · rw [hoptional hissuer]
      decide
    · rw [hoptional himage]
      decide
  · rw [hoptional haid]
    decide

/-- The fields that are given are written one after the other. -/
theorem written_identity {issuer image aid : Option Bytes}
    (h : ContentManager.identityFields issuer image aid = .ok data) :
    written (identity issuer image aid) = data := by
  obtain ⟨first, hissuer, h⟩ := bind_eq_ok_iff.1 h
  obtain ⟨second, himage, h⟩ := bind_eq_ok_iff.1 h
  obtain ⟨third, haid, h⟩ := bind_eq_ok_iff.1 h
  calc written (identity issuer image aid)
      = written (optional Tag.issuerNumber issuer) ++
          written (optional Tag.cardImageNumber image) ++ written (optional Tag.aid aid) := by
        unfold written identity
        rw [List.flatMap_append, List.flatMap_append]
    _ = first ++ second ++ third := by
        rw [written_optional hissuer, written_optional himage, written_optional haid]
    _ = data := pure_eq_ok_iff.1 h

@[simp] theorem dataBytes_storeData (p1 number : UInt8) (data : Bytes) :
    (Command.storeData p1 number data).dataBytes = data :=
  Command.dataBytes_globalPlatform _ _ _ data

/-- The commands that store data carry them. -/
theorem flatMap_dataBytes_storeCommands (data : Bytes) :
    (ContentManager.storeCommands data).flatMap Command.dataBytes = data := by
  unfold ContentManager.storeCommands
  simp only [List.flatMap_map, dataBytes_storeData]
  rw [List.flatMap_def, List.zipIdx_map_fst, LoadFile.flatten_pieces (by decide)]

/-- **Tagged fields are read back exactly if their values have less than 128 bytes**: each one by
itself, the name in a command that deletes or one that asks for a registry entry, the parameters of
an installation, and the fields of an identity that the commands carry one after the other. -/
theorem fields_readBack (value : Bytes) (issuer image aid : Option Bytes) :
    (∀ tag ∈ fieldTags, ∀ data, encode tag value = .ok data →
      (ReadsBack [(tag, value)] data ↔ value.length < 128)) ∧
    (∀ p2 command, Command.deleteWith p2 value = .ok command →
      (ReadsBack [(Tag.aid, value)] command.dataBytes ↔ value.length < 128)) ∧
    (∀ p1 p2 command, Command.getStatusOf p1 p2 value = .ok command →
      (ReadsBack [(Tag.aid, value)] command.dataBytes ↔ value.length < 128)) ∧
    (∀ loadFile module application privileges token command,
      Command.installForInstall loadFile module application privileges value token =
        .ok command →
      ∃ field, LengthValue.encode [loadFile, module, application, privileges, field, token] =
          .ok command.dataBytes ∧
        (ReadsBack [(Tag.installParameters, value)] field ↔ value.length < 128)) ∧
    ∀ data, ContentManager.identityFields issuer image aid = .ok data →
      (ReadsBack (identity issuer image aid)
          ((ContentManager.storeCommands data).flatMap Command.dataBytes) ↔
        ∀ f ∈ identity issuer image aid, f.2.length < 128) := by
  have haid : Tag.aid ∈ fieldTags := by decide
  have hparameters : Tag.installParameters ∈ fieldTags := by decide
  refine ⟨?single, ?delete, ?registry, ?install, ?identity⟩
  case single =>
    intro tag htag data h
    exact readsBack_encode_iff htag h
  case delete =>
    intro p2 command h
    exact readsBack_encode_iff haid (encode_of_deleteWith h)
  case registry =>
    intro p1 p2 command h
    exact readsBack_encode_iff haid (encode_of_getStatusOf h)
  case install =>
    intro loadFile module application privileges token command h
    obtain ⟨field, hfield, hdata⟩ := encode_of_installForInstall h
    exact ⟨field, hdata, readsBack_encode_iff hparameters hfield⟩
  case identity =>
    intro data h
    rw [flatMap_dataBytes_storeCommands, ← written_identity h]
    exact readsBack_iff mem_fieldTags_of_identity

/-- The commands that delete the card manager, look it up, install it with two bytes of parameters,
and rename it. -/
theorem fields_readBack_cardManager :
    (∃ data, encode Tag.aid Aid.legacyCardManager = .ok data ∧
      ReadsBack [(Tag.aid, Aid.legacyCardManager)] data) ∧
    (∃ command, Command.deleteWith 0x80 Aid.legacyCardManager = .ok command ∧
      ReadsBack [(Tag.aid, Aid.legacyCardManager)] command.dataBytes) ∧
    (∃ command, Command.getStatusOf 0x80 0x02 Aid.legacyCardManager = .ok command ∧
      ReadsBack [(Tag.aid, Aid.legacyCardManager)] command.dataBytes) ∧
    (∃ command, Command.installForInstall Aid.legacyCardManager Aid.legacyCardManager
        Aid.legacyCardManager [0x00] [0xC9, 0x00] [] = .ok command ∧
      ∃ field, LengthValue.encode [Aid.legacyCardManager, Aid.legacyCardManager,
          Aid.legacyCardManager, [0x00], field, []] = .ok command.dataBytes ∧
        ReadsBack [(Tag.installParameters, [0xC9, 0x00])] field) ∧
    ∃ data, ContentManager.identityFields (some [0x42, 0x01]) none (some Aid.legacyCardManager) =
        .ok data ∧
      ReadsBack [(Tag.issuerNumber, [0x42, 0x01]), (Tag.aid, Aid.legacyCardManager)]
        ((ContentManager.storeCommands data).flatMap Command.dataBytes) := by
  obtain ⟨single, delete, registry, -, identity⟩ := fields_readBack Aid.legacyCardManager
    (some [0x42, 0x01]) none (some Aid.legacyCardManager)
  obtain ⟨-, -, -, install, -⟩ := fields_readBack [0xC9, 0x00] none none none
  refine ⟨⟨_, rfl, ?_⟩, ⟨_, rfl, ?_⟩, ⟨_, rfl, ?_⟩, ⟨_, rfl, ?_⟩, ⟨_, rfl, ?_⟩⟩
  · exact (single Tag.aid (by decide) _ rfl).2 (by decide)
  · exact (delete 0x80 _ rfl).2 (by decide)
  · exact (registry 0x80 0x02 _ rfl).2 (by decide)
  · obtain ⟨field, hdata, hreads⟩ := install Aid.legacyCardManager Aid.legacyCardManager
      Aid.legacyCardManager [0x00] [] _ rfl
    exact ⟨field, hdata, hreads.2 (by decide)⟩
  · exact (identity _ rfl).2 (by decide)

/-- Parameters of 128 bytes that start like the field of an issuer number. -/
def issuerLike : Bytes := field Tag.issuerNumber (List.replicate 126 0xAA)

/-- The installation parameters are read as an empty field and as an issuer number, though the
command that carries them was written without an error. -/
theorem parameters_misread :
    ∃ data, encode Tag.installParameters issuerLike = .ok data ∧
      (Command.installForInstall [] [] [] [] issuerLike []).isOk = true ∧
      Ber.readAll data = .ok [.primitive [Tag.installParameters] [],
        .primitive [Tag.issuerNumber] (List.replicate 126 0xAA)] ∧
      ¬ReadsBack [(Tag.installParameters, issuerLike)] data := by
  have hlen : issuerLike.length = 128 := by decide +kernel
  have htag : Tag.installParameters ∈ fieldTags := by decide
  have hencode : encode Tag.installParameters issuerLike =
      .ok (field Tag.installParameters issuerLike) :=
    encode_eq_ok_iff.2 ⟨by decide, by rw [hlen]; decide, rfl⟩
  have hfirst : Ber.read (field Tag.installParameters issuerLike) =
      .ok (.primitive [Tag.installParameters] [], issuerLike) := by
    have hread := read_field_of_length_eq htag hlen []
    rwa [List.append_nil, List.append_nil] at hread
  have hsecond : Ber.read issuerLike =
      .ok (.primitive [Tag.issuerNumber] (List.replicate 126 0xAA), []) := by
    have hread : Ber.read (field Tag.issuerNumber (List.replicate 126 0xAA) ++ []) =
        .ok (.primitive [Tag.issuerNumber] (List.replicate 126 0xAA), []) :=
      read_field (by decide) (by rw [List.length_replicate]; decide) []
    rwa [List.append_nil] at hread
  refine ⟨_, hencode, by decide +kernel, ?_, ?_⟩
  · -- an empty object, and its bytes taken for one more
    rw [Ber.readAll_of_read hfirst, Ber.readAll_of_read hsecond, Ber.readAll_nil]
    rfl
  · rw [readsBack_encode_iff htag hencode, hlen]
    decide

end SmartCard.SimpleTlv
