import SmartCard.Proofs.Bytes.BigEndian
import SmartCard.Proofs.Tlv.Grammar

/-!
# The shortest form of an object

An object is written in its shortest form (`Ber.Object.encode`) if each length field in it has as
few bytes as the length allows (`Ber.shortestLength`, `Ber.lengthSize_le_of_isLength`). This takes
lengths of at most four bytes, and tags that are tags (`Ber.Object.WellFormed`). The shortest form
has the bytes that the reader counts (`Ber.Object.length_encode`), so it is spelled both as BER-TLV
has it and as the reader expects it (`Ber.Object.spells_encode`), and is read back, whatever comes
after it (`Ber.read_encode`).

`Ber.encodeLength`, which writes lengths of at most three bytes, writes the shortest length field as
long as the length has no more (`Ber.encodeLength_of_lt`), and drops what does not fit otherwise
(`Ber.isLength_encodeLength`).

`Ber.Decodes` says of given data that each object taken from it is spelled as BER-TLV has it. Data
in the shortest form is decoded, also if something follows that is no object
(`Ber.decodes_encodeAll_append`). -/

namespace SmartCard.Ber

variable {s rest tail field contents : Bytes} {n : Nat} {header : Header} {object : Object}
  {objects parts : List Object}

/-! ### Length fields -/

/-- The shortest length field for a number of at most four bytes. -/
def shortestLength (n : Nat) : Bytes :=
  if n < 128 then [n.toUInt8]
  else (128 + (lengthSize n - 1)).toUInt8 :: (BigEndian.ofNat (lengthSize n - 1) n).toList

theorem lengthSize_of_lt (h : n < 128) : lengthSize n = 1 := if_pos h

/-- The number has as many bytes as its length field says. -/
theorem lengthSize_spec (h : 128 ≤ n) (hlt : n < 2 ^ 32) :
    2 ≤ lengthSize n ∧ lengthSize n ≤ 5 ∧ n < 256 ^ (lengthSize n - 1) := by
  unfold lengthSize
  rw [if_neg (Nat.not_lt.2 h)]
  -- five cases of the size, each with its own power of 256
  repeat' split
  all_goals omega

@[simp] theorem length_shortestLength (n : Nat) : (shortestLength n).length = lengthSize n := by
  unfold shortestLength
  by_cases hshort : n < 128
  · rw [if_pos hshort, lengthSize_of_lt hshort]
    rfl
  · have hpos : 2 ≤ lengthSize n := by
      unfold lengthSize
      rw [if_neg hshort]
      repeat' split
      all_goals decide
    rw [if_neg hshort, List.length_cons, Block.length_toList]
    omega

/-- **The shortest length field is one.** -/
theorem isLength_shortestLength (h : n < 2 ^ 32) : IsLength n (shortestLength n) := by
  unfold shortestLength
  by_cases hshort : n < 128
  · rw [if_pos hshort]
    exact .short hshort
  · obtain ⟨hlow, hhigh, hfits⟩ := lengthSize_spec (Nat.not_lt.1 hshort) h
    have hlen : (BigEndian.ofNat (lengthSize n - 1) n).toList.length = lengthSize n - 1 :=
      Block.length_toList _
    have hne : (BigEndian.ofNat (lengthSize n - 1) n).toList ≠ [] := by
      apply List.ne_nil_of_length_pos
      omega
    -- the bytes after the first one hold the number, so they tell it again
    have hlong := IsLength.long hne (by omega)
    rw [hlen, BigEndian.toNat_ofNat hfits] at hlong
    rw [if_neg hshort]
    exact hlong

/-- **No length field is shorter.** -/
theorem lengthSize_le_of_isLength (h : IsLength n field) : lengthSize n ≤ field.length := by
  cases h with
  | short hlt => rw [lengthSize_of_lt hlt, List.length_singleton]
  | @long digits hne hlen =>
    have hlt := BigEndian.toNat_lt digits
    have hpos := List.length_pos_iff.2 hne
    -- which of the four it is decides how large the number can be
    obtain hone | htwo | hthree | hfour : digits.length = 1 ∨ digits.length = 2 ∨
        digits.length = 3 ∨ digits.length = 4 := by omega
    all_goals
      simp only [*] at hlt
      rw [List.length_cons]
      unfold lengthSize
      repeat' split
      all_goals omega

/-- A length of less than four bytes is written in its shortest form. -/
theorem encodeLength_of_lt (h : n < 2 ^ 24) : encodeLength n = shortestLength n := by
  unfold encodeLength shortestLength lengthSize
  by_cases hshort : n < 128
  · rw [if_pos hshort, if_pos hshort]
  · rw [if_neg hshort, if_neg hshort, if_neg hshort]
    by_cases hone : n < 256
    · rw [if_pos hone, if_pos hone]
      rfl
    · rw [if_neg hone, if_neg hone]
      by_cases htwo : n < 65536
      · rw [if_pos htwo, if_pos htwo]
        rfl
      · -- the third byte is divided out twice by the writer, and at once by the reader
        rw [if_neg htwo, if_neg htwo, if_pos (show n < 16777216 from h),
          show n / 65536 = n / 256 / 256 by omega]
        rfl

/-- **What is written is a length field, for what the last three bytes hold.** -/
theorem isLength_encodeLength (n : Nat) : IsLength (n % 2 ^ 24) (encodeLength n) := by
  by_cases h : n < 2 ^ 24
  · rw [Nat.mod_eq_of_lt h, encodeLength_of_lt h]
    exact isLength_shortestLength (Nat.lt_trans h (by decide))
  · -- four bytes and more take the branch of three, and the byte above them is dropped
    have hlong : encodeLength n = 0x83 :: (BigEndian.ofNat 3 n).toList := by
      unfold encodeLength
      rw [if_neg (by omega), if_neg (by omega), if_neg (by omega),
        show n / 65536 = n / 256 / 256 by omega]
      rfl
    have hne : (BigEndian.ofNat 3 n).toList ≠ [] := List.cons_ne_nil _ _
    have hlen : (BigEndian.ofNat 3 n).toList.length = 3 := Block.length_toList _
    have hfield := IsLength.long hne (by omega)
    rw [BigEndian.toNat_ofNat_mod, hlen] at hfield
    rw [hlong]
    exact hfield

/-- So a reader finds that much, whatever comes after it. -/
theorem readLength_encodeLength (n : Nat) (rest : Bytes) :
    readLength (encodeLength n ++ rest) = .ok (n % 2 ^ 24, rest) :=
  readLength_eq_ok_iff.2 ⟨_, .inl (isLength_encodeLength n), rfl⟩

/-- A field tells one length. -/
theorem IsLength.unique {m : Nat} (hn : IsLength n field) (hm : IsLength m field) : n = m := by
  -- a field of its own is read with nothing left, and reading has one outcome
  have hreads : ∀ {k}, IsLength k field → readLength field = .ok (k, []) := fun h =>
    readLength_eq_ok_iff.2 ⟨field, .inl h, (List.append_nil field).symm⟩
  exact (Prod.mk.inj (Except.ok.inj ((hreads hn).symm.trans (hreads hm)))).1

/-- **A length is written rightly if it has less than four bytes**, and no other one is. -/
theorem isLength_encodeLength_iff : IsLength n (encodeLength n) ↔ n < 2 ^ 24 := by
  constructor
  · intro h
    rw [h.unique (isLength_encodeLength n)]
    exact Nat.mod_lt _ (by decide)
  · intro h
    -- nothing is dropped below 2 ^ 24, so the field is that of the number itself
    have hfield := isLength_encodeLength n
    rwa [Nat.mod_eq_of_lt h] at hfield

/-! ### Objects -/

mutual

/-- The bytes of an object with the shortest length fields. -/
def Object.encode : Object → Bytes
  | .primitive tag value => tag ++ (shortestLength value.length ++ value)
  | .constructed tag parts =>
    tag ++ (shortestLength (encodeAll parts).length ++ encodeAll parts)

/-- The bytes of objects one after the other. -/
def encodeAll : List Object → Bytes
  | [] => []
  | object :: objects => object.encode ++ encodeAll objects

end

mutual

/-- **The shortest form is as long as the reader counts.** -/
theorem Object.length_encode : ∀ object : Object, object.encode.length = object.size
  | .primitive tag value => by
    simp only [Object.encode, Object.size, List.length_append, length_shortestLength]
    omega
  | .constructed tag parts => by
    simp only [Object.encode, Object.size, List.length_append, length_shortestLength,
      length_encodeAll parts]
    omega

theorem length_encodeAll : ∀ objects : List Object, (encodeAll objects).length = sizeAll objects
  | [] => rfl
  | object :: objects => by
    rw [encodeAll, sizeAll, List.length_append, Object.length_encode object,
      length_encodeAll objects]

end

mutual

/-- An object that can be written: with a tag that says what the object is, and with contents whose
length has at most four bytes. -/
def Object.WellFormed : Object → Prop
  | .primitive tag value => IsTag tag ∧ isConstructed tag = false ∧ value.length < 2 ^ 32
  | .constructed tag parts =>
    IsTag tag ∧ isConstructed tag = true ∧ sizeAll parts < 2 ^ 32 ∧ WellFormedAll parts

def WellFormedAll : List Object → Prop
  | [] => True
  | object :: objects => object.WellFormed ∧ WellFormedAll objects

end

theorem wellFormedAll_iff : WellFormedAll objects ↔ ∀ object ∈ objects, object.WellFormed := by
  induction objects with
  | nil => exact iff_of_true trivial nofun
  | cons object objects ih => rw [List.forall_mem_cons, ← ih, WellFormedAll]

mutual

instance decidableWellFormed : ∀ object : Object, Decidable object.WellFormed
  | .primitive tag value =>
    inferInstanceAs (Decidable (IsTag tag ∧ isConstructed tag = false ∧ value.length < 2 ^ 32))
  | .constructed tag parts =>
    have := decidableWellFormedAll parts
    inferInstanceAs (Decidable (IsTag tag ∧ isConstructed tag = true ∧ sizeAll parts < 2 ^ 32 ∧
      WellFormedAll parts))

instance decidableWellFormedAll : ∀ objects : List Object, Decidable (WellFormedAll objects)
  | [] => .isTrue trivial
  | object :: objects =>
    have := decidableWellFormed object
    have := decidableWellFormedAll objects
    inferInstanceAs (Decidable (object.WellFormed ∧ WellFormedAll objects))

end

section

variable {form : Object → Bytes → Bytes → Prop}

mutual

/-- The shortest form is spelled in each way that knows the shortest length fields. -/
theorem Object.spells_encode
    (hform : ∀ {object contents}, contents.length = object.contentSize →
      contents.length < 2 ^ 32 → form object (shortestLength contents.length) contents) :
    ∀ object : Object, object.WellFormed → Spells form object object.encode
  | .primitive tag value, ⟨htag, hvalue, hlt⟩ => by
    rw [Object.encode]
    exact .primitive htag hvalue (hform rfl hlt)
  | .constructed tag parts, ⟨htag, hparts, hlt, hall⟩ => by
    rw [Object.encode]
    -- the contents are spelled first, and their size is what the length field tells
    refine .constructed htag hparts (spellsAll_encodeAll hform parts hall) ?_
    exact hform (length_encodeAll parts) (length_encodeAll parts ▸ hlt)

theorem spellsAll_encodeAll
    (hform : ∀ {object contents}, contents.length = object.contentSize →
      contents.length < 2 ^ 32 → form object (shortestLength contents.length) contents) :
    ∀ objects : List Object, WellFormedAll objects → SpellsAll form objects (encodeAll objects)
  | [], _ => .nil
  | object :: objects, ⟨hobject, hobjects⟩ => by
    rw [encodeAll]
    exact .cons (object.spells_encode hform hobject) (spellsAll_encodeAll hform objects hobjects)

end

end

/-- The shortest length field tells how many bytes follow. -/
theorem exact_shortestLength (_ : contents.length = object.contentSize)
    (hlt : contents.length < 2 ^ 32) : exact object (shortestLength contents.length) contents :=
  isLength_shortestLength hlt

theorem counted_shortestLength (hsize : contents.length = object.contentSize)
    (hlt : contents.length < 2 ^ 32) :
    counted object (shortestLength contents.length) contents :=
  .inl (hsize ▸ isLength_shortestLength hlt)

/-- **The shortest form is read**, whatever comes after it. -/
theorem read_encode (h : object.WellFormed) (rest : Bytes) :
    read (object.encode ++ rest) = .ok (object, rest) :=
  read_of_spells object (object.spells_encode counted_shortestLength h) rest

/-- **Objects in their shortest form are read one after the other**, and nothing else is. -/
theorem readAll_encodeAll (h : ∀ object ∈ objects, object.WellFormed) :
    readAll (encodeAll objects) = .ok objects :=
  readAll_eq_ok_iff.2 (spellsAll_encodeAll counted_shortestLength objects (wellFormedAll_iff.2 h))

/-! ### Data that is decoded -/

/-- The reader decodes the data: it takes a BER-TLV object from the front and returns the rest, and
so on up to the end or up to something that it refuses. -/
inductive Decodes : Bytes → Prop
  | refused {s : Bytes} {fault : TlvFault} : read s = .error fault → Decodes s
  | decoded {enc rest : Bytes} {object : Object} : Spells exact object enc →
      read (enc ++ rest) = .ok (object, rest) → Decodes rest → Decodes (enc ++ rest)

/-- An object of BER-TLV does not announce more bytes than follow. -/
theorem exists_readHeader_of_spells (h : Spells exact object s) (rest : Bytes) :
    ∃ header, readHeader (s ++ rest) = .ok header ∧ header.length ≤ header.rest.length := by
  -- whatever kind of object it is, it is a tag, a field and contents
  obtain ⟨tag, field, contents, htag, hfield, rfl⟩ : ∃ tag field contents, IsTag tag ∧
      IsLength contents.length field ∧ s = tag ++ (field ++ contents) := by
    cases h with
    | primitive htag _ hfield => exact ⟨_, _, _, htag, hfield, rfl⟩
    | constructed htag _ _ hfield => exact ⟨_, _, _, htag, hfield, rfl⟩
  refine ⟨⟨tag, contents.length, contents ++ rest⟩, ?_, ?_⟩
  · refine readHeader_eq_ok_iff.2 ⟨field, htag, .inl hfield, ?_⟩
    rw [List.append_assoc, List.append_assoc]
  · show contents.length ≤ (contents ++ rest).length
    rw [List.length_append]
    exact Nat.le_add_right _ _

/-- **Data that ends inside its first object is no BER-TLV.** -/
theorem not_spellsAll_exact (hheader : readHeader s = .ok header)
    (hcut : header.rest.length < header.length) : ¬SpellsAll exact objects s := by
  intro h
  cases h with
  | nil => cases hheader
  | cons hobject _ =>
    -- the header that was read is that of the first object, which has all its bytes
    obtain ⟨found, hfound, hfits⟩ := exists_readHeader_of_spells hobject _
    obtain rfl := Except.ok.inj (hfound.symm.trans hheader)
    exact Nat.not_lt.2 hfits hcut

/-- Data that is decoded to its end is spelled as BER-TLV has it. -/
theorem Decodes.spellsAll (hs : Decodes s) (h : readAll s = .ok objects) :
    SpellsAll exact objects s := by
  -- on the objects that the reader takes, from the front
  induction hs generalizing objects with
  | refused hfault =>
    rcases readAll_cases h with ⟨rfl, rfl⟩ | ⟨object, rest, others, hread, -, -⟩
    · exact .nil
    · rw [hfault] at hread
      cases hread
  | decoded henc hread _ ih =>
    rw [readAll_of_read hread] at h
    obtain ⟨others, hothers, rfl⟩ := map_eq_ok_iff.1 h
    exact .cons henc (ih hothers)

/-- **Objects in their shortest form are decoded**, and then what follows them is. -/
theorem decodes_encodeAll_append (h : ∀ object ∈ objects, object.WellFormed)
    (htail : Decodes tail) : Decodes (encodeAll objects ++ tail) := by
  induction objects with
  | nil => exact htail
  | cons object objects ih =>
    obtain ⟨hobject, hobjects⟩ := List.forall_mem_cons.1 h
    rw [encodeAll, List.append_assoc]
    exact .decoded (object.spells_encode exact_shortestLength hobject) (read_encode hobject _)
      (ih hobjects)

end SmartCard.Ber
