import Mathlib.Data.List.TakeWhile
import SmartCard.Proofs.Tlv.Ber

/-!
# The grammar of objects

A byte string spells an object (`Ber.Spells`) if it is a tag, a length field and the contents: the
value itself, or byte strings that spell the parts one after the other. What is left open is what
the length field tells, and there are two answers to that:

* in BER-TLV it tells how many bytes the contents have (`Ber.exact`);
* to the reader it tells how many bytes they have in their shortest form (`Ber.counted`).

The two agree on values, and on objects whose parts are in their shortest form. With parts in a
longer form they differ, and the reader goes on beyond the end of the object or refuses it.

The reader takes exactly what is spelled in its own way: `Ber.read_eq_ok_iff` says it of an object
at the front, and `Ber.readAll_eq_ok_iff` of data that is one object after the other. -/

namespace SmartCard.Ber

variable {s rest tag field contents value digits : Bytes} {n : Nat} {header : Header}
  {object : Object} {objects parts : List Object} {fault : TlvFault}

/-! ### Tags -/

/-- The bytes of a tag. Bytes after the first one have their top bit set up to the last one. -/
inductive IsTag : Bytes → Prop
  | one {a : UInt8} : a ≠ 0 → tagContinues a = false → IsTag [a]
  | two {a b : UInt8} : tagContinues a = true → b < 0x80 → IsTag [a, b]
  | three {a b c : UInt8} : tagContinues a = true → 0x80 ≤ b → c < 0x80 → IsTag [a, b, c]

/-- Bytes with their top bit set, up to the first one that ends the tag. -/
theorem split_of_dropWhile {last : UInt8} {more after : Bytes}
    (h : more.dropWhile (0x80 ≤ ·) = last :: after) :
    more = more.takeWhile (0x80 ≤ ·) ++ last :: after ∧
      (∀ b ∈ more.takeWhile (0x80 ≤ ·), 0x80 ≤ b) ∧ last < 0x80 := by
  refine ⟨by rw [← h, List.takeWhile_append_dropWhile], fun b hb => ?_, ?_⟩
  · simpa using List.mem_takeWhile_imp hb
  · -- the byte that ended the run of top bits has none itself
    have hne : more.dropWhile (0x80 ≤ ·) ≠ [] := by
      rw [h]
      exact List.cons_ne_nil _ _
    have hlast := List.head_dropWhile_not (fun b : UInt8 => decide (0x80 ≤ b)) hne
    simp only [h, List.head_cons, decide_eq_false_iff_not] at hlast
    exact UInt8.not_le.1 hlast

/-- A tag that goes on and has at most three bytes. -/
theorem isTag_of_tagContinues {first last : UInt8} {between : Bytes}
    (hgoes : tagContinues first = true) (hbetween : ∀ b ∈ between, 0x80 ≤ b) (hlast : last < 0x80)
    (hlen : (first :: between ++ [last]).length ≤ 3) : IsTag (first :: between ++ [last]) := by
  cases between with
  | nil => exact .two hgoes hlast
  | cons b between =>
    simp only [List.length_append, List.length_cons, List.length_nil] at hlen
    -- three bytes in all leave room for one between the first and the last
    obtain rfl : between = [] := List.length_eq_zero_iff.1 (by omega)
    exact .three hgoes (hbetween b List.mem_cons_self) hlast

/-- The bytes that make a tag, and what follows them. -/
theorem readTagBytes_eq_ok_iff (hlen : tag.length ≤ 3) (hne : tag ≠ [0x00]) :
    readTagBytes s = .ok (tag, rest) ↔ IsTag tag ∧ s = tag ++ rest := by
  constructor
  · intro h
    unfold readTagBytes at h
    split at h
    · cases h
    · rename_i first more
      by_cases hgoes : tagContinues first = true
      · rw [if_pos hgoes] at h
        split at h
        · cases h
        · -- the tag is what stands up to the byte without a top bit
          rename_i last after hdrop
          obtain ⟨hmore, hbetween, hlast⟩ := split_of_dropWhile hdrop
          obtain ⟨rfl, rfl⟩ := Prod.mk.inj (Except.ok.inj h)
          refine ⟨isTag_of_tagContinues hgoes hbetween hlast hlen, ?_⟩
          rw [List.append_assoc, List.singleton_append, List.cons_append, ← hmore]
      · rw [if_neg hgoes] at h
        obtain ⟨rfl, rfl⟩ := Prod.mk.inj (Except.ok.inj h)
        -- a single zero byte was excluded, and that is all `IsTag` asks of one byte
        have hfirst : first ≠ 0 := fun h => hne (by rw [h])
        exact ⟨.one hfirst (Bool.eq_false_iff.2 hgoes), rfl⟩
  · rintro ⟨htag, rfl⟩
    cases htag with
    | one _ hends => simp [readTagBytes, hends]
    | two hgoes hlast => simp [readTagBytes, hgoes, hlast]
    | three hgoes hmore hlast => simp [readTagBytes, hgoes, hmore, hlast]

/-- **A tag is read exactly if there is one.** -/
theorem readTag_eq_ok_iff : readTag s = .ok (tag, rest) ↔ IsTag tag ∧ s = tag ++ rest := by
  constructor
  · intro h
    unfold readTag at h
    split at h
    · cases h
    · rename_i bytes after hbytes
      obtain ⟨hne, h⟩ := guard_eq_ok_iff.1 h
      obtain ⟨hlen, h⟩ := guard_eq_ok_iff.1 h
      cases h
      exact (readTagBytes_eq_ok_iff (Nat.not_lt.1 hlen) hne).1 hbytes
  · rintro ⟨htag, hs⟩
    -- the two checks of the reader hold of every tag
    have hne : tag ≠ [0x00] := by
      rintro rfl
      cases htag with
      | one hzero _ => exact hzero rfl
    have hlen : tag.length ≤ 3 := by cases htag <;> simp
    unfold readTag
    rw [(readTagBytes_eq_ok_iff hlen hne).2 ⟨htag, hs⟩]
    exact guard_eq_ok_iff.2 ⟨hne, guard_eq_ok_iff.2 ⟨Nat.not_lt.2 hlen, rfl⟩⟩

theorem isTag_iff : IsTag tag ↔ readTag tag = .ok (tag, []) := by
  rw [readTag_eq_ok_iff, List.append_nil]
  exact (and_iff_left rfl).symm

instance (tag : Bytes) : Decidable (IsTag tag) :=
  decidable_of_iff (readTag tag = .ok (tag, [])) isTag_iff.symm

/-! ### Length fields -/

/-- The bytes of a length field: a number below 128 as one byte, or one to four bytes after a first
byte that tells how many they are. The field need not be the shortest one. -/
inductive IsLength : Nat → Bytes → Prop
  | short {n : Nat} : n < 128 → IsLength n [n.toUInt8]
  | long {digits : Bytes} : digits ≠ [] → digits.length ≤ 4 →
      IsLength (BigEndian.toNat digits) ((128 + digits.length).toUInt8 :: digits)

/-- What the reader takes for a length field: also a first byte that tells of no bytes. -/
def ReadsLength (n : Nat) (field : Bytes) : Prop := IsLength n field ∨ n = 0 ∧ field = [0x80]

theorem readLength_long (hlen : digits.length ≤ 4) (rest : Bytes) :
    readLength ((128 + digits.length).toUInt8 :: (digits ++ rest)) =
      .ok (BigEndian.toNat digits, rest) := by
  have hcount : 128 + digits.length - 128 = digits.length := Nat.add_sub_cancel_left _ _
  have henough : ¬(digits ++ rest).length < digits.length := by
    rw [List.length_append]
    omega
  rw [readLength_of_ge (Nat.le_add_right _ _) (by omega), hcount, if_neg (Nat.not_lt.2 hlen),
    if_neg henough, List.take_left, List.drop_left]

/-- The first byte and as many more as it tells are a length field. -/
theorem readsLength_of_le {more : Bytes} {m : Nat} (hge : 128 ≤ m) (hcount : m - 128 ≤ 4)
    (henough : m - 128 ≤ more.length) :
    ReadsLength (BigEndian.toNat (more.take (m - 128))) (m.toUInt8 :: more.take (m - 128)) := by
  have hlen : (more.take (m - 128)).length = m - 128 := List.length_take_of_le henough
  by_cases hnil : more.take (m - 128) = []
  · -- no bytes after the first one: this is the mark that the reader takes for zero
    have hmark : m = 128 := by
      rw [hnil, List.length_nil] at hlen
      omega
    rw [hnil, hmark]
    exact .inr ⟨rfl, rfl⟩
  · have hlong := IsLength.long hnil (Nat.le_trans (Nat.le_of_eq hlen) hcount)
    rw [hlen, Nat.add_sub_cancel' hge] at hlong
    exact .inl hlong

/-- **A length is read exactly if there is one.** -/
theorem readLength_eq_ok_iff :
    readLength s = .ok (n, rest) ↔ ∃ field, ReadsLength n field ∧ s = field ++ rest := by
  constructor
  · intro h
    cases s with
    | nil => cases h
    | cons first more =>
      obtain ⟨m, hm, rfl⟩ : ∃ m < 256, first = m.toUInt8 :=
        -- the byte by its number, which the lemmas on lengths are stated for
        ⟨first.toNat, first.toNat_lt, UInt8.ofNat_toNat.symm⟩
      by_cases hshort : m < 128
      · rw [readLength_of_lt hshort] at h
        obtain ⟨rfl, rfl⟩ := Prod.mk.inj (Except.ok.inj h)
        exact ⟨[m.toUInt8], .inl (.short hshort), rfl⟩
      · rw [readLength_of_ge (Nat.not_lt.1 hshort) hm] at h
        obtain ⟨hcount, h⟩ := guard_eq_ok_iff.1 h
        obtain ⟨henough, h⟩ := guard_eq_ok_iff.1 h
        obtain ⟨rfl, rfl⟩ := Prod.mk.inj (Except.ok.inj h)
        -- both checks have passed, so the bytes that are told of are there
        have hfield := readsLength_of_le (Nat.not_lt.1 hshort) (Nat.not_lt.1 hcount)
          (Nat.not_lt.1 henough)
        refine ⟨_, hfield, ?_⟩
        rw [List.cons_append, List.take_append_drop]
  · rintro ⟨field, hfield | ⟨rfl, rfl⟩, rfl⟩
    · cases hfield with
      | short hlt => exact readLength_of_lt hlt rest
      | long _ hlen => exact readLength_long hlen rest
    · -- the mark for zero is the case of no digits
      have hnone : ([] : Bytes).length ≤ 4 := Nat.zero_le 4
      exact readLength_long hnone rest

/-! ### Headers -/

theorem readHeader_eq_ok_iff : readHeader s = .ok header ↔ ∃ field,
    IsTag header.tag ∧ ReadsLength header.length field ∧
      s = header.tag ++ (field ++ header.rest) := by
  obtain ⟨tag, n, rest⟩ := header
  unfold readHeader
  rw [bind_eq_ok_iff]
  constructor
  · -- each step of the reader gives one part of the spelling
    rintro ⟨⟨found, afterTag⟩, hfound, h⟩
    obtain ⟨⟨count, after⟩, hcount, h⟩ := bind_eq_ok_iff.1 h
    cases pure_eq_ok_iff.1 h
    obtain ⟨htag, rfl⟩ := readTag_eq_ok_iff.1 hfound
    obtain ⟨field, hfield, rfl⟩ := readLength_eq_ok_iff.1 hcount
    exact ⟨field, htag, hfield, rfl⟩
  · rintro ⟨field, htag, hfield, rfl⟩
    refine ⟨(tag, field ++ rest), readTag_eq_ok_iff.2 ⟨htag, rfl⟩, ?_⟩
    exact bind_eq_ok_iff.2 ⟨(n, rest), readLength_eq_ok_iff.2 ⟨field, hfield, rfl⟩, rfl⟩

/-! ### Contents

The reader of the parts carries a bound for its termination, which has no say in what is read. -/

/-- Reads parts, after parts of `size` bytes in their shortest form, until there are `length`. -/
def readContents (length size : Nat) (parts : List Object) (s : Bytes) :
    Except TlvFault (List Object × Bytes) :=
  (readParts (s.length + 1) length size parts s (Nat.lt_succ_self _)).map
    fun reading => (reading.value, reading.rest)

theorem readParts_eq (bound length size : Nat) (parts : List Object) (s : Bytes)
    (hs : s.length < bound) :
    (readParts bound length size parts s hs).map (fun reading => (reading.value, reading.rest)) =
      readContents length size parts s := by
  -- on the bytes that are left, for all that was read before
  induction hlen : s.length using Nat.strongRecOn generalizing s size parts bound with
  | ind k ih =>
    unfold readContents
    rw [readParts, readParts]
    by_cases hmore : size < length
    · rw [if_pos hmore, if_pos hmore]
      -- both readers go on with one part less to read, whatever their bounds are
      cases hread : readObject s with
      | error fault => rfl
      | ok reading =>
        obtain ⟨part, rest, shorter⟩ := reading
        have hlt : rest.length < k := hlen ▸ shorter
        exact (ih _ hlt _ _ _ rest _ rfl).trans (ih _ hlt _ _ _ rest _ rfl).symm
    · rw [if_neg hmore, if_neg hmore]
      by_cases hend : size = length
      · rw [if_pos hend, if_pos hend]
        rfl
      · rw [if_neg hend, if_neg hend]
        rfl

theorem readContents_of_lt {length size : Nat} (h : size < length) (parts : List Object)
    (s : Bytes) : readContents length size parts s = read s >>= fun found =>
      readContents length (size + found.1.size) (found.1 :: parts) found.2 := by
  unfold read
  rw [readContents, readParts, if_pos h]
  cases readObject s with
  | error fault => rfl
  | ok reading => exact readParts_eq _ _ _ _ _ _

theorem readContents_self (length : Nat) (parts : List Object) (s : Bytes) :
    readContents length length parts s = .ok (parts.reverse, s) := by
  rw [readContents, readParts, if_neg (Nat.lt_irrefl _), if_pos rfl]
  rfl

theorem readContents_of_gt {length size : Nat} (h : length < size) (parts : List Object)
    (s : Bytes) : readContents length size parts s = .error .inconsistent := by
  rw [readContents, readParts, if_neg (Nat.lt_asymm h), if_neg (Nat.ne_of_gt h)]
  rfl

/-- **An object with objects inside is read part by part.** -/
theorem read_of_readHeader_constructed (h : readHeader s = .ok header)
    (hparts : isConstructed header.tag = true) :
    read s = (readContents header.length 0 [] header.rest).map
      fun found => (.constructed header.tag found.1, found.2) := by
  unfold read
  rw [readObject]
  split
  · rename_i fault hfault
    rw [h] at hfault
    cases hfault
  · rename_i header' hheader
    obtain rfl := Except.ok.inj (h.symm.trans hheader)
    -- the bound of the reader is the one of `readContents`, or any other
    rw [if_pos hparts, ← readParts_eq s.length header.length 0 [] header.rest
      (length_of_readHeader h)]
    cases readParts s.length header.length 0 [] header.rest (length_of_readHeader h) with
    | error fault => rfl
    | ok reading => rfl

/-! ### Spelling -/

/-- The number of bytes of the contents in their shortest form. -/
def Object.contentSize : Object → Nat
  | .primitive _ value => value.length
  | .constructed _ parts => sizeAll parts

theorem Object.size_eq (object : Object) : object.size =
    object.tag.length + lengthSize object.contentSize + object.contentSize := by
  cases object <;> simp only [size, tag, contentSize]

theorem Object.size_pos (object : Object) : 0 < object.size := by
  -- even the shortest length field has a byte
  have hlength : 0 < lengthSize object.contentSize := by
    unfold lengthSize
    repeat' split
    all_goals decide
  rw [size_eq]
  omega

mutual

/-- The bytes spell the object, with length fields of a form that may depend on the object and on
the bytes of its contents. -/
inductive Spells (form : Object → Bytes → Bytes → Prop) : Object → Bytes → Prop
  | primitive {tag field value : Bytes} : IsTag tag → isConstructed tag = false →
      form (.primitive tag value) field value →
        Spells form (.primitive tag value) (tag ++ (field ++ value))
  | constructed {tag field contents : Bytes} {parts : List Object} : IsTag tag →
      isConstructed tag = true → SpellsAll form parts contents →
        form (.constructed tag parts) field contents →
          Spells form (.constructed tag parts) (tag ++ (field ++ contents))

/-- The bytes spell the objects one after the other. -/
inductive SpellsAll (form : Object → Bytes → Bytes → Prop) : List Object → Bytes → Prop
  | nil : SpellsAll form [] []
  | cons {object : Object} {objects : List Object} {s t : Bytes} : Spells form object s →
      SpellsAll form objects t → SpellsAll form (object :: objects) (s ++ t)

end

/-- The length field of BER-TLV tells how many bytes follow. -/
def exact (_ : Object) (field contents : Bytes) : Prop := IsLength contents.length field

/-- The length field that the reader expects tells how many bytes would follow in the shortest
form. -/
def counted (object : Object) (field _contents : Bytes) : Prop :=
  ReadsLength object.contentSize field

/-! ### Reading what is spelled -/

mutual

/-- **What is spelled is read**, whatever comes after it. -/
theorem read_of_spells : ∀ (object : Object) {s : Bytes} (_ : Spells counted object s)
    (rest : Bytes), read (s ++ rest) = .ok (object, rest)
  | .primitive tag value, _, @Spells.primitive _ _ field _ htag hvalue hfield, rest => by
    have hheader : readHeader (tag ++ (field ++ value) ++ rest) =
        .ok ⟨tag, value.length, value ++ rest⟩ := by
      refine readHeader_eq_ok_iff.2 ⟨field, htag, hfield, ?_⟩
      rw [List.append_assoc, List.append_assoc]
    have henough : ¬(value ++ rest).length < value.length := by
      rw [List.length_append]
      omega
    rw [read_of_readHeader hheader hvalue, if_neg henough, List.take_left, List.drop_left]
  | .constructed tag parts, _,
      @Spells.constructed _ _ field contents _ htag hparts hcontents hfield, rest => by
    have hheader : readHeader (tag ++ (field ++ contents) ++ rest) =
        .ok ⟨tag, sizeAll parts, contents ++ rest⟩ := by
      refine readHeader_eq_ok_iff.2 ⟨field, htag, hfield, ?_⟩
      rw [List.append_assoc, List.append_assoc]
    -- the parts are read from no size and no parts, up to the size of the whole
    have hread := readContents_of_spellsAll parts hcontents 0 [] rest
    rw [Nat.zero_add] at hread
    rw [read_of_readHeader_constructed hheader hparts, hread]
    rfl

/-- Parts are read until their sizes add up. -/
theorem readContents_of_spellsAll : ∀ (parts : List Object) {s : Bytes}
    (_ : SpellsAll counted parts s) (size : Nat) (before : List Object) (rest : Bytes),
    readContents (size + sizeAll parts) size before (s ++ rest) =
      .ok (before.reverse ++ parts, rest)
  | [], _, .nil, size, before, rest => by
    rw [List.append_nil]
    exact readContents_self size before rest
  | part :: parts, _, @SpellsAll.cons _ _ _ s t hpart hparts, size, before, rest => by
    -- a part has at least two bytes, so the sizes have not added up yet
    have hmore : size < size + (part.size + sizeAll parts) := by
      have hpos := part.size_pos
      omega
    have hsum : size + (part.size + sizeAll parts) = size + part.size + sizeAll parts :=
      (Nat.add_assoc _ _ _).symm
    change readContents (size + (part.size + sizeAll parts)) size before (s ++ t ++ rest) = _
    rw [readContents_of_lt hmore, List.append_assoc, read_of_spells part hpart]
    change readContents _ (size + part.size) (part :: before) (t ++ rest) = _
    rw [hsum, readContents_of_spellsAll parts hparts, List.reverse_cons, List.append_assoc]
    rfl

end

/-- Parts that were read were spelled, if the reader takes nothing else for an object. -/
theorem spellsAll_of_readContents {k length size : Nat} {before found : List Object}
    (hobjects : ∀ {t after : Bytes} {part : Object}, t.length < k → read t = .ok (part, after) →
      ∃ enc, Spells counted part enc ∧ t = enc ++ after)
    (hlt : s.length < k) (h : readContents length size before s = .ok (found, rest)) :
    ∃ parts enc, SpellsAll counted parts enc ∧ found = before.reverse ++ parts ∧
      s = enc ++ rest ∧ size + sizeAll parts = length := by
  -- on the bytes that are left, for all that was read before
  induction hlen : s.length using Nat.strongRecOn generalizing s size before with
  | ind j ih =>
    rcases Nat.lt_trichotomy size length with hmore | rfl | hover
    · rw [readContents_of_lt hmore] at h
      obtain ⟨⟨part, next⟩, hpart, hnext⟩ := bind_eq_ok_iff.1 h
      have hshorter := length_of_read hpart
      -- the bytes after the part are fewer, and so the induction has their parts
      obtain ⟨parts, contents, hparts, hfound, hcontents, hsum⟩ :=
        ih next.length (hlen ▸ hshorter) (Nat.lt_trans hshorter hlt) hnext rfl
      obtain ⟨enc, henc, hs⟩ := hobjects hlt hpart
      refine ⟨part :: parts, enc ++ contents, .cons henc hparts, ?_, ?_, ?_⟩
      · rw [hfound, List.reverse_cons, List.append_assoc]
        rfl
      · rw [hs, hcontents, List.append_assoc]
      · rw [← hsum, sizeAll, Nat.add_assoc]
    · -- the sizes have added up, and nothing more is taken
      rw [readContents_self] at h
      obtain ⟨rfl, rfl⟩ := Prod.mk.inj (Except.ok.inj h)
      exact ⟨[], [], .nil, (List.append_nil _).symm, rfl, rfl⟩
    · -- the parts were longer than announced, which the reader refuses
      rw [readContents_of_gt hover] at h
      cases h

/-- A value that was read was spelled. -/
theorem spells_of_read_primitive (hheader : readHeader s = .ok header)
    (hvalue : isConstructed header.tag = false) (h : read s = .ok (object, rest)) :
    ∃ enc, Spells counted object enc ∧ s = enc ++ rest := by
  obtain ⟨field, htag, hfield, hs⟩ := readHeader_eq_ok_iff.1 hheader
  rw [read_of_readHeader hheader hvalue] at h
  obtain ⟨henough, h⟩ := guard_eq_ok_iff.1 h
  -- the bytes are there, so the value is as long as its field tells
  obtain ⟨rfl, rfl⟩ := Prod.mk.inj (Except.ok.inj h)
  have hlen : (header.rest.take header.length).length = header.length :=
    List.length_take_of_le (Nat.not_lt.1 henough)
  refine ⟨header.tag ++ (field ++ header.rest.take header.length), .primitive htag hvalue ?_, ?_⟩
  · show ReadsLength (header.rest.take header.length).length field
    rwa [hlen]
  · rw [List.append_assoc, List.append_assoc, List.take_append_drop]
    exact hs

/-- **What is read was spelled.** -/
theorem spells_of_read (h : read s = .ok (object, rest)) :
    ∃ enc, Spells counted object enc ∧ s = enc ++ rest := by
  -- on the bytes that are left: the contents of an object come after its header
  induction hlen : s.length using Nat.strongRecOn generalizing s object rest with
  | ind k ih =>
    cases hheader : readHeader s with
    | error fault =>
      rw [read_of_readHeader_error hheader] at h
      cases h
    | ok header =>
      cases hkind : isConstructed header.tag with
      | false => exact spells_of_read_primitive hheader hkind h
      | true =>
        have hshorter := length_of_readHeader hheader
        obtain ⟨field, htag, hfield, hs⟩ := readHeader_eq_ok_iff.1 hheader
        rw [read_of_readHeader_constructed hheader hkind] at h
        obtain ⟨⟨found, after⟩, hread, h⟩ := map_eq_ok_iff.1 h
        obtain ⟨rfl, rfl⟩ := Prod.mk.inj h
        -- the parts stand behind the header, so they are read from fewer bytes
        obtain ⟨parts, contents, hparts, hfound, hrest, hsum⟩ := spellsAll_of_readContents
          (fun hlt hpart => ih _ hlt hpart rfl) (hlen ▸ hshorter) hread
        obtain rfl : found = parts := hfound
        refine ⟨header.tag ++ (field ++ contents), .constructed htag hkind hparts ?_, ?_⟩
        · show ReadsLength (sizeAll found) field
          rwa [← Nat.zero_add (sizeAll found), hsum]
        · rw [List.append_assoc, List.append_assoc, ← hrest]
          exact hs

/-- **The reader takes exactly the objects that are spelled in its way.** -/
theorem read_eq_ok_iff : read s = .ok (object, rest) ↔
    ∃ enc, Spells counted object enc ∧ s = enc ++ rest := by
  refine ⟨spells_of_read, ?_⟩
  rintro ⟨enc, henc, rfl⟩
  exact read_of_spells object henc rest

/-- Data is read from the front, unless there is none. -/
theorem readAll_cases (h : readAll s = .ok objects) : s = [] ∧ objects = [] ∨
    ∃ object rest others, read s = .ok (object, rest) ∧ readAll rest = .ok others ∧
      objects = object :: others := by
  -- no bytes make no objects, which is the only case that nothing is read in
  by_cases hne : s = []
  · rw [hne, readAll_nil] at h
    exact .inl ⟨hne, (Except.ok.inj h).symm⟩
  · cases hread : read s with
    | error fault =>
      rw [readAll_of_read_error hne hread] at h
      cases h
    | ok found =>
      obtain ⟨object, rest⟩ := found
      rw [readAll_of_read hread] at h
      obtain ⟨others, hothers, heq⟩ := map_eq_ok_iff.1 h
      exact .inr ⟨object, rest, others, rfl, hothers, heq.symm⟩

/-- **Data is read exactly if it is spelled in the way of the reader**, one object after the
other. -/
theorem readAll_eq_ok_iff : readAll s = .ok objects ↔ SpellsAll counted objects s := by
  constructor
  · intro h
    -- on the objects, of which the first one is at the front
    induction objects generalizing s with
    | nil =>
      rcases readAll_cases h with ⟨rfl, -⟩ | ⟨object, rest, others, -, -, heq⟩
      · exact .nil
      · cases heq
    | cons object objects ih =>
      rcases readAll_cases h with ⟨-, heq⟩ | ⟨first, rest, others, hread, hothers, heq⟩
      · cases heq
      · obtain ⟨rfl, rfl⟩ := List.cons.inj heq
        -- the first object is in front, and the others are spelled by the rest
        obtain ⟨enc, henc, rfl⟩ := spells_of_read hread
        exact .cons henc (ih hothers)
  · intro h
    induction objects generalizing s with
    | nil =>
      cases h
      exact readAll_nil
    | cons object objects ih =>
      cases h with
      -- what is spelled in front is read, and the rest is a smaller list
      | cons hobject hobjects =>
        rw [readAll_of_read (read_of_spells object hobject _), ih hobjects]
        rfl

end SmartCard.Ber
