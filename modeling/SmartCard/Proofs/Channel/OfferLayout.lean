import SmartCard.Channel.CardOffer
import SmartCard.Proofs.Bytes.Fields
import SmartCard.Proofs.Channel.DesCard

/-!
# The layout of the card's offer

The answer to INITIALIZE UPDATE comes in two layouts. Both start with the diversification data, the
key version and the number of the protocol; the one of SCP03 has a parameter byte next, which shifts
the challenge and the cryptogram by one, and a sequence counter at the end.

`CardOffer.encode` writes an offer field after field. Reading is exact
(`CardOffer.parse_eq_ok_iff`): what is read are the offers that a card can make, from the very bytes
that are written for them. So every byte of an answer goes into one field. `CardOffer.readAt?` reads
by position and stops with no result at a position that is not there; it always has a result, and it
is that of `CardOffer.parse` (`CardOffer.readAt?_eq`). -/

namespace SmartCard

namespace ScpVersion

theorem ofId?_eq_some_iff {id : UInt8} {version : ScpVersion} :
    ofId? id = some version ↔ id = version.id := by
  constructor
  · intro h
    unfold ofId? at h
    split at h <;> cases h <;> rfl
  · rintro rfl
    exact ofId?_id version

theorem ofId?_eq_none_iff {id : UInt8} : ofId? id = none ↔ id ≠ 1 ∧ id ≠ 2 ∧ id ≠ 3 := by
  unfold ofId?
  split <;> simp_all

theorem id_inj {version version' : ScpVersion} (h : version.id = version'.id) :
    version = version' := by
  rw [← Option.some.injEq, ← ofId?_id version, h, ofId?_id]

/-- The length of the answer of a card that announces the protocol. -/
def answerLength : ScpVersion → Nat
  | scp01 => 28
  | scp02 => 28
  | scp03 => 32

end ScpVersion

namespace CardOffer

variable {s : Bytes} {offer offer' : CardOffer}

/-! ### Writing an offer -/

/-- The bytes of an offer, field after field. -/
def encode (offer : CardOffer) : Bytes :=
  offer.diversificationData.toList ++ offer.keyVersion :: offer.version.id ::
    (offer.parameters?.toList ++ (offer.cardChallenge.toList ++ (offer.cardCryptogram.toList ++
      offer.sequence?.elim [] Block.toList)))

/-- The offer is one that a card can make: with SCP03 the parameters are there. -/
def Made (offer : CardOffer) : Prop := offer.version = .scp03 → offer.parameters?.isSome

theorem length_encode (h : offer.Made) : offer.encode.length = offer.version.answerLength := by
  obtain ⟨data, keyVersion, announced, challenge, cryptogram⟩ := offer
  unfold encode
  cases announced with
  -- without parameters and sequence there are four bytes less
  | scp01 | scp02 =>
    simp [version, Announced.version, parameters?, sequence?, ScpVersion.answerLength]
  | scp03 parameters sequence =>
    obtain ⟨byte, rfl⟩ := Option.isSome_iff_exists.1 (h rfl)
    simp [version, Announced.version, parameters?, sequence?, ScpVersion.answerLength]

theorem proof_append_inj {challenge challenge' cryptogram cryptogram' : Block 8}
    {rest rest' : Bytes} (h : challenge.toList ++ (cryptogram.toList ++ rest) =
      challenge'.toList ++ (cryptogram'.toList ++ rest')) :
    challenge = challenge' ∧ cryptogram = cryptogram' ∧ rest = rest' := by
  -- both blocks have eight bytes, so that the fields are cut in the same places
  obtain ⟨hchallenge, h⟩ := List.append_inj h (by simp)
  obtain ⟨hcryptogram, hrest⟩ := List.append_inj h (by simp)
  exact ⟨Block.ext hchallenge, Block.ext hcryptogram, hrest⟩

/-- **The bytes of an offer tell all of it.** -/
theorem encode_inj (h : offer.encode = offer'.encode) (hmade : offer.Made) (hmade' : offer'.Made) :
    offer = offer' := by
  obtain ⟨data, keyVersion, announced, challenge, cryptogram⟩ := offer
  obtain ⟨data', keyVersion', announced', challenge', cryptogram'⟩ := offer'
  unfold encode at h
  obtain ⟨hdata, h⟩ := List.append_inj h (by simp)
  rw [List.cons.injEq, List.cons.injEq] at h
  obtain ⟨hkeyVersion, hid, h⟩ := h
  obtain rfl := Block.ext hdata
  obtain rfl : keyVersion = keyVersion' := hkeyVersion
  -- the number of the protocol tells which fields follow
  have hversion : announced.version = announced'.version := ScpVersion.id_inj hid
  cases announced with
  | scp01 =>
    cases announced' with
    | scp01 => obtain ⟨rfl, rfl, -⟩ := proof_append_inj h; rfl
    | scp02 | scp03 => nomatch hversion
  | scp02 =>
    cases announced' with
    | scp02 => obtain ⟨rfl, rfl, -⟩ := proof_append_inj h; rfl
    | scp01 | scp03 => nomatch hversion
  | scp03 parameters sequence =>
    cases announced' with
    | scp01 | scp02 => nomatch hversion
    | scp03 parameters' sequence' =>
      -- an offer that was made has its parameter byte, which shifts what follows in both alike
      obtain ⟨byte, rfl⟩ := Option.isSome_iff_exists.1 (hmade rfl)
      obtain ⟨byte', rfl⟩ := Option.isSome_iff_exists.1 (hmade' rfl)
      obtain ⟨rfl, h⟩ := List.cons.inj h
      obtain ⟨rfl, rfl, hsequence⟩ := proof_append_inj h
      obtain rfl := Block.ext hsequence
      rfl

/-! ### The two layouts -/

theorem parse_short (b : Block 28) : parse b.toList = ofShort b := by
  unfold parse
  rw [Block.ofList?_toList]

theorem parse_long (b : Block 32) : parse b.toList = ofLong b := by
  have hshort : Block.ofList? 28 b.toList = none :=
    -- the length is that of the longer layout, so the shorter one is tried in vain
    Block.ofList?_eq_none_iff.2 (by rw [b.length_toList]; decide)
  unfold parse
  rw [hshort, Block.ofList?_toList]

theorem parse_of_length_ne (hshort : s.length ≠ 28) (hlong : s.length ≠ 32) :
    parse s = .error (.protocol (.handshakeLength s.length)) := by
  unfold parse
  rw [Block.ofList?_eq_none_iff.2 hshort, Block.ofList?_eq_none_iff.2 hlong]

/-- The fields of the shorter layout, one after the other. -/
theorem shortFields (b : Block 28) (h10 : 10 < 28) (h11 : 11 < 28) :
    (b.slice 0 10).toList ++ b[10] :: b[11] :: ((b.slice 12 8).toList ++ (b.slice 20 8).toList) =
      b.toList := by
  -- from the end of the data each field is put back in front of what follows it
  calc (b.slice 0 10).toList ++ b[10] :: b[11] ::
        ((b.slice 12 8).toList ++ (b.slice 20 8).toList)
      = (b.slice 0 10).toList ++ b[10] :: b[11] ::
        ((b.slice 12 8).toList ++ ((b.slice 20 8).toList ++ b.toList.drop 28)) := by
        rw [b.drop_toList, List.append_nil]
    _ = (b.slice 0 10).toList ++ b[10] :: b[11] :: b.toList.drop 12 := by
        rw [b.slice_append_drop 20 8, b.slice_append_drop 12 8]
    _ = (b.slice 0 10).toList ++ b.toList.drop 10 := by
        rw [b.getElem_cons_drop 11, b.getElem_cons_drop 10]
    _ = b.toList := b.slice_append_drop 0 10 (by decide)

/-- The fields of the longer layout, one after the other. -/
theorem longFields (b : Block 32) (h10 : 10 < 32) (h11 : 11 < 32) (h12 : 12 < 32) :
    (b.slice 0 10).toList ++ b[10] :: b[11] :: b[12] ::
      ((b.slice 13 8).toList ++ ((b.slice 21 8).toList ++ (b.slice 29 3).toList)) = b.toList := by
  calc (b.slice 0 10).toList ++ b[10] :: b[11] :: b[12] ::
        ((b.slice 13 8).toList ++ ((b.slice 21 8).toList ++ (b.slice 29 3).toList))
      = (b.slice 0 10).toList ++ b[10] :: b[11] :: b[12] :: ((b.slice 13 8).toList ++
        ((b.slice 21 8).toList ++ ((b.slice 29 3).toList ++ b.toList.drop 32))) := by
        rw [b.drop_toList, List.append_nil]
    _ = (b.slice 0 10).toList ++ b[10] :: b[11] :: b[12] :: b.toList.drop 13 := by
        rw [b.slice_append_drop 29 3, b.slice_append_drop 21 8, b.slice_append_drop 13 8]
    _ = (b.slice 0 10).toList ++ b.toList.drop 10 := by
        rw [b.getElem_cons_drop 12, b.getElem_cons_drop 11, b.getElem_cons_drop 10]
    _ = b.toList := b.slice_append_drop 0 10 (by decide)

/-- **What is read from the shorter layout is what stands there.** -/
theorem encode_of_ofShort {b : Block 28} (h : ofShort b = .ok offer) :
    offer.Made ∧ offer.encode = b.toList := by
  unfold ofShort at h
  split at h
  -- both protocols of this layout have the same fields, and differ in the number alone
  case h_1 hid | h_2 hid =>
    cases h
    constructor
    · intro hversion
      cases hversion
    · show (b.slice 0 10).toList ++ b[10] :: ScpVersion.id _ ::
        ((b.slice 12 8).toList ++ ((b.slice 20 8).toList ++ [])) = b.toList
      rw [List.append_nil, ← shortFields b (by decide) (by decide),
        ScpVersion.ofId?_eq_some_iff.1 hid]
      rfl
  case h_3 | h_4 => cases h

/-- **What is read from the longer layout is what stands there.** -/
theorem encode_of_ofLong {b : Block 32} (h : ofLong b = .ok offer) :
    offer.Made ∧ offer.encode = b.toList := by
  unfold ofLong at h
  split at h
  case h_1 hid =>
    cases h
    refine ⟨fun _ => rfl, ?_⟩
    show (b.slice 0 10).toList ++ b[10] :: ScpVersion.id _ :: b[12] ::
      -- the number is the one that the protocol was found by
      ((b.slice 13 8).toList ++ ((b.slice 21 8).toList ++ (b.slice 29 3).toList)) = b.toList
    rw [← longFields b (by decide) (by decide) (by decide), ScpVersion.ofId?_eq_some_iff.1 hid]
    rfl
  case h_2 | h_3 => cases h

theorem encode_of_parse (h : parse s = .ok offer) : offer.Made ∧ offer.encode = s := by
  unfold parse at h
  split at h
  case h_1 b _ hb =>
    rw [Block.ofList?_eq_some_iff.1 hb]
    exact encode_of_ofShort h
  case h_2 b _ hb =>
    rw [Block.ofList?_eq_some_iff.1 hb]
    exact encode_of_ofLong h
  case h_3 => cases h

/-! ### Which answers are read -/

theorem exists_ofShort_iff (b : Block 28) : (∃ offer, ofShort b = .ok offer) ↔
    b.toList[11]? = some 1 ∨ b.toList[11]? = some 2 := by
  rw [b.getElem?_toList 11 (by decide), Option.some.injEq, Option.some.injEq]
  unfold ofShort
  -- which answers are offers is decided by the number of the protocol alone
  cases hid : ScpVersion.ofId? b[11] with
  | none =>
    constructor
    · rintro ⟨offer, ⟨⟩⟩
    · rintro (h | h) <;> (rw [h] at hid; cases hid)
  | some version =>
    rw [ScpVersion.ofId?_eq_some_iff.1 hid]
    cases version with
    | scp01 => exact ⟨fun _ => .inl rfl, fun _ => ⟨_, rfl⟩⟩
    | scp02 => exact ⟨fun _ => .inr rfl, fun _ => ⟨_, rfl⟩⟩
    -- SCP03 is known, and has the other layout
    | scp03 =>
      constructor
      · rintro ⟨offer, ⟨⟩⟩
      · rintro (h | h) <;> cases h

theorem exists_ofLong_iff (b : Block 32) :
    (∃ offer, ofLong b = .ok offer) ↔ b.toList[11]? = some 3 := by
  rw [b.getElem?_toList 11 (by decide), Option.some.injEq]
  unfold ofLong
  cases hid : ScpVersion.ofId? b[11] with
  | none =>
    constructor
    · rintro ⟨offer, ⟨⟩⟩
    · intro h
      rw [h] at hid
      cases hid
  | some version =>
    rw [ScpVersion.ofId?_eq_some_iff.1 hid]
    cases version with
    | scp01 | scp02 =>
      constructor
      · rintro ⟨offer, ⟨⟩⟩
      · intro h
        cases h
    | scp03 => exact ⟨fun _ => rfl, fun _ => ⟨_, rfl⟩⟩

/-- An answer is of one of the layouts or of none. -/
theorem layout_cases (s : Bytes) : (∃ b : Block 28, s = b.toList) ∨ (∃ b : Block 32, s = b.toList) ∨
    s.length ≠ 28 ∧ s.length ≠ 32 := by
  by_cases hshort : s.length = 28
  · exact .inl ⟨⟨s, hshort⟩, rfl⟩
  · by_cases hlong : s.length = 32
    · exact .inr (.inl ⟨⟨s, hlong⟩, rfl⟩)
    · exact .inr (.inr ⟨hshort, hlong⟩)

/-- **Which answers are read**: the length agrees with the protocol that is announced. -/
theorem exists_parse_iff : (∃ offer, parse s = .ok offer) ↔
    s.length = 28 ∧ (s[11]? = some 1 ∨ s[11]? = some 2) ∨ s.length = 32 ∧ s[11]? = some 3 := by
  rcases layout_cases s with ⟨b, rfl⟩ | ⟨b, rfl⟩ | ⟨hshort, hlong⟩
  · -- within a layout the length is settled, and the number remains
    rw [parse_short, exists_ofShort_iff]
    simp
  · rw [parse_long, exists_ofLong_iff]
    simp
  · rw [parse_of_length_ne hshort hlong]
    simp [hshort, hlong]

theorem answerLength_of_encode (hmade : offer.Made) :
    offer.encode.length = offer.version.answerLength ∧
      offer.encode[11]? = some offer.version.id := by
  refine ⟨length_encode hmade, ?_⟩
  unfold encode
  rw [List.getElem?_append_right (by simp), Block.length_toList]
  rfl

/-- **Reading is exact**: an offer that a card can make is read from the bytes that are written for
it, and from no others. -/
theorem parse_eq_ok_iff : parse s = .ok offer ↔ offer.Made ∧ offer.encode = s := by
  refine ⟨encode_of_parse, ?_⟩
  rintro ⟨hmade, rfl⟩
  obtain ⟨hlength, hid⟩ := answerLength_of_encode hmade
  -- some offer is read, and it has the same bytes
  have hreads : ∃ read, parse offer.encode = .ok read := by
    rw [exists_parse_iff, hlength, hid]
    cases offer.version with
    | scp01 => exact .inl ⟨rfl, .inl rfl⟩
    | scp02 => exact .inl ⟨rfl, .inr rfl⟩
    | scp03 => exact .inr ⟨rfl, rfl⟩
  obtain ⟨read, hread⟩ := hreads
  obtain ⟨hmade', hencode⟩ := encode_of_parse hread
  -- what has the same bytes is the same offer, so it is this one that was read
  rw [hread, encode_inj hencode hmade' hmade]

/-! ### Reading by position -/

/-- The bytes of a field that starts at a position, if all of them are there. -/
def fieldAt? (n : Nat) (s : Bytes) (start : Nat) : Option (Block n) :=
  Block.ofList? n ((s.drop start).take n)

/-- Reads an offer by position, one check after the other. There is no result if a position is
looked at that is not there. -/
def readAt? (s : Bytes) : Option (Except Error CardOffer) :=
  if s.length ≠ 28 ∧ s.length ≠ 32 then some (.error (.protocol (.handshakeLength s.length)))
  else do
    let id ← s[11]?
    match ScpVersion.ofId? id with
    | none => some (.error (.unsupported (.protocolId id)))
    | some version =>
      if s.length ≠ version.answerLength then
        some (.error (.protocol (.handshakeLengthOf version s.length)))
      else do
        let diversificationData ← fieldAt? 10 s 0
        let keyVersion ← s[10]?
        -- the parameter byte of SCP03 shifts what follows it
        let (announced, start) ← match version with
          | .scp01 => some (Announced.scp01, 12)
          | .scp02 => some (Announced.scp02, 12)
          | .scp03 => do
            let parameters ← s[12]?
            let sequence ← fieldAt? 3 s 29
            some (Announced.scp03 (some parameters) sequence, 13)
        let cardChallenge ← fieldAt? 8 s start
        let cardCryptogram ← fieldAt? 8 s (start + 8)
        some (.ok { diversificationData, keyVersion, announced, cardChallenge, cardCryptogram })

theorem fieldAt?_toList {m : Nat} (b : Block m) (n start : Nat) (h : start + n ≤ m) :
    fieldAt? n b.toList start = some (b.slice start n h) :=
  Block.ofList?_eq_some_iff.2 rfl

/-- No position is missing in the shorter layout. -/
theorem readAt?_short (b : Block 28) : readAt? b.toList = some (ofShort b) := by
  unfold readAt? ofShort
  -- the two bytes in front are there in every answer of this length
  rw [if_neg (by simp), b.getElem?_toList 11 (by decide), b.getElem?_toList 10 (by decide)]
  cases hid : ScpVersion.ofId? b[11] with
  | none => simp [hid]
  | some version =>
    cases version with
    | scp01 | scp02 =>
      have hdata := fieldAt?_toList b 10 0 (by decide)
      have hchallenge := fieldAt?_toList b 8 12 (by decide)
      have hcryptogram := fieldAt?_toList b 8 20 (by decide)
      simp [hid, ScpVersion.answerLength, hdata, hchallenge, hcryptogram]
    | scp03 => simp [hid, ScpVersion.answerLength]

/-- No position is missing in the longer layout. -/
theorem readAt?_long (b : Block 32) : readAt? b.toList = some (ofLong b) := by
  -- here the parameter byte is there as well
  unfold readAt? ofLong
  rw [if_neg (by simp), b.getElem?_toList 11 (by decide), b.getElem?_toList 10 (by decide),
    b.getElem?_toList 12 (by decide)]
  cases hid : ScpVersion.ofId? b[11] with
  | none => simp [hid]
  | some version =>
    cases version with
    | scp01 | scp02 => simp [hid, ScpVersion.answerLength]
    | scp03 =>
      have hdata := fieldAt?_toList b 10 0 (by decide)
      have hsequence := fieldAt?_toList b 3 29 (by decide)
      have hchallenge := fieldAt?_toList b 8 13 (by decide)
      have hcryptogram := fieldAt?_toList b 8 21 (by decide)
      simp [hid, ScpVersion.answerLength, hdata, hsequence, hchallenge, hcryptogram]

/-- **No position is looked at that is not there**, and what is read by position is what is read
from the layouts. -/
theorem readAt?_eq (s : Bytes) : readAt? s = some (parse s) := by
  rcases layout_cases s with ⟨b, rfl⟩ | ⟨b, rfl⟩ | ⟨hshort, hlong⟩
  · rw [readAt?_short, parse_short]
  · rw [readAt?_long, parse_long]
  · rw [parse_of_length_ne hshort hlong]
    exact if_pos ⟨hshort, hlong⟩

/-! ### Exact reading -/

/-- **What is made of an answer.** -/
structure ReadExactly (s : Bytes) : Prop where
  /-- It is an offer if the length agrees with the protocol that is announced. -/
  succeeds_iff : (∃ offer, parse s = .ok offer) ↔
    s.length = 28 ∧ (s[11]? = some 1 ∨ s[11]? = some 2) ∨ s.length = 32 ∧ s[11]? = some 3
  /-- The fields of the offer, one after the other, are the answer. -/
  lossless : ∀ offer, parse s = .ok offer ↔ offer.Made ∧ offer.encode = s
  other_length : s.length ≠ 28 → s.length ≠ 32 →
    parse s = .error (.protocol (.handshakeLength s.length))
  other_layout : ∀ version, s.length = 28 ∨ s.length = 32 → s[11]? = some version.id →
    s.length ≠ version.answerLength →
      parse s = .error (.protocol (.handshakeLengthOf version s.length))
  other_protocol : ∀ id, s.length = 28 ∨ s.length = 32 → s[11]? = some id →
    id ≠ 1 ∧ id ≠ 2 ∧ id ≠ 3 → parse s = .error (.unsupported (.protocolId id))
  /-- No position is looked at that is not there. -/
  in_bounds : readAt? s = some (parse s)

theorem parse_of_other_layout {version : ScpVersion} (hlen : s.length = 28 ∨ s.length = 32)
    (hid : s[11]? = some version.id) (hother : s.length ≠ version.answerLength) :
    parse s = .error (.protocol (.handshakeLengthOf version s.length)) := by
  -- reading by position has got as far as the comparison of lengths
  apply Option.some.inj
  rw [← readAt?_eq]
  unfold readAt?
  rw [if_neg (by omega), hid]
  simp [hother]

theorem parse_of_other_protocol {id : UInt8} (hlen : s.length = 28 ∨ s.length = 32)
    (hid : s[11]? = some id) (hother : id ≠ 1 ∧ id ≠ 2 ∧ id ≠ 3) :
    parse s = .error (.unsupported (.protocolId id)) := by
  -- here it has got as far as the number, which is none that is known
  apply Option.some.inj
  rw [← readAt?_eq]
  unfold readAt?
  rw [if_neg (by omega), hid]
  simp [ScpVersion.ofId?_eq_none_iff.2 hother]

/-- **Every answer is read exactly.** -/
theorem readExactly (s : Bytes) : ReadExactly s where
  succeeds_iff := exists_parse_iff
  lossless _ := parse_eq_ok_iff
  other_length := parse_of_length_ne
  other_layout _ := parse_of_other_layout
  other_protocol _ := parse_of_other_protocol
  in_bounds := readAt?_eq s

/-- The recorded SCP02 offer is read back, and with the number of SCP03 it is refused. -/
theorem readExactly_recorded :
    parse DesCard.recordedOffer.encode = .ok DesCard.recordedOffer ∧
      parse (DesCard.recordedOffer.encode.set 11 3) =
        .error (.protocol (.handshakeLengthOf .scp03 28)) := by
  refine ⟨((readExactly _).lossless _).2 ⟨nofun, rfl⟩, ?_⟩
  exact (readExactly (DesCard.recordedOffer.encode.set 11 3)).other_layout .scp03 (.inl rfl) rfl
    (by decide)

end CardOffer

end SmartCard
