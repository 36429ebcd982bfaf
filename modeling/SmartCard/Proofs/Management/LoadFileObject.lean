import SmartCard.Management.LoadFile
import SmartCard.Proofs.Tlv.ShortestForm

/-!
# The object of a load file

The data of a load file is its code with a tag and a length in front of it. A length field for code
of `2 ^ 24` bytes or more would need a fourth length byte, which `Ber.encodeLength` does not write.
So the length is right exactly below that (`Ber.isLength_encodeLength_iff`), and a card that reads
the data finds only as much of the code as the last three bytes of the length announce
(`LoadFile.read_dataBlock`). -/

namespace SmartCard.LoadFile

variable {aid : Bytes} {components : List Bytes} {blockSize : Nat} {file : LoadFile}

/-- The tag in front of the code is that of a value. -/
theorem isTag_loadFileDataBlock : Ber.IsTag [Tag.loadFileDataBlock] := by decide

theorem isConstructed_loadFileDataBlock : Ber.isConstructed [Tag.loadFileDataBlock] = false := by
  decide

theorem data_of_ofComponents (h : ofComponents? aid components blockSize = .ok file) :
    file.data = dataBlock components := by
  -- three checks, and each of them has passed
  unfold ofComponents? ofData? at h
  split at h
  · split at h
    · split at h
      · rw [← Except.ok.inj h]
      · cases h
    · cases h
  · cases h

/-- Components make a load file, whatever they are. -/
theorem exists_ofComponents (haid : 5 ≤ aid.length ∧ aid.length ≤ 16)
    (hsize : 0 < blockSize ∧ blockSize ≤ 247) (components : List Bytes) :
    ∃ file, ofComponents? aid components blockSize = .ok file := by
  -- the tag is always there, so that the data is never empty
  have hdata : dataBlock components ≠ [] := List.cons_ne_nil _ _
  unfold ofComponents? ofData?
  rw [dif_pos haid, dif_pos hsize, dif_pos hdata]
  exact ⟨_, rfl⟩

/-- **As much code is found as the header announces**, and the rest of it comes after the object. -/
theorem read_dataBlock (components : List Bytes) : Ber.read (dataBlock components) =
    .ok (.primitive [Tag.loadFileDataBlock]
        (components.flatten.take (components.flatten.length % 2 ^ 24)),
      components.flatten.drop (components.flatten.length % 2 ^ 24)) := by
  have hheader : Ber.readHeader (dataBlock components) = .ok ⟨[Tag.loadFileDataBlock],
      components.flatten.length % 2 ^ 24, components.flatten⟩ :=
    Ber.readHeader_eq_ok_iff.2 ⟨Ber.encodeLength components.flatten.length,
      isTag_loadFileDataBlock, .inl (Ber.isLength_encodeLength _), rfl⟩
  rw [Ber.read_of_readHeader hheader isConstructed_loadFileDataBlock]
  -- a remainder is never more than the number
  exact if_neg (Nat.not_lt.2 (Nat.mod_le _ _))

/-- **The code is found, and nothing after it, if the length of the code is written rightly.** -/
theorem read_dataBlock_iff (components : List Bytes) : Ber.read (dataBlock components) =
    .ok (.primitive [Tag.loadFileDataBlock] components.flatten, []) ↔
      components.flatten.length < 2 ^ 24 := by
  rw [read_dataBlock]
  constructor
  · intro hread
    -- nothing is left after the object, so nothing of the code is
    obtain ⟨-, hrest⟩ := Prod.mk.inj (Except.ok.inj hread)
    exact Nat.lt_of_le_of_lt (List.drop_eq_nil_iff.1 hrest) (Nat.mod_lt _ (by decide))
  · intro hlt
    rw [Nat.mod_eq_of_lt hlt, List.take_length, List.drop_length]

/-- **The data is the object of its code if the length of the code is written rightly.** -/
theorem spells_dataBlock_iff (components : List Bytes) : Ber.Spells Ber.exact
    (.primitive [Tag.loadFileDataBlock] components.flatten) (dataBlock components) ↔
      components.flatten.length < 2 ^ 24 := by
  rw [← Ber.isLength_encodeLength_iff]
  constructor
  · intro h
    generalize hdata : dataBlock components = data at h
    cases h with
    | primitive htag hvalue hfield =>
      -- the length field is what is left of the data without tag and code
      have hsame := List.append_cancel_right (List.cons.inj hdata).2
      exact hsame ▸ hfield
  · intro h
    exact .primitive isTag_loadFileDataBlock isConstructed_loadFileDataBlock h

/-- **A load file is the object of its code exactly if the code has less than `2 ^ 24` bytes**, and
this is so because a length field is right exactly for numbers below that. What is written of any
other number is its remainder. -/
theorem spells_data_iff (n : Nat) (rest : Bytes) :
    Ber.readLength (Ber.encodeLength n ++ rest) = .ok (n % 2 ^ 24, rest) ∧
    (Ber.IsLength n (Ber.encodeLength n) ↔ n < 2 ^ 24) ∧
    ∀ {aid : Bytes} {components : List Bytes} {blockSize : Nat} {file : LoadFile},
      ofComponents? aid components blockSize = .ok file →
      Ber.read file.data = .ok (.primitive [Tag.loadFileDataBlock]
          (components.flatten.take (components.flatten.length % 2 ^ 24)),
        components.flatten.drop (components.flatten.length % 2 ^ 24)) ∧
      (Ber.read file.data = .ok (.primitive [Tag.loadFileDataBlock] components.flatten, []) ↔
        components.flatten.length < 2 ^ 24) ∧
      (Ber.Spells Ber.exact (.primitive [Tag.loadFileDataBlock] components.flatten) file.data ↔
        components.flatten.length < 2 ^ 24) := by
  refine ⟨Ber.readLength_encodeLength n rest, Ber.isLength_encodeLength_iff, ?_⟩
  intro aid components blockSize file h
  rw [data_of_ofComponents h]
  exact ⟨read_dataBlock components, read_dataBlock_iff components, spells_dataBlock_iff components⟩

/-- A load file with two components, and the longest length that is written rightly. -/
theorem spells_data_twoComponents : ∃ file,
    ofComponents? [0xA0, 0x00, 0x00, 0x00, 0x01] [[0x01, 0x02], [0x03]] = .ok file ∧
    file.data = [0xC4, 0x03, 0x01, 0x02, 0x03] ∧
    Ber.Spells Ber.exact (.primitive [0xC4] [0x01, 0x02, 0x03]) file.data ∧
    Ber.IsLength 16777215 (Ber.encodeLength 16777215) := by
  obtain ⟨file, h⟩ : ∃ file,
      ofComponents? [0xA0, 0x00, 0x00, 0x00, 0x01] [[0x01, 0x02], [0x03]] = .ok file := ⟨_, rfl⟩
  obtain ⟨-, hlength, hdata⟩ := spells_data_iff 16777215 []
  obtain ⟨-, -, hspells⟩ := hdata h
  exact ⟨file, h, data_of_ofComponents h, hspells.2 (by decide), hlength.2 (by decide)⟩

/-- Sixteen megabytes of code. -/
def longCode : Bytes := List.replicate (2 ^ 24) 0

/-- The length of sixteen megabytes is written as zero, and the load file with them is read as an
object without code, with all of the code after it. -/
theorem longCode_misread :
    Ber.encodeLength (2 ^ 24) = [0x83, 0x00, 0x00, 0x00] ∧
    Ber.readLength (Ber.encodeLength (2 ^ 24)) = .ok (0, []) ∧
    ∃ file, ofComponents? [0xA0, 0x00, 0x00, 0x00, 0x01] [longCode] = .ok file ∧
      Ber.read file.data = .ok (.primitive [Tag.loadFileDataBlock] [], longCode) ∧
      ¬Ber.Spells Ber.exact (.primitive [Tag.loadFileDataBlock] longCode) file.data := by
  have hlen : longCode.length = 2 ^ 24 := List.length_replicate
  have hflat : [longCode].flatten = longCode := List.flatten_singleton
  obtain ⟨file, h⟩ : ∃ file,
      ofComponents? [0xA0, 0x00, 0x00, 0x00, 0x01] [longCode] = .ok file :=
    exists_ofComponents (by decide) (by decide) [longCode]
  have hread := read_dataBlock [longCode]
  have hspells := (spells_dataBlock_iff [longCode]).not
  rw [hflat, hlen, Nat.mod_self, List.take_zero, List.drop_zero] at hread
  rw [hflat, hlen] at hspells
  refine ⟨rfl, rfl, file, h, ?_⟩
  rw [data_of_ofComponents h]
  exact ⟨hread, hspells.2 (Nat.lt_irrefl _)⟩

end SmartCard.LoadFile
