import SmartCard.Management.Content
import SmartCard.Proofs.Channel.SessionSteps

/-!
# Transfers in blocks

Data for the card are cut into pieces (`LoadFile.pieces`): full ones, and a shorter one at the end
if the data do not come out even. Nothing is lost or added (`LoadFile.flatten_pieces`), and the
piece with number `i` starts `i` full pieces into the data (`LoadFile.getElem?_pieces`).

A load file is sent as one LOAD command for each piece. `ContentManager.CarriesFile` says what the
card finds in these commands, and `ContentManager.carriesFile` that it does for every load file. -/

namespace SmartCard

namespace LoadFile

variable {n : Nat} {data : Bytes}

/-! ### Pieces -/

theorem piecesAfter_cons (cut : List Bytes) (n : Nat) (b : UInt8) (rest : Bytes) :
    piecesAfter cut (n + 1) (b :: rest) =
      piecesAfter ((b :: rest.take n) :: cut) (n + 1) (rest.drop n) := by
  rw [piecesAfter]

/-- What was cut before comes first. -/
theorem piecesAfter_eq (cut : List Bytes) (n : Nat) (data : Bytes) :
    piecesAfter cut n data = cut.reverse ++ pieces n data := by
  unfold pieces
  -- on the length of the data, for all that was cut before
  induction hlen : data.length using Nat.strongRecOn generalizing cut data with
  | ind length ih =>
    cases n with
    | zero => simp [piecesAfter]
    | succ n =>
      cases data with
      | nil => simp [piecesAfter]
      | cons b rest =>
        have hshort : (rest.drop n).length < length := by
          rw [← hlen, List.length_drop, List.length_cons]
          omega
        rw [piecesAfter_cons cut, piecesAfter_cons [], ih _ hshort _ _ rfl,
          ih _ hshort [b :: rest.take n] _ rfl, List.reverse_cons, List.append_assoc]
        rfl

@[simp] theorem pieces_nil (n : Nat) : pieces n [] = [] := by
  cases n with
  | zero => simp [pieces, piecesAfter]
  | succ n => simp [pieces, piecesAfter]

/-- **The first piece is cut off**, and then the rest is cut. -/
theorem pieces_of_ne_nil (hn : 0 < n) (hdata : data ≠ []) :
    pieces n data = data.take n :: pieces n (data.drop n) := by
  obtain ⟨m, rfl⟩ := Nat.exists_eq_succ_of_ne_zero (Nat.ne_of_gt hn)
  obtain ⟨b, rest, rfl⟩ := List.exists_cons_of_ne_nil hdata
  rw [pieces, piecesAfter_cons, piecesAfter_eq]
  rfl

/-- What is left after a piece is shorter. -/
theorem length_drop_lt (hn : 0 < n) (hdata : data ≠ []) : (data.drop n).length < data.length := by
  have hpos := List.length_pos_iff.2 hdata
  rw [List.length_drop]
  omega

/-- **The pieces are the data.** -/
theorem flatten_pieces (hn : 0 < n) (data : Bytes) : (pieces n data).flatten = data := by
  -- on the length of the data, piece by piece
  induction hlen : data.length using Nat.strongRecOn generalizing data with
  | ind length ih =>
    by_cases hdata : data = []
    · rw [hdata, pieces_nil, List.flatten_nil]
    · have hrest := ih _ (hlen ▸ length_drop_lt hn hdata) (data.drop n) rfl
      rw [pieces_of_ne_nil hn hdata, List.flatten_cons, hrest, List.take_append_drop]

/-- Each piece starts where the one before ends, and there are as many as it takes. -/
theorem getElem?_pieces (hn : 0 < n) (data : Bytes) (i : Nat) : (pieces n data)[i]? =
    if i * n < data.length then some ((data.drop (i * n)).take n) else none := by
  -- on the number of the piece, for all data
  induction i generalizing data with
  | zero =>
    by_cases hdata : data = []
    · rw [hdata]
      simp
    · rw [pieces_of_ne_nil hn hdata, Nat.zero_mul, if_pos (List.length_pos_iff.2 hdata)]
      rfl
  | succ i ih =>
    by_cases hdata : data = []
    · rw [hdata]
      simp
    · have hpos := List.length_pos_iff.2 hdata
      rw [pieces_of_ne_nil hn hdata, List.getElem?_cons_succ, ih, List.length_drop, List.drop_drop,
        Nat.succ_mul, Nat.add_comm n]
      by_cases hi : i * n + n < data.length
      · rw [if_pos hi, if_pos (by omega)]
      · rw [if_neg hi, if_neg (by omega)]

theorem length_pieces (hn : 0 < n) (data : Bytes) :
    (pieces n data).length = (data.length + n - 1) / n := by
  -- on the length of the data, piece by piece
  induction hlen : data.length using Nat.strongRecOn generalizing data with
  | ind length ih =>
    by_cases hdata : data = []
    · obtain rfl : length = 0 := by rw [← hlen, hdata]; rfl
      rw [hdata, pieces_nil, List.length_nil, Nat.zero_add,
        Nat.div_eq_of_lt (Nat.sub_lt hn Nat.one_pos)]
    · have hpos : 0 < length := hlen ▸ List.length_pos_iff.2 hdata
      have hrest := ih _ (hlen ▸ length_drop_lt hn hdata) (data.drop n) rfl
      rw [pieces_of_ne_nil hn hdata, List.length_cons, hrest, List.length_drop, hlen,
        show length + n - 1 = length - 1 + n by omega, Nat.add_div_right _ hn]
      by_cases hfull : n < length
      · rw [show length - n + n - 1 = length - 1 by omega]
      · -- the first piece is the only one
        rw [Nat.div_eq_of_lt (by omega), Nat.div_eq_of_lt (by omega)]

/-! ### Blocks -/

variable (file : LoadFile)

theorem length_blocks : file.blocks.length = file.blockCount := by
  unfold blocks
  rw [List.length_map, List.length_zipIdx, length_pieces file.blockSize_range.1]
  rfl

theorem blockCount_pos : 0 < file.blockCount := by
  have hdata := List.length_pos_iff.2 file.data_ne_nil
  have hsize := file.blockSize_range.1
  unfold blockCount
  exact Nat.div_pos (by omega) hsize

/-- A block tells its number, whether it is the last one, and its piece of the data. -/
theorem getElem?_blocks {i : Nat} {block : LoadBlock} (h : file.blocks[i]? = some block) :
    i * file.blockSize < file.data.length ∧
      block = ⟨i.toUInt8, i + 1 == file.blockCount,
        (file.data.drop (i * file.blockSize)).take file.blockSize⟩ := by
  unfold blocks at h
  rw [List.getElem?_map, List.getElem?_zipIdx, getElem?_pieces file.blockSize_range.1] at h
  by_cases hi : i * file.blockSize < file.data.length
  · rw [if_pos hi] at h
    obtain rfl := Option.some.inj h
    exact ⟨hi, by rw [Nat.zero_add]⟩
  · rw [if_neg hi] at h
    cases h

end LoadFile

namespace ContentManager

variable {file : LoadFile}

/-! ### LOAD commands -/

/-- The LOAD commands of a file, in the order in which they are sent. -/
def loadCommands (file : LoadFile) : List Command := file.blocks.map loadCommand

/-- **What the card finds in the LOAD commands of a file**: the data of the file in full blocks and
a last one, numbered from zero on, with only the last one marked as such. -/
structure CarriesFile (file : LoadFile) (loads : List Command) : Prop where
  length_eq : loads.length = file.blockCount
  length_pos : 0 < loads.length
  data_eq : loads.flatMap Command.dataBytes = file.data
  header : ∀ (i : Nat) command, loads[i]? = some command →
    command.cla = CommandClass.globalPlatform ∧ command.ins = Instruction.load ∧
      command.p2.toNat = i % 256 ∧ command.le = some 0
  /-- Every block but the last is full. -/
  full : ∀ (i : Nat) command, loads[i]? = some command → i + 1 < loads.length →
    command.p1 = 0x00 ∧ command.dataBytes.length = file.blockSize
  last : ∀ (i : Nat) command, loads[i]? = some command → i + 1 = loads.length →
    command.p1 = 0x80 ∧ 1 ≤ command.dataBytes.length ∧ command.dataBytes.length ≤ file.blockSize

@[simp] theorem dataBytes_load (p1 number : UInt8) (data : Bytes) :
    (Command.load p1 number data).dataBytes = data := by
  rw [Command.load, Command.dataBytes_withLe, Command.dataBytes_globalPlatform]

theorem length_loadCommands (file : LoadFile) :
    (loadCommands file).length = file.blockCount := by
  rw [loadCommands, List.length_map, file.length_blocks]

/-- The data of the blocks are the pieces of the data. -/
theorem map_data_blocks (file : LoadFile) :
    file.blocks.map LoadBlock.data = LoadFile.pieces file.blockSize file.data := by
  unfold LoadFile.blocks
  rw [List.map_map]
  exact List.zipIdx_map_fst 0 _

/-- A LOAD command and the piece of the data that it carries. -/
theorem getElem?_loadCommands {i : Nat} {command : Command}
    (h : (loadCommands file)[i]? = some command) :
    i * file.blockSize < file.data.length ∧
      command = Command.load (lastBlockParameter (i + 1 == file.blockCount)) i.toUInt8
        ((file.data.drop (i * file.blockSize)).take file.blockSize) := by
  unfold loadCommands at h
  rw [List.getElem?_map] at h
  obtain ⟨block, hblock, rfl⟩ := Option.map_eq_some_iff.1 h
  obtain ⟨hi, rfl⟩ := file.getElem?_blocks hblock
  exact ⟨hi, rfl⟩

theorem length_of_mem_loadCommands {command : Command} (h : command ∈ loadCommands file) :
    command.dataBytes.length ≤ file.blockSize := by
  obtain ⟨i, hi⟩ := List.getElem?_of_mem h
  obtain ⟨-, rfl⟩ := getElem?_loadCommands hi
  rw [dataBytes_load]
  exact List.length_take_le _ _

/-- **The LOAD commands of a file carry it.** -/
theorem carriesFile (file : LoadFile) : CarriesFile file (loadCommands file) where
  length_eq := length_loadCommands file
  length_pos := by
    rw [length_loadCommands]
    exact file.blockCount_pos
  data_eq := by
    have hblocks : (loadCommands file).flatMap Command.dataBytes =
        (file.blocks.map LoadBlock.data).flatten := by
      rw [loadCommands, List.flatMap_map, List.flatMap_def]
      simp only [loadCommand, dataBytes_load]
    rw [hblocks, map_data_blocks, LoadFile.flatten_pieces file.blockSize_range.1]
  header := by
    intro i command hi
    obtain ⟨-, rfl⟩ := getElem?_loadCommands hi
    exact ⟨rfl, rfl, rfl, rfl⟩
  full := by
    intro i command hi hlt
    -- the next block has a piece of its own, so this one is full
    obtain ⟨hnext, -⟩ := getElem?_loadCommands (List.getElem?_eq_getElem hlt)
    obtain ⟨-, rfl⟩ := getElem?_loadCommands hi
    rw [Nat.succ_mul] at hnext
    rw [length_loadCommands] at hlt
    refine ⟨?_, ?_⟩
    · change lastBlockParameter (i + 1 == file.blockCount) = 0x00
      rw [beq_false_of_ne (Nat.ne_of_lt hlt)]
      rfl
    · rw [dataBytes_load, List.length_take, List.length_drop]
      omega
  last := by
    intro i command hi hlast
    obtain ⟨hstart, rfl⟩ := getElem?_loadCommands hi
    have hsize := file.blockSize_range.1
    rw [length_loadCommands] at hlast
    refine ⟨?_, ?_, ?_⟩
    · change lastBlockParameter (i + 1 == file.blockCount) = 0x80
      rw [hlast, beq_self_eq_true]
      rfl
    · rw [dataBytes_load, List.length_take, List.length_drop]
      omega
    · rw [dataBytes_load]
      exact List.length_take_le _ _

end ContentManager

end SmartCard
