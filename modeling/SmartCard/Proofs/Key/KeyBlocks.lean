import Mathlib.Data.List.Forall2
import SmartCard.Proofs.Channel.Limits
import SmartCard.Proofs.Key.Envelopes

/-!
# What a card makes of PUT KEY

The data of PUT KEY are the version of the new keys and one block for each of them. A block tells
its own length, so that the card can read one after the other (`KeyBlock.readAll`). With the key
encryption key it recovers the secret of each block, and confirms it by the check value
(`KeyBlock.Holds`).

* `KeyBlock.readAll_flatMap_encode` — blocks that were written are read again;
* `Key.exists_block_of_envelope` — the block of a key holds that key;
* `Command.putKeys_readable` — the card reads from the command what the host put into it, the keys
  of a set in the order in which they were given. The roles of the keys bound their number, so the
  command fits every session. -/

namespace SmartCard

/-- A block of three bytes. -/
theorem Block.exists_bytes (b : Block 3) : ∃ x y z, b = ⟨[x, y, z], rfl⟩ := by
  match b with
  | ⟨[x, y, z], _⟩ => exact ⟨x, y, z, rfl⟩

/-! ### Blocks -/

/-- A key on its way to a card: its type, a field with its enciphered secret, and its check value.
-/
structure KeyBlock where
  keyType : UInt8
  field : Bytes
  check : Block 3
  /-- The length of the field fits its byte. -/
  length_lt : field.length < 256

namespace KeyBlock

variable {block : KeyBlock} {rest s : Bytes}

def encode (block : KeyBlock) : Bytes :=
  block.keyType :: block.field.length.toUInt8 :: (block.field ++ 0x03 :: block.check.toList)

theorem length_encode (block : KeyBlock) : block.encode.length = block.field.length + 6 := by
  simp [encode]

/-- Reads a type, a field with its length before it, and a check value of three bytes. The rest is
left to be read. -/
def read : Bytes → Option (KeyBlock × Bytes)
  | keyType :: length :: s =>
    match s.drop length.toNat with
    -- the check value comes with its length, which is the same for all keys
    | 0x03 :: a :: b :: c :: rest =>
      have hlt : (s.take length.toNat).length < 256 := by
        have := length.toNat_lt
        rw [List.length_take]
        omega
      some (⟨keyType, s.take length.toNat, ⟨[a, b, c], rfl⟩, hlt⟩, rest)
    | _ => none
  | _ => none

theorem length_of_read (h : read s = some (block, rest)) : rest.length < s.length := by
  unfold read at h
  split at h
  · rename_i keyType length s
    split at h
    · rename_i a b c later hdrop
      cases h
      -- what is dropped leaves the check value and its length, so some bytes were taken
      have hlen := congrArg List.length hdrop
      simp only [List.length_drop, List.length_cons] at hlen ⊢
      omega
    · cases h
  · cases h

/-- Reads blocks up to the end. -/
def readAll (s : Bytes) : Option (List KeyBlock) :=
  if s = [] then some []
  else
    match h : read s with
    | some (block, rest) =>
      have := length_of_read h
      (readAll rest).map (block :: ·)
    | none => none
termination_by s.length

@[simp] theorem readAll_nil : readAll [] = some [] := by
  rw [readAll, if_pos rfl]

theorem readAll_of_read (h : read s = some (block, rest)) :
    readAll s = (readAll rest).map (block :: ·) := by
  -- a block was read, so there was something to read it from
  have hne : s ≠ [] := by
    intro hnil
    have := length_of_read h
    rw [hnil] at this
    exact Nat.not_lt_zero _ this
  rw [readAll, if_neg hne]
  split
  · rename_i hread
    rw [h] at hread
    cases hread
    rfl
  · rename_i hread
    rw [h] at hread
    cases hread

/-- **A block tells its own length**: it is read from the front, whatever comes after it. -/
theorem read_encode_append (block : KeyBlock) (rest : Bytes) :
    read (block.encode ++ rest) = some (block, rest) := by
  obtain ⟨keyType, field, check, hlt⟩ := block
  obtain ⟨a, b, c, rfl⟩ := check.exists_bytes
  -- the length has not been cut, so it tells where the field ends
  have hlen : field.length.toUInt8.toNat = field.length := UInt8.toNat_ofNat_of_lt' hlt
  have hfield : (field ++ 0x03 :: a :: b :: c :: rest).take field.length = field :=
    List.take_left
  have hrest : (field ++ 0x03 :: a :: b :: c :: rest).drop field.length =
      0x03 :: a :: b :: c :: rest := List.drop_left
  change read (keyType :: field.length.toUInt8 :: ((field ++ 0x03 :: [a, b, c]) ++ rest)) = _
  rw [List.append_assoc]
  change read (keyType :: field.length.toUInt8 :: (field ++ 0x03 :: a :: b :: c :: rest)) = _
  simp only [read, hlen, hrest, hfield]

/-- **Blocks that were written one after the other are read again**, and nothing is left over. -/
theorem readAll_flatMap_encode (blocks : List KeyBlock) :
    readAll (blocks.flatMap encode) = some blocks := by
  -- on the blocks, from the front
  induction blocks with
  | nil => exact readAll_nil
  | cons block blocks ih =>
    rw [List.flatMap_cons, readAll_of_read (read_encode_append block _), ih]
    rfl

/-- Reads the data of PUT KEY: the version of the keys, and their blocks. -/
def readData : Bytes → Option (UInt8 × List KeyBlock)
  | version :: s => (readAll s).map (version, ·)
  | [] => none

theorem readData_flatMap_encode (version : UInt8) (blocks : List KeyBlock) :
    readData (version :: blocks.flatMap encode) = some (version, blocks) := by
  rw [readData, readAll_flatMap_encode]
  rfl

/-! ### The key in a block -/

/-- The secret that a card recovers with its key encryption key. The field of an AES key starts with
the length of the secret. -/
def secret? (kek : Bytes) (block : KeyBlock) : Option Bytes :=
  if block.keyType = 0x80 then (TripleDes.ecbDecrypt kek block.field).toOption
  else if block.keyType = 0x88 then
    -- chained from a block of zeros
    match block.field with
    | length :: sealed =>
      (Aes.cbcDecrypt kek (Block.zero 16) sealed).toOption.filter (·.length == length.toNat)
    | [] => none
  else none

/-- The check value of a secret for a block of this type: the first three bytes of a block of zeros
under triple DES, or of a block of ones under AES. -/
def checkValue? (block : KeyBlock) (secret : Bytes) : Option Bytes :=
  if block.keyType = 0x80 then
    (TripleDes.ecbEncrypt secret (List.replicate 8 0x00)).toOption.map (·.take 3)
  else if block.keyType = 0x88 then
    (Aes.cbcEncrypt secret (Block.zero 16) (List.replicate 16 0x01)).toOption.map (·.take 3)
  else none

/-- **The block holds the key**: its type is that of the cipher that the key is sent for, and a card
with the key encryption key recovers the secret and finds its check value. -/
structure Holds (block : KeyBlock) (k kek : Key) : Prop where
  keyType : KeyCipher.ofKeyType? block.keyType = some (k.cipherUnder kek)
  secret : block.secret? kek.secret = some k.secret
  check : block.checkValue? k.secret = some block.check.toList

end KeyBlock

/-! ### From the key to its block -/

namespace TripleDes

/-- Deciphering undoes enciphering. -/
theorem ecbDecrypt_of_ecbEncrypt {secret data sealed : Bytes}
    (h : ecbEncrypt secret data = .ok sealed) : ecbDecrypt secret sealed = .ok data := by
  change BlockCipher.inMode (ofSecret secret) BlockCipher.ecbEncrypt data = .ok sealed at h
  refine BlockCipher.inMode_of_inMode (by decide) (fun c hc blocks => ?_) h
  -- block by block, and each block is found again
  have hundo : c.decrypt ∘ c.encrypt = id := funext (lawful_of_ofSecret hc).decrypt_encrypt
  rw [BlockCipher.ecbDecrypt, BlockCipher.ecbEncrypt, List.map_map, hundo, List.map_id]

/-- The check value is the start of an enciphered block of zeros. -/
theorem take_of_checkValue {secret : Bytes} {check : Block 3}
    (h : CheckValue.tripleDes secret = .ok check) : ∃ sealed,
      ecbEncrypt secret (List.replicate 8 0x00) = .ok sealed ∧ sealed.take 3 = check.toList := by
  obtain ⟨c, hc, h⟩ := bind_eq_ok_iff.1 h
  cases h
  have hzero : Padding.aligned 8 (List.replicate 8 0x00) = .ok [Block.zero 8] :=
    Padding.aligned_join (by decide) [Block.zero 8]
  refine ⟨_, bind_eq_ok_iff.2 ⟨_, hzero, bind_eq_ok_iff.2 ⟨c, hc, rfl⟩⟩, ?_⟩
  simp [BlockCipher.ecbEncrypt, Block.join]

end TripleDes

/-- The check value is the start of an enciphered block of ones. -/
theorem Aes.take_of_checkValue {secret : Bytes} {check : Block 3}
    (h : CheckValue.aes secret = .ok check) : ∃ sealed,
      cbcEncrypt secret (Block.zero 16) (List.replicate 16 0x01) = .ok sealed ∧
        sealed.take 3 = check.toList := by
  obtain ⟨c, hc, h⟩ := bind_eq_ok_iff.1 h
  cases h
  have hones : Padding.aligned 16 (List.replicate 16 0x01) = .ok [Block.fill 16 1] :=
    Padding.aligned_join (by decide) [Block.fill 16 1]
  -- a block of zeros adds nothing to the first block of the chain
  have hxor : Block.zero 16 ^^^ Block.fill 16 1 = Block.fill 16 1 := by decide
  refine ⟨_, bind_eq_ok_iff.2 ⟨_, hones, bind_eq_ok_iff.2 ⟨c, hc, rfl⟩⟩, ?_⟩
  simp [BlockCipher.cbcEncrypt, Block.join, hxor]

namespace Key

variable {key kek : Key} {bytes : Bytes}

theorem exists_block_of_tripleDesEnvelope (hcipher : key.cipherUnder kek = .des3)
    (h : key.tripleDesEnvelope kek = .ok bytes) : ∃ block : KeyBlock,
      bytes = block.encode ∧ block.field.length ≤ key.length + 1 ∧ block.Holds key kek := by
  obtain ⟨enciphered, hsealed, h⟩ := bind_eq_ok_iff.1 h
  obtain ⟨check, hcheck, h⟩ := bind_eq_ok_iff.1 h
  cases h
  -- triple DES keeps the length, and a key is far below 256 bytes
  have hlen : enciphered.length = key.length := TripleDes.length_of_ecbEncrypt hsealed
  have hlt : enciphered.length < 256 := by
    have := key.length_le
    omega
  obtain ⟨start, hstart, htake⟩ := TripleDes.take_of_checkValue hcheck
  -- the bytes, and what the card finds in them: the type, the secret and the check value
  refine ⟨⟨0x80, enciphered, check, hlt⟩, ?_, Nat.le_succ_of_le (Nat.le_of_eq hlen), ?_, ?_, ?_⟩
  · simp [KeyBlock.encode]
  · rw [hcipher]
    rfl
  · have hopened := TripleDes.ecbDecrypt_of_ecbEncrypt hsealed
    exact toOption_of_eq_ok hopened
  · change (TripleDes.ecbEncrypt key.secret (List.replicate 8 0x00)).toOption.map (·.take 3) = _
    rw [hstart, ← htake]
    rfl

theorem exists_block_of_aesEnvelope (hcipher : key.cipherUnder kek = .aes)
    (h : key.aesEnvelope kek = .ok bytes) : ∃ block : KeyBlock,
      bytes = block.encode ∧ block.field.length ≤ key.length + 1 ∧ block.Holds key kek := by
  obtain ⟨enciphered, hsealed, h⟩ := bind_eq_ok_iff.1 h
  obtain ⟨check, hcheck, h⟩ := bind_eq_ok_iff.1 h
  cases h
  have hlen : enciphered.length = key.length := Aes.length_of_cbcEncrypt hsealed
  have hlt : (key.length.toUInt8 :: enciphered).length < 256 := by
    have := key.length_le
    rw [List.length_cons]
    omega
  obtain ⟨start, hstart, htake⟩ := Aes.take_of_checkValue hcheck
  refine ⟨⟨0x88, key.length.toUInt8 :: enciphered, check, hlt⟩, ?_, ?_, ?_, ?_, ?_⟩
  · simp [KeyBlock.encode]
  · exact Nat.succ_le_succ (Nat.le_of_eq hlen)
  · rw [hcipher]
    rfl
  · -- the secret is as long as the first byte of the field says
    have hopened := Aes.cbcDecrypt_of_cbcEncrypt hsealed
    change (Aes.cbcDecrypt kek.secret (Block.zero 16) enciphered).toOption.filter
      (·.length == key.length.toUInt8.toNat) = _
    rw [toOption_of_eq_ok hopened, key.toNat_length]
    exact Option.filter_some_pos (beq_self_eq_true key.length)
  · change (Aes.cbcEncrypt key.secret (Block.zero 16) (List.replicate 16 0x01)).toOption.map
      (·.take 3) = _
    rw [hstart, ← htake]
    rfl

/-- **The block of a key holds that key.** -/
theorem exists_block_of_envelope (h : key.envelope kek = .ok bytes) : ∃ block : KeyBlock,
    bytes = block.encode ∧ block.field.length ≤ key.length + 1 ∧ block.Holds key kek := by
  rcases envelope_cases h with ⟨hcipher, h⟩ | ⟨hcipher, h⟩
  · exact exists_block_of_aesEnvelope hcipher h
  · exact exists_block_of_tripleDesEnvelope hcipher h

/-- Keys that are enciphered one after the other make as many blocks, of at most 39 bytes each. -/
theorem exists_blocks_of_mapM {keys : List Key} {pieces : List Bytes}
    (h : keys.mapM (·.envelope kek) = .ok pieces) : ∃ blocks : List KeyBlock,
      pieces.flatten = blocks.flatMap KeyBlock.encode ∧
        List.Forall₂ (·.Holds · kek) blocks keys ∧ pieces.flatten.length ≤ 39 * keys.length := by
  -- on the keys; a block has six bytes beside its field, and the field at most one beside the key
  induction keys generalizing pieces with
  | nil =>
    cases h
    exact ⟨[], rfl, .nil, Nat.zero_le _⟩
  | cons key keys ih =>
    rw [List.mapM_cons] at h
    obtain ⟨bytes, hbytes, h⟩ := bind_eq_ok_iff.1 h
    obtain ⟨later, hlater, h⟩ := bind_eq_ok_iff.1 h
    cases h
    obtain ⟨block, rfl, hfield, hholds⟩ := exists_block_of_envelope hbytes
    obtain ⟨blocks, hflat, hall, hlen⟩ := ih hlater
    refine ⟨block :: blocks, ?_, .cons hholds hall, ?_⟩
    · rw [List.flatten_cons, List.flatMap_cons, hflat]
    · have hkey := key.length_le
      rw [List.flatten_cons, List.length_append, block.length_encode, List.length_cons]
      omega

end Key

/-! ### The command -/

/-- A set has at most one key for each of the five roles. -/
theorem KeySet.size_le (s : KeySet) : s.size ≤ 5 :=
  List.length_filterMap_le s.find? KeyUsage.all

namespace Command

variable {s : KeySet} {keys : List Key} {kek : Key} {replaced version : UInt8} {command : Command}

/-- The data of PUT KEY are the version and the blocks of the keys. -/
theorem exists_blocks_of_putKeys (h : putKeys replaced version keys kek = .ok command) :
    ∃ blocks, KeyBlock.readData command.dataBytes = some (version, blocks) ∧
      List.Forall₂ (·.Holds · kek) blocks keys ∧
      command.dataBytes.length ≤ 39 * keys.length + 1 := by
  obtain ⟨first, rest, pieces, -, hpieces, rfl⟩ := putKeys_eq_ok h
  obtain ⟨blocks, hflat, hholds, hlen⟩ := Key.exists_blocks_of_mapM hpieces
  refine ⟨blocks, ?_, hholds, ?_⟩
  · rw [dataBytes_putKey, hflat, KeyBlock.readData_flatMap_encode]
  · rw [dataBytes_putKey, List.length_cons]
    exact Nat.succ_le_succ hlen

/-- The keys of a set fit the data field of a command, at every level of protection. -/
theorem length_le_of_putKeys (hkeys : keys.Perm s.keys)
    (h : putKeys replaced version keys kek = .ok command) : command.dataBytes.length ≤ 239 := by
  -- five keys of at most 39 bytes each, and the version
  obtain ⟨blocks, -, -, hlen⟩ := exists_blocks_of_putKeys h
  have hsize : keys.length ≤ 5 := hkeys.length_eq ▸ s.size_le
  omega

/-- **A card reads from PUT KEY what the host put into it.** The data are the new version, and then
a block for each key, in the given order and with nothing left over; each block holds its key. The
keys of a set fit a short command, whatever a session has to add to them. -/
theorem putKeys_readable (hkeys : keys.Perm s.keys)
    (h : putKeys replaced version keys kek = .ok command) :
    (∃ blocks, KeyBlock.readData command.dataBytes = some (version, blocks) ∧
        List.Forall₂ (·.Holds · kek) blocks keys) ∧
      command.dataBytes.length ≤ 239 ∧
      ∀ session : Session, session.InUse → ∃ wrapped, (session.wrap command).1 = .ok wrapped := by
  obtain ⟨blocks, hread, hholds, -⟩ := exists_blocks_of_putKeys h
  have hlen := length_le_of_putKeys hkeys h
  exact ⟨⟨blocks, hread, hholds⟩, hlen, fun session hsession => hsession.exists_wrap hlen⟩

/-- A set of an AES key and a key for triple DES. A generic key enciphers both. -/
def mixedKeys : KeySet :=
  ((KeySet.empty "mixed" 0x31).add
      ⟨0x01, .enc, .aes, KeySet.testSecret, KeySet.aes_accepts_testSecret⟩ (by decide)).add
    ⟨0x02, .mac, .des3, KeySet.testSecret, KeySet.des3_accepts_testSecret⟩ (by decide)

/-- In the recorded session, a command with a block of either kind. -/
theorem putKeys_readable_mixed : ∃ (command : Command) (blocks : List KeyBlock)
    (session : Session) (wrapped : Command),
    putKeys 0x30 0x31 mixedKeys.keys KeySet.testKey = .ok command ∧
      KeyBlock.readData command.dataBytes = some (0x31, blocks) ∧
      List.Forall₂ (·.Holds · KeySet.testKey) blocks mixedKeys.keys ∧
      mixedKeys.keys.map (·.cipherUnder KeySet.testKey) = [.aes, .des3] ∧
      session.InUse ∧ (session.wrap command).1 = .ok wrapped := by
  have hbuilt : (putKeys 0x30 0x31 mixedKeys.keys KeySet.testKey).isOk = true := by
    decide +kernel
  obtain ⟨command, hcommand⟩ := isOk_iff.1 hbuilt
  obtain ⟨⟨blocks, hread, hholds⟩, -, hwraps⟩ :=
    putKeys_readable (.refl mixedKeys.keys) hcommand
  obtain ⟨first, proof, host, hstart, hauth⟩ := Scp03Card.recorded_authenticates
  have hproof : (first.after []).authenticate .full = .ok (proof, host) := hauth
  have hsession : Session.InUse (host.after []) := .after hstart hproof []
  obtain ⟨wrapped, hwrap⟩ := hwraps _ hsession
  exact ⟨command, blocks, _, wrapped, hcommand, hread, hholds, rfl, hsession, hwrap⟩

end Command

end SmartCard
