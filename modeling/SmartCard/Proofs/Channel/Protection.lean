import SmartCard.Proofs.Channel.SessionSteps

/-!
# The protection of commands

What each protocol makes of a command, from the side of the host.

SCP01 and SCP02 share one way to protect commands, and differ in the MAC, in the cipher for chaining
values and in how data are made to fit whole blocks. `DesProtocol` names these three, and
`Session.desData` is the protection of a command in their terms: it is what either protocol does
(`Session.scp01Data_eq`, `Session.scp02Data_eq`).

What it takes to protect a command, and what comes out, is said once for both of them
(`Session.desData_eq_ok_iff`) and once for SCP03 (`Session.scp03Data_eq_ok_iff`), and
`Session.protectData_eq_ok` tells which of the two applies. With usable keys protection succeeds
exactly when the command leaves room for it (`Session.exists_desData`, `Session.exists_scp03Data`
and `Session.room_of_desData`, `Session.room_of_scp03Data`). Whatever comes out fits a short command
(`Session.length_of_protectData`). -/

namespace SmartCard

/-! ### The two protocols -/

/-- A protocol on triple DES. -/
inductive DesProtocol
  | scp01
  | scp02
deriving DecidableEq

namespace DesProtocol

def version : DesProtocol → ScpVersion
  | scp01 => .scp01
  | scp02 => .scp02

/-- The MAC of commands. -/
def mac : DesProtocol → Bytes → Block 8 → Bytes → Except CipherFault (Block 8)
  | scp01 => Mac.triple
  | scp02 => Mac.retail

/-- The cipher for chaining values. -/
def encryptIcv : DesProtocol → Bytes → Block 8 → Except CipherFault (Block 8)
  | scp01 => Icv.encryptTriple
  | scp02 => Icv.encryptSingle

/-- The host's way from data to whole blocks. -/
def frame : DesProtocol → Bytes → Bytes
  | scp01 => Session.scp01Plain
  | scp02 => Padding.pad 8

/-- The card's way back: SCP01 data follow their length, and SCP02 data stand before the padding. -/
def unframe : DesProtocol → Bytes → Option Bytes
  | scp01, length :: rest =>
    if length.toNat ≤ rest.length then some (rest.take length.toNat) else none
  | scp01, [] => none
  | scp02, padded => (Padding.unpad padded).toOption

/-- The links between commands and answers, of which SCP01 has those of commands only. -/
def links : DesProtocol → Option (Block 8) → Block 8 → Chaining
  | scp01, commandMac, _ => .scp01 commandMac
  | scp02, commandMac, answerMac => .scp02 commandMac answerMac

variable (p : DesProtocol)

/-- **The card finds the data again.** With SCP01 the length tells where they end, whether or not
the blocks had to be padded. -/
theorem unframe_frame {data : Bytes} (h : data.length < 256) :
    p.unframe (p.frame data) = some data := by
  cases p with
  | scp01 =>
    -- the length fits its byte, so the card reads it as it was
    have hlength : data.length.toUInt8.toNat = data.length := UInt8.toNat_ofNat_of_lt' h
    change DesProtocol.scp01.unframe (if _ then _ else Padding.pad 8 _) = _
    split
    · simp [unframe, hlength]
    · simp [Padding.pad, unframe, hlength]
  | scp02 => exact toOption_of_eq_ok (Padding.unpad_pad 8 data)

/-- Framed data fill the block that they end in, in either protocol. -/
theorem length_frame (data : Bytes) : (p.frame data).length = 8 * (data.length / 8 + 1) := by
  cases p with
  | scp01 =>
    change (if _ then _ else Padding.pad 8 _ : Bytes).length = _
    split
    · -- the length and the data fill their blocks, so nothing was added to them
      rename_i h
      rw [List.length_cons] at h ⊢
      omega
    · -- what does not fill its blocks has less than a block to go
      rename_i h
      rw [Padding.length_pad (by decide)]
      rw [List.length_cons] at h ⊢
      omega
  | scp02 => exact Padding.length_pad (by decide) data

theorem length_frame_mod (data : Bytes) : (p.frame data).length % 8 = 0 := by
  rw [length_frame]
  exact Nat.mul_mod_right 8 _

theorem frame_ne_nil (data : Bytes) : p.frame data ≠ [] := by
  cases p with
  | scp01 =>
    change (if _ then _ else Padding.pad 8 _ : Bytes) ≠ []
    -- the byte of the length is there even without data
    split
    · exact List.cons_ne_nil _ _
    · exact Padding.pad_ne_nil _ _
  | scp02 => exact Padding.pad_ne_nil _ _

theorem exists_mac {secret : Bytes} (h : TripleDes.Usable secret) (icv : Block 8)
    (message : Bytes) : ∃ mac, p.mac secret icv message = .ok mac := by
  cases p with
  | scp01 => exact Mac.exists_triple h icv message
  | scp02 => exact Mac.exists_retail h icv message

theorem usable_of_mac {secret message : Bytes} {icv mac : Block 8}
    (h : p.mac secret icv message = .ok mac) : TripleDes.Usable secret := by
  cases p with
  | scp01 => exact Mac.usable_of_triple h
  | scp02 => exact Mac.usable_of_retail h

theorem exists_encryptIcv {secret : Bytes} (h : TripleDes.Usable secret) (icv : Block 8) :
    ∃ sealed, p.encryptIcv secret icv = .ok sealed := by
  cases p with
  | scp01 => exact Icv.exists_encryptTriple h icv
  | scp02 => exact Icv.exists_encryptSingle h icv

end DesProtocol

theorem Chaining.links_or_scp03 (c : Chaining) :
    (∃ (p : DesProtocol) (commandMac : Option (Block 8)) (answerMac : Block 8),
      c = p.links commandMac answerMac) ∨ ∃ last counter, c = .scp03 last counter := by
  cases c with
  | scp01 commandMac => exact .inl ⟨.scp01, commandMac, Block.zero 8, rfl⟩
  | scp02 commandMac answerMac => exact .inl ⟨.scp02, commandMac, answerMac, rfl⟩
  | scp03 last counter => exact .inr ⟨last, counter, rfl⟩

/-! ### Commands of SCP01 and SCP02 -/

namespace Session

variable {s : Session} {p : DesProtocol}

/-- The protected data field of a command in either protocol, and its MAC. -/
def desData (s : Session) (p : DesProtocol) (commandMac : Option (Block 8)) (command : Command)
    (cla : UInt8) (encipher : Bool) : Except Error (Bytes × Block 8) := do
  let data := command.dataBytes
  let length ← lengthByte (data.length + 8)
  let secret ← s.secret .mac
  let icv ← (s.commandIcv p.encryptIcv secret commandMac).mapError .cipher
  let mac ← (p.mac secret icv (macInput cla command length data)).mapError .cipher
  let body ← s.desBody encipher p.frame data
  let _ ← lengthByte (body.length + 8)
  return (body ++ mac.toList, mac)

theorem scp01Data_eq (s : Session) : s.scp01Data = s.desData .scp01 := rfl

theorem scp02Data_eq (s : Session) : s.scp02Data = s.desData .scp02 := rfl

/-- Both protocols replace the MAC of the last command and leave that of the last answer. -/
theorem protectData_eq {commandMac : Option (Block 8)} (answerMac : Block 8)
    (h : s.chaining = p.links commandMac answerMac) (c : Command) (cla : UInt8)
    (encipher : Bool) :
    s.protectData c cla encipher = (s.desData p commandMac c cla encipher).map
      fun (field, mac) => (field, p.links (some mac) answerMac) := by
  unfold protectData
  rw [h]
  -- the two protocols keep different links, but replace the same one of them
  cases p with
  | scp01 =>
    simp only [DesProtocol.links, scp01Data_eq]
    cases s.desData .scp01 commandMac c cla encipher with
    | error e => rfl
    | ok made => rfl
  | scp02 =>
    simp only [DesProtocol.links, scp02Data_eq]
    cases s.desData .scp02 commandMac c cla encipher with
    | error e => rfl
    | ok made => rfl

/-- The session has a secret for a role that triple DES can use. -/
def Usable (s : Session) (usage : KeyUsage) : Prop :=
  ∃ secret, s.secret usage = .ok secret ∧ TripleDes.Usable secret

theorem exists_commandIcv (s : Session) {secret : Bytes} (h : TripleDes.Usable secret)
    (commandMac : Option (Block 8)) :
    ∃ icv, s.commandIcv p.encryptIcv secret commandMac = .ok icv := by
  unfold commandIcv
  -- the first command starts from zero, and needs no cipher
  cases commandMac with
  | none => exact ⟨_, rfl⟩
  | some mac =>
    by_cases hbit : s.parameters &&& icvEncryptionBit ≠ 0
    · obtain ⟨sealed, hsealed⟩ := p.exists_encryptIcv h mac
      exact ⟨sealed, by rw [← hsealed]; exact if_pos hbit⟩
    · exact ⟨mac, if_neg hbit⟩

theorem exists_desBody (henc : s.Usable .enc) (encipher : Bool) (data : Bytes) :
    ∃ body, s.desBody encipher p.frame data = .ok body := by
  unfold desBody
  by_cases hc : (encipher && !data.isEmpty) = true
  · rw [if_pos hc]
    obtain ⟨secret, hsecret, husable⟩ := henc
    -- framed data are whole blocks, so the cipher of a usable secret takes them
    obtain ⟨body, hbody⟩ := TripleDes.exists_cbcEncrypt husable (p.length_frame_mod data)
      (Block.zero 8)
    exact ⟨body, bind_eq_ok_iff.2 ⟨secret, hsecret, mapError_eq_ok_iff.2 hbody⟩⟩
  · rw [if_neg hc]
    exact ⟨data, rfl⟩

/-- **The room for data in SCP01 and SCP02.** Data leave room for a MAC, in clear and as they are
sent, exactly when there is room for the MAC and, where data are enciphered, for one more block. -/
theorem room_iff_of_desBody {encipher : Bool} {data body : Bytes}
    (h : s.desBody encipher p.frame data = .ok body) :
    data.length + 8 ≤ 255 ∧ body.length + 8 ≤ 255 ↔
      data.length + (if encipher then 16 else 8) ≤ 255 := by
  unfold desBody at h
  cases encipher with
  | false =>
    cases h
    exact and_self_iff
  | true =>
    change _ ↔ data.length + 16 ≤ 255
    by_cases hc : data = []
    · -- there is nothing to encipher, and room enough for a MAC alone
      subst hc
      cases h
      decide
    · rw [if_pos (by simp [hc])] at h
      obtain ⟨secret, -, hbody⟩ := bind_eq_ok_iff.1 h
      -- enciphering keeps the length of the framed data, and these fill the block that they end in
      have hlen := TripleDes.length_of_cbcEncrypt (mapError_eq_ok_iff.1 hbody)
      rw [p.length_frame] at hlen
      omega

/-- **A command is protected in SCP01 and SCP02** exactly when its data leave room for a MAC in
clear and as they are sent, and the session has what it takes to make the MAC and to encipher the
data. -/
theorem desData_eq_ok_iff {commandMac : Option (Block 8)} {c : Command} {cla : UInt8}
    {encipher : Bool} {field : Bytes} {mac : Block 8} :
    s.desData p commandMac c cla encipher = .ok (field, mac) ↔ c.dataBytes.length + 8 ≤ 255 ∧
      ∃ secret icv body, s.secret .mac = .ok secret ∧
        s.commandIcv p.encryptIcv secret commandMac = .ok icv ∧
        p.mac secret icv (macInput cla c (c.dataBytes.length + 8).toUInt8 c.dataBytes) = .ok mac ∧
        s.desBody encipher p.frame c.dataBytes = .ok body ∧ body.length + 8 ≤ 255 ∧
        body ++ mac.toList = field := by
  constructor
  · intro h
    -- step by step: the length in clear, the MAC, the body, and the length as it is sent
    obtain ⟨length, hlength, h⟩ := bind_eq_ok_iff.1 h
    obtain ⟨secret, hsecret, h⟩ := bind_eq_ok_iff.1 h
    obtain ⟨icv, hicv, h⟩ := bind_eq_ok_iff.1 h
    obtain ⟨mac', hmac, h⟩ := bind_eq_ok_iff.1 h
    obtain ⟨body, hbody, h⟩ := bind_eq_ok_iff.1 h
    obtain ⟨sent, hsent, h⟩ := bind_eq_ok_iff.1 h
    rw [mapError_eq_ok_iff] at hicv hmac
    cases h
    obtain ⟨hlen, rfl⟩ := lengthByte_eq_ok_iff.1 hlength
    obtain ⟨hroom, -⟩ := lengthByte_eq_ok_iff.1 hsent
    exact ⟨hlen, secret, icv, body, hsecret, hicv, hmac, hbody, hroom, rfl⟩
  · rintro ⟨hlen, secret, icv, body, hsecret, hicv, hmac, hbody, hroom, rfl⟩
    exact bind_eq_ok_iff.2 ⟨_, lengthByte_eq_ok_iff.2 ⟨hlen, rfl⟩, bind_eq_ok_iff.2
      ⟨secret, hsecret, bind_eq_ok_iff.2 ⟨icv, mapError_eq_ok_iff.2 hicv, bind_eq_ok_iff.2
        ⟨mac, mapError_eq_ok_iff.2 hmac, bind_eq_ok_iff.2 ⟨body, hbody, bind_eq_ok_iff.2
          ⟨_, lengthByte_eq_ok_iff.2 ⟨hroom, rfl⟩, rfl⟩⟩⟩⟩⟩⟩

/-- SCP01 and SCP02 protect every command that leaves room for it. -/
theorem exists_desData (henc : s.Usable .enc) (hmac : s.Usable .mac)
    (commandMac : Option (Block 8)) (c : Command) (cla : UInt8) (encipher : Bool)
    (hfits : c.dataBytes.length + (if encipher then 16 else 8) ≤ 255) :
    ∃ field mac, s.desData p commandMac c cla encipher = .ok (field, mac) := by
  obtain ⟨body, hbody⟩ := exists_desBody (p := p) henc encipher c.dataBytes
  -- the room for the data is room for both lengths
  obtain ⟨hlen, hroom⟩ := (room_iff_of_desBody hbody).2 hfits
  obtain ⟨secret, hsecret, husable⟩ := hmac
  obtain ⟨icv, hicv⟩ := exists_commandIcv (p := p) s husable commandMac
  obtain ⟨mac, hmac⟩ := p.exists_mac husable icv
    (macInput cla c (c.dataBytes.length + 8).toUInt8 c.dataBytes)
  exact ⟨body ++ mac.toList, mac, desData_eq_ok_iff.2
    ⟨hlen, secret, icv, body, hsecret, hicv, hmac, hbody, hroom, rfl⟩⟩

/-- Protection in SCP01 and SCP02 is refused for want of room, and for nothing else. -/
theorem protocol_of_desData (henc : s.Usable .enc) (hmac : s.Usable .mac)
    {commandMac : Option (Block 8)} {c : Command} {cla : UInt8} {encipher : Bool} {e : Error}
    (h : s.desData p commandMac c cla encipher = .error e) : ∃ fault, e = .protocol fault := by
  obtain ⟨body, hbody⟩ := exists_desBody (p := p) henc encipher c.dataBytes
  obtain ⟨secret, hsecret, husable⟩ := hmac
  obtain ⟨icv, hicv⟩ := exists_commandIcv (p := p) s husable commandMac
  rcases bind_eq_error_iff.1 h with h | ⟨length, -, h⟩
  · exact protocol_of_lengthByte h
  · obtain ⟨mac, hmac⟩ := p.exists_mac husable icv (macInput cla c length c.dataBytes)
    -- the session has all that the steps in between need, so none of them has failed
    have h := bind_eq_error_of_ok hsecret h
    have h := bind_eq_error_of_ok (mapError_eq_ok_iff.2 hicv) h
    have h := bind_eq_error_of_ok (mapError_eq_ok_iff.2 hmac) h
    have h := bind_eq_error_of_ok hbody h
    -- only the second look at the length is left
    rcases bind_eq_error_iff.1 h with h | ⟨sent, -, h⟩
    · exact protocol_of_lengthByte h
    · cases h

theorem usable_of_desData {commandMac : Option (Block 8)} {c : Command} {cla : UInt8}
    {encipher : Bool} {field : Bytes} {mac : Block 8}
    (h : s.desData p commandMac c cla encipher = .ok (field, mac)) : s.Usable .mac := by
  obtain ⟨-, secret, icv, body, hsecret, -, hmac, -⟩ := desData_eq_ok_iff.1 h
  exact ⟨secret, hsecret, p.usable_of_mac hmac⟩

theorem length_of_desData {commandMac : Option (Block 8)} {c : Command} {cla : UInt8}
    {encipher : Bool} {field : Bytes} {mac : Block 8}
    (h : s.desData p commandMac c cla encipher = .ok (field, mac)) : field.length ≤ 255 := by
  -- the length of what is sent was the last thing to be looked at
  obtain ⟨-, secret, icv, body, -, -, -, -, hroom, rfl⟩ := desData_eq_ok_iff.1 h
  rw [List.length_append, Block.length_toList]
  exact hroom

theorem room_of_desData {commandMac : Option (Block 8)} {c : Command} {cla : UInt8}
    {encipher : Bool} {field : Bytes} {mac : Block 8}
    (h : s.desData p commandMac c cla encipher = .ok (field, mac)) :
    c.dataBytes.length + (if encipher then 16 else 8) ≤ 255 := by
  obtain ⟨hlen, secret, icv, body, -, -, -, hbody, hroom, -⟩ := desData_eq_ok_iff.1 h
  exact (room_iff_of_desBody hbody).1 ⟨hlen, hroom⟩

/-! ### Commands of SCP03 -/

theorem exists_aesBody (henc : s.keys.Serves .enc) (counter : UInt32) (encipher : Bool)
    (data : Bytes) : ∃ body, s.aesBody counter encipher data = .ok body := by
  unfold aesBody
  by_cases hc : (encipher && !data.isEmpty) = true
  · rw [if_pos hc]
    obtain ⟨secret, hsecret, hlen⟩ := exists_secret henc
    obtain ⟨icv, hicv⟩ := Aes.exists_encryptBlock hlen (commandCounterBlock counter)
    -- padding makes whole blocks of any data
    obtain ⟨body, hbody⟩ := Aes.exists_cbcEncrypt hlen
      (Padding.length_pad_mod (show 0 < 16 by decide) data) icv
    exact ⟨body, bind_eq_ok_iff.2 ⟨secret, hsecret, bind_eq_ok_iff.2
      ⟨icv, mapError_eq_ok_iff.2 hicv, mapError_eq_ok_iff.2 hbody⟩⟩⟩
  · rw [if_neg hc]
    exact ⟨data, rfl⟩

/-- What becomes of data in SCP03: they are enciphered from the counter block on, or left alone. -/
theorem aesBody_eq_ok {counter : UInt32} {encipher : Bool} {data body : Bytes}
    (h : s.aesBody counter encipher data = .ok body) :
    ((encipher && !data.isEmpty) = false ∧ body = data) ∨
      ((encipher && !data.isEmpty) = true ∧ ∃ secret icv, s.secret .enc = .ok secret ∧
        Aes.encryptBlock secret (commandCounterBlock counter) = .ok icv ∧
        Aes.cbcEncrypt secret icv (Padding.pad 16 data) = .ok body) := by
  unfold aesBody at h
  by_cases hc : (encipher && !data.isEmpty) = true
  · rw [if_pos hc] at h
    obtain ⟨secret, hsecret, h⟩ := bind_eq_ok_iff.1 h
    obtain ⟨icv, hicv, hbody⟩ := bind_eq_ok_iff.1 h
    rw [mapError_eq_ok_iff] at hicv hbody
    exact .inr ⟨hc, secret, icv, hsecret, hicv, hbody⟩
  · rw [if_neg hc] at h
    cases h
    exact .inl ⟨Bool.not_eq_true _ ▸ hc, rfl⟩

/-- **The room for data in SCP03.** Blocks are twice as long as in the other protocols, and yet the
limit is the same: 239 bytes end in the last of fifteen blocks, which leave room for a MAC. -/
theorem room_iff_of_aesBody {counter : UInt32} {encipher : Bool} {data body : Bytes}
    (h : s.aesBody counter encipher data = .ok body) :
    body.length + 8 ≤ 255 ↔ data.length + (if encipher then 16 else 8) ≤ 255 := by
  rcases aesBody_eq_ok h with ⟨hplain, rfl⟩ | ⟨hc, secret, icv, -, -, hbody⟩
  · cases encipher with
    | false => exact Iff.rfl
    | true =>
      -- there was nothing to encipher
      rw [Bool.true_and, Bool.not_eq_false', List.isEmpty_iff] at hplain
      rw [hplain]
      decide
  · obtain ⟨rfl, -⟩ := Bool.and_eq_true_iff.1 hc
    -- fifteen blocks of sixteen bytes are the most that fit with a MAC, and padding takes one byte
    -- of them
    have hlen := Aes.length_of_cbcEncrypt hbody
    rw [Padding.length_pad (by decide)] at hlen
    change _ ↔ data.length + 16 ≤ 255
    omega

/-- **A command is protected in SCP03** exactly when its data as they are sent leave room for a MAC,
and the session has what it takes to encipher the data and to make the MAC. -/
theorem scp03Data_eq_ok_iff {last : Block 16} {counter : UInt32} {c : Command} {cla : UInt8}
    {encipher : Bool} {field : Bytes} {full : Block 16} :
    s.scp03Data last counter c cla encipher = .ok (field, full) ↔ ∃ body secret,
      s.aesBody counter encipher c.dataBytes = .ok body ∧ body.length + 8 ≤ 255 ∧
        s.secret .mac = .ok secret ∧
        Cmac.aes secret (last.toList ++ macInput cla c (body.length + 8).toUInt8 body) = .ok full ∧
        body ++ full.leftHalf.toList = field := by
  constructor
  · intro h
    obtain ⟨body, hbody, h⟩ := bind_eq_ok_iff.1 h
    obtain ⟨length, hlength, h⟩ := bind_eq_ok_iff.1 h
    obtain ⟨secret, hsecret, h⟩ := bind_eq_ok_iff.1 h
    -- the MAC covers the data as they are sent, so it comes after them
    obtain ⟨full', hfull, h⟩ := bind_eq_ok_iff.1 h
    rw [mapError_eq_ok_iff] at hfull
    cases h
    obtain ⟨hroom, rfl⟩ := lengthByte_eq_ok_iff.1 hlength
    exact ⟨body, secret, hbody, hroom, hsecret, hfull, rfl⟩
  · rintro ⟨body, secret, hbody, hroom, hsecret, hfull, rfl⟩
    exact bind_eq_ok_iff.2 ⟨body, hbody, bind_eq_ok_iff.2
      ⟨_, lengthByte_eq_ok_iff.2 ⟨hroom, rfl⟩, bind_eq_ok_iff.2 ⟨secret, hsecret,
        bind_eq_ok_iff.2 ⟨full, mapError_eq_ok_iff.2 hfull, rfl⟩⟩⟩⟩

/-- SCP03 protects every command that leaves room for it. -/
theorem exists_scp03Data (henc : s.keys.Serves .enc) (hmac : s.keys.Serves .mac)
    (last : Block 16) (counter : UInt32) (c : Command) (cla : UInt8) (encipher : Bool)
    (hfits : c.dataBytes.length + (if encipher then 16 else 8) ≤ 255) :
    ∃ field full, s.scp03Data last counter c cla encipher = .ok (field, full) := by
  obtain ⟨body, hbody⟩ := exists_aesBody henc counter encipher c.dataBytes
  have hroom := (room_iff_of_aesBody hbody).2 hfits
  obtain ⟨secret, hsecret, hlen⟩ := exists_secret hmac
  obtain ⟨full, hfull⟩ := Cmac.exists_aes hlen
    (last.toList ++ macInput cla c (body.length + 8).toUInt8 body)
  exact ⟨body ++ full.leftHalf.toList, full,
    scp03Data_eq_ok_iff.2 ⟨body, secret, hbody, hroom, hsecret, hfull, rfl⟩⟩

/-- Protection in SCP03 is refused for want of room, and for nothing else. -/
theorem protocol_of_scp03Data (henc : s.keys.Serves .enc) (hmac : s.keys.Serves .mac)
    {last : Block 16} {counter : UInt32} {c : Command} {cla : UInt8} {encipher : Bool} {e : Error}
    (h : s.scp03Data last counter c cla encipher = .error e) : ∃ fault, e = .protocol fault := by
  obtain ⟨body, hbody⟩ := exists_aesBody henc counter encipher c.dataBytes
  obtain ⟨secret, hsecret, hlen⟩ := exists_secret hmac
  -- neither the cipher nor the MAC can fail with secrets of sixteen bytes
  have h := bind_eq_error_of_ok hbody h
  rcases bind_eq_error_iff.1 h with h | ⟨length, -, h⟩
  · exact protocol_of_lengthByte h
  · obtain ⟨full, hfull⟩ := Cmac.exists_aes hlen (last.toList ++ macInput cla c length body)
    have h := bind_eq_error_of_ok hsecret h
    have h := bind_eq_error_of_ok (mapError_eq_ok_iff.2 hfull) h
    cases h

theorem length_of_scp03Data {last : Block 16} {counter : UInt32} {c : Command} {cla : UInt8}
    {encipher : Bool} {field : Bytes} {full : Block 16}
    (h : s.scp03Data last counter c cla encipher = .ok (field, full)) : field.length ≤ 255 := by
  obtain ⟨body, secret, -, hroom, -, -, rfl⟩ := scp03Data_eq_ok_iff.1 h
  rw [List.length_append, Block.length_toList]
  exact hroom

theorem room_of_scp03Data {last : Block 16} {counter : UInt32} {c : Command} {cla : UInt8}
    {encipher : Bool} {field : Bytes} {full : Block 16}
    (h : s.scp03Data last counter c cla encipher = .ok (field, full)) :
    c.dataBytes.length + (if encipher then 16 else 8) ≤ 255 := by
  obtain ⟨body, secret, hbody, hroom, -⟩ := scp03Data_eq_ok_iff.1 h
  exact (room_iff_of_aesBody hbody).1 hroom

/-! ### All protocols -/

/-- What a protocol has made of a command, by the links that it keeps. -/
theorem protectData_eq_ok {c : Command} {cla : UInt8} {encipher : Bool} {field : Bytes}
    {chaining : Chaining} (h : s.protectData c cla encipher = .ok (field, chaining)) :
    (∃ (p : DesProtocol) (commandMac : Option (Block 8)) (answerMac mac : Block 8),
      s.chaining = p.links commandMac answerMac ∧ chaining = p.links (some mac) answerMac ∧
        s.desData p commandMac c cla encipher = .ok (field, mac)) ∨
      ∃ last counter full, s.chaining = .scp03 last counter ∧ chaining = .scp03 full counter ∧
        s.scp03Data last counter c cla encipher = .ok (field, full) := by
  -- the protocols of DES share their form, and SCP03 has one of its own
  rcases s.chaining.links_or_scp03 with ⟨p, commandMac, answerMac, hlinks⟩ | ⟨last, counter, hlinks⟩
  · rw [protectData_eq answerMac hlinks, map_eq_ok_iff] at h
    obtain ⟨⟨_, mac⟩, hdata, h⟩ := h
    cases h
    exact .inl ⟨p, commandMac, answerMac, mac, hlinks, rfl, hdata⟩
  · unfold protectData at h
    rw [hlinks] at h
    obtain ⟨⟨_, full⟩, hdata, h⟩ := bind_eq_ok_iff.1 h
    cases h
    exact .inr ⟨last, counter, full, hlinks, rfl, hdata⟩

/-- **A protected data field fits a short command.** -/
theorem length_of_protectData {c : Command} {cla : UInt8} {encipher : Bool} {field : Bytes}
    {chaining : Chaining} (h : s.protectData c cla encipher = .ok (field, chaining)) :
    field.length ≤ 255 := by
  rcases protectData_eq_ok h with ⟨_, _, _, _, -, -, hdata⟩ | ⟨_, _, _, -, -, hdata⟩
  · exact length_of_desData hdata
  · exact length_of_scp03Data hdata

/-- Whatever was protected has left room for it. -/
theorem room_of_protectData {c : Command} {cla : UInt8} {encipher : Bool} {field : Bytes}
    {chaining : Chaining} (h : s.protectData c cla encipher = .ok (field, chaining)) :
    c.dataBytes.length + (if encipher then 16 else 8) ≤ 255 := by
  rcases protectData_eq_ok h with ⟨_, _, _, _, -, -, hdata⟩ | ⟨_, _, _, -, -, hdata⟩
  · exact room_of_desData hdata
  · exact room_of_scp03Data hdata

end Session

end SmartCard
