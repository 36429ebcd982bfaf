import Mathlib.Data.List.Perm.Subperm
import SmartCard.Proofs.Management.KeyReplacement

/-!
# Where new keys are stored

The parameters of PUT KEY are numbers of seven bits, each under a flag: the version that is replaced
and whether more commands follow, and the id of the first key and whether there are several. A card
counts from that id and stores the key of each block under the next one (`KeyDelivery`).

The host sends the keys of a set in the order of their ids. `ContentManager.putKey_addresses` says
what the card makes of that, for every command that was sent. The version is the one to be replaced
if that has seven bits; a greater one raises the flag for more commands. The keys are stored under
their own ids exactly if these are consecutive and start below 0x80 (`KeySet.NumberedFrom`). Nothing
keeps the keys of another set from being sent, and those behind a gap are then stored under the ids
of other keys (`ContentManager.putKey_misplaces`). -/

namespace SmartCard

/-! ### Numbers under a flag -/

/-- The flag is raised on demand, and by a number that does not fit below it. -/
theorem flag_or_ne_zero_iff (b : UInt8) (flag : Bool) :
    (b ||| if flag then 0x80 else 0x00) &&& 0x80 ≠ 0 ↔ flag = true ∨ 0x80 ≤ b := by
  have hall : ∀ (flag : Bool) (n : Fin 256),
      (UInt8.ofFin n ||| if flag then 0x80 else 0x00) &&& 0x80 ≠ 0 ↔
        flag = true ∨ 0x80 ≤ UInt8.ofFin n := by decide +kernel
  exact hall flag b.toFin

/-- Below the flag there are the other seven bits of the number. -/
theorem toNat_or_flag (b : UInt8) (flag : Bool) :
    ((b ||| if flag then 0x80 else 0x00) &&& 0x7F).toNat = b.toNat % 128 := by
  have hall : ∀ (flag : Bool) (n : Fin 256),
      ((UInt8.ofFin n ||| if flag then 0x80 else 0x00) &&& 0x7F).toNat =
        (UInt8.ofFin n).toNat % 128 := by decide +kernel
  exact hall flag b.toFin

/-! ### Consecutive numbers -/

/-- Numbers in order are consecutive exactly if they are all numbers between two bounds. -/
theorem eq_range'_iff_of_pairwise {ids : List Nat} {n : Nat} (hsorted : ids.Pairwise (· ≤ ·)) :
    ids = List.range' n ids.length ↔ ∀ m, m ∈ ids ↔ n ≤ m ∧ m < n + ids.length := by
  constructor
  · intro heq m
    have hmem : m ∈ List.range' n ids.length ↔ n ≤ m ∧ m < n + ids.length := List.mem_range'_1
    rwa [← heq] at hmem
  · intro hall
    -- the numbers between the bounds are as many as there are in the list, so these are all
    have hsub : List.range' n ids.length ⊆ ids := fun m hm =>
      (hall m).2 (List.mem_range'_1.1 hm)
    have hperm : (List.range' n ids.length).Perm ids :=
      (List.subperm_of_subset (List.nodup_range' 1) hsub).perm_of_length_le
        (Nat.le_of_eq List.length_range'.symm)
    have hantisymm : ∀ a b : Nat, a ∈ ids → b ∈ List.range' n ids.length → a ≤ b → b ≤ a → a = b :=
      fun _ _ _ _ => Nat.le_antisymm
    exact hperm.symm.eq_of_pairwise hantisymm hsorted (List.pairwise_le_range' 1)

/-- The ids of the keys are the numbers from one on, each for one key. -/
def KeySet.NumberedFrom (s : KeySet) (n : Nat) : Prop :=
  ∀ m, (∃ k ∈ s.keys, k.id.toNat = m) ↔ n ≤ m ∧ m < n + s.size

/-! ### PUT KEY as a card reads it -/

/-- What a card reads from PUT KEY. -/
structure KeyDelivery where
  /-- Whether more commands follow. -/
  more : Bool
  /-- The version that is replaced. -/
  replaced : UInt8
  /-- Whether there are several keys. -/
  multiple : Bool
  firstId : UInt8
  version : UInt8
  blocks : List KeyBlock

namespace KeyDelivery

variable {d : KeyDelivery} {keys : List Key}

/-- The top bits of the parameters are flags. -/
def ofParameters (p1 p2 version : UInt8) (blocks : List KeyBlock) : KeyDelivery where
  more := p1 &&& 0x80 ≠ 0
  replaced := p1 &&& 0x7F
  multiple := p2 &&& 0x80 ≠ 0
  firstId := p2 &&& 0x7F
  version := version
  blocks := blocks

/-- Reads PUT KEY. -/
def ofCommand? (c : Command) : Option KeyDelivery :=
  (KeyBlock.readData c.dataBytes).map fun data => ofParameters c.p1 c.p2 data.1 data.2

/-- The id under which the key at a place is stored. -/
def idAt (d : KeyDelivery) (place : Nat) : Nat := d.firstId.toNat + place

/-- The keys at their places are stored under their own ids. -/
def InPlace (d : KeyDelivery) (keys : List Key) : Prop :=
  ∀ place k, keys[place]? = some k → d.idAt place = k.id.toNat

theorem inPlace_iff : d.InPlace keys ↔
    keys.map (·.id.toNat) = List.range' d.firstId.toNat keys.length := by
  constructor
  · intro h
    refine List.ext_getElem? fun place => ?_
    rw [List.getElem?_map]
    cases hk : keys[place]? with
    | none =>
      -- behind the last key both lists have ended
      have hlen : keys.length ≤ place := List.getElem?_eq_none_iff.1 hk
      rw [List.getElem?_eq_none (by rw [List.length_range']; exact hlen)]
      rfl
    | some k =>
      obtain ⟨hlt, -⟩ := List.getElem?_eq_some_iff.1 hk
      rw [List.getElem?_range' hlt, Nat.one_mul]
      exact congrArg some (h place k hk).symm
  · intro h place k hk
    have hid : (keys.map (·.id.toNat))[place]? = some k.id.toNat := by
      rw [List.getElem?_map, hk]
      rfl
    obtain ⟨hlt, -⟩ := List.getElem?_eq_some_iff.1 hk
    rw [h, List.getElem?_range' hlt, Nat.one_mul] at hid
    exact Option.some.inj hid

end KeyDelivery

namespace ContentManager

open SecureChannel ChannelM

variable {L : Type} [CardLink L] {ch : SecureChannel (Tapped L)} {candidate : KeySet}
  {replaced : UInt8} {kek first : Key} {rest : List Key} {command : Command} {d : KeyDelivery}
  {bytes : Bytes}

/-! ### The keys of a set -/

theorem pairwise_keysInOrder (candidate : KeySet) :
    (keysInOrder candidate).Pairwise fun k l => k.id ≤ l.id := by
  have htrans : ∀ k l m : Key, decide (k.id ≤ l.id) = true → decide (l.id ≤ m.id) = true →
      decide (k.id ≤ m.id) = true := by
    intro k l m hkl hlm
    exact decide_eq_true (UInt8.le_trans (of_decide_eq_true hkl) (of_decide_eq_true hlm))
  have htotal : ∀ k l : Key, (decide (k.id ≤ l.id) || decide (l.id ≤ k.id)) = true := by
    intro k l
    rw [Bool.or_eq_true, decide_eq_true_iff, decide_eq_true_iff]
    exact UInt8.le_total k.id l.id
  exact (List.pairwise_mergeSort htrans htotal candidate.keys).imp of_decide_eq_true

/-- The first key has the least id. -/
theorem le_iff_of_keysInOrder (horder : keysInOrder candidate = first :: rest) {id : UInt8} :
    id ≤ first.id ↔ ∀ k ∈ candidate.keys, id ≤ k.id := by
  have hmem : ∀ k, k ∈ candidate.keys ↔ k ∈ first :: rest := by
    intro k
    rw [← horder]
    -- sorting keeps the keys, so the first of the list stands for all of them
    exact (perm_keysInOrder candidate).mem_iff.symm
  have hsorted := pairwise_keysInOrder candidate
  rw [horder] at hsorted
  constructor
  · intro hid k hk
    rcases List.mem_cons.1 ((hmem k).1 hk) with rfl | hrest
    · exact hid
    · exact UInt8.le_trans hid (List.rel_of_pairwise_cons hsorted hrest)
  · intro hall
    exact hall first ((hmem first).2 List.mem_cons_self)

/-- A set is numbered without a gap if its keys are, in the order in which they are sent. -/
theorem numberedFrom_iff (n : Nat) : candidate.NumberedFrom n ↔
    (keysInOrder candidate).map (·.id.toNat) = List.range' n (keysInOrder candidate).length := by
  -- sorting has put the ids in order, and has kept their number and which ones there are
  have hsorted : ((keysInOrder candidate).map (·.id.toNat)).Pairwise (· ≤ ·) :=
    List.pairwise_map.2 ((pairwise_keysInOrder candidate).imp UInt8.le_iff_toNat_le.1)
  have hlen : ((keysInOrder candidate).map (·.id.toNat)).length = candidate.size := by
    rw [List.length_map]
    exact (perm_keysInOrder candidate).length_eq
  have hmem : ∀ m, m ∈ (keysInOrder candidate).map (·.id.toNat) ↔
      ∃ k ∈ candidate.keys, k.id.toNat = m := by
    intro m
    simp only [List.mem_map, (perm_keysInOrder candidate).mem_iff]
  rw [← List.length_map (f := (·.id.toNat)), eq_range'_iff_of_pairwise hsorted, hlen]
  simp only [hmem]
  rfl

/-! ### What the card makes of them -/

/-- What a card reads from the command with the keys of a set. -/
structure Addresses (candidate : KeySet) (replaced : UInt8) (kek : Key) (d : KeyDelivery) :
    Prop where
  version_eq : d.version = candidate.version
  /-- There is a block for each key. -/
  holds : List.Forall₂ (·.Holds · kek) d.blocks (keysInOrder candidate)
  replaced_eq : d.replaced.toNat = replaced.toNat % 128
  more_iff : d.more = true ↔ 0x80 ≤ replaced
  multiple_iff : d.multiple = true ↔ 1 < candidate.size ∨ ∀ k ∈ candidate.keys, 0x80 ≤ k.id
  /-- The card counts from the least id. -/
  firstId_eq : ∀ first ∈ (keysInOrder candidate).head?, d.firstId.toNat = first.id.toNat % 128
  /-- The keys are stored under their own ids exactly if these are consecutive. -/
  inPlace_iff : d.InPlace (keysInOrder candidate) ↔ ∃ n < 128, candidate.NumberedFrom n

/-- The keys are in their places if the card counts from the least id, and that has seven bits. -/
theorem inPlace_iff_numberedFrom (horder : keysInOrder candidate = first :: rest)
    (hfirst : d.firstId.toNat = first.id.toNat % 128) :
    d.InPlace (keysInOrder candidate) ↔ ∃ n < 128, candidate.NumberedFrom n := by
  rw [KeyDelivery.inPlace_iff, hfirst]
  constructor
  · intro h
    exact ⟨_, Nat.mod_lt _ (by decide), (numberedFrom_iff _).2 h⟩
  · rintro ⟨n, hlt, hnumbered⟩
    have hids := (numberedFrom_iff n).1 hnumbered
    -- the first of the numbers is the least id, which the flag has left as it is
    have hhead : first.id.toNat = n := by
      rw [horder, List.map_cons, List.length_cons, List.range'_succ] at hids
      exact (List.cons.inj hids).1
    rw [hhead, Nat.mod_eq_of_lt hlt]
    exact hids

/-- **What a card makes of a command that was built.** -/
theorem exists_addresses_of_putKeys (h : Command.putKeys replaced candidate.version
    (keysInOrder candidate) kek = .ok command) :
    ∃ d, KeyDelivery.ofCommand? command = some d ∧ Addresses candidate replaced kek d := by
  -- the blocks are read from the data before the parameters are looked at
  obtain ⟨blocks, hread, hholds, -⟩ := Command.exists_blocks_of_putKeys h
  have hreads : KeyDelivery.ofCommand? command =
      some (.ofParameters command.p1 command.p2 candidate.version blocks) := by
    rw [KeyDelivery.ofCommand?, hread]
    rfl
  obtain ⟨first, rest, pieces, horder, -, rfl⟩ := Command.putKeys_eq_ok h
  have hseveral : decide (1 < (keysInOrder candidate).length) = true ↔ 1 < candidate.size := by
    rw [decide_eq_true_iff, (perm_keysInOrder candidate).length_eq]
    rfl
  -- the second parameter: the least id under the flag for several keys
  have hfirst := toNat_or_flag first.id (1 < (keysInOrder candidate).length)
  refine ⟨_, hreads,
    { version_eq := rfl, holds := hholds, replaced_eq := toNat_or_flag replaced false
      more_iff := ?_, multiple_iff := ?_, firstId_eq := ?_
      inPlace_iff := inPlace_iff_numberedFrom horder hfirst }⟩
  · -- the host asks for no flag here, so only the version can raise it
    have hflag := flag_or_ne_zero_iff replaced false
    rw [or_iff_right Bool.false_ne_true] at hflag
    exact decide_eq_true_iff.trans hflag
  · have hflag := flag_or_ne_zero_iff first.id (1 < (keysInOrder candidate).length)
    exact (decide_eq_true_iff.trans hflag).trans
      (or_congr hseveral (le_iff_of_keysInOrder horder))
  · intro k hk
    -- the head of the list is the key whose id the parameter has
    rw [horder] at hk
    obtain rfl : first = k := Option.some.inj hk
    exact hfirst

/-! ### From what was sent -/

/-- What comes before a PUT KEY command that is sent at once. -/
structure Posting where
  session : Session
  kek : Key
  /-- The command as it was built. -/
  command : Command
  /-- The command as it was sent. -/
  wrapped : Command
  /-- The command as a card reads it. -/
  delivery : KeyDelivery

/-- **The keys were sent**: the session of an open channel has protected the command that its key
encryption key was used for. -/
structure Posting.Follows (p : Posting) (ch : SecureChannel (Tapped L)) (candidate : KeySet)
    (replaced : UInt8) (bytes : Bytes) : Prop where
  established : ch.state = .established
  current : ch.session = some p.session
  key : p.session.key .kek = .ok p.kek
  built : Command.putKeys replaced candidate.version (keysInOrder candidate) p.kek = .ok p.command
  protects : (p.session.wrap p.command).1 = .ok p.wrapped
  sent : bytes = p.wrapped.encode
  read : KeyDelivery.ofCommand? p.command = some p.delivery

theorem exists_posting (hsent : bytes ∈ newlySent (replaceKeysUnchecked candidate replaced) ch) :
    ∃ p : Posting, p.Follows ch candidate replaced bytes := by
  -- nothing is sent for keys without a version
  have hversion : candidate.version ≠ 0 := by
    intro hzero
    unfold newlySent at hsent
    rw [run_replaceKeysUnchecked, if_pos hzero, List.drop_length] at hsent
    cases hsent
  have honly := onlySent_putKeys candidate replaced ch
  -- with a version, posting the keys is all that the operation does
  have hrun : ExceptT.run (putKeys candidate replaced) ch =
      ExceptT.run (replaceKeysUnchecked candidate replaced) ch := by
    rw [run_replaceKeysUnchecked, if_neg hversion]
  rw [hrun] at honly
  obtain ⟨session, command, wrapped, hstate, hsession, hbuilt, hwrap, hbytes⟩ :=
    honly.of_mem_newlySent hsent
  obtain ⟨kek, hkek, hcommand⟩ := putKeysCommand_eq_ok_iff.1 hbuilt
  obtain ⟨d, hread, -⟩ := exists_addresses_of_putKeys hcommand
  exact ⟨⟨session, kek, command, wrapped, d⟩, hstate, hsession, hkek, hcommand, hwrap, hbytes,
    hread⟩

omit [CardLink L] in
theorem Posting.Follows.addresses {p : Posting} (h : p.Follows ch candidate replaced bytes) :
    Addresses candidate replaced p.kek p.delivery := by
  obtain ⟨d, hread, haddresses⟩ := exists_addresses_of_putKeys h.built
  -- one command is read in one way
  obtain rfl : p.delivery = d := Option.some.inj (h.read.symm.trans hread)
  exact haddresses

/-- **What the card makes of new keys**, for every command that is sent. The command names the
version that is replaced, and no more commands follow if that has seven bits. The card counts the
keys from the least id, which puts them under their own ids exactly if these are consecutive. -/
theorem putKey_addresses
    (hsent : bytes ∈ newlySent (replaceKeysUnchecked candidate replaced) ch) :
    ∃ p : Posting, p.Follows ch candidate replaced bytes ∧
      bytes[1]? = some Instruction.putKey ∧ bytes[2]? = some replaced ∧
      bytes[3]? = some p.command.p2 ∧ Addresses candidate replaced p.kek p.delivery := by
  obtain ⟨p, hp⟩ := exists_posting hsent
  obtain ⟨hins, hp1⟩ := Command.header_of_putKeys hp.built
  have hheader := Session.getElem?_encode_of_wrap hp.protects
  rw [← hp.sent, hins, hp1] at hheader
  exact ⟨p, hp, hheader.1, hheader.2.1, hheader.2.2, hp.addresses⟩

/-! ### Two keys -/

/-- A key next to the one with the id 1. -/
def secondKey (id : UInt8) : Key :=
  ⟨id, .mac, .aes, KeySet.testSecret, KeySet.aes_accepts_testSecret⟩

/-- A set of two AES keys, the first one with the id 1. -/
def pairSet (id : UInt8) (h : 0x01 < id) : KeySet :=
  (newSet 0x31 .aes rfl).add (secondKey id)
    ⟨rfl, .inr (List.forall_mem_singleton.2 (UInt8.ne_of_lt h))⟩

theorem keysInOrder_pairSet (id : UInt8) (h : 0x01 < id) :
    keysInOrder (pairSet id h) = [newKey .aes rfl, secondKey id] :=
  List.mergeSort_of_pairwise (List.pairwise_pair.2 (decide_eq_true (UInt8.le_of_lt h)))

/-- A card that plays its part in the recorded handshake and takes new keys. -/
def takingCard : Tapped ScriptedCard :=
  ⟨ScriptedCard.ofAnswers ([recordedAnswer, .statusOnly .success, .statusOnly .success].map
    Response.encode), []⟩

/-- Over the recorded channel, both keys are sent. -/
theorem exists_posting_recorded (id : UInt8) (h : 0x01 < id) (replaced : UInt8) :
    ∃ (ch : SecureChannel (Tapped ScriptedCard)) (bytes : Bytes),
      (new takingCard Scp03Card.recordedKeys {}).openWith Scp03Card.recordedChallenge =
          (.ok (), ch) ∧
        bytes ∈ newlySent (replaceKeysUnchecked (pairSet id h) replaced) ch := by
  have hgives : CardLink.Gives takingCard [recordedAnswer, .statusOnly .success,
      .statusOnly .success] := Tapped.gives (ScriptedCard.gives rfl)
  have hkeys : ∀ k ∈ (pairSet id h).keys,
      (k.cipher = .generic ∨ k.cipher = .aes) ∧ k.secret.length = 16 :=
    List.forall_mem_cons.2 ⟨⟨.inr rfl, rfl⟩, List.forall_mem_singleton.2 ⟨.inr rfl, rfl⟩⟩
  obtain ⟨ch, session, kek, command, hopen, hworks, hplain, hrest, hkek, -, hbuilt, hlen⟩ :=
    exists_recorded_putKeys takingCard hgives hkeys (List.cons_ne_nil _ _) replaced
  obtain ⟨wrapped, -, hput⟩ := exists_putKeys_of_gives hworks hplain hrest
    (putKeysCommand_eq_ok_iff.2 ⟨kek, hkek, hbuilt⟩) hlen
  have hversion : (pairSet id h).version ≠ 0 := (by decide : (0x31 : UInt8) ≠ 0)
  refine ⟨ch, wrapped.encode, hopen, ?_⟩
  unfold newlySent
  rw [run_replaceKeysUnchecked, if_neg hversion, hput, List.drop_left]
  exact List.mem_singleton_self _

/-- Over the recorded channel, the keys with the ids 1 and 2 are stored in their places. -/
theorem putKey_addresses_recorded : ∃ (ch : SecureChannel (Tapped ScriptedCard)) (bytes : Bytes)
    (p : Posting), bytes ∈ newlySent (replaceKeysUnchecked (pairSet 0x02 (by decide)) 0x30) ch ∧
      p.Follows ch (pairSet 0x02 (by decide)) 0x30 bytes ∧ bytes[2]? = some 0x30 ∧
      p.delivery.more = false ∧ p.delivery.multiple = true ∧
      p.delivery.InPlace (keysInOrder (pairSet 0x02 (by decide))) := by
  obtain ⟨ch, bytes, -, hsent⟩ := exists_posting_recorded 0x02 (by decide) 0x30
  obtain ⟨p, hp, -, hp1, -, haddresses⟩ := putKey_addresses hsent
  have hmore : p.delivery.more = false :=
    Bool.eq_false_iff.2 fun h => absurd (haddresses.more_iff.1 h) (by decide)
  have hnumbered : (pairSet 0x02 (by decide)).NumberedFrom 1 := by
    rw [numberedFrom_iff, keysInOrder_pairSet]
    rfl
  exact ⟨ch, bytes, p, hsent, hp, hp1, hmore, haddresses.multiple_iff.2 (.inl (by decide)),
    haddresses.inPlace_iff.2 ⟨1, by decide, hnumbered⟩⟩

/-- **A key is stored under the id of another one.** Over the recorded channel, keys with the ids 1
and 3 are sent, and the card stores the second one under the id 2. -/
theorem putKey_misplaces : ∃ (ch : SecureChannel (Tapped ScriptedCard)) (bytes : Bytes)
    (p : Posting) (block : KeyBlock),
    (new takingCard Scp03Card.recordedKeys {}).openWith Scp03Card.recordedChallenge =
        (.ok (), ch) ∧
      bytes ∈ newlySent (replaceKeysUnchecked (pairSet 0x03 (by decide)) 0x30) ch ∧
      p.Follows ch (pairSet 0x03 (by decide)) 0x30 bytes ∧
      secondKey 0x03 ∈ (pairSet 0x03 (by decide)).keys ∧ p.delivery.blocks[1]? = some block ∧
      block.Holds (secondKey 0x03) p.kek ∧ p.delivery.idAt 1 = 2 := by
  obtain ⟨ch, bytes, hopen, hsent⟩ := exists_posting_recorded 0x03 (by decide) 0x30
  obtain ⟨p, hp⟩ := exists_posting hsent
  have horder := keysInOrder_pairSet 0x03 (by decide)
  have hholds := hp.addresses.holds
  have hfirst := hp.addresses.firstId_eq (newKey .aes rfl) (by rw [horder]; rfl)
  rw [horder] at hholds
  -- the blocks come in the order of the keys, so the second one is that of the second key
  obtain ⟨block, blocks, -, hsecond, hblocks⟩ := List.forall₂_cons_right_iff.1 hholds
  obtain ⟨second, _, hblock, -, rfl⟩ := List.forall₂_cons_right_iff.1 hsecond
  refine ⟨ch, bytes, p, second, hopen, hsent, hp, by decide, by rw [hblocks]; rfl, hblock, ?_⟩
  rw [KeyDelivery.idAt, hfirst]
  rfl

end ContentManager

end SmartCard
