import SmartCard.Proofs.Management.SecureOperations
import SmartCard.Proofs.Management.Transfer
import SmartCard.Proofs.Tlv.Fields

/-!
# Changing the identity of a card

The values of an identity are written as tagged objects, one after the other, as far as they are
given (`ContentManager.identityFields_eq`). The bytes of these objects go to the card in STORE DATA
commands: full blocks and a last one, numbered from zero on (`ContentManager.storesData`).

Sending them is a transfer (`ContentManager.exists_transfer_sendAll`), as it is for the blocks of
a load file, so it stops at the first block that the card does not accept. A block has far fewer
bytes than a session can protect, whatever its level, and accepted blocks leave the level alone.

`ContentManager.changesIdentity_of_reachable` says all of it for every established channel
(`ContentManager.ChangesIdentity`). -/

namespace SmartCard

/-- The objects that are written for fields, in order. -/
def SimpleTlv.objects (fields : List (UInt8 × Bytes)) : Except TlvFault (List Bytes) :=
  fields.mapM fun f => encode f.1 f.2

theorem SimpleTlv.objects_append (fields more : List (UInt8 × Bytes)) :
    objects (fields ++ more) = do
      let first ← objects fields
      let second ← objects more
      return first ++ second :=
  List.mapM_append

namespace ContentManager

open SecureChannel

/-! ### The data of an identity -/

/-- A value that may be left out is written as its object, or as nothing. -/
theorem optionalField_eq (tag : UInt8) (value : Option Bytes) :
    value.elim (.ok []) (Command.taggedField tag) =
      ((SimpleTlv.objects (SimpleTlv.optional tag value)).map List.flatten).mapError .ofTlv := by
  cases value with
  | none => rfl
  | some value =>
    change Command.taggedField tag value =
      (((SimpleTlv.encode tag value >>= fun object => _).map List.flatten).mapError .ofTlv)
    -- both are the object of the value, or the fault that it has
    unfold Command.taggedField
    cases SimpleTlv.encode tag value with
    | error fault => rfl
    | ok object => exact congrArg Except.ok (List.append_nil object).symm

/-- **The data of an identity are its objects**, one after the other. -/
theorem identityFields_eq (issuer image aid : Option Bytes) :
    identityFields issuer image aid =
      ((SimpleTlv.objects (SimpleTlv.identity issuer image aid)).map List.flatten).mapError
        .ofTlv := by
  unfold identityFields SimpleTlv.identity
  dsimp only
  rw [SimpleTlv.objects_append, SimpleTlv.objects_append, optionalField_eq, optionalField_eq,
    optionalField_eq]
  -- the three values in their order; a fault in one of them is the fault of the whole
  cases SimpleTlv.objects (SimpleTlv.optional Tag.issuerNumber issuer) with
  | error fault => rfl
  | ok first =>
    cases SimpleTlv.objects (SimpleTlv.optional Tag.cardImageNumber image) with
    | error fault => rfl
    | ok second =>
      cases SimpleTlv.objects (SimpleTlv.optional Tag.aid aid) with
      | error fault => rfl
      | ok third =>
        refine congrArg Except.ok ?_
        rw [List.flatten_append, List.flatten_append]

/-- Without a value there are no data, and each value has some. -/
theorem flatten_objects_ne_nil {issuer image aid : Option Bytes} {objects : List Bytes}
    (h : SimpleTlv.objects (SimpleTlv.identity issuer image aid) = .ok objects)
    (hgiven : SimpleTlv.identity issuer image aid ≠ []) : objects.flatten ≠ [] := by
  -- a value that is given has a field, and the object of a field starts with its tag
  obtain ⟨f, fields, hfields⟩ := List.exists_cons_of_ne_nil hgiven
  rw [hfields, SimpleTlv.objects, mapM_eq_ok_iff] at h
  obtain ⟨object, others, hobject, -, rfl⟩ := List.forall₂_cons_left_iff.1 h
  obtain ⟨-, -, rfl⟩ := SimpleTlv.encode_eq_ok_iff.1 hobject
  exact List.cons_ne_nil _ _

/-! ### Blocks -/

variable {data : Bytes}

/-- **What the card finds in the commands that store data**: the data in full blocks and a last one,
numbered from zero on, with only the last one marked as such. -/
structure StoresData (data : Bytes) (stores : List Command) : Prop where
  length_eq : stores.length = (data.length + 127) / 128
  data_eq : stores.flatMap Command.dataBytes = data
  header : ∀ (i : Nat) command, stores[i]? = some command →
    command.cla = CommandClass.globalPlatform ∧ command.ins = Instruction.storeData ∧
      command.p2.toNat = i % 256 ∧ command.le = none
  /-- Every block but the last is full. -/
  full : ∀ (i : Nat) command, stores[i]? = some command → i + 1 < stores.length →
    command.p1 = 0x00 ∧ command.dataBytes.length = 128
  last : ∀ (i : Nat) command, stores[i]? = some command → i + 1 = stores.length →
    command.p1 = 0x80 ∧ 1 ≤ command.dataBytes.length ∧ command.dataBytes.length ≤ 128

theorem length_storeCommands (data : Bytes) :
    (storeCommands data).length = (data.length + 127) / 128 := by
  unfold storeCommands
  rw [List.length_map, List.length_zipIdx, LoadFile.length_pieces (by decide)]
  rfl

/-- A command that stores data and the piece of the data that it carries. -/
theorem getElem?_storeCommands {i : Nat} {command : Command}
    (h : (storeCommands data)[i]? = some command) :
    i * 128 < data.length ∧
      command = Command.storeData (lastBlockParameter (i + 1 == (storeCommands data).length))
        i.toUInt8 ((data.drop (i * 128)).take 128) := by
  have hcount : (LoadFile.pieces storeDataBlockSize data).length = (storeCommands data).length := by
    rw [storeCommands, List.length_map, List.length_zipIdx]
  unfold storeCommands at h
  -- the piece at a position is what `pieces` cuts there, if the data reach that far
  rw [List.getElem?_map, List.getElem?_zipIdx, LoadFile.getElem?_pieces (by decide), hcount] at h
  by_cases hi : i * storeDataBlockSize < data.length
  · rw [if_pos hi] at h
    obtain rfl := Option.some.inj h
    exact ⟨hi, by rw [Nat.zero_add]; rfl⟩
  · rw [if_neg hi] at h
    cases h

theorem length_of_mem_storeCommands {command : Command} (h : command ∈ storeCommands data) :
    command.dataBytes.length ≤ 128 := by
  obtain ⟨i, hi⟩ := List.getElem?_of_mem h
  obtain ⟨-, rfl⟩ := getElem?_storeCommands hi
  rw [SimpleTlv.dataBytes_storeData]
  exact List.length_take_le _ _

/-- **The commands that store data carry them.** -/
theorem storesData (data : Bytes) : StoresData data (storeCommands data) where
  length_eq := length_storeCommands data
  data_eq := SimpleTlv.flatMap_dataBytes_storeCommands data
  header := by
    intro i command hi
    obtain ⟨-, rfl⟩ := getElem?_storeCommands hi
    exact ⟨rfl, rfl, rfl, rfl⟩
  full := by
    intro i command hi hlt
    obtain ⟨-, rfl⟩ := getElem?_storeCommands hi
    -- the next block has a piece of its own, so this one is full
    obtain ⟨hnext, -⟩ := getElem?_storeCommands (List.getElem?_eq_getElem hlt)
    refine ⟨?_, ?_⟩
    · change lastBlockParameter (i + 1 == (storeCommands data).length) = 0x00
      rw [beq_false_of_ne (Nat.ne_of_lt hlt)]
      rfl
    · rw [SimpleTlv.dataBytes_storeData, List.length_take, List.length_drop]
      omega
  last := by
    intro i command hi hlast
    obtain ⟨hstart, rfl⟩ := getElem?_storeCommands hi
    refine ⟨?_, ?_, ?_⟩
    · change lastBlockParameter (i + 1 == (storeCommands data).length) = 0x80
      rw [hlast, beq_self_eq_true]
      rfl
    · -- the data reach to this block, which therefore has a byte at least
      rw [SimpleTlv.dataBytes_storeData, List.length_take, List.length_drop]
      omega
    · rw [SimpleTlv.dataBytes_storeData]
      exact List.length_take_le _ _

/-! ### Sending -/

variable {L : Type} [CardLink L] {ch : SecureChannel L} {issuer image aid : Option Bytes}

/-- Sends commands one after the other, each of which has to succeed. -/
def sendAll (commands : List Command) : ChannelM L Unit :=
  commands.forM fun command => do let _ ← send command

theorem run_sendAll_cons (command : Command) (commands : List Command) (ch : SecureChannel L) :
    ExceptT.run (sendAll (command :: commands)) ch =
      match ExceptT.run (send command) ch with
      | (.ok _, next) => ExceptT.run (sendAll commands) next
      | (.error e, next) => (.error e, next) := by
  change ExceptT.run ((send command >>= fun _ => pure ()) >>= fun _ => sendAll commands) ch = _
  rw [ChannelM.run_bind, ChannelM.run_bind]
  cases ExceptT.run (send command) ch with
  | mk outcome next =>
    cases outcome with
    | error e => rfl
    | ok payload => rfl

/-- **Sending commands one after the other is a transfer.** -/
theorem exists_transfer_sendAll (commands : List Command) (ch : SecureChannel L) :
    ∃ accepted outcome after, Transfer ch commands accepted outcome after ∧
      ExceptT.run (sendAll commands) ch = (outcome, after) := by
  -- on the commands, for the channel that each of them is sent over
  induction commands generalizing ch with
  | nil => exact ⟨[], .ok (), ch, .complete .nil, rfl⟩
  | cons command commands ih =>
    rw [run_sendAll_cons]
    cases hsent : ExceptT.run (send command) ch with
    | mk result next =>
      cases result with
      -- a block that was not accepted is the last one to be sent
      | error e => exact ⟨[], .error e, next, .refused (refuses_of_run_send hsent), rfl⟩
      | ok payload =>
        obtain ⟨accepted, outcome, after, htransfer, hrest⟩ := ih next
        exact ⟨command :: accepted, outcome, after,
          .cons (run_send_eq_ok_iff.1 hsent) htransfer, hrest⟩

/-- An identity is changed by sending its data, if it has any. -/
theorem run_changeIdentity (issuer image aid : Option Bytes) (ch : SecureChannel L) :
    ExceptT.run (changeIdentity issuer image aid) ch =
      match identityFields issuer image aid with
      | .error e => (.error e, ch)
      | .ok data => if data = [] then (.error (.configuration .noIdentity), ch)
        else ExceptT.run (sendAll (storeCommands data)) ch := by
  unfold changeIdentity
  rw [ChannelM.run_bind, ChannelM.run_liftM]
  cases identityFields issuer image aid with
  | error e => rfl
  | ok data =>
    -- the data are what the loop asks for first, and none of them end it
    cases data with
    | nil => rfl
    | cons first rest => rfl

/-- **What happens to data that are stored over an established channel.** -/
structure Storing (data : Bytes) (ch : SecureChannel L)
    (result : Except Error Unit × SecureChannel L) : Prop where
  stores : StoresData data (storeCommands data)
  /-- The blocks are handed over up to the first one that is not accepted, so that the card is given
  a part of the data from their start on. -/
  transfers : ∃ accepted, Transfer ch (storeCommands data) accepted result.1 result.2 ∧
    (result.1 = .ok () ↔ accepted = storeCommands data) ∧
    ((storeCommands data).take (accepted.length + 1)).flatMap Command.dataBytes <+: data
  /-- It succeeds exactly when the card accepts all blocks. -/
  ok_iff : result.1 = .ok () ↔ ∃ after, Accepts ch (storeCommands data) after
  /-- Whatever was accepted before, a block can be protected, and sent when it is. -/
  protects : ∀ accepted next, Accepts ch accepted next → ∀ store ∈ storeCommands data,
    ∃ session wrapped, next.session = some session ∧ (session.wrap store).1 = .ok wrapped ∧
      wrapped.validate = .ok ()

/-- Blocks that are handed over carry the first part of the data. -/
theorem StoresData.flatMap_take {data : Bytes} {stores : List Command}
    (h : StoresData data stores) (n : Nat) :
    (stores.take n).flatMap Command.dataBytes <+: data := by
  refine ⟨(stores.drop n).flatMap Command.dataBytes, ?_⟩
  rw [← List.flatMap_append, List.take_append_drop, h.data_eq]

theorem storing_of_works {session : Session} (hworks : ch.Works session) (data : Bytes) :
    Storing data ch (ExceptT.run (sendAll (storeCommands data)) ch) := by
  obtain ⟨accepted, outcome, after, htransfer, hsent⟩ :=
    exists_transfer_sendAll (storeCommands data) ch
  rw [hsent]
  refine ⟨storesData data, ⟨accepted, htransfer, htransfer.ok_iff,
    (storesData data).flatMap_take _⟩, htransfer.ok_iff_exists_accepts, ?_⟩
  intro accepted next haccepts store hstore
  -- what was accepted leaves a session, and every session has room for a block
  obtain ⟨session', hnext, -⟩ := haccepts.exists_works hworks
  have hfits : store.dataBytes.length ≤ session'.maxDataLength :=
    calc store.dataBytes.length
        ≤ 128 := length_of_mem_storeCommands hstore
      _ ≤ 239 := by decide
      _ ≤ session'.maxDataLength := session'.le_maxDataLength
  obtain ⟨wrapped, hwrap, hvalid⟩ := hnext.exists_protected store hfits
  exact ⟨session', wrapped, hnext.current, hwrap, hvalid⟩

/-! ### Changing the identity -/

/-- **What changing the identity over an established channel does.** -/
structure ChangesIdentity (issuer image aid : Option Bytes) (ch : SecureChannel L) : Prop where
  /-- Without a value nothing is sent. -/
  absent : issuer = none → image = none → aid = none →
    ExceptT.run (changeIdentity issuer image aid) ch = (.error (.configuration .noIdentity), ch)
  /-- Nor is it with a value that no object can have. -/
  unwritable : ∀ f ∈ SimpleTlv.identity issuer image aid, ∀ fault,
    SimpleTlv.encode f.1 f.2 = .error fault →
      ∃ e, ExceptT.run (changeIdentity issuer image aid) ch = (.error e, ch)
  /-- Otherwise the objects of the values are stored, one after the other. -/
  stores : ∀ objects, SimpleTlv.objects (SimpleTlv.identity issuer image aid) = .ok objects →
    SimpleTlv.identity issuer image aid ≠ [] →
      Storing objects.flatten ch (ExceptT.run (changeIdentity issuer image aid) ch)

/-- **Changing the identity.** Over every established channel, for all values that are given or left
out and whatever the card answers, the laws of `ChangesIdentity` hold. -/
theorem changesIdentity_of_reachable (hreachable : Reachable ch) (hstate : ch.state = .established)
    (issuer image aid : Option Bytes) : ChangesIdentity issuer image aid ch := by
  obtain ⟨session, hworks⟩ := hreachable.exists_works hstate
  refine ⟨?absent, ?unwritable, ?stores⟩
  case absent =>
    rintro rfl rfl rfl
    rw [run_changeIdentity]
    rfl
  case unwritable =>
    intro f hf fault hfault
    rw [run_changeIdentity, identityFields_eq]
    cases hobjects : SimpleTlv.objects (SimpleTlv.identity issuer image aid) with
    | error first => exact ⟨.ofTlv first, rfl⟩
    | ok objects =>
      obtain ⟨-, object, -, -, hobject⟩ := exists_of_mapM_eq_ok hobjects hf
      rw [hfault] at hobject
      cases hobject
  case stores =>
    intro objects hobjects hgiven
    have hdata : identityFields issuer image aid = .ok objects.flatten := by
      rw [identityFields_eq, hobjects]
      rfl
    rw [run_changeIdentity, hdata]
    dsimp only
    -- an object has a tag, so what is given makes data
    rw [if_neg (flatten_objects_ne_nil hobjects hgiven)]
    exact storing_of_works hworks objects.flatten

/-- An issuer number that takes three blocks. -/
def longNumber : Bytes := List.replicate 255 0x42

/-- A card that accepts three commands over the recorded channel stores a long issuer number. -/
theorem changesIdentity_of_reachable_recorded : ∃ ch : SecureChannel ScriptedCard,
    Reachable ch ∧ ch.state = .established ∧ ChangesIdentity (some longNumber) none none ch ∧
      (ExceptT.run (changeIdentity (some longNumber) none none) ch).1 = .ok () := by
  have hgives : CardLink.Gives loadingCard [recordedAnswer, .statusOnly .success,
      .statusOnly .success, .statusOnly .success, .statusOnly .success] := ScriptedCard.gives rfl
  obtain ⟨ch, first, proof, host, hopen, -, hauth, hworks, hgives⟩ :=
    exists_opened_recorded loadingCard hgives (fun first _ => first.allows_mac)
  have hlevel : host.level = .mac := Session.level_of_authenticate hauth
  have hreachable := (Reachable.new loadingCard Scp03Card.recordedKeys _).openWith hopen
  have hchanges := changesIdentity_of_reachable hreachable hworks.established (some longNumber)
    none none
  have hlen : longNumber.length = 255 := List.length_replicate
  have hobject : SimpleTlv.encode Tag.issuerNumber longNumber =
      .ok (SimpleTlv.field Tag.issuerNumber longNumber) :=
    SimpleTlv.encode_eq_ok_iff.2 ⟨by decide, by rw [hlen]; decide, rfl⟩
  have hobjects : SimpleTlv.objects (SimpleTlv.identity (some longNumber) none none) =
      .ok [SimpleTlv.field Tag.issuerNumber longNumber] :=
    mapM_eq_ok_iff.2 (.cons hobject .nil)
  have hstoring := hchanges.stores _ hobjects (List.cons_ne_nil _ _)
  have hcount : (storeCommands [SimpleTlv.field Tag.issuerNumber longNumber].flatten).length =
      3 := by
    rw [hstoring.stores.length_eq, List.flatten_singleton, SimpleTlv.field, List.length_cons,
      List.length_append, hlen]
    rfl
  refine ⟨ch, hreachable, hworks.established, hchanges, hstoring.ok_iff.2 ?_⟩
  refine exists_accepts hworks (by rw [hlevel]; rfl) (by rw [hcount]; exact hgives) ?_
  intro store hstore
  exact Nat.le_trans (length_of_mem_storeCommands hstore)
    (Nat.le_trans (by decide) host.le_maxDataLength)

end ContentManager
end SmartCard
