import SmartCard.Proofs.Key.Slots
import SmartCard.Proofs.Management.Blocks
import SmartCard.Proofs.Management.Operations
import SmartCard.Proofs.Management.RegistryPages

/-!
# Operations without a channel

Everything that changes a card needs an open channel (`ContentManager.SecureOperation`). What
happens without one does not depend on how the channel came to be closed, or whether it ever was
open: `ContentManager.withheld_of_ne_established` says it for every channel that is not established
(`ContentManager.Withheld`). An operation fails before anything is sent, since its first command
already needs the channel.

The exceptions are the two operations that look at the key slots first. GET DATA is an operation
that the channel need not be open for, and the look is such a GET DATA: it goes out without
protection, and a check of keys may even pass (`ContentManager.checkKeys_without_channel`). No key
is sent after it. -/

namespace SmartCard.ContentManager

open ChannelM

/-- An operation that needs an open channel. -/
inductive SecureOperation
  | delete (aid : Bytes) (related : Bool)
  | loadFile (file : LoadFile) (options : LoadOptions)
  | install (loadFile module : Bytes) (application privileges parameters : Option Bytes)
  | makeSelectable (aid privileges : Bytes)
  | changeIdentity (issuer image aid : Option Bytes)
  | setStatus (target : StatusTarget) (aid : Bytes) (state : UInt8)
  | registryData (subset : RegistrySubset) (format : RegistryFormat)
  | registry (subset : RegistrySubset) (format : RegistryFormat)
  | putKey (keyId replaced : UInt8) (data : Bytes) (multiple : Bool)
  | checkKeys (candidate : KeySet)
  | replaceKeys (candidate : KeySet) (replaced : UInt8)
  | replaceKeysUnchecked (candidate : KeySet) (replaced : UInt8)

section Link

variable {L : Type} [CardLink L] {ch : SecureChannel L}

/-! ### Operations that fail at their first command -/

theorem declines_send_discard (h : ch.state ≠ .established) (command : Command) :
    Declines (send command >>= fun _ => pure () : ChannelM L Unit) ch :=
  (declines_send h command).bind _

theorem storeCommands_ne_nil {data : Bytes} (h : data ≠ []) : storeCommands data ≠ [] := by
  unfold storeCommands
  rw [LoadFile.pieces_of_ne_nil (by decide) h]
  exact List.cons_ne_nil _ _

theorem declines_changeIdentity (h : ch.state ≠ .established) (issuer image aid : Option Bytes) :
    Declines (changeIdentity issuer image aid : ChannelM L Unit) ch := by
  unfold changeIdentity
  refine declines_liftM_bind fun data => ?_
  by_cases hdata : data = []
  · rw [hdata]
    exact declines_throw _ ch
  · -- there is a first block, and it cannot be sent
    obtain ⟨command, commands, hcommands⟩ :=
      List.exists_cons_of_ne_nil (storeCommands_ne_nil hdata)
    rw [if_neg fun hempty => hdata (List.isEmpty_iff.1 hempty), hcommands]
    exact (declines_send_discard h command).bind _

theorem declines_putKeys_of_ne_established (h : ch.state ≠ .established) (candidate : KeySet)
    (replaced : UInt8) : Declines (putKeys candidate replaced) ch := by
  unfold putKeys
  refine declines_bind rfl fun now => ?_
  split
  · exact declines_throw _ ch
  · exact declines_liftM_bind fun kek => declines_liftM_bind fun command =>
      declines_send_discard h command

/-- Preparing the load fails, so that no block is sent. -/
theorem exists_loadFile_eq (h : ch.state ≠ .established) (file : LoadFile)
    (options : LoadOptions) :
    ∃ e, loadFile file options ch = ({ outcome := .error e }, ch) := by
  have hprepare : Declines (prepareLoad file options) ch := by
    unfold prepareLoad
    refine declines_bind ?_ fun checked => ?_
    · -- looking at the size of the blocks sends nothing
      rw [run_checkBlockSize]
    · exact declines_liftM_bind fun install => declines_send_discard h install
  obtain ⟨e, he⟩ := hprepare
  exact ⟨e, by rw [loadFile_eq, he]⟩

/-! ### Operations that look at the key slots -/

/-- Without a channel the key slots are asked for as they are. -/
theorem run_checkKeys_of_ne_established (h : ch.state ≠ .established) (candidate : KeySet) :
    ExceptT.run (checkKeys candidate) ch =
      ((ch.transmitPlain keyInformationCommand).1.mapError .link >>= checkAnswer candidate,
        (ch.transmitPlain keyInformationCommand).2) := by
  rw [run_checkKeys, run_transmitEither, if_neg h]

/-- Whatever comes of the look at the key slots, no key is sent. -/
theorem exists_run_replaceKeys_eq (h : ch.state ≠ .established) (candidate : KeySet)
    (replaced : UInt8) :
    ∃ e, ExceptT.run (replaceKeys candidate replaced) ch = (.error e,
      if candidate.version = 0 then ch else (ch.transmitPlain keyInformationCommand).2) := by
  rw [run_replaceKeys]
  by_cases hversion : candidate.version = 0
  · exact ⟨_, by rw [if_pos hversion, if_pos hversion]⟩
  · rw [if_neg hversion, if_neg hversion, run_bind, run_checkKeys_of_ne_established h]
    -- a command in plain text leaves the state of the channel alone
    have hplain : (ch.transmitPlain keyInformationCommand).2.state ≠ .established := h
    cases (ch.transmitPlain keyInformationCommand).1.mapError .link >>= checkAnswer candidate with
    | error e => exact ⟨e, rfl⟩
    | ok checked => exact declines_putKeys_of_ne_established hplain candidate replaced

end Link

/-! ### All operations -/

variable {L : Type} [FiniteLink L] {ch : SecureChannel L}

/-- The outcome of an operation without its value, and the channel after it. -/
def SecureOperation.run (ch : SecureChannel L) :
    SecureOperation → Except Error Unit × SecureChannel L
  | delete aid related => ExceptT.run (ContentManager.delete aid related) ch
  | loadFile file options =>
    ((ContentManager.loadFile file options ch).1.outcome,
      (ContentManager.loadFile file options ch).2)
  | install file module application privileges parameters =>
    ExceptT.run (ContentManager.install file module application privileges parameters) ch
  | makeSelectable aid privileges => ExceptT.run (ContentManager.makeSelectable aid privileges) ch
  | changeIdentity issuer image aid =>
    ExceptT.run (ContentManager.changeIdentity issuer image aid) ch
  | setStatus target aid state => ExceptT.run (ContentManager.setStatus target aid state) ch
  | registryData subset format =>
    ExceptT.run (ContentManager.registryData subset format >>= fun _ => pure ()) ch
  | registry subset format =>
    ExceptT.run (ContentManager.registry subset format >>= fun _ => pure ()) ch
  | putKey keyId replaced data multiple =>
    ExceptT.run (ContentManager.putKey keyId replaced data multiple >>= fun _ => pure ()) ch
  | checkKeys candidate => ExceptT.run (ContentManager.checkKeys candidate) ch
  | replaceKeys candidate replaced => ExceptT.run (ContentManager.replaceKeys candidate replaced) ch
  | replaceKeysUnchecked candidate replaced =>
    ExceptT.run (ContentManager.replaceKeysUnchecked candidate replaced) ch

/-- The operation looks at the key slots before it sends a command of its own. -/
def SecureOperation.ReadsSlots : SecureOperation → Prop
  | checkKeys _ | replaceKeys _ _ => True
  | _ => False

theorem declines_registryData (h : ch.state ≠ .established) (subset : RegistrySubset)
    (format : RegistryFormat) : Declines (registryData subset format) ch := by
  refine ⟨.link .noSecureChannel, ?_⟩
  rw [registryData_eq, registryPages_eq, SecureChannel.transmit_of_ne_established h]

/-- **What happens without an open channel.** -/
structure Withheld (ch : SecureChannel L) : Prop where
  /-- An operation fails and leaves the channel and the card as they are. -/
  declines : ∀ op : SecureOperation, ¬op.ReadsSlots → ∃ e, op.run ch = (.error e, ch)
  /-- A check of keys asks for the key slots in plain text, and does nothing else to the card. -/
  checkKeys : ∀ candidate, (SecureOperation.checkKeys candidate).run ch =
    ((ch.transmitPlain keyInformationCommand).1.mapError .link >>= checkAnswer candidate,
      (ch.transmitPlain keyInformationCommand).2)
  /-- A replacement of keys does so too, unless the keys have no version, and fails. -/
  replaceKeys : ∀ candidate replaced,
    ∃ e, (SecureOperation.replaceKeys candidate replaced).run ch = (.error e,
      if candidate.version = 0 then ch else (ch.transmitPlain keyInformationCommand).2)

/-- **Without an open channel nothing is done to the card** but for a look at its key slots. -/
theorem withheld_of_ne_established (h : ch.state ≠ .established) : Withheld ch where
  declines := by
    intro op hreads
    cases op with
    | delete aid related =>
      exact declines_liftM_bind fun command => declines_send_discard h command
    | loadFile file options =>
      obtain ⟨e, he⟩ := exists_loadFile_eq h file options
      refine ⟨e, ?_⟩
      -- the run is a report and a channel, of which only the outcome counts here
      change ((loadFile file options ch).1.outcome, (loadFile file options ch).2) = _
      rw [he]
    | install file module application privileges parameters =>
      exact declines_liftM_bind fun command => declines_send_discard h command
    | makeSelectable aid privileges =>
      exact declines_liftM_bind fun command => declines_send_discard h command
    | changeIdentity issuer image aid => exact declines_changeIdentity h issuer image aid
    | setStatus target aid state => exact declines_send_discard h _
    | registryData subset format => exact (declines_registryData h subset format).bind _
    -- the data are asked for first, and the entries are read from them
    | registry subset format => exact ((declines_registryData h subset format).bind _).bind _
    | putKey keyId replaced data multiple => exact (declines_send h _).bind _
    | checkKeys candidate => exact absurd trivial hreads
    | replaceKeys candidate replaced => exact absurd trivial hreads
    | replaceKeysUnchecked candidate replaced =>
      exact declines_liftM_bind fun checked =>
        declines_putKeys_of_ne_established h candidate replaced
  checkKeys := run_checkKeys_of_ne_established h
  replaceKeys := exists_run_replaceKeys_eq h

/-! ### A look at the key slots -/

/-- A channel that was never opened, to a card with one key slot for triple DES. -/
def idleChannel : SecureChannel ScriptedCard :=
  .new (ScriptedCard.ofAnswers
    [[0xE0, 0x06, 0xC0, 0x04, 0x01, 0x20, 0x80, 0x10, 0x90, 0x00]]) KeySet.testKeys {}

/-- **Keys are checked without a channel.** The check passes, and the card has seen a command; a
replacement of keys fails, and the card has seen the same command. -/
theorem checkKeys_without_channel :
    idleChannel.state = .idle ∧ idleChannel.link.sent = [] ∧
      ∃ after : SecureChannel ScriptedCard,
        (SecureOperation.checkKeys (newSet 0x21 .des3 rfl)).run idleChannel = (.ok (), after) ∧
        (∃ e, (SecureOperation.replaceKeys (newSet 0x21 .des3 rfl) 0x20).run idleChannel =
          (.error e, after)) ∧
        after.link.sent = [[0x80, 0xCA, 0x00, 0xE0, 0x00]] ∧ after.link.script = [] := by
  have hidle : idleChannel.state ≠ .established := by decide
  have hplain : (idleChannel.transmitPlain keyInformationCommand).1 =
      .ok (.success [0xE0, 0x06, 0xC0, 0x04, 0x01, 0x20, 0x80, 0x10]) := rfl
  have hcheck : checkAnswer (newSet 0x21 .des3 rfl)
      (.success [0xE0, 0x06, 0xC0, 0x04, 0x01, 0x20, 0x80, 0x10]) = .ok () :=
    checkAnswer_eq_ok_iff.2 ⟨rfl, _, KeySlot.parseAll_oneSlot ⟨0x01, 0x20, 0x80, 0x10⟩, rfl⟩
  refine ⟨rfl, rfl, (idleChannel.transmitPlain keyInformationCommand).2, ?_, ?_, rfl, rfl⟩
  · change ExceptT.run (checkKeys (newSet 0x21 .des3 rfl)) idleChannel = _
    rw [run_checkKeys_of_ne_established hidle, hplain]
    -- the look has the outcome of its answer, and that answer names a slot that the set fills
    exact Prod.ext hcheck rfl
  · exact exists_run_replaceKeys_eq hidle (newSet 0x21 .des3 rfl) 0x20

/-- The same channel, which withholds everything else. -/
theorem withheld_idleChannel : idleChannel.state ≠ .established ∧ Withheld idleChannel :=
  ⟨by decide, withheld_of_ne_established (by decide)⟩

end SmartCard.ContentManager
