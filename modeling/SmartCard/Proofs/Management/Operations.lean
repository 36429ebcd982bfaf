import SmartCard.Management.Content
import SmartCard.Proofs.Channel.Lifecycle
import SmartCard.Proofs.Outcome

/-!
# Steps of an operation

Operations on card content are sequences of steps on a channel. The lemmas here run one step after
the other:

* `ContentManager.run_send` — a command that has to be accepted;
* `ContentManager.run_transmitEither` — a command that goes through the channel only if it is open;
* `ContentManager.run_prepareLoad`, `ContentManager.loadFile_eq` — loading a file;
* `ContentManager.run_checkKeys`, `ContentManager.run_putKeys`, `ContentManager.run_replaceKeys` —
  reading the key slots and storing keys.

What is computed from an answer leaves the channel as the answer left it
(`ChannelM.run_bind_liftM`). What is computed before the first command either fails, so that the
operation leaves the channel as it was (`ChannelM.Declines`), or makes no difference
(`ChannelM.declines_bind`). -/

namespace SmartCard

variable {L : Type} {ch : SecureChannel L} {α β : Type}

namespace ChannelM

theorem run_get (ch : SecureChannel L) :
    ExceptT.run (get : ChannelM L (SecureChannel L)) ch = (.ok ch, ch) := rfl

/-- What is computed from the value of an operation leaves its channel alone. -/
theorem run_bind_liftM (x : ChannelM L α) (f : α → Except Error β) (ch : SecureChannel L) :
    ExceptT.run (x >>= fun a => (liftM (f a) : ChannelM L β)) ch =
      ((ExceptT.run x ch).1 >>= f, (ExceptT.run x ch).2) := by
  rw [run_bind]
  cases ExceptT.run x ch with
  | mk outcome next =>
    cases outcome with
    | error e => rfl
    | ok a => exact run_liftM (f a) next

/-! ### What fails at once -/

/-- The operation fails and leaves the channel as it is. -/
def Declines (x : ChannelM L α) (ch : SecureChannel L) : Prop :=
  ∃ e, ExceptT.run x ch = (.error e, ch)

theorem declines_throw (e : Error) (ch : SecureChannel L) :
    Declines (throw e : ChannelM L α) ch := ⟨e, rfl⟩

/-- An operation that fails keeps what comes after it from being done. -/
theorem Declines.bind {x : ChannelM L α} (h : Declines x ch) (f : α → ChannelM L β) :
    Declines (x >>= f) ch := by
  obtain ⟨e, he⟩ := h
  exact ⟨e, by rw [run_bind, he]⟩

/-- What leaves the channel as it is either fails or makes no difference. -/
theorem declines_bind {x : ChannelM L α} {f : α → ChannelM L β} (hx : (ExceptT.run x ch).2 = ch)
    (hf : ∀ a, Declines (f a) ch) : Declines (x >>= f) ch := by
  unfold Declines
  rw [run_bind]
  generalize ExceptT.run x ch = result at hx
  obtain ⟨outcome, next⟩ := result
  -- whether the first operation fails or not, the second one starts from `ch`
  obtain rfl : next = ch := hx
  cases outcome with
  | error e => exact ⟨e, rfl⟩
  | ok a => exact hf a

theorem declines_liftM_bind {x : Except Error α} {f : α → ChannelM L β}
    (h : ∀ a, Declines (f a) ch) : Declines ((liftM x : ChannelM L α) >>= f) ch :=
  declines_bind (by rw [run_liftM]) h

end ChannelM

namespace ContentManager

open ChannelM

/-! ### One command -/

theorem accept_eq_ok_iff {response : Response} {payload : Bytes} :
    accept response = .ok payload ↔ response = .success payload := by
  obtain ⟨body, status⟩ := response
  unfold accept Response.isSuccess StatusWord.isSuccess Response.success
  by_cases hstatus : status = .success
  · simp [hstatus]
  · simp [hstatus]

theorem accept_eq_error_iff {response : Response} {e : Error} :
    accept response = .error e ↔
      response.status ≠ .success ∧ .cardStatus response.status = e := by
  unfold accept Response.isSuccess StatusWord.isSuccess
  by_cases hstatus : response.status = .success
  · simp [hstatus]
  · simp [hstatus]

/-- An answer with the status of success is accepted. -/
theorem accept_of_success {response : Response} (h : response.status = .success) :
    accept response = .ok response.payload := by
  rw [accept_eq_ok_iff, Response.success, ← h]

variable [CardLink L]

/-- A command is sent through the channel, and then its answer decides. -/
theorem run_send (command : Command) (ch : SecureChannel L) :
    ExceptT.run (send command) ch =
      ((ch.transmit command).1 >>= accept, (ch.transmit command).2) :=
  run_bind_liftM (transmit command) accept ch

/-- The payload of the answer may not matter. -/
theorem run_send_discard (command : Command) (ch : SecureChannel L) :
    ExceptT.run (send command >>= fun _ => pure () : ChannelM L Unit) ch =
      (((ch.transmit command).1 >>= accept).map fun _ => (), (ch.transmit command).2) := by
  rw [run_bind, run_send]
  -- whether the answer is accepted does not depend on what is done with its payload
  cases (ch.transmit command).1 >>= accept with
  | error e => rfl
  | ok payload => rfl

/-- Without an open channel nothing can be sent through it. -/
theorem declines_send (h : ch.state ≠ .established) (command : Command) :
    Declines (send command) ch := by
  refine ⟨.link .noSecureChannel, ?_⟩
  rw [run_send, SecureChannel.transmit_of_ne_established h]
  rfl

/-- A command goes through the channel if that is open, and as it is otherwise. -/
theorem run_transmitEither (command : Command) (ch : SecureChannel L) :
    ExceptT.run (transmitEither command) ch = if ch.state = .established then ch.transmit command
      else ((ch.transmitPlain command).1.mapError .link, (ch.transmitPlain command).2) := by
  unfold transmitEither
  rw [run_bind]
  -- the channel is read, and by its state one of two commands is chosen
  change ExceptT.run (if ch.isEstablished then transmit command else transmitPlain command) ch = _
  unfold SecureChannel.isEstablished
  by_cases hstate : ch.state = .established
  · rw [if_pos hstate, if_pos (beq_iff_eq.2 hstate)]
    rfl
  · rw [if_neg hstate, if_neg fun h => hstate (beq_iff_eq.1 h)]
    rfl

/-! ### Loading a file -/

omit [CardLink L] in
theorem run_checkBlockSize (file : LoadFile) (ch : SecureChannel L) :
    ExceptT.run (checkBlockSize file) ch =
      (match ch.session with
      | some session =>
        if session.maxDataLength < file.blockSize then
          .error (.configuration
            (.loadBlockTooLong file.blockSize session.maxDataLength session.level))
        else .ok ()
      | none => .ok (), ch) := by
  unfold checkBlockSize
  rw [run_bind, run_get]
  cases hsession : ch.session with
  -- without a session there is no bound to keep to
  | none =>
    simp only [hsession]
    rfl
  | some session =>
    simp only [hsession]
    split
    · rfl
    · rfl

/-- The block size is checked before the load is prepared. -/
theorem run_prepareLoad {session : Session} (hsession : ch.session = some session)
    (file : LoadFile) (options : LoadOptions) :
    ExceptT.run (prepareLoad file options) ch =
      if session.maxDataLength < file.blockSize then
        (.error (.configuration
          (.loadBlockTooLong file.blockSize session.maxDataLength session.level)), ch)
      else
        match installForLoad file options with
        | .error e => (.error e, ch)
        | .ok install =>
          (((ch.transmit install).1 >>= accept).map fun _ => (), (ch.transmit install).2) := by
  unfold prepareLoad
  rw [run_bind, run_checkBlockSize, hsession]
  by_cases hlong : session.maxDataLength < file.blockSize
  · rw [if_pos hlong]
    simp only [if_pos hlong]
  · rw [if_neg hlong]
    simp only [if_neg hlong]
    -- what is left is built first and sent second, so that a field that is too long sends nothing
    change ExceptT.run (liftM (installForLoad file options) >>= fun install =>
      send install >>= fun _ => pure () : ChannelM L Unit) ch = _
    rw [run_bind, run_liftM]
    cases installForLoad file options with
    | error e => rfl
    | ok install => exact run_send_discard install ch

/-- Blocks are sent once the load is prepared. -/
theorem loadFile_eq (file : LoadFile) (options : LoadOptions) (ch : SecureChannel L) :
    loadFile file options ch = match ExceptT.run (prepareLoad file options) ch with
      | (.error e, next) => ({ outcome := .error e }, next)
      | (.ok (), next) => sendBlocks file.blockCount 0 file.blocks next := by
  unfold loadFile
  -- the preparation runs with errors, and the blocks are sent without, so that each reports
  change StateT.bind (ExceptT.run (prepareLoad file options)) _ ch = _
  unfold StateT.bind
  cases ExceptT.run (prepareLoad file options) ch with
  | mk outcome next =>
    cases outcome with
    | error e => rfl
    | ok done => rfl

/-! ### Reading the key slots -/

/-- Asks for the key slots. -/
def keyInformationCommand : Command := Command.getData DataObject.keyInformation

/-- What the answer about the key slots tells about a set. -/
def checkAnswer (candidate : KeySet) (response : Response) : Except Error Unit :=
  if response.status.isFileNotFound || response.status.isReferencedDataNotFound then
    .error (.configuration .noKeyInformation)
  else do
    let slots ← KeySlot.parseAll (← accept response)
    KeySlot.checkReplacement slots candidate

theorem checkKeys_eq (candidate : KeySet) : (checkKeys candidate : ChannelM L Unit) =
    transmitEither keyInformationCommand >>=
      fun response => liftM (checkAnswer candidate response) := by
  unfold checkKeys getKeySlots getData
  rw [bind_assoc, bind_assoc]
  -- both sides look at the answer in the same order: status, payload, slots, and then the set
  refine congrArg _ (funext fun response => ?_)
  unfold checkAnswer
  split
  · rfl
  · cases accept response with
    | error e => rfl
    | ok payload =>
      change (liftM (KeySlot.parseAll payload) >>= _ : ChannelM L _) >>= _ =
        liftM (KeySlot.parseAll payload >>= _)
      cases KeySlot.parseAll payload with
      | error e => rfl
      | ok slots => rfl

/-- A set passes when the card lists its slots and the set can replace their keys. -/
theorem checkAnswer_eq_ok_iff {candidate : KeySet} {response : Response} :
    checkAnswer candidate response = .ok () ↔ response.status = .success ∧
      ∃ slots, KeySlot.parseAll response.payload = .ok slots ∧
        KeySlot.checkReplacement slots candidate = .ok () := by
  unfold checkAnswer
  rw [guard_eq_ok_iff, bind_eq_ok_iff]
  constructor
  · rintro ⟨-, payload, haccept, hcheck⟩
    obtain rfl := accept_eq_ok_iff.1 haccept
    obtain ⟨slots, hparse, hcheck⟩ := bind_eq_ok_iff.1 hcheck
    exact ⟨rfl, slots, hparse, hcheck⟩
  · -- a success is neither of the two statuses that stand for no key information
    rintro ⟨hstatus, slots, hparse, hcheck⟩
    refine ⟨?_, response.payload, accept_of_success hstatus,
      bind_eq_ok_iff.2 ⟨slots, hparse, hcheck⟩⟩
    rw [hstatus]
    decide

/-- The check of a set asks for the key slots, and computes the rest. -/
theorem run_checkKeys (candidate : KeySet) (ch : SecureChannel L) :
    ExceptT.run (checkKeys candidate) ch =
      ((ExceptT.run (transmitEither keyInformationCommand) ch).1 >>= checkAnswer candidate,
        (ExceptT.run (transmitEither keyInformationCommand) ch).2) := by
  rw [checkKeys_eq]
  exact run_bind_liftM (transmitEither keyInformationCommand) (checkAnswer candidate) ch

/-! ### Storing keys -/

/-- The keys of a set in the order of their ids. -/
def keysInOrder (candidate : KeySet) : List Key :=
  candidate.keys.mergeSort fun k l => k.id ≤ l.id

theorem perm_keysInOrder (candidate : KeySet) : (keysInOrder candidate).Perm candidate.keys :=
  List.mergeSort_perm _ _

/-- The command that stores the keys of a set in a session. -/
def putKeysCommand (session : Session) (candidate : KeySet) (replaced : UInt8) :
    Except Error Command := do
  let kek ← session.key .kek
  Command.putKeys replaced candidate.version (keysInOrder candidate) kek

/-- The keys of a set go out in one command, if it can be built. -/
theorem run_putKeys {session : Session} (hsession : ch.session = some session)
    (candidate : KeySet) (replaced : UInt8) :
    ExceptT.run (putKeys candidate replaced) ch =
      match putKeysCommand session candidate replaced with
      | .error e => (.error e, ch)
      | .ok command =>
        (((ch.transmit command).1 >>= accept).map fun _ => (), (ch.transmit command).2) := by
  unfold putKeys putKeysCommand
  rw [run_bind, run_get]
  simp only [hsession]
  rw [run_bind, run_liftM]
  cases session.key .kek with
  -- an error of the command leaves the channel alone, because the session is only read
  | error e => rfl
  | ok kek =>
    change ExceptT.run (liftM (Command.putKeys replaced candidate.version
      (keysInOrder candidate) kek) >>= _ : ChannelM L Unit) ch =
      match Command.putKeys replaced candidate.version (keysInOrder candidate) kek with
      | .error e => (.error e, ch)
      | .ok command => _
    rw [run_bind, run_liftM]
    cases Command.putKeys replaced candidate.version (keysInOrder candidate) kek with
    | error e => rfl
    | ok command => exact run_send_discard command ch

/-- Without a session there is no key to encipher them under. -/
theorem declines_putKeys (hsession : ch.session = none) (candidate : KeySet) (replaced : UInt8) :
    Declines (putKeys candidate replaced) ch := by
  refine ⟨.link .noSecureChannel, ?_⟩
  unfold putKeys
  rw [run_bind, run_get]
  simp only [hsession]
  rfl

/-- **The keys of a set are stored** if their command can be built and its answer is accepted. -/
theorem putKeys_eq_ok_iff {candidate : KeySet} {replaced : UInt8} :
    (ExceptT.run (putKeys candidate replaced) ch).1 = .ok () ↔ ∃ session command answer,
      ch.session = some session ∧ putKeysCommand session candidate replaced = .ok command ∧
        (ch.transmit command).1 = .ok answer ∧ answer.status = .success := by
  constructor
  · intro h
    cases hsession : ch.session with
    | none =>
      -- what declines has not succeeded
      obtain ⟨e, he⟩ := declines_putKeys hsession candidate replaced
      rw [he] at h
      cases h
    | some session =>
      rw [run_putKeys hsession] at h
      cases hbuilt : putKeysCommand session candidate replaced with
      | error e =>
        rw [hbuilt] at h
        cases h
      | ok command =>
        rw [hbuilt] at h
        obtain ⟨payload, hpayload, -⟩ := map_eq_ok_iff.1 h
        obtain ⟨answer, hanswer, haccept⟩ := bind_eq_ok_iff.1 hpayload
        -- an answer is accepted for its status alone
        have hstatus : answer.status = .success := by
          rw [accept_eq_ok_iff.1 haccept]
          rfl
        exact ⟨session, command, answer, rfl, hbuilt, hanswer, hstatus⟩
  · rintro ⟨session, command, answer, hsession, hbuilt, hanswer, hstatus⟩
    rw [run_putKeys hsession, hbuilt]
    exact map_eq_ok_iff.2 ⟨answer.payload,
      bind_eq_ok_iff.2 ⟨answer, hanswer, accept_of_success hstatus⟩, rfl⟩

omit [CardLink L] in
/-- Keys without a version of their own keep everything else from being done. -/
theorem run_checkVersion_bind (candidate : KeySet) (x : ChannelM L Unit) (ch : SecureChannel L) :
    ExceptT.run ((liftM (checkVersion candidate) : ChannelM L Unit) >>= fun _ => x) ch =
      if candidate.version = 0 then (.error (.configuration .zeroKeyVersion), ch)
      else ExceptT.run x ch := by
  unfold checkVersion
  rw [run_bind, run_liftM]
  -- the version is looked at first, so nothing was done when it is zero
  by_cases hversion : candidate.version = 0
  · rw [if_pos hversion, if_pos hversion]
  · rw [if_neg hversion, if_neg hversion]

/-- **Keys are replaced after a look at the key slots**, if they have a version of their own. -/
theorem run_replaceKeys (candidate : KeySet) (replaced : UInt8) (ch : SecureChannel L) :
    ExceptT.run (replaceKeys candidate replaced) ch =
      if candidate.version = 0 then (.error (.configuration .zeroKeyVersion), ch)
      else ExceptT.run (checkKeys candidate >>= fun _ => putKeys candidate replaced) ch :=
  run_checkVersion_bind candidate (checkKeys candidate >>= fun _ => putKeys candidate replaced) ch

/-- Without a look at the key slots, keys that have a version of their own are sent at once. -/
theorem run_replaceKeysUnchecked (candidate : KeySet) (replaced : UInt8) (ch : SecureChannel L) :
    ExceptT.run (replaceKeysUnchecked candidate replaced) ch =
      if candidate.version = 0 then (.error (.configuration .zeroKeyVersion), ch)
      else ExceptT.run (putKeys candidate replaced) ch :=
  run_checkVersion_bind candidate (putKeys candidate replaced) ch

/-! ### A set of one key -/

/-- A new key of sixteen bytes under the id 1. -/
def newKey (cipher : KeyCipher) (h : cipher.accepts 16 = true) : Key :=
  ⟨0x01, .enc, cipher, KeySet.testSecret, h⟩

/-- A set of one new key. -/
def newSet (version : UInt8) (cipher : KeyCipher) (h : cipher.accepts 16 = true) : KeySet :=
  (KeySet.empty "new" version).add (newKey cipher h) ⟨rfl, .inr (by simp [KeySet.keys])⟩

end ContentManager

end SmartCard
