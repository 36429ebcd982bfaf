import SmartCard.Channel.SecureChannel
import SmartCard.Proofs.Apdu.Tap

/-!
# The life of a secure channel

A channel is driven by four calls (`ChannelCall`), in any order and over any link.
`SecureChannel.lifecycle_after` says what holds after every sequence of them (`Lifecycle`): session
and state belong together, only the calls that should move the state do, calls at the wrong time do
nothing, and every failure ends in a closed channel without a session.

Each call has one lemma that lists its outcomes (`openWith_cases`, `transmit_cases`, `reset_cases`).
The invariant `Kept` is read off these lists, and so is everything else; no proof looks into the
operations again. -/

namespace SmartCard

variable {L : Type} [CardLink L]

/-- A call to a channel. -/
inductive ChannelCall
  | openWith (challenge : Block 8)
  | transmit (command : Command)
  | close
  | reset

/-- The channel after a call. -/
def ChannelCall.run (ch : SecureChannel L) : ChannelCall → SecureChannel L
  | openWith challenge => (ch.openWith challenge).2
  | transmit command => (ch.transmit command).2
  | close => ch.close
  | reset => ch.reset.2

namespace SecureChannel

/-- The channel after a sequence of calls. -/
def after (ch : SecureChannel L) (calls : List ChannelCall) : SecureChannel L :=
  calls.foldl ChannelCall.run ch

variable {ch : SecureChannel L}

/-! ### The outcomes of each call -/

/-- An idle channel is established with a session, or closed by a failure. -/
theorem openWith_cases (h : ch.state = .idle) (challenge : Block 8) :
    (∃ session link, ch.openWith challenge =
        (.ok (), { ch with link, state := .established, session := some session })) ∨
      ∃ e link, ch.openWith challenge = (.error e, { ch with link, state := .closed }) := by
  unfold openWith
  rw [if_pos h]
  cases ch.handshake challenge with
  | mk outcome link =>
    cases outcome with
    | ok session => exact .inl ⟨session, link, rfl⟩
    | error e => exact .inr ⟨e, link, rfl⟩

theorem openWith_of_ne_idle (h : ch.state ≠ .idle) (challenge : Block 8) :
    ch.openWith challenge = (.error (.security (.notIdle ch.state)), ch) := by
  unfold openWith
  rw [if_neg h]

/-- An established channel sends a command at most once. It stays established when it has an answer,
and is closed otherwise. -/
theorem transmit_cases (hstate : ch.state = .established) {session : Session}
    (hsession : ch.session = some session) (command : Command) :
    (∃ response wrapped answered, ch.transmit command = (.ok response,
        { ch with link := (CardLink.transmit ch.link wrapped).2, session := some answered })) ∨
      ∃ e link, ch.transmit command = (.error e, { ch.close with link }) ∧
        (link = ch.link ∨ ∃ wrapped, link = (CardLink.transmit ch.link wrapped).2) := by
  unfold transmit
  rw [hstate, hsession]
  -- the command is protected, sent, and its answer opened, and each of these may fail
  cases hw : session.wrap command with
  | mk outcome waiting =>
    cases outcome with
    | error e => exact .inr ⟨e, ch.link, by simp only [hw]; rfl, .inl rfl⟩
    | ok wrapped =>
      cases hx : CardLink.transmit ch.link wrapped with
      | mk outcome link =>
        have hlink : link = (CardLink.transmit ch.link wrapped).2 := by rw [hx]
        cases outcome with
        | error e => exact .inr ⟨.link e, link, by simp only [hw, hx], .inr ⟨wrapped, hlink⟩⟩
        | ok answer =>
          cases hu : waiting.unwrap answer with
          | mk outcome answered =>
            cases outcome with
            | error e => exact .inr ⟨e, link, by simp only [hw, hx, hu], .inr ⟨wrapped, hlink⟩⟩
            | ok plain => exact .inl ⟨plain, wrapped, answered, by simp only [hw, hx, hu]⟩

theorem transmit_of_ne_established (h : ch.state ≠ .established) (command : Command) :
    ch.transmit command = (.error (.link .noSecureChannel), ch) := by
  unfold transmit
  -- every other pair of state and session falls through to the refusal
  split
  · rename_i hstate _
    exact absurd hstate h
  · rfl

/-- A command on its way through a channel, and its answer on the way back. -/
structure Passage where
  session : Session
  /-- The command as it was sent. -/
  wrapped : Command
  /-- The session that waits for the answer. -/
  waiting : Session
  /-- The answer as the card gave it. -/
  raw : Response
  /-- The answer as it was passed on. -/
  plain : Response
  answered : Session

/-- **The command is answered**: it is protected, sent and answered, and the answer is passed on. -/
structure Passage.Follows (p : Passage) (ch : SecureChannel L) (command : Command)
    (after : SecureChannel L) : Prop where
  established : ch.state = .established
  current : ch.session = some p.session
  protects : p.session.wrap command = (.ok p.wrapped, p.waiting)
  answers : (CardLink.transmit ch.link p.wrapped).1 = .ok p.raw
  opens : p.waiting.unwrap p.raw = (.ok p.plain, p.answered)
  goesOn : after = { ch with
    link := (CardLink.transmit ch.link p.wrapped).2, session := some p.answered }

theorem transmit_eq_ok_iff {command : Command} {plain : Response} {after : SecureChannel L} :
    ch.transmit command = (.ok plain, after) ↔
      ∃ p : Passage, p.Follows ch command after ∧ p.plain = plain := by
  constructor
  · intro h
    unfold transmit at h
    split at h
    · rename_i session hstate hsession
      cases hw : session.wrap command with
      | mk outcome waiting =>
        cases outcome with
        | error e => simp only [hw] at h; cases h
        | ok wrapped =>
          cases hx : CardLink.transmit ch.link wrapped with
          | mk outcome link =>
            cases outcome with
            | error e => simp only [hw, hx] at h; cases h
            | ok raw =>
              cases hu : waiting.unwrap raw with
              | mk outcome answered =>
                cases outcome with
                | error e => simp only [hw, hx, hu] at h; cases h
                | ok plain' =>
                  simp only [hw, hx, hu] at h
                  cases h
                  exact ⟨⟨session, wrapped, waiting, raw, plain, answered⟩,
                    ⟨hstate, hsession, hw, by rw [hx], hu, by rw [hx]⟩, rfl⟩
    · cases h
  · rintro ⟨p, h, rfl⟩
    have hx : CardLink.transmit ch.link p.wrapped =
        -- the link answers with the record that the passage names
        (.ok p.raw, (CardLink.transmit ch.link p.wrapped).2) := Prod.ext h.answers rfl
    unfold transmit
    rw [h.goesOn, h.established, h.current]
    simp only [h.protects]
    rw [hx]
    simp only [h.opens]

/-- A reset forgets the session, and makes the channel idle if the card was reset. -/
theorem reset_cases (ch : SecureChannel L) :
    (∃ link, ch.reset = (.ok (), { ch.close with link, state := .idle })) ∨
      ∃ e link, ch.reset = (.error e, { ch.close with link }) := by
  unfold reset
  -- in both cases the session is gone, and only the state tells whether the card was reset
  cases CardLink.reset ch.link with
  | mk outcome link =>
    cases outcome with
    | ok done => exact .inl ⟨link, rfl⟩
    | error e => exact .inr ⟨.link e, link, rfl⟩

/-! ### What every call keeps -/

/-- Keys and configuration are those that the channel was made with, and there is a session exactly
while the channel is established. -/
structure Kept (keys : KeySet) (config : ChannelConfig) (ch : SecureChannel L) : Prop where
  keys_eq : ch.keys = keys
  config_eq : ch.config = config
  session_isSome_iff : ch.session.isSome ↔ ch.state = .established
  not_awaiting : ch.state ≠ .awaitingAuthentication

variable {keys : KeySet} {config : ChannelConfig}

omit [CardLink L] in
theorem kept_new (link : L) (keys : KeySet) (config : ChannelConfig) :
    Kept keys config (new link keys config) := by
  refine ⟨rfl, rfl, ?_, ?_⟩
  · -- a new channel is idle and without a session
    simp [new]
  · simp [new]

namespace Kept

omit [CardLink L] in
theorem exists_session (h : Kept keys config ch) (hstate : ch.state = .established) :
    ∃ session, ch.session = some session :=
  Option.isSome_iff_exists.1 (h.session_isSome_iff.2 hstate)

omit [CardLink L] in
theorem session_eq_none (h : Kept keys config ch) (hstate : ch.state ≠ .established) :
    ch.session = none :=
  Option.not_isSome_iff_eq_none.1 fun hs => hstate (h.session_isSome_iff.1 hs)

omit [CardLink L] in
/-- A closed channel without a session is fine whatever has become of its link. -/
theorem close (h : Kept keys config ch) (link : L) : Kept keys config { ch.close with link } := by
  refine ⟨h.keys_eq, h.config_eq, ?_, ?_⟩
  · simp [SecureChannel.close]
  · simp [SecureChannel.close]

/-- **Every call keeps the invariant.** -/
theorem run (h : Kept keys config ch) (call : ChannelCall) : Kept keys config (call.run ch) := by
  cases call with
  | openWith challenge =>
    change Kept keys config (ch.openWith challenge).2
    by_cases hstate : ch.state = .idle
    · rcases openWith_cases hstate challenge with ⟨session, link, hopen⟩ | ⟨e, link, hopen⟩
      · rw [hopen]
        exact ⟨h.keys_eq, h.config_eq, by simp, by simp⟩
      · -- an idle channel has no session that a failure could leave behind
        have hnone := h.session_eq_none (by rw [hstate]; simp)
        rw [hopen]
        exact ⟨h.keys_eq, h.config_eq, by simp [hnone], by simp⟩
    · rw [openWith_of_ne_idle hstate]
      exact h
  | transmit command =>
    change Kept keys config (ch.transmit command).2
    by_cases hstate : ch.state = .established
    · obtain ⟨session, hsession⟩ := h.exists_session hstate
      rcases transmit_cases hstate hsession command with
        ⟨response, wrapped, answered, hsent⟩ | ⟨e, link, hsent, -⟩
      · -- the session after the answer takes the place of the one before
        rw [hsent]
        exact ⟨h.keys_eq, h.config_eq, by simp [hstate], h.not_awaiting⟩
      · rw [hsent]
        exact h.close link
    · rw [transmit_of_ne_established hstate]
      exact h
  | close => exact h.close ch.link
  | reset =>
    change Kept keys config ch.reset.2
    rcases reset_cases ch with ⟨link, hreset⟩ | ⟨e, link, hreset⟩
    · rw [hreset]
      exact ⟨h.keys_eq, h.config_eq, by simp [SecureChannel.close], by simp⟩
    · rw [hreset]
      exact h.close link

/-- **Every sequence of calls keeps the invariant.** -/
theorem after (h : Kept keys config ch) (calls : List ChannelCall) :
    Kept keys config (ch.after calls) := by
  unfold SecureChannel.after
  -- on the calls, for every channel that satisfies the invariant before them
  induction calls generalizing ch with
  | nil => exact h
  | cons call calls ih =>
    rw [List.foldl_cons]
    exact ih (h.run call)

end Kept

/-! ### The life of a channel -/

/-- What holds of a channel between two calls, and of the next call, over a tapped link. -/
structure Lifecycle (keys : KeySet) (config : ChannelConfig) (ch : SecureChannel (Tapped L)) :
    Prop where
  /-- There is a session exactly while the channel is established. -/
  session_isSome_iff : ch.session.isSome ↔ ch.state = .established
  /-- No call ends in the middle of a handshake. -/
  not_awaiting : ch.state ≠ .awaitingAuthentication
  /-- A closed channel stays closed until a reset succeeds. -/
  leaves_closed : ∀ call : ChannelCall, ch.state = .closed → (call.run ch).state ≠ .closed →
    call = .reset ∧ ch.reset.1 = .ok ()
  /-- A channel is established by a handshake from the idle state, and in no other way. -/
  establishes : ∀ call : ChannelCall, ch.state ≠ .established → (call.run ch).state = .established →
    ch.state = .idle ∧ ∃ challenge, call = .openWith challenge ∧
      (ch.openWith challenge).1 = .ok ()
  /-- Elsewhere a channel cannot be opened: nothing is sent, and nothing changes. -/
  openWith_elsewhere : ∀ challenge, ch.state ≠ .idle →
    ch.openWith challenge = (.error (.security (.notIdle ch.state)), ch)
  /-- Without a session no command is taken: nothing is sent, and nothing changes. -/
  transmit_elsewhere : ∀ command, ch.state ≠ .established →
    ch.transmit command = (.error (.link .noSecureChannel), ch)
  /-- An established channel sends at most one command for a command. -/
  transmit_sends : ∀ command, ch.state = .established →
    (ch.transmit command).2.link.sent = ch.link.sent ∨ ∃ wrapped : Command,
      (ch.transmit command).2.link.sent = ch.link.sent ++ [wrapped.encode]
  /-- An answer leaves the channel established, whatever its status word. -/
  transmit_ok : ∀ command response after, ch.state = .established →
    ch.transmit command = (.ok response, after) → after.state = .established
  /-- A failure closes the channel and forgets the session. -/
  transmit_error : ∀ command e after, ch.state = .established →
    ch.transmit command = (.error e, after) → after.state = .closed ∧ after.session = none
  /-- A reset that fails leaves the channel closed. -/
  reset_error : ∀ e after, ch.reset = (.error e, after) →
    after.state = .closed ∧ after.session = none
  /-- A reset that succeeds makes the channel as it was at first, on the link as it is now. -/
  reset_ok : ∀ after, ch.reset = (.ok (), after) → after = new after.link keys config

/-- Only an idle channel can become established, by a handshake that succeeds. -/
theorem establishes (call : ChannelCall) (hstate : ch.state ≠ .established)
    (hrun : (call.run ch).state = .established) :
    ch.state = .idle ∧ ∃ challenge, call = .openWith challenge ∧
      (ch.openWith challenge).1 = .ok () := by
  cases call with
  | openWith challenge =>
    change (ch.openWith challenge).2.state = _ at hrun
    by_cases hidle : ch.state = .idle
    · rcases openWith_cases hidle challenge with ⟨session, link, hopen⟩ | ⟨e, link, hopen⟩
      · exact ⟨hidle, challenge, rfl, by rw [hopen]⟩
      · rw [hopen] at hrun
        cases hrun
    · rw [openWith_of_ne_idle hidle] at hrun
      exact absurd hrun hstate
  | transmit command =>
    change (ch.transmit command).2.state = _ at hrun
    -- without a session a command changes nothing
    rw [transmit_of_ne_established hstate] at hrun
    exact absurd hrun hstate
  | close => cases hrun
  | reset =>
    change ch.reset.2.state = _ at hrun
    -- a reset ends in the idle or in the closed state
    rcases reset_cases ch with ⟨link, hreset⟩ | ⟨e, link, hreset⟩
    · rw [hreset] at hrun
      cases hrun
    · rw [hreset] at hrun
      cases hrun

/-- Only a reset that succeeds leads out of the closed state. -/
theorem leaves_closed (call : ChannelCall) (hstate : ch.state = .closed)
    (hrun : (call.run ch).state ≠ .closed) : call = .reset ∧ ch.reset.1 = .ok () := by
  cases call with
  | openWith challenge =>
    change (ch.openWith challenge).2.state ≠ _ at hrun
    rw [openWith_of_ne_idle (by rw [hstate]; simp)] at hrun
    -- a closed channel is not idle, so opening it changes nothing
    exact absurd hstate hrun
  | transmit command =>
    change (ch.transmit command).2.state ≠ _ at hrun
    rw [transmit_of_ne_established (by rw [hstate]; simp)] at hrun
    exact absurd hstate hrun
  | close => exact absurd rfl hrun
  | reset =>
    change ch.reset.2.state ≠ _ at hrun
    -- only here is a closed channel left, and only if the card was reset
    rcases reset_cases ch with ⟨link, hreset⟩ | ⟨e, link, hreset⟩
    · exact ⟨rfl, by rw [hreset]⟩
    · rw [hreset] at hrun
      exact absurd rfl hrun

/-- An established channel outlives its answers, and no failure. -/
theorem transmit_outcome (h : Kept keys config ch) (hstate : ch.state = .established)
    (command : Command) :
    match ch.transmit command with
    | (.ok _, after) => after.state = .established
    | (.error _, after) => after.state = .closed ∧ after.session = none := by
  obtain ⟨session, hsession⟩ := h.exists_session hstate
  rcases transmit_cases hstate hsession command with
    ⟨response, wrapped, answered, hsent⟩ | ⟨e, link, hsent, -⟩
  · rw [hsent]
    exact hstate
  · rw [hsent]
    exact ⟨rfl, rfl⟩

/-- A reset ends in a new channel or in a closed one. -/
theorem reset_outcome (h : Kept keys config ch) :
    match ch.reset with
    | (.ok _, after) => after = new after.link keys config
    | (.error _, after) => after.state = .closed ∧ after.session = none := by
  rcases reset_cases ch with ⟨link, hreset⟩ | ⟨e, link, hreset⟩
  · -- a new channel has the keys and the configuration that the invariant names
    rw [hreset, ← h.keys_eq, ← h.config_eq]
    rfl
  · rw [hreset]
    exact ⟨rfl, rfl⟩

/-- The one command that an established channel sends. -/
theorem sent_transmit {ch : SecureChannel (Tapped L)} (h : Kept keys config ch)
    (hstate : ch.state = .established) (command : Command) :
    (ch.transmit command).2.link.sent = ch.link.sent ∨ ∃ wrapped : Command,
      (ch.transmit command).2.link.sent = ch.link.sent ++ [wrapped.encode] := by
  obtain ⟨session, hsession⟩ := h.exists_session hstate
  -- a command that is too long for its encoding leaves no record
  have hrecord (wrapped : Command) : (CardLink.transmit ch.link wrapped).2.sent = ch.link.sent ∨
      (CardLink.transmit ch.link wrapped).2.sent = ch.link.sent ++ [wrapped.encode] := by
    rw [Tapped.transmit_eq]
    change ch.link.sent ++ Tapped.recorded wrapped = _ ∨ ch.link.sent ++ Tapped.recorded wrapped = _
    unfold Tapped.recorded
    split
    · exact .inr rfl
    · exact .inl (List.append_nil _)
  -- without an answer nothing may have been sent; a failure after the command is sent counts like
  -- an answer
  rcases transmit_cases hstate hsession command with
    ⟨response, wrapped, answered, hsent⟩ | ⟨e, link, hsent, rfl | ⟨wrapped, rfl⟩⟩
  · rw [hsent]
    exact (hrecord wrapped).imp_right fun h => ⟨wrapped, h⟩
  · rw [hsent]
    exact .inl rfl
  · rw [hsent]
    exact (hrecord wrapped).imp_right fun h => ⟨wrapped, h⟩

/-- **The life of a channel.** Whatever link a channel is made with, and whatever calls were made to
it, the laws of `Lifecycle` hold of it. -/
theorem lifecycle_after (link : Tapped L) (keys : KeySet) (config : ChannelConfig)
    (calls : List ChannelCall) : Lifecycle keys config ((new link keys config).after calls) := by
  have h := (kept_new link keys config).after calls
  -- from here on nothing is known of the channel but the invariant
  generalize (new link keys config).after calls = ch at h
  refine
    { session_isSome_iff := h.session_isSome_iff
      not_awaiting := h.not_awaiting
      leaves_closed := leaves_closed
      establishes := establishes
      openWith_elsewhere := fun challenge hstate => openWith_of_ne_idle hstate challenge
      transmit_elsewhere := fun command hstate => transmit_of_ne_established hstate command
      transmit_sends := fun command hstate => sent_transmit h hstate command
      transmit_ok := ?_, transmit_error := ?_, reset_error := ?_, reset_ok := ?_ }
  · intro command response after hstate hsent
    have houtcome := transmit_outcome h hstate command
    rw [hsent] at houtcome
    exact houtcome
  · intro command e after hstate hsent
    have houtcome := transmit_outcome h hstate command
    rw [hsent] at houtcome
    exact houtcome
  · intro e after hreset
    have houtcome := reset_outcome h
    rw [hreset] at houtcome
    exact houtcome
  · intro after hreset
    have houtcome := reset_outcome h
    rw [hreset] at houtcome
    exact houtcome

end SecureChannel

/-! ### Sequences of operations -/

namespace ChannelM

omit [CardLink L] in
theorem run_bind {α β : Type} (x : ChannelM L α) (f : α → ChannelM L β) (ch : SecureChannel L) :
    ExceptT.run (x >>= f) ch = match ExceptT.run x ch with
      | (.ok a, next) => ExceptT.run (f a) next
      | (.error e, next) => (.error e, next) := by
  change (match ExceptT.run x ch with
    | (outcome, next) => (ExceptT.bindCont f outcome : StateM (SecureChannel L) _) next) = _
  cases ExceptT.run x ch with
  -- what comes after a failure is skipped, and the channel is as the failure has left it
  | mk outcome next =>
    cases outcome with
    | error e => rfl
    | ok a => rfl

omit [CardLink L] in
/-- A sequence of operations succeeds step by step, each on the channel that the one before left. -/
theorem run_bind_eq_ok_iff {α β : Type} {x : ChannelM L α} {f : α → ChannelM L β}
    {ch after : SecureChannel L} {b : β} :
    ExceptT.run (x >>= f) ch = (.ok b, after) ↔
      ∃ a next, ExceptT.run x ch = (.ok a, next) ∧ ExceptT.run (f a) next = (.ok b, after) := by
  rw [run_bind]
  cases ExceptT.run x ch with
  | mk outcome next =>
    cases outcome with
    | error e =>
      constructor
      · intro h
        cases h
      · rintro ⟨a, next', h, -⟩
        cases h
    | ok a =>
      constructor
      · intro h
        exact ⟨a, next, rfl, h⟩
      · rintro ⟨a', next', h, hf⟩
        cases h
        exact hf

omit [CardLink L] in
/-- What does not use the channel leaves it as it is. -/
theorem run_liftM {α : Type} (x : Except Error α) (ch : SecureChannel L) :
    ExceptT.run (liftM x : ChannelM L α) ch = (x, ch) := by
  cases x with
  | error e => rfl
  | ok a => rfl

end ChannelM

end SmartCard
