import SmartCard.Apdu.Link
import SmartCard.Channel.Session
import SmartCard.Key.Diversification

/-!
# Secure channels

A secure channel is a card link with the keys to protect it. It is opened by a handshake of two
commands, in which first the card and then the host prove that they know the keys; after that every
command is protected by the session that the handshake made.

* `SecureChannel.openWith` runs the handshake with a challenge to the card. Any failure closes the
  channel.
* `SecureChannel.transmit` protects a command, sends it, and removes the protection of the answer. A
  failure closes the channel, since host and card may no longer agree on what links commands and
  answers. An answer with an error status is no failure.
* `SecureChannel.close` forgets the session, and `SecureChannel.reset` resets the card and starts
  over.

Every operation takes the channel and returns its outcome with the channel afterwards. Whole
sequences of operations are written in the monad `ChannelM`, which stops at the first failure and
keeps the channel as the failure left it. -/

namespace SmartCard

/-- How a channel is to be opened. -/
structure ChannelConfig where
  /-- The protection to ask for. -/
  level : SecurityLevel := .mac
  /-- The scheme that the card's keys are diversified by. -/
  diversification : Option Diversification := none
  /-- The protocol to insist on. -/
  version : Option ScpVersion := none
  /-- The options of SCP01 and SCP02 cards, if they are not the usual ones. -/
  parameters : Option UInt8 := none
  /-- Whether to insist on the version of the keys. -/
  strictKeyVersion : Bool := true
deriving DecidableEq

/-- A card link with the keys to protect it. -/
structure SecureChannel (L : Type) where
  link : L
  keys : KeySet
  config : ChannelConfig
  state : ChannelState := .idle
  session : Option Session := none

/-- Operations on a channel that stop at the first failure. -/
abbrev ChannelM (L : Type) := ExceptT Error (StateM (SecureChannel L))

def ChannelState.inspect : ChannelState → String
  | idle => "Idle"
  | awaitingAuthentication => "AwaitingAuthentication"
  | established => "Established"
  | closed => "Closed"

namespace SecureChannel

variable {L : Type}

def new (link : L) (keys : KeySet) (config : ChannelConfig) : SecureChannel L :=
  { link, keys, config }

def isEstablished (ch : SecureChannel L) : Bool := ch.state == .established

/-- The channel in one line; `link` is the text of the link. -/
def inspect (ch : SecureChannel L) (link : String) : String :=
  Record.text "GPSecureChannel"
    [("transport", link), ("keys", Record.quoted ch.keys.name), ("state", ch.state.inspect),
      ("session", Record.optional (ch.session.map Session.inspect))]

def close (ch : SecureChannel L) : SecureChannel L := { ch with state := .closed, session := none }

/-! ### Handshake -/

/-- Refuses an offer of another protocol or key version than the host insists on. -/
def checkOffer (ch : SecureChannel L) (offer : CardOffer) : Except Error Unit := do
  if let some expected := ch.config.version then
    if expected ≠ offer.version then
      throw (.configuration (.otherProtocol expected offer.version))
  if ch.config.strictKeyVersion ∧ ch.keys.version ≠ 0 ∧ ch.keys.version ≠ offer.keyVersion then
    throw (.configuration (.otherKeyVersion offer.keyVersion ch.keys.version))

/-- The host's proof in reply to the card's answer, and the session that both make. -/
def reply (ch : SecureChannel L) (challenge : Block 8) (answer : Response) :
    Except Error (Command × Session) := do
  if !answer.isSuccess then throw (.cardStatus answer.status)
  let offer ← CardOffer.parse answer.payload
  ch.checkOffer offer
  let keys ← ch.keys.diversify ch.config.diversification offer.diversificationData
  let session ← Session.start keys offer challenge ch.config.parameters
  session.authenticate ch.config.level

section Link

variable [CardLink L]

/-- Sends a command as it is. An error names the step that it happened in. -/
def exchangeIn (context : String) (link : L) (command : Command) : Except Error Response × L :=
  match CardLink.transmit link command with
  | (.error e, after) => (.error (.link (.inContext context e)), after)
  | (.ok response, after) => (.ok response, after)

def handshake (ch : SecureChannel L) (challenge : Block 8) : Except Error Session × L :=
  match exchangeIn "INITIALIZE UPDATE" ch.link (Command.initUpdate ch.keys.version challenge) with
  | (.error e, link) => (.error e, link)
  | (.ok answer, link) =>
    match ch.reply challenge answer with
    | .error e => (.error e, link)
    | .ok (command, session) =>
      match exchangeIn "EXTERNAL AUTHENTICATE" link command with
      | (.error e, link) => (.error e, link)
      | (.ok answer, link) =>
        if answer.isSuccess then (.ok session, link)
        else (.error (.security (.hostRefused answer.status)), link)

/-- Opens an idle channel with a challenge to the card. -/
def openWith (ch : SecureChannel L) (challenge : Block 8) : Except Error Unit × SecureChannel L :=
  if ch.state = .idle then
    match ch.handshake challenge with
    | (.ok session, link) =>
      (.ok (), { ch with link, state := .established, session := some session })
    | (.error e, link) => (.error e, { ch with link, state := .closed })
  else (.error (.security (.notIdle ch.state)), ch)

/-! ### Commands -/

/-- Sends a command under the protection of the channel. -/
def transmit (ch : SecureChannel L) (command : Command) :
    Except Error Response × SecureChannel L :=
  match ch.state, ch.session with
  | .established, some session =>
    match session.wrap command with
    -- Nothing was sent, but the session has counted a command that the card will not see.
    | (.error e, _) => (.error e, ch.close)
    | (.ok wrapped, waiting) =>
      match CardLink.transmit ch.link wrapped with
      | (.error e, link) => (.error (.link e), { ch.close with link })
      | (.ok answer, link) =>
        match waiting.unwrap answer with
        | (.error e, _) => (.error e, { ch.close with link })
        | (.ok plain, answered) => (.ok plain, { ch with link, session := some answered })
  | _, _ => (.error (.link .noSecureChannel), ch)

def transmitPlain (ch : SecureChannel L) (command : Command) :
    Except LinkError Response × SecureChannel L :=
  match CardLink.transmit ch.link command with
  | (outcome, link) => (outcome, { ch with link })

/-- Resets the card; if that succeeds, the channel can be opened again. -/
def reset (ch : SecureChannel L) : Except Error Unit × SecureChannel L :=
  match CardLink.reset ch.link with
  | (.error e, link) => (.error (.link e), { ch.close with link })
  | (.ok (), link) => (.ok (), { ch.close with link, state := .idle })

end Link

/-- Every answer that the channel passes on uses one up. -/
theorem transmit_lt [FiniteLink L] {ch after : SecureChannel L} {command : Command}
    {response : Response} (h : ch.transmit command = (.ok response, after)) :
    FiniteLink.answersLeft after.link < FiniteLink.answersLeft ch.link := by
  unfold transmit at h
  split at h
  · split at h
    · simp at h
    · split at h
      · simp at h
      · rename_i hx
        split at h
        · simp at h
        · simp only [Prod.mk.injEq] at h
          obtain ⟨-, rfl⟩ := h
          exact CardLink.transmit_lt hx
  · simp at h

end SecureChannel

end SmartCard
