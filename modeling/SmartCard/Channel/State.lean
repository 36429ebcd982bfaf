/-!
# States of a secure channel

A channel starts `idle`, is `awaitingAuthentication` while the two parties prove themselves to each
other, and is then `established`. It is `closed` by its user or by any failure, and only a reset of
the card makes it idle again. -/

namespace SmartCard

/-- How far a secure channel has got. -/
inductive ChannelState
  | idle
  /-- The card has answered the first command and waits for the second. -/
  | awaitingAuthentication
  | established
  | closed
deriving DecidableEq, Repr

def ChannelState.text : ChannelState → String
  | idle => "idle"
  | awaitingAuthentication => "awaiting authentication"
  | established => "established"
  | closed => "closed"

end SmartCard
