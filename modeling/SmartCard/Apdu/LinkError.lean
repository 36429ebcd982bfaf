/-!
# Errors of the card link

What can go wrong between a command and its answer: the link itself fails, bytes cannot be read as a
command or an answer, or a command cannot be written. An error can be wrapped in a context that
names the step it happened in; `LinkError.root` takes the contexts off again. -/

namespace SmartCard

/-- Why bytes are no command or no answer. -/
inductive ParseFault
  | commandWithoutHeader
  /-- A data length of zero with bytes after it. -/
  | zeroLengthWithData
  /-- A data length that fits no case of a short command. -/
  | lengthMismatch
  | responseWithoutStatus
  /-- A fault found by the link, in its own words. -/
  | reported (text : String)
deriving DecidableEq, Repr

def ParseFault.message : ParseFault → String
  | commandWithoutHeader => "Command shorter than header"
  | zeroLengthWithData => "Zero Lc with trailing bytes"
  | lengthMismatch => "Lc inconsistent with command length"
  | responseWithoutStatus => "Response shorter than status word"
  | reported text => text

/-- Why a command has no answer. -/
inductive LinkError
  | connection
  | transmission
  | timeout
  | parse (fault : ParseFault)
  /-- The data field of a command has this many bytes, more than a short command can carry. -/
  | commandTooLong (length : Nat)
  /-- A protected command was given without a channel to protect it. -/
  | noSecureChannel
  /-- An error in the link's own words. -/
  | other (text : String)
  | inContext (context : String) (cause : LinkError)
deriving DecidableEq, Repr

namespace LinkError

/-- The sentence that describes the error; a context stands in front of its cause. -/
def message : LinkError → String
  | connection => "Connection error: failed to connect to device"
  | transmission => "Transmission error: failed to transmit data"
  | timeout => "Operation timed out"
  | parse fault => "Parse error: " ++ fault.message
  | commandTooLong length => "Invalid command length: " ++ toString length
  | noSecureChannel => "Secure channel not established"
  | other text => text
  | inContext context cause => context ++ ": " ++ cause.message

def root : LinkError → LinkError
  | inContext _ cause => cause.root
  | error => error

end LinkError

end SmartCard
