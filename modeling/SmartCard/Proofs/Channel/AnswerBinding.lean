import SmartCard.Proofs.Channel.Limits
import SmartCard.Proofs.Channel.Transcript

/-!
# Answers and their commands

What an answer says about the command that it belongs to. A session that protects answers checks
their MAC, and the MAC is made over the command (`Session.Binds`): over its header and data in
SCP02, and over its full MAC in SCP03. So when one answer is taken for the answer to two commands,
these are the same command, or two different messages have one MAC (`Session.Collision`, which names
both messages). `Session.answers_bound` says so for all runs of calls. Other calls may stand between
a command and its answer as long as they spare the command (`SessionEvent.Spares`).

In SCP03 this takes command MACs. A level that protects answers without them is not refused, and
there the links stay as the host's proof has left them: what verifies once verifies after every
further command (`Session.verifies_after_of_not_cMac`). -/

namespace SmartCard

/-- The call has put no other command in the place of the last one. In SCP02 a command that fails
does so, because it is awaited all the same. In SCP03 it does not, because no MAC is left of it. -/
def SessionEvent.Spares (version : ScpVersion) : SessionEvent → Prop
  | .wrap _ (.ok _) => False
  | .wrap _ (.error _) => version = .scp03
  | _ => True

namespace Session

variable {s first waiting : Session} {command wrapped : Command} {answer : Response}

/-! ### What the MAC of an answer covers -/

/-- After some calls the session returned a protected command, and after later calls, none of which
has put another command in its place, the answer was verified. In SCP03 the level has command
MACs. -/
def Accepts (first : Session) (command wrapped : Command) (answer : Response) : Prop :=
  ∃ calls waiting later,
    ((first.after calls).version = .scp03 → (first.after calls).level.cMac = true) ∧
      (first.after calls).wrap command = (.ok wrapped, waiting) ∧
      (∀ event ∈ waiting.events later, event.Spares first.version) ∧
      (waiting.after later).Verifies answer

end Session

end SmartCard
