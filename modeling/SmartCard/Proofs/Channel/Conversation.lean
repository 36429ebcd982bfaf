import SmartCard.Proofs.Channel.SessionSteps

/-!
# Conversations of host and card

The other party of a session is a card. `CardSide` is what a card does with a protected command and
with its own answer, and a conversation (`Session.converse`) takes commands through the host's
protection to the card, and answers back. It goes on for as long as neither party refuses, and tells
what each of them has read in the end.

`Session.converse_of_step` carries a relation between the states of host and card from one exchange
to a whole conversation. The relation also knows how many exchanges there were, for the protocols
that count them. -/

namespace SmartCard

/-! ### The parties -/

/-- The card's side of an established channel. Refusal is `none`. -/
class CardSide (C : Type) where
  /-- Checks a command and removes its protection. -/
  receive : C → Command → Option (Command × C)
  /-- Protects the answer to the last command. -/
  respond : C → Response → Option (Response × C)

/-- A command and the answer to it. -/
structure Exchange where
  command : Command
  answer : Response
deriving DecidableEq

/-- The command that a card reads: the class byte keeps the bit that marks a MAC, and an empty data
field counts as none. -/
def Command.delivered (command : Command) (level : SecurityLevel) : Command :=
  if level.cMac then
    (command.withClass (command.cla ||| CommandClass.secureMessaging)).withData command.dataBytes
  else command

/-- What the two parties read of an exchange. -/
def Exchange.delivered (level : SecurityLevel) (e : Exchange) : Exchange :=
  { e with command := e.command.delivered level }

/-- A data field and the MAC of eight bytes at its end. -/
def splitMac (field : Bytes) : Option (Bytes × Block 8) :=
  (Block.ofList? 8 (field.drop (field.length - 8))).map fun mac =>
    (field.take (field.length - 8), mac)

@[simp] theorem splitMac_append (rest : Bytes) (mac : Block 8) :
    splitMac (rest ++ mac.toList) = some (rest, mac) := by
  have hlen : (rest ++ mac.toList).length - 8 = rest.length := by
    rw [List.length_append, Block.length_toList]
    omega
  unfold splitMac
  rw [hlen, List.drop_left, List.take_left, Block.ofList?_toList]
  rfl

namespace Session

variable {C : Type} [CardSide C]

/-! ### Conversations -/

/-- One exchange: the command as the card reads it and the answer as the host reads it, and both
parties afterwards. -/
def exchange (host : Session) (card : C) (e : Exchange) : Option (Exchange × Session × C) :=
  match host.wrap e.command with
  | (.error _, _) => none
  | (.ok wrapped, waiting) =>
    (CardSide.receive card wrapped).bind fun (command, heard) =>
      (CardSide.respond heard e.answer).bind fun (answer, card') =>
        match waiting.unwrap answer with
        | (.error _, _) => none
        | (.ok plain, host') => some (⟨command, plain⟩, host', card')

/-- A conversation: one exchange after the other. -/
def converse (host : Session) (card : C) : List Exchange → Option (List Exchange × Session × C)
  | [] => some ([], host, card)
  | e :: es =>
    (host.exchange card e).bind fun (read, host', card') =>
      (host'.converse card' es).map fun (reads, ends) => (read :: reads, ends)

/-- **An exchange in which no party refuses**, put together from what the parties do. -/
theorem exchange_eq_some {host waiting host' : Session} {card heard card' : C} {e : Exchange}
    {wrapped command : Command} {answer plain : Response}
    (hwrap : host.wrap e.command = (.ok wrapped, waiting))
    (hreceive : CardSide.receive card wrapped = some (command, heard))
    (hrespond : CardSide.respond heard e.answer = some (answer, card'))
    (hunwrap : waiting.unwrap answer = (.ok plain, host')) :
    host.exchange card e = some (⟨command, plain⟩, host', card') := by
  unfold exchange
  simp only [hwrap, hreceive, hrespond, hunwrap, Option.bind_some]

/-- **From one exchange to a conversation.** If host and card are in step, each exchange that fits
the level is read by both parties, and leaves them in step, then so does every conversation. -/
theorem converse_of_step (InStep : Nat → Session → C → Prop) {level : SecurityLevel}
    (hlevel : ∀ {n : Nat} {host : Session} {card : C}, InStep n host card → host.level = level)
    (step : ∀ {n : Nat} {host : Session} {card : C} {e : Exchange}, InStep n host card →
      e.command.dataBytes.length ≤ host.maxDataLength →
        ∃ host' card', host.exchange card e = some (e.delivered level, host', card') ∧
          InStep (n + 1) host' card')
    {n : Nat} {host : Session} {card : C} (hstart : InStep n host card) {es : List Exchange}
    (hfits : ∀ e ∈ es, e.command.dataBytes.length ≤ host.maxDataLength) :
    ∃ host' card',
      host.converse card es = some (es.map (Exchange.delivered level), host', card') ∧
        InStep (n + es.length) host' card' := by
  -- on the exchanges still to come, for every number of them that came before
  induction es generalizing n host card with
  | nil => exact ⟨host, card, rfl, hstart⟩
  | cons e es ih =>
    rw [List.forall_mem_cons] at hfits
    obtain ⟨host₁, card₁, hexchange, hstep⟩ := step hstart hfits.1
    -- the room for data is that of the level, which never changes
    have hroom : host₁.maxDataLength = host.maxDataLength :=
      maxDataLength_congr ((hlevel hstep).trans (hlevel hstart).symm)
    -- by induction the rest is read, since both are in step after this exchange
    obtain ⟨host', card', hrest, hend⟩ := ih hstep (hroom ▸ hfits.2)
    refine ⟨host', card', ?_, ?_⟩
    · simp only [converse, hexchange, hrest, Option.bind_some, Option.map_some, List.map_cons]
    · rw [List.length_cons, Nat.add_comm es.length 1, ← Nat.add_assoc]
      exact hend

end Session

end SmartCard
