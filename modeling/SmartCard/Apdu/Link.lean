import SmartCard.Apdu.Command
import SmartCard.Apdu.Response

/-!
# Card links

A card link moves command bytes to a card and answer bytes back. It is a value like any other: an
exchange takes the link and returns the outcome together with the link afterwards (`CardLink`).
Nothing is assumed about the card behind it.

* `CardLink.transmit` sends a command and reads the answer; a command that is too long for its
  encoding is refused before anything is sent.
* A `FiniteLink` has a bound on the number of exchanges that can still succeed, which every
  success lowers. Loops that go on as long as the card asks for it end by this bound.
-/

namespace SmartCard

/-- A connection to a card, with the card behind it. -/
class CardLink (L : Type) where
  exchange : L → Bytes → Except LinkError Bytes × L
  reset : L → Except LinkError Unit × L
  isConnected : L → Bool := fun _ => true

/-- A link that can answer only so often. -/
class FiniteLink (L : Type) extends CardLink L where
  /-- A bound on the number of exchanges that can still succeed. -/
  answersLeft : L → Nat
  /-- Every successful exchange uses one up. -/
  exchange_lt : ∀ {link : L} {command answer : Bytes} {after : L},
    exchange link command = (.ok answer, after) → answersLeft after < answersLeft link

namespace CardLink

variable {L : Type}

def transmit [CardLink L] (link : L) (command : Command) : Except LinkError Response × L :=
  match command.validate with
  | .error e => (.error e, link)
  | .ok () =>
    match exchange link command.encode with
    | (.error e, after) => (.error e, after)
    | (.ok answer, after) => (Response.decode answer, after)

theorem transmit_lt [FiniteLink L] {link after : L} {command : Command} {response : Response}
    (h : transmit link command = (.ok response, after)) :
    FiniteLink.answersLeft after < FiniteLink.answersLeft link := by
  unfold transmit at h
  split at h
  · simp at h
  · split at h
    · simp at h
    · rename_i hx
      simp only [Prod.mk.injEq] at h
      obtain ⟨-, rfl⟩ := h
      exact FiniteLink.exchange_lt hx

end CardLink

end SmartCard
