import SmartCard.Apdu.Link

/-!
# Tapped links

A tapped link is any card link together with the bytes that were sent over it, oldest first. The tap
changes nothing about the link (`Tapped.transmit_eq`), so what is proved of the record over a tapped
link holds of every link: it tells what an operation sends, and in which order. -/

namespace SmartCard

/-- A link with a record of all bytes sent over it. -/
structure Tapped (L : Type) where
  link : L
  /-- Everything sent so far, the first command first. -/
  sent : List Bytes := []

namespace Tapped

variable {L : Type} [CardLink L]

instance : CardLink (Tapped L) where
  exchange t command :=
    ((CardLink.exchange t.link command).1,
      ⟨(CardLink.exchange t.link command).2, t.sent ++ [command]⟩)
  reset t := ((CardLink.reset t.link).1, { t with link := (CardLink.reset t.link).2 })
  isConnected t := CardLink.isConnected t.link

theorem exchange_eq (t : Tapped L) (command : Bytes) :
    CardLink.exchange t command = ((CardLink.exchange t.link command).1,
      ⟨(CardLink.exchange t.link command).2, t.sent ++ [command]⟩) := rfl

/-- What a tapped link adds to the record: a command that fits its encoding. -/
def recorded (c : Command) : List Bytes :=
  if c.dataBytes.length ≤ Command.maxData then [c.encode] else []

theorem eq_of_mem_recorded {c : Command} {bytes : Bytes} (h : bytes ∈ recorded c) :
    bytes = c.encode := by
  unfold recorded at h
  split at h
  · exact List.mem_singleton.1 h
  · cases h

/-- **A tap only listens**: outcome and link are those without it. -/
theorem transmit_eq (t : Tapped L) (c : Command) :
    CardLink.transmit t c = ((CardLink.transmit t.link c).1,
      ⟨(CardLink.transmit t.link c).2, t.sent ++ recorded c⟩) := by
  unfold CardLink.transmit Command.validate recorded
  by_cases h : Command.maxData < c.dataBytes.length
  · -- the command is refused before it reaches the link, so nothing is recorded
    rw [if_pos h, if_neg (Nat.not_le.2 h), List.append_nil]
  · rw [if_neg h, if_pos (Nat.not_lt.1 h)]
    simp only [exchange_eq]
    -- the record is made before the answer is looked at
    cases CardLink.exchange t.link c.encode with
    | mk outcome link =>
      cases outcome with
      | error e => rfl
      | ok answer => rfl

/-- One command makes at most one entry. -/
theorem length_sent_le (t : Tapped L) (c : Command) :
    (CardLink.transmit t c).2.sent.length ≤ t.sent.length + 1 := by
  have hlen : (recorded c).length ≤ 1 := by
    unfold recorded
    split
    · exact Nat.le_refl 1
    · exact Nat.zero_le 1
  rw [transmit_eq, List.length_append]
  exact Nat.add_le_add_left hlen _

/-- A command that is answered makes one. -/
theorem length_sent_of_ok {t : Tapped L} {c : Command} {answer : Response}
    (h : (CardLink.transmit t c).1 = .ok answer) :
    (CardLink.transmit t c).2.sent.length = t.sent.length + 1 := by
  by_cases hlen : c.dataBytes.length ≤ Command.maxData
  · rw [transmit_eq, recorded, if_pos hlen, List.length_append]
    rfl
  · -- a command that is too long is not sent, and so not answered
    unfold CardLink.transmit Command.validate at h
    rw [if_pos (Nat.lt_of_not_le hlen)] at h
    cases h

end Tapped

end SmartCard
