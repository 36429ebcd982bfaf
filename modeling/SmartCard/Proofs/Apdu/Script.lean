import SmartCard.Apdu.Script
import SmartCard.Proofs.Apdu.Tap

/-!
# Links with answers in store

A link may have its next answers ready, whatever it is sent (`CardLink.Gives`). A scripted card does
(`ScriptedCard.gives`), since every command takes one answer from the script
(`ScriptedCard.transmit_eq`), and so does a tapped link to one (`Tapped.gives`). What an operation
makes of given answers is stated for all links that give them. -/

namespace SmartCard

/-- The link answers its next commands with these answers, as long as they fit their encoding. -/
def CardLink.Gives {L : Type} [CardLink L] : L → List Response → Prop
  | _, [] => True
  | link, answer :: answers => ∀ command : Command, command.validate = .ok () →
    ∃ next, CardLink.transmit link command = (.ok answer, next) ∧ Gives next answers

open CardLink (Gives)

/-! ### Scripted cards -/

namespace ScriptedCard

variable {card : ScriptedCard}

/-- What the card answers next. -/
def answer (card : ScriptedCard) : Except LinkError Response :=
  match card.script with
  | [] => .error .transmission
  | entry :: _ => entry.bind Response.decode

/-- The card after it was sent a command. -/
def asked (card : ScriptedCard) (command : Command) : ScriptedCard :=
  { card with script := card.script.tail, sent := card.sent ++ [command.encode] }

/-- **One command takes one answer**, whatever the command is. -/
theorem transmit_eq {command : Command} (hvalid : command.validate = .ok ()) :
    CardLink.transmit card command = (card.answer, card.asked command) := by
  have hexchange : CardLink.exchange card command.encode =
      (match card.script with
        | [] => .error .transmission
        | entry :: _ => entry, card.asked command) := by
    change card.exchange command.encode = _
    -- an empty script answers with a failure, and any other with its first entry
    unfold exchange asked
    cases card.script with
    | nil => rfl
    | cons entry script => rfl
  unfold CardLink.transmit answer
  rw [hvalid]
  simp only [hexchange]
  cases card.script with
  | nil => rfl
  | cons entry script =>
    cases entry with
    | error e => rfl
    | ok bytes => rfl

/-- A scripted card takes its answers from the script. -/
theorem gives {answers : List Response}
    (h : card.script = answers.map fun answer => .ok answer.encode) : Gives card answers := by
  -- on the answers, for every card with such a script
  induction answers generalizing card with
  | nil => trivial
  | cons first answers ih =>
    intro command hvalid
    have hfirst : card.answer = .ok first := by
      unfold answer
      rw [h]
      exact Response.decode_encode first
    have hrest : (card.asked command).script = answers.map fun answer => .ok answer.encode := by
      unfold asked
      rw [h]
      rfl
    exact ⟨card.asked command, by rw [transmit_eq hvalid, hfirst], ih hrest⟩

end ScriptedCard

/-- A tap does not keep the answers back. -/
theorem Tapped.gives {L : Type} [CardLink L] {t : Tapped L} {answers : List Response}
    (h : Gives t.link answers) : Gives t answers := by
  induction answers generalizing t with
  | nil => trivial
  | cons answer answers ih =>
    -- the tap passes the command on, and goes on with the link that answered
    intro command hvalid
    obtain ⟨next, htransmit, hnext⟩ := h command hvalid
    exact ⟨_, by rw [Tapped.transmit_eq, htransmit], ih hnext⟩

end SmartCard
