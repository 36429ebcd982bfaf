import SmartCard.Apdu.Link

/-!
# Scripted cards

A scripted card answers from a list: each exchange takes the next entry, an answer or a fault, and
each reset takes the next entry of a list of reset faults. When the answers run out, exchanges fail
as a broken link does; when the reset faults run out, resets succeed. The card keeps a record of all
bytes sent to it, including those it had no answer for. -/

namespace SmartCard

/-- A card that answers from a list. -/
structure ScriptedCard where
  script : List (Except LinkError Bytes) := []
  resetFaults : List (Option LinkError) := []
  /-- All bytes sent so far, the first command first. -/
  sent : List Bytes := []
  /-- The number of resets so far, failed ones included. -/
  resets : Nat := 0

namespace ScriptedCard

def ofAnswers (answers : List Bytes) : ScriptedCard := { script := answers.map .ok }

def push (card : ScriptedCard) (entry : Except LinkError Bytes) : ScriptedCard :=
  { card with script := card.script ++ [entry] }

/-- The number of answers that were never given; faults do not count. -/
def remaining (card : ScriptedCard) : Nat := card.script.countP (·.isOk)

/-- Records the bytes and takes the next entry of the script. -/
def exchange (card : ScriptedCard) (command : Bytes) : Except LinkError Bytes × ScriptedCard :=
  let sent := card.sent ++ [command]
  match card.script with
  | [] => (.error .transmission, { card with sent })
  | entry :: script => (entry, { card with script, sent })

/-- Counts the reset and takes the next reset fault. -/
def reset (card : ScriptedCard) : Except LinkError Unit × ScriptedCard :=
  let resets := card.resets + 1
  match card.resetFaults with
  | some fault :: resetFaults => (.error fault, { card with resetFaults, resets })
  | none :: resetFaults => (.ok (), { card with resetFaults, resets })
  | [] => (.ok (), { card with resets })

instance : FiniteLink ScriptedCard where
  exchange := exchange
  reset := reset
  answersLeft card := card.script.length
  exchange_lt {link command answer after} h := by
    unfold exchange at h
    split at h
    · simp at h
    · rename_i hs
      simp only [Prod.mk.injEq] at h
      obtain ⟨-, rfl⟩ := h
      simp [hs]

end ScriptedCard

end SmartCard
