import SmartCard.Cipher.TripleDes
import SmartCard.Key.Set

/-!
# Diversified keys

A card issuer gives each card keys of its own, derived from static keys and from the diversification
data that the card reports. A scheme makes one block of the data for each role
(`Diversification.block`), and the new secret is that block enciphered under the static secret, cut
to the length of the static secret.

`KeySet.diversify` derives the keys for the three roles that a channel needs and for the answer MAC,
if the set has a key of its own for it. Keys are diversified once; AES keys are not. -/

namespace SmartCard

namespace Diversification

/-- The scheme of a name in any case; `none` names the absence of a scheme. -/
def parse (name : String) : Except Error (Option Diversification) :=
  match name.map Char.toLower with
  | "none" => .ok none
  | "emv" => .ok (some emv)
  | "visa2" => .ok (some visa2)
  | other => .error (.unsupported (.diversification other))

/-- The part of the diversification data that a scheme uses. -/
def used (scheme : Diversification) (data : Block 10) : Block 6 :=
  match scheme with
  | emv => data.slice 4 6
  | visa2 => (data.slice 0 2).append (data.slice 4 4)

/-- The block of a role: the used data twice, marked `F0` and `0F` with the byte of the role. -/
def block (scheme : Diversification) (data : Block 10) (usage : KeyUsage) : Block 16 :=
  let half := scheme.used data
  ((half.append ⟨[0xF0, usage.id], rfl⟩ : Block 8).append half).append ⟨[0x0F, usage.id], rfl⟩

end Diversification

namespace KeySet

/-- The key that a role is diversified from: its own or the master key, and for the answer MAC its
own only. -/
def diversificationSource? (s : KeySet) (usage : KeyUsage) : Option Key :=
  if usage = .rmac then s.find? usage else s.get? usage

def diversifyKey (scheme : Diversification) (data : Block 10) (source : Key) (usage : KeyUsage) :
    Except Error Key := do
  if source.cipher = .aes then throw (.unsupported (.diversifiedAes scheme))
  let block := scheme.block data usage
  let secret ← (TripleDes.ecbEncrypt source.secret block.toList).mapError .cipher
  source.derive usage source.cipher (secret.take source.length)

/-- The set with the keys of a card; without a scheme the set itself. -/
def diversify (s : KeySet) (scheme : Option Diversification) (data : Block 10) :
    Except Error KeySet :=
  match scheme with
  | none => .ok s
  | some scheme =>
    if s.diversification.isSome then
      .error (.configuration (.alreadyDiversified s.name s.diversification))
    else
      [KeyUsage.enc, .mac, .kek, .rmac].foldlM
        (fun diversified usage =>
          match s.diversificationSource? usage with
          -- A role without a key stays without one.
          | none => .ok diversified
          | some source => do diversified.insert (← diversifyKey scheme data source usage))
        (empty (s.name ++ "+" ++ scheme.text) s.version (some scheme))

@[simp] theorem diversify_none (s : KeySet) (data : Block 10) : s.diversify none data = .ok s := rfl

end KeySet

end SmartCard
