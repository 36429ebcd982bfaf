import SmartCard.Bytes.Block
import SmartCard.Error
import SmartCard.Inspect.Record

/-!
# Keys

A key is a secret with a role, a cipher and an id; the id zero fits any slot of a card. The length
of the secret is one that the cipher accepts, which `Key.make` checks and the type records.

The text that shows a key (`Key.inspect`) tells the length of the secret and never its bytes.
-/

namespace SmartCard

/-- A secret with its role, its cipher and its id. -/
structure Key where
  /-- The id of the key on the card; zero stands for any id. -/
  id : UInt8
  usage : KeyUsage
  cipher : KeyCipher
  secret : Bytes
  /-- The cipher has keys of this length. -/
  fits : cipher.accepts secret.length = true
deriving DecidableEq

/-- The name of a role as it stands in records. -/
def KeyUsage.inspect : KeyUsage → String
  | master => "Master"
  | enc => "Enc"
  | mac => "Mac"
  | kek => "Kek"
  | rmac => "Rmac"

/-- The name of a cipher as it stands in records. -/
def KeyCipher.inspect : KeyCipher → String
  | generic => "Generic"
  | des => "Des"
  | des3 => "Des3"
  | aes => "Aes"

namespace Key

/-- A key, if its secret fits its cipher. -/
def make (id : UInt8) (usage : KeyUsage) (cipher : KeyCipher) (secret : Bytes) :
    Except Error Key :=
  if fits : cipher.accepts secret.length = true then .ok ⟨id, usage, cipher, secret, fits⟩
  else .error (.configuration (.secretLength cipher usage secret.length))

def length (k : Key) : Nat := k.secret.length

/-- A key derived from this one for a role. It keeps the id, unless this key stands in for several
roles. -/
def derive (source : Key) (usage : KeyUsage) (cipher : KeyCipher) (secret : Bytes) :
    Except Error Key :=
  make (if source.usage = .master then 0 else source.id) usage cipher secret

def inspect (k : Key) : String :=
  Record.text "Key"
    [("id", toString k.id.toNat), ("usage", k.usage.inspect), ("cipher", k.cipher.inspect),
      ("len", toString k.length), ("secret", Record.quoted "<redacted>")]

theorem make_eq_ok_iff {id : UInt8} {usage : KeyUsage} {cipher : KeyCipher} {secret : Bytes}
    {k : Key} : make id usage cipher secret = .ok k ↔
      k.id = id ∧ k.usage = usage ∧ k.cipher = cipher ∧ k.secret = secret := by
  unfold make
  split
  · constructor
    · intro h; cases h; exact ⟨rfl, rfl, rfl, rfl⟩
    · rintro ⟨rfl, rfl, rfl, rfl⟩; rfl
  · rename_i h
    constructor
    · intro h; cases h
    · rintro ⟨rfl, rfl, rfl, rfl⟩; exact absurd k.fits h

/-- The secret of a key is never empty. -/
theorem secret_ne_nil (k : Key) : k.secret ≠ [] := by
  intro h
  have := k.fits
  rw [h] at this
  revert this
  cases k.cipher <;> decide

end Key

end SmartCard
