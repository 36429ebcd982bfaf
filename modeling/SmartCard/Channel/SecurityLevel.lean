/-!
# Security levels

A secure channel protects commands and answers in up to four ways. The level is sent to the card as
the first parameter of EXTERNAL AUTHENTICATE (`SecurityLevel.toByte`), one bit for each protection;
bits that stand for none are ignored when a level is read (`SecurityLevel.ofByte`). -/

namespace SmartCard

/-- What a secure channel protects. -/
structure SecurityLevel where
  /-- Commands carry a MAC. -/
  cMac : Bool
  /-- Command data is enciphered. -/
  cEnc : Bool
  /-- Answers carry a MAC. -/
  rMac : Bool
  /-- Answer data is enciphered. -/
  rEnc : Bool
deriving DecidableEq, Repr

namespace SecurityLevel

/-! ### The level as a byte -/

def cMacBit : UInt8 := 0x01

def cEncBit : UInt8 := 0x02

def rMacBit : UInt8 := 0x10

def rEncBit : UInt8 := 0x20

def ofByte (b : UInt8) : SecurityLevel where
  cMac := b &&& cMacBit != 0
  cEnc := b &&& cEncBit != 0
  rMac := b &&& rMacBit != 0
  rEnc := b &&& rEncBit != 0

def toByte (level : SecurityLevel) : UInt8 :=
  (if level.cMac then cMacBit else 0) ||| (if level.cEnc then cEncBit else 0) |||
    (if level.rMac then rMacBit else 0) ||| (if level.rEnc then rEncBit else 0)

/-! ### Common levels -/

def plain : SecurityLevel := ⟨false, false, false, false⟩

/-- Command MACs only, the level a channel starts with. -/
def mac : SecurityLevel := ⟨true, false, false, false⟩

/-- Command MACs and command encryption. -/
def macEnc : SecurityLevel := ⟨true, true, false, false⟩

/-- MACs in both directions. -/
def macBoth : SecurityLevel := ⟨true, false, true, false⟩

def full : SecurityLevel := ⟨true, true, true, true⟩

instance : Inhabited SecurityLevel := ⟨mac⟩

/-- The protections by name, joined by a plus sign. -/
def text (level : SecurityLevel) : String :=
  let names :=
    (if level.cMac then ["C-MAC"] else []) ++ (if level.cEnc then ["C-ENC"] else []) ++
      (if level.rMac then ["R-MAC"] else []) ++ (if level.rEnc then ["R-ENC"] else [])
  if names.isEmpty then "none" else "+".intercalate names

@[simp] theorem ofByte_toByte (level : SecurityLevel) : ofByte level.toByte = level := by
  obtain ⟨cMac, cEnc, rMac, rEnc⟩ := level
  cases cMac <;> cases cEnc <;> cases rMac <;> cases rEnc <;> rfl

end SecurityLevel

end SmartCard
