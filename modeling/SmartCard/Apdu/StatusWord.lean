import SmartCard.Bytes.Hex

/-!
# Status words

A card ends every answer with two bytes that say how the command went (ISO/IEC 7816-4). `9000` is
success, `62xx` and `63xx` are warnings after which the command still completed, and everything else
is an error. Well-known status words have a name (`StatusWord.name`). -/

namespace SmartCard

/-- The two bytes that end an answer. -/
structure StatusWord where
  sw1 : UInt8
  sw2 : UInt8
deriving DecidableEq, Repr

/-- How much attention a status word deserves. -/
inductive Severity
  | debug
  | info
  | warn
deriving DecidableEq, Repr

def Severity.name : Severity → String
  | debug => "DEBUG"
  | info => "INFO"
  | warn => "WARN"

namespace StatusWord

def ofUInt16 (w : UInt16) : StatusWord := ⟨(w >>> 8).toUInt8, w.toUInt8⟩

def toUInt16 (s : StatusWord) : UInt16 := s.sw1.toUInt16 <<< 8 ||| s.sw2.toUInt16

def toBytes (s : StatusWord) : Bytes := [s.sw1, s.sw2]

/-- Four upper case digits. -/
def text (s : StatusWord) : String := Hex.upper s.toBytes

/-! ### Well-known status words

Names are those of ISO/IEC 7816-4. `moreData` is the answer to GET STATUS when the registry does not
fit one answer. -/

def success : StatusWord := ⟨0x90, 0x00⟩

def moreData : StatusWord := ⟨0x63, 0x10⟩

def wrongLength : StatusWord := ⟨0x67, 0x00⟩

def wrongData : StatusWord := ⟨0x6A, 0x80⟩

def fileNotFound : StatusWord := ⟨0x6A, 0x82⟩

def referencedDataNotFound : StatusWord := ⟨0x6A, 0x88⟩

def securityNotSatisfied : StatusWord := ⟨0x69, 0x82⟩

def conditionsNotSatisfied : StatusWord := ⟨0x69, 0x85⟩

/-! ### Classes of status words

An answer counts as completed when it is a success or a warning. -/

def isSuccess (s : StatusWord) : Bool := s == success

/-- The command completed with a remark. -/
def isWarning (s : StatusWord) : Bool := s.sw1 == 0x62 || s.sw1 == 0x63

def isCompleted (s : StatusWord) : Bool := s.isSuccess || s.isWarning

def isFileNotFound (s : StatusWord) : Bool := s == fileNotFound

def isReferencedDataNotFound (s : StatusWord) : Bool := s == referencedDataNotFound

def isSecurityNotSatisfied (s : StatusWord) : Bool := s == securityNotSatisfied

/-- Success is routine, a warning is news, and an error needs attention. -/
def severity (s : StatusWord) : Severity :=
  if s.isSuccess then .debug else if s.isWarning then .info else .warn

/-- The name of a well-known status word. -/
def name (s : StatusWord) : Option String :=
  match s.sw1, s.sw2 with
  | 0x90, 0x00 => some "Success"
  | 0x61, _ => some "More data available"
  | 0x62, 0x83 => some "Selected file invalidated"
  | 0x63, 0x00 => some "Authentication failed"
  | 0x63, 0x10 => some "More data available"
  | 0x64, 0x00 => some "State of non-volatile memory unchanged"
  | 0x65, 0x81 => some "Memory failure"
  | 0x67, 0x00 => some "Wrong length"
  | 0x68, 0x81 => some "Logical channel not supported"
  | 0x68, 0x82 => some "Secure messaging not supported"
  | 0x69, 0x82 => some "Security status not satisfied"
  | 0x69, 0x83 => some "Authentication method blocked"
  | 0x69, 0x84 => some "Referenced data invalidated"
  | 0x69, 0x85 => some "Conditions of use not satisfied"
  | 0x69, 0x86 => some "Command not allowed"
  | 0x6A, 0x80 => some "Incorrect parameters in the data field"
  | 0x6A, 0x81 => some "Function not supported"
  | 0x6A, 0x82 => some "File not found"
  | 0x6A, 0x84 => some "Not enough memory space"
  | 0x6A, 0x86 => some "Incorrect parameters P1-P2"
  | 0x6A, 0x88 => some "Referenced data not found"
  | 0x6D, 0x00 => some "Instruction code not supported or invalid"
  | 0x6E, 0x00 => some "Class not supported"
  | 0x6F, 0x00 => some "No precise diagnosis"
  | _, _ => none

/-- The name, or a remark that there is none. -/
def description (s : StatusWord) : String := s.name.getD "Unknown status word"

end StatusWord

end SmartCard
