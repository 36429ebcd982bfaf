/-!
# Records in one line

Logs and debuggers show a value as the name of its type with its fields in braces. A record may
leave fields out, which two dots at the end tell (`Record.abridged`). Texts in a record stand in
quotation marks, with a backslash in front of what would end them or break the line
(`Record.escaped`). -/

namespace SmartCard.Record

/-- The fields as `name: value`, separated by commas. -/
def fieldsText (fields : List (String × String)) : String :=
  ", ".intercalate (fields.map fun field => field.1 ++ ": " ++ field.2)

def text (name : String) (fields : List (String × String)) : String :=
  name ++ " \x7b " ++ fieldsText fields ++ " \x7d"

def abridged (name : String) (fields : List (String × String)) : String :=
  name ++ " \x7b " ++ fieldsText fields ++ ", .. \x7d"

/-- Whether a character only controls how others are shown. -/
def isControl (c : Char) : Bool := c.toNat < 0x20 || (0x7F ≤ c.toNat && c.toNat < 0xA0)

/-- A character as it stands between quotation marks. Control characters without a short form are
told by their number. -/
def escaped : Char → String
  | '\x00' => "\\0"
  | '\t' => "\\t"
  | '\n' => "\\n"
  | '\r' => "\\r"
  | '\x22' => "\\\""
  | '\x5c' => "\\\\"
  | c =>
    if isControl c then "\\u\x7b" ++ String.ofList (Nat.toDigits 16 c.toNat) ++ "\x7d"
    else c.toString

def quoted (s : String) : String := "\"" ++ String.join (s.toList.map escaped) ++ "\""

def optional : Option String → String
  | none => "None"
  | some s => "Some(" ++ s ++ ")"

/-- A map from keys to values in the order of the list. -/
def mapText (entries : List (String × String)) : String :=
  "\x7b" ++ fieldsText entries ++ "\x7d"

end SmartCard.Record
