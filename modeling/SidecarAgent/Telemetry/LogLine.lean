import SidecarAgent.Telemetry.Note

/-!
# Written log entries

An entry is written on one line: as a JSON record for programs, its details beside level, message
and origin, or as words for people.
-/

namespace SidecarAgent.Telemetry

/-! ## JSON strings -/

/-- A character as it stands in a JSON string.  Control characters have escapes. -/
def escapedChar (c : Char) : List Char :=
  if c = '"' then ['\\', '"']
  else if c = '\\' then ['\\', '\\']
  else if c = '\n' then ['\\', 'n']
  else if c = '\r' then ['\\', 'r']
  else if c = '\t' then ['\\', 't']
  else if c = '\x08' then ['\\', 'b']
  else if c = '\x0c' then ['\\', 'f']
  else if c < ' ' then
    ['\\', 'u', '0', '0', Nat.digitChar (c.toNat / 16), Nat.digitChar (c.toNat % 16)]
  else [c]

/-- A text as a JSON string. -/
def jsonString (text : String) : String :=
  String.ofList ('"' :: text.toList.flatMap escapedChar ++ ['"'])

/-- A member of a JSON record. -/
def jsonMember (m : String × String) : String := jsonString m.1 ++ ":" ++ jsonString m.2

namespace LogEntry

/-- An entry as a JSON record, with the name of where it comes from. -/
def jsonLine (origin : String) (e : LogEntry) : String :=
  let members :=
    ("level", e.level.text) :: ("message", e.message) :: e.fields ++ [("target", origin)]
  "\x7b" ++ String.intercalate "," (members.map jsonMember) ++ "\x7d"

/-- An entry in words. -/
def plainLine (origin : String) (e : LogEntry) : String :=
  String.intercalate " "
    (e.level.text :: (origin ++ ":") :: e.message :: e.fields.map fun f => f.1 ++ "=" ++ f.2)

end LogEntry

end SidecarAgent.Telemetry
