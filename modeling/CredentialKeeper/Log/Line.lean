import CredentialKeeper.Json.Record
import CredentialKeeper.Log.Notice

/-!
# Log lines

An event with its time, as a line of text or as an object in JSON. The time has microseconds.
-/

namespace CredentialKeeper.Log

def stamp (now : Moment) : String :=
  String.ofList (Moment.dateText now.date ++ 'T' :: now.clockText ++
    '.' :: paddedDigits 6 (now.subsecond / 1000)) ++ "Z"

/-- A level in five columns. -/
def Level.column (l : Level) : String :=
  String.ofList (List.replicate (5 - l.name.length) ' ') ++ l.name

def Value.plain : Value → String
  | number n => toString n
  | text s => s
  | quoted s => Text.quote s

def Value.scalar : Value → Json.Scalar
  | number n => .integer n
  | text s | quoted s => .text s

namespace Event

def plainLine (now : Moment) (e : Event) : String :=
  let fields := e.fields.map fun (name, value) => " " ++ name ++ "=" ++ value.plain
  stamp now ++ " " ++ e.level.column ++ " " ++ e.target ++ ": " ++ e.message ++ String.join fields

def jsonLine (now : Moment) (e : Event) : String :=
  let text (s : String) : String := String.ofList (Json.writeText s)
  let fields := ("message", Json.Scalar.text e.message) ::
    e.fields.map fun (name, value) => (name, value.scalar)
  "\x7b\"timestamp\":" ++ text (stamp now) ++ ",\"level\":" ++ text e.level.name ++
    ",\"fields\":" ++ Json.writeObject fields ++ ",\"target\":" ++ text e.target ++ "\x7d"

end Event

end CredentialKeeper.Log
