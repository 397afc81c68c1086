import CredentialKeeper.Manager.Source

/-!
# Scripted sources

A source that plays the lines of a script in turn, one for each call, and its last words ever after.
-/

namespace CredentialKeeper.Manager

/-- How long a scripted credential lasts. -/
inductive Lifetime where
  /-- So many milliseconds from the answer; less than none for one that has expired before it. -/
  | forMillis (ms : Int)
  | until (expiresAt : Moment)

inductive Speech (α : Type) where
  | issue (secret : α) (lifetime : Lifetime)
  | fail (f : Failure)
  | crash (message : String)

structure Line (α : Type) where
  latency : Latency
  speech : Speech α

namespace Speech

variable {α : Type}

def issued (secret : α) (lifetime : Lifetime) (now : Moment) : Reply α :=
  match lifetime with
  | .until expiresAt => .outcome (.ok ⟨secret, expiresAt, now⟩)
  | .forMillis ms =>
    match Moment.ofNanos? (now.nanos + ms * 1000000) with
    | some expiresAt => .outcome (.ok ⟨secret, expiresAt, now⟩)
    | none => .crash Moment.overflowMessage

/-- A speech as an answer at a wall time. Only who issues a credential looks at the clock. -/
def reply (s : Speech α) (now : Option Moment) : Reply α :=
  match s, now with
  | issue secret lifetime, some now => issued secret lifetime now
  | issue _ _, none => .crash Moment.noneMessage
  | fail f, _ => .outcome (.error f)
  | crash message, _ => .crash message

end Speech

/-- A source that plays a script and then repeats `last`. It remembers the lines to come. -/
def scripted {α : Type} (name : String) (last : Line α) : Source (List (Line α)) α where
  name
  renew lines _ :=
    let line := lines.headD last
    (⟨line.latency, fun now => (line.speech.reply now, [])⟩, lines.tail)

end CredentialKeeper.Manager
