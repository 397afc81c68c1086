import CredentialKeeper.Log.Notice
import CredentialKeeper.Number.Integer
import CredentialKeeper.Text.Alphanumeric
import CredentialKeeper.Text.Blank
import CredentialKeeper.Text.Pattern

/-!
# Log filters

A filter limits how much is let through of events whose target begins with some text and that have
some field. Its text is `target[span{field=value}]=level`, where all parts but one may be missing,
or several of these between commas. Of the limits that concern an event the one with the longest
target decides, one with a field goes before one without, and of equal ones the last counts.
-/

namespace CredentialKeeper.Log

/-- How much is let through of some events. -/
structure Limit where
  /-- What the target of the events begins with. -/
  target : Option String
  field : Option String
  verbosity : Nat
deriving DecidableEq

namespace Limit

/-- The limit concerns an event. All events have a message. -/
def concerns (l : Limit) (e : Event) : Bool :=
  l.target.all (fun t => t.toList.isPrefixOf e.target.toList) &&
    l.field.all (fun f => f = "message" || e.fields.any (·.1 = f))

/-- The limit yields to another one for events that both concern. -/
def yieldsTo (l other : Limit) : Bool :=
  let reach (l : Limit) : Nat := (l.target.map (·.length + 1)).getD 0
  if reach l = reach other then
    match l.field, other.field with
    | none, _ => true
    | some _, none => false
    | some f, some g => f ≤ g
  else reach l < reach other

end Limit

/-- The verbosity that a level's name or number stands for. -/
def verbosity? (s : String) : Option Nat :=
  match parseNat? 5 s with
  | some n => some n
  | none =>
    [("off", 0), ("error", 1), ("warn", 2), ("info", 3), ("debug", 4), ("trace", 5)].lookup
      s.toLower

inductive Directive where
  | limit (l : Limit)
  /-- Concerns spans, and no events. -/
  | spans
deriving DecidableEq

namespace Directive

/-- The name of a field, and whether a value of it is asked for: a number, a truth value or a
pattern. -/
def readField? (cs : List Char) : Option (String × Bool) :=
  match cs.splitOn '=' with
  | _ :: value :: _ =>
    let value := String.ofList value
    if (Binary64.parse? value).isSome || Text.Pattern.isPattern value then
      some (String.ofList (cs.takeWhile (· ≠ '=')), true)
    else none
  | _ => if cs.isEmpty then none else some (String.ofList cs, false)

/-- A directive may begin with the character. -/
def canBegin (c : Char) : Bool := Text.isAlphanumeric c || "-:_[".toList.contains c

/-- Reads a directive. Blanks at its ends are left out to find its parts, but the parts are cut out
of the whole text at the same places, so that blanks in front of them shift them. -/
def parse? (text : List Char) : Option Directive :=
  let cs := Text.trimBoth Text.isBlank text
  let cut (start length : Nat) : List Char := (text.drop start).take length
  let level? (start : Nat) : Option Nat :=
    let level := text.drop start
    if level.isEmpty then some 5 else verbosity? (String.ofList level)
  let word := cs.takeWhile fun c => c ≠ '=' && c ≠ '['
  let target := if word.isEmpty then none else some (String.ofList (cut 0 word.length))
  let levelAfter? (length : Nat) : Option Nat :=
    match cs.drop length with
    | [] => some 5
    | c :: _ => if c = '=' then level? (length + 1) else none
  if !cs.head?.any canBegin then none
  else
    match cs.drop word.length with
    | [] =>
      match verbosity? (String.ofList text) with
      | some n => some (limit ⟨none, none, n⟩)
      | none => some (limit ⟨some (String.ofList text), none, 5⟩)
    | '[' :: rest =>
      let span := rest.takeWhile fun c => c ≠ ']' && c ≠ '\x7b'
      let start := word.length + span.length + 2
      match rest.drop span.length with
      | [] => none
      | ']' :: _ => (levelAfter? start).map fun _ => spans
      | _ :: rest =>
        let length := (rest.takeWhile (· ≠ '\x7d')).length
        match rest.drop length, readField? (cut start length) with
        | '\x7d' :: ']' :: _, some (name, hasValue) =>
          (levelAfter? (start + length + 2)).map fun n =>
            if span.isEmpty && !hasValue then limit ⟨target, some name, n⟩ else spans
        | _, _ => none
    | _ => (levelAfter? word.length).map fun n => limit ⟨target, none, n⟩

/-- The limit that a directive sets for events. -/
def limit? : Directive → Option Limit
  | limit l => some l
  | spans => none

end Directive

/-- What is let through: nothing that no limit concerns. -/
structure Filter where
  limits : List Limit
deriving DecidableEq

namespace Filter

/-- Information from all, and more from the managers of credentials. -/
def standard : Filter := ⟨[⟨none, none, 3⟩, ⟨some "push_credentials", none, 4⟩]⟩

/-- Reads directives between commas. A filter without any lets errors through. -/
def parse? (s : String) : Option Filter :=
  let parts := (s.toList.splitOn ',').filter (!·.isEmpty)
  if parts.isEmpty then some ⟨[⟨none, none, 1⟩]⟩
  else (parts.mapM Directive.parse?).map fun directives => ⟨directives.filterMap Directive.limit?⟩

/-- How much is let through of events such as the given one. -/
def verbosity (f : Filter) (e : Event) : Nat :=
  let best : Option Limit := f.limits.foldl (fun best l =>
    if l.concerns e && best.all (·.yieldsTo l) then some l else best) none
  (best.map Limit.verbosity).getD 0

def allows (f : Filter) (e : Event) : Bool := decide (e.level.verbosity ≤ f.verbosity e)

end Filter

end CredentialKeeper.Log
