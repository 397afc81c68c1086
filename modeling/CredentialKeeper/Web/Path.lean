import CredentialKeeper.Web.Percent

/-!
# Paths

A path is segments, each after a slash. Reading a path (`Path.read`) takes the steps in it: a
segment `.` stays where it is, `..` goes back by one, and others go on. What is written so far is
kept as text, as the steps depend on the slashes in it. A path of files may begin with the letter of
a drive, `C:` or `C|`, from which no step leads back.
-/

namespace CredentialKeeper.Web

/-- What the addresses of a scheme are like. -/
inductive SchemeKind where
  /-- Addresses of servers, always with a host. -/
  | server
  /-- Addresses of files, which may be on a host. -/
  | file
  /-- Addresses of any form. -/
  | other
deriving DecidableEq

namespace Path

/-- What stands between the parts of a path. Backslashes count as slashes in all schemes that have a
meaning. -/
def isSlash (kind : SchemeKind) (c : Char) : Bool := c = '/' || (c = '\\' && kind ≠ .other)

/-- The printable characters that are written as bytes in a path. -/
def others : String := " \"#<>?\x60\x7b\x7d"

/-- A segment that stays where it is. -/
def isDot (segment : List Char) : Bool :=
  [".", "%2e"].contains (String.ofList (segment.map Char.toLower))

/-- A segment that goes back. -/
def isDoubleDot (segment : List Char) : Bool :=
  ["..", ".%2e", "%2e.", "%2e%2e"].contains (String.ofList (segment.map Char.toLower))

/-- The text begins with the letter of a drive, after which a part of the path ends. -/
def startsWithDrive : List Char → Bool
  | a :: b :: rest => a.isAlpha && (b = ':' || b = '|') &&
      rest.head?.all ("/\\?#".toList.contains ·)
  | _ => false

def isDrive (cs : List Char) : Bool := cs.length = 2 && startsWithDrive cs

/-- A text up to its last slash, and what follows. -/
def cutAtLastSlash (cs : List Char) : List Char × List Char :=
  let tail := (cs.reverse.takeWhile (· ≠ '/')).reverse
  (cs.take (cs.length - tail.length), tail)

structure Walk where
  written : List Char
  /-- The path began with the letter of a drive. -/
  hasDrive : Bool

/-- The slash at the end belongs to a segment that a step back may take away. -/
def canDropSlash (written : List Char) : Bool :=
  let (front, segment) := cutAtLastSlash written.dropLast
  written.getLast? = some '/' && !front.isEmpty && !startsWithDrive (segment ++ ['/'])

def stepBack (kind : SchemeKind) (written : List Char) : List Char :=
  let written := if canDropSlash written then written.dropLast else written
  let (front, tail) := cutAtLastSlash written
  if kind = .file && isDrive tail && tail.getLast? = some ':' then written else front

def endWithSlash (written : List Char) : List Char :=
  if written.getLast? = some '/' then written else written ++ ['/']

/-- Takes a step; `isLast` says that no slash follows the segment. -/
def step (kind : SchemeKind) (w : Walk) (segment : List Char) (isLast : Bool) : Walk :=
  let segment := percentEncode others segment
  let slash := if isLast then [] else ['/']
  if isDoubleDot segment then
    let back := stepBack kind w.written
    { w with written := if isLast then back else endWithSlash back }
  else if isDot segment then { w with written := endWithSlash w.written }
  else if kind = .file && w.written.length = 1 && isDrive segment then
    ⟨w.written ++ segment.take 1 ++ ':' :: slash, true⟩
  else { w with written := w.written ++ segment ++ slash }

def steps (kind : SchemeKind) (w : Walk) : List (List Char) → Walk
  | [] => w
  | [segment] => step kind w segment true
  | segment :: rest => steps kind (step kind w segment false) rest

/-- Reads a path that goes on after some text. Paths of files begin with one slash. -/
def read (kind : SchemeKind) (written text : List Char) : Walk :=
  let w := steps kind ⟨written, false⟩ (text.splitOnP (isSlash kind))
  if kind = .file then { w with written := '/' :: w.written.dropWhile (· = '/') } else w

end Path

end CredentialKeeper.Web
