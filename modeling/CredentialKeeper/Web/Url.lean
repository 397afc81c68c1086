import CredentialKeeper.Web.Host
import CredentialKeeper.Web.Path

/-!
# Addresses

An address in its normal form: a scheme, who asks, a host and a port unless it is the scheme's own,
a path without steps back, a query and a fragment. Characters that may not stand there are written
as bytes in base 16 after a percent sign.
-/

namespace CredentialKeeper.Web

/-- Where a thing is: the host, if it is said, with who asks it and the port. -/
structure Authority where
  user : String
  password : Option String
  host : String
  port : Option Nat
deriving DecidableEq

structure Url where
  scheme : String
  authority : Option Authority
  path : String
  query : Option String
  fragment : Option String
deriving DecidableEq

namespace Authority

def ofHost (host : String) : Authority := ⟨"", none, host, none⟩

/-- It is said who asks. -/
def hasUser (a : Authority) : Bool := a.user ≠ "" || a.password.isSome

def text (a : Authority) : String :=
  a.user ++ (a.password.map (":" ++ ·)).getD "" ++ (if a.hasUser then "@" else "") ++ a.host ++
    (a.port.map fun n => ":" ++ toString n).getD ""

/-- The text that bytes after percent signs write, if they do. -/
def decoded? (s : String) : Option String :=
  String.fromUTF8? ⟨(percentDecode s.toList).toArray⟩

/-- Leaves out who asks, unless it is written in bytes that are no text. -/
def withoutUser (a : Authority) : Authority :=
  match decoded? a.user with
  | none => a
  | some user =>
    if user ≠ "" || (a.password.bind decoded?).isSome then { a with user := "", password := none }
    else a

end Authority

namespace Url

/-- A path that could be taken for a host gets a dot in front. -/
def text (u : Url) : String :=
  u.scheme ++ ":" ++ (u.authority.map ("//" ++ ·.text)).getD "" ++
    (if u.authority.isNone && "//".toList.isPrefixOf u.path.toList then "/." else "") ++ u.path ++
    (u.query.map ("?" ++ ·)).getD "" ++ (u.fragment.map ("#" ++ ·)).getD ""

def hasHost (u : Url) : Bool := u.authority.any (·.host ≠ "")

def withoutUser (u : Url) : Url := { u with authority := u.authority.map Authority.withoutUser }

/-- A request can be sent to the address: it is not too long, and no character of the host is
reserved. -/
def isSendable (u : Url) : Bool :=
  u.text.length ≤ 65534 &&
    !u.authority.any (·.host.toList.any ("\"\x60\x7b\x7d".toList.contains ·))

def ports : List (String × Nat) :=
  [("http", 80), ("https", 443), ("ws", 80), ("wss", 443), ("ftp", 21)]

def kindOf (scheme : String) : SchemeKind :=
  if scheme = "file" then .file else if (ports.lookup scheme).isSome then .server else .other

/-- The printable characters that are written as bytes in a query of an address whose scheme has a
meaning and of another one, in a fragment, and in what says who asks. -/
def queryOthers : String := " \"#<>'"
def plainQueryOthers : String := " \"#<>"
def fragmentOthers : String := " \"<>\x60"
def userOthers : String := Path.others ++ "/:;=@[\\]^|"

/-- The scheme before the first colon, and what follows. -/
def cutScheme? (cs : List Char) : Option (String × List Char) :=
  let name := cs.takeWhile (· ≠ ':')
  match name, cs.drop name.length with
  | c :: rest, ':' :: after =>
    if c.isAlpha && rest.all (fun c => c.isAlphanum || c = '+' || c = '-' || c = '.') then
      some (String.ofList (name.map Char.toLower), after)
    else none
  | _, _ => none

def cutAt (mark : Char) (cs : List Char) : List Char × Option (List Char) :=
  let before := cs.takeWhile (· ≠ mark)
  match cs.drop before.length with
  | [] => (before, none)
  | _ :: after => (before, some after)

/-! ## Hosts and ports -/

/-- The user and the password, both as written. -/
def readUser (cs : List Char) : String × Option String :=
  let write (cs : List Char) : String := String.ofList (percentEncode userOthers cs)
  let (user, password) := cutAt ':' cs
  (write user, (password.filter (!·.isEmpty)).map write)

/-- Splits what says who asks from a host and a port, at the last sign for it. -/
def cutUser (cs : List Char) : Option (List Char) × List Char :=
  let host := (cs.reverse.takeWhile (· ≠ '@')).reverse
  if host.length = cs.length then (none, cs)
  else (some (cs.take (cs.length - host.length - 1)), host)

/-- Splits a host and what follows from the first colon outside brackets on. -/
def cutHost : (isInside : Bool) → List Char → List Char × List Char
  | _, [] => ([], [])
  | isInside, c :: rest =>
    if c = ':' && !isInside then ([], c :: rest)
    else
      let (host, after) := cutHost (c = '[' || (isInside && c ≠ ']')) rest
      (c :: host, after)

/-- A port, which may be empty, and what follows; a backslash may end it. -/
def readPort? (cs : List Char) : Option (Option Nat × List Char) :=
  let digits := cs.takeWhile Char.isDigit
  let rest := cs.drop digits.length
  let n := digits.foldl (fun n c => n * 10 + (c.toNat - 48)) 0
  if 65535 < n || !rest.head?.all (· = '\\') then none
  else some (if digits.isEmpty then none else some n, rest)

/-- Reads who asks, a host and a port, and tells what is left. -/
def readAuthority? (kind : SchemeKind) (ownPort : Option Nat) (cs : List Char) :
    Option (Authority × List Char) := do
  let (user?, cs) := cutUser cs
  let (user, password) := readUser (user?.getD [])
  let (name, after) := cutHost false cs
  if name.isEmpty && (kind = .server || !after.isEmpty || user ≠ "" || password.isSome) then none
  else
    let host ← if kind = .server then host? name else opaqueHost? name
    let (port, rest) ← readPort? (after.drop 1)
    return (⟨user, password, host, if port = ownPort then none else port⟩, rest)

/-! ## Addresses by kind -/

/-- What an address is but for its scheme, query and fragment. -/
abbrev Place := Option Authority × List Char

/-- Reads what follows the slashes before a host; `isAll` says that neither a query nor a fragment
follows. A lone sign for who asks may stand at the end only. -/
def readPlace? (kind : SchemeKind) (ownPort : Option Nat) (isAll : Bool) (cs : List Char) :
    Option Place := do
  let front := cs.takeWhile (!Path.isSlash kind ·)
  let path := cs.drop front.length
  if front = ['@'] && !(path.isEmpty && isAll) then none
  else
    let (authority, rest) ← readAuthority? kind ownPort front
    let path := rest ++ path
    let walk : Path.Walk := match kind, path with
      | .other, [] => ⟨[], false⟩
      | .other, '\\' :: _ => Path.read kind ['/'] path
      | .other, _ => Path.read kind [] path
      | _, _ => Path.read kind ['/'] (path.drop 1)
    return (some authority, walk.written)

/-- Reads where a file is. The host of the machine itself is not named. The letter of a drive counts
where the path begins: right after the slashes, or after the slash that ends another host's name,
which is then dropped; it does not count after a third slash. -/
def readFile? (cs : List Char) : Option Place :=
  let isSlash := Path.isSlash .file
  let slashes := (cs.takeWhile isSlash).length
  let onThisMachine (path : List Char) : Place :=
    (some (.ofHost ""), (Path.read .file ['/'] path).written)
  if slashes < 2 then some (onThisMachine (cs.drop slashes))
  else
    let cs := cs.drop 2
    let name := cs.takeWhile (!isSlash ·)
    let rest := cs.drop name.length
    if Path.isDrive name then some (onThisMachine cs)
    else if name.isEmpty then some (onThisMachine rest)
    else
      (host? name).map fun host =>
        if host = "localhost" then onThisMachine rest
        else
          let walk := Path.read .file ['/'] (rest.drop 1)
          (some (.ofHost (if walk.hasDrive then "" else host)), walk.written)

/-- Reads an address of any form: one with a host, a path, or an opaque text. -/
def readOther? (isAll : Bool) (cs : List Char) : Option Place :=
  match cs with
  | '/' :: '/' :: rest => readPlace? .other none isAll rest
  | '/' :: rest => some (none, (Path.read .other ['/'] rest).written)
  | _ => some (none, percentEncode "" cs)

/-- The characters of an address that count: neither line feeds and tabs nor blanks at the ends. -/
def relevant (s : String) : List Char :=
  let isEnd (c : Char) : Bool := c.toNat ≤ 0x20
  let trimmed := ((s.toList.dropWhile isEnd).reverse.dropWhile isEnd).reverse
  trimmed.filter fun c => c ≠ '\t' && c ≠ '\n' && c ≠ '\r'

/-- Reads an address, which must have a scheme. -/
def parse? (s : String) : Option Url := do
  let (scheme, rest) ← cutScheme? (relevant s)
  let kind := kindOf scheme
  let (rest, fragment) := cutAt '#' rest
  let (rest, query) := cutAt '?' rest
  let isAll := query.isNone && fragment.isNone
  let (authority, path) ← match kind with
    | .server =>
      readPlace? kind (ports.lookup scheme) isAll (rest.dropWhile (Path.isSlash kind))
    | .file => readFile? rest
    | .other => readOther? isAll rest
  let write (others : String) (cs : List Char) : String := String.ofList (percentEncode others cs)
  return {
    scheme
    authority
    path := String.ofList path
    query := query.map (write (if kind = .other then plainQueryOthers else queryOthers))
    fragment := fragment.map (write fragmentOthers) }

end Url

end CredentialKeeper.Web
