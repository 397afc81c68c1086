import CredentialKeeper.Text.Utf8

/-!
# Files

The files of a folder and of the folders in it, by their paths. Reading a file as text says why it
cannot be read in the words of the operating system, which walks a path part by part.
-/

namespace CredentialKeeper

inductive FileEntry where
  | file (bytes : ByteArray)
  | folder

/-- Files by the parts of their paths. The first entry for a path counts. -/
structure Files where
  entries : List (List String × FileEntry)

inductive ReadError where
  | notFound
  | notFolder
  | isFolder
  | nameTooLong
  | nulInName
  | notText
deriving DecidableEq

def ReadError.message : ReadError → String
  | notFound => "No such file or directory (os error 2)"
  | notFolder => "Not a directory (os error 20)"
  | isFolder => "Is a directory (os error 21)"
  | nameTooLong => "File name too long (os error 36)"
  | nulInName => "file name contained an unexpected NUL byte"
  | notText => "stream did not contain valid UTF-8"

namespace Files

def empty : Files := ⟨[]⟩

/-- The parts of a path between slashes. -/
def splitPath : List Char → List (List Char)
  | [] => [[]]
  | c :: rest =>
    match splitPath rest with
    | [] => []
    | part :: parts => if c = '/' then [] :: part :: parts else (c :: part) :: parts

def parts (path : String) : List String := (splitPath path.toList).map String.ofList

/-- The parts of a path that lead anywhere. -/
def normal (path : String) : List String := (parts path).filter fun p => p ≠ "" && p ≠ "."

/-- Puts a file or a folder under a path, or removes what is there. -/
def set (files : Files) (path : String) (entry : Option FileEntry) : Files :=
  let others := files.entries.filter (·.1 ≠ normal path)
  ⟨match entry with
    | some e => (normal path, e) :: others
    | none => others⟩

/-- What is under a path, if anything is. A folder is also there when a file lies in it. -/
def find? (files : Files) (path : List String) : Option FileEntry :=
  match files.entries.find? (·.1 = path) with
  | some e => some e.2
  | none => if path = [] || files.entries.any (path.isPrefixOf ·.1) then some .folder else none

def walk (files : Files) (reached : List String) : List String → Except ReadError ByteArray
  | [] =>
    match files.find? reached with
    | some (.file bytes) => .ok bytes
    | some .folder => .error .isFolder
    | none => .error .notFound
  | part :: rest =>
    match files.find? reached with
    | some (.file _) => .error .notFolder
    | none => .error .notFound
    | some .folder =>
      if part = "" || part = "." then walk files reached rest
      else if part = ".." then walk files reached.dropLast rest
      else if 255 < part.utf8ByteSize then .error .nameTooLong
      else walk files (reached ++ [part]) rest

/-- The bytes of a file. A path that begins with a slash leads nowhere but to the top folder. -/
def read (files : Files) (path : String) : Except ReadError ByteArray :=
  if path.toList.contains '\x00' then .error .nulInName
  else if path.isEmpty then .error .notFound
  else if 4096 ≤ path.utf8ByteSize then .error .nameTooLong
  else if path.startsWith "/" then .error (if normal path = [] then .isFolder else .notFound)
  else files.walk [] (parts path)

def readText (files : Files) (path : String) : Except ReadError String :=
  match files.read path with
  | .error e => .error e
  | .ok bytes =>
    match String.fromUTF8? bytes with
    | some text => .ok text
    | none => .error .notText

end Files

end CredentialKeeper
