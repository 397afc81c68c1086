/-!
# The process environment

The variables of an environment hold arbitrary bytes. A variable whose bytes are not UTF-8 text
reads as if it were not set.
-/

namespace CredentialKeeper

/-- Variables and their bytes. The first entry for a name counts. -/
structure Environment where
  entries : List (String × ByteArray)

namespace Environment

def empty : Environment := ⟨[]⟩

def bytes? (env : Environment) (key : String) : Option ByteArray := env.entries.lookup key

def text? (env : Environment) (key : String) : Option String :=
  (env.bytes? key).bind String.fromUTF8?

end Environment

end CredentialKeeper
