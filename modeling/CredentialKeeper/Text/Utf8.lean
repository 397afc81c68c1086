/-!
# UTF-8

The bytes of a text.
-/

namespace CredentialKeeper.Text

def utf8 (cs : List Char) : List UInt8 := cs.flatMap String.utf8EncodeChar

end CredentialKeeper.Text
