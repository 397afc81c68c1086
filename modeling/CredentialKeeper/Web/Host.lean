import CredentialKeeper.Web.Name
import CredentialKeeper.Web.NumericHost

/-!
# Hosts

The host of an address in its normal form: a name or a number, or any text where the scheme gives
hosts no meaning.
-/

namespace CredentialKeeper.Web

/-- A number between brackets. -/
def bracketed? (text : List Char) : Option String :=
  if text.getLast? = some ']' then (groups? text.tail.dropLast).map groupsText else none

/-- The normal form of a host. -/
def host? (text : List Char) : Option String :=
  if text.head? = some '[' then bracketed? text
  else
    match String.fromUTF8? ⟨(percentDecode text).toArray⟩ with
    | none => none
    | some name =>
      match asciiName? name.toList with
      | none => none
      | some ascii =>
        if ascii.isEmpty then none
        else if endsInNumber ascii then (word? ascii).map wordText
        else some (String.ofList ascii)

/-- The normal form of a host without a meaning. -/
def opaqueHost? (text : List Char) : Option String :=
  if text.head? = some '[' then bracketed? text
  else if text.any fun c => c = '\x00' || "\t\n\r #/:<>?@[\\]^|".toList.contains c then none
  else some (String.ofList (percentEncode "" text))

end CredentialKeeper.Web
