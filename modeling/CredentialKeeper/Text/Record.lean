import CredentialKeeper.Text.Quoted

/-!
# Records as text

The form in which a value shows itself to a developer: its name and its fields in order,
`Point { x: 1, y: 2 }`.
-/

namespace CredentialKeeper.Text

def fieldText (f : String × String) : String := f.1 ++ ": " ++ f.2

/-- A value by its name and all of its fields. -/
def record (name : String) (fields : List (String × String)) : String :=
  name ++ " \x7b " ++ ", ".intercalate (fields.map fieldText) ++ " \x7d"

/-- A value by its name and some of its fields; dots stand for the others. -/
def openRecord (name : String) (fields : List (String × String)) : String :=
  name ++ " \x7b " ++ ", ".intercalate (fields.map fieldText) ++ ", .. \x7d"

def wrapped (name part : String) : String := name ++ "(" ++ part ++ ")"

end CredentialKeeper.Text
