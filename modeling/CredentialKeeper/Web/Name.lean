import CredentialKeeper.Text.Composed
import CredentialKeeper.Text.Mark
import CredentialKeeper.Web.Direction
import CredentialKeeper.Web.Folding
import CredentialKeeper.Web.Joining
import CredentialKeeper.Web.Punycode

/-!
# Host names

A host name is labels between dots. Its normal form (`asciiName?`) is in ASCII: its characters are
folded and composed, and labels with characters beyond ASCII are written as numbers after the mark
`xn--`. A label that comes with the mark must be one that could have been written so.
-/

namespace CredentialKeeper.Web

def isForbidden (c : Char) : Bool :=
  c.toNat ≤ 0x20 || c.toNat = 0x7f || "#/:<>?@[\\]^|%".toList.contains c

def labelMark : List Char := "xn--".toList

/-- The composed form of what stands for the characters of a name. -/
def foldName? (name : List Char) : Option (List Char) :=
  (name.mapM fold?).map fun cs => Text.composed cs.flatten

/-- The characters of a label that is written in ASCII: one with the mark has some beyond ASCII, and
folding leaves it as it is. -/
def readLabel? (label : List Char) : Option (List Char) :=
  if !labelMark.isPrefixOf label then some label
  else
    let written := label.drop 4
    if written.getLastD '-' = '-' || 2000 < written.length || written.any (127 < ·.toNat) then none
    else
      (Punycode.decode? written).filter fun cs =>
        foldName? cs = some cs && !cs.any fun c => c = '.' || isForbidden c

/-- A label that may stand in a name, apart from its directions. -/
def isLabel (label : List Char) : Bool :=
  !label.any isForbidden && !label.head?.any Text.isMark && joinersFit label &&
    (label.all (·.toNat < 128) || label.length ≤ 1000)

/-- The normal form of a name. A name in ASCII without marked labels only gets small letters. -/
def asciiName? (name : List Char) : Option (List Char) :=
  let small := name.map Char.toLower
  if small.all (·.toNat < 128) && !(small.splitOn '.').any (labelMark.isPrefixOf ·) then
    if small.any isForbidden then none else some small
  else
    match foldName? name with
    | none => none
    | some folded =>
      match (folded.splitOn '.').mapM readLabel? with
      | none => none
      | some labels =>
        if labels.all isLabel && keepDirections labels then
          some (['.'].intercalate (labels.map Punycode.encode))
        else none

end CredentialKeeper.Web
