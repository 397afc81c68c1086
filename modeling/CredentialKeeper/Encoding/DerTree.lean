import CredentialKeeper.Encoding.Der
import CredentialKeeper.Encoding.DerContents

/-!
# Trees of tagged values

Bytes as a forest: sequences hold further values, and of the others only identifiers and strings of
bytes or bits are told apart. A forest holds at least one value, also within a sequence.
-/

namespace CredentialKeeper.Der

/-- A value with the values in it. -/
inductive Tree where
  | sequence (parts : List Tree)
  | objectId (arcs : List Nat)
  | bytes (contents : List UInt8)
  | other

def treeLength? : List UInt8 → Option (Nat × List UInt8)
  | [] => none
  | b :: rest =>
    if b.toNat < 128 then some (b.toNat, rest)
    else
      let count := b.toNat - 128
      if 8 < count || rest.length < count then none
      else some (Strict.toNat (rest.take count), rest.drop count)

/-- A number of seven bits a byte, of which all but the last have the top bit, and what follows. -/
def sevenBitNumber? (n : Nat) : List UInt8 → Option (Nat × List UInt8)
  | [] => none
  | b :: rest =>
    let n := n * 128 + b.toNat % 128
    if b.toNat < 128 then some (n, rest) else sevenBitNumber? n rest

/-- A tag: whether it is of the universal class, and its number. -/
def treeTag? : List UInt8 → Option ((Bool × Nat) × List UInt8)
  | [] => none
  | b :: rest =>
    let number? := if b.toNat % 32 = 31 then sevenBitNumber? 0 rest else some (b.toNat % 32, rest)
    number?.map fun (number, rest) => ((b.toNat < 64, number), rest)

/-- The arcs of an identifier, if the last one ends. The first byte holds the first two arcs. -/
def treeArcs? : List UInt8 → Option (List Nat)
  | [] => none
  | b :: rest =>
    let first := min (b.toNat / 40) 2
    if rest.getLast?.all (·.toNat < 128) then
      some (first :: (b.toNat - 40 * first) :: arcsOf 0 rest)
    else none
where
  /-- The numbers of seven bits a byte, after the beginning of the first one. -/
  arcsOf (n : Nat) : List UInt8 → List Nat
    | [] => []
    | b :: rest =>
      let n := n * 128 + b.toNat % 128
      if b.toNat < 128 then n :: arcsOf 0 rest else arcsOf n rest

/-- The forest that bytes write, if they do; the first argument bounds its depth and width. -/
def forest? : Nat → List UInt8 → Option (List Tree)
  | 0, _ => none
  | fuel + 1, bytes =>
    match treeTag? bytes with
    | none => none
    | some ((isUniversal, tag), rest) =>
      match treeLength? rest with
      | none => none
      | some (length, rest) =>
        if rest.length < length then none
        else
          let contents := rest.take length
          let first? : Option Tree :=
            if !isUniversal then some .other
            else if tag = sequenceTag then (forest? fuel contents).map .sequence
            else if tag = setTag then (forest? fuel contents).map fun _ => .other
            else if tag = objectIdTag then (treeArcs? contents).map .objectId
            else if !allows tag contents then none
            else if tag = bitStringTag then some (.bytes contents.tail)
            else if tag = octetStringTag then some (.bytes contents)
            else some .other
          let after := rest.drop length
          match first? with
          | none => none
          | some first =>
            if after.isEmpty then some [first] else (forest? fuel after).map (first :: ·)

def trees? (bytes : List UInt8) : Option (List Tree) := forest? (bytes.length + 1) bytes

mutual

/-- What the first value that `look` accepts gives, going into sequences. -/
def Tree.first? {α : Type} (look : Tree → Option α) : Tree → Option α
  | .sequence parts => firstOf? look parts
  | t => look t

/-- The same for the values of a forest in turn. -/
def firstOf? {α : Type} (look : Tree → Option α) : List Tree → Option α
  | [] => none
  | t :: rest =>
    match t.first? look with
    | some a => some a
    | none => firstOf? look rest

end

/-- The contents of the first string of bytes or bits. -/
def firstBytes? (forest : List Tree) : Option (List UInt8) :=
  firstOf? (fun
    | .bytes contents => some contents
    | _ => none) forest

def firstObjectId? (ids : List (List Nat)) (forest : List Tree) : Option (List Nat) :=
  firstOf? (fun
    | .objectId arcs => if ids.contains arcs then some arcs else none
    | _ => none) forest

end CredentialKeeper.Der
