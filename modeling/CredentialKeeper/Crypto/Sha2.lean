/-!
# The SHA-2 hash functions

A message is padded to whole blocks of sixteen words, and each block is mixed into a state of eight
words. The constants are fractions of square and cube roots of the first primes. `Sha2.sha256` and
`Sha2.sha512` differ in the size of the words, the number of rounds and the rotations.
-/

namespace CredentialKeeper.Sha2

structure Rotations where
  first : Nat
  second : Nat
  third : Nat

/-- A hash function of the family. In the small sums the third distance is that of a shift. -/
structure Variant where
  wordBits : Nat
  rounds : Nat
  choice : Rotations
  majority : Rotations
  early : Rotations
  late : Rotations

def words256 : Variant :=
  ⟨32, 64, ⟨6, 11, 25⟩, ⟨2, 13, 22⟩, ⟨7, 18, 3⟩, ⟨17, 19, 10⟩⟩

def words512 : Variant :=
  ⟨64, 80, ⟨14, 18, 41⟩, ⟨28, 34, 39⟩, ⟨1, 8, 7⟩, ⟨19, 61, 6⟩⟩

def isPrime (n : Nat) : Bool := 2 ≤ n && (List.range n).all fun d => d < 2 || n % d ≠ 0

/-- The primes below 410, of which there are eighty. -/
def primes : List Nat := (List.range 410).filter isPrime

/-- The greatest number whose power does not exceed `n`, among those with so many bits. -/
def root (power n : Nat) : Nat → Nat → Nat
  | 0, found => found
  | bits + 1, found =>
    let next := found + Nat.pow 2 bits
    root power n bits (if Nat.pow next power ≤ n then next else found)

/-- The first bits of the fraction of a root. -/
def rootFraction (power bits n : Nat) : Nat :=
  root power (n * Nat.pow 2 (power * bits)) (bits + 5) 0 % Nat.pow 2 bits

namespace Variant

variable (v : Variant)

abbrev Word := BitVec v.wordBits

def roundConstants : List v.Word :=
  (primes.take v.rounds).map fun p => BitVec.ofNat _ (rootFraction 3 v.wordBits p)

def initialState : List v.Word :=
  (primes.take 8).map fun p => BitVec.ofNat _ (rootFraction 2 v.wordBits p)

def bigSum (r : Rotations) (x : v.Word) : v.Word :=
  x.rotateRight r.first ^^^ x.rotateRight r.second ^^^ x.rotateRight r.third

def smallSum (r : Rotations) (x : v.Word) : v.Word :=
  x.rotateRight r.first ^^^ x.rotateRight r.second ^^^ x >>> r.third

/-- The words of the rounds that follow, from the last sixteen, the latest first. -/
def extend : Nat → List v.Word → List v.Word
  | 0, words => words
  | more + 1, words =>
    let at' (back : Nat) := words.getD (back - 1) 0
    let next := v.smallSum v.late (at' 2) + at' 7 + v.smallSum v.early (at' 15) + at' 16
    extend more (next :: words)

def schedule (block : List v.Word) : List v.Word :=
  (v.extend (v.rounds - 16) block.reverse).reverse

/-- One round, with the round's constant and word. -/
def round (state : List v.Word) (constant word : v.Word) : List v.Word :=
  match state with
  | [a, b, c, d, e, f, g, h] =>
    let choice := (e &&& f) ^^^ (~~~e &&& g)
    let majority := (a &&& b) ^^^ (a &&& c) ^^^ (b &&& c)
    let t₁ := h + v.bigSum v.choice e + choice + constant + word
    let t₂ := v.bigSum v.majority a + majority
    [t₁ + t₂, a, b, c, d + t₁, e, f, g]
  | _ => state

def mix (constants : List v.Word) (state : List v.Word) (block : List v.Word) : List v.Word :=
  let mixed := (constants.zip (v.schedule block)).foldl (fun s (k, w) => v.round s k w) state
  List.zipWith (· + ·) state mixed

def wordBytes : Nat := v.wordBits / 8

/-- The number that bytes write, the greatest first. -/
def ofBytes (bytes : List UInt8) : Nat := bytes.foldl (fun n b => n * 256 + b.toNat) 0

/-- The lowest bytes of a number, the greatest first. -/
def toBytes (count n : Nat) : List UInt8 :=
  (List.range count).map fun i => UInt8.ofNat (n / Nat.pow 256 (count - 1 - i))

/-- A message with a bit after it, zeros, and its length in bits in the last two words. -/
def pad (message : List UInt8) : List UInt8 :=
  let block := 16 * v.wordBytes
  let used := message.length + 1 + 2 * v.wordBytes
  let zeros := (block - used % block) % block
  message ++ 0x80 :: List.replicate zeros 0 ++ toBytes (2 * v.wordBytes) (8 * message.length)

def pieces {α : Type} (size : Nat) : Nat → List α → List (List α)
  | 0, _ => []
  | most + 1, l => if l.isEmpty then [] else l.take size :: pieces size most (l.drop size)

def hash (message : List UInt8) : List UInt8 :=
  let padded := v.pad message
  let words : List v.Word := (pieces v.wordBytes padded.length padded).map fun w =>
    BitVec.ofNat _ (ofBytes w)
  let state := (pieces 16 words.length words).foldl (v.mix v.roundConstants) v.initialState
  state.flatMap fun w => toBytes v.wordBytes w.toNat

end Variant

def sha256 (message : List UInt8) : List UInt8 := words256.hash message
def sha512 (message : List UInt8) : List UInt8 := words512.hash message

end CredentialKeeper.Sha2
