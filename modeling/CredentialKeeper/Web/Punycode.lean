/-!
# Names of other scripts in ASCII

A label with characters beyond ASCII is written as its ASCII characters and then, as numbers, where
the others come in: the least code point first, each number being the way from the place before. A
number's digits have weights that follow the size of the numbers before it (`adapt`), and its last
digit is the one below its `threshold`. `encode` writes labels so, and `decode?` reads what comes
after the mark of such a label.
-/

namespace CredentialKeeper.Web.Punycode

def digit (n : Nat) : Char := if n < 26 then Char.ofNat (97 + n) else Char.ofNat (22 + n)

/-- Below this the `k`th digit is the last one. -/
def threshold (bias k : Nat) : Nat :=
  if k ≤ bias then 1 else if bias + 26 ≤ k then 26 else k - bias

theorem threshold_pos (bias k : Nat) : 0 < threshold bias k := by
  unfold threshold
  grind

/-- A number in digits whose weights depend on a bias. -/
def digits (bias k q : Nat) : List Char :=
  let t := threshold bias k
  if q < t then [digit q]
  else digit (t + (q - t) % (36 - t)) :: digits bias (k + 36) ((q - t) / (36 - t))
termination_by q
decreasing_by
  have := threshold_pos bias k
  have := Nat.div_le_self (q - threshold bias k) (36 - threshold bias k)
  omega

/-- The bias for numbers of the size of `d`. -/
def biasOf (k d : Nat) : Nat :=
  if 455 < d then biasOf (k + 36) (d / 35) else k + 36 * d / (d + 38)
termination_by d

/-- The bias for the next number, from the last one and the count of characters by now. -/
def adapt (delta count : Nat) (isFirst : Bool) : Nat :=
  let d := if isFirst then delta / 700 else delta / 2
  biasOf 0 (d + d / count)

structure Progress where
  written : List Char
  delta : Nat
  bias : Nat
  /-- The characters that are in place. -/
  count : Nat

/-- Passes a code point of the label on the way to the places of `next`; `basic` is the count of
ASCII characters. -/
def pass (basic next : Nat) (p : Progress) (c : Nat) : Progress :=
  if c < next then { p with delta := p.delta + 1 }
  else if c = next then
    { written := p.written ++ digits p.bias 36 p.delta
      delta := 0
      bias := adapt p.delta (p.count + 1) (p.count = basic)
      count := p.count + 1 }
  else p

/-- Puts in the code points beyond ASCII, given in their order; `least` is the first code point that
is not in place. -/
def putIn (label : List Nat) (basic : Nat) : List Nat → (least : Nat) → Progress → List Char
  | [], _, p => p.written
  | next :: later, least, p =>
    let p := { p with delta := p.delta + (next - least) * (p.count + 1) }
    let p := label.foldl (pass basic next) p
    putIn label basic later (next + 1) { p with delta := p.delta + 1 }

def encode (label : List Char) : List Char :=
  let points := label.map Char.toNat
  match (points.filter (128 ≤ ·)).mergeSort.eraseReps with
  | [] => label
  | beyond =>
    let basic := label.filter (·.toNat < 128)
    "xn--".toList ++ basic ++ (if basic.isEmpty then [] else ['-']) ++
      putIn points basic.length beyond 128 ⟨[], 0, 72, basic.length⟩

/-! ## Reading -/

def digitValue? (c : Char) : Option Nat :=
  if 'a' ≤ c ∧ c ≤ 'z' then some (c.toNat - 97)
  else if '0' ≤ c ∧ c ≤ '9' then some (c.toNat - 22)
  else none

/-- Numbers of 32 bits count. -/
def limit : Nat := 4294967296

/-- Reads the digits of a number, of which the `k`th has a weight, and adds it to `sum`. -/
def readNumber? (bias k weight sum : Nat) : List Char → Option (Nat × List Char)
  | [] => none
  | c :: rest =>
    match digitValue? c with
    | none => none
    | some d =>
      let sum := sum + d * weight
      let t := threshold bias k
      let heavier := weight * (36 - t)
      if limit ≤ sum then none
      else if d < t then some (sum, rest)
      else if limit ≤ heavier then none
      else readNumber? bias (k + 36) heavier sum rest

theorem length_lt_of_readNumber? {bias k weight sum n : Nat} {cs rest : List Char}
    (h : readNumber? bias k weight sum cs = some (n, rest)) : rest.length < cs.length := by
  induction cs generalizing k weight sum with
  | nil => simp [readNumber?] at h
  | cons c cs ih =>
    unfold readNumber? at h
    split at h
    · simp at h
    · grind

/-- Puts characters into a label as numbers say: `start` is where the next character would come in
if its number were zero, and `code` its code point. -/
def takeIn? (label : List Char) (code start bias : Nat) (isFirst : Bool) (cs : List Char) :
    Option (List Char) :=
  if cs.isEmpty then some label
  else
    match _h : readNumber? bias 36 1 start cs with
    | none => none
    | some (sum, rest) =>
      let count := label.length + 1
      let code := code + sum / count
      let place := sum % count
      if code.isValidChar then
        takeIn? (label.take place ++ Char.ofNat code :: label.drop place) code (place + 1)
          (adapt (sum - start) count isFirst) false rest
      else none
termination_by cs.length
decreasing_by exact length_lt_of_readNumber? ‹_›

/-- The label that is written so. The last hyphen, if there are characters before it, ends those in
ASCII. -/
def decode? (cs : List Char) : Option (List Char) :=
  let numbers := (cs.reverse.takeWhile (· ≠ '-')).reverse
  let basic := cs.take (cs.length - numbers.length - 1)
  if basic.isEmpty then takeIn? [] 128 0 72 true cs
  else takeIn? basic 128 0 72 true numbers

end CredentialKeeper.Web.Punycode
