import CredentialKeeper.Crypto.Modular
import CredentialKeeper.Crypto.Sha2

/-!
# Public keys on elliptic curves

The public half of a private key on one of the two prime curves in common use for signatures, and of
one on the Edwards curve of Ed25519. Points are kept in fractions, so that only the last step needs
a division.
-/

namespace CredentialKeeper.Curve

/-- A curve `y² = x³ - 3x + b` over a prime field, with a generator and its order. -/
structure Weierstrass where
  prime : Nat
  order : Nat
  generatorX : Nat
  generatorY : Nat
  size : Nat

def p256 : Weierstrass where
  prime := 0xffffffff00000001000000000000000000000000ffffffffffffffffffffffff
  order := 0xffffffff00000000ffffffffffffffffbce6faada7179e84f3b9cac2fc632551
  generatorX := 0x6b17d1f2e12c4247f8bce6e563a440f277037d812deb33a0f4a13945d898c296
  generatorY := 0x4fe342e2fe1a7f9b8ee7eb4a7c0f9e162bce33576b315ececbb6406837bf51f5
  size := 32

def p384 : Weierstrass where
  prime := 0xfffffffffffffffffffffffffffffffffffffffffffffffffffffffffffffffeffffffff0000000000000000ffffffff
  order := 0xffffffffffffffffffffffffffffffffffffffffffffffffc7634d81f4372ddf581a0db248b0a77aecec196accc52973
  generatorX := 0xaa87ca22be8b05378eb1c71ef320ad746e1d3b628ba79b9859f741e082542a385502f25dbf55296c3a545e3872760ab7
  generatorY := 0x3617de4a96262c6f5d9e98bf9292dc29f8f41dbd289a147ce9da3113b5f0b8c00a60b1ce1d7e819d7a431d7c90ea0e5f
  size := 48

/-- A point `(x / z², y / z³)`; the one at infinity has `z = 0`. -/
structure Point where
  x : Nat
  y : Nat
  z : Nat

namespace Weierstrass

variable (c : Weierstrass)

def infinity : Point := ⟨1, 1, 0⟩

def double (p : Point) : Point :=
  let m := c.prime
  let yy := p.y * p.y % m
  let s := 4 * p.x * yy % m
  let zz := p.z * p.z % m
  let slope := 3 * Modular.sub p.x zz m * (p.x + zz) % m
  let x := Modular.sub (slope * slope) (2 * s) m
  ⟨x, Modular.sub (slope * Modular.sub s x m) (8 * yy * yy) m, 2 * p.y * p.z % m⟩

def add (p q : Point) : Point :=
  let m := c.prime
  if p.z = 0 then q
  else if q.z = 0 then p
  else
    let pz := p.z * p.z % m
    let qz := q.z * q.z % m
    let u := p.x * qz % m
    let s := p.y * qz % m * q.z % m
    let h := Modular.sub (q.x * pz) u m
    let r := Modular.sub (q.y * pz % m * p.z) s m
    if h = 0 then (if r = 0 then c.double p else infinity)
    else
      let hh := h * h % m
      let hhh := hh * h % m
      let v := u * hh % m
      let x := Modular.sub (r * r) (hhh + 2 * v) m
      ⟨x, Modular.sub (r * Modular.sub v x m) (s * hhh) m, h * p.z % m * q.z % m⟩

def multiply (n : Nat) (p : Point) : Point :=
  if n = 0 then infinity
  else
    let half := multiply (n / 2) (c.double p)
    if n % 2 = 1 then c.add p half else half
termination_by n
decreasing_by omega

/-- The public key of a private one, both coordinates after a byte that says so. The private key
must be positive and below the order of the generator, in as many bytes as a coordinate has. -/
def publicKey? (privateKey : List UInt8) : Option (List UInt8) :=
  let n := Sha2.Variant.ofBytes privateKey
  if privateKey.length ≠ c.size || n = 0 || c.order ≤ n then none
  else
    let p := c.multiply n ⟨c.generatorX, c.generatorY, 1⟩
    let inverse := Modular.inverse p.z c.prime
    let square := inverse * inverse % c.prime
    let x := p.x * square % c.prime
    let y := p.y * square % c.prime * inverse % c.prime
    some (4 :: Sha2.Variant.toBytes c.size x ++ Sha2.Variant.toBytes c.size y)

end Weierstrass

namespace Edwards

def prime : Nat := Nat.pow 2 255 - 19

/-- The parameter of the curve `-x² + y² = 1 + d x² y²`. -/
def d : Nat := Modular.sub 0 (121665 * Modular.inverse 121666 prime) prime

def base : Point where
  x := 0x216936d3cd6e53fec0a4e231fdd6dc5c692cc7609525a7b2c9562d608f25d51a
  y := 0x6666666666666666666666666666666666666666666666666666666666666658
  z := 1

/-- The sum of two points `(x / z, y / z)`. -/
def add (p q : Point) : Point :=
  let m := prime
  let a := p.z * q.z % m
  let b := a * a % m
  let c := p.x * q.x % m
  let e := p.y * q.y % m
  let f := d * c % m * e % m
  let g := Modular.sub b f m
  let h := (b + f) % m
  ⟨a * g % m * Modular.sub ((p.x + p.y) * (q.x + q.y)) (c + e) m % m,
    a * h % m * ((e + c) % m) % m, g * h % m⟩

def multiply (n : Nat) (p : Point) : Point :=
  if n = 0 then ⟨0, 1, 1⟩
  else
    let half := multiply (n / 2) (add p p)
    if n % 2 = 1 then add p half else half
termination_by n
decreasing_by omega

/-- The public key of a seed of 32 bytes: half of its hash, with five bits put in place, is the
multiple of the base, of which the second coordinate and the parity of the first are written. -/
def publicKey? (seed : List UInt8) : Option (List UInt8) :=
  if seed.length ≠ 32 then none
  else
    let hash := Sha2.Variant.ofBytes ((Sha2.sha512 seed).take 32).reverse
    let n := hash % Nat.pow 2 254 / 8 * 8 + Nat.pow 2 254
    let p := multiply n base
    let inverse := Modular.inverse p.z prime
    let x := p.x * inverse % prime
    let y := p.y * inverse % prime
    some (Sha2.Variant.toBytes 32 (y + x % 2 * Nat.pow 2 255)).reverse

end Edwards

end CredentialKeeper.Curve
