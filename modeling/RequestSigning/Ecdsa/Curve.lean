import RequestSigning.Modular
import RequestSigning.Bytes

/-!
# The NIST curves over prime fields

The curves P-256, P-384 and P-521, all of the form `y² = x³ - 3x + b`. Points are multiplied
by doubling and adding in Jacobian coordinates, in which `(x, y, z)` stands for the affine
point `(x / z², y / z³)` and `z = 0` for the point at infinity. A point's encoded form is a
tag byte and its coordinates in the width of the field.
-/

namespace RequestSigning.Ecdsa

/-- The **curves** a key may be on. -/
inductive Curve
  | p256
  | p384
  | p521
  deriving DecidableEq, Repr

namespace Curve

/-- The curves, in order of size. -/
def all : List Curve := [p256, p384, p521]

/-- Bytes in an encoded field element. -/
def size : Curve → Nat
  | p256 => 32
  | p384 => 48
  | p521 => 66

/-- The prime of the field. -/
def prime : Curve → Nat
  | p256 => 0xffffffff00000001000000000000000000000000ffffffffffffffffffffffff
  | p384 =>
    0xfffffffffffffffffffffffffffffffffffffffffffffffffffffffffffffffeffffffff0000000000000000ffffffff
  | p521 => (1 <<< 521) - 1

/-- The number of points on the curve, which is prime. -/
def order : Curve → Nat
  | p256 => 0xffffffff00000000ffffffffffffffffbce6faada7179e84f3b9cac2fc632551
  | p384 =>
    0xffffffffffffffffffffffffffffffffffffffffffffffffc7634d81f4372ddf581a0db248b0a77aecec196accc52973
  | p521 =>
    0x01fffffffffffffffffffffffffffffffffffffffffffffffffffffffffffffffffa51868783bf2f966b7fcc0148f709a5d03bb5c9b8899c47aebb6fb71e91386409

/-- The abscissa of the base point. -/
def baseX : Curve → Nat
  | p256 => 0x6b17d1f2e12c4247f8bce6e563a440f277037d812deb33a0f4a13945d898c296
  | p384 =>
    0xaa87ca22be8b05378eb1c71ef320ad746e1d3b628ba79b9859f741e082542a385502f25dbf55296c3a545e3872760ab7
  | p521 =>
    0xc6858e06b70404e9cd9e3ecb662395b4429c648139053fb521f828af606b4d3dbaa14b5e77efe75928fe1dc127a2ffa8de3348b3c1856a429bf97e7e31c2e5bd66

/-- The ordinate of the base point. -/
def baseY : Curve → Nat
  | p256 => 0x4fe342e2fe1a7f9b8ee7eb4a7c0f9e162bce33576b315ececbb6406837bf51f5
  | p384 =>
    0x3617de4a96262c6f5d9e98bf9292dc29f8f41dbd289a147ce9da3113b5f0b8c00a60b1ce1d7e819d7a431d7c90ea0e5f
  | p521 =>
    0x11839296a789a3bc0045c8a5fb42c7d1bd998f54449579b446817afbd17273e662c97ee72995ef42640c550b9013fad0761353c7086a272c24088be94769fd16650

/-- The name of the curve in key files and on the wire. -/
def name : Curve → String
  | p256 => "nistp256"
  | p384 => "nistp384"
  | p521 => "nistp521"

/-- The content of the curve's object identifier. -/
def identifier : Curve → Bytes
  | p256 => [0x2A, 0x86, 0x48, 0xCE, 0x3D, 0x03, 0x01, 0x07]
  | p384 => [0x2B, 0x81, 0x04, 0x00, 0x22]
  | p521 => [0x2B, 0x81, 0x04, 0x00, 0x23]

end Curve

/-! ### Points -/

/-- A point in Jacobian coordinates. -/
structure Point where
  x : Nat
  y : Nat
  z : Nat

namespace Point

/-- The point at infinity. -/
def infinity : Point := ⟨1, 1, 0⟩

/-- The base point of a curve. -/
def base (curve : Curve) : Point := ⟨curve.baseX, curve.baseY, 1⟩

/-- The difference of two remainders. -/
def minus (p a b : Nat) : Nat := (a + (p - b)) % p

/-- The sum of a point with itself. -/
def double (p : Nat) (a : Point) : Point :=
  let delta := a.z * a.z % p
  let gamma := a.y * a.y % p
  let beta := a.x * gamma % p
  let alpha := 3 * (minus p a.x delta * (a.x + delta)) % p
  let x := minus p (alpha * alpha % p) (8 * beta % p)
  let z := minus p ((a.y + a.z) * (a.y + a.z) % p) ((gamma + delta) % p)
  let y := minus p (alpha * minus p (4 * beta % p) x % p) (8 * (gamma * gamma) % p)
  ⟨x, y, z⟩

/-- The sum of two points. -/
def add (p : Nat) (a b : Point) : Point :=
  if a.z = 0 then b
  else if b.z = 0 then a
  else
    let za := a.z * a.z % p
    let zb := b.z * b.z % p
    let ua := a.x * zb % p
    let ub := b.x * za % p
    let sa := a.y * (zb * b.z % p) % p
    let sb := b.y * (za * a.z % p) % p
    if ua = ub then
      if sa = sb then double p a else infinity
    else
      let h := minus p ub ua
      let r := minus p sb sa
      let hh := h * h % p
      let hhh := hh * h % p
      let v := ua * hh % p
      let x := minus p (minus p (r * r % p) hhh) (2 * v % p)
      let y := minus p (r * minus p v x % p) (sa * hhh % p)
      ⟨x, y, a.z * b.z % p * h % p⟩

/-- A multiple of a point. -/
def times (p : Nat) (n : Nat) (a : Point) : Point :=
  if n = 0 then infinity
  else
    let twice := double p (times p (n / 2) a)
    if n % 2 = 1 then add p twice a else twice
termination_by n
decreasing_by omega

/-- The affine coordinates of a point; those of the point at infinity are zero. -/
def affine (p : Nat) (a : Point) : Nat × Nat :=
  let inverse := Modular.powMod a.z (p - 2) p
  let square := inverse * inverse % p
  (a.x * square % p, a.y * (square * inverse % p) % p)

end Point

/-! ### Encoded points -/

/-- The affine point that a scalar stands for: that multiple of the base point. -/
def publicPoint (curve : Curve) (scalar : Nat) : Nat × Nat :=
  (Point.times curve.prime scalar (Point.base curve)).affine curve.prime

/-- The encoded form of a point with both coordinates. -/
def uncompressed (curve : Curve) (point : Nat × Nat) : Bytes :=
  0x04 :: (Bytes.ofNat curve.size point.1 ++ Bytes.ofNat curve.size point.2)

/-- The encoded form of a point with its abscissa and the parity of its ordinate. -/
def compressed (curve : Curve) (point : Nat × Nat) : Bytes :=
  (if point.2 % 2 = 0 then 0x02 else 0x03) :: Bytes.ofNat curve.size point.1

end RequestSigning.Ecdsa
