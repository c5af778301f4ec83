import RequestSigning.Der
import RequestSigning.Digest.Sha2
import RequestSigning.Ecdsa.Curve

/-!
# ECDSA

Signatures over a prehashed message. For P-256 and P-384 the nonce is derived from the key and
the digest by the keyed digest HMAC, so that a key has one signature for each message; for P-521
the nonce is drawn by the caller. A signature is written as a sequence of its two numbers.
-/

namespace RequestSigning

/-! ### Keyed digests -/

/-- A **message digest** with the size of the blocks it works on. -/
structure Digest where
  /-- The digest of a message. -/
  hash : Bytes → Bytes
  /-- Bytes in a block. -/
  block : Nat

namespace Digest

/-- SHA-256. -/
def sha256 : Digest := ⟨Sha2.sha256, 64⟩

/-- SHA-384. -/
def sha384 : Digest := ⟨Sha2.sha384, 128⟩

/-- The keyed digest of a message. -/
def hmac (digest : Digest) (key message : Bytes) : Bytes :=
  let short := if key.length ≤ digest.block then key else digest.hash key
  let key := short ++ List.replicate (digest.block - short.length) 0
  let inner := digest.hash (key.map (· ^^^ 0x36) ++ message)
  digest.hash (key.map (· ^^^ 0x5c) ++ inner)

end Digest

namespace Ecdsa

/-! ### Keys and signatures -/

/-- A private **key**: a curve and a scalar from one up to, and not including, its order. -/
structure PrivateKey where
  curve : Curve
  scalar : Nat
  scalar_pos : 0 < scalar
  scalar_lt : scalar < curve.order

/-- The key of a scalar, if the scalar is in range. -/
def PrivateKey.ofScalar? (curve : Curve) (scalar : Nat) : Option PrivateKey :=
  if h : 0 < scalar ∧ scalar < curve.order then some ⟨curve, scalar, h.1, h.2⟩ else none

/-- The two numbers of a signature. -/
structure Signature where
  r : Nat
  s : Nat
  deriving DecidableEq, Repr

/-- The number signed for a message digest: its leftmost bytes in the width of the field. -/
def hashNumber (curve : Curve) (digest : Bytes) : Nat :=
  Bytes.toNat (digest.take curve.size) % curve.order

/-! ### Deterministic nonces -/

/-- The generator's state. -/
structure NonceState where
  key : Bytes
  value : Bytes

/-- Mixes data into the state. -/
def NonceState.mix (digest : Digest) (state : NonceState) (data : Bytes) : NonceState :=
  let key := digest.hmac state.key (state.value ++ data)
  ⟨key, digest.hmac key state.value⟩

/-- The first number the generator gives that is a nonce, if one of the next `tries` is. -/
def NonceState.next? (digest : Digest) (order : Nat) : Nat → NonceState → Option Nat
  | 0, _ => none
  | tries + 1, state =>
    let value := digest.hmac state.key state.value
    let k := Bytes.toNat value
    if 0 < k ∧ k < order then some k
    else next? digest order tries (NonceState.mix digest ⟨state.key, value⟩ [0x00])

/-- The nonce derived from a key and the number to sign. The digest is as wide as the field;
all but a fraction below 2⁻³² of its values are nonces, and the generator is asked 128 times. -/
def derivedNonce? (digest : Digest) (key : PrivateKey) (z : Nat) : Option Nat :=
  let size := key.curve.size
  let seed := Bytes.ofNat size key.scalar ++ Bytes.ofNat size z
  let start : NonceState := ⟨List.replicate size 0x00, List.replicate size 0x01⟩
  let first := start.mix digest (0x00 :: seed)
  let second := first.mix digest (0x01 :: seed)
  second.next? digest key.curve.order 128

/-- The nonce for a signature; `draw` is the caller's random number. -/
def nonce? (key : PrivateKey) (z draw : Nat) : Option Nat :=
  match key.curve with
  | .p256 => derivedNonce? .sha256 key z
  | .p384 => derivedNonce? .sha384 key z
  | .p521 =>
    let k := draw % key.curve.order
    if k = 0 then none else some k

/-! ### Signing -/

/-- The signature of a message digest, unless the nonce gives a zero. -/
def sign? (key : PrivateKey) (digest : Bytes) (draw : Nat) : Option Signature := do
  let n := key.curve.order
  let z := hashNumber key.curve digest
  let k ← nonce? key z draw
  let r := (publicPoint key.curve k).1 % n
  let inverse ← Modular.inverse? k n
  let s := inverse * (z + r * key.scalar) % n
  if r = 0 ∨ s = 0 then none else some ⟨r, s⟩

/-- Whether a signature of a message digest was made with the key whose affine public point is
given. -/
def verify (curve : Curve) (point : Nat × Nat) (digest : Bytes) (signature : Signature) : Bool :=
  let n := curve.order
  let p := curve.prime
  let z := hashNumber curve digest
  if 0 < signature.r ∧ signature.r < n ∧ 0 < signature.s ∧ signature.s < n then
    match Modular.inverse? signature.s n with
    | some w =>
      let sum := Point.add p (Point.times p (z * w % n) (Point.base curve))
        (Point.times p (signature.r * w % n) ⟨point.1, point.2, 1⟩)
      sum.z != 0 && (sum.affine p).1 % n == signature.r
    | none => false
  else false

/-! ### Encoding -/

/-- A signature as a sequence of two integers. -/
def Signature.encode (signature : Signature) : Bytes :=
  Der.element Der.sequenceTag (Der.unsigned signature.r ++ Der.unsigned signature.s)

/-- The signature of an encoding. -/
def Signature.decode? (bytes : Bytes) : Option Signature := do
  let content ← Der.whole? Der.sequenceTag bytes
  let (r, rest) ← Der.readUnsigned? content
  let (s, rest) ← Der.readUnsigned? rest
  if rest = [] then some ⟨r, s⟩ else none

end Ecdsa

end RequestSigning
