import RequestSigning.Bytes
import RequestSigning.Digest.Sha2
import RequestSigning.Modular

/-!
# RSA

Private keys with two factors, and PKCS#1 v1.5 signatures over a SHA-512 digest. A key's
numbers are checked against each other, though not the factors for being prime; a signature
is raised to the public exponent and compared with the padded message before it is given out,
so a key that is no RSA key gives none.
-/

namespace RequestSigning.Rsa

/-! ### Keys -/

/-- The five numbers of a private key: modulus, public and private exponent, and the two
factors. -/
structure Numbers where
  n : Nat
  e : Nat
  d : Nat
  p : Nat
  q : Nat
  deriving DecidableEq, Repr

/-- Why numbers are refused as a key. -/
inductive KeyFault
  | exponentTooLarge
  | exponentTooSmall
  | invalidModulus
  | invalidExponent
  | invalidFactor
  deriving DecidableEq, Repr

/-- The words for a fault. -/
def KeyFault.message : KeyFault → String
  | .exponentTooLarge => "public exponent too large"
  | .exponentTooSmall => "public exponent too small"
  | .invalidModulus => "invalid modulus"
  | .invalidExponent => "invalid exponent"
  | .invalidFactor => "invalid prime value"

/-- The first fault found in the public half. -/
def publicFault? (n e : Nat) : Option KeyFault :=
  if 0x10000000000000000 ≤ e then some .exponentTooLarge
  else if n ≤ e ∨ n % 2 = 0 then some .invalidModulus
  else if e % 2 = 0 then some .invalidExponent
  else if e < 2 then some .exponentTooSmall
  else if 0x200000000 ≤ e then some .exponentTooLarge
  else none

/-- The first fault found in a key's numbers. -/
def Numbers.fault? (k : Numbers) : Option KeyFault :=
  match publicFault? k.n k.e with
  | some fault => some fault
  | none =>
    if k.p ≤ 1 ∨ k.q ≤ 1 then some .invalidFactor
    else if k.p * k.q ≠ k.n then some .invalidModulus
    else if k.e * k.d % (k.p - 1) ≠ 1 ∨ k.e * k.d % (k.q - 1) ≠ 1 then some .invalidExponent
    else none

/-- A private **key**: numbers without a fault. -/
structure PrivateKey extends Numbers where
  sound : toNumbers.fault? = none

/-- The key of five numbers, or the first fault found in them. -/
def Numbers.key (k : Numbers) : Except KeyFault PrivateKey :=
  match h : k.fault? with
  | some fault => .error fault
  | none => .ok ⟨k, h⟩

/-- Bytes in the modulus. -/
def PrivateKey.size (key : PrivateKey) : Nat :=
  Bytes.width key.n

/-! ### Signatures -/

/-- Why a key gives no signature. -/
inductive SigningFault
  /-- The modulus is too short for the padded digest. -/
  | messageTooLong
  /-- The signature does not verify. -/
  | notInverse
  deriving DecidableEq, Repr

/-- What stands before a SHA-512 digest in the padded message: the name of the digest, and its
length. -/
def digestInfo : Bytes :=
  [0x30, 0x51, 0x30, 0x0d, 0x06, 0x09, 0x60, 0x86, 0x48, 0x01, 0x65, 0x03, 0x04, 0x02, 0x03,
    0x05, 0x00, 0x04, 0x40]

/-- The padded message of `size` bytes for a digest, if it has at least eight bytes of
padding. -/
def pad? (size : Nat) (digest : Bytes) : Option Bytes :=
  let tail := digestInfo ++ digest
  if size < tail.length + 11 then none
  else some (0x00 :: 0x01 :: (List.replicate (size - tail.length - 3) 0xFF ++ 0x00 :: tail))

/-- The number that the private exponent gives for a message: modulo each factor by itself,
put together by the inverse of one factor for the other, or modulo `n` where there is no such
inverse. -/
def PrivateKey.power (key : PrivateKey) (m : Nat) : Nat :=
  match Modular.inverse? key.q key.p with
  | some inverse =>
    let x := Modular.powMod m (key.d % (key.p - 1)) key.p
    let y := Modular.powMod m (key.d % (key.q - 1)) key.q
    y + (x + (key.p - y % key.p)) * inverse % key.p * key.q
  | none => Modular.powMod m key.d key.n

/-- The signature of a SHA-512 digest: as many bytes as the modulus has. -/
def PrivateKey.sign (key : PrivateKey) (digest : Bytes) : Except SigningFault Bytes :=
  match pad? key.size digest with
  | none => .error .messageTooLong
  | some padded =>
    let m := Bytes.toNat padded
    let s := key.power m
    if Modular.powMod s key.e key.n = m then .ok (Bytes.ofNat key.size s)
    else .error .notInverse

end RequestSigning.Rsa
