import RequestSigning.Der
import RequestSigning.Rsa

/-!
# PKCS#1 private keys

An RSA key with two factors as a sequence of a version and eight integers. The last three are
aids to computation: they have to be integers, and are not used.

Integers are written in their shortest form, so a key and its aids determine the bytes. The reader
takes the whole of them: bytes behind the sequence, or behind the last integer in it, make the text
no key.
-/

namespace RequestSigning.Pkcs1

/-- The integers of a key that can be computed from the others. -/
structure Aids where
  dp : Nat
  dq : Nat
  coefficient : Nat

/-- The encoding of a key's numbers. -/
def encode (k : Rsa.Numbers) (aids : Aids) : Bytes :=
  Der.element Der.sequenceTag
    ([0, k.n, k.e, k.d, k.p, k.q, aids.dp, aids.dq, aids.coefficient].flatMap Der.unsigned)

/-- As many integers at the front as asked for, and the bytes behind them. -/
def readIntegers? : Nat → Bytes → Option (List Nat × Bytes)
  | 0, bytes => some ([], bytes)
  | count + 1, bytes => do
    let (n, rest) ← Der.readUnsigned? bytes
    let (more, rest) ← readIntegers? count rest
    some (n :: more, rest)

/-- The numbers of an encoded key. -/
def decode? (bytes : Bytes) : Option Rsa.Numbers := do
  let content ← Der.whole? Der.sequenceTag bytes
  let (integers, rest) ← readIntegers? 9 content
  match integers, rest with
  | [0, n, e, d, p, q, _, _, _], [] => some ⟨n, e, d, p, q⟩
  | _, _ => none

/-- The key of an encoding, if its numbers fit together. -/
def key? (bytes : Bytes) : Option Rsa.PrivateKey := do
  let numbers ← decode? bytes
  numbers.key.toOption

end RequestSigning.Pkcs1
