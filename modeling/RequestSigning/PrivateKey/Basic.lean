import RequestSigning.Ecdsa.Signature
import RequestSigning.Error
import RequestSigning.Identity
import RequestSigning.Rsa
import RequestSigning.Ssh.PublicKey

/-!
# Private keys

A private key that can sign is an RSA key or an ECDSA key. It determines its kind, its public
half and with that its fingerprint, and the algorithm of its signatures.

What is said of a key in a listing or a log is made from its public half alone. Signing is given the
draw of a random number, which only a key on P-521 uses.
-/

namespace RequestSigning

/-- A **private key** of a kind that can sign. -/
inductive PrivateKey
  | rsa (key : Rsa.PrivateKey)
  | ecdsa (key : Ecdsa.PrivateKey)

namespace PrivateKey

/-- The kind of a key. -/
def kind : PrivateKey → KeyKind
  | rsa _ => .rsa
  | ecdsa _ => .ecdsa

/-- The algorithm of a key's signatures. -/
def algorithm : PrivateKey → SigningAlgorithm
  | rsa _ => .rsaSha512
  | ecdsa _ => .ecdsaSha512

/-- The public half of a key. -/
def publicKey : PrivateKey → Ssh.PublicKey
  | rsa key => .rsa (Wire.integerContent key.e) (Wire.integerContent key.n)
  | ecdsa key =>
    .ecdsa key.curve
      (Ecdsa.uncompressed key.curve (Ecdsa.publicPoint key.curve key.scalar))

/-- The blob of a key's public half. -/
def blob (key : PrivateKey) : Bytes :=
  key.publicKey.encode

/-- The fingerprint of a key's public half. -/
def fingerprint (key : PrivateKey) : Fingerprint :=
  Fingerprint.ofBlob key.blob

/-- A description of a key that shows nothing secret. -/
def summary (key : PrivateKey) : String :=
  let kind := match key with | rsa _ => "Rsa" | ecdsa _ => "Ecdsa"
  "KeyMaterial \x7b kind: " ++ kind ++ ", fingerprint: " ++
    Text.quote key.fingerprint.display ++ ", .. \x7d"

/-- The signature of a message over its SHA-512 digest. `draw` is the caller's random number,
which only keys on P-521 use. -/
def sign (key : PrivateKey) (draw : Nat) (message : Bytes) : Except SigningFault Bytes :=
  let digest := Sha2.sha512 message
  match key with
  | rsa key =>
    match key.sign digest with
    | .ok signature => .ok signature
    | .error fault => .error (.rsa fault)
  | ecdsa key =>
    match Ecdsa.sign? key digest draw with
    | some signature => .ok signature.encode
    | none => .error .ecdsa

end PrivateKey

end RequestSigning
