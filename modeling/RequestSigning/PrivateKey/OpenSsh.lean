import RequestSigning.PrivateKey.Basic

/-!
# OpenSSH private keys

A marker, the names of a cipher and of the derivation of its key, one public key, and a private
section. In the clear the private section is a multiple of eight bytes: a check number twice,
the key, a comment, and padding `1, 2, 3, …` of fewer than eight bytes. An encrypted section is
not read beyond its length.
-/

namespace RequestSigning.OpenSsh

open Wire Ssh

/-- What the bytes start with. -/
def marker : Bytes := Utf8.encode "openssh-key-v1" ++ [0]

/-! ### Ciphers -/

/-- How a cipher shapes a private section. -/
structure Cipher where
  name : String
  /-- The section's length is a multiple of this. -/
  block : Nat
  /-- Whether a tag of sixteen bytes follows the section. -/
  tagged : Bool

/-- The ciphers whose sections are recognised. -/
def ciphers : List Cipher := [
  ⟨"aes128-cbc", 16, false⟩, ⟨"aes192-cbc", 16, false⟩, ⟨"aes256-cbc", 16, false⟩,
  ⟨"aes128-ctr", 16, false⟩, ⟨"aes192-ctr", 16, false⟩, ⟨"aes256-ctr", 16, false⟩,
  ⟨"aes128-gcm@openssh.com", 16, true⟩, ⟨"aes256-gcm@openssh.com", 16, true⟩,
  ⟨"chacha20-poly1305@openssh.com", 8, true⟩, ⟨"3des-cbc", 8, false⟩]

/-- The name of the cipher, or of the derivation, that there is none. -/
def noneName : Bytes := Utf8.encode "none"

/-- The cipher named at the front, if there is one. -/
def readCipher? (bytes : Bytes) : Option (Option Cipher × Bytes) := do
  let (name, rest) ← readShort? 48 bytes
  if name = noneName then some (none, rest)
  else
    let cipher ← ciphers.find? fun cipher => Utf8.encode cipher.name = name
    some (some cipher, rest)

/-- The derivation named at the front: whether there is one, with salt and rounds read. -/
def readDerivation? (bytes : Bytes) : Option (Bool × Bytes) := do
  let (name, rest) ← readShort? 48 bytes
  if name = noneName then
    let (n, rest) ← (readLength rest).toOption
    if n = 0 then some (false, rest) else none
  else if name = Utf8.encode "bcrypt" then
    let read (inside : Bytes) : Except Fault (Unit × Bytes) := do
      let (_, left) ← readField inside
      let (_, left) ← readWord left
      pure ((), left)
    let (_, rest) ← (readInside read rest).toOption
    some (true, rest)
  else none

/-! ### Key pairs -/

/-- A **key pair** of a private section; of kinds that cannot sign only the public half. -/
inductive KeyPair
  | rsa (n e d p q : Bytes)
  | ecdsa (curve : Ecdsa.Curve) (point scalar : Bytes)
  | ed25519 (key : Bytes)
  | dsa (p q g y : Bytes)
  | other (key : PublicKey)
  deriving DecidableEq

/-- The public half of a pair. -/
def KeyPair.publicKey : KeyPair → PublicKey
  | rsa n e _ _ _ => .rsa e n
  | ecdsa curve point _ => .ecdsa curve point
  | ed25519 key => .ed25519 key
  | dsa p q g y => .dsa p q g y
  | other key => key

/-- A scalar in the width of the field, or with one zero byte before it. -/
def readScalar? (curve : Ecdsa.Curve) (bytes : Bytes) : Option (Bytes × Bytes) :=
  let read (inside : Bytes) : Except Fault (Bytes × Bytes) :=
    if inside.length = curve.size + 1 then
      match inside with
      | 0 :: rest => readBytes curve.size rest
      | _ => .error .length
    else readBytes curve.size inside
  (readInside read bytes).toOption

/-- The fields that follow the public half of a pair which a device or a domain's owner
defined. -/
def readOther? (key : PublicKey) (bytes : Bytes) : Option Bytes :=
  match key with
  | .other .. => do
    let (_, rest) ← (readField bytes).toOption
    some rest
  | _ => do
    let (_, rest) ← (readByte bytes).toOption
    let (_, rest) ← (readField rest).toOption
    let (_, rest) ← (readField rest).toOption
    some rest

/-- The pair at the front, and the bytes behind it. -/
def readPair? (bytes : Bytes) : Option (KeyPair × Bytes) := do
  let (name, rest) ← readShort? 48 bytes
  if name = Utf8.encode "ssh-rsa" ∨ name = Utf8.encode "rsa-sha2-256" ∨
      name = Utf8.encode "rsa-sha2-512" then
    let (n, rest) ← readInteger? rest
    let (e, rest) ← readInteger? rest
    let (d, rest) ← readInteger? rest
    let (_, rest) ← readInteger? rest
    let (p, rest) ← readInteger? rest
    let (q, rest) ← readInteger? rest
    some (.rsa n e d p q, rest)
  else
    let (key, rest) ← readFields? name rest
    match key with
    | .ecdsa curve point =>
      let (scalar, rest) ← readScalar? curve rest
      some (.ecdsa curve point scalar, rest)
    | .ed25519 key =>
      let (pair, rest) ← (readInside (readBytes 64) rest).toOption
      if pair.drop 32 = key then some (.ed25519 key, rest) else none
    | .dsa p q g y =>
      let (_, rest) ← readInteger? rest
      some (.dsa p q g y, rest)
    | key =>
      let rest ← readOther? key rest
      some (.other key, rest)

/-! ### The whole -/

/-- What the bytes hold. -/
inductive Content
  | encrypted
  | pair (pair : KeyPair)
  deriving DecidableEq

/-- The padding bytes `1, 2, 3, …`. -/
def padding (n : Nat) : Bytes :=
  (List.range n).map fun i => UInt8.ofNat (i + 1)

/-- The pair of a private section in the clear. -/
def readSection? (publicKey : PublicKey) (bytes : Bytes) : Option KeyPair := do
  if bytes.length % 8 ≠ 0 then none
  let (first, rest) ← (readWord bytes).toOption
  let (second, rest) ← (readWord rest).toOption
  if first ≠ second then none
  let (pair, rest) ← readPair? rest
  if publicKey ≠ pair.publicKey then none
  let (_, rest) ← readText? rest
  if rest.length < 8 ∧ rest = padding rest.length then some pair else none

/-- What encoded bytes hold. -/
def decode? (bytes : Bytes) : Option Content := do
  if ¬ marker.isPrefixOf bytes then none
  let (cipher, rest) ← readCipher? (bytes.drop marker.length)
  let (derived, rest) ← readDerivation? rest
  let (count, rest) ← (readLength rest).toOption
  if count ≠ 1 then none
  let read (inside : Bytes) : Except Fault (PublicKey × Bytes) :=
    match readKey? inside with
    | some read => .ok read
    | none => .error .length
  let (publicKey, rest) ← (readInside read rest).toOption
  let (sealed, rest) ← (readField rest).toOption
  match cipher with
  | some cipher =>
    let expected := if cipher.tagged then 16 else 0
    if sealed.length % cipher.block = 0 ∧ rest.length = expected then some .encrypted else none
  | none =>
    if derived ∨ rest ≠ [] then none
    let pair ← readSection? publicKey sealed
    some (.pair pair)

/-- The number in an integer's content, unless it is empty or negative. -/
def positive? : Bytes → Option Nat
  | [] => none
  | first :: rest => if first < 0x80 then some (Bytes.toNat (first :: rest)) else none

/-- The numbers of an RSA pair. -/
def numbers? (n e d p q : Bytes) : Option Rsa.Numbers := do
  let n ← positive? n
  let e ← positive? e
  let d ← positive? d
  let p ← positive? p
  let q ← positive? q
  some ⟨n, e, d, p, q⟩

/-- The key of a pair that can sign. -/
def KeyPair.key : KeyPair → Except KeyFault PrivateKey
  | rsa n e d p q =>
    match numbers? n e d p q with
    | none => .error .negativeComponent
    | some numbers =>
      match numbers.key with
      | .ok key => .ok (.rsa key)
      | .error fault => .error (.numbers fault)
  | ecdsa curve _ scalar =>
    match Ecdsa.PrivateKey.ofScalar? curve (Bytes.toNat scalar) with
    | some key => .ok (.ecdsa key)
    | none => .error .invalidScalar
  | ed25519 _ => .error (.unsupportedKind .ed25519)
  | dsa .. => .error (.unsupportedKind .dsa)
  | other _ => .error .unsupportedType

/-- The key of encoded bytes. -/
def key (bytes : Bytes) : Except KeyFault PrivateKey :=
  match decode? bytes with
  | none => .error .malformedBlock
  | some .encrypted => .error .encrypted
  | some (.pair pair) => pair.key

end RequestSigning.OpenSsh
