import RequestSigning.Ecdsa.Curve
import RequestSigning.Ssh.Wire
import RequestSigning.Text.Utf8

/-!
# Public keys on the wire

A key blob is the name of the key's type and the fields of that type. `decode?` reads the key
at the front of a blob, `encode` writes a key's blob. Points are checked for their length
only, not for lying on the curve.

Keys of types that cannot sign here are decoded as well, because an agent may list them. Whatever
stands behind the key in a blob is ignored, so different blobs may hold one key, and a fingerprint
is taken of the blob.
-/

namespace RequestSigning.Ssh

open Wire

/-- A **public key** as it is written in a blob. Integers are kept as the content of their
fields. -/
inductive PublicKey
  | rsa (e n : Bytes)
  | dsa (p q g y : Bytes)
  | ecdsa (curve : Ecdsa.Curve) (point : Bytes)
  | ed25519 (key : Bytes)
  | hardwareEd25519 (key application : Bytes)
  | hardwareEcdsa (point application : Bytes)
  /-- A type defined by the owner of a domain, with one field. -/
  | other (name : Bytes) (key : Bytes)
  deriving DecidableEq, Repr

/-! ### Type names -/

/-- The name of the key type of a curve. -/
def ecdsaTypeName (curve : Ecdsa.Curve) : String :=
  "ecdsa-sha2-" ++ curve.name

/-- The name of the key's type, as bytes. -/
def PublicKey.typeBytes : PublicKey → Bytes
  | .rsa .. => Utf8.encode "ssh-rsa"
  | .dsa .. => Utf8.encode "ssh-dss"
  | .ecdsa curve _ => Utf8.encode (ecdsaTypeName curve)
  | .ed25519 _ => Utf8.encode "ssh-ed25519"
  | .hardwareEd25519 .. => Utf8.encode "sk-ssh-ed25519@openssh.com"
  | .hardwareEcdsa .. => Utf8.encode "sk-ecdsa-sha2-nistp256@openssh.com"
  | .other name _ => name

/-- The name of the key's type. -/
def PublicKey.typeName (key : PublicKey) : String :=
  String.ofList (key.typeBytes.map fun b => Char.ofNat b.toNat)

/-- Whether bytes are the name of a type that a domain's owner defined: ASCII, with one `@` and
something on both sides of it. -/
def isDomainName (name : Bytes) : Bool :=
  name.all (· < 0x80) && name.count 64 == 1 && name.head? != some 64 && name.getLast? != some 64

/-! ### Writing -/

/-- The fields behind the name of the key's type. -/
def PublicKey.fields : PublicKey → Bytes
  | .rsa e n => field e ++ field n
  | .dsa p q g y => field p ++ field q ++ field g ++ field y
  | .ecdsa curve point => field (Utf8.encode curve.name) ++ field point
  | .ed25519 key => field key
  | .hardwareEd25519 key application => field key ++ field application
  | .hardwareEcdsa point application =>
    field (Utf8.encode Ecdsa.Curve.p256.name) ++ field point ++ field application
  | .other _ key => field key

/-- The key's blob. -/
def PublicKey.encode (key : PublicKey) : Bytes :=
  field key.typeBytes ++ key.fields

/-! ### Reading -/

/-- A field of at most `most` bytes. -/
def readShort? (most : Nat) (bytes : Bytes) : Option (Bytes × Bytes) :=
  match readField bytes with
  | .ok (content, rest) => if content.length ≤ most then some (content, rest) else none
  | .error _ => none

/-- A field that holds an integer in its shortest form. -/
def readInteger? (bytes : Bytes) : Option (Bytes × Bytes) :=
  match readField bytes with
  | .ok (content, rest) =>
    match content with
    | [0] => none
    | 0 :: second :: _ => if second < 0x80 then none else some (content, rest)
    | _ => some (content, rest)
  | .error _ => none

/-- A field that holds text. -/
def readText? (bytes : Bytes) : Option (Bytes × Bytes) :=
  match readField bytes with
  | .ok (content, rest) => if (Utf8.decode? content).isSome then some (content, rest) else none
  | .error _ => none

/-- The 32 bytes at the front of a field. -/
def readKey32? (bytes : Bytes) : Option (Bytes × Bytes) :=
  (readInside (readBytes 32) bytes).toOption

/-- The curve named in a field. -/
def readCurve? (bytes : Bytes) : Option (Ecdsa.Curve × Bytes) := do
  let (name, rest) ← readShort? 48 bytes
  let curve ← Ecdsa.Curve.all.find? fun curve => Utf8.encode curve.name = name
  some (curve, rest)

/-- Whether bytes have the form of a point on a curve, with both coordinates or with one. -/
def isPoint (curve : Ecdsa.Curve) : Bytes → Bool
  | tag :: rest =>
    (tag == 0x04 && rest.length == 2 * curve.size) ||
      ((tag == 0x02 || tag == 0x03) && rest.length == curve.size)
  | [] => false

/-- Whether bytes have the form of a point on P-256 in any of the standard's forms, the point at
infinity and the bare abscissa included. -/
def isAnyPoint256 (bytes : Bytes) : Bool :=
  isPoint .p256 bytes || bytes == [0x00] || (bytes.head? == some 0x05 && bytes.length == 33)

/-- The curve and point of a key on a curve. -/
def readEcdsa? (bytes : Bytes) : Option ((Ecdsa.Curve × Bytes) × Bytes) := do
  let (curve, rest) ← readCurve? bytes
  let (point, rest) ← readShort? 133 rest
  if isPoint curve point then some ((curve, point), rest) else none

/-- The key whose type has this name, from the fields behind the name, and the bytes behind
them. -/
def readFields? (name : Bytes) (bytes : Bytes) : Option (PublicKey × Bytes) := do
  if name = Utf8.encode "ssh-rsa" ∨ name = Utf8.encode "rsa-sha2-256" ∨
      name = Utf8.encode "rsa-sha2-512" then
    let (e, rest) ← readInteger? bytes
    let (n, rest) ← readInteger? rest
    some (.rsa e n, rest)
  else if name = Utf8.encode "ssh-dss" then
    let (p, rest) ← readInteger? bytes
    let (q, rest) ← readInteger? rest
    let (g, rest) ← readInteger? rest
    let (y, rest) ← readInteger? rest
    some (.dsa p q g y, rest)
  else if name = Utf8.encode "ssh-ed25519" then
    let (key, rest) ← readKey32? bytes
    some (.ed25519 key, rest)
  else if name = Utf8.encode "sk-ssh-ed25519@openssh.com" then
    let (key, rest) ← readKey32? bytes
    let (application, rest) ← readText? rest
    some (.hardwareEd25519 key application, rest)
  else if name = Utf8.encode "sk-ecdsa-sha2-nistp256@openssh.com" then
    let (curve, rest) ← readCurve? bytes
    let (point, rest) ← readShort? 65 rest
    if curve = .p256 ∧ isAnyPoint256 point then
      let (application, rest) ← readText? rest
      some (.hardwareEcdsa point application, rest)
    else none
  else
    match Ecdsa.Curve.all.find? fun curve => Utf8.encode (ecdsaTypeName curve) = name with
    | some curve =>
      let ((found, point), rest) ← readEcdsa? bytes
      if found = curve then some (.ecdsa curve point, rest) else none
    | none =>
      if isDomainName name then
        let (key, rest) ← (readField bytes).toOption
        some (.other name key, rest)
      else none

/-- The key at the front, and the bytes behind it. -/
def readKey? (bytes : Bytes) : Option (PublicKey × Bytes) := do
  let (name, rest) ← readShort? 48 bytes
  readFields? name rest

/-- The key at the front of a blob. -/
def PublicKey.decode? (blob : Bytes) : Option PublicKey :=
  (readKey? blob).map Prod.fst

end RequestSigning.Ssh
