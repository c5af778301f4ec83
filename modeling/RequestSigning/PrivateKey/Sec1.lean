import RequestSigning.Der
import RequestSigning.Ecdsa.Signature

/-!
# SEC1 private keys

A key on a curve as a sequence of a version, the scalar, and, where they are given, the curve
and the public point. A scalar is read as one of a given curve; the curve that the encoding
names is not compared, but a public point has to be that of the scalar.

A scalar may be shorter than the field, so one content can fit several curves. Where nothing else
names the curve they are tried in the order of their sizes, and the first that takes the content has
the key.
-/

namespace RequestSigning.Sec1

/-- The parts of an encoded key. -/
structure Content where
  scalar : Bytes
  /-- The content of the curve's object identifier. -/
  curve : Option Bytes
  point : Option Bytes
  deriving DecidableEq

/-- The encoding of a key's parts. -/
def encode (content : Content) : Bytes :=
  Der.element Der.sequenceTag
    (Der.unsigned 1 ++ Der.element Der.octetStringTag content.scalar ++
      (content.curve.elim [] fun curve => Der.element 0xA0 (Der.element Der.identifierTag curve)) ++
      (content.point.elim [] fun point => Der.element 0xA1 (Der.bitString point)))

/-- The content of an object identifier that makes up the bytes. -/
def identifier? (bytes : Bytes) : Option Bytes :=
  match Der.readIdentifier? bytes with
  | some (content, []) => some content
  | _ => none

/-- The bytes of a bit string that makes up the bytes. -/
def bits? (bytes : Bytes) : Option Bytes :=
  (Der.whole? Der.bitStringTag bytes).bind Der.bitStringOfContent?

/-- The parts of an encoded key. -/
def decode? (bytes : Bytes) : Option Content := do
  let content ← Der.whole? Der.sequenceTag bytes
  let (version, rest) ← Der.readUnsigned? content
  if version ≠ 1 then none
  let (scalar, rest) ← Der.readTagged? Der.octetStringTag rest
  let (curve, rest) ← Der.readExplicit? 0 rest
  let curve ← match curve with
    | some bytes => (identifier? bytes).map some
    | none => some none
  let (point, rest) ← Der.readExplicit? 1 rest
  let point ← match point with
    | some bytes => (bits? bytes).map some
    | none => some none
  if rest = [] then some ⟨scalar, curve, point⟩ else none

/-- The key on a curve that the parts give: a scalar of 24 bytes up to the width of the field,
in range, with its own public point if there is one. -/
def Content.key? (content : Content) (curve : Ecdsa.Curve) : Option Ecdsa.PrivateKey := do
  let size := content.scalar.length
  if size < 24 ∨ curve.size < size then none
  let key ← Ecdsa.PrivateKey.ofScalar? curve (Bytes.toNat content.scalar)
  match content.point with
  | none => some key
  | some point =>
    let own := Ecdsa.publicPoint curve key.scalar
    if point = Ecdsa.uncompressed curve own ∨ point = Ecdsa.compressed curve own then some key
    else none

/-- The key of an encoding on a curve. -/
def key? (curve : Ecdsa.Curve) (bytes : Bytes) : Option Ecdsa.PrivateKey := do
  let content ← decode? bytes
  content.key? curve

/-- The key of an encoding, on the first curve that it fits. -/
def anyKey? (bytes : Bytes) : Option Ecdsa.PrivateKey :=
  Ecdsa.Curve.all.findSome? fun curve => key? curve bytes

end RequestSigning.Sec1
