import RequestSigning.PrivateKey.Basic
import RequestSigning.PrivateKey.Pkcs1
import RequestSigning.PrivateKey.Sec1

/-!
# PKCS#8 private keys

A sequence that names an algorithm and holds a key of it: an RSA key in its PKCS#1 form, or a
key on a curve in its SEC1 form with the curve named beside the algorithm.

Attributes and a public key may follow the private one and are checked for their form only. The
decoders for the algorithms are tried one after the other, and the algorithm decides which of them
can succeed.
-/

namespace RequestSigning.Pkcs8

/-- The content of the object identifier of RSA. -/
def rsaIdentifier : Bytes := [0x2A, 0x86, 0x48, 0x86, 0xF7, 0x0D, 0x01, 0x01, 0x01]

/-- The content of the object identifier of keys on curves. -/
def curveKeyIdentifier : Bytes := [0x2A, 0x86, 0x48, 0xCE, 0x3D, 0x02, 0x01]

/-- The parts of an encoded key: the algorithm's object identifier, the element of its
parameters, and the key. -/
structure Content where
  algorithm : Bytes
  parameters : Option Bytes
  key : Bytes
  deriving DecidableEq

/-- The encoding of a key's parts. -/
def encode (content : Content) : Bytes :=
  Der.element Der.sequenceTag
    (Der.unsigned 0 ++
      Der.element Der.sequenceTag
        (Der.element Der.identifierTag content.algorithm ++ content.parameters.getD []) ++
      Der.element Der.octetStringTag content.key)

/-- The one element that makes up the bytes, if there are any. -/
def parameters? (bytes : Bytes) : Option (Option Bytes) :=
  match bytes with
  | [] => some none
  | _ =>
    match Der.read? bytes with
    | some (_, _, []) => some (some bytes)
    | _ => none

/-- Whether the content of an element is one element. -/
def holdsOne (content : Bytes) : Bool :=
  match Der.read? content with
  | some (_, _, []) => true
  | _ => false

/-- Whether the bytes consist of context-specific elements that hold one element each. -/
def areAttributes (bytes : Bytes) : Bool :=
  if bytes = [] then true
  else
    match _h : Der.read? bytes with
    | some (tag, content, rest) =>
      Der.isContext tag && Der.isConstructed tag && holdsOne content && areAttributes rest
    | none => false
termination_by bytes.length
decreasing_by exact Der.length_lt_of_read? _h

/-- The parts of an encoded key. A public key stands behind the private one in version 1, and
only there; attributes before and behind it are passed over. -/
def decode? (bytes : Bytes) : Option Content := do
  let content ← Der.whole? Der.sequenceTag bytes
  let (version, rest) ← Der.readUnsigned? content
  if 1 < version then none
  let (algorithm, rest) ← Der.readTagged? Der.sequenceTag rest
  let (identifier, parameters) ← Der.readIdentifier? algorithm
  let parameters ← parameters? parameters
  let (key, rest) ← Der.readTagged? Der.octetStringTag rest
  let (point, rest) ← Der.readContext? 1 rest
  match point with
  | some (tag, bits) =>
    if version ≠ 1 ∨ Der.isConstructed tag ∨ (Der.bitStringOfContent? bits).isNone then none
  | none => if version ≠ 0 then none
  if areAttributes rest then some ⟨identifier, parameters, key⟩ else none

/-- The RSA key that the parts hold. -/
def Content.rsaKey? (content : Content) : Option Rsa.PrivateKey :=
  if content.algorithm = rsaIdentifier ∧
      content.parameters = some (Der.element Der.nullTag []) then
    Pkcs1.key? content.key
  else none

/-- The key on a curve that the parts hold. -/
def Content.curveKey? (content : Content) (curve : Ecdsa.Curve) : Option Ecdsa.PrivateKey :=
  if content.algorithm = curveKeyIdentifier ∧
      content.parameters = some (Der.element Der.identifierTag curve.identifier) then
    Sec1.key? curve content.key
  else none

/-- The key that the parts hold. -/
def Content.anyKey? (content : Content) : Option PrivateKey :=
  match content.rsaKey? with
  | some key => some (.rsa key)
  | none =>
    (Ecdsa.Curve.all.findSome? fun curve => content.curveKey? curve).map PrivateKey.ecdsa

/-- The key of an encoding. -/
def key? (bytes : Bytes) : Option PrivateKey := do
  let content ← decode? bytes
  content.anyKey?

end RequestSigning.Pkcs8
