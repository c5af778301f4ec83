import RequestSigning.Pem
import RequestSigning.PrivateKey.OpenSsh
import RequestSigning.PrivateKey.Pkcs8

/-!
# Private key texts

A private key text is an armoured block. The first line that names a block decides in which
encoding the block is read; the block's own first and last line have to carry the same name.

The name is looked for in lines without the blanks around them, while the reader of the armour takes
lines as they stand. Hence a text may be given to an encoding and be refused by it; no later line is
tried then.
-/

namespace RequestSigning

/-- The encodings of private keys that are read. -/
inductive KeyEncoding
  | openSsh
  | pkcs1
  | sec1
  | pkcs8
  deriving DecidableEq, Repr

namespace KeyEncoding

/-- The name of the block that holds a key in an encoding. -/
def label : KeyEncoding → String
  | openSsh => "OPENSSH PRIVATE KEY"
  | pkcs1 => "RSA PRIVATE KEY"
  | sec1 => "EC PRIVATE KEY"
  | pkcs8 => "PRIVATE KEY"

/-- Characters in a full Base64 line of the block. -/
def lineWidth : KeyEncoding → Nat
  | openSsh => 70
  | _ => 64

/-- The encodings. -/
def all : List KeyEncoding := [openSsh, pkcs1, sec1, pkcs8]

/-- The encoding that a name stands for, or why it stands for none. -/
def ofLabel (name : String) : Except KeyFault KeyEncoding :=
  match all.find? fun encoding => encoding.label = name with
  | some encoding => .ok encoding
  | none =>
    if name = "DSA PRIVATE KEY" then .error (.unsupportedKind .dsa)
    else if name = "ENCRYPTED PRIVATE KEY" then .error .encrypted
    else .error (.unrecognizedBlock name)

/-- The bytes in the armour of an encoding. -/
def armoured? (encoding : KeyEncoding) (text : Bytes) : Option Bytes :=
  Pem.decode? encoding.lineWidth (Utf8.encode encoding.label) text

/-- The key that a text holds in an encoding. -/
def read (encoding : KeyEncoding) (text : Bytes) : Except KeyFault PrivateKey :=
  let found := encoding.armoured? text
  match encoding with
  | openSsh =>
    match found with
    | some bytes => OpenSsh.key bytes
    | none => .error .malformedBlock
  | pkcs1 =>
    match found.bind Pkcs1.key? with
    | some key => .ok (.rsa key)
    | none => .error .malformedBlock
  | sec1 =>
    match found.bind Sec1.anyKey? with
    | some key => .ok (.ecdsa key)
    | none => .error .malformedEc
  | pkcs8 =>
    match found.bind Pkcs8.key? with
    | some key => .ok key
    | none => .error .malformedPkcs8

end KeyEncoding

namespace PrivateKey

/-- What the first line of a block starts with. -/
def beginText : List Char := "-----BEGIN ".toList

/-- What it ends with. -/
def dashText : List Char := "-----".toList

/-- The name in a line, if the line without blanks around it begins a block. -/
def labelOfLine? (line : List Char) : Option (List Char) :=
  let line := Text.trim line
  if beginText.isPrefixOf line then
    let rest := line.drop beginText.length
    if dashText.isSuffixOf rest then some (rest.take (rest.length - dashText.length)) else none
  else none

/-- The name in the first line of a text that begins a block. -/
def label? (text : String) : Option String :=
  ((Text.lines text.toList).findSome? labelOfLine?).map String.ofList

/-- The encoding that a text of bytes is in. -/
def encodingOf (bytes : Bytes) : Except KeyFault KeyEncoding :=
  match Utf8.decode? bytes with
  | none => .error .notText
  | some text =>
    match label? text with
    | none => .error .noHeader
    | some label => KeyEncoding.ofLabel label

/-- The private key that bytes hold as text, and its encoding. -/
def parseWith (bytes : Bytes) : Except KeyFault (KeyEncoding × PrivateKey) := do
  let encoding ← encodingOf bytes
  let key ← encoding.read bytes
  pure (encoding, key)

/-- The private key that bytes hold as text. -/
def parse (bytes : Bytes) : Except KeyFault PrivateKey := do
  let (_, key) ← parseWith bytes
  pure key

end PrivateKey

end RequestSigning
