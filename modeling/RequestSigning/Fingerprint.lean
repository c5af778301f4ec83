import RequestSigning.Digest.Md5
import RequestSigning.Text.Blank

/-!
# Fingerprints

The fingerprint of a key is the MD5 digest of its blob. It is shown as 32 hexadecimal digits,
with or without colons between the bytes; a caller may name a key by either form, in either
case, with `MD5:` in front and blanks around.

A caller's text is brought to a normal form, lowercase without colons, and compared with the compact
form. Nothing checks that the text is a fingerprint at all: one that is none names no key.
-/

namespace RequestSigning

/-- The **fingerprint** of a public key: sixteen bytes. -/
structure Fingerprint where
  bytes : Bytes
  length_bytes : bytes.length = 16
  deriving DecidableEq

namespace Fingerprint

/-- The fingerprint of a key blob. -/
def ofBlob (blob : Bytes) : Fingerprint :=
  ⟨Md5.digest blob, Md5.length_digest blob⟩

/-- The digits without separators. -/
def compact (fingerprint : Fingerprint) : String :=
  Bytes.hex fingerprint.bytes

/-- The digits with a colon between every two bytes. -/
def display (fingerprint : Fingerprint) : String :=
  String.ofList ((fingerprint.bytes.map Bytes.hexPair).intersperse [':']).flatten

/-! ### Names of keys -/

/-- The lowercase form of an ASCII capital; other characters are kept. -/
def lower (c : Char) : Char :=
  if 'A' ≤ c ∧ c ≤ 'Z' then Char.ofNat (c.toNat + 32) else c

/-- The characters behind `md5:` in any case, or all of them where that is not in front. -/
def withoutMark : List Char → List Char
  | m :: d :: five :: colon :: rest =>
    if lower m = 'm' ∧ lower d = 'd' ∧ five = '5' ∧ colon = ':' then rest
    else m :: d :: five :: colon :: rest
  | text => text

/-- The compact form of a text that names a key: without blanks around it, a mark `md5:` in
front, and colons, and in lowercase. -/
def normalize (supplied : String) : String :=
  String.ofList (((withoutMark (Text.trim supplied.toList)).filter (· ≠ ':')).map lower)

/-- Whether a text names the key. -/
def isNamedBy (fingerprint : Fingerprint) (supplied : String) : Bool :=
  normalize supplied == fingerprint.compact

end Fingerprint

end RequestSigning
