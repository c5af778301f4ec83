import RequestSigning.Bytes

/-!
# Base64

The alphabet `A-Z a-z 0-9 + /` with padding. Every three bytes become four characters, and a
rest of one or two bytes is padded with `=` to four. `decode?` accepts exactly the canonical
form: whole groups, padding only in the last one, and no bit set that the padding drops.

Encoding and decoding go by groups, three bytes for four characters, and decoding cuts the
characters into fours before it looks at them. A text whose length is no multiple of four is refused
for its last group.
-/

namespace RequestSigning.Base64

/-- The character for a six-bit value. -/
def digit (n : Nat) : UInt8 :=
  if n < 26 then UInt8.ofNat (65 + n)
  else if n < 52 then UInt8.ofNat (71 + n)
  else if n < 62 then UInt8.ofNat (n - 4)
  else if n = 62 then 43
  else 47

/-- The six-bit value of a character of the alphabet. -/
def value? (c : UInt8) : Option Nat :=
  if 65 ≤ c && c ≤ 90 then some (c.toNat - 65)
  else if 97 ≤ c && c ≤ 122 then some (c.toNat - 71)
  else if 48 ≤ c && c ≤ 57 then some (c.toNat + 4)
  else if c = 43 then some 62
  else if c = 47 then some 63
  else none

/-- The padding character `=`. -/
def pad : UInt8 := 61

/-- The four characters of one to three bytes. -/
def encodeGroup : Bytes → Bytes
  | [a] =>
    [digit (a.toNat / 4), digit (a.toNat % 4 * 16), pad, pad]
  | [a, b] =>
    [digit (a.toNat / 4), digit (a.toNat % 4 * 16 + b.toNat / 16),
      digit (b.toNat % 16 * 4), pad]
  | a :: b :: c :: _ =>
    [digit (a.toNat / 4), digit (a.toNat % 4 * 16 + b.toNat / 16),
      digit (b.toNat % 16 * 4 + c.toNat / 64), digit (c.toNat % 64)]
  | [] => []

/-- The characters of a byte string, as bytes. -/
def encodeBytes (bytes : Bytes) : Bytes :=
  (Bytes.chunks 3 bytes).flatMap encodeGroup

/-- The Base64 text of a byte string. -/
def encode (bytes : Bytes) : String :=
  String.ofList ((encodeBytes bytes).map fun c => Char.ofNat c.toNat)

/-- The bytes of one group of four characters that may be the last one. -/
def decodeLast? : Bytes → Option Bytes
  | [w, x, y, z] => do
    let w ← value? w
    let x ← value? x
    if y = pad then
      if z = pad ∧ x % 16 = 0 then some [UInt8.ofNat (w * 4 + x / 16)] else none
    else
      let y ← value? y
      if z = pad then
        if y % 4 = 0 then
          some [UInt8.ofNat (w * 4 + x / 16), UInt8.ofNat (x % 16 * 16 + y / 4)]
        else none
      else
        let z ← value? z
        some [UInt8.ofNat (w * 4 + x / 16), UInt8.ofNat (x % 16 * 16 + y / 4),
          UInt8.ofNat (y % 4 * 64 + z)]
  | _ => none

/-- The bytes of the groups of a text, all but the last one free of padding. -/
def decodeGroups? (done : List Bytes) : List Bytes → Option Bytes
  | [] => some done.reverse.flatten
  | [last] => (decodeLast? last).map fun bytes => (bytes :: done).reverse.flatten
  | group :: next :: rest =>
    match decodeLast? group with
    | some bytes =>
      if bytes.length = 3 then decodeGroups? (bytes :: done) (next :: rest) else none
    | none => none

/-- The bytes of a Base64 text in canonical form. -/
def decode? (text : Bytes) : Option Bytes :=
  decodeGroups? [] (Bytes.chunks 4 text)

end RequestSigning.Base64
