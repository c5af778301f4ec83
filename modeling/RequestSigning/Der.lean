import RequestSigning.Bytes

/-!
# Distinguished encoding of ASN.1 values

An element is a tag byte, the length of its content, and the content. There is one encoding
of each value: the shortest length, and the shortest form of an integer. The readers return
the value at the front and the bytes behind it, and refuse every other encoding; the writers
produce what the readers accept.
-/

namespace RequestSigning.Der

/-! ### Tags -/

/-- Tag of an integer. -/
def integerTag : UInt8 := 0x02

/-- Tag of a bit string. -/
def bitStringTag : UInt8 := 0x03

/-- Tag of an octet string. -/
def octetStringTag : UInt8 := 0x04

/-- Tag of the null value. -/
def nullTag : UInt8 := 0x05

/-- Tag of an object identifier. -/
def identifierTag : UInt8 := 0x06

/-- Tag of a sequence. -/
def sequenceTag : UInt8 := 0x30

/-- Whether a byte is a tag: a universal type in the form it has, or an application,
context-specific or private tag with a number below 31. -/
def isTag (b : UInt8) : Bool :=
  if b < 0x40 then
    [0x01, 0x02, 0x03, 0x04, 0x05, 0x06, 0x09, 0x0A, 0x0C, 0x12, 0x13, 0x14, 0x15, 0x16, 0x17,
      0x18, 0x1A, 0x1E, 0x30, 0x31].contains b
  else b &&& 0x1F != 0x1F

/-- Whether a tag is context-specific. -/
def isContext (tag : UInt8) : Bool :=
  tag &&& 0xC0 == 0x80

/-- Whether a tag says that its content consists of elements. -/
def isConstructed (tag : UInt8) : Bool :=
  tag &&& 0x20 == 0x20

/-- The number in a context-specific tag. -/
def contextNumber (tag : UInt8) : Nat :=
  tag.toNat % 32

/-! ### Elements -/

/-- The encoding of a content's length. -/
def lengthBytes (n : Nat) : Bytes :=
  if n < 128 then [UInt8.ofNat n]
  else
    let digits := Bytes.minimal n
    UInt8.ofNat (128 + digits.length) :: digits

/-- The encoding of an element. -/
def element (tag : UInt8) (content : Bytes) : Bytes :=
  tag :: (lengthBytes content.length ++ content)

/-- A length at the front, in its shortest form and below 2^28. -/
def readLength? : Bytes → Option (Nat × Bytes)
  | [] => none
  | first :: rest =>
    if first < 0x80 then some (first.toNat, rest)
    else
      let count := first.toNat - 128
      if count = 0 ∨ 4 < count ∨ rest.length < count then none
      else
        let n := Bytes.toNat (rest.take count)
        if 128 ≤ n ∧ Bytes.width n = count ∧ n < 0x10000000 then some (n, rest.drop count)
        else none

/-- The element at the front: its tag, its content, and the bytes behind it. -/
def read? : Bytes → Option (UInt8 × Bytes × Bytes)
  | [] => none
  | tag :: rest =>
    if isTag tag then
      match readLength? rest with
      | some (n, rest) =>
        if n ≤ rest.length then some (tag, rest.take n, rest.drop n) else none
      | none => none
    else none

theorem length_le_of_readLength? {bytes rest : Bytes} {n : Nat}
    (h : readLength? bytes = some (n, rest)) : rest.length ≤ bytes.length := by
  cases bytes with
  | nil => simp [readLength?] at h
  | cons first tail =>
    simp only [readLength?] at h
    split at h
    · obtain ⟨-, rfl⟩ := Prod.mk.inj (Option.some.inj h)
      simp
    · split at h
      · simp at h
      · split at h
        · obtain ⟨-, rfl⟩ := Prod.mk.inj (Option.some.inj h)
          simp only [List.length_drop, List.length_cons]
          omega
        · simp at h

/-- Reading an element leaves fewer bytes. -/
theorem length_lt_of_read? {bytes content rest : Bytes} {tag : UInt8}
    (h : read? bytes = some (tag, content, rest)) : rest.length < bytes.length := by
  cases bytes with
  | nil => simp [read?] at h
  | cons first tail =>
    simp only [read?] at h
    split at h
    · split at h
      case h_1 n behind hl =>
        have := length_le_of_readLength? hl
        split at h
        · obtain ⟨-, -, rfl⟩ : _ ∧ _ ∧ _ := by simpa using h
          simp only [List.length_drop, List.length_cons]
          omega
        · simp at h
      · simp at h
    · simp at h

/-- The content of the element at the front if it has the tag asked for, and the bytes behind
it. -/
def readTagged? (tag : UInt8) (bytes : Bytes) : Option (Bytes × Bytes) :=
  match read? bytes with
  | some (found, content, rest) => if found = tag then some (content, rest) else none
  | none => none

/-- The content of the one element that makes up the bytes, if it has the tag asked for. -/
def whole? (tag : UInt8) (bytes : Bytes) : Option Bytes :=
  match readTagged? tag bytes with
  | some (content, []) => some content
  | _ => none

/-! ### Integers -/

/-- The shortest content of a non-negative integer: the top bit of the first byte is clear. -/
def unsignedContent (n : Nat) : Bytes :=
  match Bytes.minimal n with
  | [] => [0]
  | first :: rest => if first < 0x80 then first :: rest else 0 :: first :: rest

/-- The encoding of a non-negative integer. -/
def unsigned (n : Nat) : Bytes :=
  element integerTag (unsignedContent n)

/-- The number in the content of an integer, unless it is negative or not in its shortest
form. -/
def unsignedOfContent? : Bytes → Option Nat
  | [] => none
  | [first] => if first < 0x80 then some first.toNat else none
  | first :: second :: rest =>
    if first = 0 then
      if second < 0x80 then none else some (Bytes.toNat (second :: rest))
    else if first < 0x80 then some (Bytes.toNat (first :: second :: rest))
    else none

/-- The non-negative integer at the front. -/
def readUnsigned? (bytes : Bytes) : Option (Nat × Bytes) :=
  match readTagged? integerTag bytes with
  | some (content, rest) => (unsignedOfContent? content).map fun n => (n, rest)
  | none => none

/-! ### Other types -/

/-- Whether the arcs behind an object identifier's first byte fit: each arc ends, and takes at
most four bytes, or five the last of which is below 16. `size` counts the bytes of the arc
under way. -/
def arcsFit (size : Nat) : Bytes → Bool
  | [] => size = 0
  | b :: rest =>
    (size < 4 || b < 16) && arcsFit (if b < 0x80 then 0 else size + 1) rest

/-- Whether bytes are the content of an object identifier: from three to 39 bytes, the first of
which stands for two arcs. -/
def isIdentifier : Bytes → Bool
  | [] => false
  | first :: rest => first < 120 && 2 ≤ rest.length && rest.length < 39 && arcsFit 0 rest

/-- The content of the object identifier at the front. -/
def readIdentifier? (bytes : Bytes) : Option (Bytes × Bytes) :=
  match readTagged? identifierTag bytes with
  | some (content, rest) => if isIdentifier content then some (content, rest) else none
  | none => none

/-- The encoding of a bit string of whole bytes. -/
def bitString (bytes : Bytes) : Bytes :=
  element bitStringTag (0 :: bytes)

/-- The bytes in the content of a bit string without unused bits. -/
def bitStringOfContent? : Bytes → Option Bytes
  | 0 :: bytes => some bytes
  | _ => none

/-- The element at the front if it is the context-specific one with this number, passing over
those with lower numbers: its tag, its content, and the bytes behind it. There is none if the
bytes end or a higher number or another tag comes first. -/
def readContext? (number : Nat) (bytes : Bytes) : Option (Option (UInt8 × Bytes) × Bytes) :=
  match bytes with
  | [] => some (none, [])
  | tag :: tail =>
    if ¬ isTag tag then none
    else if ¬ isContext tag ∨ number < contextNumber tag then some (none, bytes)
    else
      match _h : read? (tag :: tail) with
      | none => none
      | some (found, content, rest) =>
        if contextNumber found = number then some (some (found, content), rest)
        else readContext? number rest
termination_by bytes.length
decreasing_by exact length_lt_of_read? _h

/-- The content of the explicitly tagged context-specific element with this number, if it is
there. -/
def readExplicit? (number : Nat) (bytes : Bytes) : Option (Option Bytes × Bytes) :=
  match readContext? number bytes with
  | some (some (tag, content), rest) =>
    if isConstructed tag then some (some content, rest) else none
  | some (none, rest) => some (none, rest)
  | none => none

end RequestSigning.Der
