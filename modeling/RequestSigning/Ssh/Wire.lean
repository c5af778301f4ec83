import RequestSigning.Bytes

/-!
# The wire format of keys and agent messages

Numbers are four bytes, most significant first. A field is the number of its bytes, then the
bytes. The readers return what they read and the bytes behind it; a field longer than
`maxField` is refused before it is read.

An integer is a field whose content is a number in two's complement, so one with its top bit set has
a zero byte in front. Faults say what was wrong with the bytes, and the modules that read keys and
messages pass them on.
-/

namespace RequestSigning.Wire

/-- Why bytes do not hold, or cannot be written as, what is asked for. -/
inductive Fault
  /-- Fewer bytes are there than a field or number needs. -/
  | length
  /-- A length is out of bounds. -/
  | overflow
  deriving DecidableEq, Repr

/-- The words for a fault. -/
def Fault.message : Fault → String
  | .length => "length invalid"
  | .overflow => "internal overflow error"

/-- Where a fault counts as nothing, what is there is what was read. -/
theorem toOption_eq_some_iff {ε α : Type} {result : Except ε α} {a : α} :
    result.toOption = some a ↔ result = .ok a := by
  cases result <;> simp [Except.toOption]

/-- Bytes in the longest field that is read. -/
def maxField : Nat := 0xFFFFF

/-! ### Writing -/

/-- A number in four bytes. -/
def word (n : Nat) : Bytes :=
  Bytes.ofNat 4 n

/-- A field whose length fits in four bytes. -/
def field (bytes : Bytes) : Bytes :=
  word bytes.length ++ bytes

/-- A field, or a fault if its length does not fit in four bytes. -/
def field? (bytes : Bytes) : Except Fault Bytes :=
  if bytes.length < 0x100000000 then .ok (field bytes) else .error .overflow

/-- The content of a field that holds a non-negative integer: the shortest form with the top bit
of the first byte clear; nothing for zero. -/
def integerContent (n : Nat) : Bytes :=
  match Bytes.minimal n with
  | [] => []
  | first :: rest => if first < 0x80 then first :: rest else 0 :: first :: rest

/-! ### Reading -/

/-- The byte at the front. -/
def readByte : Bytes → Except Fault (UInt8 × Bytes)
  | [] => .error .length
  | b :: rest => .ok (b, rest)

/-- The number at the front. -/
def readWord : Bytes → Except Fault (Nat × Bytes)
  | a :: b :: c :: d :: rest => .ok (Bytes.toNat [a, b, c, d], rest)
  | _ => .error .length

/-- The length at the front of a field. -/
def readLength (bytes : Bytes) : Except Fault (Nat × Bytes) := do
  let (n, rest) ← readWord bytes
  if n ≤ maxField then pure (n, rest) else throw .overflow

/-- The next `n` bytes. -/
def readBytes (n : Nat) (bytes : Bytes) : Except Fault (Bytes × Bytes) :=
  let taken := bytes.take n
  if taken.length = n then .ok (taken, bytes.drop n) else .error .length

/-- The field at the front. -/
def readField (bytes : Bytes) : Except Fault (Bytes × Bytes) := do
  let (n, rest) ← readLength bytes
  readBytes n rest

/-- Reads inside the field at the front, which need not be there to its end. What is behind the
part that was read is left, the rest of the field included. -/
def readInside {α : Type} (read : Bytes → Except Fault (α × Bytes)) (bytes : Bytes) :
    Except Fault (α × Bytes) := do
  let (n, rest) ← readLength bytes
  let inside := rest.take n
  let (value, left) ← read inside
  pure (value, rest.drop (inside.length - left.length))

end RequestSigning.Wire
