/-!
# Byte strings

A byte string is a list of bytes. The module reads a byte string as a big-endian number and
writes a number in a given width or in as few bytes as it needs, cuts a byte string into
pieces of one size, and shows it in hexadecimal.

A list has its first byte at hand and is taken apart by recursion, which suits readers that go from
left to right. The lengths here are those of the formats: a width in bytes, a number of characters
on a line.
-/

namespace RequestSigning

/-- A **byte string**. -/
abbrev Bytes := List UInt8

namespace Bytes

/-! ### Numbers -/

/-- The number a byte string writes in base 256, most significant byte first. -/
def toNat (bytes : Bytes) : Nat :=
  bytes.foldl (fun n b => n * 256 + b.toNat) 0

/-- The `width` low-order bytes of a number, most significant first. -/
def ofNat : Nat → Nat → Bytes
  | 0, _ => []
  | width + 1, n => UInt8.ofNat (n >>> (8 * width)) :: ofNat width n

/-- How many bytes a number needs in base 256; none for zero. -/
def width (n : Nat) : Nat :=
  if n = 0 then 0 else Nat.log2 n / 8 + 1

/-- The shortest big-endian form of a number: no leading zero byte, and nothing for zero. -/
def minimal (n : Nat) : Bytes :=
  ofNat (width n) n

theorem length_ofNat (w n : Nat) : (ofNat w n).length = w := by
  induction w with
  | zero => rfl
  | succ w ih => simp [ofNat, ih]

/-! ### Pieces -/

/-- Cuts off pieces of `size + 1` elements, the last one possibly shorter, behind the pieces
already cut off. -/
def chunksAfter {α : Type} (size : Nat) (done : List (List α)) : List α → List (List α)
  | [] => done.reverse
  | a :: rest => chunksAfter size ((a :: rest.take size) :: done) (rest.drop size)
termination_by l => l.length
decreasing_by simp only [List.length_drop, List.length_cons]; omega

/-- The list in pieces of `size` elements, the last one possibly shorter. -/
def chunks {α : Type} (size : Nat) (l : List α) : List (List α) :=
  chunksAfter (size - 1) [] l

theorem flatten_chunksAfter {α : Type} (size : Nat) (done : List (List α)) (l : List α) :
    (chunksAfter size done l).flatten = done.reverse.flatten ++ l := by
  fun_induction chunksAfter size done l with
  | case1 => simp
  | case2 done a rest ih => simp [ih]

/-- The pieces of a list make up the list. -/
theorem flatten_chunks {α : Type} (size : Nat) (l : List α) :
    (chunks size l).flatten = l := by
  simp [chunks, flatten_chunksAfter]

/-! ### Hexadecimal -/

/-- The lowercase hexadecimal digit of a number below sixteen. -/
def hexDigit (n : Nat) : Char :=
  if n < 10 then Char.ofNat (48 + n) else Char.ofNat (87 + n)

/-- The two digits of a byte, the high half first. -/
def hexPair (b : UInt8) : List Char :=
  [hexDigit (b.toNat / 16), hexDigit (b.toNat % 16)]

/-- Two lowercase digits for each byte. -/
def hex (bytes : Bytes) : String :=
  String.ofList (bytes.flatMap hexPair)

end Bytes

end RequestSigning
