import RequestSigning.Bytes

/-!
# UTF-8

Text as bytes and bytes as text. `decode?` accepts exactly well-formed UTF-8. `decodeLossy`
accepts every byte string: each maximal run of bytes that starts a character and cannot be
continued becomes one replacement character U+FFFD.

Both read one step at a time: `scan` looks at the first byte and says which character starts
there, or none, and how many of the following bytes belong to the step.
-/

namespace RequestSigning.Utf8

/-- The bytes of a text. -/
def encode (text : String) : Bytes :=
  text.toList.flatMap String.utf8EncodeChar

/-- Whether a byte continues a character: `10xxxxxx`. -/
def isContinuation (b : UInt8) : Bool :=
  0x80 ≤ b && b ≤ 0xBF

/-- The six bits that a continuation byte carries. -/
def bits (b : UInt8) : Nat :=
  b.toNat % 64

/-- The bytes that may follow the first byte of a three-byte character: no overlong form and
no surrogate. -/
def secondOfThree (first b : UInt8) : Bool :=
  if first = 0xE0 then 0xA0 ≤ b && b ≤ 0xBF
  else if first = 0xED then 0x80 ≤ b && b ≤ 0x9F
  else isContinuation b

/-- The bytes that may follow the first byte of a four-byte character: no overlong form and
nothing above U+10FFFF. -/
def secondOfFour (first b : UInt8) : Bool :=
  if first = 0xF0 then 0x90 ≤ b && b ≤ 0xBF
  else if first = 0xF4 then 0x80 ≤ b && b ≤ 0x8F
  else isContinuation b

/-- The character that starts at a byte, if one does, and how many of the bytes after it
belong to the step. -/
def scan (first : UInt8) (rest : Bytes) : Option Char × Nat :=
  if first < 0x80 then (some (Char.ofNat first.toNat), 0)
  else if 0xC2 ≤ first && first ≤ 0xDF then
    match rest with
    | b :: _ =>
      if isContinuation b then
        (some (Char.ofNat (first.toNat % 32 * 64 + bits b)), 1)
      else (none, 0)
    | [] => (none, 0)
  else if 0xE0 ≤ first && first ≤ 0xEF then
    match rest with
    | b :: rest =>
      if secondOfThree first b then
        match rest with
        | c :: _ =>
          if isContinuation c then
            (some (Char.ofNat (first.toNat % 16 * 4096 + bits b * 64 + bits c)), 2)
          else (none, 1)
        | [] => (none, 1)
      else (none, 0)
    | [] => (none, 0)
  else if 0xF0 ≤ first && first ≤ 0xF4 then
    match rest with
    | b :: rest =>
      if secondOfFour first b then
        match rest with
        | c :: rest =>
          if isContinuation c then
            match rest with
            | d :: _ =>
              if isContinuation d then
                (some (Char.ofNat
                  (first.toNat % 8 * 262144 + bits b * 4096 + bits c * 64 + bits d)), 3)
              else (none, 2)
            | [] => (none, 2)
          else (none, 1)
        | [] => (none, 1)
      else (none, 0)
    | [] => (none, 0)
  else (none, 0)

/-- What each step reads, in order, behind what has been read. -/
def stepsAfter (done : List (Option Char)) : Bytes → List (Option Char)
  | [] => done.reverse
  | first :: rest =>
    let step := scan first rest
    stepsAfter (step.1 :: done) (rest.drop step.2)
termination_by bytes => bytes.length
decreasing_by simp only [List.length_drop, List.length_cons]; omega

/-- The characters of a byte string, with `none` for each run that is not UTF-8. -/
def steps (bytes : Bytes) : List (Option Char) :=
  stepsAfter [] bytes

/-- The text of a byte string, if it is UTF-8. -/
def decode? (bytes : Bytes) : Option String :=
  let read := steps bytes
  if read.all Option.isSome then some (String.ofList (read.filterMap id)) else none

/-- The replacement character U+FFFD. -/
def replacement : Char := '\uFFFD'

/-- The text of a byte string, with a replacement character for each run that is not UTF-8. -/
def decodeLossy (bytes : Bytes) : String :=
  String.ofList ((steps bytes).map fun c => c.getD replacement)

theorem stepsAfter_eq (done : List (Option Char)) (bytes : Bytes) :
    stepsAfter done bytes = done.reverse ++ steps bytes := by
  induction h : bytes.length using Nat.strongRecOn generalizing done bytes with
  | ind n ih =>
    cases bytes with
    | nil => simp [steps, stepsAfter]
    | cons first rest =>
      have shorter : (rest.drop (scan first rest).2).length < n := by
        simp only [List.length_drop, List.length_cons] at h ⊢
        omega
      rw [steps, stepsAfter, stepsAfter, ih _ shorter (_ :: done) _ rfl,
        ih _ shorter [_] _ rfl]
      simp

theorem steps_cons (first : UInt8) (rest : Bytes) :
    steps (first :: rest) =
      (scan first rest).1 :: steps (rest.drop (scan first rest).2) := by
  rw [steps, stepsAfter, stepsAfter_eq]
  rfl

end RequestSigning.Utf8
