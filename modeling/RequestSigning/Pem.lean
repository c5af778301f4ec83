import RequestSigning.Base64

/-!
# Armoured text

A block of bytes as text: a line that begins it and names it, the bytes in Base64, and a line
that ends it with the same name. Text may stand before the block, on lines of its own and
without NUL; behind it there may be one line end. A line ends with a line feed, a carriage
return, or a carriage return and a line feed. The Base64 lines are full except for the last,
which a blank line may follow, or two if it is full and has no padding.
-/

namespace RequestSigning.Pem

/-- `-----BEGIN `, what the first line starts with. -/
def beginMark : Bytes := [45, 45, 45, 45, 45, 66, 69, 71, 73, 78, 32]

/-- `-----END `, what the last line starts with. -/
def endMark : Bytes := [45, 45, 45, 45, 45, 69, 78, 68, 32]

/-- `-----`, what both lines end with. -/
def dashes : Bytes := [45, 45, 45, 45, 45]

/-! ### Line ends -/

/-- The bytes behind the line end at the front. -/
def afterLineEnd? : Bytes → Option Bytes
  | 13 :: 10 :: rest => some rest
  | 13 :: rest => some rest
  | 10 :: rest => some rest
  | _ => none

/-- The bytes before the line end at the back; all of them if there is none. -/
def beforeLineEnd (bytes : Bytes) : Bytes :=
  match bytes.reverse with
  | 10 :: 13 :: rest => rest.reverse
  | 10 :: rest => rest.reverse
  | 13 :: rest => rest.reverse
  | _ => bytes

/-! ### The first line -/

/-- The bytes behind the first mark that starts a line and has no NUL before it; `atStart` says
whether a line starts here. -/
def afterBegin? (atStart : Bool) : Bytes → Option Bytes
  | [] => none
  | b :: rest =>
    if atStart && beginMark.isPrefixOf (b :: rest) then
      some ((b :: rest).drop beginMark.length)
    else if b = 0 then none
    else afterBegin? (b = 10) rest

/-! ### The block -/

/-- The text between the first and the last line of the first block, if that block has the
name asked for and the text ends with its last line. -/
def body? (label text : Bytes) : Option Bytes := do
  let rest ← afterBegin? true text
  let opening := label ++ dashes
  if ¬ opening.isPrefixOf rest then none
  let rest ← afterLineEnd? (rest.drop opening.length)
  let closing := endMark ++ label ++ dashes
  let rest := beforeLineEnd rest
  if ¬ closing.isSuffixOf rest then none
  let body := rest.take (rest.length - closing.length)
  let stripped := beforeLineEnd body
  if stripped.length = body.length then none else some stripped

/-! ### The lines of the body -/

theorem length_lt_of_afterLineEnd? {bytes rest : Bytes} (h : afterLineEnd? bytes = some rest) :
    rest.length < bytes.length := by
  unfold afterLineEnd? at h
  split at h <;> simp only [Option.some.injEq, reduceCtorEq] at h
  all_goals subst h; simp only [List.length_cons]; omega

/-- The Base64 lines of the body, if every line but the last has `width` characters and the last
no more. A line end behind a full last line may be missing; if there are two, the last line is
blank. -/
def bodyLines? (width : Nat) (body : Bytes) : Option (List Bytes) :=
  if body.length ≤ width then some [beforeLineEnd body]
  else
    match _h : afterLineEnd? (body.drop width) with
    | none => none
    | some [] => some [body.take width]
    | some (b :: rest) => (bodyLines? width (b :: rest)).map (body.take width :: ·)
termination_by body.length
decreasing_by
  have := length_lt_of_afterLineEnd? _h
  simp only [List.length_drop] at this
  omega

/-- The bytes that Base64 lines write. Padding may stand in the last line only, so that there is
none before a blank one. -/
def decodeLines? (lines : List Bytes) : Option Bytes :=
  if lines.dropLast.any fun line => line.contains Base64.pad then none
  else Base64.decode? lines.flatten

/-- The bytes of the first block of a text, which has the name asked for and Base64 lines of
`width` characters. -/
def decode? (width : Nat) (label text : Bytes) : Option Bytes := do
  let body ← body? label text
  let lines ← bodyLines? width body
  decodeLines? lines

end RequestSigning.Pem
