/-!
# Blanks, trimming and lines

The characters of the Unicode property White_Space, text without the blanks at its ends, and
the lines of a text.

Trimming takes blanks off both ends and leaves those inside alone. A line is what stands between two
line feeds; a carriage return before the line feed stays with the line until that is trimmed.
-/

namespace RequestSigning.Text

/-- Whether a character is a **blank**: it has the Unicode property White_Space. -/
def isBlank (c : Char) : Bool :=
  let n := c.toNat
  (9 ≤ n && n ≤ 13) || n = 0x20 || n = 0x85 || n = 0xA0 || n = 0x1680 ||
    (0x2000 ≤ n && n ≤ 0x200A) || n = 0x2028 || n = 0x2029 || n = 0x202F || n = 0x205F ||
    n = 0x3000

/-- The characters without the blanks at the start. -/
def trimStart (text : List Char) : List Char :=
  text.dropWhile isBlank

/-- The characters without the blanks at the end. -/
def trimEnd (text : List Char) : List Char :=
  (text.reverse.dropWhile isBlank).reverse

/-- The characters without the blanks at either end. -/
def trim (text : List Char) : List Char :=
  trimEnd (trimStart text)

/-- The pieces of a text between line feeds; a text that ends with one has an empty last
piece. -/
def lines (text : List Char) : List (List Char) :=
  let cut := text.foldr
    (fun c (cut : List Char × List (List Char)) =>
      if c = '\n' then ([], cut.1 :: cut.2) else (c :: cut.1, cut.2))
    ([], [])
  cut.1 :: cut.2

theorem lines_newline (text : List Char) : lines ('\n' :: text) = [] :: lines text := by
  simp [lines]

end RequestSigning.Text
