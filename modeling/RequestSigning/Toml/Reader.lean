import RequestSigning.Toml.Node

/-!
# Reading TOML

Readers for TOML 1.0. Each takes the characters ahead and returns what it read and the
characters behind it, or nothing. Numbers, dates and other values that are no text are checked
and not kept.

What a value other than a text says makes no difference to a configuration, but whether it is well
formed does, since a document with one mistake is refused as a whole. So dates are checked against
the calendar and numbers against their forms, and then forgotten.
-/

namespace RequestSigning.Toml

/-- Greatest depth of values inside values, and of parts in a dotted name. -/
def maxDepth : Nat := 79

/-! ### Characters -/

/-- Whether a character is a blank within a line. -/
def isSpace (c : Char) : Bool :=
  c = ' ' || c = '\t'

/-- Whether a character may stand in a comment or a quoted text: not a control character, the
tab excepted. -/
def isPlain (c : Char) : Bool :=
  c = '\t' || (0x20 ≤ c.toNat && c.toNat ≠ 0x7F)

/-- The characters behind blanks. -/
def skipSpaces (text : List Char) : List Char :=
  text.dropWhile isSpace

/-- The characters behind a line end. -/
def newline? : List Char → Option (List Char)
  | '\n' :: rest => some rest
  | '\r' :: '\n' :: rest => some rest
  | _ => none

/-- The characters behind blanks and a comment. -/
def skipComment (text : List Char) : List Char :=
  match skipSpaces text with
  | '#' :: rest => rest.dropWhile isPlain
  | rest => rest

/-- The characters behind the end of a statement: blanks, a comment, and a line end unless the
document ends. -/
def endLine? (text : List Char) : Option (List Char) :=
  match skipComment text with
  | [] => some []
  | rest => newline? rest

/-- The characters behind blanks, line ends and comments. -/
def skipLines : Nat → List Char → List Char
  | 0, text => text
  | fuel + 1, text =>
    let rest := skipComment text
    match newline? rest with
    | some rest => skipLines fuel rest
    | none => rest

/-! ### Text -/

/-- The value of a hexadecimal digit. -/
def hexValue? (c : Char) : Option Nat :=
  if '0' ≤ c ∧ c ≤ '9' then some (c.toNat - 48)
  else if 'a' ≤ c ∧ c ≤ 'f' then some (c.toNat - 87)
  else if 'A' ≤ c ∧ c ≤ 'F' then some (c.toNat - 55)
  else none

/-- The character of hexadecimal digits, if they are the number of one. -/
def charOfHex? (digits : List Char) : Option Char := do
  let values ← digits.mapM hexValue?
  let n := values.foldl (fun n v => n * 16 + v) 0
  if h : n.isValidChar then some (Char.ofNatAux n h) else none

/-- The character that a one-letter escape stands for. -/
def escaped? (c : Char) : Option Char :=
  [('b', '\x08'), ('t', '\t'), ('n', '\n'), ('f', '\x0c'), ('r', '\r'), ('"', '"'),
    ('\\', '\\')].lookup c

/-- The text behind a double quote, up to the next one. -/
def basicText? (read : List Char) : List Char → Option (List Char × List Char)
  | '"' :: rest => some (read.reverse, rest)
  | '\\' :: 'u' :: a :: b :: c :: d :: rest => do
    let e ← charOfHex? [a, b, c, d]
    basicText? (e :: read) rest
  | '\\' :: 'U' :: a :: b :: c :: d :: e :: f :: g :: h :: rest => do
    let i ← charOfHex? [a, b, c, d, e, f, g, h]
    basicText? (i :: read) rest
  | '\\' :: c :: rest => do
    let c ← escaped? c
    basicText? (c :: read) rest
  | c :: rest => if isPlain c ∧ c ≠ '\\' then basicText? (c :: read) rest else none
  | [] => none

/-- The text behind a single quote, up to the next one. -/
def literalText? (text : List Char) : Option (List Char × List Char) :=
  let value := text.takeWhile fun c => isPlain c && c ≠ '\''
  match text.drop value.length with
  | '\'' :: rest => some (value, rest)
  | _ => none

/-- The characters behind three closing quotes: as many as two more belong to the text. -/
def moreQuotes (quote : Char) (read : List Char) : List Char → List Char × List Char
  | a :: b :: rest =>
    if a = quote then
      if b = quote then ((b :: a :: read).reverse, rest) else ((a :: read).reverse, b :: rest)
    else (read.reverse, a :: b :: rest)
  | [a] => if a = quote then ((a :: read).reverse, []) else (read.reverse, [a])
  | [] => (read.reverse, [])

/-- Whether a backslash before these characters joins lines: only blanks stand before the line
end. -/
def joinsLines (text : List Char) : Bool :=
  (newline? (skipSpaces text)).isSome

/-- The text behind three double quotes, up to the next three. While `joining`, blanks and line
ends are passed over. -/
def basicLines? (joining : Bool) (read : List Char) : List Char → Option (List Char × List Char)
  | '\r' :: '\n' :: rest => basicLines? joining (if joining then read else '\n' :: read) rest
  | '\n' :: rest => basicLines? joining (if joining then read else '\n' :: read) rest
  | '"' :: '"' :: '"' :: rest => some (moreQuotes '"' read rest)
  | '\\' :: 'u' :: a :: b :: c :: d :: rest => do
    let e ← charOfHex? [a, b, c, d]
    basicLines? false (e :: read) rest
  | '\\' :: 'U' :: a :: b :: c :: d :: e :: f :: g :: h :: rest => do
    let i ← charOfHex? [a, b, c, d, e, f, g, h]
    basicLines? false (i :: read) rest
  | '\\' :: c :: rest =>
    if joinsLines (c :: rest) then basicLines? true read rest
    else do
      let c ← escaped? c
      basicLines? false (c :: read) rest
  | c :: rest =>
    if joining ∧ isSpace c then basicLines? true read rest
    else if isPlain c ∧ c ≠ '\\' then basicLines? false (c :: read) rest
    else none
  | [] => none

/-- The text behind three single quotes, up to the next three. -/
def literalLines? (read : List Char) : List Char → Option (List Char × List Char)
  | '\r' :: '\n' :: rest => literalLines? ('\n' :: read) rest
  | '\n' :: rest => literalLines? ('\n' :: read) rest
  | '\'' :: '\'' :: '\'' :: rest => some (moreQuotes '\'' read rest)
  | c :: rest => if isPlain c then literalLines? (c :: read) rest else none
  | [] => none

/-- The characters without a line end in front. -/
def dropNewline (text : List Char) : List Char :=
  (newline? text).getD text

/-- The quoted text ahead. -/
def text? : List Char → Option (List Char × List Char)
  | '"' :: '"' :: '"' :: rest => basicLines? false [] (dropNewline rest)
  | '\'' :: '\'' :: '\'' :: rest => literalLines? [] (dropNewline rest)
  | '"' :: rest => basicText? [] rest
  | '\'' :: rest => literalText? rest
  | _ => none

/-! ### Names -/

/-- Whether a character may stand in a name without quotes. -/
def isBare (c : Char) : Bool :=
  c.isAlphanum || c = '_' || c = '-'

/-- One part of a name: bare, or quoted on one line. -/
def part? : List Char → Option (String × List Char)
  | '"' :: rest => (basicText? [] rest).map fun (name, rest) => (String.ofList name, rest)
  | '\'' :: rest => (literalText? rest).map fun (name, rest) => (String.ofList name, rest)
  | text =>
    let name := text.takeWhile isBare
    if name = [] then none else some (String.ofList name, text.drop name.length)

/-- The parts of a dotted name, behind those read, the latest first. -/
def parts? : Nat → List String → List Char → Option (List String × List Char)
  | 0, _, _ => none
  | fuel + 1, read, text => do
    let (name, rest) ← part? (skipSpaces text)
    match skipSpaces rest with
    | '.' :: rest => parts? fuel (name :: read) rest
    | rest => some ((name :: read).reverse, rest)

/-- The dotted name ahead, with blanks around it. -/
def name? (text : List Char) : Option (List String × List Char) :=
  parts? maxDepth [] text

/-! ### Numbers -/

/-- Whether characters are digits with single underscores between them. -/
def areDigits (isDigit : Char → Bool) : List Char → Bool
  | [] => false
  | [c] => isDigit c
  | c :: '_' :: rest => isDigit c && areDigits isDigit rest
  | c :: rest => isDigit c && areDigits isDigit rest

/-- The characters behind a sign. -/
def unsigned : List Char → List Char
  | '+' :: rest => rest
  | '-' :: rest => rest
  | text => text

/-- Whether characters are a decimal number without superfluous zeros. -/
def isDecimal (text : List Char) : Bool :=
  text = ['0'] || (areDigits Char.isDigit text && text.head? ≠ some '0')

/-- The number that digits write in a base; underscores are passed over. -/
def numberOf (base : Nat) (text : List Char) : Nat :=
  (text.filterMap hexValue?).foldl (fun n v => n * base + v) 0

/-- Whether characters are an integer of 64 bits. -/
def isInteger (text : List Char) : Bool :=
  match text with
  | '0' :: 'x' :: digits =>
    areDigits (fun c => (hexValue? c).isSome) digits && numberOf 16 digits < 0x8000000000000000
  | '0' :: 'o' :: digits =>
    areDigits (fun c => '0' ≤ c && c ≤ '7') digits && numberOf 8 digits < 0x8000000000000000
  | '0' :: 'b' :: digits =>
    areDigits (fun c => c = '0' || c = '1') digits && numberOf 2 digits < 0x8000000000000000
  | _ =>
    let digits := unsigned text
    let limit := if text.head? = some '-' then 0x8000000000000000 else 0x7fffffffffffffff
    isDecimal digits && numberOf 10 digits ≤ limit

/-- Whether `m · 10 ^ (e - f)` is rounded to a finite floating point number: it lies below the
middle between the greatest of them and 2^1024. -/
def isFinite (m e f : Nat) : Bool :=
  let size := (Nat.toDigits 10 m).length
  if m = 0 then true
  else if size + e ≤ f + 300 then true
  else if f + 400 < size + e then false
  else m * Nat.pow 10 e < (1 <<< 1024 - 1 <<< 970) * Nat.pow 10 f

/-- Whether characters are a floating point number, which may not be too great. -/
def isFloat (text : List Char) : Bool :=
  let digits := unsigned text
  if digits = ['i', 'n', 'f'] ∨ digits = ['n', 'a', 'n'] then true
  else
    let mantissa := digits.takeWhile fun c => c ≠ 'e' && c ≠ 'E'
    let exponent := digits.drop mantissa.length
    let whole := mantissa.takeWhile (· ≠ '.')
    let fraction := mantissa.drop whole.length
    let power := unsigned (exponent.drop 1)
    let formed := isDecimal whole &&
      (fraction = [] || areDigits Char.isDigit (fraction.drop 1)) &&
      (exponent = [] || areDigits Char.isDigit power) &&
      (fraction ≠ [] || exponent ≠ [])
    let places := ((fraction.drop 1).filter Char.isDigit).length
    let m := numberOf 10 (whole ++ fraction.drop 1)
    let e := numberOf 10 power
    let finite :=
      if (exponent.drop 1).head? = some '-' then isFinite m 0 (places + e)
      else isFinite m e places
    formed && (finite || text.head? = some '-')

/-! ### Dates and times -/

/-- The number of exactly as many digits as asked for. -/
def digits? (count : Nat) (text : List Char) : Option (Nat × List Char) :=
  let digits := text.take count
  if digits.length = count ∧ digits.all Char.isDigit then
    some (numberOf 10 digits, text.drop count)
  else none

/-- The characters behind one given character. -/
def after? (c : Char) : List Char → Option (List Char)
  | d :: rest => if d = c then some rest else none
  | [] => none

/-- Days in a month. -/
def daysIn (year month : Nat) : Nat :=
  if month = 2 then
    if year % 4 = 0 ∧ (year % 100 ≠ 0 ∨ year % 400 = 0) then 29 else 28
  else if month = 4 ∨ month = 6 ∨ month = 9 ∨ month = 11 then 30
  else 31

/-- The characters behind a date. -/
def date? (text : List Char) : Option (List Char) := do
  let (year, rest) ← digits? 4 text
  let rest ← after? '-' rest
  let (month, rest) ← digits? 2 rest
  let rest ← after? '-' rest
  let (day, rest) ← digits? 2 rest
  if 1 ≤ month ∧ month ≤ 12 ∧ 1 ≤ day ∧ day ≤ daysIn year month then some rest else none

/-- The characters behind a time of day. -/
def time? (text : List Char) : Option (List Char) := do
  let (hour, rest) ← digits? 2 text
  let rest ← after? ':' rest
  let (minute, rest) ← digits? 2 rest
  let rest ← after? ':' rest
  let (second, rest) ← digits? 2 rest
  if 23 < hour ∨ 59 < minute ∨ 60 < second then none
  match rest with
  | '.' :: fraction =>
    let digits := fraction.takeWhile Char.isDigit
    if digits = [] then none else some (fraction.drop digits.length)
  | _ => some rest

/-- The characters behind an offset from UTC. -/
def offset? : List Char → Option (List Char)
  | [] => some []
  | 'Z' :: rest => some rest
  | 'z' :: rest => some rest
  | sign :: rest => do
    if sign ≠ '+' ∧ sign ≠ '-' then none
    let (hour, rest) ← digits? 2 rest
    let rest ← after? ':' rest
    let (minute, rest) ← digits? 2 rest
    if hour ≤ 23 ∧ minute ≤ 59 then some rest else none

/-- Whether characters are a date, a time, or both. -/
def isMoment (text : List Char) : Bool :=
  match date? text with
  | some [] => true
  | some (mark :: rest) =>
    (mark = 'T' || mark = 't' || mark = ' ') && ((time? rest).bind offset?) == some []
  | none => time? text == some []

/-! ### Values -/

/-- Whether a character may stand in a number, a date or a word. -/
def isToken (c : Char) : Bool :=
  c.isAlphanum || c = '_' || c = '+' || c = '-' || c = '.' || c = ':'

/-- The number, date or truth value ahead. A time may follow its date behind a blank. -/
def token? (text : List Char) : Option (List Char) :=
  let first := text.takeWhile isToken
  let rest := text.drop first.length
  let second := match rest with
    | ' ' :: more => more.takeWhile isToken
    | _ => []
  if date? first = some [] ∧ second ≠ [] then
    if isMoment (first ++ ' ' :: second) then some (rest.drop (second.length + 1)) else none
  else if first = "true".toList ∨ first = "false".toList ∨ isMoment first ∨ isFloat first ∨
      isInteger first then some rest
  else none

/-- The characters behind the values of a list and its closing bracket. -/
def elements? (value? : List Char → Option (Node × List Char)) :
    Nat → List Char → Option (List Char)
  | 0, _ => none
  | fuel + 1, text =>
    match skipLines text.length text with
    | ']' :: rest => some rest
    | start => do
      let (_, rest) ← value? start
      match skipLines rest.length rest with
      | ',' :: rest => elements? value? fuel rest
      | ']' :: rest => some rest
      | _ => none

/-- The characters behind the entries of a table in braces, of which there is at least one, and
its closing brace. -/
def members? (value? : List Char → Option (Node × List Char)) :
    Nat → Table → List Char → Option (List Char)
  | 0, _, _ => none
  | fuel + 1, table, text => do
    let (path, rest) ← name? text
    let rest ← after? '=' rest
    let (node, rest) ← value? (skipSpaces rest)
    let name ← path.getLast?
    let table ← table.assign? path.dropLast name node
    match skipSpaces rest with
    | ',' :: rest => members? value? fuel table rest
    | '\x7d' :: rest => some rest
    | _ => none

/-- The value ahead, with at most as many values around one another as asked for. -/
def value? : Nat → List Char → Option (Node × List Char)
  | depth, text =>
    match text with
    | [] => none
    | c :: rest =>
      if c = '"' ∨ c = '\'' then
        (text? text).map fun (value, rest) => (.text (String.ofList value), rest)
      else if c = '[' then
        match depth with
        | 0 => none
        | depth + 1 => (elements? (value? depth) text.length rest).map fun rest => (.closed, rest)
      else if c = '\x7b' then
        match depth with
        | 0 => none
        | depth + 1 =>
          match skipSpaces rest with
          | '\x7d' :: rest => some (.closed, rest)
          | _ =>
            (members? (value? depth) text.length .empty rest).map fun rest => (.closed, rest)
      else (token? text).map fun rest => (.closed, rest)

/-! ### Documents -/

/-- The document with the statement ahead, and the characters behind it. -/
def statement? (document : Document) (text : List Char) : Option (Document × List Char) :=
  match text with
  | '[' :: '[' :: rest => do
    let (path, rest) ← name? rest
    let rest ← after? ']' rest
    let rest ← after? ']' rest
    let rest ← endLine? rest
    let document ← document.openListed? path
    some (document, rest)
  | '[' :: rest => do
    let (path, rest) ← name? rest
    let rest ← after? ']' rest
    let rest ← endLine? rest
    let document ← document.openTable? path
    some (document, rest)
  | _ => do
    let (path, rest) ← name? text
    let rest ← after? '=' rest
    let (node, rest) ← value? maxDepth (skipSpaces rest)
    let rest ← endLine? rest
    let name ← path.getLast?
    let document ← document.assign? path.dropLast name node
    some (document, rest)

/-- The document with the statements ahead. -/
def statements? : Nat → Document → List Char → Option Document
  | 0, _, _ => none
  | fuel + 1, document, text =>
    match skipLines text.length text with
    | [] => some document
    | text => do
      let (document, rest) ← statement? document text
      statements? fuel document rest

/-- The entries of the document that a text writes; a byte order mark may stand in front. -/
def read? (text : String) : Option Entries := do
  let characters := match text.toList with
    | '\uFEFF' :: rest => rest
    | characters => characters
  let document ← statements? (characters.length + 1) .empty characters
  let root ← document.close?
  some root.entries

end RequestSigning.Toml
