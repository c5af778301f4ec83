import RequestSigning.Environment
import RequestSigning.Text.Characters
import RequestSigning.Text.Blank

/-!
# Files of variables

A file of lines `NAME=value`. Values may be quoted, so that an entry can go on over several
lines, and may refer to other variables by `$name` or `${name}`: those of the process first,
then those of the entries before. A line that is no entry is reported and otherwise passed
over.

Reading has two stages. The first puts physical lines together to logical ones: a line goes on
while a quote or an escape is open. The second reads the name and the value of a logical line.
-/

namespace RequestSigning.Dotenv

open Text

/-- Why there is no entry in a line. -/
inductive Fault
  /-- The line is not text. -/
  | notText
  /-- The text that could not be read, and where in it reading stopped. -/
  | line (text : String) (position : Nat)
  deriving DecidableEq, Repr

/-- The words for a fault. -/
def Fault.message : Fault → String
  | notText => "stream did not contain valid UTF-8"
  | line text position =>
    "Error parsing line: '" ++ text ++ "', error at line index: " ++ toString position

/-- Bytes in the UTF-8 form of characters. -/
def byteLength (text : List Char) : Nat :=
  text.foldl (fun n c => n + c.utf8Size) 0

/-! ### Logical lines -/

/-- What is open at a place in a logical line. -/
inductive Scan
  | complete
  /-- Behind a blank. -/
  | blank
  | escape
  | single
  | singleEscape
  | double
  | doubleEscape
  deriving DecidableEq, Repr

/-- What is open behind a character outside quotes. -/
def Scan.afterPlain (c : Char) : Scan :=
  if c = '\\' then .escape
  else if c = '"' then .double
  else if c = '\'' then .single
  else .complete

/-- What is open behind a character, or nothing where a comment starts. -/
def Scan.next (scan : Scan) (c : Char) : Option Scan :=
  match scan with
  | complete =>
    if isBlank c ∧ c ≠ '\n' ∧ c ≠ '\r' then some blank else some (afterPlain c)
  | blank => if c = '#' then none else some (afterPlain c)
  | escape => some complete
  | single =>
    some (if c = '\\' then singleEscape else if c = '\'' then complete else single)
  | singleEscape => some single
  | double =>
    some (if c = '\\' then doubleEscape else if c = '"' then complete else double)
  | doubleEscape => some double

/-- What is open at the end of a physical line, or the characters before its comment; `read`
holds those read in reverse. -/
def scanLine (scan : Scan) (read : List Char) : List Char → Except (List Char) Scan
  | [] => .ok scan
  | c :: rest =>
    match scan.next c with
    | some scan => scanLine scan (c :: read) rest
    | none => .error read.reverse

/-- A line without its line feed and a carriage return before that. -/
def withoutLineEnd (line : List Char) : List Char :=
  match line.reverse with
  | '\n' :: '\r' :: rest => rest.reverse
  | '\n' :: rest => rest.reverse
  | _ => line

/-- The logical lines of physical ones, which are given with their line feeds, and as nothing
where they are not text. `read` holds the physical lines of the logical one under way, the latest
first, and `scan` what is open behind them. -/
def joinLines (read : List (List Char)) (scan : Scan) :
    List (Option (List Char)) → List (Except Fault (List Char))
  | [] =>
    if scan = .complete then []
    else
      let text := read.reverse.flatten
      [.error (.line (String.ofList text) (byteLength text))]
  | none :: rest => .error .notText :: joinLines [] .complete rest
  | some line :: rest =>
    if read = [] ∧ (trimStart line).head? = some '#' then .ok [] :: joinLines [] .complete rest
    else
      match scanLine scan [] line with
      | .ok .complete =>
        .ok (withoutLineEnd (line :: read).reverse.flatten) :: joinLines [] .complete rest
      | .ok scan => joinLines (line :: read) scan rest
      | .error before => .ok (before :: read).reverse.flatten :: joinLines [] .complete rest

/-- The physical lines of a file, each with its line feed. -/
def physicalLines (bytes : Bytes) : List Bytes :=
  let cut := bytes.foldr
    (fun b (cut : Bytes × List Bytes) =>
      if b = 10 then ([b], if cut.1 = [] then cut.2 else cut.1 :: cut.2) else (b :: cut.1, cut.2))
    ([], [])
  if cut.1 = [] then cut.2 else cut.1 :: cut.2

/-- The logical lines of a file. -/
def logicalLines (bytes : Bytes) : List (Except Fault (List Char)) :=
  joinLines [] .complete
    ((physicalLines bytes).map fun line => (Utf8.decode? line).map String.toList)

/-! ### Values -/

/-- The values that a reference may stand for: what the process has, and the entries read, the
latest first. -/
structure Scope where
  environment : Environment
  entries : List (String × String)

/-- The value that a name stands for; nothing if there is none. -/
def Scope.lookup (scope : Scope) (name : String) : List Char :=
  match scope.environment.behind? name with
  | some value => value.toList
  | none =>
    match scope.entries.find? fun entry => entry.1 = name with
    | some entry => entry.2.toList
    | none => []

/-- What a value's next character belongs to. -/
inductive Place
  | plain
  /-- Behind the value; a comment may follow. -/
  | trailing
  | escape
  | single
  /-- A name behind `$`, its characters so far in reverse. -/
  | name (read : List Char)
  /-- A name between braces. -/
  | braced (read : List Char)
  deriving DecidableEq, Repr

/-- A value under way: its characters in reverse, whether a double quote is open, and the
place. -/
structure Partial where
  output : List Char
  double : Bool
  place : Place
  deriving DecidableEq, Repr

/-- The value under way with characters behind it. -/
def Partial.push (state : Partial) (text : List Char) : Partial :=
  { state with output := text.reverse ++ state.output, place := .plain }

/-- The character that an escape stands for. -/
def unescape? (c : Char) : Option Char :=
  if c = '\\' ∨ c = '\'' ∨ c = '"' ∨ c = '$' ∨ c = ' ' then some c
  else if c = 'n' then some '\n'
  else none

/-- Takes a character outside escapes, single quotes and names. -/
def Partial.plainStep (state : Partial) (c : Char) : Partial :=
  if c = '$' then { state with place := .name [] }
  else if state.double then
    if c = '"' then { state with double := false }
    else if c = '\\' then { state with place := .escape }
    else state.push [c]
  else if c = '\'' then { state with place := .single }
  else if c = '"' then { state with double := true }
  else if c = '\\' then { state with place := .escape }
  else if c = ' ' ∨ c = '\t' then { state with place := .trailing }
  else state.push [c]

/-- What becomes of a value with one character more: it goes on, ends before a comment, or
cannot be read. -/
inductive Step
  | more (state : Partial)
  | done
  | fault

/-- Takes a character. -/
def Partial.step (scope : Scope) (state : Partial) (c : Char) : Step :=
  match state.place with
  | .trailing =>
    if c = ' ' ∨ c = '\t' then .more state else if c = '#' then .done else .fault
  | .escape =>
    match unescape? c with
    | some c => .more (state.push [c])
    | none => .fault
  | .single =>
    if c = '\'' then .more { state with place := .plain }
    else .more { state with output := c :: state.output }
  | .name read =>
    if isAlphanumeric c then .more { state with place := .name (c :: read) }
    else if c = '\x7b' ∧ read = [] then .more { state with place := .braced [] }
    else
      let state := state.push (scope.lookup (String.ofList read.reverse))
      if c = '$' then .more { state with place := .name [] } else .more (state.push [c])
  | .braced read =>
    if c = '\x7d' then .more (state.push (scope.lookup (String.ofList read.reverse)))
    else .more { state with place := .braced (c :: read) }
  | .plain => .more (state.plainStep c)

/-- The value at its end, unless something is still open. -/
def Partial.finish? (scope : Scope) (state : Partial) : Option (List Char) :=
  if state.double then none
  else
    match state.place with
    | .single | .braced _ => none
    | .name read => some (state.push (scope.lookup (String.ofList read.reverse))).output.reverse
    | _ => some state.output.reverse

/-- Takes characters, the first of which has the number given; the fault says which character
cannot be read. -/
def Partial.run (scope : Scope) (state : Partial) (position : Nat) :
    List Char → Except Nat Partial
  | [] => .ok state
  | c :: rest =>
    match state.step scope c with
    | .more state => run scope state (position + 1) rest
    | .done => .ok state
    | .fault => .error position

/-- The value that a text writes. -/
def readValue (scope : Scope) (text : List Char) : Except Fault String :=
  match Partial.run scope ⟨[], false, .plain⟩ 0 text with
  | .error position => .error (.line (String.ofList text) position)
  | .ok state =>
    match state.finish? scope with
    | some value => .ok (String.ofList value)
    | none => .error (.line (String.ofList text) (byteLength text - 1))

/-! ### Entries -/

/-- Whether a name may start with a character. -/
def startsName (c : Char) : Bool :=
  c.isAlpha || c = '_'

/-- Whether a character may stand in a name. -/
def isNameChar (c : Char) : Bool :=
  c.isAlphanum || c = '_' || c = '.'

/-- A rest of a line and the number of bytes before it. -/
structure Cursor where
  rest : List Char
  position : Nat

/-- The cursor behind blanks. -/
def Cursor.skipBlanks (cursor : Cursor) : Cursor :=
  let blanks := cursor.rest.takeWhile isBlank
  ⟨cursor.rest.drop blanks.length, cursor.position + byteLength blanks⟩

/-- The name at a cursor, and the cursor behind the name and blanks. -/
def Cursor.name (cursor : Cursor) : Except Nat (String × Cursor) :=
  match cursor.rest with
  | [] => .error cursor.position
  | c :: _ =>
    if startsName c then
      let name := cursor.rest.takeWhile isNameChar
      .ok (String.ofList name,
        (Cursor.mk (cursor.rest.drop name.length) (cursor.position + name.length)).skipBlanks)
    else .error cursor.position

/-- The cursor behind an equals sign. -/
def Cursor.equals (cursor : Cursor) : Except Nat Cursor :=
  match cursor.rest with
  | '=' :: rest => .ok ⟨rest, cursor.position + 1⟩
  | _ => .error cursor.position

/-- The name of an entry, which `export` may precede, and the cursor at its value. -/
def Cursor.assignment (cursor : Cursor) : Except Nat (String × Cursor) := do
  let (name, cursor) ← cursor.name
  match cursor.equals with
  | .ok cursor => pure (name, cursor.skipBlanks)
  | .error position =>
    if name = "export" then
      let (name, cursor) ← cursor.name
      let cursor ← cursor.equals
      pure (name, cursor.skipBlanks)
    else .error position

/-- The entry of a logical line, or nothing for a blank line or a comment. -/
def readLine (scope : Scope) (line : List Char) : Except Fault (Option (String × String)) :=
  let cursor := (Cursor.mk (trimEnd line) 0).skipBlanks
  if cursor.rest = [] ∨ cursor.rest.head? = some '#' then .ok none
  else
    match cursor.assignment with
    | .error position => .error (.line (String.ofList line) position)
    | .ok (name, cursor) =>
      if cursor.rest = [] ∨ cursor.rest.head? = some '#' then .ok (some (name, ""))
      else
        match readValue scope cursor.rest with
        | .ok value => .ok (some (name, value))
        | .error fault => .error fault

/-- What reading a file gave: the entries, the latest first, and the faults, in order. -/
structure File where
  entries : List (String × String)
  faults : List Fault
  deriving DecidableEq

/-- The file without lines. -/
def File.empty : File := ⟨[], []⟩

/-- Reads a logical line behind those before it. -/
def File.readLine (environment : Environment) (file : File)
    (line : Except Fault (List Char)) : File :=
  match line.bind (Dotenv.readLine ⟨environment, file.entries⟩) with
  | .ok (some entry) => { file with entries := entry :: file.entries }
  | .ok none => file
  | .error fault => { file with faults := file.faults ++ [fault] }

/-- Reads the bytes of a file in a process with an environment. -/
def File.read (environment : Environment) (bytes : Bytes) : File :=
  (logicalLines bytes).foldl (File.readLine environment) .empty

/-- The value of a name: that of the last entry for it. -/
def File.value? (file : File) (name : String) : Option String :=
  (file.entries.find? fun entry => entry.1 = name).map Prod.snd

end RequestSigning.Dotenv
