import RequestSigning.Text.Characters
import RequestSigning.Text.Blank

/-!
# Patterns for field values

Which texts are patterns, as far as a rule of a filter can hold them: no part of a pattern with
a closing brace, a comma or an equals sign can stand there. Hence a brace that opens a count, a
code point or the name of a property is never closed, and no such pattern is well formed.

A pattern is read from left to right. What has to be known of the part already read is which
groups are open, which names groups have, and whether there is something that can be repeated.
-/

namespace RequestSigning.Pattern

/-- Why a text cannot be used as a pattern. -/
inductive Fault
  /-- It is not well formed. -/
  | form
  /-- It asks where words start or end, in the sense of all scripts. -/
  | wordEdge
  deriving DecidableEq, Repr

/-- The words for a fault. -/
def Fault.message : Fault → String
  | form => "error building NFA"
  | wordEdge =>
    "unsupported regex feature for DFAs: cannot build DFAs for regexes with Unicode word " ++
      "boundaries; switch to ASCII word boundaries, or heuristically enable Unicode word " ++
      "boundaries or use a different regex engine"

/-- The **modes** that decide what may be written. -/
structure Modes where
  /-- Blanks and comments count for nothing. -/
  spaced : Bool
  /-- Characters of all scripts are matched, not bytes. -/
  unicode : Bool
  deriving DecidableEq, Repr

/-- The text behind blanks and comments, where these count for nothing; `comment` tells whether
it starts inside a comment. -/
def skipFrom (comment : Bool) : List Char → List Char
  | [] => []
  | c :: rest =>
    if comment then skipFrom (c ≠ '\n') rest
    else if c = '#' then skipFrom true rest
    else if Text.isBlank c then skipFrom false rest
    else c :: rest

/-- The text behind what counts for nothing. -/
def skip (modes : Modes) (text : List Char) : List Char :=
  if modes.spaced then skipFrom false text else text

/-! ### Escapes -/

/-- What stands for one thing in a pattern. -/
inductive Item
  | char (c : Char)
  /-- A set of characters. -/
  | set
  /-- A place, such as the end of the text. -/
  | edge
  /-- A place where a word starts or ends. -/
  | wordEdge
  deriving DecidableEq, Repr

/-- The number that hexadecimal digits write. -/
def hexNumber? (digits : List Char) : Option Nat :=
  digits.foldl
    (fun number c =>
      number.bind fun n =>
        if c.isDigit then some (n * 16 + (c.toNat - 48))
        else if 'a' ≤ c.toLower ∧ c.toLower ≤ 'f' then some (n * 16 + (c.toLower.toNat - 87))
        else none)
    (some 0)

/-- The character whose code point is written by the next `count` digits. -/
def codePoint? (count : Nat) (text : List Char) : Option (Char × List Char) :=
  if text.length < count then none
  else
    (hexNumber? (text.take count)).bind fun n =>
      if h : n.isValidChar then some (Char.ofNatAux n h, text.drop count) else none

/-- What an escape stands for, read behind its backslash. Where bytes are matched, nothing may
stand for one that is no character. -/
def escape? (modes : Modes) : List Char → Option (Item × List Char)
  | [] => none
  | c :: rest =>
    if c = 'x' then
      match codePoint? 2 rest with
      | some (c, rest) => if modes.unicode ∨ c.toNat < 128 then some (.char c, rest) else none
      | none => none
    else if c = 'u' then (codePoint? 4 rest).map fun (c, rest) => (.char c, rest)
    else if c = 'U' then (codePoint? 8 rest).map fun (c, rest) => (.char c, rest)
    else if c = 'p' ∨ c = 'P' then
      match rest with
      | [] => none
      | letter :: rest =>
        if modes.unicode ∧ "clmnpsz".contains letter.toLower then some (.set, rest) else none
    else if c = 'd' ∨ c = 's' ∨ c = 'w' then some (.set, rest)
    else if c = 'D' ∨ c = 'S' ∨ c = 'W' then if modes.unicode then some (.set, rest) else none
    else if c = 'A' ∨ c = 'z' then some (.edge, rest)
    else if c = 'b' ∨ c = 'B' ∨ c = '<' ∨ c = '>' then some (.wordEdge, rest)
    else if c = 'a' then some (.char '\x07', rest)
    else if c = 't' then some (.char '\t', rest)
    else if c = 'n' then some (.char '\n', rest)
    else if c = 'v' then some (.char '\x0b', rest)
    else if c = 'f' then some (.char '\x0c', rest)
    else if c = 'r' then some (.char '\r', rest)
    else if c.toNat < 128 ∧ ¬ c.isAlphanum then some (.char c, rest)
    else none

/-! ### Classes -/

/-- The names of the classes that a class may contain by name. -/
def classNames : List String := [
  "alnum", "alpha", "ascii", "blank", "cntrl", "digit", "graph", "lower", "print", "punct", "space",
  "upper", "word", "xdigit"]

/-- The text behind a class given by its name, of which the opening bracket is read. -/
def namedClassRest? (text : List Char) : Option (List Char) :=
  match text with
  | ':' :: text =>
    let text := if text.head? = some '^' then text.tail else text
    match text.dropWhile (· ≠ ':') with
    | ':' :: ']' :: rest =>
      if classNames.contains (String.ofList (text.takeWhile (· ≠ ':'))) then some rest else none
    | _ => none
  | _ => none

/-- The text behind the opening of a class, of which the bracket is read: a caret that negates
it, and minus signs or else a closing bracket that stand for themselves. -/
def classStart? (modes : Modes) (text : List Char) : Option (List Char) :=
  let text := skip modes text
  let negated := text.head? = some '^'
  if negated ∧ ¬ modes.unicode then none
  else
    let text := if negated then skip modes text.tail else text
    let rest := skip modes (text.dropWhile (· = '-'))
    if text.head? = some ']' then some (skip modes text.tail) else some rest

/-- A member of a class, and the text behind it. -/
def member? (modes : Modes) : List Char → Option (Item × List Char)
  | [] => none
  | '\\' :: rest =>
    match escape? modes rest with
    | some (.char c, rest) => some (.char c, rest)
    | some (.set, rest) => some (.set, rest)
    | _ => none
  | c :: rest => if modes.unicode ∨ c.toNat < 128 then some (.char c, rest) else none

/-- The text behind a member of a class or a range of them, whose ends are in order. -/
def rangeRest? (modes : Modes) (text : List Char) : Option (List Char) :=
  match member? modes text with
  | none => none
  | some (first, rest) =>
    let rest := skip modes rest
    match rest with
    | '-' :: behind =>
      let behind := skip modes behind
      if behind.head? = some ']' ∨ behind.head? = some '-' then some rest
      else
        match first, member? modes behind with
        | .char first, some (.char last, rest) => if first ≤ last then some rest else none
        | _, _ => none
    | _ => some rest

/-- The text behind a class. `depth` counts the classes that are open in it; every step takes a
character, so `fuel` may be any number above the length of the text. -/
def classRest? (modes : Modes) (fuel depth : Nat) (text : List Char) : Option (List Char) :=
  match fuel with
  | 0 => none
  | fuel + 1 =>
    match skip modes text with
    | [] => none
    | '[' :: rest =>
      match namedClassRest? rest with
      | some rest => classRest? modes fuel depth rest
      | none => (classStart? modes rest).bind (classRest? modes fuel (depth + 1))
    | ']' :: rest =>
      match depth with
      | 0 => some rest
      | depth + 1 => classRest? modes fuel depth rest
    | '&' :: '&' :: rest => classRest? modes fuel depth rest
    | '-' :: '-' :: rest => classRest? modes fuel depth rest
    | '~' :: '~' :: rest => classRest? modes fuel depth rest
    | text => (rangeRest? modes text).bind (classRest? modes fuel depth)

/-! ### Groups -/

/-- What has to be known of the part of a pattern already read. -/
structure State where
  modes : Modes
  /-- The modes outside each open group, the innermost first. -/
  outer : List Modes
  names : List (List Char)
  /-- Whether there is something that can be repeated. -/
  repeatable : Bool
  /-- Whether there is a place where a word starts or ends, in the sense of all scripts. -/
  wordEdge : Bool
  deriving DecidableEq, Repr

namespace State

/-- Before the first character. -/
def start : State := ⟨⟨false, true⟩, [], [], false, false⟩

/-- Behind something that can be repeated. -/
def behind (state : State) : State := { state with repeatable := true }

/-- Inside a group with some modes. -/
def enter (state : State) (modes : Modes) : State :=
  { state with modes, outer := state.modes :: state.outer, repeatable := false }

end State

/-- The modes that letters set and, behind a minus sign, clear. No letter comes twice. -/
def Modes.set? (modes : Modes) (letters : List Char) : Option Modes :=
  if letters.all (fun c => "imsUuRx-".contains c) ∧ letters.eraseDups = letters ∧
      letters.getLast? ≠ some '-' then
    let on := letters.takeWhile (· ≠ '-')
    let value (letter : Char) (old : Bool) : Bool :=
      if on.contains letter then true else if letters.contains letter then false else old
    some ⟨value 'x' modes.spaced, value 'u' modes.unicode⟩
  else none

/-- Whether a character may stand in the name of a group, and not only behind the first. -/
def isNameChar (first : Bool) (c : Char) : Bool :=
  c = '_' ||
    (if first then Text.isAlphanumeric c && ¬ c.isDigit
    else c = '.' || c = '[' || c = ']' || Text.isAlphanumeric c)

/-- Takes the name of a group, of which everything before the name is read. -/
def named? (state : State) (text : List Char) : Option (State × List Char) :=
  match text.takeWhile (· ≠ '>'), text.dropWhile (· ≠ '>') with
  | c :: name, '>' :: rest =>
    if isNameChar true c ∧ name.all (isNameChar false) ∧ ¬ state.names.contains (c :: name) then
      some ({ state.enter state.modes with names := (c :: name) :: state.names }, rest)
    else none
  | _, _ => none

/-- Takes the start of a group, of which the parenthesis is read, or a change of modes. There
are no groups that look ahead or back. -/
def group? (state : State) (text : List Char) : Option (State × List Char) :=
  match skip state.modes text with
  | '?' :: '<' :: '=' :: _ => none
  | '?' :: '<' :: '!' :: _ => none
  | '?' :: '<' :: rest => named? state rest
  | '?' :: 'P' :: '<' :: rest => named? state rest
  | '?' :: rest =>
    let ends (c : Char) : Bool := c = ':' || c = ')'
    let letters := rest.takeWhile fun c => ¬ ends c
    match state.modes.set? letters, rest.dropWhile fun c => ¬ ends c with
    | some modes, ':' :: rest => some (state.enter modes, rest)
    | some modes, ')' :: rest =>
      if letters = [] then none else some ({ state with modes, repeatable := false }, rest)
    | _, _ => none
  | rest => some (state.enter state.modes, rest)

/-! ### Patterns -/

/-- Takes what starts with a character outside classes. -/
def step? (state : State) (c : Char) (rest : List Char) : Option (State × List Char) :=
  if c = '(' then group? state rest
  else if c = ')' then
    match state.outer with
    | [] => none
    | modes :: outer => some ({ state.behind with modes, outer }, rest)
  else if c = '|' then some ({ state with repeatable := false }, rest)
  else if c = '[' then
    ((classStart? state.modes rest).bind (classRest? state.modes (rest.length + 1) 0)).map
      fun rest => (state.behind, rest)
  else if c = '?' ∨ c = '*' ∨ c = '+' then if state.repeatable then some (state, rest) else none
  else if c = '\x7b' then none
  else if c = '.' ∧ ¬ state.modes.unicode then none
  else if c = '\\' then
    match escape? state.modes rest with
    | some (.wordEdge, rest) =>
      some ({ state.behind with wordEdge := state.wordEdge || state.modes.unicode }, rest)
    | some (_, rest) => some (state.behind, rest)
    | none => none
  else some (state.behind, rest)

/-- The state behind a whole pattern; every step takes a character, so `fuel` may be any number
above the length of the text. -/
def read? (fuel : Nat) (state : State) (text : List Char) : Option State :=
  match fuel with
  | 0 => none
  | fuel + 1 =>
    match skip state.modes text with
    | [] => if state.outer = [] then some state else none
    | c :: rest => (step? state c rest).bind fun (state, rest) => read? fuel state rest

/-- Why a text cannot be used as a pattern, if it cannot. -/
def fault? (text : List Char) : Option Fault :=
  match read? (text.length + 1) .start text with
  | none => some .form
  | some state => if state.wordEdge then some .wordEdge else none

end RequestSigning.Pattern
