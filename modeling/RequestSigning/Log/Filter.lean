import RequestSigning.Log
import RequestSigning.Log.Pattern
import RequestSigning.Text.Characters
import RequestSigning.Text.Blank

/-!
# Which events are shown

A filter is a list of rules. A rule applies to the parts of the program whose names start with a
given text, or to all, and perhaps only to events that have a given field. Of the rules that
apply to an event the most specific one decides: the one with the longest text, and of two for
the same parts the one with a field.

Rules are written `name=level`, `name`, `level` or `name[{field}]=level`, separated by commas. A
rule may also name a span, in brackets, or give a pattern for a field's value; such a rule says
nothing about events.
-/

namespace RequestSigning

/-- A **rule**: the start of the names it applies to, or none for all, the field that an event
has to have, if any, and the greatest rank of the events it shows. -/
structure LogRule where
  target : Option String
  field : Option String
  rank : Nat
  deriving DecidableEq, Repr

namespace LogRule

/-- Whether two rules are for the same events. -/
def sameScope (first second : LogRule) : Bool :=
  first.target = second.target && first.field = second.field

/-- How specific a rule's target is. -/
def weight (rule : LogRule) : Nat :=
  match rule.target with
  | none => 0
  | some target => target.utf8ByteSize + 1

/-- Whether a field comes before another; having none comes first. -/
def fieldBefore : Option String → Option String → Bool
  | none, some _ => true
  | some first, some second => first < second
  | _, none => false

/-- Whether a rule gives way to another where both apply. -/
def givesWay (first second : LogRule) : Bool :=
  first.weight < second.weight ||
    (first.weight = second.weight && fieldBefore first.field second.field)

/-- Whether a rule applies to an event. The words of an event are a field of it too. -/
def applies (rule : LogRule) (event : LogEvent) : Bool :=
  (match rule.target with
    | none => true
    | some start => start.toList.isPrefixOf event.target.toList) &&
  (match rule.field with
    | none => true
    | some field => field = "message" || event.fields.any fun entry => entry.1 = field)

end LogRule

/-- The rules of a filter, at most one for the same events. -/
abbrev LogFilter := List LogRule

namespace LogFilter

/-- The filter with a rule in the place of one for the same events. -/
def add (filter : LogFilter) (rule : LogRule) : LogFilter :=
  rule :: filter.filter fun other => ¬ other.sameScope rule

/-- The most specific of the rules that apply. -/
def ruleFor? (filter : LogFilter) (event : LogEvent) : Option LogRule :=
  filter.foldl
    (fun best rule =>
      if rule.applies event then
        match best with
        | none => some rule
        | some old => if old.givesWay rule then some rule else some old
      else best)
    none

/-- Whether a filter shows an event. -/
def shows (filter : LogFilter) (event : LogEvent) : Bool :=
  match ruleFor? filter event with
  | some rule => event.level.rank ≤ rule.rank
  | none => false

/-! ### Levels -/

/-- The level names with the rank each stands for. -/
def levelNames : List (String × Nat) := [
  ("off", 0), ("error", 1), ("warn", 2), ("info", 3), ("debug", 4), ("trace", 5)]

/-- The number that decimal digits write, which a plus sign may precede. -/
def number? (text : List Char) : Option Nat :=
  let digits := match text with
    | '+' :: rest => rest
    | _ => text
  if digits ≠ [] ∧ digits.all Char.isDigit then
    some (digits.foldl (fun n c => n * 10 + (c.toNat - 48)) 0)
  else none

/-- The rank that a level's name, in any case, or number stands for. -/
def rank? (text : List Char) : Option Nat :=
  match number? text with
  | some n => if n ≤ 5 then some n else none
  | none =>
    let name := String.ofList (text.map fun c =>
      if 'A' ≤ c ∧ c ≤ 'Z' then Char.ofNat (c.toNat + 32) else c)
    (levelNames.find? fun level => level.1 = name).map Prod.snd

/-! ### Reading a rule

A rule is scanned without the blanks around it, but its parts are cut out of the text with those
blanks, at the byte positions found by the scan. Hence blanks in front of a rule spoil its parts,
and blanks behind it belong to the last one. -/

/-- Why a text is no rule. -/
inductive RuleFault
  | form
  | level
  | pattern (fault : Pattern.Fault)
  deriving DecidableEq, Repr

/-- The words for a fault. -/
def RuleFault.message : RuleFault → String
  | form => "invalid filter directive"
  | level =>
    "error parsing level filter: expected one of \"off\", \"error\", \"warn\", \"info\", \"debug\", " ++
      "\"trace\", or a number 0-5"
  | pattern fault => "invalid field filter: " ++ fault.message

/-- The characters of a text behind its first `size` bytes. -/
def dropBytes : Nat → List Char → List Char
  | 0, text => text
  | _, [] => []
  | size, c :: rest => dropBytes (size - c.utf8Size) rest

/-- The characters of a text that end within its first `size` bytes. -/
def takeBytes (size : Nat) : List Char → List Char
  | [] => []
  | c :: rest => if c.utf8Size ≤ size then c :: takeBytes (size - c.utf8Size) rest else []

/-- The characters between two byte positions of a text. -/
def cut (text : List Char) (start stop : Nat) : List Char :=
  takeBytes (stop - start) (dropBytes start text)

/-- Where the scan of a rule is. The parts that are cut out later have the position at which
they start. -/
inductive RulePlace
  | start
  | name
  | span (start : Nat)
  | field (start : Nat)
  | fieldEnd
  | spanEnd
  | level (start : Nat)
  deriving DecidableEq, Repr

/-- The parts of a rule before its level. -/
structure RuleParts where
  target : Option (List Char)
  /-- Whether a span is named. -/
  spanned : Bool
  field : Option (List Char)
  deriving DecidableEq, Repr

/-- Whether a rule may start with a character. -/
def startsRule (c : Char) : Bool :=
  c = '-' || c = ':' || c = '_' || Text.isAlphanumeric c

/-- Whether a text writes a decimal number, infinity or not-a-number, perhaps with a sign. -/
def isNumber (text : List Char) : Bool :=
  let unsigned (text : List Char) : List Char :=
    if text.head? = some '+' ∨ text.head? = some '-' then text.tail else text
  let text := (unsigned text).map Char.toLower
  let whole := text.takeWhile Char.isDigit
  let (fraction, rest) := match text.dropWhile Char.isDigit with
    | '.' :: rest => (rest.takeWhile Char.isDigit, rest.dropWhile Char.isDigit)
    | rest => ([], rest)
  ["inf", "infinity", "nan"].contains (String.ofList text) ||
    ((whole ≠ [] || fraction ≠ []) &&
      (match rest with
      | [] => true
      | 'e' :: rest => unsigned rest ≠ [] && (unsigned rest).all Char.isDigit
      | _ => false))

/-- Why a field that is asked for is none. Behind its name and an equals sign there may be a
value, which ends at the next one; unless it is a number it is a pattern. -/
def fieldFault? (field : List Char) : Option RuleFault :=
  match field with
  | [] => some .form
  | _ =>
    match field.dropWhile (· ≠ '=') with
    | [] => none
    | _ :: rest =>
      let value := rest.takeWhile (· ≠ '=')
      if isNumber value then none else (Pattern.fault? value).map .pattern

/-- Takes the character at a position. -/
def scanStep (text : List Char) (position : Nat) (c : Char) (parts : RuleParts) :
    RulePlace → Except RuleFault (RulePlace × RuleParts)
  | .start =>
    if c = '[' then .ok (.span (position + 1), parts)
    else if startsRule c then .ok (.name, parts)
    else .error .form
  | .name =>
    if c = '=' then
      .ok (.level (position + 1), { parts with target := some (cut text 0 position) })
    else if c = '[' then
      .ok (.span (position + 1), { parts with target := some (cut text 0 position) })
    else .ok (.name, parts)
  | .span start =>
    if c = ']' then .ok (.spanEnd, { parts with spanned := true })
    else if c = '\x7b' then
      .ok (.field (position + 1), { parts with spanned := cut text start position ≠ [] })
    else .ok (.span start, parts)
  | .field start =>
    if c = '\x7d' then
      let field := cut text start position
      match fieldFault? field with
      | some fault => .error fault
      | none => .ok (.fieldEnd, { parts with field := some field })
    else .ok (.field start, parts)
  | .fieldEnd => if c = ']' then .ok (.spanEnd, parts) else .error .form
  | .spanEnd => if c = '=' then .ok (.level (position + 1), parts) else .error .form
  | .level start => .ok (.level start, parts)

/-- Takes characters from a position on. -/
def scan (text : List Char) (position : Nat) (parts : RuleParts) (place : RulePlace) :
    List Char → Except RuleFault (RulePlace × RuleParts)
  | [] => .ok (place, parts)
  | c :: rest =>
    match scanStep text position c parts place with
    | .ok (place, parts) => scan text (position + c.utf8Size) parts place rest
    | .error fault => .error fault

/-- The rule for events with some parts and a rank; none if it is about spans, or about the
value of a field, which only spans are asked for. -/
def RuleParts.rule? (parts : RuleParts) (rank : Nat) : Option LogRule :=
  if parts.spanned ∨ (parts.field.getD []).contains '=' then none
  else some ⟨parts.target.map String.ofList, parts.field.map String.ofList, rank⟩

/-- The rule that a text writes; none if it is not about events. A text without a level stands
for all events, and one that is a level for all parts of the program. -/
def readRule (text : List Char) : Except RuleFault (Option LogRule) :=
  match scan text 0 ⟨none, false, none⟩ .start (Text.trim text) with
  | .error fault => .error fault
  | .ok (.name, _) =>
    match rank? text with
    | some rank => .ok (some ⟨none, none, rank⟩)
    | none => .ok (some ⟨some (String.ofList text), none, 5⟩)
  | .ok (.spanEnd, parts) => .ok (parts.rule? 5)
  | .ok (.level start, parts) =>
    match dropBytes start text with
    | [] => .ok (parts.rule? 5)
    | level =>
      match rank? level with
      | some rank => .ok (parts.rule? rank)
      | none => .error .level
  | .ok _ => .error .form

/-! ### Reading rules -/

/-- The texts between commas, the empty ones left out. -/
def ruleTexts (text : List Char) : List (List Char) :=
  let cut := text.foldr
    (fun c (cut : List Char × List (List Char)) =>
      if c = ',' then ([], cut.1 :: cut.2) else (c :: cut.1, cut.2))
    ([], [])
  (cut.1 :: cut.2).filter fun rule => rule ≠ []

/-- The filter of a text of rules, later ones in the place of earlier ones. -/
def read (text : String) : LogFilter :=
  (ruleTexts text.toList).foldl
    (fun filter rule =>
      match readRule rule with
      | .ok (some rule) => add filter rule
      | _ => filter)
    []

/-- The complaints about the rules of a text that are none. -/
def complaints (text : String) : List String :=
  (ruleTexts text.toList).filterMap fun rule =>
    match readRule rule with
    | .ok _ => none
    | .error fault => some ("ignoring `" ++ String.ofList rule ++ "`: " ++ fault.message)

end LogFilter

end RequestSigning
