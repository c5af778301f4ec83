import RequestSigning.Text.Utf8

/-!
# Process environments

The variables a process was started with. Values are bytes; most readers take only those that
are text.

A variable that is set twice counts with its first value. References in files of variables look a
text up in the whole of an entry (`behind?`), name, equals sign and value, so a reference with an
equals sign in it may find a variable of a shorter name.
-/

namespace RequestSigning

/-- An **environment**: names of variables and the bytes of their values. -/
structure Environment where
  bindings : List (String × Bytes)
  deriving DecidableEq

namespace Environment

/-- The bytes of a variable. -/
def bytes? (environment : Environment) (name : String) : Option Bytes :=
  (environment.bindings.find? fun binding => binding.1 = name).map Prod.snd

/-- The text of a variable, if its bytes are text. -/
def text? (environment : Environment) (name : String) : Option String :=
  (environment.bytes? name).bind Utf8.decode?

/-- The bytes behind a text and an equals sign, if other bytes start with these. -/
def bytesBehind? (start : String) (bytes : Bytes) : Option Bytes :=
  let mark := Utf8.encode start ++ [61]
  if mark.isPrefixOf bytes then some (bytes.drop mark.length) else none

/-- The text that stands behind a text and an equals sign in one of the variables, each of which
is kept as its name, an equals sign and its value. So `A=B` finds `C` where `A` is `B=C`. -/
def behind? (environment : Environment) (start : String) : Option String :=
  let found := environment.bindings.findSome? fun binding =>
    bytesBehind? start (Utf8.encode binding.1 ++ [61] ++ binding.2)
  found.bind Utf8.decode?

end Environment

end RequestSigning
