/-!
# Headers of requests

A header map keeps, for each name, its values in their order. Names are compared without
regard to case and kept in lowercase.

Setting a name replaces all the values it had, so nothing of an earlier request is sent along. What
may stand in a value is decided on characters (`isValue`): the tab and everything but control
characters.
-/

namespace RequestSigning

/-- A **header map**: names in lowercase with their values. -/
structure Headers where
  entries : List (String × String)
  deriving DecidableEq, Repr

namespace Headers

/-- The map without headers. -/
def empty : Headers := ⟨[]⟩

/-- The lowercase form of a name. -/
def lowerName (name : String) : String :=
  String.ofList (name.toList.map fun c =>
    if 'A' ≤ c ∧ c ≤ 'Z' then Char.ofNat (c.toNat + 32) else c)

/-- The map with one value for a name, in the place of those it has. -/
def set (headers : Headers) (name value : String) : Headers :=
  ⟨headers.entries.filter (fun entry => entry.1 ≠ lowerName name) ++ [(lowerName name, value)]⟩

/-- The values of a name, in their order. -/
def values (headers : Headers) (name : String) : List String :=
  (headers.entries.filter fun entry => entry.1 = lowerName name).map Prod.snd

/-- Whether a character may stand in a header's value: all but control characters, of which the
tab is admitted. -/
def isValueChar (c : Char) : Bool :=
  c = '\t' || (32 ≤ c.toNat && c.toNat ≠ 127)

/-- Whether a text can be a header's value. -/
def isValue (text : String) : Bool :=
  text.toList.all isValueChar

end Headers

end RequestSigning
