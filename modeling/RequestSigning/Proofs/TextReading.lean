import Mathlib.Tactic.Common

/-!
# Reading a text from left to right

Two steps in which a reader takes a text apart: it passes over characters that have to stand in front
(`Text.behind?`), or it takes the characters up to the next stop (`Text.upTo?`). What was written
without the stop inside and with the stop behind is taken whole (`Text.upTo?_append`), and no stop is
ever inside what was taken (`Text.notMem_of_upTo?`).

The readers here take written values apart again, to state that nothing in them is ambiguous: a
date, an Authorization value. They belong to the statements and have no counterpart among the
functions that run, so that a statement about a written text does not rest on the function that
wrote it.
-/

namespace RequestSigning.Text

/-- The characters behind those that have to stand in front. -/
def behind? (front text : List Char) : Option (List Char) :=
  if front.isPrefixOf text then some (text.drop front.length) else none

/-- The characters before the first stop, and those behind it. -/
def upTo? (stop : Char) : List Char → Option (List Char × List Char)
  | [] => none
  | c :: rest =>
    if c = stop then some ([], rest)
    else (upTo? stop rest).map fun taken => (c :: taken.1, taken.2)

/-- What the characters before the first stop say, and the characters behind it. -/
def readTo? {α : Type} (stop : Char) (read? : List Char → Option α) (text : List Char) :
    Option (α × List Char) := do
  let (taken, rest) ← upTo? stop text
  let value ← read? taken
  some (value, rest)

variable {front text taken rest : List Char} {stop : Char}

@[simp] theorem behind?_append (front rest : List Char) : behind? front (front ++ rest) = some rest := by
  have hprefix : front.isPrefixOf (front ++ rest) = true :=
    List.isPrefixOf_iff_prefix.mpr (List.prefix_append _ _)
  rw [behind?, if_pos hprefix, List.drop_left]

/-- A text is taken up to the first mark behind it. -/
theorem upTo?_append (h : stop ∉ text) (rest : List Char) :
    upTo? stop (text ++ stop :: rest) = some (text, rest) := by
  induction text with
  | nil => exact if_pos rfl
  | cons c text ih =>
    rw [List.mem_cons, not_or] at h
    rw [List.cons_append, upTo?, if_neg (Ne.symm h.1), ih h.2]
    rfl

/-- What is written before a mark is read, if the mark is not in it. -/
theorem readTo?_append {α : Type} {read? : List Char → Option α} {value : α} (h : stop ∉ text)
    (hread : read? text = some value) (rest : List Char) :
    readTo? stop read? (text ++ stop :: rest) = some (value, rest) := by
  rw [readTo?, upTo?_append h]
  simp only [Option.bind_eq_bind, Option.bind_some, hread]

/-- What is taken up to a mark does not hold the mark. -/
theorem notMem_of_upTo? (h : upTo? stop text = some (taken, rest)) : stop ∉ taken := by
  induction text generalizing taken with
  | nil => simp [upTo?] at h
  | cons c text ih =>
    rw [upTo?] at h
    split_ifs at h with hstop
    · obtain ⟨rfl, -⟩ := Prod.mk.inj (Option.some.inj h)
      simp
    · obtain ⟨⟨inner, behind⟩, hinner, heq⟩ := Option.map_eq_some_iff.mp h
      obtain ⟨rfl, rfl⟩ := Prod.mk.inj heq
      rw [List.mem_cons, not_or]
      exact ⟨Ne.symm hstop, ih hinner⟩

/-- Two texts with a stop behind them and in neither are told apart by what follows. -/
theorem append_stop_inj {other otherRest : List Char} (h : stop ∉ text) (hother : stop ∉ other) :
    text ++ stop :: rest = other ++ stop :: otherRest ↔ text = other ∧ rest = otherRest := by
  refine ⟨fun heq => ?_, fun ⟨htext, hrest⟩ => by rw [htext, hrest]⟩
  have hread := upTo?_append h rest
  rw [heq, upTo?_append hother] at hread
  obtain ⟨hsame, hbehind⟩ := Prod.mk.inj (Option.some.inj hread)
  exact ⟨hsame.symm, hbehind.symm⟩

end RequestSigning.Text
