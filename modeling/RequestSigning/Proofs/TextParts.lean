import Mathlib.Tactic.Common
import RequestSigning.Text.Blank
import RequestSigning.Text.Utf8

/-!
# Parts of a text

A text is trimmed to what is left without the blanks before and behind it (`Text.trim_eq_iff`), and
is then trimmed as it stands (`Text.trim_trim`). Texts are the same but for the case of their ASCII
letters where they are the same in lowercase (`Text.SameLetters`). And a text is cut behind a number
of bytes of its UTF-8 form where these end between two characters (`Text.cutAtByte?_eq_some_iff`).

The readers of the program take texts apart with `dropWhile` and the like. Here the parts are
described from the other side, by what they are put together from (`Text.IsTrimmed`), so that later
proofs can take a text to be `before ++ trimmed ++ behind` and never open the readers.
-/

namespace RequestSigning.Text

/-! ### Blanks around a text -/

/-- A text **trimmed**: it neither starts nor ends with a blank, and what stands before and behind
it in the whole text is blank. -/
def IsTrimmed (trimmed text : List Char) : Prop :=
  ∃ before behind, text = before ++ trimmed ++ behind ∧
    (∀ c ∈ before, isBlank c = true) ∧ (∀ c ∈ behind, isBlank c = true) ∧
    (∀ c ∈ trimmed.head?, isBlank c = false) ∧ ∀ c ∈ trimmed.getLast?, isBlank c = false

variable {before behind text trimmed : List Char}

theorem head?_dropWhile (p : Char → Bool) (text : List Char) :
    ∀ c ∈ (text.dropWhile p).head?, p c = false := by
  intro c hc
  have hnot := List.head?_dropWhile_not p text
  rw [Option.mem_def] at hc
  rw [hc] at hnot
  exact hnot

theorem head?_trimStart (text : List Char) : ∀ c ∈ (trimStart text).head?, isBlank c = false :=
  head?_dropWhile isBlank text

theorem takeWhile_append_of_head? {p : Char → Bool} (hbefore : ∀ c ∈ before, p c = true)
    (hhead : ∀ c ∈ text.head?, p c = false) : (before ++ text).takeWhile p = before := by
  rw [List.takeWhile_append_of_pos hbefore]
  cases text with
  | nil => rw [List.takeWhile_nil, List.append_nil]
  | cons c text => rw [List.takeWhile_cons, hhead c rfl, if_neg Bool.false_ne_true, List.append_nil]

theorem drop_length_takeWhile (p : Char → Bool) (text : List Char) :
    text.drop (text.takeWhile p).length = text.dropWhile p := by
  have hsplit : (text.takeWhile p ++ text.dropWhile p).drop (text.takeWhile p).length =
      text.dropWhile p := List.drop_left
  rwa [List.takeWhile_append_dropWhile] at hsplit

/-- Blanks in front of what does not start with one are those that are left out. -/
theorem trimStart_append (hbefore : ∀ c ∈ before, isBlank c = true)
    (hhead : ∀ c ∈ text.head?, isBlank c = false) : trimStart (before ++ text) = text := by
  rw [trimStart, List.dropWhile_append_of_pos hbefore]
  cases text with
  | nil => rfl
  | cons c text =>
    have hc : isBlank c = false := hhead c rfl
    rw [List.dropWhile_cons, hc]
    rfl

/-- The blanks at the end are those at the start of the text read backwards. -/
theorem trimEnd_eq_reverse (text : List Char) :
    trimEnd text = (trimStart text.reverse).reverse := rfl

/-- Every text is blanks and the text without the blanks at the start. -/
theorem exists_append_trimStart (text : List Char) :
    ∃ before, text = before ++ trimStart text ∧ ∀ c ∈ before, isBlank c = true :=
  ⟨_, List.takeWhile_append_dropWhile.symm, List.all_eq_true.mp List.all_takeWhile⟩

theorem isTrimmed_trim (text : List Char) : IsTrimmed (trim text) text := by
  obtain ⟨before, htext, hbefore⟩ := exists_append_trimStart text
  obtain ⟨behind, hstart, hbehind⟩ := exists_append_trimStart (trimStart text).reverse
  have hsplit : trimStart text = trim text ++ behind.reverse := by
    rw [trim, trimEnd_eq_reverse, ← List.reverse_append, ← hstart, List.reverse_reverse]
  refine ⟨before, behind.reverse, ?_, hbefore, ?_, ?_, ?_⟩
  · rw [List.append_assoc, ← hsplit, ← htext]
  · simpa only [List.mem_reverse] using hbehind
  · -- the blanks at the end are not the first character, unless nothing else is there
    intro c hc
    apply head?_trimStart text
    rw [hsplit, List.head?_append, Option.mem_def.mp hc]
    rfl
  · rw [trim, trimEnd_eq_reverse, List.getLast?_reverse]
    exact head?_trimStart _

/-- **Trimming.** A text is trimmed to what is left without the blanks around it. -/
theorem trim_eq_iff : trim text = trimmed ↔ IsTrimmed trimmed text := by
  refine ⟨fun h => h ▸ isTrimmed_trim text, ?_⟩
  rintro ⟨before, behind, rfl, hbefore, hbehind, hhead, hlast⟩
  have hbackwards : trimStart (behind.reverse ++ trimmed.reverse) = trimmed.reverse := by
    refine trimStart_append (by simpa only [List.mem_reverse] using hbehind) ?_
    rwa [List.head?_reverse]
  cases trimmed with
  | nil =>
    -- all of the text is blank
    have hall : ∀ c ∈ before ++ behind, isBlank c = true :=
      List.forall_mem_append.mpr ⟨hbefore, hbehind⟩
    have hnone : trimStart (before ++ behind ++ []) = [] := trimStart_append hall (by simp)
    rw [List.append_nil] at hnone
    rw [List.append_nil, trim, hnone]
    rfl
  | cons c rest =>
    have hfront : trimStart (before ++ (c :: rest ++ behind)) = c :: rest ++ behind :=
      trimStart_append hbefore hhead
    rw [List.append_assoc, trim, hfront, trimEnd_eq_reverse, List.reverse_append, hbackwards,
      List.reverse_reverse]

/-- A text is trimmed as it stands exactly if it neither starts nor ends with a blank. -/
theorem isTrimmed_self_iff :
    IsTrimmed text text ↔
      (∀ c ∈ text.head?, isBlank c = false) ∧ ∀ c ∈ text.getLast?, isBlank c = false := by
  constructor
  · rintro ⟨_, _, -, -, -, hhead, hlast⟩
    exact ⟨hhead, hlast⟩
  · rintro ⟨hhead, hlast⟩
    exact ⟨[], [], by simp, by simp, by simp, hhead, hlast⟩

/-- A text in which no character is a blank is trimmed. -/
theorem isTrimmed_self (h : ∀ c ∈ text, isBlank c = false) : IsTrimmed text text :=
  isTrimmed_self_iff.mpr ⟨fun c hc => h c (List.mem_of_mem_head? hc),
    fun c hc => h c (List.mem_of_mem_getLast? hc)⟩

/-- Nothing is left to trim of a trimmed text. -/
theorem trim_trim (text : List Char) : trim (trim text) = trim text := by
  obtain ⟨_, _, -, -, -, hhead, hlast⟩ := isTrimmed_trim text
  exact trim_eq_iff.mpr (isTrimmed_self_iff.mpr ⟨hhead, hlast⟩)

theorem mem_of_mem_trim {c : Char} (h : c ∈ trim text) : c ∈ text := by
  obtain ⟨before, behind, htext, -⟩ := isTrimmed_trim text
  rw [htext]
  exact List.mem_append_left _ (List.mem_append_right _ h)

section

variable {f : Char → Char} (hblank : ∀ c, isBlank (f c) = isBlank c)

include hblank

theorem trimStart_map (text : List Char) : trimStart (text.map f) = (trimStart text).map f := by
  rw [trimStart, trimStart, List.dropWhile_map, show isBlank ∘ f = isBlank from funext hblank]

/-- Characters may be changed before or after trimming, where blanks stay blanks and no others are
made. -/
theorem trim_map (text : List Char) : trim (text.map f) = (trim text).map f := by
  rw [trim, trim, trimStart_map hblank, trimEnd_eq_reverse, trimEnd_eq_reverse, ← List.map_reverse,
    trimStart_map hblank, List.map_reverse]

theorem isTrimmed_map_self_iff : IsTrimmed (text.map f) (text.map f) ↔ IsTrimmed text text := by
  simp only [isTrimmed_self_iff, List.head?_map, List.getLast?_map, Option.mem_def,
    Option.map_eq_some_iff, forall_exists_index, and_imp, forall_apply_eq_imp_iff₂, hblank]

end

/-! ### Letters in either case -/

/-- Texts that are the **same but for the case** of their ASCII letters. -/
def SameLetters (text other : List Char) : Prop :=
  text.map Char.toLower = other.map Char.toLower

instance (text other : List Char) : Decidable (SameLetters text other) :=
  inferInstanceAs (Decidable (_ = _))

/-! ### Texts cut at a byte -/

/-- The text **cut** behind a number of bytes of its UTF-8 form. There is no cut behind the end, and
none inside a character. -/
def cutAtByte? : Nat → List Char → Option (List Char × List Char)
  | 0, text => some ([], text)
  | _ + 1, [] => none
  | n + 1, c :: rest =>
    if c.utf8Size ≤ n + 1 then
      (cutAtByte? (n + 1 - c.utf8Size) rest).map fun cut => (c :: cut.1, cut.2)
    else none

/-- The number of bytes in the UTF-8 form of a text. -/
def byteLength (text : List Char) : Nat :=
  (Utf8.encode (String.ofList text)).length

@[simp] theorem byteLength_nil : byteLength [] = 0 := rfl

theorem byteLength_cons (c : Char) (text : List Char) :
    byteLength (c :: text) = c.utf8Size + byteLength text := by
  simp only [byteLength, Utf8.encode, String.toList_ofList, List.flatMap_cons, List.length_append,
    String.length_utf8EncodeChar]

/-- A text is cut exactly where the bytes in front are those of whole characters. -/
theorem cutAtByte?_eq_some_iff {n : Nat} {front behind : List Char} :
    cutAtByte? n text = some (front, behind) ↔ text = front ++ behind ∧ byteLength front = n := by
  fun_induction cutAtByte? n text generalizing front with
  | case1 text =>
    cases front with
    | nil => simp [eq_comm]
    | cons c front =>
      have hsize := c.utf8Size_pos
      refine iff_of_false (by simp) fun ⟨_, hlength⟩ => ?_
      rw [byteLength_cons] at hlength
      omega
  | case2 n =>
    cases front with
    | nil => simp
    | cons c front => simp
  | case3 n c rest hsize ih =>
    rw [Option.map_eq_some_iff]
    constructor
    · rintro ⟨⟨inner, tail⟩, hcut, heq⟩
      obtain ⟨rfl, rfl⟩ := Prod.mk.inj heq
      obtain ⟨rfl, hlength⟩ := ih.mp hcut
      exact ⟨rfl, by rw [byteLength_cons, hlength]; omega⟩
    · rintro ⟨htext, hlength⟩
      cases front with
      | nil => simp at hlength
      | cons d front =>
        obtain ⟨rfl, rfl⟩ := List.cons.inj htext
        rw [byteLength_cons] at hlength
        exact ⟨(front, behind), ih.mpr ⟨rfl, by omega⟩, rfl⟩
  | case4 n c rest hsize =>
    constructor
    · intro h
      contradiction
    · rintro ⟨htext, hlength⟩
      cases front with
      | nil => simp at hlength
      | cons d front =>
        obtain ⟨rfl, -⟩ := List.cons.inj htext
        rw [byteLength_cons] at hlength
        omega

end RequestSigning.Text
