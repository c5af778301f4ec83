import RequestSigning.Proofs.TextParts
import RequestSigning.Settings.Dotenv

/-!
# Values without quotes

In a value without quotes and escapes a character stands for itself, but for the spaces and tabs that
end the value, and for references `$name` and `${name}`. `Dotenv.Writes` says which pieces a text
writes, and a value is read exactly where there are such pieces: it is made of them by putting in what
the references stand for (`Dotenv.readValue_eq_ok_iff`). So whether there is a value does not depend on
the variables.

Behind a name without braces the next character is taken as it is, even if it is a space. So
`$name value` writes a space, where `value value` cannot be read.
-/

namespace RequestSigning.Dotenv

open Text

/-! ### Pieces -/

/-- A **plain** text: no quote is opened in it and nothing is escaped. -/
def Plain (text : List Char) : Prop :=
  ∀ c ∈ text, c ≠ '\'' ∧ c ≠ '"' ∧ c ≠ '\\'

instance (text : List Char) : Decidable (Plain text) :=
  List.decidableBAll _ text

/-- A **piece** of a value: a character that stands for itself, or a reference. -/
inductive Piece
  | char (c : Char)
  | reference (name : String)
  deriving DecidableEq

/-- What a piece stands for. -/
def Piece.expand (scope : Scope) : Piece → List Char
  | char c => [c]
  | reference name => scope.lookup name

/-- What pieces stand for. -/
def expand (scope : Scope) (pieces : List Piece) : List Char :=
  pieces.flatMap (Piece.expand scope)

/-- Whether a character ends a value. -/
def endsValue (c : Char) : Bool :=
  c = ' ' ∨ c = '\t'

/-- Only spaces and tabs stand in a text, or these and a comment. -/
def IsGap (text : List Char) : Prop :=
  (text.dropWhile endsValue).head? = none ∨ (text.dropWhile endsValue).head? = some '#'

/-- The pieces that a text **writes**. A name without braces is as long as it can be. -/
inductive Writes : List Char → List Piece → Prop
  | nil : Writes [] []
  | char {c : Char} {rest : List Char} {pieces : List Piece} (hmark : c ≠ '$')
      (hgap : endsValue c = false) (hplain : c ≠ '\'' ∧ c ≠ '"' ∧ c ≠ '\\')
      (hrest : Writes rest pieces) : Writes (c :: rest) (.char c :: pieces)
  | gap {c : Char} {rest : List Char} (hgap : endsValue c = true) (hrest : IsGap rest) :
      Writes (c :: rest) []
  | braced {name rest : List Char} {pieces : List Piece} (hname : '\x7d' ∉ name)
      (hrest : Writes rest pieces) :
      Writes ('$' :: '\x7b' :: (name ++ '\x7d' :: rest))
        (.reference (String.ofList name) :: pieces)
  | last {name : List Char} (hname : ∀ c ∈ name, isAlphanumeric c = true) :
      Writes ('$' :: name) [.reference (String.ofList name)]
  | adjacent {name rest : List Char} {pieces : List Piece}
      (hname : ∀ c ∈ name, isAlphanumeric c = true) (hrest : Writes ('$' :: rest) pieces) :
      Writes ('$' :: (name ++ '$' :: rest)) (.reference (String.ofList name) :: pieces)
  | bare {c : Char} {name rest : List Char} {pieces : List Piece}
      (hname : ∀ c ∈ name, isAlphanumeric c = true) (hc : isAlphanumeric c = false)
      (hmark : c ≠ '$') (hbrace : ¬(c = '\x7b' ∧ name = [])) (hrest : Writes rest pieces) :
      Writes ('$' :: (name ++ c :: rest)) (.reference (String.ofList name) :: .char c :: pieces)

/-! ### Reading from a place -/

variable {scope : Scope} {text name rest : List Char} {pieces : List Piece}

/-- The value that a text completes, whatever character would be at fault. -/
def Partial.value? (scope : Scope) (state : Partial) : List Char → Option (List Char)
  | [] => state.finish? scope
  | c :: rest =>
    match state.step scope c with
    | .more state => value? scope state rest
    | .done => state.finish? scope
    | .fault => none

theorem Partial.bind_run (state : Partial) (position : Nat) (text : List Char) :
    (Partial.run scope state position text).toOption.bind (finish? scope) =
      state.value? scope text := by
  induction text generalizing state position with
  | nil => rfl
  | cons c rest ih =>
    rw [run, value?]
    cases state.step scope c with
    | more next => exact ih next (position + 1)
    | done => rfl
    | fault => rfl

theorem readValue_eq_ok_iff_value? {value : String} :
    readValue scope text = .ok value ↔
      Partial.value? scope ⟨[], false, .plain⟩ text = some value.toList := by
  rw [readValue, ← Partial.bind_run _ 0]
  cases Partial.run scope ⟨[], false, .plain⟩ 0 text with
  | error position => simp [Except.toOption]
  | ok final =>
    rw [Except.toOption, Option.bind_some]
    cases hfinish : final.finish? scope with
    | none => simp [hfinish]
    | some read =>
      simp only [hfinish, Except.ok.injEq, Option.some.injEq]
      rw [← String.toList_inj, String.toList_ofList]

section

variable (output : List Char)

theorem value?_name (hname : ∀ c ∈ name, isAlphanumeric c = true) (read : List Char) :
    Partial.value? scope ⟨output, false, .name read⟩ (name ++ rest) =
      Partial.value? scope ⟨output, false, .name (name.reverse ++ read)⟩ rest := by
  induction name generalizing read with
  | nil => rfl
  | cons c name ih =>
    rw [List.forall_mem_cons] at hname
    rw [List.cons_append, Partial.value?, Partial.step]
    simp only [hname.1, if_true]
    rw [ih hname.2, List.reverse_cons, List.append_assoc, List.singleton_append]

theorem value?_braced (hname : '\x7d' ∉ name) (read : List Char) :
    Partial.value? scope ⟨output, false, .braced read⟩ (name ++ rest) =
      Partial.value? scope ⟨output, false, .braced (name.reverse ++ read)⟩ rest := by
  induction name generalizing read with
  | nil => rfl
  | cons c name ih =>
    rw [List.mem_cons, not_or] at hname
    obtain ⟨hc, hname⟩ := hname
    rw [List.cons_append, Partial.value?, Partial.step]
    simp only [if_neg (Ne.symm hc)]
    rw [ih hname, List.reverse_cons, List.append_assoc, List.singleton_append]

/-- A value that is over stays as it is. -/
theorem value?_gap {value : List Char} :
    Partial.value? scope ⟨output, false, .trailing⟩ text = some value ↔
      IsGap text ∧ output.reverse = value := by
  rw [IsGap]
  induction text with
  | nil => simp [Partial.value?, Partial.finish?]
  | cons c rest ih =>
    rw [Partial.value?, Partial.step, List.dropWhile_cons]
    by_cases hgap : c = ' ' ∨ c = '\t'
    · have hends : endsValue c = true := decide_eq_true hgap
      simp only [hgap, if_true, hends]
      exact ih
    · have hends : endsValue c = false := decide_eq_false hgap
      simp only [hgap, if_false, hends, Bool.false_eq_true, List.head?_cons, reduceCtorEq, false_or,
        Option.some.injEq]
      by_cases hcomment : c = '#'
      · simp [hcomment, Partial.finish?]
      · simp [hcomment]

theorem value?_plain {c : Char} (hmark : c ≠ '$') (hgap : endsValue c = false)
    (hplain : c ≠ '\'' ∧ c ≠ '"' ∧ c ≠ '\\') :
    Partial.value? scope ⟨output, false, .plain⟩ (c :: rest) =
      Partial.value? scope ⟨c :: output, false, .plain⟩ rest := by
  obtain ⟨hsingle, hdouble, hescape⟩ := hplain
  have hnoGap : ¬(c = ' ' ∨ c = '\t') := of_decide_eq_false hgap
  simp only [Partial.value?, Partial.step, Partial.plainStep, hmark, hsingle, hdouble, hescape, hnoGap,
    if_false, Bool.false_eq_true]
  rfl

theorem value?_mark :
    Partial.value? scope ⟨output, false, .plain⟩ ('$' :: rest) =
      Partial.value? scope ⟨output, false, .name []⟩ rest := rfl

theorem value?_endsValue {c : Char} (hgap : endsValue c = true) :
    Partial.value? scope ⟨output, false, .plain⟩ (c :: rest) =
      Partial.value? scope ⟨output, false, .trailing⟩ rest := by
  rcases of_decide_eq_true hgap with rfl | rfl <;> rfl

/-- The value under way behind a reference. -/
theorem value?_reference (read : List Char) :
    Partial.value? scope ⟨output, false, .braced read⟩ ('\x7d' :: rest) =
      Partial.value? scope
        ⟨(scope.lookup (String.ofList read.reverse)).reverse ++ output, false, .plain⟩ rest := rfl

theorem value?_behindName {c : Char} (hc : isAlphanumeric c = false) (hmark : c ≠ '$')
    {read : List Char} (hbrace : ¬(c = '\x7b' ∧ read = [])) :
    Partial.value? scope ⟨output, false, .name read⟩ (c :: rest) =
      Partial.value? scope
        ⟨c :: ((scope.lookup (String.ofList read.reverse)).reverse ++ output), false, .plain⟩
        rest := by
  rw [Partial.value?, Partial.step]
  simp only [hc, hbrace, hmark, if_false, Bool.false_eq_true]
  rfl

theorem value?_nextName {read : List Char} :
    Partial.value? scope ⟨output, false, .name read⟩ ('$' :: rest) =
      Partial.value? scope
        ⟨(scope.lookup (String.ofList read.reverse)).reverse ++ output, false, .plain⟩
        ('$' :: rest) := by
  rw [Partial.value?, Partial.step]
  have hmark : isAlphanumeric '$' = false := by decide +kernel
  simp only [hmark, if_false, Bool.false_eq_true]
  rfl

/-! ### Pieces are what is read -/

@[simp] theorem expand_cons (piece : Piece) (pieces : List Piece) :
    expand scope (piece :: pieces) = piece.expand scope ++ expand scope pieces := rfl

/-- A text that writes pieces completes the value with what they stand for. -/
theorem Writes.value? (h : Writes text pieces) :
    Partial.value? scope ⟨output, false, .plain⟩ text =
      some (output.reverse ++ expand scope pieces) := by
  induction h generalizing output with
  | nil => simp [Partial.value?, Partial.finish?, expand]
  | char hmark hgap hplain hrest ih =>
    rw [value?_plain output hmark hgap hplain, ih]
    simp [Piece.expand]
  | gap hgap hrest =>
    rw [value?_endsValue output hgap, value?_gap]
    simp [hrest, expand]
  | @braced name rest pieces hname hrest ih =>
    have hopen : Partial.value? scope ⟨output, false, .plain⟩
        ('$' :: '\x7b' :: (name ++ '\x7d' :: rest)) =
      Partial.value? scope ⟨output, false, .braced []⟩ (name ++ '\x7d' :: rest) := by
      rfl
    rw [hopen, value?_braced output hname, value?_reference, ih]
    simp [Piece.expand]
  | @last name hname =>
    have hend : Partial.value? scope ⟨output, false, .name []⟩ (name ++ []) = _ :=
      value?_name output hname []
    rw [List.append_nil, List.append_nil] at hend
    rw [value?_mark, hend]
    simp [Partial.value?, Partial.finish?, Partial.push, expand, Piece.expand]
  | adjacent hname hrest ih =>
    rw [value?_mark, value?_name output hname, value?_nextName, ih]
    simp [Piece.expand]
  | @bare c name rest pieces hname hc hmark hbrace hrest ih =>
    have hopen : ¬(c = '\x7b' ∧ name.reverse ++ [] = []) := by simpa using hbrace
    rw [value?_mark, value?_name output hname, value?_behindName output hc hmark hopen, ih]
    simp [Piece.expand]

/-- A name between braces is read to its end. -/
theorem exists_brace (h : (Partial.value? scope ⟨output, false, .braced []⟩ text).isSome) :
    ∃ name rest, text = name ++ '\x7d' :: rest ∧ '\x7d' ∉ name := by
  by_cases hclose : '\x7d' ∈ text
  · exact List.eq_append_cons_of_mem hclose
  · have hopen : Partial.value? scope ⟨output, false, .braced []⟩ (text ++ []) = _ :=
      value?_braced output hclose []
    rw [List.append_nil, List.append_nil] at hopen
    rw [hopen] at h
    cases h

/-- The longest name that a text starts with. -/
theorem exists_longest_name (text : List Char) :
    ∃ name, (∀ c ∈ name, isAlphanumeric c = true) ∧
      (text = name ∨ ∃ c rest, text = name ++ c :: rest ∧ isAlphanumeric c = false) := by
  refine ⟨text.takeWhile isAlphanumeric, List.all_eq_true.mp List.all_takeWhile, ?_⟩
  have hsplit : text = text.takeWhile isAlphanumeric ++ text.dropWhile isAlphanumeric :=
    List.takeWhile_append_dropWhile.symm
  have hhead := head?_dropWhile isAlphanumeric text
  cases hdrop : text.dropWhile isAlphanumeric with
  | nil =>
    rw [hdrop, List.append_nil] at hsplit
    exact .inl hsplit
  | cons c rest =>
    rw [hdrop] at hsplit hhead
    exact .inr ⟨c, rest, hsplit, hhead c rfl⟩

/-- A reference and what is behind it write pieces, if what is left of the text does. -/
theorem exists_writes_of_mark {rest : List Char} (hrest : Plain rest)
    (h : (Partial.value? scope ⟨output, false, .plain⟩ ('$' :: rest)).isSome)
    (hshorter : ∀ output text, Plain text → text.length ≤ rest.length →
      (Partial.value? scope ⟨output, false, .plain⟩ text).isSome → ∃ pieces, Writes text pieces) :
    ∃ pieces, Writes ('$' :: rest) pieces := by
  rw [value?_mark] at h
  obtain ⟨name, hname, rfl | ⟨c, tail, rfl, hc⟩⟩ := exists_longest_name rest
  · exact ⟨_, .last hname⟩
  · have htail : Plain (c :: tail) := (List.forall_mem_append.mp hrest).2
    have hbehind : Plain tail := (List.forall_mem_cons.mp htail).2
    simp only [List.length_append, List.length_cons] at hshorter
    rw [value?_name output hname] at h
    by_cases hadjacent : c = '$'
    · subst hadjacent
      rw [value?_nextName] at h
      obtain ⟨pieces, hpieces⟩ := hshorter _ _ htail (by simp only [List.length_cons]; omega) h
      exact ⟨_, .adjacent hname hpieces⟩
    · by_cases hbrace : c = '\x7b' ∧ name = []
      · obtain ⟨rfl, rfl⟩ := hbrace
        have hopen : (Partial.value? scope ⟨output, false, .braced []⟩ tail).isSome := h
        obtain ⟨name, rest, rfl, hbraced⟩ := exists_brace output hopen
        rw [value?_braced output hbraced, value?_reference] at hopen
        have hplain : Plain rest :=
          (List.forall_mem_cons.mp (List.forall_mem_append.mp hbehind).2).2
        simp only [List.length_append, List.length_cons] at hshorter
        obtain ⟨pieces, hpieces⟩ := hshorter _ _ hplain (by omega) hopen
        exact ⟨_, .braced hbraced hpieces⟩
      · rw [value?_behindName output hc hadjacent (by simpa using hbrace)] at h
        obtain ⟨pieces, hpieces⟩ := hshorter _ _ hbehind (by omega) h
        exact ⟨_, .bare hname hc hadjacent hbrace hpieces⟩

/-- A plain text that completes a value writes pieces. -/
theorem exists_writes (hplain : Plain text)
    (h : (Partial.value? scope ⟨output, false, .plain⟩ text).isSome) :
    ∃ pieces, Writes text pieces := by
  -- behind a reference less of the text is left, but more than its first character is taken
  induction hlength : text.length using Nat.strongRecOn generalizing text output with
  | ind n ih =>
    subst hlength
    cases text with
    | nil => exact ⟨[], .nil⟩
    | cons c rest =>
      have hshorter : ∀ output text, Plain text → text.length ≤ rest.length →
          (Partial.value? scope ⟨output, false, .plain⟩ text).isSome → ∃ pieces, Writes text pieces :=
        fun output text htext hlength hsome => ih _ (Nat.lt_succ_of_le hlength) output htext hsome rfl
      obtain ⟨hc, hrest⟩ := List.forall_mem_cons.mp hplain
      by_cases hmark : c = '$'
      · subst hmark
        exact exists_writes_of_mark output hrest h hshorter
      · cases hgap : endsValue c with
        | true =>
          rw [value?_endsValue output hgap] at h
          obtain ⟨value, hvalue⟩ := Option.isSome_iff_exists.mp h
          exact ⟨[], .gap hgap ((value?_gap output).mp hvalue).1⟩
        | false =>
          rw [value?_plain output hmark hgap hc] at h
          obtain ⟨pieces, hpieces⟩ := hshorter _ rest hrest (Nat.le_refl _) h
          exact ⟨_, .char hmark hgap hc hpieces⟩

end

/-- **Values.** A plain text is read exactly where it writes pieces, and its value is what these stand
for. -/
theorem readValue_eq_ok_iff (hplain : Plain text) {value : String} :
    readValue scope text = .ok value ↔
      ∃ pieces, Writes text pieces ∧ value = String.ofList (expand scope pieces) := by
  rw [readValue_eq_ok_iff_value?]
  constructor
  · intro h
    obtain ⟨pieces, hpieces⟩ := exists_writes [] hplain (Option.isSome_iff_exists.mpr ⟨_, h⟩)
    rw [hpieces.value?, List.reverse_nil, List.nil_append, Option.some.injEq] at h
    exact ⟨pieces, hpieces, by rw [h, String.ofList_toList]⟩
  · rintro ⟨pieces, hpieces, rfl⟩
    rw [hpieces.value?, String.toList_ofList]
    rfl

end RequestSigning.Dotenv
