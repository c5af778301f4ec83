import RequestSigning.Proofs.Chains
import RequestSigning.Proofs.DotenvValues
import RequestSigning.Proofs.TextParts

/-!
# Entries without quotes

An entry is a name, which `export` may precede, an equals sign and a value, with blanks between them
(`Dotenv.Lead`). A line without quotes **assigns** pieces to a name (`Dotenv.Assigns`) where it is such
an entry, and it gives an entry exactly then (`Dotenv.readLine_eq_ok_some_iff`).

The relations are about characters and say nothing of the positions that the reader keeps for its
faults. The proofs go along the reader: the name (`Dotenv.name_eq_ok_iff`), the equals sign, the
value. The word `export` needs care, since it is a name itself where an equals sign follows it. A
line that is no entry and not empty is at fault, and its fault quotes the whole line.
-/

namespace RequestSigning.Dotenv

open Text

variable {scope : Scope} {line text value rest : List Char} {name : String} {pieces : List Piece}

/-! ### In front of a value -/

/-- Only **blanks** stand in a text. -/
def AllBlank (text : List Char) : Prop :=
  ∀ c ∈ text, isBlank c = true

instance (text : List Char) : Decidable (AllBlank text) :=
  List.decidableBAll _ text

/-- A text that does not start with a blank. -/
def NoBlankFirst (text : List Char) : Prop :=
  ∀ c ∈ text.head?, isBlank c = false

/-- A **name** that may be assigned to. -/
structure IsName (name : List Char) : Prop where
  first : ∃ c ∈ name.head?, startsName c = true
  all : ∀ c ∈ name, isNameChar c = true

/-- What stands **in front** of the value that is assigned to a name. -/
inductive Lead (name : List Char) : List Char → Prop
  | bare {behind : List Char} (hname : IsName name) (hbehind : AllBlank behind) :
      Lead name (name ++ behind ++ ['='])
  | exported {gap behind : List Char} (hname : IsName name) (hgap : AllBlank gap) (hsome : gap ≠ [])
      (hbehind : AllBlank behind) : Lead name ("export".toList ++ gap ++ (name ++ behind ++ ['=']))

/-- The pieces that a value's text writes, which is empty or a comment where there is no value. -/
def WritesValue (value : List Char) (pieces : List Piece) : Prop :=
  if value.head? = some '#' then pieces = [] else Writes value pieces

/-- A logical line assigns to a name what a **text** writes: it is the name, which `export` may
precede, an equals sign and the text, with blanks around them. -/
def AssignsText (line : List Char) (name : String) (value : List Char) : Prop :=
  ∃ before lead gap, trimEnd line = before ++ (lead ++ (gap ++ value)) ∧ AllBlank before ∧
    Lead name.toList lead ∧ AllBlank gap ∧ NoBlankFirst value

/-- A logical line **assigns** to a name what pieces stand for. -/
def Assigns (line : List Char) (name : String) (pieces : List Piece) : Prop :=
  ∃ value, AssignsText line name value ∧ WritesValue value pieces

/-- A logical line that is empty or a comment. -/
def IsEmptyLine (line : List Char) : Prop :=
  (trimStart (trimEnd line)).head? = none ∨ (trimStart (trimEnd line)).head? = some '#'

/-! ### Characters -/

theorem isNameChar_of_startsName {c : Char} (h : startsName c = true) : isNameChar c = true := by
  rw [startsName, Bool.or_eq_true] at h
  rw [isNameChar, Char.isAlphanum]
  rcases h with halpha | hunder
  · simp [halpha]
  · simp [hunder]

/-- A blank does not stand in a name. -/
theorem isNameChar_of_isBlank {c : Char} (h : isBlank c = true) : isNameChar c = false := by
  rw [← Bool.not_eq_true]
  intro hname
  have hrange : 46 ≤ c.toNat ∧ c.toNat ≤ 122 := by
    have halphanum : c.isAlphanum = (decide ('A'.val ≤ c.val ∧ c.val ≤ 'Z'.val) ||
        (decide ('a'.val ≤ c.val) && decide (c.val ≤ 'z'.val)) ||
        (decide ('0'.val ≤ c.val) && decide (c.val ≤ '9'.val))) := rfl
    simp only [isNameChar, halphanum, Bool.or_eq_true, Bool.and_eq_true, decide_eq_true_eq,
      UInt32.le_iff_toNat_le] at hname
    rcases hname with (hletter | rfl) | rfl
    · have hval : c.toNat = c.val.toNat := rfl
      have hbounds : 'A'.val.toNat = 65 ∧ 'Z'.val.toNat = 90 ∧ 'a'.val.toNat = 97 ∧
          'z'.val.toNat = 122 ∧ '0'.val.toNat = 48 ∧ '9'.val.toNat = 57 := by decide
      omega
    · decide
    · decide
  simp only [isBlank, Bool.or_eq_true, Bool.and_eq_true, decide_eq_true_eq] at h
  omega

theorem isBlank_of_startsName {c : Char} (h : startsName c = true) : isBlank c = false := by
  rw [← Bool.not_eq_true]
  intro hblank
  have hnot := isNameChar_of_isBlank hblank
  rw [isNameChar_of_startsName h] at hnot
  cases hnot

/-! ### Reading a name -/

/-- A name, blanks, and what does not go on with either. -/
structure NameAhead (name behind rest : List Char) : Prop where
  isName : IsName name
  allBlank : AllBlank behind
  noBlankFirst : NoBlankFirst rest
  longest : ∀ c ∈ (behind ++ rest).head?, isNameChar c = false

/-- Blanks may stand between a name and the `=` behind it. -/
theorem NameAhead.equals {name behind : List Char} (hname : IsName name) (hbehind : AllBlank behind) :
    NameAhead name behind ('=' :: rest) := by
  refine ⟨hname, hbehind, by simp [NoBlankFirst, isBlank], ?_⟩
  cases behind with
  | nil => simp [isNameChar]
  | cons c behind =>
    intro d hd
    obtain rfl : c = d := Option.some.inj hd
    exact isNameChar_of_isBlank (hbehind c (by simp))

/-- The word `export` is itself read as a name when a blank stands behind it. -/
theorem NameAhead.export {name gap : List Char} (hname : IsName name) (hgap : AllBlank gap)
    (hsome : gap ≠ []) : NameAhead "export".toList gap (name ++ rest) := by
  obtain ⟨c, hc, hstarts⟩ := hname.first
  obtain ⟨tail, rfl⟩ := List.head?_eq_some_iff.mp hc
  refine ⟨⟨⟨'e', rfl, rfl⟩, List.all_eq_true.mp (by decide)⟩, hgap, ?_, ?_⟩
  · intro d hd
    obtain rfl : c = d := Option.some.inj hd
    exact isBlank_of_startsName hstarts
  · obtain ⟨d, gap, rfl⟩ := List.exists_cons_of_ne_nil hsome
    intro other hother
    obtain rfl : d = other := Option.some.inj hother
    exact isNameChar_of_isBlank (hgap d (by simp))

namespace Cursor

variable {cursor next : Cursor}

@[simp] theorem skipBlanks_rest (cursor : Cursor) :
    cursor.skipBlanks.rest = trimStart cursor.rest :=
  drop_length_takeWhile isBlank cursor.rest

/-- Nothing blank is left in front once the blanks are skipped. -/
theorem noBlankFirst_skipBlanks (cursor : Cursor) : NoBlankFirst cursor.skipBlanks.rest := by
  rw [skipBlanks_rest]
  exact head?_trimStart cursor.rest

/-- A name is the longest run of name characters that starts as a name may, and the blanks behind it
are skipped with it. -/
theorem name_eq_ok_iff {name : String} :
    cursor.name = .ok (name, next) ↔
      (∃ c ∈ cursor.rest.head?, startsName c = true) ∧
        String.ofList (cursor.rest.takeWhile isNameChar) = name ∧
        skipBlanks ⟨cursor.rest.dropWhile isNameChar,
          cursor.position + (cursor.rest.takeWhile isNameChar).length⟩ = next := by
  rw [Cursor.name]
  cases hrest : cursor.rest with
  | nil => simp
  | cons c tail => cases hstarts : startsName c <;> simp [hstarts, drop_length_takeWhile]

/-- The reader finds a name that is laid out in front of it, whole and nothing more. -/
theorem name_of_ahead {name behind rest : List Char} (h : NameAhead name behind rest)
    (hcursor : cursor.rest = name ++ (behind ++ rest)) :
    ∃ next, cursor.name = .ok (String.ofList name, next) ∧ next.rest = rest := by
  obtain ⟨c, hc, hstarts⟩ := h.isName.first
  refine ⟨_, name_eq_ok_iff.mpr ⟨⟨c, ?_, hstarts⟩, ?_, rfl⟩, ?_⟩
  · rw [hcursor, List.head?_append, Option.mem_def.mp hc]
    rfl
  · rw [hcursor, takeWhile_append_of_head? h.isName.all h.longest]
  · have hdrop : cursor.rest.dropWhile isNameChar = behind ++ rest := by
      rw [← drop_length_takeWhile, hcursor, takeWhile_append_of_head? h.isName.all h.longest,
        List.drop_left]
    rw [skipBlanks_rest, hdrop, trimStart_append h.allBlank h.noBlankFirst]

/-- Conversely, a name the reader returns was laid out in front of it. -/
theorem ahead_of_name {name : String} (h : cursor.name = .ok (name, next)) :
    ∃ behind, NameAhead name.toList behind next.rest ∧
      cursor.rest = name.toList ++ (behind ++ next.rest) := by
  obtain ⟨⟨c, hc, hstarts⟩, rfl, rfl⟩ := name_eq_ok_iff.mp h
  obtain ⟨behind, hbehind, hblank⟩ := exists_append_trimStart (cursor.rest.dropWhile isNameChar)
  rw [skipBlanks_rest, String.toList_ofList]
  refine ⟨behind, ⟨⟨⟨c, ?_, hstarts⟩, List.all_eq_true.mp List.all_takeWhile⟩, hblank,
    head?_trimStart _, ?_⟩, ?_⟩
  · obtain ⟨tail, htail⟩ := List.head?_eq_some_iff.mp hc
    rw [htail, List.takeWhile_cons, isNameChar_of_startsName hstarts]
    rfl
  · rw [← hbehind]
    exact head?_dropWhile isNameChar _
  · rw [← hbehind, List.takeWhile_append_dropWhile]

theorem equals_of_rest (h : cursor.rest = '=' :: rest) :
    cursor.equals = .ok ⟨rest, cursor.position + 1⟩ := by
  obtain ⟨text, position⟩ := cursor
  obtain rfl : text = '=' :: rest := h
  rfl

theorem equals_of_head? (h : cursor.rest.head? ≠ some '=') :
    cursor.equals = .error cursor.position := by
  rw [equals]
  split
  · next rest hrest => exact absurd (by rw [hrest]; rfl) h
  · rfl

/-- Only a `=` is passed over as one. -/
theorem exists_rest_of_equals (h : cursor.equals = .ok next) : cursor.rest = '=' :: next.rest := by
  by_cases hhead : cursor.rest.head? = some '='
  · obtain ⟨rest, hrest⟩ := List.head?_eq_some_iff.mp hhead
    rw [equals_of_rest hrest] at h
    rw [hrest, ← Except.ok.inj h]
  · rw [equals_of_head? hhead] at h
    cases h

variable {name : String} {atEquals atName : Cursor}

/-- A name followed by `=` opens an assignment to it, even if the name is `export`. -/
theorem assignment_of_equals (hname : cursor.name = .ok (name, atEquals))
    (hequals : atEquals.equals = .ok next) : cursor.assignment = .ok (name, next.skipBlanks) := by
  rw [assignment, hname, ok_bind]
  simp only [hequals]
  rfl

/-- The word `export` is passed over when another name, and not a `=`, follows it. -/
theorem assignment_of_export (hexport : cursor.name = .ok ("export", atName))
    (hno : atName.rest.head? ≠ some '=') (hname : atName.name = .ok (name, atEquals))
    (hequals : atEquals.equals = .ok next) : cursor.assignment = .ok (name, next.skipBlanks) := by
  rw [assignment, hexport, ok_bind]
  simp only [equals_of_head? hno, if_true, hname, hequals, ok_bind]
  rfl

/-- What stands in front of a value is read, and the blanks behind it. -/
theorem assignment_of_lead {name lead gap : List Char} (hlead : Lead name lead) (hgap : AllBlank gap)
    (hvalue : NoBlankFirst value) (hcursor : cursor.rest = lead ++ (gap ++ value)) :
    ∃ next, cursor.assignment = .ok (String.ofList name, next) ∧ next.rest = value := by
  have hskip : trimStart (gap ++ value) = value := trimStart_append hgap hvalue
  cases hlead with
  | @bare behind hname hbehind =>
    have hrest : cursor.rest = name ++ (behind ++ '=' :: (gap ++ value)) := by
      simpa using hcursor
    obtain ⟨atEquals, hread, hequals⟩ := name_of_ahead (.equals hname hbehind) hrest
    exact ⟨_, assignment_of_equals hread (equals_of_rest hequals), by rw [skipBlanks_rest, hskip]⟩
  | @exported front behind hname hfront hsome hbehind =>
    have hrest : cursor.rest =
        "export".toList ++ (front ++ (name ++ (behind ++ '=' :: (gap ++ value)))) := by
      simpa using hcursor
    obtain ⟨atName, hexport, hnext⟩ := name_of_ahead (.export hname hfront hsome) hrest
    obtain ⟨atEquals, hread, hequals⟩ := name_of_ahead (.equals hname hbehind) hnext
    have hno : atName.rest.head? ≠ some '=' := by
      obtain ⟨c, hc, hstarts⟩ := hname.first
      rw [hnext, List.head?_append, Option.mem_def.mp hc]
      rintro ⟨⟩
      cases hstarts
    exact ⟨_, assignment_of_export hexport hno hread (equals_of_rest hequals),
      by rw [skipBlanks_rest, hskip]⟩

/-- Where an assignment is read, what stands in front of the value is one. -/
theorem lead_of_assignment (h : cursor.assignment = .ok (name, next)) :
    ∃ lead gap, cursor.rest = lead ++ (gap ++ next.rest) ∧ Lead name.toList lead ∧ AllBlank gap ∧
      NoBlankFirst next.rest := by
  rw [assignment, bind_eq_ok_iff] at h
  obtain ⟨⟨first, behindFirst⟩, hfirst, h⟩ := h
  obtain ⟨behind, hahead, hcursor⟩ := ahead_of_name hfirst
  dsimp only at h
  split at h
  · next atValue hequals =>
    obtain ⟨rfl, rfl⟩ := Prod.mk.inj (Except.ok.inj h)
    obtain ⟨gap, hgap, hblank⟩ := exists_append_trimStart atValue.rest
    refine ⟨_, gap, ?_, .bare hahead.isName hahead.allBlank, hblank,
      noBlankFirst_skipBlanks atValue⟩
    rw [skipBlanks_rest, ← hgap, hcursor, exists_rest_of_equals hequals]
    simp
  · next position hequals =>
    split_ifs at h with hexport
    rw [bind_eq_ok_iff] at h
    obtain ⟨⟨second, atEquals⟩, hsecond, h⟩ := h
    rw [bind_eq_ok_iff] at h
    obtain ⟨atValue, hvalue, h⟩ := h
    obtain ⟨rfl, rfl⟩ := Prod.mk.inj (Except.ok.inj h)
    obtain ⟨behindName, haheadName, hname⟩ := ahead_of_name hsecond
    obtain ⟨gap, hgap, hblank⟩ := exists_append_trimStart atValue.rest
    have hsome : behind ≠ [] := by
      -- a name of letters goes on as long as it can
      rintro rfl
      obtain ⟨c, hc, hstarts⟩ := haheadName.isName.first
      have hnot := hahead.longest c (by
        rw [List.nil_append, hname, List.head?_append, Option.mem_def.mp hc]
        rfl)
      rw [isNameChar_of_startsName hstarts] at hnot
      cases hnot
    refine ⟨_, gap, ?_, .exported haheadName.isName hahead.allBlank hsome haheadName.allBlank, hblank,
      noBlankFirst_skipBlanks atValue⟩
    rw [skipBlanks_rest, ← hgap, hcursor, hname, exists_rest_of_equals hvalue, hexport]
    simp

end Cursor

/-! ### Reading a line -/

/-- The value that is read at the end of a line. -/
def valueAt (scope : Scope) (text : List Char) : Except Fault String :=
  if text = [] ∨ text.head? = some '#' then .ok "" else readValue scope text

/-- The cursor at the first character of a line that is no blank. -/
def lineStart (line : List Char) : Cursor :=
  (Cursor.mk (trimEnd line) 0).skipBlanks

/-- A line says nothing when blanks are all there is in front of its end or of a `#`. -/
theorem isEmptyLine_iff : IsEmptyLine line ↔
    (lineStart line).rest = [] ∨ (lineStart line).rest.head? = some '#' := by
  rw [IsEmptyLine, lineStart, Cursor.skipBlanks_rest, List.head?_eq_none_iff]

theorem readLine_of_isEmptyLine (h : IsEmptyLine line) : readLine scope line = .ok none :=
  if_pos (isEmptyLine_iff.mp h)

/-- What a line assigns is the value read behind its `=`, or the value's fault. -/
theorem readLine_of_assignment (h : ¬IsEmptyLine line) {next : Cursor}
    (hassignment : (lineStart line).assignment = .ok (name, next)) :
    readLine scope line = (valueAt scope next.rest).map fun value => some (name, value) := by
  rw [isEmptyLine_iff] at h
  rw [lineStart] at h hassignment
  rw [readLine, if_neg h, valueAt]
  simp only [hassignment]
  split_ifs with hnone
  · rfl
  · cases readValue scope next.rest <;> rfl

/-- The fault of a line without an assignment quotes the whole line. -/
theorem readLine_of_no_assignment (h : ¬IsEmptyLine line) {position : Nat}
    (hassignment : (lineStart line).assignment = .error position) :
    readLine scope line = .error (.line (String.ofList line) position) := by
  rw [isEmptyLine_iff] at h
  rw [lineStart] at h hassignment
  rw [readLine, if_neg h]
  simp only [hassignment]

/-- A value is read from a text exactly when the text writes one, and what is read is its pieces
with the references replaced. -/
theorem valueAt_eq_ok_iff (hplain : Plain text) {read : String} :
    valueAt scope text = .ok read ↔
      ∃ pieces, WritesValue text pieces ∧ read = String.ofList (expand scope pieces) := by
  rw [valueAt]
  by_cases hcomment : text.head? = some '#'
  · simp [WritesValue, hcomment, expand, eq_comm]
  · simp only [WritesValue, hcomment, if_false, or_false]
    rw [← readValue_eq_ok_iff hplain]
    split_ifs with hempty
    · rw [hempty]
      rfl
    · rfl

theorem Plain.trimEnd (h : Plain line) : Plain (trimEnd line) := by
  intro c hc
  rw [trimEnd_eq_reverse, List.mem_reverse] at hc
  exact h c (List.mem_reverse.mp ((List.dropWhile_sublist _).subset hc))

/-- What stands in front of a value starts as a name does, so a line with a lead is not empty. -/
theorem Lead.first {name lead : List Char} (h : Lead name lead) :
    ∃ c ∈ lead.head?, startsName c = true := by
  cases h with
  | bare hname hbehind =>
    obtain ⟨c, hc, hstarts⟩ := hname.first
    exact ⟨c, by simp [Option.mem_def.mp hc], hstarts⟩
  | exported hname hgap hsome hbehind => exact ⟨'e', rfl, rfl⟩

/-- The text of the value is what stands behind an assignment. -/
theorem assignsText_iff : AssignsText line name value ↔
    ¬IsEmptyLine line ∧ ∃ next, (lineStart line).assignment = .ok (name, next) ∧ next.rest = value := by
  rw [isEmptyLine_iff]
  constructor
  · rintro ⟨before, lead, gap, hline, hbefore, hlead, hgap, hvalue⟩
    obtain ⟨c, hc, hstarts⟩ := hlead.first
    have hhead : (lead ++ (gap ++ value)).head? = some c := by
      rw [List.head?_append, Option.mem_def.mp hc]
      rfl
    have hstart : (lineStart line).rest = lead ++ (gap ++ value) := by
      rw [lineStart, Cursor.skipBlanks_rest, hline]
      refine trimStart_append hbefore fun d hd => ?_
      rw [Option.mem_def, hhead, Option.some.injEq] at hd
      rw [← hd]
      exact isBlank_of_startsName hstarts
    refine ⟨?_, by simpa using Cursor.assignment_of_lead hlead hgap hvalue hstart⟩
    rw [hstart, hhead]
    rintro (hempty | hcomment)
    · rw [hempty] at hhead
      cases hhead
    · rw [Option.some.inj hcomment] at hstarts
      cases hstarts
  · rintro ⟨hnonempty, next, hassignment, rfl⟩
    obtain ⟨lead, gap, hstart, hlead, hgap, hvalue⟩ := Cursor.lead_of_assignment hassignment
    obtain ⟨before, hbefore, hblank⟩ := exists_append_trimStart (trimEnd line)
    rw [lineStart, Cursor.skipBlanks_rest] at hstart
    rw [hstart] at hbefore
    exact ⟨before, lead, gap, hbefore, hblank, hlead, hgap, hvalue⟩

/-- The reader takes an assignment apart where the relation does, whatever the value's text. -/
theorem readLine_of_assignsText (h : AssignsText line name value) :
    readLine scope line = (valueAt scope value).map fun value => some (name, value) := by
  obtain ⟨hnonempty, next, hassignment, rfl⟩ := assignsText_iff.mp h
  exact readLine_of_assignment hnonempty hassignment

/-- **Lines.** A line is empty or a comment, or it assigns what its text writes, or it is at fault
whatever the variables are. -/
theorem readLine_cases (line : List Char) :
    (IsEmptyLine line ∧ ∀ scope, readLine scope line = .ok none) ∨
      (∃ name value, AssignsText line name value ∧ ∀ scope, readLine scope line =
        (valueAt scope value).map fun value => some (name, value)) ∨
      ∃ fault, ∀ scope, readLine scope line = .error fault := by
  by_cases hempty : IsEmptyLine line
  · exact .inl ⟨hempty, fun scope => readLine_of_isEmptyLine hempty⟩
  · cases hassignment : (lineStart line).assignment with
    | error position =>
      exact .inr (.inr ⟨_, fun scope => readLine_of_no_assignment hempty hassignment⟩)
    | ok found =>
      have htext : AssignsText line found.1 found.2.rest :=
        assignsText_iff.mpr ⟨hempty, _, hassignment, rfl⟩
      exact .inr (.inl ⟨_, _, htext, fun scope => readLine_of_assignsText htext⟩)

/-- The value's text of a plain line is plain, being its end. -/
theorem AssignsText.plain (h : AssignsText line name value) (hplain : Plain line) : Plain value := by
  obtain ⟨before, lead, gap, hline, -⟩ := h
  intro c hc
  refine hplain.trimEnd c ?_
  rw [hline]
  simp [hc]

/-- **Entries.** A plain line gives an entry exactly where it assigns pieces to its name, and the value
is what these stand for. -/
theorem readLine_eq_ok_some_iff (hplain : Plain line) {read : String} :
    readLine scope line = .ok (some (name, read)) ↔
      ∃ pieces, Assigns line name pieces ∧ read = String.ofList (expand scope pieces) := by
  constructor
  · intro h
    obtain ⟨-, hnone⟩ | ⟨found, value, htext, hline⟩ | ⟨fault, hfault⟩ := readLine_cases line
    · rw [hnone] at h
      cases h
    · rw [hline] at h
      obtain ⟨own, hown, hentry⟩ := map_eq_ok_iff.mp h
      obtain ⟨rfl, rfl⟩ := Prod.mk.inj (Option.some.inj hentry)
      obtain ⟨pieces, hpieces, rfl⟩ := (valueAt_eq_ok_iff (htext.plain hplain)).mp hown
      exact ⟨pieces, ⟨value, htext, hpieces⟩, rfl⟩
    · rw [hfault] at h
      cases h
  · rintro ⟨pieces, ⟨value, htext, hpieces⟩, rfl⟩
    rw [readLine_of_assignsText htext,
      (valueAt_eq_ok_iff (htext.plain hplain)).mpr ⟨pieces, hpieces, rfl⟩]
    rfl

/-- A logical line is **accepted** that is empty, a comment or an assignment. -/
def Accepted (line : List Char) : Prop :=
  IsEmptyLine line ∨ ∃ name pieces, Assigns line name pieces

/-- Whether a plain line is accepted does not depend on the variables. -/
theorem exists_readLine_iff (hplain : Plain line) :
    (∃ entry, readLine scope line = .ok entry) ↔ Accepted line := by
  constructor
  · rintro ⟨entry, hentry⟩
    obtain ⟨hempty, -⟩ | ⟨name, value, htext, hline⟩ | ⟨fault, hfault⟩ := readLine_cases line
    · exact .inl hempty
    · rw [hline] at hentry
      obtain ⟨own, hown, -⟩ := map_eq_ok_iff.mp hentry
      obtain ⟨pieces, hpieces, -⟩ := (valueAt_eq_ok_iff (htext.plain hplain)).mp hown
      exact .inr ⟨name, pieces, value, htext, hpieces⟩
    · rw [hfault] at hentry
      cases hentry
  · rintro (hempty | ⟨name, pieces, hassigns⟩)
    · exact ⟨none, readLine_of_isEmptyLine hempty⟩
    · exact ⟨_, (readLine_eq_ok_some_iff hplain).mpr ⟨pieces, hassigns, rfl⟩⟩

end RequestSigning.Dotenv
