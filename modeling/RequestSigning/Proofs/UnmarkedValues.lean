import Mathlib.Data.List.TakeWhile
import RequestSigning.Proofs.DotenvLines
import RequestSigning.Proofs.DotenvReferences

/-!
# Lines with an unmarked value

A value without quotes, escapes and references is **unmarked**. Where an unmarked value is assigned to
a name, with a comment behind it or not, what the line is read as does not depend on the variables
(`Dotenv.ValueText.settled`).

Such a value may still have words behind it that reject the line, but nothing on the line asks for a
variable (`Dotenv.Quiet`), and that is all the proofs need. What stands in front of the value is a
name and an equals sign, as in every entry (`Dotenv.LineLead`). The lemmas are about one line; files
of such lines are compared in the module on reworded files.
-/

namespace RequestSigning.Dotenv

open Text

variable {scope : Scope} {lead value ending text : List Char} {name : String}

/-! ### Unmarked texts -/

/-- Whether a character is **unmarked**: it starts no quote, no escape and no reference. -/
def isUnmarked (c : Char) : Bool :=
  c ≠ '\'' ∧ c ≠ '"' ∧ c ≠ '\\' ∧ c ≠ '$'

/-- A text of unmarked characters. -/
def Unmarked (text : List Char) : Prop :=
  ∀ c ∈ text, isUnmarked c = true

instance (text : List Char) : Decidable (Unmarked text) :=
  List.decidableBAll _ text

/-- What may stand **behind** a value up to the end of its line: nothing, the line feed, or a comment
behind spaces and tabs. -/
inductive EndsLine (value : List Char) : List Char → Prop
  | file : EndsLine value []
  | line : EndsLine value ['\n']
  | comment {gap comment : List Char} (hvalue : ∀ c ∈ value.getLast?, isBlank c = false)
      (hgap : ∀ c ∈ gap, endsValue c = true) (hsome : gap ≠ []) :
      EndsLine value (gap ++ '#' :: comment)

/-- What stands in front of the value in a **line** that assigns to a name. -/
def LineLead (name lead : List Char) : Prop :=
  ∃ before front, lead = before ++ front ∧ AllBlank before ∧ Lead name front

/-! ### Values that are read without variables -/

/-- A **quiet** text: a comment, or one that is unmarked up to its first space or tab. -/
def Quiet (text : List Char) : Prop :=
  text.head? = some '#' ∨ ∀ c ∈ text.takeWhile (fun c => !endsValue c), isUnmarked c = true

theorem isUnmarked_iff {c : Char} : isUnmarked c = true ↔
    c ≠ '\'' ∧ c ≠ '"' ∧ c ≠ '\\' ∧ c ≠ '$' := decide_eq_true_iff

theorem references_trailing (output : List Char) :
    Partial.references scope ⟨output, false, .trailing⟩ text = [] := by
  induction text with
  | nil => rfl
  | cons c rest ih =>
    have hstep : Partial.step scope ⟨output, false, .trailing⟩ c =
        if c = ' ' ∨ c = '\t' then .more ⟨output, false, .trailing⟩
        else if c = '#' then .done else .fault := rfl
    have hasked : Partial.asked? ⟨output, false, .trailing⟩ c = none := rfl
    rw [Partial.references, hstep, hasked]
    split_ifs
    · exact ih
    · rfl
    · rfl

theorem references_plain (h : ∀ c ∈ text.takeWhile (fun c => !endsValue c), isUnmarked c = true)
    (output : List Char) : Partial.references scope ⟨output, false, .plain⟩ text = [] := by
  induction text generalizing output with
  | nil => rfl
  | cons c rest ih =>
    by_cases hgap : endsValue c = true
    · have hstep : Partial.step scope ⟨output, false, .plain⟩ c =
          .more ⟨output, false, .trailing⟩ := by
        rcases of_decide_eq_true hgap with rfl | rfl <;> rfl
      rw [Partial.references, hstep]
      exact references_trailing output
    · rw [List.takeWhile_cons_of_pos (by simpa using hgap), List.forall_mem_cons] at h
      obtain ⟨hsingle, hdouble, hescape, hmark⟩ := isUnmarked_iff.mp h.1
      have hnoGap : ¬(c = ' ' ∨ c = '\t') := fun hends => hgap (decide_eq_true hends)
      have hstep : Partial.step scope ⟨output, false, .plain⟩ c =
          .more ⟨c :: output, false, .plain⟩ := by
        simp [Partial.step, Partial.plainStep, Partial.push, hsingle, hdouble, hescape, hmark, hnoGap]
      rw [Partial.references, hstep]
      exact ih h.2 _

/-- A line that assigns a quiet text is read in the same way whatever the variables are. -/
theorem readLine_congr_of_quiet (htext : AssignsText text name value) (hquiet : Quiet value)
    (scope other : Scope) : readLine scope text = readLine other text := by
  refine readLine_congr ?_
  obtain ⟨-, next, hassignment, rfl⟩ := assignsText_iff.mp htext
  rw [lineStart] at hassignment
  rw [lineReferences, hassignment]
  dsimp only
  split_ifs with hempty
  · exact List.forall_mem_nil _
  · rw [references_plain (hquiet.resolve_left fun hcomment => hempty (.inr hcomment))]
    exact List.forall_mem_nil _

theorem Unmarked.quiet (h : Unmarked text) : Quiet text :=
  .inr fun c hc => h c ((List.takeWhile_sublist _).subset hc)

theorem Unmarked.trimStart (h : Unmarked text) : Unmarked (trimStart text) :=
  fun c hc => h c ((List.dropWhile_sublist _).subset hc)

/-- What is cut off somewhere is cut inside the one text or inside the other. -/
theorem prefix_append_cases {front behind : List Char} (h : text <+: front ++ behind) :
    text <+: front ∨ ∃ rest, text = front ++ rest ∧ rest <+: behind := by
  rcases List.prefix_or_prefix_of_prefix h (List.prefix_append front behind) with hinside | hbeyond
  · exact .inl hinside
  · obtain ⟨rest, rfl⟩ := hbeyond
    exact .inr ⟨rest, rfl, (List.prefix_append_right_inj front).mp h⟩

theorem Unmarked.plain (h : Unmarked text) : Plain text := by
  intro c hc
  obtain ⟨hsingle, hdouble, hescape, -⟩ := isUnmarked_iff.mp (h c hc)
  exact ⟨hsingle, hdouble, hescape⟩

/-- Spaces and tabs are blank and unmarked. -/
theorem isBlank_of_endsValue {c : Char} (h : endsValue c = true) :
    isBlank c = true ∧ isUnmarked c = true := by
  rcases of_decide_eq_true h with rfl | rfl <;> decide

theorem Unmarked.append {front behind : List Char} (hfront : Unmarked front)
    (hbehind : ∀ c ∈ behind, isUnmarked c = true) : Unmarked (front ++ behind) :=
  List.forall_mem_append.mpr ⟨hfront, hbehind⟩

/-- What stands up to a space or a tab ends there. -/
theorem mem_of_mem_takeWhile_append {p : Char → Bool} {front behind : List Char} {c d : Char}
    (hd : p d = false) (hc : c ∈ (front ++ d :: behind).takeWhile p) : c ∈ front := by
  induction front with
  | nil => simp [hd] at hc
  | cons e front ih =>
    rw [List.cons_append, List.takeWhile_cons] at hc
    split_ifs at hc with he
    · rcases List.mem_cons.mp hc with rfl | hrest
      · exact List.mem_cons_self
      · exact List.mem_cons_of_mem _ (ih hrest)
    · cases hc

/-- A text that is not all blank is trimmed by itself. -/
theorem trimStart_append_of_exists {front : List Char} (h : ∃ c ∈ front, isBlank c = false)
    (behind : List Char) : trimStart (front ++ behind) = trimStart front ++ behind := by
  have hsome : (front.dropWhile isBlank).isEmpty = false := by
    obtain ⟨c, hc, hblank⟩ := h
    rw [List.isEmpty_eq_false_iff, ne_eq, List.dropWhile_eq_nil_iff]
    intro hall
    rw [hall c hc] at hblank
    cases hblank
  rw [trimStart, List.dropWhile_append, hsome]
  rfl

/-- Behind a value that does not end with a blank, its comment changes nothing. -/
theorem quiet_of_comment {gap comment : List Char} (hvalue : Unmarked value)
    (hlast : ∀ c ∈ value.getLast?, isBlank c = false) (hgap : ∀ c ∈ gap, endsValue c = true)
    (hsome : gap ≠ []) (hcut : text <+: gap ++ '#' :: comment) :
    Quiet (trimStart (value ++ text)) := by
  have hunmarked : ∀ c ∈ gap, isUnmarked c = true := fun c hc => (isBlank_of_endsValue (hgap c hc)).2
  rcases prefix_append_cases hcut with hinside | ⟨rest, rfl, hrest⟩
  · exact (hvalue.append fun c hc => hunmarked c (hinside.subset hc)).trimStart.quiet
  · cases value with
    | nil =>
      -- the value is empty, and the text is left out up to its comment
      cases rest with
      | nil => exact (hvalue.append (by simpa using hunmarked)).trimStart.quiet
      | cons d rest =>
        obtain ⟨rfl, -⟩ := List.cons_prefix_cons.mp hrest
        have hskip : trimStart (gap ++ '#' :: rest) = '#' :: rest :=
          trimStart_append (fun c hc => (isBlank_of_endsValue (hgap c hc)).1) (by simp [isBlank])
        rw [List.nil_append, hskip]
        exact .inl rfl
    | cons c value =>
      obtain ⟨d, gap, rfl⟩ := List.exists_cons_of_ne_nil hsome
      have hkept : trimStart (c :: value ++ (d :: gap ++ rest)) =
          trimStart (c :: value) ++ d :: (gap ++ rest) := by
        refine trimStart_append_of_exists ⟨(c :: value).getLast (by simp), by simp, ?_⟩ _
        exact hlast _ (List.getLast?_eq_some_getLast _)
      rw [hkept]
      refine .inr fun e he => hvalue.trimStart e (mem_of_mem_takeWhile_append ?_ he)
      simp [hgap d (by simp)]

/-- What is left of a value and the end of its line is quiet, wherever it is cut. -/
theorem quiet_of_cut (hvalue : Unmarked value) (hends : EndsLine value ending)
    (hcut : text <+: value ++ ending) : Quiet (trimStart text) := by
  rcases prefix_append_cases hcut with hinside | ⟨rest, rfl, hrest⟩
  · have htext : Unmarked text := fun c hc => hvalue c (hinside.subset hc)
    exact htext.trimStart.quiet
  · cases hends with
    | file =>
      rw [List.prefix_nil.mp hrest, List.append_nil]
      exact hvalue.trimStart.quiet
    | line =>
      have hfeed : ∀ c ∈ ['\n'], isUnmarked c = true := List.forall_mem_singleton.mpr rfl
      exact (hvalue.append fun c hc => hfeed c (hrest.subset hc)).trimStart.quiet
    | comment hlast hgap hsome => exact quiet_of_comment hvalue hlast hgap hsome hrest

/-! ### In front of the value -/

/-- The characters that may stand in front of a value. -/
def isLeadChar (c : Char) : Bool :=
  isBlank c || isNameChar c || c = '='

theorem IsName.isLeadChar {name : List Char} (h : IsName name) : ∀ c ∈ name, isLeadChar c = true :=
  fun c hc => by simp [Dotenv.isLeadChar, h.all c hc]

theorem AllBlank.isLeadChar {text : List Char} (h : AllBlank text) :
    ∀ c ∈ text, isLeadChar c = true :=
  fun c hc => by simp [Dotenv.isLeadChar, h c hc]

/-- What stands in front of a value is made of its characters, and ends with the equals sign. -/
theorem Lead.exists_append {name lead : List Char} (h : Lead name lead) :
    (∀ c ∈ lead, isLeadChar c = true) ∧ ∃ front, lead = front ++ ['='] := by
  have hequals : ∀ c ∈ ['='], isLeadChar c = true := List.forall_mem_singleton.mpr rfl
  have hexport : ∀ c ∈ "export".toList, isLeadChar c = true := List.all_eq_true.mp (by decide)
  cases h with
  | bare hname hbehind =>
    refine ⟨?_, _, rfl⟩
    simp only [List.forall_mem_append]
    exact ⟨⟨hname.isLeadChar, hbehind.isLeadChar⟩, hequals⟩
  | exported hname hgap hsome hbehind =>
    refine ⟨?_, _, (List.append_assoc _ _ _).symm⟩
    simp only [List.forall_mem_append]
    exact ⟨⟨hexport, hgap.isLeadChar⟩, ⟨hname.isLeadChar, hbehind.isLeadChar⟩, hequals⟩

namespace LineLead

variable {name : List Char} (h : LineLead name lead)
include h

theorem exists_append : (∀ c ∈ lead, isLeadChar c = true) ∧ ∃ front, lead = front ++ ['='] := by
  obtain ⟨before, front, rfl, hbefore, hlead⟩ := h
  obtain ⟨hall, own, rfl⟩ := hlead.exists_append
  exact ⟨List.forall_mem_append.mpr ⟨hbefore.isLeadChar, hall⟩, before ++ own,
    (List.append_assoc _ _ _).symm⟩

theorem plain : Plain lead := by
  intro c hc
  have hall := h.exists_append.1 c hc
  refine ⟨?_, ?_, ?_⟩ <;> rintro rfl <;> revert hall <;> decide

theorem noComment : '#' ∉ lead := by
  intro hc
  have hall := h.exists_append.1 '#' hc
  revert hall
  decide

/-- What reaches beyond the end of some text holds the equals sign. -/
theorem equals_mem {kept beyond : List Char} (hsome : beyond ≠ []) (hbeyond : lead = kept ++ beyond) :
    '=' ∈ beyond := by
  obtain ⟨-, front, rfl⟩ := h.exists_append
  have hlast := List.getLast?_eq_some_getLast hsome
  have hsame := congrArg List.getLast? hbeyond
  rw [List.getLast?_append, List.getLast?_append, hlast, List.getLast?_singleton, Option.some_or,
    Option.some_or, ← hlast] at hsame
  exact List.mem_of_getLast? hsame.symm

/-- The line is not a comment. -/
theorem head?_trimStart (behind : List Char) : (trimStart (lead ++ behind)).head? ≠ some '#' := by
  obtain ⟨before, front, rfl, hbefore, hlead⟩ := h
  obtain ⟨c, hc, hstarts⟩ := hlead.first
  have hhead : (front ++ behind).head? = some c := by
    rw [List.head?_append, Option.mem_def.mp hc]
    rfl
  have hskip : trimStart (before ++ (front ++ behind)) = front ++ behind := by
    refine trimStart_append hbefore fun d hd => ?_
    rw [Option.mem_def, hhead, Option.some.injEq] at hd
    rw [← hd]
    exact isBlank_of_startsName hstarts
  rw [List.append_assoc, hskip, hhead]
  rintro ⟨⟩
  cases hstarts

/-- Blanks at the end of a value are those at the end of its line. -/
theorem trimEnd_append (behind : List Char) : trimEnd (lead ++ behind) = lead ++ trimEnd behind := by
  obtain ⟨-, front, rfl⟩ := h.exists_append
  rw [trimEnd_eq_reverse, trimEnd_eq_reverse, List.reverse_append]
  by_cases hsome : ∃ c ∈ behind.reverse, isBlank c = false
  · rw [trimStart_append_of_exists hsome, List.reverse_append, List.reverse_reverse]
  · have hall : ∀ c ∈ behind.reverse, isBlank c = true := by
      intro c hc
      rw [← Bool.not_eq_false]
      exact fun hno => hsome ⟨c, hc, hno⟩
    have hnone : trimStart behind.reverse = [] := List.dropWhile_eq_nil_iff.mpr hall
    have hhead : ∀ c ∈ (front ++ ['=']).reverse.head?, isBlank c = false := by simp [isBlank]
    rw [trimStart_append hall hhead, hnone, List.reverse_reverse, List.reverse_nil, List.append_nil]

theorem assignsText (behind : List Char) :
    AssignsText (lead ++ behind) (String.ofList name) (trimStart (trimEnd behind)) := by
  have hend := h.trimEnd_append behind
  obtain ⟨before, front, rfl, hbefore, hlead⟩ := h
  obtain ⟨gap, hgap, hblank⟩ := exists_append_trimStart (trimEnd behind)
  refine ⟨before, front, gap, ?_, hbefore, by rwa [String.toList_ofList], hblank,
    Text.head?_trimStart _⟩
  rw [hend, ← hgap, List.append_assoc]

end LineLead

/-! ### The logical line -/

/-- A text in which an unmarked value is **assigned** to a name. -/
inductive ValueText (name : List Char) : List Char → Prop
  | intro {lead value ending : List Char} (hlead : LineLead name lead) (hvalue : Unmarked value)
      (hends : EndsLine value ending) : ValueText name (lead ++ (value ++ ending))

/-- A logical line is **settled** for a name: whatever the variables are, it is read as the same value
of that name, or is rejected for the same reason. -/
def Settled (name : List Char) (line : Except Fault (List Char)) : Prop :=
  ∃ result : Except Fault String, ∀ scope,
    line.bind (readLine scope) = result.map fun value => some (String.ofList name, value)

/-- What is kept of a line goes beyond its front, if the front does not reach into the rest. -/
theorem exists_rest_of_append {kept behind rest : List Char} (h : lead ++ rest = kept ++ behind)
    (hno : ∀ beyond, beyond ≠ [] → lead = kept ++ beyond → ¬beyond <+: behind) :
    ∃ inside, kept = lead ++ inside ∧ inside <+: rest := by
  rcases List.append_eq_append_iff.mp h with ⟨inside, hkept, hrest⟩ | ⟨beyond, hlead, hbehind⟩
  · exact ⟨inside, hkept, hrest ▸ List.prefix_append _ _⟩
  · by_cases hbeyond : beyond = []
    · rw [hbeyond, List.append_nil] at hlead
      exact ⟨[], by rw [List.append_nil, hlead], List.nil_prefix⟩
    · exact absurd (hbehind ▸ List.prefix_append _ _) (hno beyond hbeyond hlead)

theorem prefix_trimEnd (text : List Char) : trimEnd text <+: text := by
  rw [trimEnd_eq_reverse, ← List.reverse_suffix, List.reverse_reverse]
  exact List.dropWhile_suffix isBlank

variable {name : List Char}

theorem settled_error (fault : Fault) : Settled name (.error fault) :=
  ⟨.error fault, fun _ => rfl⟩

theorem LineLead.settled (hlead : LineLead name lead) {rest : List Char}
    (hquiet : Quiet (trimStart (trimEnd rest))) : Settled name (.ok (lead ++ rest)) := by
  have htext := hlead.assignsText rest
  refine ⟨valueAt ⟨⟨[]⟩, []⟩ (trimStart (trimEnd rest)), fun scope => ?_⟩
  change readLine scope (lead ++ rest) = _
  rw [readLine_congr_of_quiet htext hquiet scope ⟨⟨[]⟩, []⟩, readLine_of_assignsText htext]

namespace ValueText

theorem head?_trimStart (h : ValueText name text) : (trimStart text).head? ≠ some '#' := by
  cases h with
  | intro hlead hvalue hends => exact hlead.head?_trimStart _

/-- **Value lines.** Without blanks at its end, or without a comment, such a text is settled. -/
theorem settled (h : ValueText name text) {kept behind : List Char} (htext : text = kept ++ behind)
    (hbehind : AllBlank behind ∨ behind.head? = some '#') : Settled name (.ok kept) := by
  obtain ⟨hlead, hvalue, hends⟩ := h
  obtain ⟨rest, rfl, hrest⟩ := exists_rest_of_append htext fun beyond hsome hbeyond hinside => by
    -- the equals sign is neither blank nor in a comment
    rcases hbehind with hblank | hcomment
    · have hequals := hblank '=' (hinside.subset (hlead.equals_mem hsome hbeyond))
      cases hequals
    · obtain ⟨c, beyond, rfl⟩ := List.exists_cons_of_ne_nil hsome
      obtain ⟨rest, rfl⟩ := hinside
      obtain rfl := Option.some.inj hcomment
      exact hlead.noComment (hbeyond ▸ by simp)
  exact hlead.settled (quiet_of_cut hvalue hends ((prefix_trimEnd rest).trans hrest))

end ValueText

end RequestSigning.Dotenv
