import Mathlib.Data.List.Forall2
import RequestSigning.Proofs.UnmarkedValues

/-!
# Files with other values

Two files of variables are the same but for unmarked values of some names (`Dotenv.Reworded`). Line by
line they are read alike, as long as no reference is to one of these names: the entries are the same
but for these values, and the faults are the same but for those of rejected lines with another value
(`Dotenv.File.alike_read`). Which faults these are can be told from the two files alone
(`Dotenv.changedFaults`), and each one stands in the place of its line (`Replaced`).

The proof walks along the physical lines of both files and keeps what is under way in the reader
(`Dotenv.Underway`), because the end of the file may find a line still open. Behind the walk the two
files are compared entry by entry and fault by fault.
-/

namespace RequestSigning

/-! ### Lists with some elements replaced -/

/-- Lists that are the same but for some elements: one after the other, the second one of each **pair**
stands in the place of the first. -/
inductive Replaced {α : Type} : List (α × α) → List α → List α → Prop
  | nil : Replaced [] [] []
  | same (a : α) {pairs : List (α × α)} {list other : List α} (h : Replaced pairs list other) :
      Replaced pairs (a :: list) (a :: other)
  | pair (a b : α) {pairs : List (α × α)} {list other : List α} (h : Replaced pairs list other) :
      Replaced ((a, b) :: pairs) (a :: list) (b :: other)

namespace Replaced

variable {α β : Type} {pairs more : List (α × α)} {list other front otherFront : List α}

theorem refl : (list : List α) → Replaced [] list list
  | [] => .nil
  | a :: list => .same a (refl list)

theorem eq_of_nil (h : Replaced [] list other) : other = list := by
  generalize hpairs : ([] : List (α × α)) = pairs at h
  induction h with
  | nil => rfl
  | same a _ ih => rw [ih hpairs]
  | pair => cases hpairs

theorem append (hfront : Replaced more front otherFront) (h : Replaced pairs list other) :
    Replaced (more ++ pairs) (front ++ list) (otherFront ++ other) := by
  induction hfront with
  | nil => exact h
  | same a _ ih => exact .same a ih
  | pair a b _ ih => exact .pair a b ih

theorem map (h : Replaced pairs list other) (f : α → β) :
    Replaced (pairs.map (Prod.map f f)) (list.map f) (other.map f) := by
  induction h with
  | nil => exact .nil
  | same a _ ih => exact .same (f a) ih
  | pair a b _ ih => exact .pair (f a) (f b) ih

/-- If both elements of each pair are kept or both are dropped, the pairs that are kept stand in the
place of each other. -/
theorem filter (h : Replaced pairs list other) {keep : α → Bool}
    (hpairs : ∀ pair ∈ pairs, keep pair.2 = keep pair.1) :
    Replaced (pairs.filter fun pair => keep pair.1) (list.filter keep) (other.filter keep) := by
  induction h with
  | nil => exact .nil
  | same a _ ih =>
    rw [List.filter_cons, List.filter_cons]
    split_ifs
    · exact .same a (ih hpairs)
    · exact ih hpairs
  | pair a b _ ih =>
    obtain ⟨hpair, hrest⟩ := List.forall_mem_cons.mp hpairs
    rw [List.filter_cons, List.filter_cons, List.filter_cons, hpair]
    split_ifs
    · exact .pair a b (ih hrest)
    · exact ih hrest

end Replaced

namespace Dotenv

open Text

/-! ### Files that are the same but for values -/

/-- What is open behind the text of a line. -/
def Scan.afterLine (scan : Scan) : Option (List Char) → Scan
  | none => .complete
  | some line =>
    if scan = .complete ∧ (trimStart line).head? = some '#' then .complete
    else
      match scanLine scan [] line with
      | .ok scan => scan
      | .error _ => .complete

/-- Whether a logical line is **accepted** where there are no variables. -/
def isAccepted (line : Except Fault (List Char)) : Bool :=
  (line.bind (readLine ⟨⟨[]⟩, []⟩)).isOk

/-- Whether the first one of some logical lines is accepted. -/
def acceptsFirst (lines : List (Except Fault (List Char))) : Bool :=
  lines.head?.all isAccepted

/-- The fault of a logical line that is rejected where there are no variables. -/
def lineFault? (line : Except Fault (List Char)) : Option Fault :=
  match line.bind (readLine ⟨⟨[]⟩, []⟩) with
  | .ok _ => none
  | .error fault => some fault

/-- The faults of two lines that are both rejected, if they are not the same. -/
def changedFault? (line other : Except Fault (List Char)) : Option (Fault × Fault) :=
  match lineFault? line, lineFault? other with
  | some fault, some changed => if changed = fault then none else some (fault, changed)
  | _, _ => none

/-- The **changed faults** of two files, line by line: those of the lines that stand in one place and are
rejected for different reasons. -/
def changedFaults (lines others : List (Except Fault (List Char))) : List (Fault × Fault) :=
  (List.zipWith changedFault? lines others).filterMap id

/-- Lines that are the **same but for unmarked values** of some names, behind a place where something
may be open. The logical line of another value is accepted in both or rejected in both. Behind the line
either nothing follows, or the same is open for what follows: a comment may open a quote. -/
inductive Reworded (names : List String) :
    Scan → List (Option (List Char)) → List (Option (List Char)) → Prop
  | nil {scan : Scan} : Reworded names scan [] []
  | same {scan : Scan} {text : Option (List Char)} {texts others : List (Option (List Char))}
      (h : Reworded names (scan.afterLine text) texts others) :
      Reworded names scan (text :: texts) (text :: others)
  | value {name lead value changed ending : List Char} {texts others : List (Option (List Char))}
      (hname : String.ofList name ∈ names) (hlead : LineLead name lead) (hvalue : Unmarked value)
      (hchanged : Unmarked changed) (hends : EndsLine value ending)
      (hchangedEnds : EndsLine changed ending)
      (hnext : texts = [] ∧ others = [] ∨ ending ≠ [] ∧
        Scan.complete.afterLine (some (lead ++ (changed ++ ending))) =
          Scan.complete.afterLine (some (lead ++ (value ++ ending))))
      (haccepts : acceptsFirst (joinLines [] .complete (some (lead ++ (changed ++ ending)) :: others)) =
        acceptsFirst (joinLines [] .complete (some (lead ++ (value ++ ending)) :: texts)))
      (h : Reworded names (Scan.complete.afterLine (some (lead ++ (value ++ ending)))) texts
        others) :
      Reworded names .complete (some (lead ++ (value ++ ending)) :: texts)
        (some (lead ++ (changed ++ ending)) :: others)

variable {names : List String} {environment : Environment}

/-! ### Logical lines that are read alike -/

/-- Logical lines that are read **alike**: they are the same, or whatever the variables are they assign
to one of the names, or whatever these are they are at fault. -/
inductive LineAlike (names : List String) :
    Except Fault (List Char) → Except Fault (List Char) → Prop
  | same (line : Except Fault (List Char)) : LineAlike names line line
  | value {line other : Except Fault (List Char)} {name value changed : String} (hname : name ∈ names)
      (hline : ∀ scope, line.bind (readLine scope) = .ok (some (name, value)))
      (hother : ∀ scope, other.bind (readLine scope) = .ok (some (name, changed))) :
      LineAlike names line other
  | fault {line other : Except Fault (List Char)} {fault changed : Fault}
      (hline : ∀ scope, line.bind (readLine scope) = .error fault)
      (hother : ∀ scope, other.bind (readLine scope) = .error changed) :
      LineAlike names line other

/-- Settled lines are alike if both are accepted or both rejected. -/
theorem lineAlike_of_settled {name : List Char} (hname : String.ofList name ∈ names)
    {line other : Except Fault (List Char)} (hline : Settled name line) (hother : Settled name other)
    (haccepts : isAccepted other = isAccepted line) : LineAlike names line other := by
  obtain ⟨result, hresult⟩ := hline
  obtain ⟨otherResult, hotherResult⟩ := hother
  rw [isAccepted, isAccepted, hresult, hotherResult] at haccepts
  cases result with
  | ok read =>
    cases otherResult with
    | ok changed => exact .value hname hresult hotherResult
    | error fault => cases haccepts
  | error fault =>
    cases otherResult with
    | ok changed => cases haccepts
    | error changed => exact .fault hresult hotherResult

/-- The logical line that the text of a line ends, behind those of the line under way. -/
def lineMade (read : List (List Char)) (scan : Scan) : Option (List Char) → Except Fault (List Char)
  | none => .error .notText
  | some line =>
    if read = [] ∧ (trimStart line).head? = some '#' then .ok []
    else
      match scanLine scan [] line with
      | .ok _ => .ok (withoutLineEnd (line :: read).reverse.flatten)
      | .error before => .ok (before :: read).reverse.flatten

/-- **Steps.** The text of a line ends a logical line, or it is kept for the one under way. -/
theorem joinLines_cons {read : List (List Char)} {scan : Scan} (hread : read = [] ↔ scan = .complete)
    (text : Option (List Char)) (texts : List (Option (List Char))) :
    joinLines read scan (text :: texts) =
      if scan.afterLine text = .complete then lineMade read scan text :: joinLines [] .complete texts
      else joinLines (text.toList ++ read) (scan.afterLine text) texts := by
  cases text with
  | none => rfl
  | some line =>
    have hstarts : read = [] ∧ (trimStart line).head? = some '#' ↔
        scan = .complete ∧ (trimStart line).head? = some '#' := and_congr_left fun _ => hread
    by_cases hcomment : read = [] ∧ (trimStart line).head? = some '#'
    · have hafter : scan.afterLine (some line) = .complete := if_pos (hstarts.mp hcomment)
      rw [if_pos hafter, joinLines, lineMade, if_pos hcomment, if_pos hcomment]
    · have hafter : scan.afterLine (some line) = _ := if_neg (mt hstarts.mpr hcomment)
      rw [hafter, joinLines, lineMade, if_neg hcomment, if_neg hcomment]
      cases scanLine scan [] line with
      | error before => rfl
      | ok next => cases next <;> rfl

theorem joinLines_nil_of_ne {scan : Scan} (hopen : scan ≠ .complete) (read : List (List Char)) :
    ∃ fault, joinLines read scan [] = [.error fault] :=
  ⟨_, if_neg hopen⟩

/-- A logical line with an unmarked value is settled. -/
theorem settled_lineMade {name line : List Char} {read : List (List Char)}
    (h : ValueText name (read.reverse.flatten ++ line)) (scan : Scan) :
    Settled name (lineMade read scan (some line)) := by
  have hno : ¬(read = [] ∧ (trimStart line).head? = some '#') := by
    rintro ⟨rfl, hcomment⟩
    exact h.head?_trimStart hcomment
  have hflatten : ∀ text, (text :: read).reverse.flatten = read.reverse.flatten ++ text := by simp
  rw [lineMade, if_neg hno]
  split
  · obtain ⟨behind, hline, hblank⟩ := exists_withoutLineEnd (line :: read).reverse.flatten
    rw [← hflatten] at h
    exact h.settled hline (.inl hblank)
  · next before hscan =>
    obtain ⟨front, comment, rfl, hbefore⟩ := exists_of_scanLine_eq_error hscan
    obtain rfl : before = front := hbefore
    rw [hflatten]
    exact h.settled (List.append_assoc _ _ _).symm (.inr rfl)

/-- A line with an unmarked value that is the last one makes one logical line, which is settled. -/
theorem exists_joinLines_last {name line : List Char} (h : ValueText name line) :
    ∃ made, Settled name made ∧ joinLines [] .complete [some line] = [made] := by
  rw [joinLines_cons (by simp)]
  split_ifs with hafter
  · exact ⟨_, settled_lineMade h .complete, rfl⟩
  · obtain ⟨fault, hfault⟩ := joinLines_nil_of_ne hafter _
    exact ⟨_, settled_error fault, hfault⟩

/-- Where something is open behind an unmarked value, its comment goes on. -/
theorem valueText_of_open {name lead value ending : List Char} (hlead : LineLead name lead)
    (hvalue : Unmarked value) (hends : EndsLine value ending) (hsome : ending ≠ [])
    (hopen : Scan.complete.afterLine (some (lead ++ (value ++ ending))) ≠ .complete) (more : List Char) :
    ValueText name (lead ++ (value ++ ending) ++ more) := by
  cases hends with
  | file => exact absurd rfl hsome
  | line =>
    refine absurd ?_ hopen
    have hplain : Plain (lead ++ value) := List.forall_mem_append.mpr ⟨hlead.plain, hvalue.plain⟩
    rw [Scan.afterLine, if_neg fun hcomment => hlead.head?_trimStart _ hcomment.2]
    split
    · next scan hscan =>
      rw [← List.append_assoc] at hscan
      exact scanLine_of_plain_line hplain hscan
    · rfl
  | @comment gap comment hlast hgap hgapSome =>
    have hmore : lead ++ (value ++ (gap ++ '#' :: comment)) ++ more =
        lead ++ (value ++ (gap ++ '#' :: (comment ++ more))) := by simp
    rw [hmore]
    exact .intro hlead hvalue (.comment hlast hgap hgapSome)

/-- The texts of the **line under way**, the latest first: the same, or those of a line with another
value, whose comment goes on. -/
inductive Underway (names : List String) (scan : Scan) (texts others : List (Option (List Char))) : List (List Char) → List (List Char) → Prop
  | same {read : List (List Char)} (hread : read = [] ↔ scan = .complete) :
      Underway names scan texts others read read
  | value {name : List Char} {read changed : List (List Char)} (hname : String.ofList name ∈ names)
      (hopen : scan ≠ .complete) (hsome : read ≠ [] ∧ changed ≠ [])
      (hvalue : ∀ more, ValueText name (read.reverse.flatten ++ more))
      (hchanged : ∀ more, ValueText name (changed.reverse.flatten ++ more))
      (haccepts : acceptsFirst (joinLines changed scan others) =
        acceptsFirst (joinLines read scan texts)) :
      Underway names scan texts others read changed

/-- One more line is under way, or the line under way has ended. -/
theorem Underway.step {scan : Scan} {text : Option (List Char)} {texts others : List (Option (List Char))}
    {read changed : List (List Char)}
    (h : Underway names scan (text :: texts) (text :: others) read changed)
    (hnext : ∀ nextRead nextChanged,
      Underway names (scan.afterLine text) texts others nextRead nextChanged →
      List.Forall₂ (LineAlike names) (joinLines nextRead (scan.afterLine text) texts)
        (joinLines nextChanged (scan.afterLine text) others)) :
    List.Forall₂ (LineAlike names) (joinLines read scan (text :: texts))
      (joinLines changed scan (text :: others)) := by
  cases h with
  | same hread =>
    rw [joinLines_cons hread, joinLines_cons hread]
    split_ifs with hafter
    · rw [hafter] at hnext
      exact .cons (.same _) (hnext [] [] (.same (by simp)))
    · obtain ⟨line, rfl⟩ : ∃ line, text = some line :=
        Option.ne_none_iff_exists'.mp fun hnone => hafter (hnone ▸ rfl)
      exact hnext _ _ (.same (by simp [hafter]))
  | value hname hopen hsome hvalue hchanged haccepts =>
    have hread : read = [] ↔ scan = .complete := iff_of_false hsome.1 hopen
    have hchangedRead : changed = [] ↔ scan = .complete := iff_of_false hsome.2 hopen
    rw [joinLines_cons hread, joinLines_cons hchangedRead] at haccepts ⊢
    split_ifs at haccepts ⊢ with hafter
    · rw [hafter] at hnext
      refine .cons ?_ (hnext [] [] (.same (by simp)))
      cases text with
      | none => exact .same _
      | some line =>
        exact lineAlike_of_settled hname (settled_lineMade (hvalue line) scan)
          (settled_lineMade (hchanged line) scan) haccepts
    · have hflatten : ∀ (own : List (List Char)) more, (text.toList ++ own).reverse.flatten ++ more =
          own.reverse.flatten ++ (text.toList.flatten ++ more) := by
        cases text <;> simp
      refine hnext _ _ (.value hname hafter (by simp [hsome]) ?_ ?_ haccepts)
      · exact fun more => hflatten read more ▸ hvalue _
      · exact fun more => hflatten changed more ▸ hchanged _

section

variable {name lead value changed ending : List Char} {texts others : List (Option (List Char))}
  (hname : String.ofList name ∈ names) (hlead : LineLead name lead) (hvalue : Unmarked value)
  (hchanged : Unmarked changed) (hends : EndsLine value ending)
  (hchangedEnds : EndsLine changed ending)
include hname hlead hvalue hchanged hends hchangedEnds

/-- A line with another value is the logical line, or it goes on with its comment. -/
theorem forall₂_of_value
    (hnext : texts = [] ∧ others = [] ∨ ending ≠ [] ∧
      Scan.complete.afterLine (some (lead ++ (changed ++ ending))) =
        Scan.complete.afterLine (some (lead ++ (value ++ ending))))
    (haccepts : acceptsFirst (joinLines [] .complete (some (lead ++ (changed ++ ending)) :: others)) =
      acceptsFirst (joinLines [] .complete (some (lead ++ (value ++ ending)) :: texts)))
    (hrest : ∀ read otherRead,
      Underway names (Scan.complete.afterLine (some (lead ++ (value ++ ending)))) texts others
        read otherRead →
      List.Forall₂ (LineAlike names)
        (joinLines read (Scan.complete.afterLine (some (lead ++ (value ++ ending)))) texts)
        (joinLines otherRead (Scan.complete.afterLine (some (lead ++ (value ++ ending)))) others)) :
    List.Forall₂ (LineAlike names)
      (joinLines [] .complete (some (lead ++ (value ++ ending)) :: texts))
      (joinLines [] .complete (some (lead ++ (changed ++ ending)) :: others)) := by
  have htext : ValueText name (lead ++ (value ++ ending)) := .intro hlead hvalue hends
  have hchangedText : ValueText name (lead ++ (changed ++ ending)) :=
    .intro hlead hchanged hchangedEnds
  rcases hnext with ⟨rfl, rfl⟩ | ⟨hsome, hafter⟩
  · obtain ⟨made, hmade, hjoin⟩ := exists_joinLines_last htext
    obtain ⟨otherMade, hotherMade, hotherJoin⟩ := exists_joinLines_last hchangedText
    rw [hjoin, hotherJoin] at haccepts
    rw [hjoin, hotherJoin]
    exact .cons (lineAlike_of_settled hname hmade hotherMade haccepts) .nil
  · rw [joinLines_cons (by simp), joinLines_cons (by simp), hafter] at haccepts ⊢
    split_ifs at haccepts ⊢ with hcomplete
    · rw [hcomplete] at hrest
      refine .cons ?_ (hrest [] [] (.same (by simp)))
      exact lineAlike_of_settled hname (settled_lineMade htext _) (settled_lineMade hchangedText _)
        haccepts
    · have hgoesOn := valueText_of_open hlead hvalue hends hsome hcomplete
      have hchangedGoesOn := valueText_of_open hlead hchanged hchangedEnds hsome (hafter ▸ hcomplete)
      refine hrest _ _ (.value hname hcomplete (by simp) ?_ ?_ haccepts)
      · simpa using hgoesOn
      · simpa using hchangedGoesOn

end

/-- **Lines.** Reworded lines make logical lines that are read alike. -/
theorem Reworded.logicalLines {scan : Scan} {texts others : List (Option (List Char))}
    (h : Reworded names scan texts others) {read changed : List (List Char)}
    (hunderway : Underway names scan texts others read changed) :
    List.Forall₂ (LineAlike names) (joinLines read scan texts)
      (joinLines changed scan others) := by
  induction h generalizing read changed with
  | nil =>
    cases hunderway with
    | same => exact List.forall₂_same.mpr fun line _ => .same line
    | value hname hopen =>
      obtain ⟨fault, hfault⟩ := joinLines_nil_of_ne hopen read
      obtain ⟨other, hother⟩ := joinLines_nil_of_ne hopen changed
      rw [hfault, hother]
      exact .cons (lineAlike_of_settled hname (settled_error _) (settled_error _) rfl) .nil
  | same h ih => exact hunderway.step fun _ _ => ih
  | value hname hlead hvalue hchanged hends hchangedEnds hnext haccepts h ih =>
    -- such a line starts a logical line, so nothing is under way
    cases hunderway with
    | value _ hopen => exact absurd rfl hopen
    | same hread =>
      obtain rfl := hread.mpr rfl
      exact forall₂_of_value hname hlead hvalue hchanged hends hchangedEnds hnext haccepts
        fun _ _ => ih

/-! ### Files that are read alike -/

theorem changedFaults_cons (line other : Except Fault (List Char))
    (lines others : List (Except Fault (List Char))) :
    changedFaults (line :: lines) (other :: others) =
      (changedFault? line other).toList ++ changedFaults lines others := by
  rw [changedFaults, List.zipWith_cons_cons]
  cases changedFault? line other <;> rfl

theorem changedFault?_self (line : Except Fault (List Char)) : changedFault? line line = none := by
  rw [changedFault?]
  cases lineFault? line with
  | none => rfl
  | some fault => exact if_pos rfl

theorem lineFault?_of_ok {line : Except Fault (List Char)} {entry : Option (String × String)}
    (h : line.bind (readLine ⟨⟨[]⟩, []⟩) = .ok entry) : lineFault? line = none := by
  rw [lineFault?, h]

theorem lineFault?_of_error {line : Except Fault (List Char)} {fault : Fault}
    (h : line.bind (readLine ⟨⟨[]⟩, []⟩) = .error fault) : lineFault? line = some fault := by
  rw [lineFault?, h]

/-- Files that are **alike**: with the same entries but for the values of some names, and with the same
faults but for some of them, each of which stands in the place of another. -/
structure File.Alike (names : List String) (faults : List (Fault × Fault)) (file other : File) :
    Prop where
  entries : List.Forall₂ (fun entry changed : String × String =>
    changed.1 = entry.1 ∧ (entry.1 ∉ names → changed.2 = entry.2)) file.entries other.entries
  faults : Replaced faults file.faults other.faults

/-- Under another name the same entry is found. -/
theorem find?_congr_of_forall₂ {entries others : List (String × String)}
    (h : List.Forall₂ (fun entry changed : String × String =>
      changed.1 = entry.1 ∧ (entry.1 ∉ names → changed.2 = entry.2)) entries others) {name : String}
    (hname : name ∉ names) :
    (others.find? fun entry => entry.1 = name) = entries.find? fun entry => entry.1 = name := by
  induction h with
  | nil => rfl
  | @cons entry changed entries others hentry hentries ih =>
    rw [List.find?_cons, List.find?_cons, hentry.1, ih]
    by_cases hsame : entry.1 = name
    · have hvalue : changed = entry := Prod.ext hentry.1 (hentry.2 (hsame ▸ hname))
      rw [hvalue]
    · simp [hsame]

namespace File.Alike

variable {faults : List (Fault × Fault)} {file other : File} (h : File.Alike names faults file other)
include h

theorem value? {name : String} (hname : name ∉ names) : other.value? name = file.value? name := by
  rw [File.value?, File.value?, find?_congr_of_forall₂ h.entries hname]

theorem lookup {name : String} (hname : name ∉ names) :
    Scope.lookup ⟨environment, file.entries⟩ name = Scope.lookup ⟨environment, other.entries⟩ name := by
  rw [Scope.lookup, Scope.lookup, find?_congr_of_forall₂ h.entries hname]

/-- **Steps.** Files stay alike with alike lines, if no reference is to one of the names. If both lines
are rejected, the one's fault stands in the place of the other's. -/
theorem readLine {line changed : Except Fault (List Char)} (hline : LineAlike names line changed)
    (hreferences : ∀ text, line = .ok text →
      ∀ name ∈ lineReferences ⟨environment, file.entries⟩ text, name ∉ names) :
    File.Alike names (faults ++ (changedFault? line changed).toList) (file.readLine environment line)
      (other.readLine environment changed) := by
  cases hline with
  | same =>
    have hsame : line.bind (Dotenv.readLine ⟨environment, other.entries⟩) =
        line.bind (Dotenv.readLine ⟨environment, file.entries⟩) := by
      cases line with
      | error fault => rfl
      | ok text =>
        exact (Dotenv.readLine_congr fun name hname => h.lookup (hreferences text rfl name hname)).symm
    rw [changedFault?_self, Option.toList_none, File.readLine, File.readLine, hsame]
    cases line.bind (Dotenv.readLine ⟨environment, file.entries⟩) with
    | error fault => exact ⟨h.entries, h.faults.append (.same fault .nil)⟩
    | ok entry =>
      rw [List.append_nil]
      cases entry with
      | none => exact h
      | some entry => exact ⟨.cons ⟨rfl, fun _ => rfl⟩ h.entries, h.faults⟩
  | value hname hline hother =>
    rw [changedFault?, lineFault?_of_ok (hline _), Option.toList_none, List.append_nil, File.readLine,
      File.readLine, hline, hother]
    exact ⟨.cons ⟨rfl, fun hno => absurd hname hno⟩ h.entries, h.faults⟩
  | @fault _ fault otherFault hline hother =>
    rw [changedFault?, lineFault?_of_error (hline _), lineFault?_of_error (hother _), File.readLine,
      File.readLine, hline, hother]
    dsimp only
    refine ⟨h.entries, h.faults.append ?_⟩
    split_ifs with hsame
    · rw [hsame]
      exact .same fault .nil
    · exact .pair fault otherFault .nil

omit h in
/-- **Runs.** Alike lines are read to alike files. -/
theorem foldl_readLine {lines others : List (Except Fault (List Char))}
    (hlines : List.Forall₂ (LineAlike names) lines others) (h : File.Alike names faults file other)
    (hreferences : ∀ name ∈ File.referencesFrom environment file lines, name ∉ names) :
    File.Alike names (faults ++ changedFaults lines others)
      (lines.foldl (File.readLine environment) file)
      (others.foldl (File.readLine environment) other) := by
  induction hlines generalizing faults file other with
  | nil => rwa [changedFaults, List.zipWith_nil_left, List.filterMap_nil, List.append_nil]
  | @cons line changed lines others hline hlines ih =>
    simp only [File.referencesFrom, List.forall_mem_append] at hreferences
    rw [changedFaults_cons, ← List.append_assoc]
    refine ih (h.readLine hline ?_) hreferences.2
    rintro text rfl
    exact hreferences.1

end File.Alike

/-- **Files.** Reworded files are read alike, if no reference is to a name whose values they change. The
faults that differ are those that changed, in the order of the lines. -/
theorem File.alike_read {bytes changed : Bytes}
    (h : Reworded names .complete (textLines bytes) (textLines changed))
    (hreferences : ∀ name ∈ File.references environment bytes, name ∉ names) :
    File.Alike names (changedFaults (Dotenv.logicalLines bytes) (Dotenv.logicalLines changed))
      (File.read environment bytes) (File.read environment changed) := by
  have hempty : File.Alike names [] File.empty File.empty := ⟨.nil, .nil⟩
  exact hempty.foldl_readLine (h.logicalLines (.same (by simp))) hreferences

end Dotenv

end RequestSigning
