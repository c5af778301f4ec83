import Mathlib.Data.List.Induction
import RequestSigning.Proofs.DotenvLines
import RequestSigning.Proofs.SettingsLayers

/-!
# Lines that are rejected

In a file of variables without quotes a line is accepted or rejected by itself: what the variables are
and what stands before it makes no difference (`Dotenv.accepts_iff`). A rejected line leaves no entry
and changes nothing for those behind it. So the settings are the same without the rejected lines, and
the value of a name is what the last accepted line that assigns it writes, with the references read
from the process and the accepted lines before that one (`Settings.rejected_lines_harmless`).

Acceptance is a property of the line's shape (`Dotenv.Accepted`), while the value depends on what
was accepted before it. The induction is over the lines with the file read so far as its state: a
step adds an entry, a fault or nothing, and entries are only ever added in front.
-/

namespace RequestSigning

open Text

namespace Dotenv

variable {environment : Environment} {line : List Char} {lines : List (List Char)} {name : String}
  {pieces : List Piece} {scope : Scope}

/-! ### Lines by themselves -/

/-- The lines of a text that are accepted. -/
def acceptedLines (text : String) : List (List Char) :=
  (fullLines text.toList).filter accepts

/-- A text without the lines that are **rejected**. -/
def withoutRejected (text : String) : String :=
  String.ofList (acceptedLines text).flatten

/-- A line of a file **assigns** to a name what pieces stand for. -/
def LineAssigns (line : List Char) (name : String) (pieces : List Piece) : Prop :=
  ∃ text, logicalLine line = .ok text ∧ Assigns text name pieces

/-- A plain line gives an entry exactly when the grammar says it assigns one. -/
theorem entryOf_eq_ok_some_iff (hplain : Plain line) {value : String} :
    entryOf scope line = .ok (some (name, value)) ↔
      ∃ pieces, LineAssigns line name pieces ∧ value = String.ofList (expand scope pieces) := by
  rw [entryOf]
  cases hline : logicalLine line with
  | error fault => simp [Except.bind, LineAssigns, hline]
  | ok text =>
    have hread : readLine scope text = .ok (some (name, value)) ↔ _ :=
      readLine_eq_ok_some_iff (plain_of_logicalLine hplain hline)
    simpa [Except.bind, LineAssigns, hline] using hread

/-- A plain line is read without fault exactly when the grammar accepts it. -/
theorem exists_entryOf_iff (hplain : Plain line) :
    (∃ entry, entryOf scope line = .ok entry) ↔
      ∃ text, logicalLine line = .ok text ∧ Accepted text := by
  simp only [entryOf]
  cases hline : logicalLine line with
  | error fault => simp [Except.bind]
  | ok text =>
    have hread : (∃ entry, readLine scope text = .ok entry) ↔ _ :=
      exists_readLine_iff (plain_of_logicalLine hplain hline)
    simpa [Except.bind] using hread

namespace File

/-- What reading lines gave behind what was read. -/
def readLines (environment : Environment) (file : File) (lines : List (List Char)) : File :=
  lines.foldl (fun file line => file.readLine environment (logicalLine line)) file

variable {file other : File}

/-- A file of plain lines is read line by line. -/
theorem read_flatten (hlines : AreLines lines) (hplain : ∀ line ∈ lines, Plain line) :
    read environment (Utf8.encode (String.ofList lines.flatten)) =
      File.empty.readLines environment lines := by
  rw [read, logicalLines_flatten hlines hplain, List.foldl_map]
  rfl

end File

/-- **Acceptance.** A line is accepted exactly where it is read as an entry or as none, whatever the
variables are. -/
theorem accepts_iff (hplain : Plain line) (scope : Scope) :
    accepts line = true ↔ ∃ entry, entryOf scope line = .ok entry := by
  rw [accepts_iff_entryOf, exists_entryOf_iff hplain, exists_entryOf_iff hplain]

/-! ### Lines behind one another -/

namespace File

variable {file other : File}

/-- **Steps.** A line adds what it is read as to the entries, and a rejected one adds nothing. -/
theorem entries_readLine (environment : Environment) (file : File) (line : List Char) :
    (file.readLine environment (logicalLine line)).entries =
      ((entryOf ⟨environment, file.entries⟩ line).toOption.join).toList ++ file.entries := by
  cases hentry : entryOf ⟨environment, file.entries⟩ line with
  | error fault =>
    rw [readLine_of_error hentry]
    rfl
  | ok entry =>
    rw [readLine_of_ok hentry]
    rfl

/-- **Runs.** The entries are the same without the rejected lines. -/
theorem entries_readLines_filter (hplain : ∀ line ∈ lines, Plain line)
    (hsame : other.entries = file.entries) :
    (other.readLines environment (lines.filter accepts)).entries =
      (file.readLines environment lines).entries := by
  induction lines generalizing file other with
  | nil => exact hsame
  | cons line lines ih =>
    obtain ⟨hline, hplain⟩ := List.forall_mem_cons.mp hplain
    have haccepts := accepts_iff hline ⟨environment, file.entries⟩
    have hstep := entries_readLine environment file line
    cases hkept : accepts line with
    | true =>
      rw [List.filter_cons_of_pos hkept]
      refine ih hplain ?_
      rw [hstep, entries_readLine, hsame]
    | false =>
      rw [List.filter_cons_of_neg (by simp [hkept])]
      refine ih hplain ?_
      have hrejected : (entryOf ⟨environment, file.entries⟩ line).toOption = none := by
        cases hentry : entryOf ⟨environment, file.entries⟩ line with
        | error fault => rfl
        | ok entry =>
          rw [haccepts.mpr ⟨entry, hentry⟩] at hkept
          cases hkept
      rw [hstep, hrejected, hsame]
      rfl

/-- The latest assignment of a name is the one that counts. -/
theorem value?_readLine_of_assigns (hplain : Plain line) (h : LineAssigns line name pieces) :
    (file.readLine environment (logicalLine line)).value? name =
      some (String.ofList (expand ⟨environment, file.entries⟩ pieces)) := by
  have hentry : entryOf ⟨environment, file.entries⟩ line = .ok (some (name,
      String.ofList (expand ⟨environment, file.entries⟩ pieces))) :=
    (entryOf_eq_ok_some_iff hplain).mpr ⟨pieces, h, rfl⟩
  rw [value?, readLine_of_ok hentry]
  simp

/-- A line that does not assign a name leaves its value alone. -/
theorem value?_readLine_of_not (hplain : Plain line) (h : ∀ pieces, ¬LineAssigns line name pieces) :
    (file.readLine environment (logicalLine line)).value? name = file.value? name := by
  cases hentry : entryOf ⟨environment, file.entries⟩ line with
  | error fault =>
    rw [readLine_of_error hentry]
    rfl
  | ok entry =>
    rw [readLine_of_ok hentry]
    cases entry with
    | none => rfl
    | some entry =>
      have hname : entry.1 ≠ name := by
        rintro rfl
        obtain ⟨pieces, hassigns, -⟩ := (entryOf_eq_ok_some_iff hplain).mp hentry
        exact h pieces hassigns
      simp [value?, hname]

/-- What is put behind lines is the line that is found, or is behind it. -/
theorem append_singleton_eq_iff {found : List Char} {earlier later : List (List Char)} :
    lines ++ [line] = earlier ++ found :: later ↔
      (lines = earlier ∧ line = found ∧ later = []) ∨
        ∃ between, lines = earlier ++ found :: between ∧ later = between ++ [line] := by
  constructor
  · intro h
    rcases List.eq_nil_or_concat later with rfl | ⟨between, last, rfl⟩
    · obtain ⟨rfl, hsame⟩ := List.append_inj' h rfl
      exact .inl ⟨rfl, List.singleton_inj.mp hsame, rfl⟩
    · rw [List.concat_eq_append, ← List.cons_append, ← List.append_assoc] at h
      obtain ⟨rfl, hsame⟩ := List.append_inj' h rfl
      exact .inr ⟨between, rfl, by rw [List.concat_eq_append, List.singleton_inj.mp hsame]⟩
  · rintro (⟨rfl, rfl, rfl⟩ | ⟨between, rfl, rfl⟩)
    · rfl
    · simp

/-- The value of a name is what the last line that assigns it writes, read behind those before. -/
theorem value?_readLines_iff (hplain : ∀ line ∈ lines, Plain line) {value : String} :
    (File.empty.readLines environment lines).value? name = some value ↔
      ∃ earlier line later pieces, lines = earlier ++ line :: later ∧ LineAssigns line name pieces ∧
        (∀ other ∈ later, ∀ pieces, ¬LineAssigns other name pieces) ∧
        value = String.ofList
          (expand ⟨environment, (File.empty.readLines environment earlier).entries⟩ pieces) := by
  induction lines using List.reverseRecOn with
  | nil => simp [readLines, value?, File.empty]
  | append_singleton lines line ih =>
    obtain ⟨hlines, hline⟩ := List.forall_mem_append.mp hplain
    rw [List.forall_mem_singleton] at hline
    have hlast : File.empty.readLines environment (lines ++ [line]) =
        (File.empty.readLines environment lines).readLine environment (logicalLine line) := by
      rw [readLines, List.foldl_append]
      rfl
    rw [hlast]
    by_cases hassigns : ∃ pieces, LineAssigns line name pieces
    · obtain ⟨pieces, hpieces⟩ := hassigns
      rw [value?_readLine_of_assigns hline hpieces]
      constructor
      · intro hvalue
        exact ⟨lines, line, [], pieces, rfl, hpieces, by simp, (Option.some.inj hvalue).symm⟩
      · rintro ⟨earlier, found, later, others, hsplit, hfound, hlater, rfl⟩
        obtain ⟨rfl, rfl, -⟩ | ⟨between, -, rfl⟩ := append_singleton_eq_iff.mp hsplit
        · rw [← value?_readLine_of_assigns hline hpieces, value?_readLine_of_assigns hline hfound]
        · exact absurd hpieces (hlater line (by simp) pieces)
    · push Not at hassigns
      rw [value?_readLine_of_not hline hassigns, ih hlines]
      constructor
      · rintro ⟨earlier, found, later, pieces, rfl, hfound, hlater, rfl⟩
        refine ⟨earlier, found, later ++ [line], pieces, by simp, hfound, ?_, rfl⟩
        exact List.forall_mem_append.mpr ⟨hlater, by simpa using hassigns⟩
      · rintro ⟨earlier, found, later, pieces, hsplit, hfound, hlater, rfl⟩
        obtain ⟨-, rfl, -⟩ | ⟨between, rfl, rfl⟩ := append_singleton_eq_iff.mp hsplit
        · exact absurd hfound (hassigns pieces)
        · exact ⟨earlier, found, between, pieces, rfl, hfound,
            (List.forall_mem_append.mp hlater).1, rfl⟩

end File

/-! ### Whole files -/

section

variable {text : String}

theorem areLines_acceptedLines (text : String) : AreLines (acceptedLines text) :=
  (areLines_fullLines text.toList).sublist List.filter_sublist

theorem plain_fullLines (hplain : Plain text.toList) : ∀ line ∈ fullLines text.toList, Plain line := by
  intro line hline c hc
  refine hplain c ?_
  rw [← flatten_fullLines text.toList]
  exact List.mem_flatten_of_mem hline hc

/-- The accepted lines of a plain text are plain. -/
theorem plain_acceptedLines (hplain : Plain text.toList) : ∀ line ∈ acceptedLines text, Plain line :=
  fun line hline => plain_fullLines hplain line (List.mem_filter.mp hline).1

theorem File.read_text (hplain : Plain text.toList) : read environment (Utf8.encode text) =
    File.empty.readLines environment (fullLines text.toList) := by
  have hlines : read environment (Utf8.encode (String.ofList (fullLines text.toList).flatten)) = _ :=
    read_flatten (areLines_fullLines text.toList) (plain_fullLines hplain)
  rwa [flatten_fullLines, String.ofList_toList] at hlines

/-- The entries of a file are those that its accepted lines make. -/
theorem File.entries_read (hplain : Plain text.toList) :
    (read environment (Utf8.encode text)).entries =
      (File.empty.readLines environment (acceptedLines text)).entries := by
  rw [read_text hplain, acceptedLines,
    entries_readLines_filter (plain_fullLines hplain) rfl]

/-- The values of a file are in its entries; its faults have no say. -/
theorem File.value?_congr {file other : File} (h : file.entries = other.entries) :
    file.value? = other.value? := by
  funext name
  rw [value?, value?, h]

end

end Dotenv

/-! ### Settings -/

namespace Settings

open Dotenv

variable {σ : Type}

/-- **Rejected lines.** In a file of variables without quotes the rejected lines make no difference to
the settings. The value of a name is what the last accepted line that assigns it writes, with the
references read from the process and the accepted lines before that one. -/
theorem rejected_lines_harmless {environment : Environment} {text : String}
    (hplain : Plain text.toList) :
    (∀ host other : Host σ, host.environment = environment → other.environment = environment →
      nearestDotenv host.files host.directory.reverse = some (Utf8.encode text) →
      nearestDotenv other.files other.directory.reverse =
        some (Utf8.encode (withoutRejected text)) →
      (ofHost other).value = (ofHost host).value) ∧
    ∀ name value, (File.read environment (Utf8.encode text)).value? name = some value ↔
      ∃ earlier line later pieces, acceptedLines text = earlier ++ line :: later ∧
        LineAssigns line name pieces ∧
        (∀ other ∈ later, ∀ pieces, ¬LineAssigns other name pieces) ∧
        value = String.ofList (expand ⟨environment,
          (File.read environment (Utf8.encode (String.ofList earlier.flatten))).entries⟩ pieces) := by
  have hlines := areLines_acceptedLines text
  have hplainLines := plain_acceptedLines hplain
  have hread : (File.read environment (Utf8.encode text)).value? = _ :=
    File.value?_congr (File.entries_read hplain)
  refine ⟨?_, fun name value => ?_⟩
  · rintro host other rfl hother hhost hkept
    rw [value_ofHost, value_ofHost, dotenv, dotenv, hkept, hhost, hother]
    dsimp only
    rw [hread, withoutRejected, File.read_flatten hlines hplainLines]
  · rw [hread, File.value?_readLines_iff hplainLines]
    refine exists_congr fun earlier => exists_congr fun line => exists_congr fun later =>
      exists_congr fun pieces => and_congr_right fun hsplit => ?_
    rw [hsplit] at hlines hplainLines
    rw [File.read_flatten (hlines.sublist (List.sublist_append_left _ _))
      (List.forall_mem_append.mp hplainLines).1]

/-- Variables between which a line is rejected, as words stand behind its value. -/
def mixedLines : String :=
  "A=b\nA=c d\nSDC_USER=$A-2 # e\n"

/-- A rejected line stands between the assignment of a name and the reference to it. -/
theorem rejected_lines_harmless_mixed :
    Plain mixedLines.toList ∧
      withoutRejected mixedLines = "A=b\nSDC_USER=$A-2 # e\n" ∧
      (ofHost (hostWith Unit ⟨[]⟩ (Utf8.encode (withoutRejected mixedLines)))).value =
        (ofHost (hostWith Unit ⟨[]⟩ (Utf8.encode mixedLines))).value ∧
      ∃ earlier line later pieces, acceptedLines mixedLines = earlier ++ line :: later ∧
        LineAssigns line "SDC_USER" pieces ∧
        (∀ other ∈ later, ∀ pieces, ¬LineAssigns other "SDC_USER" pieces) ∧
        "b-2" = String.ofList (expand ⟨⟨[]⟩,
          (File.read ⟨[]⟩ (Utf8.encode (String.ofList earlier.flatten))).entries⟩ pieces) := by
  have hplain : Plain mixedLines.toList := by decide +kernel
  refine ⟨hplain, by decide +kernel, ?_, ?_⟩
  · exact (rejected_lines_harmless hplain).1 (hostWith Unit ⟨[]⟩ (Utf8.encode mixedLines)) _ rfl rfl
      rfl rfl
  · exact ((@rejected_lines_harmless Unit _ _ hplain).2 "SDC_USER" "b-2").mp (by decide +kernel)

end Settings

end RequestSigning
