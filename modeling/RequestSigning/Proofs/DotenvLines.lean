import RequestSigning.Proofs.DotenvEntries
import RequestSigning.Proofs.Utf8Text

/-!
# Files without quotes

Without quotes and escapes no entry goes on over the end of its line, so each line of a file makes one
logical line (`Dotenv.logicalLines_flatten`): the line without its comment, if a blank stands before
that, or without its end. Only a last line that has no line feed and breaks off behind a blank is at
fault.

Files are cut twice, as the reader does: into physical lines at the line feeds of the bytes, and
then into logical lines by scanning for what is left open at an end. Both cuts are compared with the
lines of the text (`Text.fullLines`), of which the file is the concatenation, so lines can be left
out or replaced without looking at bytes again.
-/

namespace RequestSigning

open Text

/-! ### Lines -/

/-- The lines of a text, each with its line feed. -/
def Text.fullLines : List Char → List (List Char)
  | [] => []
  | c :: rest =>
    if c = '\n' then [c] :: fullLines rest
    else
      match fullLines rest with
      | [] => [[c]]
      | line :: lines => (c :: line) :: lines

/-- Texts that are **lines**: each ends with its only line feed, but the last may have none. -/
inductive Text.AreLines : List (List Char) → Prop
  | nil : AreLines []
  | last {line : List Char} (hsome : line ≠ []) (hline : '\n' ∉ line) : AreLines [line]
  | cons {line : List Char} {lines : List (List Char)} (hline : '\n' ∉ line) (hlines : AreLines lines) :
      AreLines ((line ++ ['\n']) :: lines)

namespace Text

/-- Each line but the last ends in its newline, and no newline is inside one. -/
theorem areLines_fullLines (text : List Char) : AreLines (fullLines text) := by
  induction text with
  | nil => exact .nil
  | cons c text ih =>
    rw [fullLines]
    split_ifs with hc
    · subst hc
      rw [← List.nil_append ['\n']]
      exact .cons List.not_mem_nil ih
    · have hnotMem : ∀ {line : List Char}, '\n' ∉ line → '\n' ∉ c :: line := fun hline =>
        List.not_mem_cons_of_ne_of_not_mem (Ne.symm hc) hline
      generalize fullLines text = lines at ih
      cases ih with
      | nil => exact .last (by simp) (hnotMem (by simp))
      | last hsome hline => exact .last (by simp) (hnotMem hline)
      | cons hline hlines => exact .cons (hnotMem hline) hlines

/-- Cutting a text into lines loses nothing. -/
theorem flatten_fullLines (text : List Char) : (fullLines text).flatten = text := by
  induction text with
  | nil => rfl
  | cons c text ih =>
    rw [fullLines]
    split_ifs with hc
    · rw [List.flatten_cons, ih, List.singleton_append]
    · cases hlines : fullLines text with
      | nil =>
        rw [hlines] at ih
        simp [← ih]
      | cons line lines =>
        rw [hlines] at ih
        simp [← ih]

namespace AreLines

variable {lines kept : List (List Char)}

/-- Lines may be left out, since what remains is cut in the same places. -/
theorem sublist (h : AreLines lines) (hkept : kept.Sublist lines) : AreLines kept := by
  induction h generalizing kept with
  | nil =>
    rw [List.sublist_nil.mp hkept]
    exact .nil
  | @last line hsome hline =>
    cases hkept with
    | cons _ hrest =>
      rw [List.sublist_nil.mp hrest]
      exact .nil
    | cons_cons _ hrest =>
      rw [List.sublist_nil.mp hrest]
      exact .last hsome hline
  | cons hline hlines ih =>
    cases hkept with
    | cons _ hrest => exact ih hrest
    | cons_cons _ hrest => exact .cons hline (ih hrest)

end AreLines

end Text

namespace Dotenv

variable {line : List Char} {lines rest : List (List Char)}

/-! ### Lines of bytes -/

/-- The lines of bytes cut at line feeds: the one under way, and those behind it. -/
def physicalCut (bytes : Bytes) : Bytes × List Bytes :=
  bytes.foldr
    (fun b (cut : Bytes × List Bytes) =>
      if b = 10 then ([b], if cut.1 = [] then cut.2 else cut.1 :: cut.2) else (b :: cut.1, cut.2))
    ([], [])

theorem physicalLines_eq (bytes : Bytes) : physicalLines bytes =
    if (physicalCut bytes).1 = [] then (physicalCut bytes).2
    else (physicalCut bytes).1 :: (physicalCut bytes).2 := rfl

theorem physicalCut_newline (bytes : Bytes) :
    physicalCut (10 :: bytes) = ([10], physicalLines bytes) := rfl

/-- Bytes without a newline join the line they are in front of. -/
theorem physicalCut_append {front : Bytes} (h : 10 ∉ front) (bytes : Bytes) :
    physicalCut (front ++ bytes) = (front ++ (physicalCut bytes).1, (physicalCut bytes).2) := by
  induction front with
  | nil => rfl
  | cons b front ih =>
    rw [List.mem_cons, not_or] at h
    have hcons : physicalCut (b :: (front ++ bytes)) =
        (b :: (physicalCut (front ++ bytes)).1, (physicalCut (front ++ bytes)).2) :=
      if_neg (Ne.symm h.1)
    rw [List.cons_append, hcons, ih h.2]
    rfl

/-- The first newline ends the first line. -/
theorem physicalLines_append {front : Bytes} (h : 10 ∉ front) (bytes : Bytes) :
    physicalLines (front ++ 10 :: bytes) = (front ++ [10]) :: physicalLines bytes := by
  rw [physicalLines_eq, physicalCut_append h, physicalCut_newline]
  exact if_neg (by simp)

theorem physicalLines_of_notMem {front : Bytes} (h : 10 ∉ front) (hsome : front ≠ []) :
    physicalLines front = [front] := by
  have hcut := physicalCut_append h []
  rw [List.append_nil] at hcut
  rw [physicalLines_eq, hcut]
  simp [physicalCut, hsome]

/-- No byte of another character is a newline's. -/
theorem notMem_encode (h : '\n' ∉ line) : 10 ∉ line.flatMap String.utf8EncodeChar :=
  fun hmem => h (Utf8.ofNat_mem_of_mem (by decide) hmem)

/-- The bytes of a text have the text's lines. -/
theorem physicalLines_flatten (h : AreLines lines) :
    physicalLines (Utf8.encode (String.ofList lines.flatten)) =
      lines.map fun line => Utf8.encode (String.ofList line) := by
  induction h with
  | nil => rfl
  | @last line hsome hline =>
    have hbytes := notMem_encode hline
    rw [← String.toList_ofList (l := line), ← Utf8.encode] at hbytes
    rw [List.flatten_singleton, physicalLines_of_notMem hbytes (Utf8.encode_ofList_ne_nil hsome)]
    rfl
  | @cons line lines hline hlines ih =>
    rw [List.flatten_cons, Utf8.encode_ofList_append, Utf8.encode_line, List.append_assoc,
      List.singleton_append, physicalLines_append (notMem_encode hline), ih, List.map_cons,
      Utf8.encode_line]

/-- The texts of the lines of bytes, and nothing for a line that is not text. -/
def textLines (bytes : Bytes) : List (Option (List Char)) :=
  (physicalLines bytes).map fun line => (Utf8.decode? line).map String.toList

theorem logicalLines_eq (bytes : Bytes) :
    logicalLines bytes = joinLines [] .complete (textLines bytes) := rfl

/-- The lines a file is written of are the lines it is read as. -/
theorem textLines_flatten (h : AreLines lines) :
    textLines (Utf8.encode (String.ofList lines.flatten)) = lines.map some := by
  have htext : (fun line : List Char =>
      (Utf8.decode? (Utf8.encode (String.ofList line))).map String.toList) = some := by
    funext line
    rw [Utf8.decode?_encode, Option.map_some, String.toList_ofList]
  rw [textLines, physicalLines_flatten h, List.map_map, Function.comp_def, htext]

/-- What reading the texts of lines gives in a process with an environment. -/
def File.ofTexts (environment : Environment) (texts : List (Option (List Char))) : File :=
  (joinLines [] .complete texts).foldl (File.readLine environment) .empty

/-- Whether a line is **accepted** by itself: reading it alone gives no fault. -/
def accepts (line : List Char) : Bool :=
  (File.ofTexts ⟨[]⟩ [some line]).faults.isEmpty

/-! ### Logical lines -/

/-- The logical line that a plain line makes. -/
def logicalLine (line : List Char) : Except Fault (List Char) :=
  if (trimStart line).head? = some '#' then .ok []
  else
    match scanLine .complete [] line with
    | .ok .complete => .ok (withoutLineEnd line)
    | .ok _ => .error (.line (String.ofList line) (byteLength line))
    | .error before => .ok before

/-- A line is scanned from left to right, with no look ahead. -/
theorem scanLine_append (scan : Scan) (read front behind : List Char) :
    scanLine scan read (front ++ behind) =
      (scanLine scan read front).bind fun scan => scanLine scan (front.reverse ++ read) behind := by
  induction front generalizing scan read with
  | nil => rfl
  | cons c front ih =>
    rw [List.cons_append, scanLine, scanLine]
    cases scan.next c with
    | none => rfl
    | some next =>
      dsimp only
      rw [ih, List.reverse_cons, List.append_assoc, List.singleton_append]

/-- In a plain text neither quotes nor escapes are open. -/
theorem scanLine_of_plain (hplain : Plain line) {scan found : Scan}
    (hscan : scan = .complete ∨ scan = .blank) {read : List Char}
    (h : scanLine scan read line = .ok found) : found = .complete ∨ found = .blank := by
  induction line generalizing scan read with
  | nil => exact Except.ok.inj h ▸ hscan
  | cons c line ih =>
    obtain ⟨⟨hsingle, hdouble, hescape⟩, hplain⟩ := List.forall_mem_cons.mp hplain
    have hafter : Scan.afterPlain c = .complete := by
      simp [Scan.afterPlain, hsingle, hdouble, hescape]
    have hnext : ∀ next, scan.next c = some next → next = .complete ∨ next = .blank := by
      intro next hnext
      rcases hscan with rfl | rfl
      · rw [Scan.next] at hnext
        split_ifs at hnext with hblank
        · exact .inr (Option.some.inj hnext).symm
        · exact .inl (hafter ▸ (Option.some.inj hnext).symm)
      · rw [Scan.next] at hnext
        split_ifs at hnext with hcomment
        exact .inl (hafter ▸ (Option.some.inj hnext).symm)
    rw [scanLine] at h
    cases hstep : scan.next c with
    | none =>
      rw [hstep] at h
      cases h
    | some next =>
      rw [hstep] at h
      exact ih hplain (hnext next hstep) h

/-- Behind a line feed nothing is open. -/
theorem scanLine_of_plain_line (hplain : Plain line) {found : Scan}
    (h : scanLine .complete [] (line ++ ['\n']) = .ok found) : found = .complete := by
  rw [scanLine_append] at h
  cases hfront : scanLine .complete [] line with
  | error before =>
    rw [hfront] at h
    cases h
  | ok scan =>
    rw [hfront] at h
    rcases scanLine_of_plain hplain (.inl rfl) hfront with rfl | rfl
    · exact (Except.ok.inj h).symm
    · exact (Except.ok.inj h).symm

/-- A line makes one logical line where nothing is open at its end, or no line is behind it. -/
theorem joinLines_eq {texts : List (Option (List Char))}
    (h : ∀ scan, scanLine .complete [] line = .ok scan → scan ≠ .complete → texts = []) :
    joinLines [] .complete (some line :: texts) = logicalLine line :: joinLines [] .complete texts := by
  rw [joinLines, logicalLine]
  by_cases hcomment : (trimStart line).head? = some '#'
  · simp [hcomment]
  · simp only [hcomment, and_false, if_false]
    cases hscan : scanLine .complete [] line with
    | error before => simp
    | ok scan =>
      by_cases hcomplete : scan = .complete
      · simp [hcomplete]
      · rw [h scan hscan hcomplete]
        simp [joinLines, hcomplete]

/-- A plain line is complete by itself: no quotation in it runs on to the next. -/
theorem joinLines_of_plain {texts : List (Option (List Char))} (hplain : Plain line)
    (hend : (∃ front, line = front ++ ['\n']) ∨ texts = []) :
    joinLines [] .complete (some line :: texts) = logicalLine line :: joinLines [] .complete texts := by
  refine joinLines_eq fun scan hscan hopen => hend.resolve_left ?_
  rintro ⟨front, rfl⟩
  exact hopen (scanLine_of_plain_line (List.forall_mem_append.mp hplain).1 hscan)

/-- **Files.** Each plain line makes one logical line. -/
theorem logicalLines_flatten (h : AreLines lines) (hplain : ∀ line ∈ lines, Plain line) :
    logicalLines (Utf8.encode (String.ofList lines.flatten)) = lines.map logicalLine := by
  rw [logicalLines_eq, textLines_flatten h]
  induction h with
  | nil => rfl
  | last hsome hline =>
    rw [List.map_singleton, joinLines_of_plain (hplain _ (List.mem_singleton_self _)) (.inr rfl)]
    rfl
  | cons hline hlines ih =>
    obtain ⟨hfirst, hrest⟩ := List.forall_mem_cons.mp hplain
    rw [List.map_cons, joinLines_of_plain hfirst (.inl ⟨_, rfl⟩), ih hrest, List.map_cons]

/-- What is cut off a line is a comment. -/
theorem exists_of_scanLine_eq_error {scan : Scan} {read before : List Char}
    (h : scanLine scan read line = .error before) :
    ∃ front comment, line = front ++ '#' :: comment ∧ before = read.reverse ++ front := by
  induction line generalizing scan read with
  | nil => cases h
  | cons c line ih =>
    rw [scanLine] at h
    cases hstep : scan.next c with
    | none =>
      have hcomment : c = '#' := by
        cases scan <;> simp [Scan.next] at hstep
        case complete => split_ifs at hstep
        case blank => exact hstep
      rw [hstep] at h
      exact ⟨[], line, by rw [hcomment]; rfl, by rw [← Except.error.inj h, List.append_nil]⟩
    | some next =>
      rw [hstep] at h
      obtain ⟨front, comment, rfl, rfl⟩ := ih h
      exact ⟨c :: front, comment, rfl, by simp⟩

/-- What is left out at the end of a line is blank. -/
theorem exists_withoutLineEnd (line : List Char) :
    ∃ behind, line = withoutLineEnd line ++ behind ∧ AllBlank behind := by
  rw [withoutLineEnd]
  split
  · next rest hrest =>
    exact ⟨['\r', '\n'], by simpa using congrArg List.reverse hrest, by decide⟩
  · next rest hrest =>
    exact ⟨['\n'], by simpa using congrArg List.reverse hrest, by decide⟩
  · exact ⟨[], by rw [List.append_nil], by decide⟩

/-- What a plain line makes is plain. -/
theorem plain_of_logicalLine (hplain : Plain line) {text : List Char}
    (h : logicalLine line = .ok text) : Plain text := by
  rw [logicalLine] at h
  split_ifs at h with hcomment
  · rw [← Except.ok.inj h]
    exact List.forall_mem_nil _
  · split at h
    · obtain ⟨behind, hline, -⟩ := exists_withoutLineEnd line
      rw [← Except.ok.inj h]
      rw [hline] at hplain
      exact (List.forall_mem_append.mp hplain).1
    · cases h
    · next before hscan =>
      obtain ⟨front, comment, rfl, rfl⟩ := exists_of_scanLine_eq_error hscan
      rw [← Except.ok.inj h]
      exact (List.forall_mem_append.mp hplain).1

/-! ### What lines are read as -/

/-- What a line is **read as**. -/
def entryOf (scope : Scope) (line : List Char) : Except Fault (Option (String × String)) :=
  (logicalLine line).bind (readLine scope)

namespace File

variable {environment : Environment} {file : File}

/-- A rejected line adds its fault and no entry. -/
theorem readLine_of_error {fault : Fault}
    (h : entryOf ⟨environment, file.entries⟩ line = .error fault) :
    file.readLine environment (logicalLine line) = ⟨file.entries, file.faults ++ [fault]⟩ := by
  rw [entryOf] at h
  rw [readLine, h]

/-- An accepted line adds at most its entry. -/
theorem readLine_of_ok {entry : Option (String × String)}
    (h : entryOf ⟨environment, file.entries⟩ line = .ok entry) :
    file.readLine environment (logicalLine line) = ⟨entry.toList ++ file.entries, file.faults⟩ := by
  rw [entryOf] at h
  rw [readLine, h]
  cases entry <;> rfl

end File

/-- A line is accepted by itself where it is read as an entry, or as none. -/
theorem accepts_iff_entryOf (line : List Char) :
    accepts line = true ↔ ∃ entry, entryOf ⟨⟨[]⟩, []⟩ line = .ok entry := by
  have hread : File.ofTexts ⟨[]⟩ [some line] = File.empty.readLine ⟨[]⟩ (logicalLine line) := by
    rw [File.ofTexts, joinLines_eq fun _ _ _ => rfl]
    rfl
  rw [accepts, hread]
  cases hentry : entryOf ⟨⟨[]⟩, File.empty.entries⟩ line with
  | error fault =>
    have hown : entryOf ⟨⟨[]⟩, []⟩ line = .error fault := hentry
    rw [File.readLine_of_error hentry]
    simp [hown, File.empty]
  | ok entry =>
    have hown : entryOf ⟨⟨[]⟩, []⟩ line = .ok entry := hentry
    rw [File.readLine_of_ok hentry]
    simp [hown, File.empty]

end Dotenv

end RequestSigning
