import RequestSigning.PrivateKey.Parse
import RequestSigning.Proofs.LossyText

/-!
# Armour read back

`Pem.encode` writes the armour of a block: its first line, its bytes in Base64 in lines of a width,
and its last line, with either kind of line end. What is written is read (`Pem.decode?_encode`), and
the name in the first line decides that it is read in the encoding it was written for
(`KeyEncoding.encodingOf_armour`).

The writer stands here and not beside the reader because only the proofs need it. The lines of the
body are the pieces of one width that the Base64 text is cut into (`Pem.wrap`), and the reader joins
them before decoding, which is sound because a full line holds whole pairs of digits.
`KeyEncoding.parse_armour` reduces parsing a text to reading the bytes inside its armour.
-/

namespace RequestSigning

/-! ### Pieces -/

namespace Bytes

variable {α : Type} {size : Nat} {l : List α}

/-- What fits in one piece is one piece. -/
theorem chunks_of_short (hsize : 0 < size) (hne : l ≠ []) (h : l.length ≤ size) :
    chunks size l = [l] := by
  obtain ⟨size, rfl⟩ := Nat.exists_eq_add_one.mpr hsize
  obtain ⟨a, rest, rfl⟩ := List.exists_cons_of_ne_nil hne
  have hrest : rest.length ≤ size := Nat.le_of_succ_le_succ h
  rw [chunks_cons, List.take_of_length_le hrest, List.drop_of_length_le hrest, chunks_nil]

/-- A longer list gives up a full piece and goes on with the rest. -/
theorem chunks_of_long (hsize : 0 < size) (h : size < l.length) :
    chunks size l = l.take size :: chunks size (l.drop size) := by
  have htake : (l.take size).length = size := List.length_take_of_le (Nat.le_of_lt h)
  conv_lhs => rw [← List.take_append_drop size l, chunks_append hsize _ htake]

theorem chunks_ne_nil (size : Nat) (hne : l ≠ []) : chunks size l ≠ [] := by
  intro hnil
  have hflatten := flatten_chunks size l
  rw [hnil] at hflatten
  exact hne hflatten.symm

end Bytes

namespace Pem

/-! ### Line ends -/

/-- The **line ends** a text can be written with. -/
inductive LineEnd
  | lf
  | crlf
  deriving DecidableEq, Repr

/-- The bytes of a line end. -/
def LineEnd.bytes : LineEnd → Bytes
  | lf => [10]
  | crlf => [13, 10]

/-- Bytes that do not end in the middle of a line end. -/
def EndsClear (bytes : Bytes) : Prop :=
  bytes.getLast? ≠ some 10 ∧ bytes.getLast? ≠ some 13

variable {eol : LineEnd} {bytes : Bytes}

/-- Each line end is recognised as the one it is. -/
theorem afterLineEnd?_bytes (eol : LineEnd) (rest : Bytes) :
    afterLineEnd? (eol.bytes ++ rest) = some rest := by
  cases eol <;> rfl

/-- A line end is stripped whole, as long as the line itself does not end in a part of one. -/
theorem beforeLineEnd_append (h : EndsClear bytes) : beforeLineEnd (bytes ++ eol.bytes) = bytes := by
  rw [EndsClear, List.getLast?_eq_head?_reverse] at h
  cases eol with
  | crlf => simp [beforeLineEnd, LineEnd.bytes]
  | lf =>
    rw [beforeLineEnd, LineEnd.bytes, List.reverse_append, List.reverse_singleton,
      List.singleton_append]
    split
    · next rest heq =>
      -- a carriage return before the line feed would be part of the line end
      obtain ⟨-, hrest⟩ := List.cons.inj heq
      simp [hrest] at h
    · next rest _ heq =>
      obtain ⟨-, hrest⟩ := List.cons.inj heq
      rw [← hrest, List.reverse_reverse]
    · next heq => simp at heq
    · next hnot _ => exact absurd rfl (hnot _)

theorem beforeLineEnd_of_endsClear (h : EndsClear bytes) : beforeLineEnd bytes = bytes := by
  rw [EndsClear, List.getLast?_eq_head?_reverse] at h
  rw [beforeLineEnd]
  split <;> simp_all

/-! ### Lines -/

/-- Characters in lines of a width, with a line end between any two lines. -/
def wrap (eol : LineEnd) (width : Nat) (chars : Bytes) : Bytes :=
  eol.bytes.intercalate (Bytes.chunks width chars)

variable {width : Nat} {chars : Bytes}

theorem wrap_of_short (hwidth : 0 < width) (hne : chars ≠ []) (h : chars.length ≤ width) :
    wrap eol width chars = chars := by
  rw [wrap, Bytes.chunks_of_short hwidth hne h, List.intercalate_singleton]

/-- A full line is followed by a line end and the rest. -/
theorem wrap_of_long (hwidth : 0 < width) (h : width < chars.length) :
    wrap eol width chars =
      chars.take width ++ eol.bytes ++ wrap eol width (chars.drop width) := by
  have hrest : chars.drop width ≠ [] := by simpa using h
  rw [wrap, Bytes.chunks_of_long hwidth h,
    List.intercalate_cons_of_ne_nil (Bytes.chunks_ne_nil width hrest), ← wrap]

/-- **Induction over lines.** A text that is not empty is its last line, or a full line and the text
behind it. -/
@[elab_as_elim]
theorem lines_induction {motive : (chars : Bytes) → chars ≠ [] → Prop} (hwidth : 0 < width)
    (last : ∀ chars hne, chars.length ≤ width → motive chars hne)
    (full : ∀ chars hne hrest, width < chars.length → motive (chars.drop width) hrest →
      motive chars hne) (chars : Bytes) (hne : chars ≠ []) : motive chars hne := by
  induction h : chars.length using Nat.strongRecOn generalizing chars with
  | ind n ih =>
    rcases Nat.lt_or_ge width chars.length with hlong | hshort
    · have hrest : chars.drop width ≠ [] := by simpa using hlong
      have hless : (chars.drop width).length < n := by
        rw [List.length_drop]
        omega
      exact full chars hne hrest hlong (ih _ hless _ hrest rfl)
    · exact last chars hne hshort

/-- No line end stands behind the last line. -/
theorem getLast?_wrap (hwidth : 0 < width) (hne : chars ≠ []) :
    (wrap eol width chars).getLast? = chars.getLast? := by
  induction chars, hne using lines_induction hwidth with
  | last chars hne hshort => rw [wrap_of_short hwidth hne hshort]
  | full chars hne hrest hlong ih =>
    obtain ⟨last, hlast⟩ := Option.ne_none_iff_exists'.mp (mt List.getLast?_eq_none_iff.mp hrest)
    have hchars : chars.getLast? = some last := by
      rw [← List.take_append_drop width chars, List.getLast?_append, hlast, Option.some_or]
    rw [wrap_of_long hwidth hlong, List.getLast?_append, ih, hlast, Option.some_or, hchars]

theorem wrap_ne_nil (hwidth : 0 < width) (hne : chars ≠ []) : wrap eol width chars ≠ [] := by
  intro hnil
  have hlast : (wrap eol width chars).getLast? = chars.getLast? := getLast?_wrap hwidth hne
  rw [hnil, List.getLast?_nil] at hlast
  exact hne (List.getLast?_eq_none_iff.mp hlast.symm)

/-- What holds of the characters and of the line end holds of every byte in the lines. -/
theorem forall_mem_wrap {P : UInt8 → Prop} (hwidth : 0 < width) (heol : ∀ b ∈ eol.bytes, P b)
    (hne : chars ≠ []) (hchars : ∀ b ∈ chars, P b) : ∀ b ∈ wrap eol width chars, P b := by
  induction chars, hne using lines_induction hwidth with
  | last chars hne hshort =>
    rw [wrap_of_short hwidth hne hshort]
    exact hchars
  | full chars hne hrest hlong ih =>
    intro b hb
    rw [wrap_of_long hwidth hlong, List.mem_append, List.mem_append] at hb
    rcases hb with (hfront | hend) | hbehind
    · exact hchars b (List.mem_of_mem_take hfront)
    · exact heol b hend
    · exact ih (fun b hb => hchars b (List.mem_of_mem_drop hb)) b hbehind

/-- Bytes without a line feed and without a carriage return. -/
def IsLine (bytes : Bytes) : Prop :=
  ∀ b ∈ bytes, b ≠ 10 ∧ b ≠ 13

theorem IsLine.endsClear (h : IsLine bytes) : EndsClear bytes :=
  ⟨fun hlast => (h 10 (List.mem_of_getLast? hlast)).1 rfl,
    fun hlast => (h 13 (List.mem_of_getLast? hlast)).2 rfl⟩

/-- Base64 text has no line end in it. -/
theorem isLine_encodeBytes (bytes : Bytes) : IsLine (Base64.encodeBytes bytes) :=
  Base64.forall_mem_encodeBytes (by decide) (by decide) bytes

/-- A full line with a line end behind it is taken off. -/
theorem bodyLines?_append {line rest : Bytes} (hline : line.length = width) (hne : rest ≠ []) :
    bodyLines? width (line ++ (eol.bytes ++ rest)) = (bodyLines? width rest).map (line :: ·) := by
  have htake : (line ++ (eol.bytes ++ rest)).take width = line := List.take_left' hline
  have hbehind : afterLineEnd? ((line ++ (eol.bytes ++ rest)).drop width) = some rest := by
    rw [List.drop_left' hline, afterLineEnd?_bytes]
  have hlonger : ¬(line ++ (eol.bytes ++ rest)).length ≤ width := by
    have hpos : 0 < rest.length := List.length_pos_iff.mpr hne
    simp only [List.length_append]
    omega
  rw [bodyLines?, if_neg hlonger, htake]
  split
  · next hnone =>
    rw [hbehind] at hnone
    contradiction
  · next hempty =>
    rw [hbehind] at hempty
    exact absurd (Option.some.inj hempty) hne
  · next b tail hsome =>
    rw [hbehind] at hsome
    rw [Option.some.inj hsome]

/-- The lines that were written are read. -/
theorem bodyLines?_wrap (hwidth : 0 < width) (hne : chars ≠ []) (hline : IsLine chars) :
    bodyLines? width (wrap eol width chars) = some (Bytes.chunks width chars) := by
  induction chars, hne using lines_induction hwidth with
  | last chars hne hshort =>
    rw [wrap_of_short hwidth hne hshort, bodyLines?, if_pos hshort,
      beforeLineEnd_of_endsClear hline.endsClear, Bytes.chunks_of_short hwidth hne hshort]
  | full chars hne hrest hlong ih =>
    have hfull : (chars.take width).length = width := List.length_take_of_le (Nat.le_of_lt hlong)
    have hlines := ih fun b hb => hline b (List.mem_of_mem_drop hb)
    rw [wrap_of_long hwidth hlong, List.append_assoc,
      bodyLines?_append hfull (wrap_ne_nil hwidth hrest), hlines, Option.map_some,
      ← Bytes.chunks_of_long hwidth hlong]

/-! ### Padding -/

/-- In lines of an even width only the last one has padding. -/
theorem pad_notMem_of_mem_dropLast (hwidth : 0 < width) (heven : width % 2 = 0) (hne : chars ≠ [])
    (hchars : chars.length % 2 = 0) (hpad : Base64.pad ∉ chars.take (chars.length - 2)) :
    ∀ line ∈ (Bytes.chunks width chars).dropLast, Base64.pad ∉ line := by
  induction chars, hne using lines_induction hwidth with
  | last chars hne hshort => simp [Bytes.chunks_of_short hwidth hne hshort]
  | full chars hne hrest hlong ih =>
    -- an even number of characters stands behind the line, so two at least
    have hfront : chars.take width = (chars.take (chars.length - 2)).take width := by
      rw [List.take_take]
      congr 1
      omega
    have hback : (chars.drop width).take ((chars.drop width).length - 2) =
        (chars.take (chars.length - 2)).drop width := by
      rw [List.length_drop, List.drop_take]
      congr 1
      omega
    rw [Bytes.chunks_of_long hwidth hlong,
      List.dropLast_cons_of_ne_nil (Bytes.chunks_ne_nil width hrest), List.forall_mem_cons, hfront]
    refine ⟨fun hmem => hpad (List.mem_of_mem_take hmem), ih ?_ ?_⟩
    · rw [List.length_drop]
      omega
    · rw [hback]
      exact fun hmem => hpad (List.mem_of_mem_drop hmem)

/-- The decoder joins what the writer cut, if lines hold whole pairs of characters. -/
theorem decodeLines?_chunks (hwidth : 0 < width) (heven : width % 2 = 0) (hne : bytes ≠ []) :
    decodeLines? (Bytes.chunks width (Base64.encodeBytes bytes)) = some bytes := by
  have hlength := Base64.length_encodeBytes bytes
  have hnone : ((Bytes.chunks width (Base64.encodeBytes bytes)).dropLast.any
      fun line => line.contains Base64.pad) = false := by
    rw [List.any_eq_false]
    intro line hline
    rw [List.contains_iff_mem]
    exact pad_notMem_of_mem_dropLast hwidth heven (Base64.encodeBytes_ne_nil hne) (by omega)
      (Base64.pad_notMem_take bytes) line hline
  rw [decodeLines?, hnone, Bytes.flatten_chunks, Base64.decode?_encodeBytes]
  exact if_neg Bool.false_ne_true

/-! ### The block -/

/-- The **armour** of bytes: a block with a name, in lines of a width. -/
def encode (eol : LineEnd) (width : Nat) (label bytes : Bytes) : Bytes :=
  beginMark ++ label ++ dashes ++ eol.bytes ++
    (wrap eol width (Base64.encodeBytes bytes) ++ eol.bytes) ++
    endMark ++ label ++ dashes ++ eol.bytes

/-- The opening mark is recognised at the start of a line. -/
theorem afterBegin?_beginMark (rest : Bytes) :
    afterBegin? true (beginMark ++ rest) = some rest := by
  have hprefix : beginMark.isPrefixOf (beginMark ++ rest) = true :=
    List.isPrefixOf_iff_prefix.mpr (List.prefix_append _ _)
  have hdrop : (beginMark ++ rest).drop beginMark.length = rest := List.drop_left
  rw [show beginMark ++ rest = 45 :: (beginMark.tail ++ rest) from rfl] at hprefix hdrop ⊢
  rw [afterBegin?, hprefix, hdrop]
  rfl

theorem endsClear_append_dashes (bytes : Bytes) : EndsClear (bytes ++ dashes) := by
  have hlast : (bytes ++ dashes).getLast? = some 45 := by
    rw [List.getLast?_append]
    rfl
  rw [EndsClear, hlast]
  decide

/-- The body of an armour is what stands between its first line and its last. -/
theorem body?_encode (hne : Base64.encodeBytes bytes ≠ []) (hwidth : 0 < width) (label : Bytes) :
    body? label (encode eol width label bytes) =
      some (wrap eol width (Base64.encodeBytes bytes)) := by
  -- the parts that the reader takes off one after the other
  obtain ⟨opening, hopening⟩ : ∃ opening, opening = label ++ dashes := ⟨_, rfl⟩
  obtain ⟨closing, hclosing⟩ : ∃ closing, closing = endMark ++ label ++ dashes := ⟨_, rfl⟩
  obtain ⟨wrapped, hwrapped⟩ :
      ∃ wrapped, wrapped = wrap eol width (Base64.encodeBytes bytes) := ⟨_, rfl⟩
  have htext : encode eol width label bytes =
      beginMark ++ (opening ++ (eol.bytes ++ (wrapped ++ eol.bytes ++ closing ++ eol.bytes))) := by
    simp only [encode, hopening, hclosing, hwrapped, List.append_assoc]
  have hclear : EndsClear wrapped := by
    rw [hwrapped, EndsClear, getLast?_wrap hwidth hne]
    exact (isLine_encodeBytes bytes).endsClear
  have hends : EndsClear (wrapped ++ eol.bytes ++ closing) := by
    rw [hclosing, ← List.append_assoc]
    exact endsClear_append_dashes _
  have hprefix : opening.isPrefixOf
      (opening ++ (eol.bytes ++ (wrapped ++ eol.bytes ++ closing ++ eol.bytes))) = true :=
    List.isPrefixOf_iff_prefix.mpr (List.prefix_append _ _)
  have hsuffix : closing.isSuffixOf (wrapped ++ eol.bytes ++ closing) = true :=
    List.isSuffixOf_iff_suffix.mpr (List.suffix_append _ _)
  have hbody : (wrapped ++ eol.bytes ++ closing).take
      ((wrapped ++ eol.bytes ++ closing).length - closing.length) = wrapped ++ eol.bytes := by
    rw [List.length_append, Nat.add_sub_cancel]
    exact List.take_left
  have hshorter : wrapped.length ≠ (wrapped ++ eol.bytes).length := by
    rw [List.length_append]
    cases eol <;> simp [LineEnd.bytes]
  rw [body?, htext, ← hwrapped]
  simp only [afterBegin?_beginMark, ← hopening, ← hclosing, Option.bind_eq_bind, Option.bind_some,
    hprefix, not_true_eq_false, if_false, List.drop_left, afterLineEnd?_bytes,
    beforeLineEnd_append hends, hsuffix, hbody, beforeLineEnd_append hclear, hshorter]

/-- **Armour.** The bytes that were armoured are read. -/
theorem decode?_encode (hwidth : 0 < width) (heven : width % 2 = 0) (hne : bytes ≠ [])
    (label : Bytes) : decode? width label (encode eol width label bytes) = some bytes := by
  have hchars := Base64.encodeBytes_ne_nil hne
  rw [decode?, body?_encode hchars hwidth]
  simp only [Option.bind_eq_bind, Option.bind_some,
    bodyLines?_wrap hwidth hchars (isLine_encodeBytes bytes), decodeLines?_chunks hwidth heven hne]

end Pem

/-! ### The first line -/

/-- The characters of ASCII bytes. -/
def asciiChars (bytes : Bytes) : List Char :=
  bytes.map fun b => Char.ofNat b.toNat

/-- ASCII bytes are one character each. -/
theorem Utf8.steps_of_ascii {bytes : Bytes} (h : ∀ b ∈ bytes, b < 128) :
    steps bytes = (asciiChars bytes).map some := by
  induction bytes with
  | nil =>
    rw [steps, stepsAfter]
    rfl
  | cons b bytes ih =>
    rw [List.forall_mem_cons] at h
    rw [steps_cons, scan_of_lt h.1, List.drop_zero, ih h.2]
    rfl

/-- ASCII bytes are the text of their characters. -/
theorem Utf8.decode?_of_ascii {bytes : Bytes} (h : ∀ b ∈ bytes, b < 128) :
    decode? bytes = some (String.ofList (asciiChars bytes)) := by
  have hall : ((asciiChars bytes).map some).all Option.isSome = true := by simp
  have hchars : ((asciiChars bytes).map some).filterMap id = asciiChars bytes := by simp
  rw [decode?, steps_of_ascii h]
  simp only [hall, hchars, if_true]

/-- What stands before the first line feed is the first line. -/
theorem Text.lines_append {line : List Char} (h : '\n' ∉ line) (rest : List Char) :
    lines (line ++ '\n' :: rest) = line :: lines rest := by
  induction line with
  | nil => exact lines_newline rest
  | cons c line ih =>
    rw [List.mem_cons, not_or] at h
    have hrest := ih h.2
    simp only [lines, List.cons_append, List.foldr_cons, if_neg (Ne.symm h.1), List.cons.injEq]
      at hrest ⊢
    exact ⟨⟨trivial, hrest.1⟩, hrest.2⟩

namespace KeyEncoding

open PrivateKey

/-- The **armour** of a private key in an encoding. -/
def armour (encoding : KeyEncoding) (eol : Pem.LineEnd) (bytes : Bytes) : Bytes :=
  Pem.encode eol encoding.lineWidth (Utf8.encode encoding.label) bytes

/-- The first line of the armour up to its line feed. -/
def firstLine (encoding : KeyEncoding) (eol : Pem.LineEnd) : Bytes :=
  Pem.beginMark ++ Utf8.encode encoding.label ++ Pem.dashes ++ eol.bytes.dropLast

/-- The label is read back from the first line, with either line end. -/
theorem labelOfLine?_firstLine (encoding : KeyEncoding) (eol : Pem.LineEnd) :
    labelOfLine? (asciiChars (encoding.firstLine eol)) = some encoding.label.toList := by
  cases encoding <;> cases eol <;> decide

/-- Each encoding is recognised by its own label. -/
theorem ofLabel_label (encoding : KeyEncoding) : ofLabel encoding.label = .ok encoding := by
  cases encoding <;> rfl

theorem lineWidth_pos (encoding : KeyEncoding) : 0 < encoding.lineWidth := by
  cases encoding <;> decide

theorem lineWidth_even (encoding : KeyEncoding) : encoding.lineWidth % 2 = 0 := by
  cases encoding <;> rfl

/-- Armoured text has its label on the first line and nothing but ASCII behind it. -/
theorem armour_eq {bytes : Bytes} (hne : bytes ≠ []) (encoding : KeyEncoding)
    (eol : Pem.LineEnd) :
    ∃ rest, encoding.armour eol bytes = encoding.firstLine eol ++ 10 :: rest ∧
      ∀ b ∈ rest, b < 128 := by
  have hwrapped : ∀ b ∈ Pem.wrap eol encoding.lineWidth (Base64.encodeBytes bytes), b < 128 :=
    Pem.forall_mem_wrap encoding.lineWidth_pos (by cases eol <;> decide +kernel)
      (Base64.encodeBytes_ne_nil hne) (Base64.encodeBytes_lt bytes)
  have hmarks : ∀ b ∈ eol.bytes ++ Pem.endMark ++ Utf8.encode encoding.label ++ Pem.dashes ++
      eol.bytes, b < 128 := by
    cases encoding <;> cases eol <;> decide +kernel
  refine ⟨Pem.wrap eol encoding.lineWidth (Base64.encodeBytes bytes) ++
    (eol.bytes ++ Pem.endMark ++ Utf8.encode encoding.label ++ Pem.dashes ++ eol.bytes), ?_, ?_⟩
  · rw [armour, Pem.encode, firstLine]
    cases eol <;> simp [Pem.LineEnd.bytes]
  · intro b hb
    rcases List.mem_append.mp hb with hline | hmark
    · exact hwrapped b hline
    · exact hmarks b hmark

/-- The first line of an armour says which encoding it holds. -/
theorem encodingOf_armour {bytes : Bytes} (hne : bytes ≠ []) (encoding : KeyEncoding)
    (eol : Pem.LineEnd) : encodingOf (encoding.armour eol bytes) = .ok encoding := by
  obtain ⟨rest, harmour, hrest⟩ := armour_eq hne encoding eol
  have hline : ∀ b ∈ encoding.firstLine eol, b < 128 := by
    cases encoding <;> cases eol <;> decide +kernel
  have hbreak : '\n' ∉ asciiChars (encoding.firstLine eol) := by
    cases encoding <;> cases eol <;> decide +kernel
  have hascii : ∀ b ∈ encoding.firstLine eol ++ 10 :: rest, b < 128 := by
    intro b hb
    rcases List.mem_append.mp hb with hfirst | hbehind
    · exact hline b hfirst
    · rcases List.mem_cons.mp hbehind with rfl | hmem
      · decide
      · exact hrest b hmem
  have hchars : asciiChars (encoding.firstLine eol ++ 10 :: rest) =
      asciiChars (encoding.firstLine eol) ++ '\n' :: asciiChars rest := by
    rw [asciiChars, List.map_append]
    rfl
  have hlabel : label? (String.ofList (asciiChars (encoding.firstLine eol ++ 10 :: rest))) =
      some encoding.label := by
    rw [label?, String.toList_ofList, hchars, Text.lines_append hbreak, List.findSome?_cons,
      labelOfLine?_firstLine]
    exact congrArg some (String.ofList_toList)
  rw [encodingOf, harmour, Utf8.decode?_of_ascii hascii]
  simp only [hlabel, ofLabel_label]

/-- The armour of an encoding holds the bytes that were armoured. -/
theorem armoured?_armour {bytes : Bytes} (hne : bytes ≠ []) (encoding : KeyEncoding)
    (eol : Pem.LineEnd) : encoding.armoured? (encoding.armour eol bytes) = some bytes :=
  Pem.decode?_encode encoding.lineWidth_pos encoding.lineWidth_even hne _

/-- A text is parsed in the encoding that its name stands for. -/
theorem parse_eq_read {text : Bytes} {encoding : KeyEncoding}
    (h : encodingOf text = .ok encoding) : parse text = encoding.read text := by
  rw [parse, parseWith, h]
  simp only [bind, Except.bind]
  cases encoding.read text <;> rfl

/-- An armour is parsed in its own encoding. -/
theorem parse_armour {bytes : Bytes} (hne : bytes ≠ []) (encoding : KeyEncoding)
    (eol : Pem.LineEnd) :
    parse (encoding.armour eol bytes) = encoding.read (encoding.armour eol bytes) :=
  parse_eq_read (encodingOf_armour hne encoding eol)

variable {bytes : Bytes}

/-- Parsing an armoured PKCS#1 text is reading its bytes. -/
theorem parse_pkcs1 (hne : bytes ≠ []) (eol : Pem.LineEnd) :
    parse (pkcs1.armour eol bytes) =
      (Pkcs1.key? bytes).elim (.error .malformedBlock) fun key => .ok (.rsa key) := by
  rw [parse_armour hne, read, armoured?_armour hne]
  dsimp only [Option.bind_some]
  cases Pkcs1.key? bytes <;> rfl

/-- Parsing an armoured PKCS#8 text is reading its bytes. -/
theorem parse_pkcs8 (hne : bytes ≠ []) (eol : Pem.LineEnd) :
    parse (pkcs8.armour eol bytes) = (Pkcs8.key? bytes).elim (.error .malformedPkcs8) .ok := by
  rw [parse_armour hne, read, armoured?_armour hne]
  dsimp only [Option.bind_some]
  cases Pkcs8.key? bytes <;> rfl

/-- Parsing an armoured OpenSSH file is reading its bytes. -/
theorem parse_openSsh (hne : bytes ≠ []) (eol : Pem.LineEnd) :
    parse (openSsh.armour eol bytes) = OpenSsh.key bytes := by
  rw [parse_armour hne, read, armoured?_armour hne]

end KeyEncoding

end RequestSigning
