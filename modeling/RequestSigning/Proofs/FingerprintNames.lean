import RequestSigning.Proofs.Fingerprint
import RequestSigning.Proofs.TextParts

/-!
# The texts that name a key

A text names a key if, without the blanks around it, it is the key's digits in either case with
colons anywhere among them, behind a mark `md5:` in either case or without one
(`Fingerprint.isNamedBy_iff`). It does not matter that a mark in front is always taken off: left in
place it would name no key, since its `m` is no digit
(`Fingerprint.not_sameLetters_compact_of_mark`). Finding the mark by the bytes of the text, as the
first four of them, comes to the same for every text, since the mark is four bytes long
(`Fingerprint.normalizeByBytes?_eq`).
-/

namespace RequestSigning.Fingerprint

open Text

/-! ### Lowercase -/

theorem exists_capital {c : Char} (h : 'A' ≤ c ∧ c ≤ 'Z') : ∃ n < 26, c = Char.ofNat (65 + n) := by
  rw [Char.le_def, Char.le_def, UInt32.le_iff_toNat_le, UInt32.le_iff_toNat_le] at h
  obtain ⟨hlow, hhigh⟩ : 65 ≤ c.toNat ∧ c.toNat ≤ 90 := h
  refine ⟨c.toNat - 65, by omega, ?_⟩
  rw [Nat.add_sub_of_le hlow, Char.ofNat_toNat]

/-- What holds of the lowercase form of every capital, and of every character for its own form,
holds of all lowercase forms. -/
theorem lower_cases {P : Char → Char → Prop}
    (hcapital : ∀ n < 26, P (Char.ofNat (65 + n)) (Char.ofNat (97 + n)))
    (hother : ∀ c, ¬('A' ≤ c ∧ c ≤ 'Z') → P c c) (c : Char) : P c (lower c) := by
  by_cases h : 'A' ≤ c ∧ c ≤ 'Z'
  · have hlower : ∀ n < 26, lower (Char.ofNat (65 + n)) = Char.ofNat (97 + n) := by decide
    obtain ⟨n, hn, rfl⟩ := exists_capital h
    rw [hlower n hn]
    exact hcapital n hn
  · rw [lower, if_neg h]
    exact hother c h

theorem toLower_eq_lower (c : Char) : c.toLower = lower c :=
  lower_cases (P := fun c d => c.toLower = d) (by decide) (fun _ h => dif_neg h) c

theorem utf8Size_lower (c : Char) : (lower c).utf8Size = c.utf8Size :=
  lower_cases (P := fun c d => d.utf8Size = c.utf8Size) (by decide) (fun _ _ => rfl) c

/-- A character that is no small letter is the lowercase form of itself only. -/
theorem eq_of_lower {c d : Char} (hd : ∀ n < 26, Char.ofNat (97 + n) ≠ d) (h : lower c = d) :
    c = d :=
  lower_cases (P := fun c e => e = d → c = d) (fun n hn heq => absurd heq (hd n hn))
    (fun _ _ => id) c h

theorem sameLetters_iff {text other : List Char} :
    SameLetters text other ↔ text.map lower = other.map lower := by
  rw [SameLetters, funext toLower_eq_lower]

/-- Texts that are the same but for the case of their letters have the same number of bytes. -/
theorem byteLength_eq_of_sameLetters {text other : List Char} (h : SameLetters text other) :
    byteLength text = byteLength other := by
  have hlower (chars : List Char) : byteLength (chars.map lower) = byteLength chars := by
    induction chars with
    | nil => rfl
    | cons c chars ih => rw [List.map_cons, byteLength_cons, byteLength_cons, ih, utf8Size_lower]
  rw [← hlower text, sameLetters_iff.mp h, hlower]

/-! ### The mark -/

/-- The **mark** that may stand in front of the digits. -/
def mark : List Char := ['m', 'd', '5', ':']

theorem sameLetters_mark_iff {front : List Char} :
    SameLetters front mark ↔
      ∃ m d, front = [m, d, '5', ':'] ∧ lower m = 'm' ∧ lower d = 'd' := by
  have hmark : mark.map lower = ['m', 'd', '5', ':'] := by decide
  rw [sameLetters_iff, hmark]
  constructor
  · intro h
    obtain ⟨m, front, rfl, hm, h⟩ := List.map_eq_cons_iff.mp h
    obtain ⟨d, front, rfl, hd, h⟩ := List.map_eq_cons_iff.mp h
    obtain ⟨five, front, rfl, hfive, h⟩ := List.map_eq_cons_iff.mp h
    obtain ⟨colon, front, rfl, hcolon, h⟩ := List.map_eq_cons_iff.mp h
    obtain rfl := List.map_eq_nil_iff.mp h
    obtain rfl := eq_of_lower (by decide) hfive
    obtain rfl := eq_of_lower (by decide) hcolon
    exact ⟨m, d, rfl, hm, hd⟩
  · rintro ⟨m, d, rfl, hm, hd⟩
    rw [List.map_cons, List.map_cons, hm, hd]
    decide

/-- A mark is taken off the front. -/
theorem withoutMark_append {front : List Char} (h : SameLetters front mark) (rest : List Char) :
    withoutMark (front ++ rest) = rest := by
  obtain ⟨m, d, rfl, hm, hd⟩ := sameLetters_mark_iff.mp h
  exact if_pos ⟨hm, hd, rfl, rfl⟩

/-- A text without a mark in front is kept. -/
theorem withoutMark_of_not {text : List Char}
    (h : ∀ front rest, text = front ++ rest → ¬SameLetters front mark) :
    withoutMark text = text := by
  fun_cases withoutMark text with
  | case1 m d five colon rest hfront =>
    obtain ⟨hm, hd, rfl, rfl⟩ := hfront
    exact absurd (sameLetters_mark_iff.mpr ⟨m, d, rfl, hm, hd⟩) (h _ rest rfl)
  | case2 => rfl
  | case3 => rfl

/-- The text behind a mark, which is found by bytes: where the first four bytes are characters and
these are the mark, the text is cut behind them. There is no result where this cut falls inside a
character. -/
def withoutMarkByBytes? (text : List Char) : Option (List Char) :=
  match (cutAtByte? 4 text).map Prod.fst with
  | none => some text
  | some front =>
    if SameLetters front mark then (cutAtByte? 4 text).map Prod.snd else some text

/-- The normal form of a text, its mark found by bytes. -/
def normalizeByBytes? (supplied : String) : Option String :=
  (withoutMarkByBytes? (trim supplied.toList)).map fun named =>
    String.ofList ((named.filter (· ≠ ':')).map lower)

theorem withoutMarkByBytes?_eq (text : List Char) :
    withoutMarkByBytes? text = some (withoutMark text) := by
  have hlength {front : List Char} (h : SameLetters front mark) : byteLength front = 4 :=
    byteLength_eq_of_sameLetters h
  rw [withoutMarkByBytes?]
  cases hcut : cutAtByte? 4 text with
  | none =>
    refine congrArg some (withoutMark_of_not fun front rest htext hmark => ?_).symm
    rw [cutAtByte?_eq_some_iff.mpr ⟨htext, hlength hmark⟩] at hcut
    contradiction
  | some cut =>
    obtain ⟨front, rest⟩ := cut
    obtain ⟨htext, hfour⟩ := cutAtByte?_eq_some_iff.mp hcut
    dsimp only [Option.map_some]
    split_ifs with hmark
    · rw [htext, withoutMark_append hmark]
    · refine congrArg some (withoutMark_of_not fun other behind hother hsame => ?_).symm
      -- the mark would be the same four bytes
      rw [cutAtByte?_eq_some_iff.mpr ⟨hother, hlength hsame⟩] at hcut
      obtain ⟨rfl, -⟩ := Prod.mk.inj (Option.some.inj hcut)
      exact hmark hsame

theorem normalizeByBytes?_eq (supplied : String) :
    normalizeByBytes? supplied = some (normalize supplied) := by
  rw [normalizeByBytes?, withoutMarkByBytes?_eq]
  rfl

/-! ### The digits -/

variable {fingerprint : Fingerprint}

theorem length_compact (fingerprint : Fingerprint) : fingerprint.compact.toList.length = 32 := by
  have hpairs (bytes : Bytes) : (bytes.flatMap Bytes.hexPair).length = 2 * bytes.length := by
    induction bytes with
    | nil => rfl
    | cons b bytes ih =>
      rw [List.flatMap_cons, List.length_append, ih, List.length_cons, Bytes.hexPair]
      simp only [List.length_cons, List.length_nil]
      omega
  rw [compact, Bytes.hex, String.toList_ofList, hpairs, fingerprint.length_bytes]

theorem map_lower_compact (fingerprint : Fingerprint) :
    fingerprint.compact.toList.map lower = fingerprint.compact.toList :=
  List.map_congr_left (forall_mem_compact (by decide) fingerprint) |>.trans (List.map_id _)

/-- Digits are not the same as anything that has a mark in front. -/
theorem not_sameLetters_compact_of_mark {front : List Char} (h : SameLetters front mark)
    (rest : List Char) :
    ¬SameLetters ((front ++ rest).filter (· ≠ ':')) fingerprint.compact.toList := by
  obtain ⟨m, d, rfl, hm, -⟩ := sameLetters_mark_iff.mp h
  have hcolon : m ≠ ':' := by
    rintro rfl
    revert hm
    decide
  intro hsame
  rw [sameLetters_iff, map_lower_compact, List.cons_append,
    List.filter_cons_of_pos (by simpa using hcolon), List.map_cons, hm] at hsame
  have hdigit : ∀ c ∈ fingerprint.compact.toList, c ≠ 'm' :=
    forall_mem_compact (by decide) fingerprint
  exact hdigit 'm' (hsame ▸ List.mem_cons_self) rfl

/-- A trimmed text names a key exactly if the digits of the key stand in it, with or without a mark
in front. -/
theorem sameLetters_withoutMark_iff {text : List Char} :
    SameLetters ((withoutMark text).filter (· ≠ ':')) fingerprint.compact.toList ↔
      ∃ front named, text = front ++ named ∧ (front = [] ∨ SameLetters front mark) ∧
        SameLetters (named.filter (· ≠ ':')) fingerprint.compact.toList := by
  by_cases hmarked : ∃ front rest, text = front ++ rest ∧ SameLetters front mark
  · obtain ⟨front, rest, rfl, hmark⟩ := hmarked
    rw [withoutMark_append hmark]
    refine ⟨fun h => ⟨front, rest, rfl, .inr hmark, h⟩, ?_⟩
    rintro ⟨other, named, htext, rfl | hother, hnamed⟩
    · rw [List.nil_append] at htext
      rw [← htext] at hnamed
      exact absurd hnamed (not_sameLetters_compact_of_mark hmark rest)
    · have hsame := withoutMark_append hmark rest
      rw [htext, withoutMark_append hother] at hsame
      exact hsame ▸ hnamed
  · push Not at hmarked
    rw [withoutMark_of_not hmarked]
    refine ⟨fun h => ⟨[], text, rfl, .inl rfl, h⟩, ?_⟩
    rintro ⟨front, named, htext, rfl | hmark, hnamed⟩
    · rw [htext]
      exact hnamed
    · exact absurd hmark (hmarked front named htext)

/-! ### Names -/

theorem isNamedBy_eq_true_iff {supplied : String} :
    fingerprint.isNamedBy supplied = true ↔
      SameLetters ((withoutMark (trim supplied.toList)).filter (· ≠ ':'))
        fingerprint.compact.toList := by
  rw [isNamedBy, beq_iff_eq, normalize, ← String.toList_inj, String.toList_ofList, sameLetters_iff,
    map_lower_compact]

/-- A text of digits and colons names the key that has these digits. -/
theorem isNamedBy_of_filter {supplied : String} (hblank : ∀ c ∈ supplied.toList, isBlank c = false)
    (h : supplied.toList.filter (· ≠ ':') = fingerprint.compact.toList) :
    fingerprint.isNamedBy supplied = true := by
  rw [isNamedBy_eq_true_iff, trim_eq_iff.mpr (isTrimmed_self hblank), sameLetters_withoutMark_iff]
  exact ⟨[], _, rfl, .inl rfl, congrArg (List.map Char.toLower) h⟩

/-- **The spellings of a key.** A text names a key exactly if, without the blanks around it, it is
the mark `md5:` in either case or nothing, and then what without its colons is the 32 hexadecimal
digits of the key in either case. So a key is named by the form that is shown of it, which without
its colons is the compact form, and by the compact form; no text names two keys; and looking for the
mark in the first four bytes comes to the same, and cuts no text inside a character. -/
theorem isNamedBy_iff (fingerprint : Fingerprint) :
    (∀ supplied : String, fingerprint.isNamedBy supplied = true ↔
      ∃ trimmed front named, IsTrimmed trimmed supplied.toList ∧ trimmed = front ++ named ∧
        (front = [] ∨ SameLetters front "md5:".toList) ∧
        SameLetters (named.filter (· ≠ ':')) fingerprint.compact.toList) ∧
    (fingerprint.compact.toList.length = 32 ∧
      ∀ c ∈ fingerprint.compact.toList, c ∈ "0123456789abcdef".toList) ∧
    fingerprint.isNamedBy fingerprint.display = true ∧
    fingerprint.isNamedBy fingerprint.compact = true ∧
    String.ofList (fingerprint.display.toList.filter (· ≠ ':')) = fingerprint.compact ∧
    (∀ other supplied, fingerprint.isNamedBy supplied = true →
      isNamedBy other supplied = true → fingerprint = other) ∧
    ∀ supplied, normalizeByBytes? supplied = some (normalize supplied) := by
  have hdisplay := compact_of_display fingerprint
  have hshown : fingerprint.display.toList.filter (· ≠ ':') = fingerprint.compact.toList := by
    rw [← hdisplay, String.toList_ofList]
  have hcompact : fingerprint.compact.toList.filter (· ≠ ':') = fingerprint.compact.toList := by
    rw [← hshown, List.filter_filter]
    simp only [Bool.and_self]
  refine ⟨fun supplied => ?_,
    ⟨length_compact fingerprint, forall_mem_compact (by decide) fingerprint⟩,
    isNamedBy_of_filter (forall_mem_display (by decide) (by decide) fingerprint) hshown,
    isNamedBy_of_filter (forall_mem_compact (by decide) fingerprint) hcompact, hdisplay,
    fun other supplied h hother => ?_, normalizeByBytes?_eq⟩
  · have hmark : "md5:".toList = mark := by decide
    rw [isNamedBy_eq_true_iff, sameLetters_withoutMark_iff, hmark]
    constructor
    · rintro ⟨front, named, htext, hfront, hnamed⟩
      exact ⟨_, front, named, isTrimmed_trim _, htext, hfront, hnamed⟩
    · rintro ⟨trimmed, front, named, htrimmed, htext, hfront, hnamed⟩
      rw [trim_eq_iff.mpr htrimmed]
      exact ⟨front, named, htext, hfront, hnamed⟩
  · apply compact_injective
    rw [← normalize_eq_of_isNamedBy h, normalize_eq_of_isNamedBy hother]

/-- A spelling with blanks around it, a mark and digits in mixed case, and colons in odd places. -/
theorem isNamedBy_ofBlob_nil :
    (ofBlob []).isNamedBy "\u3000Md5:D41d8cd98f00b204:E9800998ecf8427e::\n" = true ∧
      ∀ other : Fingerprint,
        other.isNamedBy "\u3000Md5:D41d8cd98f00b204:E9800998ecf8427e::\n" = true →
          ofBlob [] = other := by
  obtain ⟨hspelled, -, -, -, -, hone, -⟩ := isNamedBy_iff (ofBlob [])
  have hnamed : (ofBlob []).isNamedBy "\u3000Md5:D41d8cd98f00b204:E9800998ecf8427e::\n" = true :=
    (hspelled _).mpr ⟨_, "Md5:".toList, "D41d8cd98f00b204:E9800998ecf8427e::".toList,
      trim_eq_iff.mp (by decide +kernel), rfl, .inr (by decide), by decide +kernel⟩
  exact ⟨hnamed, fun other hother => hone other _ hnamed hother⟩

end RequestSigning.Fingerprint
