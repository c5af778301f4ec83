import RequestSigning.Proofs.FingerprintNames
import RequestSigning.Proofs.SignerFailures

/-!
# The normal form of a normal form

The normal form of a text is made by trimming it, taking off the mark and deleting the colons, in
this order. A blank that stands behind the mark, or has only colons between it and an end, is inside
the trimmed text and at an end of the normal form; it goes only when the normal form is normalized
in turn. Nothing else changes then, and nothing at all in a third round
(`Fingerprint.normalize_normalize`, `Fingerprint.normalize_thrice`).

So a text names a key exactly if its normal form names the key and is a normal form of itself
(`Fingerprint.isNamedBy_iff_of_normalize`). A text that is the digits of a key but for such blanks
does not name the key, though its normal form does, and the key is refused with a report that names
this very key (`Fingerprint.normalize_twice`, `Fingerprint.normalize_not_idempotent`).
-/

namespace RequestSigning

namespace Fingerprint

open Text

variable {supplied text : String} {spelled : List Char}

/-! ### Blanks at the ends -/

/-- What is **spelled** in a text: the text without the blanks around it and without a mark in
front, if there is one. -/
def Spells (text spelled : List Char) : Prop :=
  ∃ front, IsTrimmed (front ++ spelled) text ∧
    (SameLetters front mark ∨
      front = [] ∧ ∀ other rest, spelled = other ++ rest → ¬SameLetters other mark)

/-- A text **has a blank end** if there are only colons before or only colons behind one of its
blanks. -/
def HasBlankEnd (spelled : List Char) : Prop :=
  ∃ before c behind, spelled = before ++ c :: behind ∧ isBlank c = true ∧
    ((∀ d ∈ before, d = ':') ∨ ∀ d ∈ behind, d = ':')

/-- A text **misspells** a key if what is spelled in it has a blank end, and is the digits of the
key in either case once its colons and then the blanks around it are taken off. -/
def IsMisspelledBy (fingerprint : Fingerprint) (text : List Char) : Prop :=
  ∃ spelled digits, Spells text spelled ∧ HasBlankEnd spelled ∧
    IsTrimmed digits (spelled.filter (· ≠ ':')) ∧
    SameLetters digits fingerprint.compact.toList

theorem spells_iff {text : List Char} :
    Spells text spelled ↔ withoutMark (trim text) = spelled := by
  constructor
  · rintro ⟨front, htrimmed, hmark | ⟨rfl, hnone⟩⟩
    · rw [trim_eq_iff.mpr htrimmed, withoutMark_append hmark]
    · rw [trim_eq_iff.mpr htrimmed, List.nil_append, withoutMark_of_not hnone]
  · rintro rfl
    by_cases hmarked : ∃ front rest, trim text = front ++ rest ∧ SameLetters front mark
    · obtain ⟨front, rest, htext, hmark⟩ := hmarked
      rw [htext, withoutMark_append hmark]
      exact ⟨front, htext ▸ isTrimmed_trim text, .inl hmark⟩
    · push Not at hmarked
      rw [withoutMark_of_not hmarked]
      exact ⟨[], isTrimmed_trim text, .inr ⟨rfl, hmarked⟩⟩

theorem mem_head?_filter_iff {c : Char} :
    c ∈ (spelled.filter (· ≠ ':')).head? ↔
      c ≠ ':' ∧ ∃ before behind, spelled = before ++ c :: behind ∧ ∀ d ∈ before, d = ':' := by
  simp [List.head?_filter, List.find?_eq_some_iff_append]

theorem mem_getLast?_filter_iff {c : Char} :
    c ∈ (spelled.filter (· ≠ ':')).getLast? ↔
      c ≠ ':' ∧ ∃ before behind, spelled = before ++ c :: behind ∧ ∀ d ∈ behind, d = ':' := by
  rw [← List.head?_reverse, ← List.filter_reverse, mem_head?_filter_iff]
  refine and_congr_right fun _ => ⟨?_, ?_⟩
  · rintro ⟨behind, before, htext, hcolons⟩
    refine ⟨before.reverse, behind.reverse, ?_, by simpa using hcolons⟩
    rw [← List.reverse_reverse spelled, htext]
    simp
  · rintro ⟨before, behind, rfl, hcolons⟩
    exact ⟨behind.reverse, before.reverse, by simp, by simpa using hcolons⟩

/-- Without its colons a text is trimmed exactly if it has no blank end. -/
theorem isTrimmed_filter_iff :
    IsTrimmed (spelled.filter (· ≠ ':')) (spelled.filter (· ≠ ':')) ↔ ¬HasBlankEnd spelled := by
  -- a blank is no colon, so it is not filtered out
  have hcolon : ∀ c, isBlank c = true → c ≠ ':' := by
    rintro _ hblank rfl
    exact absurd hblank (by decide)
  rw [isTrimmed_self_iff]
  constructor
  · rintro ⟨hhead, hlast⟩ ⟨before, c, behind, htext, hblank, hcolons | hcolons⟩
    · have hfirst := mem_head?_filter_iff.mpr ⟨hcolon c hblank, before, behind, htext, hcolons⟩
      simp [hhead c hfirst] at hblank
    · have hfinal := mem_getLast?_filter_iff.mpr ⟨hcolon c hblank, before, behind, htext, hcolons⟩
      simp [hlast c hfinal] at hblank
  · intro hnone
    constructor
    · intro c hc
      obtain ⟨-, before, behind, htext, hcolons⟩ := mem_head?_filter_iff.mp hc
      by_contra hblank
      exact hnone ⟨before, c, behind, htext, Bool.eq_true_of_not_eq_false hblank, .inl hcolons⟩
    · intro c hc
      obtain ⟨-, before, behind, htext, hcolons⟩ := mem_getLast?_filter_iff.mp hc
      by_contra hblank
      exact hnone ⟨before, c, behind, htext, Bool.eq_true_of_not_eq_false hblank, .inr hcolons⟩

/-! ### Normalizing again -/

theorem isBlank_lower (c : Char) : isBlank (lower c) = isBlank c :=
  lower_cases (P := fun c d => isBlank d = isBlank c) (by decide) (fun _ _ => rfl) c

theorem lower_lower (c : Char) : lower (lower c) = lower c :=
  lower_cases (P := fun _ d => lower d = d) (by decide) (fun _ h => if_neg h) c

/-- No colon and no capital is left in a normal form. -/
theorem forall_mem_normalize : ∀ c ∈ (normalize supplied).toList, c ≠ ':' ∧ lower c = c := by
  intro c hc
  rw [normalize, String.toList_ofList, List.mem_map] at hc
  obtain ⟨d, hd, rfl⟩ := hc
  have hcolon : d ≠ ':' := of_decide_eq_true (List.mem_filter.mp hd).2
  exact ⟨fun h => hcolon (eq_of_lower (by decide) h), lower_lower d⟩

/-- A text without colons and capitals is only trimmed. -/
theorem normalize_eq_trim (h : ∀ c ∈ text.toList, c ≠ ':' ∧ lower c = c) :
    normalize text = String.ofList (trim text.toList) := by
  have htrim : ∀ c ∈ trim text.toList, c ≠ ':' ∧ lower c = c := fun c hc =>
    h c (mem_of_mem_trim hc)
  have hmark : withoutMark (trim text.toList) = trim text.toList := by
    -- a mark would end with a colon
    refine withoutMark_of_not fun front rest htext hmark => ?_
    obtain ⟨m, d, rfl, -⟩ := sameLetters_mark_iff.mp hmark
    have hcolon : ':' ∈ trim text.toList := by
      rw [htext]
      simp
    exact (htrim ':' hcolon).1 rfl
  have hcolons : (trim text.toList).filter (· ≠ ':') = trim text.toList :=
    List.filter_eq_self.mpr fun c hc => decide_eq_true (htrim c hc).1
  have hlower : (trim text.toList).map lower = trim text.toList :=
    (List.map_congr_left fun c hc => (htrim c hc).2).trans (List.map_id _)
  rw [normalize, hmark, hcolons, hlower]

/-- The second time a text is only trimmed. -/
theorem normalize_normalize (supplied : String) :
    normalize (normalize supplied) = String.ofList (trim (normalize supplied).toList) :=
  normalize_eq_trim forall_mem_normalize

/-- The third time nothing changes. -/
theorem normalize_thrice (supplied : String) :
    normalize (normalize (normalize supplied)) = normalize (normalize supplied) := by
  rw [normalize_normalize (normalize supplied), normalize_normalize supplied, String.toList_ofList,
    trim_trim]

theorem normalize_normalize_eq_iff :
    normalize (normalize supplied) = normalize supplied ↔
      ¬HasBlankEnd (withoutMark (trim supplied.toList)) := by
  rw [← isTrimmed_filter_iff, ← isTrimmed_map_self_iff isBlank_lower, ← trim_eq_iff,
    normalize_normalize, ← String.toList_inj, String.toList_ofList, normalize, String.toList_ofList]

/-! ### Names -/

variable {fingerprint : Fingerprint}

theorem normalize_compact (fingerprint : Fingerprint) :
    normalize fingerprint.compact = fingerprint.compact := by
  have hdigit := forall_mem_compact (P := fun c => (c ≠ ':' ∧ lower c = c) ∧ isBlank c = false)
    (by decide) fingerprint
  rw [normalize_eq_trim fun c hc => (hdigit c hc).1,
    trim_eq_iff.mpr (isTrimmed_self fun c hc => (hdigit c hc).2), String.ofList_toList]

/-- A text names a key exactly if its normal form does and is a normal form of itself. -/
theorem isNamedBy_iff_of_normalize :
    fingerprint.isNamedBy supplied = true ↔
      fingerprint.isNamedBy (normalize supplied) = true ∧
        normalize (normalize supplied) = normalize supplied := by
  simp only [isNamedBy, beq_iff_eq]
  constructor
  · intro h
    rw [h]
    exact ⟨normalize_compact fingerprint, normalize_compact fingerprint⟩
  · rintro ⟨h, hself⟩
    rw [← hself, h]

theorem isNamedBy_normalize_iff :
    fingerprint.isNamedBy (normalize supplied) = true ↔
      SameLetters (trim ((withoutMark (trim supplied.toList)).filter (· ≠ ':')))
        fingerprint.compact.toList := by
  rw [isNamedBy, beq_iff_eq, normalize_normalize, normalize, String.toList_ofList,
    trim_map isBlank_lower, ← String.toList_inj, String.toList_ofList, sameLetters_iff,
    map_lower_compact]

/-- A text misspells a key exactly if its normal form names the key and is not a normal form of
itself. -/
theorem isMisspelledBy_iff_of_normalize :
    fingerprint.IsMisspelledBy supplied.toList ↔
      fingerprint.isNamedBy (normalize supplied) = true ∧
        normalize (normalize supplied) ≠ normalize supplied := by
  rw [isNamedBy_normalize_iff, ne_eq, normalize_normalize_eq_iff, not_not]
  constructor
  · rintro ⟨spelled, digits, hspells, hblank, htrimmed, hletters⟩
    rw [spells_iff] at hspells
    rw [hspells, trim_eq_iff.mpr htrimmed]
    exact ⟨hletters, hblank⟩
  · rintro ⟨hletters, hblank⟩
    exact ⟨_, _, spells_iff.mpr rfl, hblank, isTrimmed_trim _, hletters⟩

/-- A text misspells a key exactly if it does not name the key and its normal form does. -/
theorem isMisspelledBy_iff :
    fingerprint.IsMisspelledBy supplied.toList ↔
      fingerprint.isNamedBy supplied = false ∧
        fingerprint.isNamedBy (normalize supplied) = true := by
  have hunnamed : fingerprint.isNamedBy supplied = false ↔
      ¬(fingerprint.isNamedBy (normalize supplied) = true ∧
        normalize (normalize supplied) = normalize supplied) := by
    rw [← Bool.not_eq_true, isNamedBy_iff_of_normalize]
  rw [isMisspelledBy_iff_of_normalize, hunnamed]
  constructor
  · rintro ⟨hnormal, hself⟩
    exact ⟨fun h => hself h.2, hnormal⟩
  · rintro ⟨hnot, hnormal⟩
    exact ⟨hnormal, fun h => hnot ⟨hnormal, h⟩⟩

/-- A text and its normal form name the same keys, but for those that the text misspells. -/
theorem isNamedBy_normalize_iff_or :
    fingerprint.isNamedBy (normalize supplied) = true ↔
      fingerprint.isNamedBy supplied = true ∨ fingerprint.IsMisspelledBy supplied.toList := by
  rw [isMisspelledBy_iff]
  constructor
  · intro h
    cases hnamed : fingerprint.isNamedBy supplied with
    | false => exact .inr ⟨rfl, h⟩
    | true => exact .inl rfl
  · rintro (hnamed | ⟨-, h⟩)
    · exact (isNamedBy_iff_of_normalize.mp hnamed).1
    · exact h

end Fingerprint

/-! ### Refusals -/

/-- A key is refused as another than the one named exactly if the name is none of its own; what is
reported are the normal form of the name and the digits of the key. -/
theorem LocalSigner.make_eq_mismatch_iff {draw : Nat} {keyName account expected actual : String}
    {key : PrivateKey} {user : Option String} :
    (make draw keyName key account user).value = .error (.fingerprintMismatch expected actual) ↔
      key.fingerprint.isNamedBy keyName = false ∧ expected = Fingerprint.normalize keyName ∧
        actual = key.fingerprint.compact := by
  rw [make_eq_error_iff]
  constructor
  · rintro ⟨hnamed⟩
    exact ⟨hnamed, rfl, rfl⟩
  · rintro ⟨hnamed, rfl, rfl⟩
    exact .mismatch hnamed

namespace Fingerprint

open Text

/-- **Normalizing twice.** The second time a text is normalized, only the blanks around its normal
form are taken off, and the third time nothing. Nothing is taken off the second time either, exactly
if what is spelled in the text has no blank end. A text names the same keys as its normal form, but
for those that it misspells: they are named by the normal form only. And these are the keys that are
refused for the text with a report that names them. -/
theorem normalize_twice (supplied : String) :
    (normalize (normalize supplied) = normalize supplied ↔
      ¬∃ spelled, Spells supplied.toList spelled ∧ HasBlankEnd spelled) ∧
    IsTrimmed (normalize (normalize supplied)).toList (normalize supplied).toList ∧
    normalize (normalize (normalize supplied)) = normalize (normalize supplied) ∧
    (∀ fingerprint : Fingerprint,
      (fingerprint.isNamedBy supplied = fingerprint.isNamedBy (normalize supplied) ↔
        ¬fingerprint.IsMisspelledBy supplied.toList) ∧
      (fingerprint.isNamedBy (normalize supplied) = true ↔
        fingerprint.isNamedBy supplied = true ∨ fingerprint.IsMisspelledBy supplied.toList)) ∧
    ∀ (draw : Nat) (key : PrivateKey) (account : String) (user : Option String)
      (expected actual : String),
      (LocalSigner.make draw supplied key account user).value =
            .error (.fingerprintMismatch expected actual) ∧
          key.fingerprint.isNamedBy expected = true ↔
        key.fingerprint.IsMisspelledBy supplied.toList ∧ expected = normalize supplied ∧
          actual = key.fingerprint.compact := by
  refine ⟨?_, ?_, normalize_thrice supplied,
    fun fingerprint => ⟨?_, isNamedBy_normalize_iff_or⟩, ?_⟩
  · simp only [spells_iff, exists_eq_left', normalize_normalize_eq_iff]
  · rw [normalize_normalize, String.toList_ofList]
    exact isTrimmed_trim _
  · rw [isMisspelledBy_iff]
    constructor
    · rintro hsame ⟨hnot, hnormal⟩
      rw [← hsame, hnot] at hnormal
      exact Bool.false_ne_true hnormal
    · intro hnone
      rw [Bool.eq_iff_iff, isNamedBy_normalize_iff_or, isMisspelledBy_iff, or_iff_left hnone]
  · intro draw key account user expected actual
    rw [LocalSigner.make_eq_mismatch_iff, isMisspelledBy_iff]
    constructor
    · rintro ⟨⟨hnot, rfl, rfl⟩, hnormal⟩
      exact ⟨⟨hnot, hnormal⟩, rfl, rfl⟩
    · rintro ⟨⟨hnot, hnormal⟩, rfl, rfl⟩
      exact ⟨⟨hnot, rfl, rfl⟩, hnormal⟩

/-! ### A blank behind the mark -/

/-- The digits of the small key, as they are shown, behind a mark and a blank. -/
def spacedName : String :=
  "MD5: 08:fc:5d:ce:e5:77:b7:c3:16:33:87:82:ff:64:c1:06"

/-- The blank behind the mark is left in front of the digits. So the normal form is not its own
normal form, it names the key while the text does not, and the key is refused with a report that
names it. -/
theorem normalize_not_idempotent :
    normalize spacedName = " 08fc5dcee577b7c316338782ff64c106" ∧
      normalize (normalize spacedName) ≠ normalize spacedName ∧
      (PrivateKey.rsa smallKey).fingerprint.isNamedBy spacedName = false ∧
      (PrivateKey.rsa smallKey).fingerprint.isNamedBy (normalize spacedName) = true ∧
      (LocalSigner.make 0 spacedName (.rsa smallKey) "acme" none).value =
        .error (.fingerprintMismatch (normalize spacedName)
          (PrivateKey.rsa smallKey).fingerprint.compact) := by
  have hnamed : (PrivateKey.rsa smallKey).fingerprint.isNamedBy spacedName = false := by
    decide +kernel
  exact ⟨by decide +kernel, by decide +kernel, hnamed, by decide +kernel,
    LocalSigner.make_eq_mismatch_iff.mpr ⟨hnamed, rfl, rfl⟩⟩

end Fingerprint

end RequestSigning
