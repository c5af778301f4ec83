import RequestSigning.Fingerprint

/-!
# The two written forms of a fingerprint

The form that is shown has a colon between every two bytes, and without its colons it is the compact
form (`Fingerprint.compact_of_display`). Either form belongs to one fingerprint only
(`Fingerprint.compact_injective`, `Fingerprint.display_injective`). A text names a key exactly when
its normal form is the compact form of the key's fingerprint, so every text that names a key has the
same normal form (`Fingerprint.normalize_eq_of_isNamedBy`).

The display form is the compact one with colons put between its pairs of digits, so the one is got
from the other by leaving the colons out, and both are injective because two digits determine a
byte. Nothing here looks inside the digest: all is true of any sixteen bytes.
-/

namespace RequestSigning

/-! ### Digits -/

theorem Bytes.hexDigit_ne_colon {n : Nat} (h : n < 16) : Bytes.hexDigit n ≠ ':' := by
  have hall : ∀ n < 16, Bytes.hexDigit n ≠ ':' := by decide
  exact hall n h

theorem Bytes.filter_hexPair (b : UInt8) : (hexPair b).filter (· ≠ ':') = hexPair b := by
  have hb : b.toNat < 256 := b.toNat_lt
  have hhigh : hexDigit (b.toNat / 16) ≠ ':' := hexDigit_ne_colon (by omega)
  have hlow : hexDigit (b.toNat % 16) ≠ ':' := hexDigit_ne_colon (by omega)
  simp [hexPair, hhigh, hlow]

theorem Bytes.hexDigit_injective {m n : Nat} (hm : m < 16) (hn : n < 16)
    (h : hexDigit m = hexDigit n) : m = n := by
  have hall : ∀ m < 16, ∀ n < 16, hexDigit m = hexDigit n → m = n := by decide
  exact hall m hm n hn h

theorem Bytes.hexPair_injective {a b : UInt8} (h : hexPair a = hexPair b) : a = b := by
  have ha : a.toNat < 256 := a.toNat_lt
  have hb : b.toNat < 256 := b.toNat_lt
  simp only [hexPair, List.cons.injEq, and_true] at h
  have hhigh : a.toNat / 16 = b.toNat / 16 := hexDigit_injective (by omega) (by omega) h.1
  have hlow : a.toNat % 16 = b.toNat % 16 := hexDigit_injective (by omega) (by omega) h.2
  exact UInt8.toNat_inj.mp (by omega)

theorem Bytes.flatMap_hexPair_injective {a b : Bytes}
    (h : a.flatMap hexPair = b.flatMap hexPair) : a = b := by
  induction a generalizing b with
  | nil =>
    cases b with
    | nil => rfl
    | cons y b => simp [hexPair] at h
  | cons x a ih =>
    cases b with
    | nil => simp [hexPair] at h
    | cons y b =>
      -- every byte takes two digits, so the digits of the first bytes stand in the same place
      rw [List.flatMap_cons, List.flatMap_cons] at h
      obtain ⟨hfirst, hrest⟩ := List.append_inj h rfl
      rw [hexPair_injective hfirst, ih hrest]

namespace Fingerprint

/-! ### Colons -/

/-- Filtering drops the separators between pieces where it drops every element of them. -/
private theorem filter_intersperse {α : Type} (p : α → Bool) {separator : List α}
    (h : separator.filter p = []) (pieces : List (List α)) :
    (pieces.intersperse separator).flatten.filter p = pieces.flatten.filter p := by
  induction pieces with
  | nil => rfl
  | cons piece pieces ih =>
    cases pieces with
    | nil => rfl
    | cons next pieces =>
      rw [List.intersperse_cons_cons, List.flatten_cons, List.flatten_cons, List.filter_append,
        List.filter_append, ih, h, List.nil_append, ← List.filter_append, ← List.flatten_cons]

/-- Without its colons the form that is shown is the compact form. -/
theorem compact_of_display (fingerprint : Fingerprint) :
    String.ofList (fingerprint.display.toList.filter (· ≠ ':')) = fingerprint.compact := by
  have hdigits : ∀ bytes : Bytes,
      (bytes.map Bytes.hexPair).flatten.filter (· ≠ ':') = bytes.flatMap Bytes.hexPair := by
    intro bytes
    induction bytes with
    | nil => rfl
    | cons b bytes ih =>
      rw [List.map_cons, List.flatten_cons, List.filter_append, Bytes.filter_hexPair, ih]
      rfl
  rw [display, String.toList_ofList, filter_intersperse _ (by decide), hdigits]
  rfl

/-! ### The characters that are shown -/

/-- What holds of every hexadecimal digit holds of every character of the compact form. -/
theorem forall_mem_compact {P : Char → Prop} (hdigit : ∀ n < 16, P (Bytes.hexDigit n))
    (fingerprint : Fingerprint) : ∀ c ∈ fingerprint.compact.toList, P c := by
  intro c hc
  rw [compact, Bytes.hex, String.toList_ofList, List.mem_flatMap] at hc
  obtain ⟨b, -, hpair⟩ := hc
  have hb : b.toNat < 256 := b.toNat_lt
  simp only [Bytes.hexPair, List.mem_cons, List.not_mem_nil, or_false] at hpair
  rcases hpair with rfl | rfl
  · exact hdigit _ (by omega)
  · exact hdigit _ (by omega)

/-- What holds of every hexadecimal digit and of the colon holds of every character shown. -/
theorem forall_mem_display {P : Char → Prop} (hdigit : ∀ n < 16, P (Bytes.hexDigit n))
    (hcolon : P ':') (fingerprint : Fingerprint) : ∀ c ∈ fingerprint.display.toList, P c := by
  intro c hc
  by_cases hsep : c = ':'
  · exact hsep ▸ hcolon
  · -- what is no colon is a digit of the compact form
    apply forall_mem_compact hdigit fingerprint
    rw [← compact_of_display, String.toList_ofList, List.mem_filter]
    exact ⟨hc, decide_eq_true hsep⟩

theorem compact_injective {first second : Fingerprint} (h : first.compact = second.compact) :
    first = second := by
  rw [compact, compact, Bytes.hex, Bytes.hex, String.ofList_inj] at h
  cases first
  cases second
  congr 1
  exact Bytes.flatMap_hexPair_injective h

/-- A fingerprint is known by what is shown of it. -/
theorem display_injective {first second : Fingerprint} (h : first.display = second.display) :
    first = second := by
  apply compact_injective
  rw [← compact_of_display, h, compact_of_display]

/-! ### Names -/

/-- A text that names a key has the compact form of the key's fingerprint as its normal form. -/
theorem normalize_eq_of_isNamedBy {fingerprint : Fingerprint} {supplied : String}
    (h : fingerprint.isNamedBy supplied = true) :
    normalize supplied = fingerprint.compact :=
  eq_of_beq h

end Fingerprint

end RequestSigning
