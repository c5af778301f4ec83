import RequestSigning.Http.Headers
import RequestSigning.Proofs.DateText
import RequestSigning.Proofs.Utf8Text

/-!
# What a header can carry

A text can be a header's value exactly when all its characters can stand in one, so a printable text
can. The text of every timestamp is one of these (`Headers.isValue_httpDate`). On the wire a value is
bytes, and what makes a text no value is a single byte of its UTF-8 form, a control byte other than
the tab (`Headers.isValue_iff_forall_byte`).

Characters outside ASCII can stand in a value, since all the bytes of their UTF-8 forms are above
the control bytes. So the check on characters and the check on bytes are the same check, and a text
that is refused has a control character in it that one can point to.
-/

namespace RequestSigning.Headers

theorem isValue_iff {text : String} :
    isValue text = true ↔ ∀ c ∈ text.toList, isValueChar c = true :=
  List.all_eq_true

theorem isValueChar_of_isPrintable {c : Char} (h : isPrintable c = true) :
    isValueChar c = true := by
  simp only [isPrintable, Bool.and_eq_true, decide_eq_true_eq] at h
  have hplain : 32 ≤ c.toNat ∧ c.toNat ≠ 127 := ⟨h.1, by omega⟩
  simp [isValueChar, hplain]

/-- **Dates.** The text of every timestamp can be a header's value. -/
theorem isValue_httpDate (time : Timestamp) : isValue (httpDate time) = true :=
  isValue_iff.mpr fun c hc => isValueChar_of_isPrintable (isPrintable_httpDate time c hc)

/-! ### Texts put together -/

@[simp] theorem isValue_append (text other : String) :
    isValue (text ++ other) = (isValue text && isValue other) := by
  rw [isValue, String.toList_append, List.all_append, isValue, isValue]

/-! ### Values as bytes -/

/-- Whether a byte is **refused** in a header's value: a control byte other than the tab. -/
def isRefusedByte (b : UInt8) : Bool :=
  b ≠ 9 && (b < 32 || b = 127)

/-- A character can stand in a value exactly if none of its bytes is refused. -/
theorem isValueChar_iff_forall_byte {c : Char} :
    isValueChar c = true ↔ ∀ b ∈ String.utf8EncodeChar c, isRefusedByte b = false := by
  rcases Nat.lt_or_ge c.toNat 128 with hascii | habove
  · have hall : ∀ n < 128, isValueChar (Char.ofNat n) = !isRefusedByte (UInt8.ofNat n) := by decide
    rw [Utf8.encodeChar_of_lt hascii, List.forall_mem_singleton, ← Bool.not_eq_true',
      ← hall c.toNat hascii, Char.ofNat_toNat]
  · have hplain : 32 ≤ c.toNat ∧ c.toNat ≠ 127 := by omega
    refine iff_of_true (by simp [isValueChar, hplain]) fun b hb => ?_
    have hbyte := Utf8.le_toNat_of_mem_encodeChar habove hb
    have hlarge : ¬b < 32 := by
      rw [UInt8.lt_iff_toNat_lt]
      exact Nat.not_lt.mpr (Nat.le_trans (by decide) hbyte)
    have hdelete : b ≠ 127 := by
      rintro rfl
      exact absurd hbyte (by decide)
    simp [isRefusedByte, hlarge, hdelete]

/-- **Bytes.** A text can be a header's value exactly if no byte of it is refused. -/
theorem isValue_iff_forall_byte {text : String} :
    isValue text = true ↔ ∀ b ∈ Utf8.encode text, isRefusedByte b = false := by
  rw [isValue_iff, Utf8.encode]
  constructor
  · intro h b hb
    obtain ⟨c, hc, hbyte⟩ := List.mem_flatMap.mp hb
    exact isValueChar_iff_forall_byte.mp (h c hc) b hbyte
  · intro h c hc
    exact isValueChar_iff_forall_byte.mpr fun b hb => h b (List.mem_flatMap.mpr ⟨c, hc, hb⟩)

theorem isValue_eq_false_iff {text : String} :
    isValue text = false ↔ ∃ b ∈ Utf8.encode text, isRefusedByte b = true := by
  rw [← Bool.not_eq_true, isValue_iff_forall_byte]
  push Not
  simp only [Bool.not_eq_false]

end RequestSigning.Headers
