import RequestSigning.Proofs.Base64

/-!
# ASCII in text read from bytes

Bytes that are not UTF-8 still read as a text, with replacement characters. Where such a text is
ASCII, though, its bytes are the only ones that read as it (`Utf8.eq_encode_of_decodeLossy`): an
ASCII character comes from its own byte alone, since the characters of more bytes and the
replacement character lie above (`Utf8.lt_of_scan_ascii`).

The names of formats in an agent's replies are read in this way, and then compared with an ASCII
name. Without the lemma, two different byte strings might both pass for it.
-/

namespace RequestSigning.Utf8

/-! ### Characters of several bytes -/

private theorem le_toNat_ofNat {n : Nat} (hvalid : n.isValidChar) (h : 128 ≤ n) :
    128 ≤ (Char.ofNat n).toNat := by
  have hchar : Char.ofNat n = Char.ofNatAux n hvalid := dif_pos hvalid
  rw [hchar]
  exact h

private theorem bits_eq (b : UInt8) : bits b = b.toNat % 64 := rfl

private theorem le_toNat_of_two {first : UInt8} (h : (0xC2 ≤ first && first ≤ 0xDF) = true)
    (b : UInt8) : 128 ≤ (Char.ofNat (first.toNat % 32 * 64 + bits b)).toNat := by
  simp only [Bool.and_eq_true, decide_eq_true_eq, UInt8.le_iff_toNat_le, UInt8.reduceToNat] at h
  rw [bits_eq]
  exact le_toNat_ofNat (.inl (by omega)) (by omega)

/-- The second of three bytes leaves out what two bytes can write, and surrogates. -/
private theorem le_toNat_of_three {first b : UInt8} (h : (0xE0 ≤ first && first ≤ 0xEF) = true)
    (hsecond : secondOfThree first b = true) (c : UInt8) :
    128 ≤ (Char.ofNat (first.toNat % 16 * 4096 + bits b * 64 + bits c)).toNat := by
  simp only [Bool.and_eq_true, decide_eq_true_eq, UInt8.le_iff_toNat_le, UInt8.reduceToNat] at h
  have hlow : first.toNat = 0xE0 → 0xA0 ≤ b.toNat ∧ b.toNat ≤ 0xBF := by
    intro hfirst
    obtain rfl : first = 0xE0 := UInt8.toNat_inj.mp hfirst
    simpa [secondOfThree, UInt8.le_iff_toNat_le] using hsecond
  have hhigh : first.toNat = 0xED → 0x80 ≤ b.toNat ∧ b.toNat ≤ 0x9F := by
    intro hfirst
    obtain rfl : first = 0xED := UInt8.toNat_inj.mp hfirst
    simpa [secondOfThree, UInt8.le_iff_toNat_le] using hsecond
  rw [bits_eq, bits_eq]
  exact le_toNat_ofNat (by unfold Nat.isValidChar; omega) (by omega)

/-- The second of four bytes leaves out what three bytes can write, and what is no character. -/
private theorem le_toNat_of_four {first b : UInt8} (h : (0xF0 ≤ first && first ≤ 0xF4) = true)
    (hsecond : secondOfFour first b = true) (c d : UInt8) :
    128 ≤ (Char.ofNat
      (first.toNat % 8 * 262144 + bits b * 4096 + bits c * 64 + bits d)).toNat := by
  simp only [Bool.and_eq_true, decide_eq_true_eq, UInt8.le_iff_toNat_le, UInt8.reduceToNat] at h
  have hlow : first.toNat = 0xF0 → 0x90 ≤ b.toNat ∧ b.toNat ≤ 0xBF := by
    intro hfirst
    obtain rfl : first = 0xF0 := UInt8.toNat_inj.mp hfirst
    simpa [secondOfFour, UInt8.le_iff_toNat_le] using hsecond
  have hhigh : first.toNat = 0xF4 → 0x80 ≤ b.toNat ∧ b.toNat ≤ 0x8F := by
    intro hfirst
    obtain rfl : first = 0xF4 := UInt8.toNat_inj.mp hfirst
    simpa [secondOfFour, UInt8.le_iff_toNat_le] using hsecond
  rw [bits_eq, bits_eq, bits_eq]
  exact le_toNat_ofNat (by unfold Nat.isValidChar; omega) (by omega)

/-! ### ASCII characters -/

theorem scan_of_lt {first : UInt8} (h : first < 128) (rest : Bytes) :
    scan first rest = (some (Char.ofNat first.toNat), 0) :=
  if_pos h

/-- A step that reads an ASCII character starts at an ASCII byte. -/
theorem lt_of_scan_ascii {first : UInt8} {rest : Bytes} {c : Char}
    (h : (scan first rest).1 = some c) (hascii : c.toNat < 128) : first < 128 := by
  by_contra habove
  have hle : ∀ d, (scan first rest).1 = some d → 128 ≤ d.toNat := by
    fun_cases scan first rest with
    | case1 => exact absurd ‹first < 128› habove
    | case2 _ hfirst b => rintro d ⟨rfl⟩; exact le_toNat_of_two hfirst b
    | case5 _ _ hfirst b hb c => rintro d ⟨rfl⟩; exact le_toNat_of_three hfirst hb c
    | case10 _ _ _ hfirst b hb c _ e => rintro d ⟨rfl⟩; exact le_toNat_of_four hfirst hb c e
    | _ => simp
  have hc := hle c h
  omega

/-- Bytes whose steps read ASCII characters are the bytes of these. -/
theorem eq_of_map_steps {bytes : Bytes} {chars : List Char} (hascii : ∀ c ∈ chars, c.toNat < 128)
    (h : (steps bytes).map (fun c => c.getD replacement) = chars) :
    bytes = chars.flatMap String.utf8EncodeChar := by
  induction chars generalizing bytes with
  | nil =>
    cases bytes with
    | nil => rfl
    | cons first rest => simp [steps_cons] at h
  | cons c chars ih =>
    cases bytes with
    | nil => simp [steps, stepsAfter] at h
    | cons first rest =>
      rw [List.forall_mem_cons] at hascii
      rw [steps_cons, List.map_cons, List.cons.injEq] at h
      obtain ⟨hc, hrest⟩ := h
      -- the replacement character is not ASCII, so a character was read
      have hread : (scan first rest).1 = some c := by
        cases hscan : (scan first rest).1 with
        | none =>
          rw [hscan] at hc
          rw [← hc] at hascii
          exact absurd hascii.1 (by decide)
        | some d =>
          rw [hscan] at hc
          exact congrArg some hc
      have hfirst := lt_of_scan_ascii hread hascii.1
      rw [scan_of_lt hfirst] at hread hrest
      rw [List.flatMap_cons, ← Option.some.inj hread, Base64.utf8EncodeChar_ofNat hfirst,
        ← ih hascii.2 hrest, List.singleton_append]
      rfl

/-- **ASCII text.** The bytes of an ASCII text are the only ones that read as it, those that are not
UTF-8 included. -/
theorem eq_encode_of_decodeLossy {bytes : Bytes} {text : String} (h : decodeLossy bytes = text)
    (hascii : ∀ c ∈ text.toList, c.toNat < 128) : bytes = encode text := by
  refine eq_of_map_steps hascii ?_
  rw [← h, decodeLossy, String.toList_ofList]

end RequestSigning.Utf8
