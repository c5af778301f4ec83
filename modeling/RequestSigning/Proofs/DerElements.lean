import RequestSigning.Der
import RequestSigning.Proofs.BigEndian

/-!
# Elements read back

Whatever is written as an element is read as that element (`read?_element`), and whatever is written
as an integer as that integer (`readUnsigned?_unsigned`), as long as the content is shorter than
2^28 bytes. With its tag and its length such an element has fewer than 2^28 + 6 bytes, and this is
exactly how much of it is read (`length_content_lt_iff`, `whole?_eq_none_of_long`).

The two bounds are those of the reader, which takes a length in at most four bytes and no more than
2^28 - 1 of content. They are exact, so what is too long is refused, and the theorems on whole keys
can say for which sizes the encodings agree.
-/

namespace RequestSigning.Der

/-! ### Lengths -/

/-- A length below 2^28 that was written is read. -/
theorem readLength?_lengthBytes {n : Nat} (h : n < 2 ^ 28) (rest : Bytes) :
    readLength? (lengthBytes n ++ rest) = some (n, rest) := by
  rw [lengthBytes]
  split_ifs with hshort
  · -- the length is its own byte
    have hvalue : (UInt8.ofNat n).toNat = n := UInt8.toNat_ofNat_of_lt' (by rw [UInt8.size]; omega)
    have hlow : UInt8.ofNat n < 0x80 := by
      rw [UInt8.lt_iff_toNat_lt, hvalue]
      exact hshort
    rw [List.singleton_append, readLength?, if_pos hlow, hvalue]
  · -- a byte for how many bytes follow, and the length in these
    have hwidth : Bytes.width n ≤ 4 := Bytes.width_le_of_lt (h.trans (by decide))
    have hsome : Bytes.width n ≠ 0 := fun hzero => by
      have hlt := Bytes.lt_pow_width n
      rw [hzero] at hlt
      omega
    have hvalue : (UInt8.ofNat (128 + Bytes.width n)).toNat = 128 + Bytes.width n :=
      UInt8.toNat_ofNat_of_lt' (by rw [UInt8.size]; omega)
    have hhigh : ¬UInt8.ofNat (128 + Bytes.width n) < 0x80 := by
      rw [UInt8.lt_iff_toNat_lt, hvalue]
      exact Nat.not_lt.mpr (Nat.le_add_right _ _)
    have htake : (Bytes.minimal n ++ rest).take (Bytes.width n) = Bytes.minimal n :=
      List.take_left' (Bytes.length_minimal n)
    have hdrop : (Bytes.minimal n ++ rest).drop (Bytes.width n) = rest :=
      List.drop_left' (Bytes.length_minimal n)
    have hcount : ¬(Bytes.width n = 0 ∨ 4 < Bytes.width n ∨
        (Bytes.minimal n ++ rest).length < Bytes.width n) := by
      rw [List.length_append, Bytes.length_minimal]
      omega
    have hbounds : 128 ≤ n ∧ True ∧ n < 0x10000000 := ⟨Nat.not_lt.mp hshort, trivial, h⟩
    simp only [Bytes.length_minimal, List.cons_append, readLength?, if_neg hhigh, hvalue,
      Nat.add_sub_cancel_left, if_neg hcount, htake, hdrop, Bytes.toNat_minimal, if_pos hbounds]

theorem lt_of_readLength? {bytes rest : Bytes} {n : Nat}
    (h : readLength? bytes = some (n, rest)) : n < 2 ^ 28 := by
  cases bytes with
  | nil => simp [readLength?] at h
  | cons first tail =>
    have hfirst : first.toNat < 256 := first.toNat_lt
    simp only [readLength?] at h
    split_ifs at h with hshort hcount hbounds
    · obtain ⟨rfl, -⟩ := Prod.mk.inj (Option.some.inj h)
      omega
    · obtain ⟨rfl, -⟩ := Prod.mk.inj (Option.some.inj h)
      exact hbounds.2.2

/-- A length takes five bytes at most. -/
theorem length_le_add_of_readLength? {bytes rest : Bytes} {n : Nat}
    (h : readLength? bytes = some (n, rest)) : bytes.length ≤ rest.length + 5 := by
  cases bytes with
  | nil => simp [readLength?] at h
  | cons first tail =>
    simp only [readLength?] at h
    split_ifs at h with hshort hcount hbounds
    · obtain ⟨-, rfl⟩ := Prod.mk.inj (Option.some.inj h)
      rw [List.length_cons]
      omega
    · obtain ⟨-, rfl⟩ := Prod.mk.inj (Option.some.inj h)
      rw [List.length_cons, List.length_drop]
      omega

/-! ### Elements -/

section

variable {tag : UInt8} {content : Bytes}

/-- **Elements.** What was written as an element is read as that element. -/
theorem read?_element (htag : isTag tag = true) (h : content.length < 2 ^ 28) (rest : Bytes) :
    read? (element tag content ++ rest) = some (tag, content, rest) := by
  have hwhole : content.length ≤ (content ++ rest).length := by
    rw [List.length_append]
    exact Nat.le_add_right _ _
  have hcons : element tag content ++ rest =
      tag :: (lengthBytes content.length ++ (content ++ rest)) := by
    rw [element, List.cons_append, List.append_assoc]
  rw [hcons, read?]
  simp only [if_pos htag, readLength?_lengthBytes h, if_pos hwhole, List.take_left, List.drop_left]

theorem readTagged?_element (htag : isTag tag = true) (h : content.length < 2 ^ 28)
    (rest : Bytes) : readTagged? tag (element tag content ++ rest) = some (content, rest) := by
  rw [readTagged?, read?_element htag h]
  exact if_pos rfl

theorem whole?_element (htag : isTag tag = true) (h : content.length < 2 ^ 28) :
    whole? tag (element tag content) = some content := by
  have hread := readTagged?_element htag h []
  rw [List.append_nil] at hread
  rw [whole?, hread]

theorem length_le_of_read? {bytes rest : Bytes} (h : read? bytes = some (tag, content, rest)) :
    content.length < 2 ^ 28 ∧ bytes.length ≤ content.length + rest.length + 6 := by
  cases bytes with
  | nil => simp [read?] at h
  | cons first tail =>
    rw [read?] at h
    split_ifs at h
    rcases hlength : readLength? tail with - | ⟨n, behind⟩
    · simp [hlength] at h
    · simp only [hlength] at h
      split_ifs at h with hwhole
      obtain ⟨-, rfl, rfl⟩ : _ ∧ behind.take n = content ∧ behind.drop n = rest := by simpa using h
      have hn := lt_of_readLength? hlength
      have htail := length_le_add_of_readLength? hlength
      rw [List.length_take, List.length_drop, List.length_cons]
      omega

/-- The content of an element is shorter than 2^28 bytes. -/
theorem length_content_lt_of_read? {bytes rest : Bytes}
    (h : read? bytes = some (tag, content, rest)) : content.length < 2 ^ 28 :=
  (length_le_of_read? h).1

theorem readTagged?_eq_some {bytes rest : Bytes}
    (h : readTagged? tag bytes = some (content, rest)) :
    read? bytes = some (tag, content, rest) := by
  rw [readTagged?] at h
  rcases hread : read? bytes with - | ⟨found, inside, behind⟩
  · simp [hread] at h
  · simp only [hread] at h
    split_ifs at h with hfound
    obtain ⟨rfl, rfl⟩ := Prod.mk.inj (Option.some.inj h)
    rw [hfound]

theorem length_lt_of_readTagged? {bytes rest : Bytes}
    (h : readTagged? tag bytes = some (content, rest)) : content.length < 2 ^ 28 :=
  length_content_lt_of_read? (readTagged?_eq_some h)

/-- More than the longest element is no element. -/
theorem whole?_eq_none_of_long {bytes : Bytes} (h : 2 ^ 28 + 6 ≤ bytes.length) :
    whole? tag bytes = none := by
  rw [whole?]
  split
  · next content hread =>
    have hlength := length_le_of_read? (readTagged?_eq_some hread)
    simp only [List.length_nil] at hlength
    omega
  · rfl

end

/-- The content of an element can be read exactly if the element has fewer than 2^28 + 6 bytes. -/
theorem length_content_lt_iff (tag : UInt8) (content : Bytes) :
    content.length < 2 ^ 28 ↔ (element tag content).length < 2 ^ 28 + 6 := by
  have hlength : (element tag content).length =
      (lengthBytes content.length).length + content.length + 1 := by
    rw [element, List.length_cons, List.length_append]
  rw [hlength, lengthBytes]
  split_ifs with hshort
  · rw [List.length_singleton]
    omega
  · -- at the bound the length itself takes four bytes
    have hfour : Bytes.width content.length ≤ 4 ↔ content.length < 256 ^ 4 := Bytes.width_le_iff
    have hthree : Bytes.width content.length ≤ 3 ↔ content.length < 256 ^ 3 := Bytes.width_le_iff
    rw [List.length_cons, Bytes.length_minimal]
    omega

/-! ### Integers -/

/-- An integer's content is read as that integer. -/
theorem unsignedOfContent?_unsignedContent (n : Nat) :
    unsignedOfContent? (unsignedContent n) = some n := by
  have hvalue := Bytes.toNat_minimal n
  rw [unsignedContent]
  cases hbytes : Bytes.minimal n with
  | nil =>
    rw [hbytes] at hvalue
    exact congrArg some hvalue
  | cons first rest =>
    have hfirst := Bytes.minimal_head_ne_zero hbytes
    rw [hbytes] at hvalue
    dsimp only
    split_ifs with hclear
    · cases rest with
      | nil =>
        have hdigit : Bytes.toNat [first] = first.toNat := by simp [Bytes.toNat]
        rw [unsignedOfContent?, if_pos hclear, ← hdigit, hvalue]
      | cons second rest => rw [unsignedOfContent?, if_neg hfirst, if_pos hclear, hvalue]
    · -- a zero byte in front, which the top bit behind it calls for
      rw [unsignedOfContent?, if_pos rfl, if_neg hclear, hvalue]

/-- **Integers.** What was written as an integer is read as that integer. -/
theorem readUnsigned?_unsigned {n : Nat} (h : (unsignedContent n).length < 2 ^ 28) (rest : Bytes) :
    readUnsigned? (unsigned n ++ rest) = some (n, rest) := by
  rw [readUnsigned?, unsigned, readTagged?_element (by decide) h]
  dsimp only
  rw [unsignedOfContent?_unsignedContent, Option.map_some]

theorem width_le_of_unsignedOfContent? {content : Bytes} {n : Nat}
    (h : unsignedOfContent? content = some n) : Bytes.width n ≤ content.length := by
  have hread : ∀ bytes : Bytes, Bytes.width (Bytes.toNat bytes) ≤ bytes.length :=
    fun bytes => Bytes.width_le_of_lt (Bytes.toNat_lt bytes)
  -- one byte, or two and more; a leading zero byte is left out of the number
  match content, h with
  | [first], h =>
    rw [unsignedOfContent?] at h
    split_ifs at h
    rw [← Option.some.inj h]
    exact Bytes.width_le_of_lt (w := 1) first.toNat_lt
  | first :: second :: rest, h =>
    rw [unsignedOfContent?] at h
    split_ifs at h
    · rw [← Option.some.inj h]
      exact (hread (second :: rest)).trans (by simp)
    · rw [← Option.some.inj h]
      exact hread (first :: second :: rest)

theorem width_lt_of_readUnsigned? {bytes rest : Bytes} {n : Nat}
    (h : readUnsigned? bytes = some (n, rest)) : Bytes.width n < 2 ^ 28 := by
  rw [readUnsigned?] at h
  rcases htagged : readTagged? integerTag bytes with - | ⟨content, behind⟩
  · simp [htagged] at h
  · simp only [htagged] at h
    obtain ⟨m, hm, hpair⟩ := Option.map_eq_some_iff.mp h
    obtain rfl := (Prod.mk.inj hpair).1
    exact (width_le_of_unsignedOfContent? hm).trans_lt (length_lt_of_readTagged? htagged)

end RequestSigning.Der
