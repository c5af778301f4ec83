import RequestSigning.Proofs.DerElements

/-!
# One encoding of each value

The readers refuse every encoding but the one that the writers produce. So bytes from which an element
is read start with that element as it is written (`eq_element_of_read?`), and bytes from which an
integer is read with that integer as it is written (`eq_unsigned_of_readUnsigned?`).

This is the converse of reading back what was written. A length in more bytes than it needs, an
integer with a zero byte too many and an element with bytes left over are all refused, and each
lemma here rules out one of these. Where an explicit tag is looked for among optional elements, what
was skipped before it is given as well (`exists_skipped_of_readExplicit?`).
-/

namespace RequestSigning

/-- Bytes that are as many as their number needs are the shortest form of it. -/
theorem Bytes.minimal_toNat {bytes : Bytes} (h : width (toNat bytes) = bytes.length) :
    minimal (toNat bytes) = bytes := by
  rw [minimal, h, ofNat_toNat]

/-- Bytes without a zero in front are as many as their number needs. -/
theorem Bytes.width_toNat_cons {first : UInt8} (hfirst : first ≠ 0) (rest : Bytes) :
    width (toNat (first :: rest)) = (first :: rest).length := by
  have hpos : 0 < first.toNat :=
    Nat.pos_of_ne_zero fun hzero => hfirst (UInt8.toNat_inj.mp hzero)
  have hlow : 256 ^ rest.length ≤ toNat (first :: rest) := by
    rw [toNat_cons]
    exact (Nat.le_mul_of_pos_left _ hpos).trans (Nat.le_add_right _ _)
  have hmost : width (toNat (first :: rest)) ≤ rest.length + 1 := width_le_of_lt (toNat_lt _)
  have hleast : ¬width (toNat (first :: rest)) ≤ rest.length := by
    rw [width_le_iff]
    exact Nat.not_lt.mpr hlow
  rw [List.length_cons]
  omega

namespace Der

variable {tag : UInt8} {bytes content rest : Bytes} {n : Nat}

/-! ### Elements -/

/-- A length that is read is the shortest form of it. -/
theorem eq_lengthBytes_of_readLength? (h : readLength? bytes = some (n, rest)) :
    bytes = lengthBytes n ++ rest := by
  cases bytes with
  | nil => simp [readLength?] at h
  | cons first tail =>
    simp only [readLength?] at h
    split_ifs at h with hshort hcount hbounds
    · obtain ⟨rfl, rfl⟩ := Prod.mk.inj (Option.some.inj h)
      have hlow : first.toNat < 128 := UInt8.lt_iff_toNat_lt.mp hshort
      rw [lengthBytes, if_pos hlow, UInt8.ofNat_toNat, List.singleton_append]
    · -- the bytes behind the first one are as many as it says, and as the length needs
      obtain ⟨hn, rfl⟩ := Prod.mk.inj (Option.some.inj h)
      rw [not_or, not_or, Nat.not_lt, Nat.not_lt] at hcount
      obtain ⟨-, -, henough⟩ := hcount
      rw [hn] at hbounds
      obtain ⟨hlong, hwidth, -⟩ := hbounds
      have htake : (tail.take (first.toNat - 128)).length = first.toNat - 128 :=
        List.length_take_of_le henough
      have hminimal : Bytes.minimal n = tail.take (first.toNat - 128) := by
        rw [← hn]
        exact Bytes.minimal_toNat (by rw [hn, hwidth, htake])
      have hfirst : 128 + (first.toNat - 128) = first.toNat := by
        have hhigh : ¬first.toNat < 128 := fun hlow => hshort (UInt8.lt_iff_toNat_lt.mpr hlow)
        omega
      rw [lengthBytes, if_neg (Nat.not_lt.mpr hlong)]
      simp only [hminimal, htake, hfirst, UInt8.ofNat_toNat, List.cons_append,
        List.take_append_drop]

/-- **Elements.** An element that is read is written as it stands there. -/
theorem eq_element_of_read? (h : read? bytes = some (tag, content, rest)) :
    bytes = element tag content ++ rest := by
  cases bytes with
  | nil => simp [read?] at h
  | cons first tail =>
    rw [read?] at h
    split_ifs at h
    rcases hlength : readLength? tail with - | ⟨n, behind⟩
    · simp [hlength] at h
    · simp only [hlength] at h
      split_ifs at h with hwhole
      obtain ⟨rfl, rfl, rfl⟩ : first = tag ∧ behind.take n = content ∧ behind.drop n = rest := by
        simpa using h
      rw [eq_lengthBytes_of_readLength? hlength, element, List.length_take_of_le hwhole,
        List.cons_append, List.append_assoc, List.take_append_drop]

theorem eq_element_of_readTagged? (h : readTagged? tag bytes = some (content, rest)) :
    bytes = element tag content ++ rest :=
  eq_element_of_read? (readTagged?_eq_some h)

theorem eq_element_of_whole? (h : whole? tag bytes = some content) :
    bytes = element tag content := by
  rw [whole?] at h
  split at h
  · next hread =>
    obtain rfl := Option.some.inj h
    rw [eq_element_of_readTagged? hread, List.append_nil]
  · contradiction

theorem eq_element_of_readIdentifier? (h : readIdentifier? bytes = some (content, rest)) :
    bytes = element identifierTag content ++ rest := by
  rw [readIdentifier?] at h
  split at h
  · next hread =>
    split_ifs at h
    obtain ⟨rfl, rfl⟩ := Prod.mk.inj (Option.some.inj h)
    exact eq_element_of_readTagged? hread
  · contradiction

/-! ### Integers -/

/-- The content of an integer that is read is the shortest form of it. -/
theorem eq_unsignedContent_of_unsignedOfContent? (h : unsignedOfContent? content = some n) :
    content = unsignedContent n := by
  match content, h with
  | [first], h =>
    rw [unsignedOfContent?] at h
    split_ifs at h with hclear
    obtain rfl := Option.some.inj h
    rcases eq_or_ne first 0 with rfl | hfirst
    · rfl
    · have hdigit : Bytes.toNat [first] = first.toNat := by simp [Bytes.toNat]
      have hminimal := Bytes.minimal_toNat (Bytes.width_toNat_cons hfirst [])
      rw [hdigit] at hminimal
      rw [unsignedContent, hminimal]
      exact (if_pos hclear).symm
  | first :: second :: rest, h =>
    rw [unsignedOfContent?] at h
    split_ifs at h with hzero hclear hclear
    · -- a zero byte in front of a byte with the top bit set
      obtain rfl := Option.some.inj h
      have hsecond : second ≠ 0 := by
        rintro rfl
        exact hclear (by decide)
      rw [unsignedContent, Bytes.minimal_toNat (Bytes.width_toNat_cons hsecond rest), hzero]
      exact (if_neg hclear).symm
    · obtain rfl := Option.some.inj h
      rw [unsignedContent, Bytes.minimal_toNat (Bytes.width_toNat_cons hzero (second :: rest))]
      exact (if_pos hclear).symm

/-- **Integers.** An integer that is read is written as it stands there. -/
theorem eq_unsigned_of_readUnsigned? (h : readUnsigned? bytes = some (n, rest)) :
    bytes = unsigned n ++ rest := by
  rw [readUnsigned?] at h
  split at h
  · next hread =>
    obtain ⟨m, hm, hpair⟩ := Option.map_eq_some_iff.mp h
    obtain ⟨rfl, rfl⟩ := Prod.mk.inj hpair
    rw [eq_element_of_readTagged? hread, unsigned, ← eq_unsignedContent_of_unsignedOfContent? hm]
  · contradiction

/-! ### Parts that can be left out -/

/-- What stands before a part has lower numbers, so nothing stands before the first one. -/
theorem exists_skipped_of_readContext? {number : Nat} {part : Option (UInt8 × Bytes)}
    (h : readContext? number bytes = some (part, rest)) :
    ∃ skipped, bytes = skipped ++ (part.elim [] (fun found => element found.1 found.2) ++ rest) ∧
      (number = 0 → skipped = []) ∧
      ∀ found ∈ part, isContext found.1 = true ∧ contextNumber found.1 = number := by
  fun_induction readContext? number bytes with
  | case1 =>
    obtain ⟨rfl, rfl⟩ := Prod.mk.inj (Option.some.inj h)
    exact ⟨[], rfl, fun _ => rfl, by simp⟩
  | case2 => contradiction
  | case3 tag tail _ _ =>
    obtain ⟨rfl, rfl⟩ := Prod.mk.inj (Option.some.inj h)
    exact ⟨[], rfl, fun _ => rfl, by simp⟩
  | case4 => contradiction
  | case5 tag tail _ hpass found content behind hread hnumber =>
    obtain ⟨rfl, rfl⟩ := Prod.mk.inj (Option.some.inj h)
    have hbytes := eq_element_of_read? hread
    obtain rfl : tag = found := (List.cons.inj hbytes).1
    rw [not_or, not_not] at hpass
    refine ⟨[], hbytes, fun _ => rfl, ?_⟩
    rintro _ ⟨⟩
    exact ⟨hpass.1, hnumber⟩
  | case6 tag tail _ hpass found content behind hread hnumber ih =>
    obtain ⟨skipped, hbehind, -, hpart⟩ := ih h
    have hbytes := eq_element_of_read? hread
    obtain rfl : tag = found := (List.cons.inj hbytes).1
    refine ⟨element tag content ++ skipped, ?_, ?_, hpart⟩
    · rw [hbytes, hbehind, List.append_assoc]
    · -- a part that is passed over has a number below
      rintro rfl
      omega

/-- A constructed context-specific tag is told by its number. -/
private theorem eq_of_explicit {number : Nat} (hcontext : isContext tag = true)
    (hconstructed : isConstructed tag = true) (hnumber : contextNumber tag = number) :
    tag = UInt8.ofNat (0xA0 + number) := by
  have hall : ∀ n < 256, isContext (UInt8.ofNat n) = true → isConstructed (UInt8.ofNat n) = true →
      UInt8.ofNat n = UInt8.ofNat (0xA0 + contextNumber (UInt8.ofNat n)) := by decide +kernel
  have htag := hall tag.toNat tag.toNat_lt
  rw [UInt8.ofNat_toNat, hnumber] at htag
  exact htag hcontext hconstructed

/-- **Parts.** A part that is read is written as it stands there, behind what is passed over. -/
theorem exists_skipped_of_readExplicit? {number : Nat} {inside : Option Bytes}
    (h : readExplicit? number bytes = some (inside, rest)) :
    ∃ skipped,
      bytes = skipped ++ (inside.elim [] (element (UInt8.ofNat (0xA0 + number))) ++ rest) ∧
        (number = 0 → skipped = []) := by
  rw [readExplicit?] at h
  split at h
  · next tag content behind hread =>
    split_ifs at h with hconstructed
    obtain ⟨rfl, rfl⟩ := Prod.mk.inj (Option.some.inj h)
    obtain ⟨skipped, hbytes, hfirst, hpart⟩ := exists_skipped_of_readContext? hread
    obtain ⟨hcontext, hnumber⟩ := hpart _ rfl
    rw [Option.elim_some, eq_of_explicit hcontext hconstructed hnumber] at hbytes
    exact ⟨skipped, hbytes, hfirst⟩
  · next behind hread =>
    obtain ⟨rfl, rfl⟩ := Prod.mk.inj (Option.some.inj h)
    obtain ⟨skipped, hbytes, hfirst, -⟩ := exists_skipped_of_readContext? hread
    exact ⟨skipped, hbytes, hfirst⟩
  · cases h

end Der

end RequestSigning
