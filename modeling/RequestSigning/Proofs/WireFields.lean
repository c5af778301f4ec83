import RequestSigning.Proofs.BigEndian
import RequestSigning.Proofs.Chains
import RequestSigning.Ssh.Wire

/-!
# Fields on the wire

A field read back is the field written (`readField_field`), and whatever is read as a field was
written as one, within the bound on fields (`readField_eq_ok_iff`). `cutField?` reads a field
without that bound: it takes apart every field that four bytes can give a length for.

Integers are fields in their shortest form with room for a sign, and each number has one such form
(`integerContent_injective`). Nothing can be shifted between a field and what follows it
(`field_append_injective`), which is what makes requests and blobs injective.
-/

namespace RequestSigning.Wire

/-! ### Words -/

@[simp] theorem length_word (n : Nat) : (word n).length = 4 :=
  Bytes.length_ofNat 4 n

/-- Four bytes hold every number below 2 ^ 32. -/
theorem toNat_word {n : Nat} (h : n < 2 ^ 32) : Bytes.toNat (word n) = n :=
  Bytes.toNat_ofNat_of_lt (w := 4) h

/-- Four bytes are the word of the number they write. -/
theorem word_toNat {bytes : Bytes} (h : bytes.length = 4) : word (Bytes.toNat bytes) = bytes := by
  have hbytes := Bytes.ofNat_toNat bytes
  rwa [h] at hbytes

theorem readWord_append {bytes : Bytes} (h : bytes.length = 4) (rest : Bytes) :
    readWord (bytes ++ rest) = .ok (Bytes.toNat bytes, rest) := by
  obtain ⟨a, b, c, d, rfl⟩ := List.length_eq_four.mp h
  rfl

/-- Only the word itself is read as its number. -/
theorem readWord_eq_ok {bytes rest : Bytes} {n : Nat} (h : readWord bytes = .ok (n, rest)) :
    bytes = word n ++ rest := by
  match bytes, h with
  | a :: b :: c :: d :: tail, h =>
    obtain ⟨rfl, rfl⟩ : Bytes.toNat [a, b, c, d] = n ∧ tail = rest := by
      simpa [readWord] using h
    rw [word_toNat rfl]
    rfl

/-- No word exceeds four bytes. -/
theorem readWord_lt {bytes rest : Bytes} {n : Nat} (h : readWord bytes = .ok (n, rest)) :
    n < 2 ^ 32 := by
  match bytes, h with
  | a :: b :: c :: d :: tail, h =>
    obtain ⟨rfl, -⟩ : Bytes.toNat [a, b, c, d] = n ∧ tail = rest := by simpa [readWord] using h
    exact (Bytes.toNat_lt [a, b, c, d]).trans_eq (show 256 ^ 4 = 2 ^ 32 by decide)

/-! ### Fields -/

@[simp] theorem length_field (content : Bytes) : (field content).length = 4 + content.length := by
  simp [field]

/-- A content whose length fits a word is written behind it. -/
theorem field?_of_fits {content : Bytes} (h : content.length < 2 ^ 32) :
    field? content = .ok (field content) :=
  if_pos h

/-- A longer content is refused, with nothing written. -/
theorem field?_of_long {content : Bytes} (h : ¬content.length < 2 ^ 32) :
    field? content = .error .overflow :=
  if_neg h

/-- The reader takes as many bytes as it is told and leaves the rest. -/
theorem readBytes_append (content rest : Bytes) :
    readBytes content.length (content ++ rest) = .ok (content, rest) := by
  simp [readBytes]

theorem readBytes_eq_ok {n : Nat} {bytes content rest : Bytes}
    (h : readBytes n bytes = .ok (content, rest)) :
    content.length = n ∧ bytes = content ++ rest := by
  simp only [readBytes] at h
  split_ifs at h with hlength
  obtain ⟨rfl, rfl⟩ : bytes.take n = content ∧ bytes.drop n = rest := by simpa using h
  exact ⟨hlength, (List.take_append_drop n bytes).symm⟩

/-- A length within the limit of a field is accepted. -/
theorem readLength_word {n : Nat} (h : n ≤ maxField) (rest : Bytes) :
    readLength (word n ++ rest) = .ok (n, rest) := by
  have hword : Bytes.toNat (word n) = n := toNat_word (h.trans_lt (by decide))
  rw [readLength, readWord_append (length_word _), hword]
  simp [bind, Except.bind, pure, Except.pure, h]

/-- A length above the bound is refused. -/
theorem readLength_word_of_long {n : Nat} (h : maxField < n) (hfits : n < 2 ^ 32)
    (rest : Bytes) : readLength (word n ++ rest) = .error .overflow := by
  have hlong : ¬n ≤ maxField := not_le.mpr h
  rw [readLength, readWord_append (length_word _), toNat_word hfits]
  simp [bind, Except.bind, throw, throwThe, MonadExceptOf.throw, hlong]

/-- A field within the bound reads back. -/
theorem readField_field {content : Bytes} (h : content.length ≤ maxField) (rest : Bytes) :
    readField (field content ++ rest) = .ok (content, rest) := by
  rw [readField, field, List.append_assoc, readLength_word h]
  exact readBytes_append content rest

/-- What makes up a field within the bound is read inside it. -/
theorem readInside_field {α : Type} {read : Bytes → Except Fault (α × Bytes)} {content : Bytes}
    {value : α} (h : content.length ≤ maxField) (hread : read content = .ok (value, []))
    (rest : Bytes) : readInside read (field content ++ rest) = .ok (value, rest) := by
  rw [readInside, field, List.append_assoc, readLength_word h]
  simp only [bind, Except.bind, pure, Except.pure, List.take_left, hread, List.length_nil,
    Nat.sub_zero, List.drop_left]

/-- What is read as a length is a number within the bound. -/
theorem readLength_eq_ok_iff {bytes rest : Bytes} {n : Nat} :
    readLength bytes = .ok (n, rest) ↔ bytes = word n ++ rest ∧ n ≤ maxField := by
  constructor
  · intro h
    rw [readLength, bind_eq_ok_iff] at h
    obtain ⟨⟨m, tail⟩, hword, h⟩ := h
    dsimp only at h
    split_ifs at h with hbound
    obtain ⟨rfl, rfl⟩ := Prod.mk.inj (Except.ok.inj h)
    exact ⟨readWord_eq_ok hword, hbound⟩
  · rintro ⟨rfl, h⟩
    exact readLength_word h rest

/-- **Fields.** What is read as a field is a field within the bound, and every such field is
read. -/
theorem readField_eq_ok_iff {bytes content rest : Bytes} :
    readField bytes = .ok (content, rest) ↔
      bytes = field content ++ rest ∧ content.length ≤ maxField := by
  constructor
  · intro h
    rw [readField, bind_eq_ok_iff] at h
    obtain ⟨⟨n, tail⟩, hlength, hread⟩ := h
    obtain ⟨rfl, hbound⟩ := readLength_eq_ok_iff.mp hlength
    obtain ⟨rfl, rfl⟩ := readBytes_eq_ok hread
    rw [field, List.append_assoc]
    exact ⟨rfl, hbound⟩
  · rintro ⟨rfl, h⟩
    exact readField_field h rest

/-- Two fields are read where both are there, one behind the other. -/
theorem readTwoFields_eq_ok_iff {α : Type} {f : Bytes → Bytes → α} {bytes rest : Bytes}
    {value : α} :
    (do
      let (first, rest) ← readField bytes
      let (second, rest) ← readField rest
      pure (f first second, rest) : Except Fault (α × Bytes)) = .ok (value, rest) ↔
      ∃ first second, first.length ≤ maxField ∧ second.length ≤ maxField ∧
        bytes = field first ++ (field second ++ rest) ∧ value = f first second := by
  constructor
  · intro h
    rw [bind_eq_ok_iff] at h
    obtain ⟨⟨first, tail⟩, hfirst, h⟩ := h
    rw [bind_eq_ok_iff] at h
    obtain ⟨⟨second, behind⟩, hsecond, h⟩ := h
    obtain ⟨rfl, rfl⟩ := Prod.mk.inj (Except.ok.inj h)
    obtain ⟨rfl, hfirstBound⟩ := readField_eq_ok_iff.mp hfirst
    obtain ⟨rfl, hsecondBound⟩ := readField_eq_ok_iff.mp hsecond
    exact ⟨first, second, hfirstBound, hsecondBound, rfl, rfl⟩
  · rintro ⟨first, second, hfirst, hsecond, rfl, rfl⟩
    rw [readField_field hfirst, ok_bind]
    dsimp only
    rw [readField_field hsecond]
    rfl

/-- Reading inside a field reads what of it is there, and leaves what is behind the part read. -/
theorem readInside_eq_ok_iff {α : Type} {read : Bytes → Except Fault (α × Bytes)}
    {bytes rest : Bytes} {value : α} :
    readInside read bytes = .ok (value, rest) ↔
      ∃ n tail left, n ≤ maxField ∧ bytes = word n ++ tail ∧
        read (tail.take n) = .ok (value, left) ∧
        rest = tail.drop ((tail.take n).length - left.length) := by
  constructor
  · intro h
    rw [readInside, bind_eq_ok_iff] at h
    obtain ⟨⟨n, tail⟩, hlength, h⟩ := h
    rw [bind_eq_ok_iff] at h
    obtain ⟨⟨found, left⟩, hread, h⟩ := h
    obtain ⟨rfl, rfl⟩ := Prod.mk.inj (Except.ok.inj h)
    obtain ⟨rfl, hbound⟩ := readLength_eq_ok_iff.mp hlength
    exact ⟨n, tail, left, hbound, rfl, hread, rfl⟩
  · rintro ⟨n, tail, left, hbound, rfl, hread, rfl⟩
    rw [readInside, readLength_word hbound, ok_bind]
    dsimp only
    rw [hread]
    rfl

/-! ### Fields of any length -/

/-- The content of the field at the front, whatever its length, and the bytes behind it. -/
def cutField? (bytes : Bytes) : Option (Bytes × Bytes) :=
  let length := Bytes.toNat (bytes.take 4)
  let behind := bytes.drop 4
  if bytes.length < 4 ∨ behind.length < length then none
  else some (behind.take length, behind.drop length)

/-- A field is cut off whole, whatever follows. -/
theorem cutField?_field {content : Bytes} (h : content.length < 2 ^ 32) (rest : Bytes) :
    cutField? (field content ++ rest) = some (content, rest) := by
  have htake : (field content ++ rest).take 4 = word content.length := by
    rw [field, List.append_assoc]
    exact List.take_left' (length_word _)
  have hdrop : (field content ++ rest).drop 4 = content ++ rest := by
    rw [field, List.append_assoc]
    exact List.drop_left' (length_word _)
  have hwhole : ¬((field content ++ rest).length < 4 ∨
      (content ++ rest).length < content.length) := by
    simp only [List.length_append, length_field]
    omega
  simp only [cutField?, htake, hdrop, toNat_word h, hwhole, if_false, List.take_left,
    List.drop_left]

/-- A field shows its content. -/
theorem field_injective {content other : Bytes} (h : field content = field other) :
    content = other := by
  have hdrop := congrArg (List.drop 4) h
  simpa only [field, List.drop_left' (length_word _)] using hdrop

/-- Nor can content be shifted between a field and what follows it. -/
theorem field_append_injective {content other rest otherRest : Bytes}
    (hcontent : content.length < 2 ^ 32) (hother : other.length < 2 ^ 32)
    (h : field content ++ rest = field other ++ otherRest) :
    content = other ∧ rest = otherRest := by
  have hcut := cutField?_field hcontent rest
  rw [h, cutField?_field hother otherRest] at hcut
  obtain ⟨rfl, rfl⟩ := Prod.mk.inj (Option.some.inj hcut)
  exact ⟨rfl, rfl⟩

/-! ### Integers -/

/-- The content of an integer field is the integer's shortest form, with one zero byte in front
where the top bit would be set. -/
theorem length_integerContent_le (n : Nat) :
    (integerContent n).length ≤ Bytes.width n + 1 := by
  rw [← Bytes.length_minimal n, integerContent]
  cases Bytes.minimal n with
  | nil => simp
  | cons first rest =>
    dsimp only
    split_ifs <;> simp

theorem toNat_integerContent (n : Nat) : Bytes.toNat (integerContent n) = n := by
  have hminimal := Bytes.toNat_minimal n
  rw [integerContent]
  cases hbytes : Bytes.minimal n with
  | nil => rw [← hminimal, hbytes]
  | cons first rest =>
    rw [hbytes] at hminimal
    dsimp only
    split_ifs
    · exact hminimal
    · rw [Bytes.toNat_cons, hminimal]
      simp

/-- Each number has its own content, with no leading zero more than the sign needs. -/
theorem integerContent_injective {m n : Nat} (h : integerContent m = integerContent n) : m = n := by
  rw [← toNat_integerContent m, h, toNat_integerContent]

end RequestSigning.Wire
