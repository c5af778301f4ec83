import RequestSigning.PrivateKey.OpenSsh
import RequestSigning.Proofs.PublicKeyBlob
import RequestSigning.Proofs.RsaPowers

/-!
# OpenSSH private keys read back

`OpenSsh.encode` writes a key without encryption: a public key, and the private section that
`clearSection` makes of a key pair, with any check number and any comment. The pair is read where the
section is a field that is read and the comment is text (`OpenSsh.decode?_encode`,
`OpenSsh.readSection?_clearSection`); a longer section and another comment are refused. The pair of
an RSA key gives the key of its numbers, or none (`OpenSsh.key_encodeNumbers`).

The check number and the comment stand for all that such a file carries besides the key, and the
results hold for every choice of them. A comment that is no text is refused although no use is made
of it, and this is where the encodings of one key part ways.
-/

namespace RequestSigning.OpenSsh

open Wire Ssh

/-! ### Sections -/

/-- A **private section** in the clear: a check number twice, a key pair, a comment, and padding up to
a multiple of eight bytes. -/
def clearSection (check : Nat) (pair comment : Bytes) : Bytes :=
  let content := word check ++ (word check ++ (pair ++ field comment))
  content ++ padding ((8 - content.length % 8) % 8)

@[simp] theorem length_padding (n : Nat) : (padding n).length = n := by
  simp [padding]

theorem length_clearSection (check : Nat) (pair comment : Bytes) :
    (clearSection check pair comment).length = (pair.length + comment.length + 12) +
      (8 - (pair.length + comment.length + 12) % 8) % 8 := by
  have hcontent : (word check ++ (word check ++ (pair ++ field comment))).length =
      pair.length + comment.length + 12 := by
    simp only [List.length_append, length_word, length_field]
    omega
  simp only [clearSection, List.length_append, length_padding] at hcontent ⊢
  rw [hcontent]

theorem readText?_field {content : Bytes} (h : content.length ≤ maxField) (rest : Bytes) :
    readText? (field content ++ rest) =
      if (Utf8.decode? content).isSome then some (content, rest) else none := by
  rw [readText?, readField_field h]

/-- **Sections.** The pair that was written is read, if the comment is text. -/
theorem readSection?_clearSection {pair comment : Bytes} {found : KeyPair}
    (hpair : ∀ rest, readPair? (pair ++ rest) = some (found, rest))
    (hcomment : comment.length ≤ maxField) (check : Nat) :
    readSection? found.publicKey (clearSection check pair comment) =
      if (Utf8.decode? comment).isSome then some found else none := by
  obtain ⟨count, hcount⟩ : ∃ count, count = (8 - (word check ++ (word check ++
      (pair ++ field comment))).length % 8) % 8 := ⟨_, rfl⟩
  -- the section in the order in which it is read
  have hbytes : clearSection check pair comment = word check ++ (word check ++
      (pair ++ (field comment ++ padding count))) := by
    simp only [clearSection, hcount, List.append_assoc]
  have hwhole : (clearSection check pair comment).length % 8 = 0 := by
    rw [length_clearSection]
    omega
  have hend : (padding count).length < 8 ∧ padding count = padding (padding count).length := by
    rw [length_padding]
    exact ⟨by omega, rfl⟩
  rw [readSection?, hwhole, hbytes]
  simp only [ne_eq, not_true_eq_false, if_false, readWord_append (length_word check),
    Except.toOption, Option.bind_eq_bind, Option.bind_some, hpair, readText?_field hcomment]
  split_ifs with htext
  · simp only [Option.bind_some, if_pos hend]
  · rfl

/-! ### The whole -/

/-- The bytes of a key without encryption, from its public half and its private section. -/
def encode (blob clear : Bytes) : Bytes :=
  marker ++ (field noneName ++ (field noneName ++ (field [] ++ (word 1 ++
    (field blob ++ field clear)))))

section

variable {blob clear : Bytes} {key : PublicKey}

/-- What stands before the section is passed over. -/
private theorem decode?_before (hblob : readKey? blob = some (key, []))
    (hlength : blob.length ≤ maxField) :
    decode? (encode blob clear) = (readField (field clear)).toOption.bind fun read =>
      if read.2 ≠ [] then none else (readSection? key read.1).map .pair := by
  -- the stages of the header, each with anything behind it
  have hname : ∀ rest, readShort? 48 (field noneName ++ rest) = some (noneName, rest) :=
    readShort?_field (by decide) (by decide)
  have hcipher : ∀ rest, readCipher? (field noneName ++ rest) = some (none, rest) := by
    intro rest
    rw [readCipher?, hname]
    rfl
  have hderivation : ∀ rest, readDerivation? (field noneName ++ (field [] ++ rest)) =
      some (false, rest) := by
    intro rest
    have hempty : readLength (field [] ++ rest) = .ok (0, rest) := readLength_word (by decide) rest
    rw [readDerivation?, hname]
    simp only [Option.bind_eq_bind, Option.bind_some, if_true, hempty, Except.toOption]
  have hcount : ∀ rest, readLength (word 1 ++ rest) = .ok (1, rest) := readLength_word (by decide)
  have hprefix : marker.isPrefixOf (encode blob clear) = true :=
    List.isPrefixOf_iff_prefix.mpr (List.prefix_append _ _)
  have hdrop : (encode blob clear).drop marker.length = field noneName ++ (field noneName ++
      (field [] ++ (word 1 ++ (field blob ++ field clear)))) := List.drop_left
  have hpublic : ∀ read : Bytes → Except Fault (PublicKey × Bytes), read blob = .ok (key, []) →
      readInside read (field blob ++ field clear) = .ok (key, field clear) :=
    fun read hread => readInside_field hlength hread (field clear)
  rw [decode?, hprefix, hdrop]
  simp only [not_true_eq_false, if_false, Option.bind_eq_bind, hcipher, Option.bind_some,
    hderivation, hcount, Except.toOption, ne_eq]
  rw [hpublic _ (by rw [hblob])]
  simp only [Option.bind_some, Bool.false_eq_true, false_or, Option.map_eq_bind]
  rfl

/-- **Keys without encryption.** What is read is the pair of the section. -/
theorem decode?_encode (hblob : readKey? blob = some (key, [])) (hlength : blob.length ≤ maxField)
    (h : clear.length ≤ maxField) :
    decode? (encode blob clear) = (readSection? key clear).map .pair := by
  have hread := readField_field h []
  rw [List.append_nil] at hread
  rw [decode?_before hblob hlength, hread]
  rfl

/-- A section longer than any field is refused. -/
theorem decode?_encode_of_long (hblob : readKey? blob = some (key, []))
    (hlength : blob.length ≤ maxField) (h : maxField < clear.length)
    (hfits : clear.length < 2 ^ 32) : decode? (encode blob clear) = none := by
  have hread : readField (field clear) = .error .overflow := by
    rw [readField, field, readLength_word_of_long h hfits]
    rfl
  rw [decode?_before hblob hlength, hread]
  rfl

end

/-! ### Pairs of numbers -/

/-- The pair of an RSA key's numbers, with the inverse of one factor for the other. -/
def numbersPair (k : Rsa.Numbers) (inverse : Nat) : Bytes :=
  field (Utf8.encode "ssh-rsa") ++
    [k.n, k.e, k.d, inverse, k.p, k.q].flatMap fun m => field (integerContent m)

/-- The pair that is read of an RSA key's numbers. -/
def numbersRead (k : Rsa.Numbers) : KeyPair :=
  .rsa (integerContent k.n) (integerContent k.e) (integerContent k.d) (integerContent k.p)
    (integerContent k.q)

variable {k : Rsa.Numbers} {inverse : Nat}

theorem length_integer_le (h : (numbersPair k inverse).length ≤ maxField) :
    ∀ m ∈ [k.n, k.e, k.d, inverse, k.p, k.q], (integerContent m).length ≤ maxField := by
  intro m hm
  have hpart : (field (integerContent m)).Sublist
      ([k.n, k.e, k.d, inverse, k.p, k.q].flatMap fun m => field (integerContent m)) :=
    List.sublist_flatten_of_mem (List.mem_map_of_mem hm)
  have hlength := hpart.length_le
  rw [length_field] at hlength
  rw [numbersPair, List.length_append] at h
  omega

theorem readPair?_numbersPair (h : (numbersPair k inverse).length ≤ maxField) (rest : Bytes) :
    readPair? (numbersPair k inverse ++ rest) = some (numbersRead k, rest) := by
  have hread : ∀ m ∈ [k.n, k.e, k.d, inverse, k.p, k.q], ∀ rest,
      readInteger? (field (integerContent m) ++ rest) = some (integerContent m, rest) :=
    fun m hm rest => readInteger?_field (length_integer_le h m hm) rest
  simp only [List.forall_mem_cons] at hread
  obtain ⟨hn, he, hd, hinverse, hp, hq, -⟩ := hread
  have hbytes : numbersPair k inverse ++ rest = field (Utf8.encode "ssh-rsa") ++
      (field (integerContent k.n) ++ (field (integerContent k.e) ++
        (field (integerContent k.d) ++ (field (integerContent inverse) ++
          (field (integerContent k.p) ++ (field (integerContent k.q) ++ rest)))))) := by
    simp [numbersPair]
  rw [readPair?, hbytes, readShort?_field (by decide) (by decide)]
  simp only [Option.bind_eq_bind, Option.bind_some, true_or, if_true, hn, he, hd, hinverse, hp, hq]
  rfl

/-- The public half of numbers is read where their pair is short enough. -/
theorem readKey?_numbers (h : (numbersPair k inverse).length ≤ maxField) :
    readKey? (numbersRead k).publicKey.encode = some ((numbersRead k).publicKey, []) := by
  have hinteger := length_integer_le h
  simp only [List.forall_mem_cons] at hinteger
  have hread := readKey?_rsa hinteger.2.1 hinteger.1 []
  rwa [List.append_nil] at hread

theorem length_publicKey_le (h : (numbersPair k inverse).length ≤ maxField) :
    (numbersRead k).publicKey.encode.length ≤ maxField := by
  simp only [numbersPair, List.flatMap_cons, List.length_append, length_field] at h
  simp only [numbersRead, KeyPair.publicKey, PublicKey.encode, PublicKey.typeBytes,
    PublicKey.fields, List.length_append, length_field]
  omega

/-! ### Numbers of a pair -/

theorem positive?_integerContent (n : Nat) :
    positive? (integerContent n) = if n = 0 then none else some n := by
  have hvalue := toNat_integerContent n
  split_ifs with hzero
  · rw [hzero]
    rfl
  · -- the top bit of an integer's first byte is clear
    obtain ⟨first, rest, hcontent, htop⟩ :
        ∃ first rest, integerContent n = first :: rest ∧ first < 0x80 := by
      have hminimal := Bytes.toNat_minimal n
      rw [integerContent]
      cases hbytes : Bytes.minimal n with
      | nil =>
        rw [hbytes] at hminimal
        exact absurd hminimal.symm hzero
      | cons first rest =>
        dsimp only
        split_ifs with hclear
        · exact ⟨first, rest, rfl, hclear⟩
        · exact ⟨0, first :: rest, rfl, by decide⟩
    rw [hcontent] at hvalue ⊢
    rw [positive?, if_pos htop, hvalue]

theorem numbers?_integerContent (k : Rsa.Numbers) :
    numbers? (integerContent k.n) (integerContent k.e) (integerContent k.d) (integerContent k.p)
        (integerContent k.q) =
      if k.n = 0 ∨ k.e = 0 ∨ k.d = 0 ∨ k.p = 0 ∨ k.q = 0 then none else some k := by
  simp only [numbers?, positive?_integerContent]
  by_cases hn : k.n = 0 <;> by_cases he : k.e = 0 <;> by_cases hd : k.d = 0 <;>
    by_cases hp : k.p = 0 <;> by_cases hq : k.q = 0 <;> simp [hn, he, hd, hp, hq]

/-- A pair of numbers gives the key of the numbers. -/
theorem key_numbersRead (k : Rsa.Numbers) :
    (numbersRead k).key.toOption = k.key.toOption.map .rsa := by
  rw [numbersRead, KeyPair.key, numbers?_integerContent]
  cases hkey : k.key with
  | error fault =>
    -- a number that is zero is refused for that, before the others are looked at
    split_ifs <;> simp [hkey, Except.toOption]
  | ok key =>
    have hpositive : ¬(k.n = 0 ∨ k.e = 0 ∨ k.d = 0 ∨ k.p = 0 ∨ k.q = 0) := by
      obtain ⟨hn, he, hd, hp, hq⟩ := key.numbers_pos
      rw [Rsa.Numbers.key_eq_ok hkey] at hn he hd hp hq
      omega
    simp [if_neg hpositive, hkey, Except.toOption]

/-! ### Keys of numbers -/

/-- The bytes of an RSA key's numbers without encryption. -/
def encodeNumbers (k : Rsa.Numbers) (inverse check : Nat) (comment : Bytes) : Bytes :=
  encode (numbersRead k).publicKey.encode (clearSection check (numbersPair k inverse) comment)

theorem encodeNumbers_ne_nil (k : Rsa.Numbers) (inverse check : Nat) (comment : Bytes) :
    encodeNumbers k inverse check comment ≠ [] :=
  List.cons_ne_nil _ _

variable {check : Nat} {comment : Bytes}

/-- What is read of an RSA key's numbers, if their section is short enough to be read. -/
theorem decode?_encodeNumbers
    (h : (clearSection check (numbersPair k inverse) comment).length ≤ maxField) :
    decode? (encodeNumbers k inverse check comment) =
      if (Utf8.decode? comment).isSome then some (.pair (numbersRead k)) else none := by
  have hlength := length_clearSection check (numbersPair k inverse) comment
  have hpair : (numbersPair k inverse).length ≤ maxField := by omega
  have hcomment : comment.length ≤ maxField := by omega
  rw [encodeNumbers, decode?_encode (readKey?_numbers hpair) (length_publicKey_le hpair) h,
    readSection?_clearSection (readPair?_numbersPair hpair) hcomment]
  split_ifs <;> rfl

/-- **RSA.** The key of the numbers is read, or none where the numbers have a fault. -/
theorem key_encodeNumbers
    (h : (clearSection check (numbersPair k inverse) comment).length ≤ maxField)
    (hcomment : (Utf8.decode? comment).isSome) :
    (key (encodeNumbers k inverse check comment)).toOption = k.key.toOption.map .rsa := by
  rw [key, decode?_encodeNumbers h, if_pos hcomment]
  exact key_numbersRead k

/-- A comment that is not text is refused. -/
theorem key_encodeNumbers_of_no_text
    (h : (clearSection check (numbersPair k inverse) comment).length ≤ maxField)
    (hcomment : Utf8.decode? comment = none) :
    key (encodeNumbers k inverse check comment) = .error .malformedBlock := by
  rw [key, decode?_encodeNumbers h, hcomment]
  rfl

/-- A section that is too long is refused, whatever the comment. -/
theorem key_encodeNumbers_of_long (hpair : (numbersPair k inverse).length ≤ maxField)
    (h : maxField < (clearSection check (numbersPair k inverse) comment).length)
    (hfits : (clearSection check (numbersPair k inverse) comment).length < 2 ^ 32) :
    key (encodeNumbers k inverse check comment) = .error .malformedBlock := by
  rw [key, encodeNumbers, decode?_encode_of_long (readKey?_numbers hpair)
    (length_publicKey_le hpair) h hfits]

end RequestSigning.OpenSsh
