import RequestSigning.Proofs.CurveKeys
import RequestSigning.Proofs.OpenSshFiles

/-!
# OpenSSH keys on curves read back

An OpenSSH key on a curve has the scalar as an integer in its shortest form. The reader takes it where
it is as wide as the field, or has one zero byte in front of that width, and refuses a shorter one
(`OpenSsh.readScalar?_field`). So a key is read exactly if its scalar needs the width of the field
(`OpenSsh.key_encodeCurve`), by `Wire.length_integerContent_le_iff` if twice the scalar does not fit
in one byte less.

The width of the scalar is the one thing that can go wrong. Written as an integer it loses its
leading zero bytes, and the reader wants them; a scalar with its top bit set gains a zero byte in
front, which the reader strips. The rest of the file, the point and the names of the curve, always
reads back.
-/

namespace RequestSigning

open Wire

/-! ### The shortest form of an integer -/

theorem Bytes.width_eq_succ {n w : Nat} (hlow : 256 ^ w ≤ n) (hhigh : n < 256 ^ (w + 1)) :
    width n = w + 1 := by
  have hle : width n ≤ w ↔ n < 256 ^ w := width_le_iff
  have hlt := width_le_of_lt hhigh
  omega

namespace Wire

/-- **Widths.** The shortest form of an integer has one bit more than the integer. -/
theorem length_integerContent (n : Nat) : (integerContent n).length = Bytes.width (2 * n) := by
  have hvalue := Bytes.toNat_minimal n
  rw [integerContent]
  cases hbytes : Bytes.minimal n with
  | nil =>
    rw [hbytes, Bytes.toNat_nil] at hvalue
    rw [← hvalue]
    rfl
  | cons first rest =>
    have hfirst := Bytes.minimal_head_ne_zero hbytes
    have hpos : 0 < first.toNat :=
      Nat.pos_of_ne_zero fun hzero => hfirst (UInt8.toNat_inj.mp hzero)
    have htop : first < 0x80 ↔ first.toNat < 127 + 1 := UInt8.lt_iff_toNat_lt
    have hbelow : first.toNat < 255 + 1 := first.toNat_lt
    have hrest := Bytes.toNat_lt rest
    rw [hbytes, Bytes.toNat_cons] at hvalue
    dsimp only
    split_ifs with hclear
    · -- the first byte is between 1 and 127, so the double is no longer
      have hlow := Nat.mul_le_mul_right (256 ^ rest.length) hpos
      have hhigh := Nat.mul_le_mul_right (256 ^ rest.length) (Nat.le_of_lt_succ (htop.mp hclear))
      rw [List.length_cons, Bytes.width_eq_succ] <;> omega
    · -- it is 128 at least, so the double has a byte more
      have hlow := Nat.mul_le_mul_right (256 ^ rest.length) (not_lt.mp (hclear ∘ htop.mpr))
      have hhigh := Nat.mul_le_mul_right (256 ^ rest.length) (Nat.le_of_lt_succ hbelow)
      rw [List.length_cons, List.length_cons, Bytes.width_eq_succ] <;> omega

variable {n w : Nat}

theorem length_integerContent_le_iff : (integerContent n).length ≤ w ↔ 2 * n < 256 ^ w := by
  rw [length_integerContent]
  exact Bytes.width_le_iff

/-- An integer whose shortest form has a width is written in that width. -/
theorem integerContent_of_length_eq (h : (integerContent n).length = w) :
    integerContent n = Bytes.ofNat w n := by
  have hlt := Bytes.toNat_lt (integerContent n)
  rw [toNat_integerContent, h] at hlt
  refine Bytes.toNat_injective (by rw [h, Bytes.length_ofNat]) ?_
  rw [toNat_integerContent, Bytes.toNat_ofNat_of_lt hlt]

/-- With a byte more, the first one is zero. -/
theorem integerContent_of_length_eq_succ (hlt : n < 256 ^ w)
    (h : (integerContent n).length = w + 1) : integerContent n = 0 :: Bytes.ofNat w n := by
  refine Bytes.toNat_injective (by rw [h, List.length_cons, Bytes.length_ofNat]) ?_
  rw [toNat_integerContent, Bytes.toNat_cons, Bytes.toNat_ofNat_of_lt hlt]
  simp

/-- What is no part of a field is not read inside it. -/
theorem readInside_field_of_error {α : Type} {read : Bytes → Except Fault (α × Bytes)}
    {content : Bytes} {fault : Fault} (h : content.length ≤ maxField)
    (hread : read content = .error fault) (rest : Bytes) :
    readInside read (field content ++ rest) = .error fault := by
  rw [readInside, field, List.append_assoc, readLength_word h]
  simp only [bind, Except.bind, List.take_left, hread]

end Wire

/-! ### Public halves -/

namespace Ssh

variable {curve : Ecdsa.Curve} {point : Bytes}

theorem isPoint_uncompressed (curve : Ecdsa.Curve) (point : Nat × Nat) :
    isPoint curve (Ecdsa.uncompressed curve point) = true := by
  have hlength := Ecdsa.length_uncompressed curve point
  rw [Ecdsa.uncompressed, List.length_cons] at hlength
  rw [Ecdsa.uncompressed, isPoint, Nat.succ_injective hlength]
  simp

theorem length_le_of_isPoint (h : isPoint curve point = true) : point.length ≤ 133 := by
  obtain ⟨-, hsize⟩ := curve.size_bounds
  cases point with
  | nil => simp
  | cons tag coordinates =>
    simp only [isPoint, Bool.or_eq_true, Bool.and_eq_true, beq_iff_eq] at h
    rw [List.length_cons]
    omega

theorem readCurve?_name (curve : Ecdsa.Curve) (rest : Bytes) :
    readCurve? (field (Utf8.encode curve.name) ++ rest) = some (curve, rest) := by
  have hlength : (Utf8.encode curve.name).length ≤ 48 := by
    cases curve <;> decide
  have hfind : (Ecdsa.Curve.all.find? fun other =>
      Utf8.encode other.name = Utf8.encode curve.name) = some curve := by
    cases curve <;> decide
  rw [readCurve?, readShort?_field (by decide) hlength]
  simp only [Option.bind_eq_bind, Option.bind_some, hfind]

theorem readEcdsa?_fields (h : isPoint curve point = true) (rest : Bytes) :
    readEcdsa? (field (Utf8.encode curve.name) ++ (field point ++ rest)) =
      some ((curve, point), rest) := by
  have hpoint : readShort? 133 (field point ++ rest) = some (point, rest) :=
    readShort?_field (by decide) (length_le_of_isPoint h) rest
  rw [readEcdsa?, readCurve?_name]
  simp only [Option.bind_eq_bind, Option.bind_some, hpoint, if_pos h]

/-- The fields of a key on a curve are read, whatever stands behind them. -/
theorem readFields?_ecdsa (h : isPoint curve point = true) (rest : Bytes) :
    readFields? (Utf8.encode (ecdsaTypeName curve))
        (field (Utf8.encode curve.name) ++ (field point ++ rest)) =
      some (.ecdsa curve point, rest) := by
  have hother : ∀ name ∈ ["ssh-rsa", "rsa-sha2-256", "rsa-sha2-512", "ssh-dss", "ssh-ed25519",
      "sk-ssh-ed25519@openssh.com", "sk-ecdsa-sha2-nistp256@openssh.com"],
      Utf8.encode (ecdsaTypeName curve) ≠ Utf8.encode name := by
    cases curve <;> decide
  simp only [List.forall_mem_cons] at hother
  obtain ⟨hrsa, hrsa256, hrsa512, hdsa, hed, hhardwareEd, hhardware, -⟩ := hother
  have hfind : (Ecdsa.Curve.all.find? fun other =>
      Utf8.encode (ecdsaTypeName other) = Utf8.encode (ecdsaTypeName curve)) = some curve := by
    cases curve <;> decide
  rw [readFields?, if_neg (by simp [hrsa, hrsa256, hrsa512]), if_neg hdsa, if_neg hed,
    if_neg hhardwareEd, if_neg hhardware, hfind]
  simp only [readEcdsa?_fields h, Option.bind_eq_bind, Option.bind_some, if_true]

theorem length_typeName_le (curve : Ecdsa.Curve) :
    (Utf8.encode (ecdsaTypeName curve)).length ≤ 48 := by
  cases curve <;> decide

/-- The public half of a key on a curve is read. -/
theorem readKey?_ecdsa (h : isPoint curve point = true) :
    readKey? (PublicKey.ecdsa curve point).encode = some (.ecdsa curve point, []) := by
  have hread := readFields?_ecdsa h []
  rw [List.append_nil] at hread
  rw [readKey?, PublicKey.encode, PublicKey.typeBytes,
    readShort?_field (by decide) (length_typeName_le curve)]
  exact hread

theorem length_encode_ecdsa_le (h : isPoint curve point = true) :
    (PublicKey.ecdsa curve point).encode.length ≤ 241 := by
  have htype := length_typeName_le curve
  have hpoint := length_le_of_isPoint h
  have hname : (Utf8.encode curve.name).length ≤ 48 := by
    cases curve <;> decide
  simp only [PublicKey.encode, PublicKey.typeBytes, PublicKey.fields, List.length_append,
    length_field]
  omega

end Ssh

/-! ### Pairs -/

namespace OpenSsh

open Ssh

variable {curve : Ecdsa.Curve} {point : Bytes} {scalar : Nat}

/-- **Scalars.** A scalar is read if its shortest form is no shorter than the field. -/
theorem readScalar?_field (h : scalar < 256 ^ curve.size) (rest : Bytes) :
    readScalar? curve (field (integerContent scalar) ++ rest) =
      if (integerContent scalar).length < curve.size then none
      else some (Bytes.ofNat curve.size scalar, rest) := by
  obtain ⟨-, hsize⟩ := curve.size_bounds
  have hwidth : Bytes.width scalar ≤ curve.size := Bytes.width_le_of_lt h
  have hlong : (integerContent scalar).length ≤ curve.size + 1 :=
    (length_integerContent_le scalar).trans (Nat.add_le_add_right hwidth 1)
  have hbound : (integerContent scalar).length ≤ maxField :=
    hlong.trans ((Nat.add_le_add_right hsize 1).trans (by decide))
  have hread : readBytes curve.size (Bytes.ofNat curve.size scalar) =
      .ok (Bytes.ofNat curve.size scalar, []) := by
    have happend := readBytes_append (Bytes.ofNat curve.size scalar) []
    rwa [Bytes.length_ofNat, List.append_nil] at happend
  rw [readScalar?]
  split_ifs with hshort
  · -- fewer bytes than the field has
    rw [@readInside_field_of_error _ _ _ .length hbound]
    · rfl
    · rw [if_neg (by omega), readBytes, if_neg]
      rw [List.length_take]
      omega
  · rcases Nat.lt_or_eq_of_le hlong with hlt | heq
    · -- as many bytes as the field has
      have hexact : (integerContent scalar).length = curve.size := by omega
      rw [@readInside_field _ _ _ (Bytes.ofNat curve.size scalar) hbound]
      · rfl
      · rw [if_neg (by omega), integerContent_of_length_eq hexact]
        exact hread
    · -- a zero byte, and as many
      rw [@readInside_field _ _ _ (Bytes.ofNat curve.size scalar) hbound]
      · rfl
      · rw [if_pos heq, integerContent_of_length_eq_succ h heq]
        exact hread

/-- The pair of a key on a curve: its public half and its scalar. -/
def curvePair (curve : Ecdsa.Curve) (point : Bytes) (scalar : Nat) : Bytes :=
  (PublicKey.ecdsa curve point).encode ++ field (integerContent scalar)

theorem readPair?_curvePair (hpoint : isPoint curve point = true)
    (h : scalar < 256 ^ curve.size) (rest : Bytes) :
    readPair? (curvePair curve point scalar ++ rest) =
      if (integerContent scalar).length < curve.size then none
      else some (.ecdsa curve point (Bytes.ofNat curve.size scalar), rest) := by
  have hother : ∀ name ∈ ["ssh-rsa", "rsa-sha2-256", "rsa-sha2-512"],
      Utf8.encode (ecdsaTypeName curve) ≠ Utf8.encode name := by
    cases curve <;> decide
  simp only [List.forall_mem_cons] at hother
  obtain ⟨hrsa, hrsa256, hrsa512, -⟩ := hother
  have hbytes : curvePair curve point scalar ++ rest = field (Utf8.encode (ecdsaTypeName curve)) ++
      (field (Utf8.encode curve.name) ++ (field point ++
        (field (integerContent scalar) ++ rest))) := by
    simp only [curvePair, PublicKey.encode, PublicKey.typeBytes, PublicKey.fields,
      List.append_assoc]
  rw [readPair?, hbytes, readShort?_field (by decide) (length_typeName_le curve)]
  simp only [Option.bind_eq_bind, Option.bind_some, hrsa, hrsa256, hrsa512, or_self, if_false,
    readFields?_ecdsa hpoint, readScalar?_field h]
  split_ifs <;> rfl

/-! ### Keys -/

/-- A section whose pair is not read is refused. -/
theorem readSection?_clearSection_of_none {pair : Bytes}
    (hpair : ∀ rest, readPair? (pair ++ rest) = none) (publicKey : PublicKey) (check : Nat)
    (comment : Bytes) : readSection? publicKey (clearSection check pair comment) = none := by
  have hwhole : (clearSection check pair comment).length % 8 = 0 := by
    rw [length_clearSection]
    omega
  have hbytes : ∃ behind, clearSection check pair comment =
      word check ++ (word check ++ (pair ++ behind)) :=
    ⟨_, by simp only [clearSection, List.append_assoc]; rfl⟩
  obtain ⟨behind, hbehind⟩ := hbytes
  rw [readSection?, hwhole, hbehind]
  simp only [ne_eq, not_true_eq_false, if_false, readWord_append (length_word check),
    Except.toOption, Option.bind_eq_bind, Option.bind_some, hpair, Option.bind_none]

/-- The private section of a key on a curve. -/
def curveSection (key : Ecdsa.PrivateKey) (check : Nat) (comment : Bytes) : Bytes :=
  clearSection check (curvePair key.curve
    (Ecdsa.uncompressed key.curve (Ecdsa.publicPoint key.curve key.scalar)) key.scalar) comment

/-- Without its comment a section is short. -/
theorem length_curveSection_le (key : Ecdsa.PrivateKey) (check : Nat) (comment : Bytes) :
    (curveSection key check comment).length ≤ comment.length + 331 := by
  obtain ⟨-, hsize⟩ := key.curve.size_bounds
  have hpublic := length_encode_ecdsa_le
    (isPoint_uncompressed key.curve (Ecdsa.publicPoint key.curve key.scalar))
  have hwidth : Bytes.width key.scalar ≤ key.curve.size := Bytes.width_le_of_lt key.scalar_lt_pow
  have hscalar := length_integerContent_le key.scalar
  rw [curveSection, length_clearSection, curvePair, List.length_append, length_field]
  omega

/-- The bytes of a key on a curve without encryption. -/
def encodeCurve (key : Ecdsa.PrivateKey) (check : Nat) (comment : Bytes) : Bytes :=
  encode (PrivateKey.ecdsa key).blob (curveSection key check comment)

theorem encodeCurve_ne_nil (key : Ecdsa.PrivateKey) (check : Nat) (comment : Bytes) :
    encodeCurve key check comment ≠ [] :=
  List.cons_ne_nil _ _

/-- **Keys on curves.** A key is read exactly if twice its scalar takes the width of the field. -/
theorem key_encodeCurve {key : Ecdsa.PrivateKey} {check : Nat} {comment : Bytes}
    (h : (curveSection key check comment).length ≤ maxField)
    (hcomment : (Utf8.decode? comment).isSome) :
    OpenSsh.key (encodeCurve key check comment) =
      if 2 * key.scalar < 256 ^ (key.curve.size - 1) then .error .malformedBlock
      else .ok (.ecdsa key) := by
  obtain ⟨hlow, -⟩ := key.curve.size_bounds
  have hpoint := isPoint_uncompressed key.curve (Ecdsa.publicPoint key.curve key.scalar)
  have hshort : (integerContent key.scalar).length < key.curve.size ↔
      2 * key.scalar < 256 ^ (key.curve.size - 1) := by
    rw [← length_integerContent_le_iff]
    omega
  have hpair := readPair?_curvePair hpoint key.scalar_lt_pow
  simp only [hshort] at hpair
  have hblob : (PrivateKey.ecdsa key).blob.length ≤ maxField :=
    (length_encode_ecdsa_le hpoint).trans (by decide)
  have hpublic : readKey? (PrivateKey.ecdsa key).blob = some ((PrivateKey.ecdsa key).publicKey, []) :=
    readKey?_ecdsa hpoint
  rw [OpenSsh.key, encodeCurve, decode?_encode hpublic hblob h]
  split_ifs with htwice
  · simp only [if_pos htwice] at hpair
    rw [curveSection, readSection?_clearSection_of_none hpair]
    rfl
  · simp only [if_neg htwice] at hpair
    have hcommentShort : comment.length ≤ maxField := by
      rw [curveSection, length_clearSection] at h
      omega
    have hread : readSection? (PrivateKey.ecdsa key).publicKey (curveSection key check comment) =
        if (Utf8.decode? comment).isSome then some _ else none :=
      readSection?_clearSection hpair hcommentShort check
    rw [hread, if_pos hcomment]
    simp only [Option.map_some, KeyPair.key, Bytes.toNat_ofNat_of_lt key.scalar_lt_pow,
      key.ofScalar?_scalar]

end OpenSsh

end RequestSigning
