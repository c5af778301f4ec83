import RequestSigning.Proofs.Armour
import RequestSigning.Proofs.PkcsKeys

/-!
# Keys on curves in elements read back

A SEC1 key has two parts that can be left out, each in an element with a number of its own. The parts
that were written are read (`Sec1.decode?_encode`). They **belong to** a key on a curve if the scalar
is written in the width of the field, a curve that is named is the key's, and a point that is given is
the key's own, in either of its two forms (`Sec1.Content.BelongsTo`). Such parts give that key, on
their own (`Sec1.anyKey?_encode`) and inside a PKCS#8 key (`Pkcs8.key?_encode_curve`).
-/

namespace RequestSigning

/-! ### Parts that can be left out -/

namespace Der

variable {number : Nat} {tag : UInt8} {rest : Bytes}

/-- The tag and the length take six bytes at most. -/
theorem length_element_le (tag : UInt8) (content : Bytes) (h : content.length < 2 ^ 28) :
    (element tag content).length ≤ content.length + 6 := by
  have hwidth : Bytes.width content.length ≤ 4 := Bytes.width_le_of_lt (h.trans (by decide))
  rw [element, List.length_cons, List.length_append, lengthBytes]
  split_ifs
  · rw [List.length_singleton]
    omega
  · rw [List.length_cons, Bytes.length_minimal]
    omega

/-- The header of an element takes at most six bytes, and an absent element none at all. -/
theorem length_elim_element_le {inside : Option Bytes} {most : Nat} (hmost : most < 2 ^ 28)
    (h : ∀ content ∈ inside, content.length ≤ most) (tag : UInt8) :
    (inside.elim [] (element tag)).length ≤ most + 6 := by
  cases inside with
  | none => simp
  | some content =>
    have hcontent := h content rfl
    have hle := length_element_le tag content (hcontent.trans_lt hmost)
    rw [Option.elim_some]
    omega

@[simp] theorem readContext?_nil (number : Nat) : readContext? number [] = some (none, []) := by
  rw [readContext?]

/-- An element with a higher number is left for a later reader. -/
theorem readContext?_cons_of_lt (htag : isTag tag = true) (h : number < contextNumber tag)
    (tail : Bytes) : readContext? number (tag :: tail) = some (none, tag :: tail) := by
  rw [readContext?, if_neg (by simp [htag]), if_pos (.inr h)]

/-- A context-specific element is read when its number is the one asked for. -/
theorem readContext?_element {content : Bytes} (htag : isTag tag = true)
    (hcontext : isContext tag = true) (hnumber : contextNumber tag = number)
    (h : content.length < 2 ^ 28) (rest : Bytes) :
    readContext? number (element tag content ++ rest) = some (some (tag, content), rest) := by
  have hread := read?_element htag h rest
  obtain ⟨tail, htail⟩ : ∃ tail, element tag content ++ rest = tag :: tail := ⟨_, rfl⟩
  rw [htail] at hread ⊢
  rw [readContext?, if_neg (by simp [htag]), if_neg (by simp [hcontext, hnumber])]
  split
  · next hnone =>
    rw [hread] at hnone
    contradiction
  · next found inside behind hsome =>
    rw [hread] at hsome
    obtain ⟨rfl, rfl, rfl⟩ : tag = found ∧ content = inside ∧ rest = behind := by simpa using hsome
    exact if_pos hnumber

/-- A part that can be left out is read, or found to be left out. -/
theorem readExplicit?_elim {inside : Option Bytes} (htag : isTag tag = true)
    (hcontext : isContext tag = true) (hconstructed : isConstructed tag = true)
    (hnumber : contextNumber tag = number) (h : ∀ content ∈ inside, content.length < 2 ^ 28)
    (hrest : readContext? number rest = some (none, rest)) :
    readExplicit? number (inside.elim [] (element tag) ++ rest) = some (inside, rest) := by
  rw [readExplicit?]
  cases inside with
  | none => rw [Option.elim_none, List.nil_append, hrest]
  | some content =>
    rw [Option.elim_some, readContext?_element htag hcontext hnumber (h content rfl)]
    exact if_pos hconstructed

end Der

/-! ### SEC1 -/

namespace Sec1

theorem encode_ne_nil (content : Content) : encode content ≠ [] :=
  List.cons_ne_nil _ _

/-- The named curve is read back from the element that writes it. -/
theorem identifier?_element {name : Bytes} (hname : Der.isIdentifier name = true)
    (h : name.length < 2 ^ 28) : identifier? (Der.element Der.identifierTag name) = some name := by
  have hread := Der.readIdentifier?_element hname h []
  rw [List.append_nil] at hread
  rw [identifier?, hread]

theorem bits?_bitString {bytes : Bytes} (h : (0 :: bytes).length < 2 ^ 28) :
    bits? (Der.bitString bytes) = some bytes := by
  rw [bits?, Der.bitString, Der.whole?_element (by decide) h]
  rfl

/-- What the element of the curve holds. -/
def Content.namedCurve (content : Content) : Option Bytes :=
  content.curve.map (Der.element Der.identifierTag)

/-- What the element of the point holds. -/
def Content.givenPoint (content : Content) : Option Bytes :=
  content.point.map Der.bitString

/-- What the sequence holds. -/
def Content.fields (content : Content) : Bytes :=
  Der.unsigned 1 ++ (Der.element Der.octetStringTag content.scalar ++
    (content.namedCurve.elim [] (Der.element 0xA0) ++
      content.givenPoint.elim [] (Der.element 0xA1)))

/-- The content of a key is one sequence of its fields. -/
theorem encode_eq (content : Content) :
    encode content = Der.element Der.sequenceTag content.fields := by
  obtain ⟨scalar, curve, point⟩ := content
  cases curve <;> cases point <;>
    simp [encode, Content.fields, Content.namedCurve, Content.givenPoint]

/-- Parts **fit** if they are short enough to be read. -/
structure Content.Fits (content : Content) : Prop where
  scalar : content.scalar.length < 2 ^ 28
  namedCurve : ∀ inside ∈ content.namedCurve, inside.length < 2 ^ 28
  givenPoint : ∀ inside ∈ content.givenPoint, inside.length < 2 ^ 28

/-- Fields that fit a sequence fit their own elements. -/
theorem Content.fits_of_length {content : Content} (h : content.fields.length < 2 ^ 28) :
    content.Fits := by
  simp only [fields, List.length_append] at h
  refine ⟨?_, fun inside hinside => ?_, fun inside hinside => ?_⟩
  · have hle := Der.length_content_le Der.octetStringTag content.scalar
    omega
  · have hle := Der.length_content_le 0xA0 inside
    rw [Option.mem_def.mp hinside, Option.elim_some] at h
    omega
  · have hle := Der.length_content_le 0xA1 inside
    rw [Option.mem_def.mp hinside, Option.elim_some] at h
    omega

namespace Content.Fits

variable {content : Content}

/-- A public point left out is read as left out, with nothing read of what follows. -/
theorem readExplicit?_point (h : content.Fits) :
    Der.readExplicit? 1 (content.givenPoint.elim [] (Der.element 0xA1)) =
      some (content.givenPoint, []) := by
  rw [← List.append_nil (content.givenPoint.elim [] (Der.element 0xA1))]
  exact Der.readExplicit?_elim (by decide) (by decide) (by decide) (by decide) h.givenPoint
    (Der.readContext?_nil 1)

/-- The element of the point is not taken for that of the curve. -/
theorem readExplicit?_curve (h : content.Fits) :
    Der.readExplicit? 0 (content.namedCurve.elim [] (Der.element 0xA0) ++
        content.givenPoint.elim [] (Der.element 0xA1)) =
      some (content.namedCurve, content.givenPoint.elim [] (Der.element 0xA1)) := by
  refine Der.readExplicit?_elim (by decide) (by decide) (by decide) (by decide) h.namedCurve ?_
  cases content.givenPoint with
  | none => exact Der.readContext?_nil 0
  | some inside => exact Der.readContext?_cons_of_lt (by decide) (by decide) _

theorem identifier? (h : content.Fits) {name : Bytes} (hmem : name ∈ content.curve)
    (hname : Der.isIdentifier name = true) :
    Sec1.identifier? (Der.element Der.identifierTag name) = some name := by
  have hle := Der.length_content_le Der.identifierTag name
  have hshort := h.namedCurve _ (Option.mem_map_of_mem _ hmem)
  exact identifier?_element hname (hle.trans_lt hshort)

theorem bits? (h : content.Fits) {point : Bytes} (hmem : point ∈ content.point) :
    Sec1.bits? (Der.bitString point) = some point := by
  have hle := Der.length_content_le Der.bitStringTag (0 :: point)
  have hshort := h.givenPoint _ (Option.mem_map_of_mem _ hmem)
  exact bits?_bitString (hle.trans_lt hshort)

end Content.Fits

/-- **SEC1.** The parts that were written are read. -/
theorem decode?_encode {content : Content}
    (hname : ∀ name ∈ content.curve, Der.isIdentifier name = true)
    (h : (encode content).length < 2 ^ 28 + 6) : decode? (encode content) = some content := by
  rw [encode_eq] at h ⊢
  have hwhole := (Der.length_content_lt_iff _ _).mpr h
  have hfits := Content.fits_of_length hwhole
  have hversion : ∀ rest, Der.readUnsigned? (Der.unsigned 1 ++ rest) = some (1, rest) :=
    Der.readUnsigned?_unsigned (by decide)
  have hscalar : ∀ rest,
      Der.readTagged? Der.octetStringTag (Der.element Der.octetStringTag content.scalar ++ rest) =
        some (content.scalar, rest) :=
    Der.readTagged?_element (by decide) hfits.scalar
  rw [decode?, Der.whole?_element (by decide) hwhole, Content.fields]
  simp only [Option.bind_eq_bind, Option.bind_some, hversion, ne_eq, not_true_eq_false, if_false,
    hscalar, hfits.readExplicit?_curve, hfits.readExplicit?_point]
  -- what the two elements hold is read in its turn
  obtain ⟨scalar, curve, point⟩ := content
  cases curve with
  | none =>
    cases point with
    | none => rfl
    | some point => simp [Content.namedCurve, Content.givenPoint, hfits.bits? rfl]
  | some name =>
    have hcurve := hfits.identifier? rfl (hname name rfl)
    cases point with
    | none => simp [Content.namedCurve, Content.givenPoint, hcurve]
    | some point => simp [Content.namedCurve, Content.givenPoint, hcurve, hfits.bits? rfl]

end Sec1

/-! ### Points, curves and scalars -/

namespace Ecdsa

variable {curve : Curve}

/-- An uncompressed point is its format byte and both coordinates. -/
theorem length_uncompressed (curve : Curve) (point : Nat × Nat) :
    (uncompressed curve point).length = 2 * curve.size + 1 := by
  rw [uncompressed, List.length_cons, List.length_append, Bytes.length_ofNat, Bytes.length_ofNat,
    Nat.two_mul]

/-- A compressed point is its format byte and one coordinate. -/
theorem length_compressed (curve : Curve) (point : Nat × Nat) :
    (compressed curve point).length = curve.size + 1 := by
  rw [compressed, List.length_cons, Bytes.length_ofNat]

theorem Curve.order_lt (curve : Curve) : curve.order < 256 ^ curve.size := by
  cases curve <;> decide

/-- The smallest and the largest size of a coordinate, in bytes. -/
theorem Curve.size_bounds (curve : Curve) : 24 ≤ curve.size ∧ curve.size ≤ 66 := by
  cases curve <;> decide

theorem Curve.isIdentifier_identifier (curve : Curve) :
    Der.isIdentifier curve.identifier = true := by
  cases curve <;> decide

/-- A key's scalar fits the field that OpenSSH and SEC1 write it in. -/
theorem PrivateKey.scalar_lt_pow (key : PrivateKey) : key.scalar < 256 ^ key.curve.size :=
  key.scalar_lt.trans key.curve.order_lt

/-- A key is recovered from its curve and its scalar, since nothing else is stored. -/
theorem PrivateKey.ofScalar?_scalar (key : PrivateKey) :
    ofScalar? key.curve key.scalar = some key := by
  rw [ofScalar?, dif_pos ⟨key.scalar_pos, key.scalar_lt⟩]

/-- The curves are tried from the smallest on. -/
theorem Curve.findSome?_all {α : Type} {find : Curve → Option α} {a : α}
    (hfound : find curve = some a)
    (hsmaller : ∀ other, other.size < curve.size → find other = none) :
    all.findSome? find = some a := by
  cases curve with
  | p256 => simp [all, hfound]
  | p384 => simp [all, hsmaller .p256 (by decide), hfound]
  | p521 => simp [all, hsmaller .p256 (by decide), hsmaller .p384 (by decide), hfound]

end Ecdsa

/-! ### Keys of parts -/

namespace Sec1

/-- The parts **belong to** a key: the scalar has the width of the field, and the curve and the point
are the key's where they are there. -/
structure Content.BelongsTo (content : Content) (key : Ecdsa.PrivateKey) : Prop where
  scalar : content.scalar = Bytes.ofNat key.curve.size key.scalar
  curve : ∀ name ∈ content.curve, name = key.curve.identifier
  point : ∀ point ∈ content.point,
    point = Ecdsa.uncompressed key.curve (Ecdsa.publicPoint key.curve key.scalar) ∨
      point = Ecdsa.compressed key.curve (Ecdsa.publicPoint key.curve key.scalar)

variable {content : Content} {key : Ecdsa.PrivateKey}

/-- Content that belongs to a key is accepted on the key's own curve. -/
theorem Content.BelongsTo.key? (h : content.BelongsTo key) :
    content.key? key.curve = some key := by
  obtain ⟨hlow, -⟩ := key.curve.size_bounds
  have hsize : ¬((Bytes.ofNat key.curve.size key.scalar).length < 24 ∨
      key.curve.size < (Bytes.ofNat key.curve.size key.scalar).length) := by
    rw [Bytes.length_ofNat]
    omega
  have hpoint := h.point
  simp only [Content.key?, h.scalar, if_neg hsize, Bytes.toNat_ofNat_of_lt key.scalar_lt_pow,
    key.ofScalar?_scalar, Option.bind_eq_bind, Option.bind_some]
  cases hgiven : content.point with
  | none => rfl
  | some point => exact if_pos (hpoint point hgiven)

/-- On a smaller curve the parts are no key. -/
theorem Content.BelongsTo.key?_of_size_lt (h : content.BelongsTo key) {curve : Ecdsa.Curve}
    (hsize : curve.size < key.curve.size) : content.key? curve = none := by
  have hlong : content.scalar.length < 24 ∨ curve.size < content.scalar.length := by
    rw [h.scalar, Bytes.length_ofNat]
    exact .inr hsize
  rw [Content.key?]
  exact if_pos hlong

theorem Content.BelongsTo.length_namedCurve_le (h : content.BelongsTo key) :
    ∀ inside ∈ content.namedCurve, inside.length ≤ 14 := by
  intro inside hinside
  obtain ⟨name, hname, rfl⟩ := Option.mem_map.mp hinside
  have hshort : name.length ≤ 8 := by
    rw [h.curve name hname]
    cases key.curve <;> decide
  have hle := Der.length_element_le Der.identifierTag name (by omega)
  omega

theorem Content.BelongsTo.length_givenPoint_le (h : content.BelongsTo key) :
    ∀ inside ∈ content.givenPoint, inside.length ≤ 140 := by
  intro inside hinside
  obtain ⟨point, hpoint, rfl⟩ := Option.mem_map.mp hinside
  obtain ⟨-, hsize⟩ := key.curve.size_bounds
  have hshort : (0 :: point).length ≤ 134 := by
    rw [List.length_cons]
    rcases h.point point hpoint with rfl | rfl
    · rw [Ecdsa.length_uncompressed]
      omega
    · rw [Ecdsa.length_compressed]
      omega
  have hle := Der.length_element_le Der.bitStringTag (0 :: point) (by omega)
  rw [Der.bitString]
  omega

/-- The content of an elliptic-curve key is short, far below what a length can say. -/
theorem Content.BelongsTo.length_encode_lt (h : content.BelongsTo key) :
    (encode content).length < 1000 := by
  obtain ⟨-, hsize⟩ := key.curve.size_bounds
  have hlength : content.scalar.length = key.curve.size := by rw [h.scalar, Bytes.length_ofNat]
  have hversion : (Der.unsigned 1).length = 3 := by decide
  have hscalar := Der.length_element_le Der.octetStringTag content.scalar (by omega)
  have hcurve := Der.length_elim_element_le (by decide) h.length_namedCurve_le 0xA0
  have hpoint := Der.length_elim_element_le (by decide) h.length_givenPoint_le 0xA1
  have hfields : content.fields.length ≤ 241 := by
    rw [Content.fields, List.length_append, List.length_append, List.length_append]
    omega
  have hle := Der.length_element_le Der.sequenceTag content.fields (by omega)
  rw [encode_eq]
  omega

/-- The parts of a key are read. -/
theorem Content.BelongsTo.decode?_encode (h : content.BelongsTo key) :
    decode? (encode content) = some content := by
  refine Sec1.decode?_encode (fun name hname => ?_) (h.length_encode_lt.trans (by decide))
  rw [h.curve name hname]
  exact key.curve.isIdentifier_identifier

/-- The reader gets the key back from its written content. -/
theorem Content.BelongsTo.key?_encode (h : content.BelongsTo key) :
    Sec1.key? key.curve (encode content) = some key := by
  rw [Sec1.key?, h.decode?_encode]
  exact h.key?

/-- A reader for a smaller field refuses the content, since the scalar is too long for it. -/
theorem Content.BelongsTo.key?_encode_of_size_lt (h : content.BelongsTo key) {curve : Ecdsa.Curve}
    (hsize : curve.size < key.curve.size) : Sec1.key? curve (encode content) = none := by
  rw [Sec1.key?, h.decode?_encode]
  exact h.key?_of_size_lt hsize

/-- **SEC1.** The parts of a key give the key. -/
theorem anyKey?_encode (h : content.BelongsTo key) : anyKey? (encode content) = some key :=
  Ecdsa.Curve.findSome?_all h.key?_encode fun _ hother => h.key?_encode_of_size_lt hother

end Sec1

/-! ### PKCS#8 -/

namespace Pkcs8

/-- The parts of a key on a curve. -/
def curveContent (curve : Ecdsa.Curve) (content : Sec1.Content) : Content :=
  ⟨curveKeyIdentifier, some (Der.element Der.identifierTag curve.identifier), Sec1.encode content⟩

variable {content : Sec1.Content} {key : Ecdsa.PrivateKey}

theorem length_encode_curve_lt (h : content.BelongsTo key) :
    (encode (curveContent key.curve content)).length < 2 ^ 28 + 6 := by
  have hkey := h.length_encode_lt
  have hversion : (Der.unsigned 0).length = 3 := by decide
  have halgorithm : (Der.element Der.sequenceTag (Der.element Der.identifierTag curveKeyIdentifier ++
      (some (Der.element Der.identifierTag key.curve.identifier)).getD [])).length ≤ 100 := by
    cases key.curve <;> decide
  have hoctets := Der.length_element_le Der.octetStringTag (Sec1.encode content) (by omega)
  rw [encode, ← Der.length_content_lt_iff, List.length_append, List.length_append]
  dsimp only [curveContent]
  omega

/-- **Keys on curves.** The parts of a key give the key. -/
theorem key?_encode_curve (h : content.BelongsTo key) :
    key? (encode (curveContent key.curve content)) = some (.ecdsa key) := by
  have hidentifier : Der.isIdentifier curveKeyIdentifier = true := by decide
  have hparameters : parameters? (Der.element Der.identifierTag key.curve.identifier) =
      some (some (Der.element Der.identifierTag key.curve.identifier)) := by
    cases key.curve <;> decide
  have hdecode : decode? (encode (curveContent key.curve content)) =
      some (curveContent key.curve content) :=
    decode?_encode hidentifier hparameters (length_encode_curve_lt h)
  -- an algorithm other than that of RSA has no RSA key
  have hrsa : (curveContent key.curve content).rsaKey? = none := by
    rw [Content.rsaKey?]
    refine if_neg fun hboth => ?_
    have hne : curveKeyIdentifier ≠ rsaIdentifier := by decide
    exact hne hboth.1
  have hown : (curveContent key.curve content).curveKey? key.curve = some key := by
    rw [Content.curveKey?, curveContent, if_pos ⟨rfl, rfl⟩]
    exact h.key?_encode
  have hsmaller : ∀ other : Ecdsa.Curve, other.size < key.curve.size →
      (curveContent key.curve content).curveKey? other = none := by
    intro other hother
    rw [Content.curveKey?]
    split_ifs
    · exact h.key?_encode_of_size_lt hother
    · rfl
  rw [key?, hdecode]
  simp only [Option.bind_eq_bind, Option.bind_some, Content.anyKey?, hrsa,
    Ecdsa.Curve.findSome?_all hown hsmaller, Option.map_some]

end Pkcs8

/-! ### Armour -/

namespace KeyEncoding

/-- The armour, its line ends and its label do not change what is read. -/
theorem parse_sec1 {bytes : Bytes} (hne : bytes ≠ []) (eol : Pem.LineEnd) :
    PrivateKey.parse (sec1.armour eol bytes) =
      (Sec1.anyKey? bytes).elim (.error .malformedEc) fun key => .ok (.ecdsa key) := by
  rw [parse_armour hne, read, armoured?_armour hne]
  dsimp only [Option.bind_some]
  cases Sec1.anyKey? bytes <;> rfl

end KeyEncoding

end RequestSigning
