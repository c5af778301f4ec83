import RequestSigning.Proofs.EcdsaTexts
import RequestSigning.Proofs.KeyDecoders

/-!
# Kinds and curves that a text names

A text labelled `PRIVATE KEY` names the kind and the curve of its key, and the key is of that kind and
on that curve. A text labelled `EC PRIVATE KEY` may name a curve too, and there the name plays no part:
the key is on the smallest curve that its scalar and its point fit, whether that is the curve that is
named (`kinds_and_curves`) or another one (`misnamed_curve`). Parts that are written as a whole, with
the point, fit the curve of their key alone (`Sec1.Content.BelongsTo.eq_of_point`).
-/

namespace RequestSigning

open PrivateKey

namespace Sec1

variable {content : Content} {key other : Ecdsa.PrivateKey}

theorem Content.BelongsTo.isOf (h : content.BelongsTo key) : content.IsOf key := by
  obtain ⟨hleast, -⟩ := key.curve.size_bounds
  have hlength : content.scalar.length = key.curve.size := by rw [h.scalar, Bytes.length_ofNat]
  have hvalue : Bytes.toNat content.scalar = key.scalar := by
    rw [h.scalar, Bytes.toNat_ofNat_of_lt key.scalar_lt_pow]
  exact ⟨hlength ▸ hleast, hlength.le, hvalue, h.point⟩

/-- Parts with a point are of no other key than the one they belong to. -/
theorem Content.BelongsTo.eq_of_point (h : content.BelongsTo key) (hpoint : content.point.isSome)
    (hother : content.IsOf other) : other = key :=
  h.isOf.eq_of_curve hother (h.isOf.curve_eq_of_point hother hpoint)

end Sec1

/-- **Kinds and curves.** A text labelled `PRIVATE KEY` is accepted by one decoder at most, in whatever
order they are tried, and its key is of the kind and on the curve that the identifiers in it name, with
the numbers written in it.

In a text labelled `EC PRIVATE KEY` that names a curve, the decoder of a curve accepts the parts of any
key on that curve, whichever curve is named, and the key is the one on the smallest curve. With a point
the decoders are unambiguous. Where the parts are of no key on a curve other than the one named, the
text is read as one labelled `PRIVATE KEY` is: without ambiguity, and on the curve that is named. -/
theorem kinds_and_curves (text : Bytes) :
    (encodingOf text = .ok .pkcs8 →
      Unambiguous Decoder.all (Pkcs8.attempt? text) (parse text).toOption ∧
      ∀ key, parse text = .ok key → ∃ decoder version content behind,
        KeyEncoding.pkcs8.armoured? text = some (Pkcs8.layout version content behind) ∧
        content.algorithm = decoder.algorithm ∧ content.parameters = some decoder.parameters ∧
        key.IsOfKind decoder ∧ key.WrittenIn content.key) ∧
    (encodingOf text = .ok .sec1 → ∀ content name,
      (KeyEncoding.sec1.armoured? text).bind Sec1.decode? = some content →
      content.curve = some name →
        (∃ between, KeyEncoding.sec1.armoured? text = some (Sec1.layout content between)) ∧
        (∀ curve key, Sec1.attempt? text curve = some key ↔
          ∃ own : Ecdsa.PrivateKey, key = .ecdsa own ∧ own.curve = curve ∧ content.IsOf own) ∧
        (∀ key, parse text = .ok key ↔ ∃ own : Ecdsa.PrivateKey, key = .ecdsa own ∧
          content.IsOf own ∧ ∀ other, content.IsOf other → own.curve.size ≤ other.curve.size) ∧
        (content.point.isSome →
          Unambiguous Ecdsa.Curve.all (Sec1.attempt? text) (parse text).toOption) ∧
        ((∀ own, content.IsOf own → own.curve.identifier = name) →
          Unambiguous Ecdsa.Curve.all (Sec1.attempt? text) (parse text).toOption ∧
          ∀ key, parse text = .ok key → ∃ curve, name = curve.identifier ∧
            key.IsOfKind (.ecdsa curve) ∧
            ∀ der ∈ KeyEncoding.sec1.armoured? text, key.WrittenIn der)) := by
  refine ⟨fun hpkcs8 => ?_, fun hsec1 content name hdecode hname => ?_⟩
  · rw [KeyEncoding.parse_eq_read hpkcs8]
    exact ⟨Pkcs8.unambiguous text, fun key hkey => Pkcs8.exists_layout_of_read hkey⟩
  · rw [KeyEncoding.parse_eq_read hsec1]
    obtain ⟨der, hder, hcontent⟩ := Option.bind_eq_some_iff.mp hdecode
    obtain ⟨between, rfl⟩ := Sec1.exists_layout_of_decode? hcontent
    refine ⟨⟨between, hder⟩, fun curve key => Sec1.attempt?_eq_some_iff hdecode,
      fun key => Sec1.read_eq_ok_iff hdecode, fun hpoint => ?_, fun honly => ⟨?_, fun key hkey => ?_⟩⟩
    · exact Sec1.unambiguous_of_curve hdecode fun own other hown hother =>
        hother.curve_eq_of_point hown hpoint
    · refine Sec1.unambiguous_of_curve hdecode fun own other hown hother => ?_
      exact Ecdsa.Curve.identifier_injective ((honly own hown).trans (honly other hother).symm)
    · obtain ⟨own, rfl, hown, -⟩ := (Sec1.read_eq_ok_iff hdecode).mp hkey
      refine ⟨own.curve, (honly own hown).symm, isOfKind_ecdsa own, fun written hwritten => ?_⟩
      obtain rfl := Option.some.inj (hder.symm.trans hwritten)
      exact .ecdsa own content between hown

/-! ### A text that names another curve -/

/-- The last key on P-256, with all that can be written of it. -/
theorem kinds_and_curves_last :
    ∃ key curve, parse (lastKey.text .sec1) = .ok key ∧ key.IsOfKind (.ecdsa curve) ∧
      Ecdsa.Curve.p256.identifier = curve.identifier ∧
      Unambiguous Ecdsa.Curve.all (Sec1.attempt? (lastKey.text .sec1)) (some key) := by
  have hparts := lastKey.belongsTo_parts
  have hne : Sec1.encode lastKey.parts ≠ [] := Sec1.encode_ne_nil _
  have hencoding : encodingOf (lastKey.text .sec1) = .ok .sec1 :=
    KeyEncoding.encodingOf_armour hne .sec1 .lf
  have hdecode : (KeyEncoding.sec1.armoured? (lastKey.text .sec1)).bind Sec1.decode? =
      some lastKey.parts := by
    rw [Ecdsa.PrivateKey.text, KeyEncoding.armoured?_armour hne, Option.bind_some]
    exact hparts.decode?_encode
  have honly : ∀ own, lastKey.parts.IsOf own → own.curve.identifier = Ecdsa.Curve.p256.identifier := by
    intro own hown
    rw [hparts.eq_of_point rfl hown]
    rfl
  obtain ⟨-, hsec1⟩ := kinds_and_curves (lastKey.text .sec1)
  obtain ⟨-, -, hparse, -, hnamed⟩ := hsec1 hencoding _ _ hdecode rfl
  obtain ⟨hunambiguous, hkind⟩ := hnamed honly
  have hkey : parse (lastKey.text .sec1) = .ok (.ecdsa lastKey) := by
    refine (hparse _).mpr ⟨lastKey, rfl, hparts.isOf, fun other hother => ?_⟩
    rw [hparts.eq_of_point rfl hother]
  obtain ⟨curve, hcurve, hof, -⟩ := hkind _ hkey
  rw [hkey] at hunambiguous
  exact ⟨_, curve, hkey, hof, hcurve, hunambiguous⟩

/-- Parts that name P-384, with a scalar in the width of P-256 and without a point. -/
def misnamedParts : Sec1.Content :=
  ⟨Bytes.ofNat 32 5, some Ecdsa.Curve.p384.identifier, none⟩

/-- The key on a curve that these are parts of. -/
def misnamedKey (curve : Ecdsa.Curve) : Ecdsa.PrivateKey :=
  ⟨curve, 5, by decide, by cases curve <;> decide⟩

def misnamedText : Bytes :=
  KeyEncoding.sec1.armour .lf (Sec1.encode misnamedParts)

theorem isOf_misnamedKey (curve : Ecdsa.Curve) : misnamedParts.IsOf (misnamedKey curve) where
  least := by decide
  most := by cases curve <;> decide
  scalar := Bytes.toNat_ofNat_of_lt (by decide)
  point := by simp [misnamedParts]

/-- **A curve that is named and not read.** The text is accepted by the decoders of all three curves,
and the key is on P-256 though P-384 is named. -/
theorem misnamed_curve :
    encodingOf misnamedText = .ok .sec1 ∧
      (KeyEncoding.sec1.armoured? misnamedText).bind Sec1.decode? = some misnamedParts ∧
      misnamedParts.curve = some Ecdsa.Curve.p384.identifier ∧
      (∀ curve, Sec1.attempt? misnamedText curve = some (.ecdsa (misnamedKey curve))) ∧
      parse misnamedText = .ok (.ecdsa (misnamedKey .p256)) ∧
      (PrivateKey.ecdsa (misnamedKey .p256)).IsOfKind (.ecdsa .p256) := by
  have hne : Sec1.encode misnamedParts ≠ [] := Sec1.encode_ne_nil _
  have hencoding : encodingOf misnamedText = .ok .sec1 :=
    KeyEncoding.encodingOf_armour hne .sec1 .lf
  have hdecode : (KeyEncoding.sec1.armoured? misnamedText).bind Sec1.decode? =
      some misnamedParts := by
    rw [misnamedText, KeyEncoding.armoured?_armour hne, Option.bind_some]
    refine Sec1.decode?_encode ?_ (by decide)
    rintro _ ⟨⟩
    decide
  refine ⟨hencoding, hdecode, rfl, fun curve => ?_, ?_, isOfKind_ecdsa (misnamedKey .p256)⟩
  · rw [Sec1.attempt?_eq_some_iff hdecode]
    exact ⟨misnamedKey curve, rfl, rfl, isOf_misnamedKey curve⟩
  · rw [KeyEncoding.parse_eq_read hencoding, Sec1.read_eq_ok_iff hdecode]
    refine ⟨misnamedKey .p256, rfl, isOf_misnamedKey .p256, fun other _ => ?_⟩
    cases other.curve <;> decide

end RequestSigning
