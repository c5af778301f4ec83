import RequestSigning.Proofs.CurveKeyFiles
import RequestSigning.Proofs.RsaTexts

/-!
# The texts of a key on a curve

A key on a curve can be written as a text in three encodings. Two of them have the scalar in the width
of the field, the third as an integer in its shortest form. `Ecdsa.PrivateKey.WrittenAs` lists these
texts, and `ecdsa_texts_parse` says for every key which of them are read: all that are read give the
key itself, and what is refused are exactly the OpenSSH texts of a scalar whose double is shorter than
the field. `ecdsa_encodings_differ` has such a key.
-/

namespace RequestSigning

open Wire

/-- A key on a curve **is written as** a text in an encoding: the text is the armour of parts that
belong to the key, or of the key with any check number and a comment that is text and no longer than
what is read. -/
inductive Ecdsa.PrivateKey.WrittenAs (key : Ecdsa.PrivateKey) : KeyEncoding → Bytes → Prop
  | sec1 (eol : Pem.LineEnd) (content : Sec1.Content) (hcontent : content.BelongsTo key) :
      WrittenAs key .sec1 (KeyEncoding.sec1.armour eol (Sec1.encode content))
  | pkcs8 (eol : Pem.LineEnd) (content : Sec1.Content) (hcontent : content.BelongsTo key) :
      WrittenAs key .pkcs8
        (KeyEncoding.pkcs8.armour eol (Pkcs8.encode (Pkcs8.curveContent key.curve content)))
  | openSsh (eol : Pem.LineEnd) (check : Nat) (comment : Bytes)
      (htext : (Utf8.decode? comment).isSome)
      (hlength : (OpenSsh.curveSection key check comment).length ≤ maxField) :
      WrittenAs key .openSsh
        (KeyEncoding.openSsh.armour eol (OpenSsh.encodeCurve key check comment))

variable {key : Ecdsa.PrivateKey} {encoding : KeyEncoding}

/-- A text that a key is written as is parsed as the key, unless it is an OpenSSH text of a scalar
that is too short for it. -/
theorem Ecdsa.PrivateKey.WrittenAs.parse {text : Bytes} (h : key.WrittenAs encoding text) :
    PrivateKey.parse text =
      if encoding = .openSsh ∧ 2 * key.scalar < 256 ^ (key.curve.size - 1) then
        .error .malformedBlock
      else .ok (.ecdsa key) := by
  cases h with
  | sec1 eol content hcontent =>
    rw [KeyEncoding.parse_sec1 (Sec1.encode_ne_nil _), Sec1.anyKey?_encode hcontent,
      if_neg fun hboth => nomatch hboth.1]
    rfl
  | pkcs8 eol content hcontent =>
    rw [KeyEncoding.parse_pkcs8 (Pkcs8.encode_ne_nil _), Pkcs8.key?_encode_curve hcontent,
      if_neg fun hboth => nomatch hboth.1]
    rfl
  | openSsh eol check comment htext hlength =>
    rw [KeyEncoding.parse_openSsh (OpenSsh.encodeCurve_ne_nil _ _ _),
      OpenSsh.key_encodeCurve hlength htext]
    simp only [true_and]

/-- **The encodings of a key on a curve.** Every text the key is written as gives the key itself,
except that an OpenSSH text is refused if the scalar's double is shorter than the field. The blob of
the key is made of the curve's name and the uncompressed point of the scalar. -/
theorem ecdsa_texts_parse (key : Ecdsa.PrivateKey) :
    (∀ encoding text, key.WrittenAs encoding text → (parseKey text).value =
      if encoding = .openSsh ∧ 2 * key.scalar < 256 ^ (key.curve.size - 1) then
        .error (.keyParse .malformedBlock)
      else .ok (.ecdsa key)) ∧
    (PrivateKey.ecdsa key).kind = .ecdsa ∧
    (PrivateKey.ecdsa key).blob = field (Utf8.encode ("ecdsa-sha2-" ++ key.curve.name)) ++
      (field (Utf8.encode key.curve.name) ++
        field (Ecdsa.uncompressed key.curve (Ecdsa.publicPoint key.curve key.scalar))) := by
  refine ⟨fun encoding text hwritten => ?_, rfl, rfl⟩
  rw [value_parseKey, hwritten.parse]
  split_ifs <;> rfl

/-! ### Two keys -/

/-- All that can be written of a key. -/
def Ecdsa.PrivateKey.parts (key : Ecdsa.PrivateKey) : Sec1.Content :=
  ⟨Bytes.ofNat key.curve.size key.scalar, some key.curve.identifier,
    some (Ecdsa.uncompressed key.curve (Ecdsa.publicPoint key.curve key.scalar))⟩

theorem Ecdsa.PrivateKey.belongsTo_parts (key : Ecdsa.PrivateKey) : key.parts.BelongsTo key where
  scalar := rfl
  curve _ hname := (Option.some.inj hname).symm
  point _ hpoint := .inl (Option.some.inj hpoint).symm

/-- A key in the three encodings, without a comment. -/
def Ecdsa.PrivateKey.text (key : Ecdsa.PrivateKey) : KeyEncoding → Bytes
  | .sec1 => KeyEncoding.sec1.armour .lf (Sec1.encode key.parts)
  | .pkcs8 => KeyEncoding.pkcs8.armour .lf (Pkcs8.encode (Pkcs8.curveContent key.curve key.parts))
  | .openSsh => KeyEncoding.openSsh.armour .lf (OpenSsh.encodeCurve key 0 [])
  | .pkcs1 => []

theorem Ecdsa.PrivateKey.writtenAs_text (key : Ecdsa.PrivateKey) (encoding : KeyEncoding)
    (h : encoding ≠ .pkcs1) : key.WrittenAs encoding (key.text encoding) := by
  cases encoding with
  | sec1 => exact .sec1 _ _ key.belongsTo_parts
  | pkcs8 => exact .pkcs8 _ _ key.belongsTo_parts
  | openSsh =>
    have hempty : (Utf8.decode? []).isSome := by
      rw [Utf8.decode?_of_ascii (by simp)]
      rfl
    exact .openSsh _ _ _ hempty ((OpenSsh.length_curveSection_le key 0 []).trans (by decide))
  | pkcs1 => exact absurd rfl h

/-- The last key on P-256. -/
def lastKey : Ecdsa.PrivateKey := ⟨.p256, Ecdsa.Curve.p256.order - 1, by decide, by decide⟩

theorem ecdsa_texts_parse_last :
    (parseKey (lastKey.text .sec1)).value = .ok (.ecdsa lastKey) ∧
      (parseKey (lastKey.text .pkcs8)).value = .ok (.ecdsa lastKey) ∧
      (parseKey (lastKey.text .openSsh)).value = .ok (.ecdsa lastKey) := by
  obtain ⟨hparse, -, -⟩ := ecdsa_texts_parse lastKey
  have hlong : ¬2 * lastKey.scalar < 256 ^ (lastKey.curve.size - 1) := by decide
  simp only [hlong, and_false, if_false] at hparse
  refine ⟨hparse .sec1 _ (lastKey.writtenAs_text .sec1 ?_),
    hparse .pkcs8 _ (lastKey.writtenAs_text .pkcs8 ?_),
    hparse .openSsh _ (lastKey.writtenAs_text .openSsh ?_)⟩ <;> decide

/-- The largest key on P-521 that is too short for an OpenSSH text. -/
def shortKey : Ecdsa.PrivateKey :=
  ⟨.p521, 0x7F * 256 ^ 64 + (256 ^ 64 - 1), by decide +kernel, by decide +kernel⟩

/-- **The encodings do not agree.** The OpenSSH text of a key is refused though its other texts are
read. -/
theorem ecdsa_encodings_differ :
    (parseKey (shortKey.text .sec1)).value = .ok (.ecdsa shortKey) ∧
      (parseKey (shortKey.text .pkcs8)).value = .ok (.ecdsa shortKey) ∧
      (parseKey (shortKey.text .openSsh)).value = .error (.keyParse .malformedBlock) := by
  have hshort : 2 * shortKey.scalar < 256 ^ (shortKey.curve.size - 1) := by decide +kernel
  have hsec1 := (shortKey.writtenAs_text .sec1 (by decide)).parse
  have hpkcs8 := (shortKey.writtenAs_text .pkcs8 (by decide)).parse
  have hopenSsh := (shortKey.writtenAs_text .openSsh (by decide)).parse
  rw [if_neg fun hboth => nomatch hboth.1] at hsec1 hpkcs8
  rw [if_pos ⟨rfl, hshort⟩] at hopenSsh
  rw [value_parseKey, value_parseKey, value_parseKey, hsec1, hpkcs8, hopenSsh]
  exact ⟨rfl, rfl, rfl⟩

end RequestSigning
