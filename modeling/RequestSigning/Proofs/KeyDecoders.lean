import RequestSigning.Proofs.KeyLabels
import RequestSigning.Proofs.KeyStructures

/-!
# The decoders of a key

A PKCS#8 block is given to several **decoders** in turn, one for RSA and one for each curve, and a SEC1
block to those for the curves; what one of them refuses goes to the next one. The decoders of PKCS#8
keys compare the identifiers that stand beside the key, so at most one of them accepts, in whatever
order they are tried (`Pkcs8.unambiguous`), and it takes from the block what is written in it
(`Pkcs8.exists_layout_of_read`). Those of SEC1 keys do not compare the curve that is named. Which of
them accept is a matter of the scalar's length and value and of the point (`Sec1.Content.IsOf`), and the
key is the one on the smallest curve (`Sec1.read_eq_ok_iff`).
-/

namespace RequestSigning

open PrivateKey Wire

/-! ### Attempts in some order -/

section

variable {α β : Type} {attempts : List α} {attempt : α → Option β} {result : Option β}

/-- Attempts are **unambiguous** if at most one of them succeeds, and they have one result in whatever
order they are made. -/
structure Unambiguous (attempts : List α) (attempt : α → Option β) (result : Option β) : Prop where
  one : ∀ a ∈ attempts, ∀ b ∈ attempts, (attempt a).isSome → (attempt b).isSome → a = b
  order : ∀ order : List α, order.Perm attempts → order.findSome? attempt = result

/-- Where one attempt at most succeeds, the first success is the only one. -/
theorem findSome?_eq_some_iff_of_one
    (hone : ∀ a ∈ attempts, ∀ b ∈ attempts, (attempt a).isSome → (attempt b).isSome → a = b)
    {b : β} : attempts.findSome? attempt = some b ↔ ∃ a ∈ attempts, attempt a = some b := by
  refine ⟨List.exists_of_findSome?_eq_some, ?_⟩
  rintro ⟨a, hmem, hsuccess⟩
  have hsome : (attempt a).isSome := by rw [hsuccess]; rfl
  cases hfirst : attempts.findSome? attempt with
  | none => simp [List.findSome?_eq_none_iff.mp hfirst a hmem] at hsome
  | some found =>
    obtain ⟨first, hfirstMem, hfound⟩ := List.exists_of_findSome?_eq_some hfirst
    obtain rfl := hone a hmem first hfirstMem hsome (by rw [hfound]; rfl)
    rw [← hfound, hsuccess]

/-- Decoders that never accept together can be tried in any order. -/
theorem unambiguous_of_one
    (hone : ∀ a ∈ attempts, ∀ b ∈ attempts, (attempt a).isSome → (attempt b).isSome → a = b) :
    Unambiguous attempts attempt (attempts.findSome? attempt) where
  one := hone
  order order hperm := by
    have hother : ∀ a ∈ order, ∀ b ∈ order, (attempt a).isSome → (attempt b).isSome → a = b :=
      fun a ha b hb => hone a (hperm.mem_iff.mp ha) b (hperm.mem_iff.mp hb)
    refine Option.ext fun b => ?_
    rw [findSome?_eq_some_iff_of_one hother, findSome?_eq_some_iff_of_one hone]
    simp only [hperm.mem_iff]

end

/-! ### Decoders -/

/-- The curves have different object identifiers. -/
theorem Ecdsa.Curve.identifier_injective {curve other : Curve}
    (h : curve.identifier = other.identifier) : curve = other := by
  revert h
  cases curve <;> cases other <;> decide

/-- A **decoder** of keys, for RSA or for a curve. -/
inductive Decoder
  | rsa
  | ecdsa (curve : Ecdsa.Curve)
  deriving DecidableEq, Repr

namespace Decoder

/-- The decoders of PKCS#8 keys in the order in which they are tried. -/
def all : List Decoder := [rsa, ecdsa .p256, ecdsa .p384, ecdsa .p521]

/-- The content of the identifier of a decoder's algorithm. -/
def algorithm : Decoder → Bytes
  | rsa => Pkcs8.rsaIdentifier
  | ecdsa _ => Pkcs8.curveKeyIdentifier

/-- The element of its parameters. -/
def parameters : Decoder → Bytes
  | rsa => Der.element Der.nullTag []
  | ecdsa curve => Der.element Der.identifierTag curve.identifier

theorem mem_all (decoder : Decoder) : decoder ∈ all := by
  cases decoder with
  | rsa => decide
  | ecdsa curve => cases curve <;> decide

/-- The identifiers tell the decoders apart. -/
theorem eq_of_identifiers {decoder other : Decoder} (halgorithm : decoder.algorithm = other.algorithm)
    (hparameters : decoder.parameters = other.parameters) : decoder = other := by
  have hall : ∀ decoder ∈ all, ∀ other ∈ all, decoder.algorithm = other.algorithm →
      decoder.parameters = other.parameters → decoder = other := by decide
  exact hall _ decoder.mem_all _ other.mem_all halgorithm hparameters

end Decoder

/-- A key is **of the kind** of a decoder: that is its kind, its signatures have the algorithm of that
kind, and its blob starts with the names of that kind and curve. -/
inductive PrivateKey.IsOfKind (key : PrivateKey) : Decoder → Prop
  | rsa (hkind : key.kind = .rsa) (halgorithm : key.algorithm = .rsaSha512)
      (hblob : field (Utf8.encode "ssh-rsa") <+: key.blob) : IsOfKind key .rsa
  | ecdsa (curve : Ecdsa.Curve) (hkind : key.kind = .ecdsa) (halgorithm : key.algorithm = .ecdsaSha512)
      (hblob : field (Utf8.encode ("ecdsa-sha2-" ++ curve.name)) ++ field (Utf8.encode curve.name) <+:
        key.blob) : IsOfKind key (.ecdsa curve)

theorem PrivateKey.isOfKind_rsa (key : Rsa.PrivateKey) : (PrivateKey.rsa key).IsOfKind .rsa :=
  .rsa rfl rfl (blob_rsa key ▸ List.prefix_append _ _)

theorem PrivateKey.isOfKind_ecdsa (key : Ecdsa.PrivateKey) :
    (PrivateKey.ecdsa key).IsOfKind (.ecdsa key.curve) := by
  refine .ecdsa key.curve rfl rfl ?_
  rw [blob, publicKey, Ssh.PublicKey.encode, Ssh.PublicKey.fields, ← List.append_assoc]
  exact List.prefix_append _ _

/-! ### SEC1 keys -/

namespace Sec1

variable {content : Content} {curve : Ecdsa.Curve} {key other : Ecdsa.PrivateKey}

/-- The parts **are of** a key: their scalar is the key's, in 24 bytes up to the width of the field,
and a point that is given is the key's own. -/
structure Content.IsOf (content : Content) (key : Ecdsa.PrivateKey) : Prop where
  least : 24 ≤ content.scalar.length
  most : content.scalar.length ≤ key.curve.size
  scalar : Bytes.toNat content.scalar = key.scalar
  point : ∀ point ∈ content.point,
    point = Ecdsa.uncompressed key.curve (Ecdsa.publicPoint key.curve key.scalar) ∨
      point = Ecdsa.compressed key.curve (Ecdsa.publicPoint key.curve key.scalar)

/-- **Decoders of SEC1 keys.** A decoder accepts the parts of keys on its curve. -/
theorem Content.key?_eq_some_iff :
    content.key? curve = some key ↔ key.curve = curve ∧ content.IsOf key := by
  have hscalar : Ecdsa.PrivateKey.ofScalar? curve (Bytes.toNat content.scalar) = some key ↔
      key.curve = curve ∧ Bytes.toNat content.scalar = key.scalar := by
    rw [Ecdsa.PrivateKey.ofScalar?]
    constructor
    · intro h
      split_ifs at h
      obtain rfl := Option.some.inj h
      exact ⟨rfl, rfl⟩
    · rintro ⟨rfl, hvalue⟩
      rw [hvalue]
      exact key.ofScalar?_scalar
  constructor
  · intro h
    rw [Content.key?] at h
    have hsize : ¬(content.scalar.length < 24 ∨ curve.size < content.scalar.length) := by
      intro hout
      dsimp only at h
      rw [if_pos hout] at h
      cases h
    dsimp only at h
    rw [if_neg hsize] at h
    obtain ⟨found, hfound, h⟩ := Option.bind_eq_some_iff.mp h
    have hown : found = key ∧ ∀ point ∈ content.point,
        point = Ecdsa.uncompressed curve (Ecdsa.publicPoint curve found.scalar) ∨
          point = Ecdsa.compressed curve (Ecdsa.publicPoint curve found.scalar) := by
      cases hpoint : content.point with
      | none =>
        rw [hpoint] at h
        exact ⟨Option.some.inj h, by simp⟩
      | some point =>
        rw [hpoint] at h
        obtain ⟨hpoint, h⟩ := Option.ite_none_right_eq_some.mp (h :)
        exact ⟨Option.some.inj h, by rintro _ ⟨⟩; exact hpoint⟩
    obtain ⟨rfl, hpoint⟩ := hown
    obtain ⟨rfl, hvalue⟩ := hscalar.mp hfound
    rw [not_or, Nat.not_lt, Nat.not_lt] at hsize
    exact ⟨rfl, hsize.1, hsize.2, hvalue, hpoint⟩
  · rintro ⟨rfl, hleast, hmost, hvalue, hpoint⟩
    have hsize : ¬(content.scalar.length < 24 ∨ key.curve.size < content.scalar.length) := by
      omega
    rw [Content.key?]
    simp only [if_neg hsize, hscalar.mpr ⟨rfl, hvalue⟩, Option.bind_eq_bind, Option.bind_some]
    cases hgiven : content.point with
    | none => rfl
    | some point => exact if_pos (hpoint point hgiven)

/-- On one curve a content is of one key. -/
theorem Content.IsOf.eq_of_curve (h : content.IsOf key) (hother : content.IsOf other)
    (hcurve : other.curve = key.curve) : other = key := by
  obtain ⟨curve, scalar, hpos, hlt⟩ := key
  obtain ⟨otherCurve, otherScalar, hotherPos, hotherLt⟩ := other
  obtain rfl : otherCurve = curve := hcurve
  obtain rfl : otherScalar = scalar := hother.scalar.symm.trans h.scalar
  rfl

/-- A point is as long as its form and its curve say, and no two forms on two curves have one length. -/
theorem Content.IsOf.curve_eq_of_point (h : content.IsOf key) (hother : content.IsOf other)
    (hpoint : content.point.isSome) : other.curve = key.curve := by
  obtain ⟨point, hpoint⟩ := Option.isSome_iff_exists.mp hpoint
  have hlength : ∀ own : Ecdsa.PrivateKey, content.IsOf own →
      point.length = 2 * own.curve.size + 1 ∨ point.length = own.curve.size + 1 := by
    intro own hown
    rcases hown.point point hpoint with rfl | rfl
    · exact .inl (Ecdsa.length_uncompressed _ _)
    · exact .inr (Ecdsa.length_compressed _ _)
  have hkey := hlength key h
  have hotherKey := hlength other hother
  cases hcurve : key.curve <;> cases hotherCurve : other.curve <;>
    simp only [hcurve, hotherCurve, Ecdsa.Curve.size] at hkey hotherKey ⊢ <;> omega

/-- The key that the parts give is on the smallest curve with a key that they are of. -/
theorem Content.findSome?_key?_eq_some_iff :
    Ecdsa.Curve.all.findSome? content.key? = some key ↔
      content.IsOf key ∧ ∀ other, content.IsOf other → key.curve.size ≤ other.curve.size := by
  constructor
  · intro h
    obtain ⟨before, curve, behind, hall, hkey, hbefore⟩ := List.findSome?_eq_some_iff.mp h
    obtain ⟨rfl, hof⟩ := key?_eq_some_iff.mp hkey
    refine ⟨hof, fun other hother => Nat.not_lt.mp fun hsmaller => ?_⟩
    -- a smaller curve stands before this one, where nothing was accepted
    have hsorted : Ecdsa.Curve.all.Pairwise fun first second => first.size < second.size := by
      decide
    have hmem : other.curve ∈ Ecdsa.Curve.all := by
      cases other.curve <;> decide
    rw [hall] at hsorted hmem
    obtain ⟨-, hlater, -⟩ := List.pairwise_append.mp hsorted
    rw [List.mem_append, List.mem_cons] at hmem
    rcases hmem with hearlier | hsame | hlast
    · have hnone := hbefore _ hearlier
      rw [key?_eq_some_iff.mpr ⟨rfl, hother⟩] at hnone
      contradiction
    · exact absurd (congrArg Ecdsa.Curve.size hsame) (Nat.ne_of_lt hsmaller)
    · exact absurd ((List.pairwise_cons.mp hlater).1 _ hlast) (Nat.not_lt.mpr hsmaller.le)
  · rintro ⟨hof, hfirst⟩
    refine Ecdsa.Curve.findSome?_all (key?_eq_some_iff.mpr ⟨rfl, hof⟩) fun curve hsize => ?_
    refine Option.eq_none_iff_forall_ne_some.mpr fun other hother => ?_
    obtain ⟨rfl, hof⟩ := key?_eq_some_iff.mp hother
    exact absurd (hfirst other hof) (Nat.not_le.mpr hsize)

/-- The key that the decoder of a curve takes from a text. -/
def attempt? (text : Bytes) (curve : Ecdsa.Curve) : Option PrivateKey :=
  ((KeyEncoding.sec1.armoured? text).bind (key? curve)).map .ecdsa

variable {text : Bytes}

/-- A SEC1 text is tried on the curves in turn, and the first that accepts it gives the key. -/
theorem toOption_read (text : Bytes) :
    (KeyEncoding.sec1.read text).toOption = Ecdsa.Curve.all.findSome? (attempt? text) := by
  have hattempt : attempt? text = fun curve =>
      ((KeyEncoding.sec1.armoured? text).bind (key? curve)).map PrivateKey.ecdsa := rfl
  rw [hattempt, KeyEncoding.read.eq_def]
  cases KeyEncoding.sec1.armoured? text with
  | none => rfl
  | some der =>
    have hall : (Ecdsa.Curve.all.findSome? fun curve => (key? curve der).map PrivateKey.ecdsa) =
        (anyKey? der).map PrivateKey.ecdsa := List.map_findSome?.symm
    simp only [Option.bind_some, hall]
    cases anyKey? der <;> rfl

/-- A curve accepts a content exactly when the content is of a key on it. -/
theorem attempt?_eq_some_iff
    (hdecode : (KeyEncoding.sec1.armoured? text).bind decode? = some content) {key : PrivateKey} :
    attempt? text curve = some key ↔
      ∃ own : Ecdsa.PrivateKey, key = .ecdsa own ∧ own.curve = curve ∧ content.IsOf own := by
  obtain ⟨der, hder, hdecode⟩ := Option.bind_eq_some_iff.mp hdecode
  rw [attempt?, hder, Option.bind_some, key?, hdecode, Option.map_eq_some_iff]
  simp only [Option.bind_eq_bind, Option.bind_some, Content.key?_eq_some_iff]
  constructor
  · rintro ⟨own, hown, rfl⟩
    exact ⟨own, rfl, hown⟩
  · rintro ⟨own, rfl, hown⟩
    exact ⟨own, hown, rfl⟩

/-- The curve that wins is the smallest of those that accept. -/
theorem read_eq_ok_iff
    (hdecode : (KeyEncoding.sec1.armoured? text).bind decode? = some content) {key : PrivateKey} :
    KeyEncoding.sec1.read text = .ok key ↔ ∃ own : Ecdsa.PrivateKey, key = .ecdsa own ∧
      content.IsOf own ∧ ∀ other, content.IsOf other → own.curve.size ≤ other.curve.size := by
  obtain ⟨der, hder, hdecode⟩ := Option.bind_eq_some_iff.mp hdecode
  have hattempt : attempt? text = Option.map PrivateKey.ecdsa ∘ content.key? := by
    funext curve
    rw [attempt?, hder, Option.bind_some, key?, hdecode]
    rfl
  rw [← Wire.toOption_eq_some_iff, toOption_read, hattempt, ← List.map_findSome?,
    Option.map_eq_some_iff]
  simp only [Content.findSome?_key?_eq_some_iff]
  constructor
  · rintro ⟨own, hown, rfl⟩
    exact ⟨own, rfl, hown⟩
  · rintro ⟨own, rfl, hown⟩
    exact ⟨own, hown, rfl⟩

/-- Where all that the parts are of is on one curve, the decoders are unambiguous. -/
theorem unambiguous_of_curve
    (hdecode : (KeyEncoding.sec1.armoured? text).bind decode? = some content)
    (hcurve : ∀ own other : Ecdsa.PrivateKey, content.IsOf own → content.IsOf other →
      own.curve = other.curve) :
    Unambiguous Ecdsa.Curve.all (attempt? text) (KeyEncoding.sec1.read text).toOption := by
  rw [toOption_read]
  refine unambiguous_of_one fun first _ second _ hfirst hsecond => ?_
  obtain ⟨key, hkey⟩ := Option.isSome_iff_exists.mp hfirst
  obtain ⟨other, hother⟩ := Option.isSome_iff_exists.mp hsecond
  obtain ⟨own, -, rfl, hown⟩ := (attempt?_eq_some_iff hdecode).mp hkey
  obtain ⟨otherOwn, -, rfl, hotherOwn⟩ := (attempt?_eq_some_iff hdecode).mp hother
  exact hcurve own otherOwn hown hotherOwn

end Sec1

/-! ### PKCS#8 keys -/

/-- A key **is written in** bytes: they are its numbers in PKCS#1, or its scalar and what goes with it
in SEC1. -/
inductive PrivateKey.WrittenIn : PrivateKey → Bytes → Prop
  | rsa (key : Rsa.PrivateKey) (aids : Pkcs1.Aids) :
    WrittenIn (.rsa key) (Pkcs1.encode key.toNumbers aids)
  | ecdsa (key : Ecdsa.PrivateKey) (content : Sec1.Content) (between : Bytes)
      (hcontent : content.IsOf key) : WrittenIn (.ecdsa key) (Sec1.layout content between)

/-- A key that was read stands in the bytes, and is on the curve asked for. -/
theorem PrivateKey.writtenIn_of_key? {curve : Ecdsa.Curve} {bytes : Bytes} {key : Ecdsa.PrivateKey}
    (h : Sec1.key? curve bytes = some key) :
    key.curve = curve ∧ (PrivateKey.ecdsa key).WrittenIn bytes := by
  obtain ⟨content, hcontent, hkey⟩ := Option.bind_eq_some_iff.mp h
  obtain ⟨hcurve, hof⟩ := Sec1.Content.key?_eq_some_iff.mp hkey
  obtain ⟨between, rfl⟩ := Sec1.exists_layout_of_decode? hcontent
  exact ⟨hcurve, .ecdsa key content between hof⟩

namespace Pkcs8

variable {content : Content} {text : Bytes} {decoder : Decoder} {key : PrivateKey}

/-- The key that a decoder takes from the parts. -/
def Content.attempt? (content : Content) : Decoder → Option PrivateKey
  | .rsa => content.rsaKey?.map .rsa
  | .ecdsa curve => (content.curveKey? curve).map .ecdsa

/-- **Decoders of PKCS#8 keys.** A decoder accepts the parts only if they name its kind and curve, and
then takes from them what is written in them. -/
theorem Content.attempt?_eq_some (h : content.attempt? decoder = some key) :
    content.algorithm = decoder.algorithm ∧ content.parameters = some decoder.parameters ∧
      key.IsOfKind decoder ∧ key.WrittenIn content.key := by
  cases decoder with
  | rsa =>
    obtain ⟨own, hown, rfl⟩ := Option.map_eq_some_iff.mp h
    rw [rsaKey?, Option.ite_none_right_eq_some] at hown
    obtain ⟨⟨halgorithm, hparameters⟩, hkey⟩ := hown
    obtain ⟨aids, haids⟩ := Pkcs1.exists_encode_of_key? hkey
    exact ⟨halgorithm, hparameters, isOfKind_rsa own, haids ▸ .rsa own aids⟩
  | ecdsa curve =>
    obtain ⟨own, hown, rfl⟩ := Option.map_eq_some_iff.mp h
    rw [curveKey?, Option.ite_none_right_eq_some] at hown
    obtain ⟨⟨halgorithm, hparameters⟩, hkey⟩ := hown
    obtain ⟨rfl, hwritten⟩ := writtenIn_of_key? hkey
    exact ⟨halgorithm, hparameters, isOfKind_ecdsa own, hwritten⟩

/-- The parts that two decoders accept name both, so the decoders are one. -/
theorem Content.decoder_eq {other : Decoder} (h : (content.attempt? decoder).isSome)
    (hother : (content.attempt? other).isSome) : decoder = other := by
  obtain ⟨key, hkey⟩ := Option.isSome_iff_exists.mp h
  obtain ⟨otherKey, hotherKey⟩ := Option.isSome_iff_exists.mp hother
  obtain ⟨halgorithm, hparameters, -⟩ := attempt?_eq_some hkey
  obtain ⟨hotherAlgorithm, hotherParameters, -⟩ := attempt?_eq_some hotherKey
  refine Decoder.eq_of_identifiers (halgorithm.symm.trans hotherAlgorithm) ?_
  exact Option.some.inj (hparameters.symm.trans hotherParameters)

theorem Content.anyKey?_eq (content : Content) :
    content.anyKey? = Decoder.all.findSome? content.attempt? := by
  have hcurves : (Ecdsa.Curve.all.findSome? content.curveKey?).map PrivateKey.ecdsa =
      Ecdsa.Curve.all.findSome? fun curve => content.attempt? (.ecdsa curve) :=
    List.map_findSome?
  have hall : Decoder.all = .rsa :: Ecdsa.Curve.all.map .ecdsa := rfl
  rw [anyKey?, hall, List.findSome?_cons, List.findSome?_map, attempt?]
  cases content.rsaKey? with
  | none => exact hcurves
  | some key => rfl

/-- The key that a decoder takes from a text. -/
def attempt? (text : Bytes) (decoder : Decoder) : Option PrivateKey :=
  ((KeyEncoding.pkcs8.armoured? text).bind decode?).bind fun content => content.attempt? decoder

/-- A PKCS#8 text is offered to each decoder in turn. -/
theorem toOption_read (text : Bytes) :
    (KeyEncoding.pkcs8.read text).toOption = Decoder.all.findSome? (attempt? text) := by
  have hattempt : attempt? text = fun decoder => ((KeyEncoding.pkcs8.armoured? text).bind
      decode?).bind fun content => content.attempt? decoder := rfl
  have hread : (KeyEncoding.pkcs8.read text).toOption =
      ((KeyEncoding.pkcs8.armoured? text).bind decode?).bind Content.anyKey? := by
    rw [KeyEncoding.read.eq_def, Option.bind_assoc]
    have hkey : (KeyEncoding.pkcs8.armoured? text).bind key? =
        (KeyEncoding.pkcs8.armoured? text).bind fun der => (decode? der).bind Content.anyKey? := rfl
    dsimp only
    rw [← hkey]
    cases (KeyEncoding.pkcs8.armoured? text).bind key? <;> rfl
  rw [hread, hattempt]
  cases (KeyEncoding.pkcs8.armoured? text).bind decode? with
  | none => rfl
  | some content => exact content.anyKey?_eq

/-- The algorithm and its parameters single out one decoder, so the order does not matter. -/
theorem unambiguous (text : Bytes) :
    Unambiguous Decoder.all (attempt? text) (KeyEncoding.pkcs8.read text).toOption := by
  rw [toOption_read]
  refine unambiguous_of_one fun decoder _ other _ h hother => ?_
  rw [attempt?] at h hother
  cases hcontent : (KeyEncoding.pkcs8.armoured? text).bind decode? with
  | none => simp [hcontent] at h
  | some content =>
    rw [hcontent] at h hother
    exact Content.decoder_eq h hother

/-- A PKCS#8 key was laid out with its decoder's algorithm and parameters in front of it. -/
theorem exists_layout_of_read (h : KeyEncoding.pkcs8.read text = .ok key) :
    ∃ decoder version content behind,
      KeyEncoding.pkcs8.armoured? text = some (layout version content behind) ∧
      content.algorithm = decoder.algorithm ∧ content.parameters = some decoder.parameters ∧
      key.IsOfKind decoder ∧ key.WrittenIn content.key := by
  rw [← Wire.toOption_eq_some_iff, toOption_read] at h
  obtain ⟨decoder, -, hkey⟩ := List.exists_of_findSome?_eq_some h
  obtain ⟨content, hcontent, hkey⟩ := Option.bind_eq_some_iff.mp hkey
  obtain ⟨der, hder, hdecode⟩ := Option.bind_eq_some_iff.mp hcontent
  obtain ⟨version, behind, rfl⟩ := exists_layout_of_decode? hdecode
  exact ⟨decoder, version, content, behind, hder, Content.attempt?_eq_some hkey⟩

end Pkcs8

end RequestSigning
