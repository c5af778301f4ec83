import RequestSigning.Agent.Message
import RequestSigning.Proofs.CurveKeyFiles
import RequestSigning.Proofs.CurvePoints
import RequestSigning.Proofs.PublicKeyBlob
import RequestSigning.Proofs.RsaTexts

/-!
# Public halves

The **public half** of a key is a pair of numbers, the public exponent and the modulus, or a curve and an
affine point on it, the multiple of the base point by the key's scalar
(`PrivateKey.publicHalf_ecdsa`). A key's blob tells its public half from all others
(`PrivateKey.blob_eq_iff`), and an agent's identity with that blob decodes it, as what it is
(`PrivateKey.blob_read_by_agent`). `Ssh.PublicKey.half?` takes a decoded key apart by readers of its own,
for an integer in its shortest form and for a point with both coordinates.

The point is given by the triples that the program multiplies, and by the group of points as well,
so that the statement does not depend on the arithmetic which makes the blob.
-/

namespace RequestSigning

open Wire

/-- The **public half** of a key that can sign. -/
inductive PublicHalf
  | rsa (e n : Nat)
  | ecdsa (curve : Ecdsa.Curve) (point : Nat × Nat)
  deriving DecidableEq, Repr

/-- What the type of a public half is called. -/
def PublicHalf.typeName : PublicHalf → String
  | .rsa .. => "ssh-rsa"
  | .ecdsa .p256 _ => "ecdsa-sha2-nistp256"
  | .ecdsa .p384 _ => "ecdsa-sha2-nistp384"
  | .ecdsa .p521 _ => "ecdsa-sha2-nistp521"

/-- The public half of a private key. -/
def PrivateKey.publicHalf : PrivateKey → PublicHalf
  | .rsa key => .rsa key.e key.n
  | .ecdsa key => .ecdsa key.curve (Ecdsa.publicPoint key.curve key.scalar)

/-- The point of a key on a curve is the multiple of the base point by the key's scalar. -/
theorem PrivateKey.publicHalf_ecdsa (key : Ecdsa.PrivateKey) : (PrivateKey.ecdsa key).publicHalf =
    .ecdsa key.curve (Ecdsa.coordinates (key.scalar • key.curve.generator)) := by
  rw [publicHalf, Ecdsa.publicPoint_eq]

/-! ### Points -/

namespace Ecdsa

variable {curve : Curve}

/-- The coordinates in the encoded form of a point that has both. -/
def coordinates? (curve : Curve) : Bytes → Option (Nat × Nat)
  | tag :: rest =>
    if tag = 0x04 ∧ rest.length = 2 * curve.size then
      some (Bytes.toNat (rest.take curve.size), Bytes.toNat (rest.drop curve.size))
    else none
  | [] => none

theorem Curve.prime_lt (curve : Curve) : curve.prime < 256 ^ curve.size := by
  cases curve <;> decide +kernel

theorem Curve.prime_pos (curve : Curve) : 0 < curve.prime := by
  cases curve <;> decide +kernel

/-- The coordinates of a public point fit their bytes, being reduced. -/
theorem publicPoint_lt (curve : Curve) (scalar : Nat) :
    (publicPoint curve scalar).1 < 256 ^ curve.size ∧
      (publicPoint curve scalar).2 < 256 ^ curve.size :=
  ⟨(Nat.mod_lt _ curve.prime_pos).trans curve.prime_lt,
    (Nat.mod_lt _ curve.prime_pos).trans curve.prime_lt⟩

/-- Coordinates that fit in the width of the field are read back. -/
theorem coordinates?_uncompressed {point : Nat × Nat}
    (h : point.1 < 256 ^ curve.size ∧ point.2 < 256 ^ curve.size) :
    coordinates? curve (uncompressed curve point) = some point := by
  have hlength : (Bytes.ofNat curve.size point.1 ++ Bytes.ofNat curve.size point.2).length =
      2 * curve.size := by
    rw [List.length_append, Bytes.length_ofNat, Bytes.length_ofNat, two_mul]
  rw [uncompressed, coordinates?, if_pos ⟨rfl, hlength⟩,
    List.take_left' (Bytes.length_ofNat _ _), List.drop_left' (Bytes.length_ofNat _ _),
    Bytes.toNat_ofNat_of_lt h.1, Bytes.toNat_ofNat_of_lt h.2]

/-- The uncompressed form loses nothing of coordinates that fit. -/
theorem uncompressed_injective {point other : Nat × Nat}
    (hpoint : point.1 < 256 ^ curve.size ∧ point.2 < 256 ^ curve.size)
    (hother : other.1 < 256 ^ curve.size ∧ other.2 < 256 ^ curve.size)
    (h : uncompressed curve point = uncompressed curve other) : point = other := by
  have hread := coordinates?_uncompressed hpoint
  rw [h, coordinates?_uncompressed hother] at hread
  exact (Option.some.inj hread).symm

end Ecdsa

/-! ### Decoded keys -/

/-- The public half in a decoded key, if it is of a kind that can sign. -/
def Ssh.PublicKey.half? : Ssh.PublicKey → Option PublicHalf
  | .rsa e n => do
    let e ← Ssh.unsigned? e
    let n ← Ssh.unsigned? n
    some (.rsa e n)
  | .ecdsa curve point => (Ecdsa.coordinates? curve point).map (.ecdsa curve)
  | _ => none

namespace PrivateKey

/-- The public half read off a key's public key is the key's own. -/
theorem half?_publicKey (key : PrivateKey) : key.publicKey.half? = some key.publicHalf := by
  cases key with
  | rsa key =>
    simp only [publicKey, Ssh.PublicKey.half?, Ssh.unsigned?_integerContent, Option.bind_eq_bind,
      Option.bind_some, publicHalf]
  | ecdsa key =>
    rw [publicKey, Ssh.PublicKey.half?,
      Ecdsa.coordinates?_uncompressed (Ecdsa.publicPoint_lt key.curve key.scalar)]
    rfl

theorem typeName_publicKey (key : PrivateKey) :
    key.publicKey.typeName = key.publicHalf.typeName := by
  cases key with
  | rsa key => rfl
  | ecdsa key =>
    rw [publicKey, publicHalf, Ssh.PublicKey.typeName, Ssh.PublicKey.typeBytes]
    cases key.curve <;> rfl

/-- A blob is decoded to the key's public half, unless the modulus is too long for a field. -/
theorem decode?_blob_publicKey {key : PrivateKey}
    (hshort : ∀ rsa, key = .rsa rsa → Bytes.width rsa.n < maxField) :
    Ssh.PublicKey.decode? key.blob = some key.publicKey := by
  cases key with
  | rsa key => exact decode?_blob (hshort key rfl)
  | ecdsa key =>
    rw [Ssh.PublicKey.decode?, blob, publicKey,
      Ssh.readKey?_ecdsa (Ssh.isPoint_uncompressed key.curve _), Option.map_some]

/-! ### Blobs that determine the public half -/

/-- The blob of an elliptic-curve key: its type, the curve's name and the uncompressed point. -/
theorem blob_ecdsa (key : Ecdsa.PrivateKey) :
    (PrivateKey.ecdsa key).blob = field (Utf8.encode (Ssh.ecdsaTypeName key.curve)) ++
      (field (Utf8.encode key.curve.name) ++
        field (Ecdsa.uncompressed key.curve (Ecdsa.publicPoint key.curve key.scalar))) := rfl

theorem length_typeName_lt (curve : Ecdsa.Curve) :
    (Utf8.encode (Ssh.ecdsaTypeName curve)).length < 2 ^ 32 :=
  (Ssh.length_typeName_le curve).trans_lt (by decide)

theorem length_curveName_lt (curve : Ecdsa.Curve) :
    (Utf8.encode curve.name).length < 2 ^ 32 := by
  cases curve <;> decide

/-- No curve's type is taken for the RSA type. -/
theorem typeName_ne_rsa (curve : Ecdsa.Curve) :
    Utf8.encode (Ssh.ecdsaTypeName curve) ≠ Utf8.encode "ssh-rsa" := by
  cases curve <;> decide

/-- The type of a blob determines the curve. -/
theorem curve_of_typeName {curve other : Ecdsa.Curve}
    (h : Utf8.encode (Ssh.ecdsaTypeName curve) = Utf8.encode (Ssh.ecdsaTypeName other)) :
    curve = other := by
  revert h
  cases curve <;> cases other <;> decide +kernel

/-- The blobs of an RSA key and of a key on a curve differ. -/
theorem blob_rsa_ne_blob_ecdsa (key : Rsa.PrivateKey) (other : Ecdsa.PrivateKey) :
    (PrivateKey.rsa key).blob ≠ (PrivateKey.ecdsa other).blob := by
  intro h
  rw [blob_rsa, blob_ecdsa] at h
  have hnames := (field_append_injective (by decide) (length_typeName_lt other.curve) h).1
  exact typeName_ne_rsa other.curve hnames.symm

/-- An RSA blob determines the modulus and the exponent. -/
theorem publicHalf_eq_of_blob_rsa {key other : Rsa.PrivateKey}
    (h : (PrivateKey.rsa other).blob = (PrivateKey.rsa key).blob) :
    (PrivateKey.rsa other).publicHalf = (PrivateKey.rsa key).publicHalf := by
  -- field by field: the name of the kind, the exponent, the modulus
  have he : ∀ key : Rsa.PrivateKey, (integerContent key.e).length < 2 ^ 32 :=
    fun key => (length_integerContent_e key).trans_lt (by decide)
  rw [blob_rsa, blob_rsa, List.append_nil, List.append_nil] at h
  obtain ⟨-, hnumbers⟩ := field_append_injective (by decide) (by decide) h
  obtain ⟨hexponent, hmodulus⟩ := field_append_injective (he other) (he key) hnumbers
  rw [publicHalf, publicHalf, integerContent_injective hexponent,
    integerContent_injective (field_injective hmodulus)]

/-- An elliptic-curve blob determines the curve and the point. -/
theorem publicHalf_eq_of_blob_ecdsa {key other : Ecdsa.PrivateKey}
    (h : (PrivateKey.ecdsa other).blob = (PrivateKey.ecdsa key).blob) :
    (PrivateKey.ecdsa other).publicHalf = (PrivateKey.ecdsa key).publicHalf := by
  rw [blob_ecdsa, blob_ecdsa] at h
  obtain ⟨hcurve, hrest⟩ :=
    field_append_injective (length_typeName_lt other.curve) (length_typeName_lt key.curve) h
  obtain ⟨-, hpoint⟩ :=
    field_append_injective (length_curveName_lt other.curve) (length_curveName_lt key.curve) hrest
  have hpoints := field_injective hpoint
  -- the type names the curve, and on one curve the points have one width
  have hsame : other.curve = key.curve := curve_of_typeName hcurve
  rw [publicHalf, publicHalf]
  rw [hsame] at hpoints ⊢
  rw [Ecdsa.uncompressed_injective (Ecdsa.publicPoint_lt _ _) (Ecdsa.publicPoint_lt _ _) hpoints]

/-- **Blobs.** Keys have one blob exactly if they have one public half. -/
theorem blob_eq_iff {key other : PrivateKey} :
    other.blob = key.blob ↔ other.publicHalf = key.publicHalf := by
  cases key with
  | rsa key =>
    cases other with
    | rsa other =>
      refine ⟨publicHalf_eq_of_blob_rsa, fun h => ?_⟩
      obtain ⟨he, hn⟩ := PublicHalf.rsa.inj h
      rw [blob_rsa, blob_rsa, he, hn]
    | ecdsa other =>
      exact iff_of_false (blob_rsa_ne_blob_ecdsa key other).symm PublicHalf.noConfusion
  | ecdsa key =>
    cases other with
    | rsa other => exact iff_of_false (blob_rsa_ne_blob_ecdsa other key) PublicHalf.noConfusion
    | ecdsa other =>
      refine ⟨publicHalf_eq_of_blob_ecdsa, fun h => ?_⟩
      obtain ⟨hcurve, hpoint⟩ := PublicHalf.ecdsa.inj h
      rw [blob_ecdsa, blob_ecdsa, hpoint, hcurve]

/-- **Descriptions.** Nothing but the public half shows in the description of a key. -/
theorem summary_congr {key other : PrivateKey} (h : other.publicHalf = key.publicHalf) :
    other.summary = key.summary := by
  have hblob : other.blob = key.blob := blob_eq_iff.mpr h
  have hfingerprint : other.fingerprint = key.fingerprint := congrArg Fingerprint.ofBlob hblob
  cases key with
  | rsa key =>
    cases other with
    | rsa other =>
      unfold summary
      rw [hfingerprint]
    | ecdsa other => exact absurd h PublicHalf.noConfusion
  | ecdsa key =>
    cases other with
    | rsa other => exact absurd h PublicHalf.noConfusion
    | ecdsa other =>
      unfold summary
      rw [hfingerprint]

/-! ### What an agent decodes -/

/-- **What an agent decodes.** For every key whose modulus, if it has one, has less than 2¹⁹ bytes, an
agent's identity with the key's blob has the public half of the key, the name of its type and its
fingerprint; the decoded key is encoded to the blob again; and only keys with the same public half
have that blob. The public half of a key on a curve is the multiple of the curve's base point by the
key's scalar. -/
theorem blob_read_by_agent (key : PrivateKey)
    (hshort : ∀ rsa, key = .rsa rsa → Bytes.width rsa.n < 2 ^ 19) (comment : String) :
    let identity : Agent.Identity := ⟨key.blob, comment⟩
    identity.publicKey?.bind Ssh.PublicKey.half? = some key.publicHalf ∧
      identity.keyType? = some key.publicHalf.typeName ∧
      identity.fingerprint = key.fingerprint ∧
      identity.publicKey?.map Ssh.PublicKey.encode = some key.blob ∧
      (∀ other : PrivateKey, other.blob = key.blob ↔ other.publicHalf = key.publicHalf) ∧
      ∀ ecdsa, key = .ecdsa ecdsa → key.publicHalf =
        .ecdsa ecdsa.curve (Ecdsa.coordinates (ecdsa.scalar • ecdsa.curve.generator)) := by
  intro identity
  have hread : identity.publicKey? = some key.publicKey :=
    decode?_blob_publicKey fun rsa hrsa => (hshort rsa hrsa).trans (by decide)
  refine ⟨?_, ?_, rfl, ?_, fun other => blob_eq_iff, ?_⟩
  · rw [hread, Option.bind_some, half?_publicKey]
  · rw [Agent.Identity.keyType?, hread, Option.map_some, typeName_publicKey]
  · rw [hread]
    rfl
  · rintro ecdsa rfl
    exact publicHalf_ecdsa ecdsa

/-- The small key, whose modulus is written with a zero byte in front. -/
theorem blob_read_by_agent_small :
    let identity : Agent.Identity := ⟨(PrivateKey.rsa smallKey).blob, "key"⟩
    identity.publicKey?.bind Ssh.PublicKey.half? = some (.rsa 3 253) ∧
      identity.keyType? = some "ssh-rsa" ∧
      identity.fingerprint = (PrivateKey.rsa smallKey).fingerprint := by
  have hshort : ∀ rsa, PrivateKey.rsa smallKey = .rsa rsa → Bytes.width rsa.n < 2 ^ 19 := by
    rintro rsa ⟨⟩
    decide
  obtain ⟨hhalf, htype, hfingerprint, -⟩ := blob_read_by_agent (.rsa smallKey) hshort "key"
  exact ⟨hhalf, htype, hfingerprint⟩

end PrivateKey

end RequestSigning
