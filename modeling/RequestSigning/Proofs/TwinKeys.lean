import RequestSigning.Proofs.CommandOutput
import RequestSigning.Proofs.CurvePoints
import RequestSigning.Proofs.PublicHalves
import RequestSigning.Proofs.Rsa

/-!
# Keys with one public half

A blob determines the public half of the key that it is the blob of (`PrivateKey.blob_eq_iff`). On a
curve the point determines the scalar, so only RSA keys have twins with other private numbers. The
signatures of twins have one length (`PrivateKey.Twins.length_sign`), where no random number is drawn
for them.

Twins are what the secrecy of a key is about: an observer who sees the public half and the lengths
of signatures cannot tell one twin from the other. Of a key on a curve the relation asks that it be
the same key, since its private number is determined by the point.
-/

namespace RequestSigning

namespace PrivateKey

/-- Keys that are **twins**: RSA keys with one public half, or the same key on a curve. -/
inductive Twins : PrivateKey → PrivateKey → Prop
  | rsa {key other : Rsa.PrivateKey} (hn : other.n = key.n) (he : other.e = key.e) :
    Twins (.rsa key) (.rsa other)
  | ecdsa (key : Ecdsa.PrivateKey) : Twins (.ecdsa key) (.ecdsa key)

/-- A key's blob tells the key from all but its twins. -/
theorem twins_of_blob {key other : PrivateKey} (h : other.blob = key.blob) : Twins key other := by
  have hhalf := blob_eq_iff.mp h
  cases key with
  | rsa key =>
    cases other with
    | rsa other =>
      obtain ⟨he, hn⟩ := PublicHalf.rsa.inj hhalf
      exact .rsa hn he
    | ecdsa other => exact PublicHalf.noConfusion hhalf
  | ecdsa key =>
    cases other with
    | rsa other => exact PublicHalf.noConfusion hhalf
    | ecdsa other =>
      obtain ⟨hcurve, hpoint⟩ := PublicHalf.ecdsa.inj hhalf
      obtain ⟨curve, scalar, hpos, hlt⟩ := key
      obtain ⟨otherCurve, otherScalar, hotherPos, hotherLt⟩ := other
      -- one curve, so one point, and the point has one scalar
      obtain rfl : otherCurve = curve := hcurve
      obtain rfl : otherScalar = scalar :=
        Ecdsa.publicPoint_injective hotherPos hotherLt hpos hlt hpoint
      exact .ecdsa _

variable {key other : PrivateKey}

theorem Twins.kind (h : key.Twins other) : other.kind = key.kind := by
  cases h <;> rfl

theorem Twins.algorithm (h : key.Twins other) : other.algorithm = key.algorithm := by
  cases h <;> rfl

/-- A signature by an RSA key is as long as the modulus. -/
theorem length_sign_rsa {key : Rsa.PrivateKey} {draw : Nat} {message signature : Bytes}
    (h : (PrivateKey.rsa key).sign draw message = .ok signature) :
    signature.length = Bytes.width key.n := by
  rw [sign_rsa, mapError_eq_ok_iff] at h
  exact (Rsa.PrivateKey.sign_eq_ok (Sha2.length_sha512 message) h).1

/-- Signatures of one message by twins have one length. -/
theorem Twins.length_sign (h : key.Twins other) (hkey : key.Drawless) {draw otherDraw : Nat}
    {message signature otherSignature : Bytes} (hsign : key.sign draw message = .ok signature)
    (hother : other.sign otherDraw message = .ok otherSignature) :
    otherSignature.length = signature.length := by
  cases h with
  | rsa hn he =>
    rw [length_sign_rsa hsign, length_sign_rsa hother, hn]
  | ecdsa key =>
    rw [hkey.sign otherDraw draw, hsign] at hother
    rw [Except.ok.inj hother]

end PrivateKey

end RequestSigning
