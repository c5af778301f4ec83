import RequestSigning.Proofs.DerElements
import RequestSigning.Proofs.PublicHalves
import Mathlib.Data.ZMod.Basic
import Mathlib.Tactic.LinearCombination

/-!
# ECDSA signatures verify

A verifier knows of a key on a curve the point in its blob, and of a signature its bytes.
`Ecdsa.verify` is what it computes of them, without the scalar. `ecdsa_signatures_verify` says that
every signature of a message is read back and verifies under the point of the key, on each of the
curves and for each draw of the nonce.

The equation behind it is `Ecdsa.nonce_modEq`: by the inverse of `s`, the number signed and `r` times
the scalar make up the nonce. So the sum of points that the verifier takes is the multiple of the base
point by the nonce, whose abscissa is `r`.
-/

namespace RequestSigning

namespace Ecdsa

/-! ### The equation -/

/-- What the verifier multiplies the base point and the public point with makes up the nonce. -/
theorem nonce_modEq {n z r d k inverse w : ℕ} (hinverse : k * inverse % n = 1 % n)
    (hw : inverse * (z + r * d) % n * w % n = 1 % n) : z * w % n + r * w % n * d ≡ k [MOD n] := by
  have hinverse' : (k : ZMod n) * inverse = 1 := by
    rw [← Nat.cast_mul, ← Nat.cast_one, ZMod.natCast_eq_natCast_iff']
    exact hinverse
  have hw' : (inverse : ZMod n) * (z + r * d) * w = 1 := by
    have hmod : ((inverse * (z + r * d) % n * w : ℕ) : ZMod n) = (1 : ℕ) :=
      (ZMod.natCast_eq_natCast_iff' _ _ _).mpr hw
    simpa using hmod
  rw [← ZMod.natCast_eq_natCast_iff]
  push_cast [ZMod.natCast_mod]
  linear_combination (k : ZMod n) * hw' - (z + r * d) * w * hinverse'

/-! ### Points -/

section Points

variable {p : ℕ} [Fact p.Prime] {b : ZMod p} {A : (shortCurve b).Point}

theorem Represents.z_ne_zero {P : Point} (h : Represents P A) (hA : A ≠ 0) : P.z ≠ 0 := by
  cases h with
  | infinity => contradiction
  | affine _ hz => exact fun hzero => hz (by rw [hzero, Nat.cast_zero])

/-- The affine coordinates of a point represent it. -/
theorem represents_coordinates (hA : A ≠ 0) :
    Represents ⟨(coordinates A).1, (coordinates A).2, 1⟩ A := by
  cases A with
  | zero => contradiction
  | some x y h => refine .affine h ?_ ?_ ?_ <;> simp [coordinates]

end Points

/-- The sum of points that a verifier takes is the multiple of the base point by the nonce, if what it
multiplies the base point and the public point with makes up the nonce. -/
theorem represents_sum {curve : Curve} {scalar k u v : ℕ} (hscalar : ¬curve.order ∣ scalar)
    (h : u + v * scalar ≡ k [MOD curve.order]) :
    Represents (Point.add curve.prime (Point.times curve.prime u (Point.base curve))
      (Point.times curve.prime v
        ⟨(publicPoint curve scalar).1, (publicPoint curve scalar).2, 1⟩)) (k • curve.generator) := by
  have hkey : scalar • curve.generator ≠ 0 := mt nsmul_generator_eq_zero_iff.mp hscalar
  have hsum : u • curve.generator + v • scalar • curve.generator = k • curve.generator := by
    rw [smul_smul, ← add_nsmul]
    exact nsmul_generator_eq_iff.mpr h
  have hbase := (represents_base curve).times u
  have hpublic := (represents_coordinates hkey).times v
  rw [← hsum, publicPoint_eq]
  exact hbase.add hpublic

/-! ### Verifying -/

/-- What a signature is made of. -/
theorem sign?_eq_some {key : PrivateKey} {digest : Bytes} {draw : ℕ} {signature : Signature}
    (h : sign? key digest draw = some signature) :
    ∃ k inverse, Modular.inverse? k key.curve.order = some inverse ∧
      signature.r = (publicPoint key.curve k).1 % key.curve.order ∧ signature.r ≠ 0 ∧
      signature.s = inverse * (hashNumber key.curve digest + signature.r * key.scalar) %
        key.curve.order ∧ signature.s ≠ 0 := by
  simp only [sign?, Option.bind_eq_bind, Option.bind_eq_some_iff] at h
  obtain ⟨k, -, inverse, hinverse, hsome⟩ := h
  split_ifs at hsome with hzero
  obtain ⟨hr, hs⟩ := not_or.mp hzero
  obtain rfl := Option.some.inj hsome
  exact ⟨k, inverse, hinverse, rfl, hr, rfl, hs⟩

/-- **Verifying.** A signature that a key made verifies under the key's point. -/
theorem verify_of_sign? {key : PrivateKey} {digest : Bytes} {draw : ℕ} {signature : Signature}
    (h : sign? key digest draw = some signature) :
    verify key.curve (publicPoint key.curve key.scalar) digest signature = true := by
  obtain ⟨k, inverse, hinverse, hr, hr0, hs, hs0⟩ := sign?_eq_some h
  have hprime := key.curve.order_prime
  have hpos := hprime.pos
  have hrLt : signature.r < key.curve.order := hr ▸ Nat.mod_lt _ hpos
  have hsLt : signature.s < key.curve.order := hs ▸ Nat.mod_lt _ hpos
  have hscalar : ¬key.curve.order ∣ key.scalar :=
    Nat.not_dvd_of_pos_of_lt key.scalar_pos key.scalar_lt
  have hkInverse := Modular.mul_inverse? hpos hinverse
  have hk : ¬key.curve.order ∣ k := by
    intro hdvd
    rw [Nat.mod_eq_zero_of_dvd (hdvd.mul_right inverse), Nat.one_mod_eq_one.mpr hprime.one_lt.ne']
      at hkInverse
    contradiction
  obtain ⟨w, hw⟩ := Modular.exists_inverse?
    (hprime.coprime_iff_not_dvd.mpr (Nat.not_dvd_of_pos_of_lt (Nat.pos_of_ne_zero hs0) hsLt))
  have hsInverse := Modular.mul_inverse? hpos hw
  rw [hs] at hsInverse
  have hrepresents := represents_sum hscalar (nonce_modEq hkInverse hsInverse)
  have hnonce : k • key.curve.generator ≠ 0 := mt nsmul_generator_eq_zero_iff.mp hk
  have hz := hrepresents.z_ne_zero hnonce
  have hx := hrepresents.affine_eq key.curve.two_lt_prime
  rw [← publicPoint_eq] at hx
  have hinRange : 0 < signature.r ∧ signature.r < key.curve.order ∧ 0 < signature.s ∧
      signature.s < key.curve.order :=
    ⟨Nat.pos_of_ne_zero hr0, hrLt, Nat.pos_of_ne_zero hs0, hsLt⟩
  simp only [verify, if_pos hinRange, hw, hx, ← hr, Bool.and_eq_true, bne_iff_ne, beq_self_eq_true,
    and_true]
  exact hz

/-! ### Reading a signature -/

theorem length_unsignedContent_le (n : ℕ) : (Der.unsignedContent n).length ≤ Bytes.width n + 1 := by
  rw [Der.unsignedContent, ← Bytes.length_minimal]
  split
  · simp
  · split_ifs <;> simp_all

/-- A signature that was written is read. -/
theorem Signature.decode?_encode {signature : Signature} (hr : Bytes.width signature.r < 2 ^ 20)
    (hs : Bytes.width signature.s < 2 ^ 20) :
    Signature.decode? signature.encode = some signature := by
  have hrLength := length_unsignedContent_le signature.r
  have hsLength := length_unsignedContent_le signature.s
  have hrElement : (Der.unsigned signature.r).length ≤ (Der.unsignedContent signature.r).length + 6 :=
    Der.length_element_le _ _ (by omega)
  have hsElement : (Der.unsigned signature.s).length ≤ (Der.unsignedContent signature.s).length + 6 :=
    Der.length_element_le _ _ (by omega)
  have hlength : (Der.unsigned signature.r ++ Der.unsigned signature.s).length < 2 ^ 28 := by
    rw [List.length_append]
    omega
  have hlast := Der.readUnsigned?_unsigned (n := signature.s) (by omega) []
  rw [List.append_nil] at hlast
  rw [decode?, encode, Der.whole?_element (by decide) hlength]
  simp only [Option.bind_eq_bind, Option.bind_some,
    Der.readUnsigned?_unsigned (n := signature.r) (by omega), hlast, if_true]

/-- A signature's numbers are below the order, so its encoding is read. -/
theorem decode?_encode_of_sign? {key : PrivateKey} {digest : Bytes} {draw : ℕ}
    {signature : Signature} (h : sign? key digest draw = some signature) :
    Signature.decode? signature.encode = some signature := by
  obtain ⟨k, inverse, -, hr, -, hs, -⟩ := sign?_eq_some h
  have hpos : 0 < key.curve.order := key.scalar_pos.trans key.scalar_lt
  have hshort : ∀ m, Bytes.width (m % key.curve.order) < 2 ^ 20 := fun m =>
    (Bytes.width_le_of_lt ((Nat.mod_lt m hpos).trans key.curve.order_lt)).trans_lt
      (key.curve.size_bounds.2.trans_lt (by decide))
  exact Signature.decode?_encode (hr ▸ hshort _) (hs ▸ hshort _)

end Ecdsa

/-! ### The main statement -/

/-- **ECDSA signatures verify.** From every signature of a message that a key on a curve makes two
numbers are read, and they verify as a signature of the message's SHA-512 digest under the point that
is read from the key's blob. -/
theorem ecdsa_signatures_verify {key : Ecdsa.PrivateKey} {draw : ℕ} {message bytes : Bytes}
    (h : (PrivateKey.ecdsa key).sign draw message = .ok bytes) :
    ∃ point signature,
      (Ssh.PublicKey.decode? (PrivateKey.ecdsa key).blob).bind Ssh.PublicKey.half? =
        some (.ecdsa key.curve point) ∧
      Ecdsa.Signature.decode? bytes = some signature ∧
      Ecdsa.verify key.curve point (Sha2.sha512 message) signature = true := by
  rw [PrivateKey.sign] at h
  cases hsign : Ecdsa.sign? key (Sha2.sha512 message) draw with
  | none => simp [hsign] at h
  | some signature =>
    simp only [hsign] at h
    obtain rfl := Except.ok.inj h
    have hcurve : ∀ rsa, PrivateKey.ecdsa key = .rsa rsa → Bytes.width rsa.n < Wire.maxField := by
      rintro rsa ⟨⟩
    refine ⟨_, signature, ?_, Ecdsa.decode?_encode_of_sign? hsign,
      Ecdsa.verify_of_sign? hsign⟩
    rw [PrivateKey.decode?_blob_publicKey hcurve, Option.bind_some, PrivateKey.half?_publicKey]
    rfl

end RequestSigning
