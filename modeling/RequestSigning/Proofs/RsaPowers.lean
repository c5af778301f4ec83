import RequestSigning.Proofs.Rsa
import Mathlib.FieldTheory.Finite.Basic

/-!
# Powers of a private key

The checks of a key's numbers bind its exponents only modulo each factor less one, and do not ask
whether the factors are prime. Where they are, and are distinct (`Rsa.PrivateKey.HasPrimes`), this
is enough: the power that the private key computes is undone by the public exponent for every
number, a multiple of a factor included (`Rsa.PrivateKey.power_pow_modEq`), and no other number
below the modulus has the same power (`Rsa.PrivateKey.pow_e_injective`). So such a key signs every
digest that its modulus has room for (`Rsa.PrivateKey.exists_sign_eq_ok`), and the signature depends
on the public half alone (`Rsa.PrivateKey.sign_congr`).
-/

namespace RequestSigning

/-! ### Exponents that do nothing -/

/-- An exponent that is one modulo `p - 1` leaves every number where it is modulo a prime `p`. -/
theorem Modular.pow_modEq_self {p t : ℕ} (hp : p.Prime) (ht : t % (p - 1) = 1) (m : ℕ) :
    m ^ t ≡ m [MOD p] := by
  by_cases hdvd : p ∣ m
  · -- both sides are multiples of `p`, as the exponent is not zero
    have hpos : t ≠ 0 := by
      rintro rfl
      simp at ht
    have hpow : m ^ t ≡ 0 [MOD p] := (Nat.modEq_zero_iff_dvd).mpr (dvd_pow hdvd hpos)
    exact hpow.trans ((Nat.modEq_zero_iff_dvd).mpr hdvd).symm
  · have hcoprime : m.Coprime p := ((Nat.Prime.coprime_iff_not_dvd hp).mpr hdvd).symm
    have hfermat : m ^ (p - 1) ≡ 1 [MOD p] := Nat.ModEq.pow_card_sub_one_eq_one hp hcoprime
    have hsplit : t = (p - 1) * (t / (p - 1)) + 1 := by
      conv_lhs => rw [← Nat.div_add_mod t (p - 1), ht]
    calc m ^ t = (m ^ (p - 1)) ^ (t / (p - 1)) * m := by
          conv_lhs => rw [hsplit, pow_succ, pow_mul]
      _ ≡ 1 ^ (t / (p - 1)) * m [MOD p] := (hfermat.pow _).mul_right m
      _ = m := by rw [one_pow, one_mul]

/-! ### Remainders put together -/

namespace Modular

variable {p q inverse : ℕ}

/-- A remainder by `q`, raised by the multiple of `q` that leads from it to `x` modulo `p`, is `x`
modulo `p`. -/
theorem combine_modEq_left (hp : 0 < p) (hunit : q * inverse ≡ 1 [MOD p]) (x y : ℕ) :
    y + (x + (p - y % p)) * inverse % p * q ≡ x [MOD p] := by
  have hcarry : y + (p - y % p) ≡ 0 [MOD p] := by
    have hlt : y % p < p := Nat.mod_lt _ hp
    calc y + (p - y % p) ≡ y % p + (p - y % p) [MOD p] := ((Nat.mod_modEq y p).symm).add_right _
      _ = p := by omega
      _ ≡ 0 [MOD p] := (Nat.modEq_zero_iff_dvd).mpr dvd_rfl
  calc y + (x + (p - y % p)) * inverse % p * q
      ≡ y + (x + (p - y % p)) * inverse * q [MOD p] :=
        ((Nat.mod_modEq _ _).mul_right _).add_left _
    _ = y + (x + (p - y % p)) * (q * inverse) := by rw [Nat.mul_assoc, Nat.mul_comm inverse]
    _ ≡ y + (x + (p - y % p)) * 1 [MOD p] := (hunit.mul_left _).add_left _
    _ = x + (y + (p - y % p)) := by omega
    _ ≡ x [MOD p] := hcarry.add_left _

/-- A remainder by `q`, raised by a multiple of `q`, is what it was modulo `q`. -/
theorem combine_modEq_right (y high : ℕ) : y + high * q ≡ y [MOD q] :=
  ((Nat.modEq_zero_iff_dvd).mpr (Nat.dvd_mul_left q high)).add_left y

end Modular

namespace Rsa.PrivateKey

/-- A key **has primes** when its two factors are distinct prime numbers. -/
structure HasPrimes (key : PrivateKey) : Prop where
  prime_p : key.p.Prime
  prime_q : key.q.Prime
  p_ne_q : key.p ≠ key.q

variable {key : PrivateKey}

/-- The private exponent undoes the public one modulo each factor less one. -/
theorem exponents (key : PrivateKey) :
    key.e * key.d % (key.p - 1) = 1 ∧ key.e * key.d % (key.q - 1) = 1 := by
  have hsound := key.sound
  rw [Numbers.fault?] at hsound
  cases hpublic : publicFault? key.n key.e with
  | some fault => simp [hpublic] at hsound
  | none =>
    simp only [hpublic] at hsound
    split_ifs at hsound with _ _ hexponents
    simpa only [not_or, not_not] using hexponents

/-- None of a key's numbers is zero. -/
theorem numbers_pos (key : PrivateKey) :
    0 < key.n ∧ 0 < key.e ∧ 0 < key.d ∧ 0 < key.p ∧ 0 < key.q := by
  obtain ⟨hp, hq, hn, -⟩ := Numbers.fault?_eq_none key.sound
  obtain ⟨hexponents, -⟩ := key.exponents
  have hproduct : 0 < key.e * key.d := by
    refine Nat.pos_of_ne_zero fun hzero => ?_
    rw [hzero, Nat.zero_mod] at hexponents
    exact absurd hexponents (by decide)
  have hpositive : 0 < key.p * key.q := Nat.mul_pos (by omega) (by omega)
  exact ⟨hn ▸ hpositive, Nat.pos_of_mul_pos_right hproduct, Nat.pos_of_mul_pos_left hproduct,
    by omega, by omega⟩

/-! ### Powers modulo the factors -/

/-- Modulo each factor, the power of a key is one by an exponent that the public one undoes. -/
theorem power_modEq (key : PrivateKey) (m : ℕ) :
    ∃ a b, key.e * a % (key.p - 1) = 1 ∧ key.e * b % (key.q - 1) = 1 ∧
      key.power m ≡ m ^ a [MOD key.p] ∧ key.power m ≡ m ^ b [MOD key.q] := by
  obtain ⟨hp, hq, hn, -⟩ := Numbers.fault?_eq_none key.sound
  obtain ⟨hdp, hdq⟩ := key.exponents
  rw [power]
  split
  · next inverse hinverse =>
    have hunit : key.q * inverse ≡ 1 [MOD key.p] := Modular.mul_inverse? (by omega) hinverse
    dsimp only
    rw [Modular.powMod_eq, Modular.powMod_eq]
    refine ⟨key.d % (key.p - 1), key.d % (key.q - 1), ?_, ?_, ?_, ?_⟩
    · rw [Nat.mul_mod_mod, hdp]
    · rw [Nat.mul_mod_mod, hdq]
    · exact (Modular.combine_modEq_left (by omega) hunit _ _).trans (Nat.mod_modEq _ _)
    · exact (Modular.combine_modEq_right _ _).trans (Nat.mod_modEq _ _)
  · have hpower : Modular.powMod m key.d key.n ≡ m ^ key.d [MOD key.n] := by
      rw [Modular.powMod_eq]
      exact Nat.mod_modEq _ _
    rw [← hn] at hpower ⊢
    exact ⟨key.d, key.d, hdp, hdq, hpower.of_mul_right _, hpower.of_mul_left _⟩

/-! ### Powers modulo the modulus -/

/-- What holds modulo both factors holds modulo the modulus. -/
theorem HasPrimes.modEq (h : key.HasPrimes) {a b : ℕ} (hp : a ≡ b [MOD key.p])
    (hq : a ≡ b [MOD key.q]) : a ≡ b [MOD key.n] := by
  obtain ⟨-, -, hn, -⟩ := Numbers.fault?_eq_none key.sound
  have hcoprime : key.p.Coprime key.q := (Nat.coprime_primes h.prime_p h.prime_q).mpr h.p_ne_q
  rw [← hn]
  exact (Nat.modEq_and_modEq_iff_modEq_mul hcoprime).mp ⟨hp, hq⟩

/-- **RSA.** The public exponent undoes the power of the private key, for every number. -/
theorem power_pow_modEq (h : key.HasPrimes) (m : ℕ) : key.power m ^ key.e ≡ m [MOD key.n] := by
  obtain ⟨a, b, ha, hb, hpowerP, hpowerQ⟩ := key.power_modEq m
  refine h.modEq ?_ ?_
  · calc key.power m ^ key.e ≡ (m ^ a) ^ key.e [MOD key.p] := hpowerP.pow _
      _ = m ^ (key.e * a) := by rw [← pow_mul, Nat.mul_comm]
      _ ≡ m [MOD key.p] := Modular.pow_modEq_self h.prime_p ha m
  · calc key.power m ^ key.e ≡ (m ^ b) ^ key.e [MOD key.q] := hpowerQ.pow _
      _ = m ^ (key.e * b) := by rw [← pow_mul, Nat.mul_comm]
      _ ≡ m [MOD key.q] := Modular.pow_modEq_self h.prime_q hb m

/-- Numbers below the modulus with the same power by the public exponent are the same. -/
theorem pow_e_injective (h : key.HasPrimes) {s t : ℕ} (hs : s < key.n) (ht : t < key.n)
    (hpow : s ^ key.e ≡ t ^ key.e [MOD key.n]) : s = t := by
  obtain ⟨hdp, hdq⟩ := key.exponents
  have hundo : ∀ m, m ^ (key.e * key.d) ≡ m [MOD key.n] := fun m =>
    h.modEq (Modular.pow_modEq_self h.prime_p hdp m) (Modular.pow_modEq_self h.prime_q hdq m)
  have hmod : s ≡ t [MOD key.n] := by
    calc s ≡ (s ^ key.e) ^ key.d [MOD key.n] := by
          rw [← pow_mul]
          exact (hundo s).symm
      _ ≡ (t ^ key.e) ^ key.d [MOD key.n] := hpow.pow _
      _ ≡ t [MOD key.n] := by
          rw [← pow_mul]
          exact hundo t
  exact hmod.eq_of_lt_of_lt hs ht

/-! ### Signatures -/

/-- A padded digest as long as the modulus is a number below it: its first byte is zero, and its
second is one. -/
theorem toNat_pad?_lt (key : PrivateKey) {digest padded : Bytes} (hdigest : digest.length = 64)
    (h : pad? key.size digest = some padded) : Bytes.toNat padded < key.n := by
  obtain ⟨-, hlength⟩ := pad?_eq_some hdigest h
  obtain ⟨hp, hq, hn, -⟩ := Numbers.fault?_eq_none key.sound
  rw [pad?] at h
  split_ifs at h with hroom
  obtain rfl := Option.some.inj h
  generalize List.replicate (key.size - (digestInfo ++ digest).length - 3) 0xFF ++
    0x00 :: (digestInfo ++ digest) = tail at hlength ⊢
  simp only [List.length_cons] at hlength
  have hlead : Bytes.toNat (0x00 :: 0x01 :: tail) = 256 ^ tail.length + Bytes.toNat tail := by
    rw [Bytes.toNat_cons, Bytes.toNat_cons]
    simp
  have htail : Bytes.toNat tail < 256 ^ tail.length := Bytes.toNat_lt tail
  have hwidth : 256 ^ (Bytes.width key.n - 1) ≤ key.n := by
    by_contra hsmall
    have hle := Bytes.width_le_of_lt (not_le.mp hsmall)
    rw [← PrivateKey.size] at hle
    omega
  have hpower : Bytes.width key.n - 1 = tail.length + 1 := by
    rw [← PrivateKey.size]
    omega
  rw [hpower, pow_succ] at hwidth
  rw [hlead]
  omega

/-- A modulus of fewer than 94 bytes has no room for a padded digest. -/
theorem sign_eq_error (key : PrivateKey) {digest : Bytes} (hdigest : digest.length = 64)
    (hshort : key.size < 94) : key.sign digest = .error .messageTooLong := by
  have hpad : pad? key.size digest = none := by
    have htail : (digestInfo ++ digest).length = 83 := by
      rw [List.length_append, hdigest]
      rfl
    rw [pad?, if_pos (by omega)]
  rw [sign, hpad]

/-- A key with primes signs by its power, if the modulus has 94 bytes or more. -/
theorem sign_of_fits (h : key.HasPrimes) {digest : Bytes} (hdigest : digest.length = 64)
    (hfits : 94 ≤ key.size) :
    ∃ padded, pad? key.size digest = some padded ∧
      key.sign digest = .ok (Bytes.ofNat key.size (key.power (Bytes.toNat padded))) := by
  have htail : (digestInfo ++ digest).length = 83 := by
    rw [List.length_append, hdigest]
    rfl
  obtain ⟨padded, hpad⟩ : ∃ padded, pad? key.size digest = some padded := by
    rw [pad?, if_neg (by omega)]
    exact ⟨_, rfl⟩
  have hverifies : Modular.powMod (key.power (Bytes.toNat padded)) key.e key.n =
      Bytes.toNat padded := by
    rw [Modular.powMod_eq]
    exact Nat.mod_eq_of_modEq (power_pow_modEq h _) (key.toNat_pad?_lt hdigest hpad)
  refine ⟨padded, hpad, ?_⟩
  rw [sign, hpad]
  exact if_pos hverifies

theorem exists_sign_eq_ok (h : key.HasPrimes) {digest : Bytes} (hdigest : digest.length = 64)
    (hfits : 94 ≤ key.size) : ∃ signature, key.sign digest = .ok signature := by
  obtain ⟨padded, -, hsign⟩ := sign_of_fits h hdigest hfits
  exact ⟨_, hsign⟩

/-- **One signature.** Keys with primes that share their public half give the same signatures,
whatever their private exponents and the order of their factors. -/
theorem sign_congr {other : PrivateKey} (h : key.HasPrimes) (hother : other.HasPrimes)
    (hn : other.n = key.n) (he : other.e = key.e) {digest : Bytes}
    (hdigest : digest.length = 64) : other.sign digest = key.sign digest := by
  have hsize : other.size = key.size := by rw [size, size, hn]
  by_cases hfits : 94 ≤ key.size
  · obtain ⟨padded, hpad, hsign⟩ := sign_of_fits h hdigest hfits
    obtain ⟨padded', hpad', hsign'⟩ := sign_of_fits hother hdigest (hsize ▸ hfits)
    obtain rfl : padded = padded' := by
      rw [hsize, hpad] at hpad'
      exact Option.some.inj hpad'
    have hpower : other.power (Bytes.toNat padded) = key.power (Bytes.toNat padded) := by
      refine pow_e_injective h (hn ▸ other.power_lt _) (key.power_lt _) ?_
      have hundo := power_pow_modEq hother (Bytes.toNat padded)
      rw [hn, he] at hundo
      exact hundo.trans (power_pow_modEq h _).symm
    rw [hsign, hsign', hsize, hpower]
  · rw [key.sign_eq_error hdigest (not_le.mp hfits),
      other.sign_eq_error hdigest (hsize ▸ not_le.mp hfits)]

end Rsa.PrivateKey

end RequestSigning
