import RequestSigning.Modular
import Mathlib.Data.List.Prime
import Mathlib.NumberTheory.LucasPrimality

/-!
# Powers and primes

Repeated squaring gives the remainder of the power (`Modular.powMod_eq`), so statements about remainders
of powers can be evaluated.

Numbers that are too long for trial division are shown to be prime by **certificates**: a number comes
with a generator of its units and with the factors of its predecessor, and each factor that is long
itself has a certificate of its own in front of it. The generator's powers show that the units are as
many as the predecessor says, so certified numbers are prime (`Modular.prime_of_certified`).
-/

namespace RequestSigning.Modular

/-! ### Powers -/

/-- A power is one of the square, times the base if the exponent is odd. -/
theorem pow_eq_sq_pow (base exponent : Nat) :
    base ^ exponent = base ^ (exponent % 2) * (base * base) ^ (exponent / 2) := by
  have split : exponent = exponent % 2 + 2 * (exponent / 2) := by omega
  calc base ^ exponent = base ^ (exponent % 2 + 2 * (exponent / 2)) := by rw [← split]
    _ = base ^ (exponent % 2) * (base * base) ^ (exponent / 2) := by
      rw [Nat.pow_add, Nat.pow_mul, Nat.pow_two]

/-- Repeated squaring gives the remainder of the power. -/
theorem powMod_eq (base exponent modulus : Nat) :
    powMod base exponent modulus = base ^ exponent % modulus := by
  fun_induction powMod base exponent modulus with
  | case1 => rw [Nat.pow_zero]
  | case2 base exponent _ half odd ih =>
    rw [pow_eq_sq_pow, odd, Nat.pow_one, show half = _ from ih, ← Nat.pow_mod, Nat.mul_mod_mod]
  | case3 base exponent _ half odd ih =>
    have even : exponent % 2 = 0 := by omega
    rw [pow_eq_sq_pow, even, Nat.pow_zero, Nat.one_mul, show half = _ from ih, ← Nat.pow_mod]

/-! ### Certificates -/

/-- A **certificate** of a prime: a generator of its units, and the factors of its predecessor. -/
structure Certificate where
  number : ℕ
  generator : ℕ
  factors : List ℕ

/-- Whether none of some divisors from `d` on, up to the root of `q`, divides `q`, and the root is
reached in as many `steps`. -/
def undivided (q : ℕ) : ℕ → ℕ → Bool
  | 0, _ => false
  | steps + 1, d => q < d * d || (q % d != 0 && undivided q steps (d + 1))

/-- Whether a number is known to be prime, or is short and passes trial division. -/
def isKnown (known : List ℕ) (q : ℕ) : Bool :=
  known.contains q || (2 ≤ q && undivided q 256 2)

/-- Whether a certificate is sound, where some primes are known: the factors are known and make up the
predecessor of the number, and the power of the generator for the predecessor is one, but for none of
its quotients by a factor. -/
def Certificate.check (known : List ℕ) (c : Certificate) : Bool :=
  decide (1 < c.number) && c.factors.prod + 1 == c.number &&
    powMod c.generator (c.number - 1) c.number == 1 &&
    c.factors.all fun q =>
      isKnown known q && powMod c.generator ((c.number - 1) / q) c.number != 1

/-- Whether certificates are sound, each for the primes known before it. -/
def certified : List ℕ → List Certificate → Bool
  | _, [] => true
  | known, c :: rest => c.check known && certified (c.number :: known) rest

/-- Trial division that finds no divisor below the square root leaves none above it. -/
theorem not_dvd_of_undivided {q steps d m : ℕ} (h : undivided q steps d = true) (hd : d ≤ m)
    (hm : m * m ≤ q) : ¬m ∣ q := by
  induction steps generalizing d with
  | zero => contradiction
  | succ steps ih =>
    simp only [undivided, Bool.or_eq_true, decide_eq_true_eq, Bool.and_eq_true, bne_iff_ne] at h
    obtain hroot | ⟨hrest, hnext⟩ := h
    · have hle : d * d ≤ m * m := Nat.mul_le_mul hd hd
      omega
    · rcases hd.eq_or_lt with rfl | hlt
      · rwa [Nat.dvd_iff_mod_eq_zero]
      · exact ih hnext hlt

theorem prime_of_isKnown {known : List ℕ} {q : ℕ} (h : isKnown known q = true)
    (hknown : ∀ p ∈ known, p.Prime) : q.Prime := by
  rw [isKnown, Bool.or_eq_true, List.contains_iff_mem, Bool.and_eq_true, decide_eq_true_eq] at h
  obtain hmem | ⟨htwo, htrial⟩ := h
  · exact hknown q hmem
  · rw [Nat.prime_def_le_sqrt]
    exact ⟨htwo, fun m hm hroot => not_dvd_of_undivided htrial hm (Nat.le_sqrt.mp hroot)⟩

/-- Powers are computed by repeated squaring, so the certificates can be checked. -/
theorem natCast_pow_eq_one_iff {p : ℕ} (hp : 1 < p) (a n : ℕ) :
    (a : ZMod p) ^ n = 1 ↔ powMod a n p = 1 := by
  rw [powMod_eq, ← Nat.cast_pow, ← Nat.cast_one, ZMod.natCast_eq_natCast_iff',
    Nat.one_mod_eq_one.mpr hp.ne']

/-- A certificate proves its number prime by a primitive root, from the factors of the number less
one. -/
theorem Certificate.prime_of_check {known : List ℕ} {c : Certificate} (h : c.check known = true)
    (hknown : ∀ p ∈ known, p.Prime) : c.number.Prime := by
  simp only [check, Bool.and_eq_true, decide_eq_true_eq, beq_iff_eq, List.all_eq_true,
    bne_iff_ne] at h
  obtain ⟨⟨⟨hlarge, hprod⟩, hpow⟩, hfactors⟩ := h
  refine lucas_primality c.number c.generator ((natCast_pow_eq_one_iff hlarge _ _).mpr hpow) ?_
  intro q hq hdvd
  -- a prime divisor of the predecessor is one of the factors
  rw [← hprod, Nat.add_sub_cancel] at hdvd
  obtain ⟨factor, hmem, hfactor⟩ := (hq.prime.dvd_prod_iff).mp hdvd
  obtain ⟨hisKnown, hne⟩ := hfactors factor hmem
  obtain rfl := (Nat.prime_dvd_prime_iff_eq hq (prime_of_isKnown hisKnown hknown)).mp hfactor
  rwa [Ne, natCast_pow_eq_one_iff hlarge]

/-- **Certified numbers are prime.** -/
theorem prime_of_certified {known : List ℕ} {certificates : List Certificate}
    (h : certified known certificates = true) (hknown : ∀ p ∈ known, p.Prime) :
    ∀ c ∈ certificates, c.number.Prime := by
  induction certificates generalizing known with
  | nil => simp
  | cons c rest ih =>
    rw [certified, Bool.and_eq_true] at h
    have hprime := Certificate.prime_of_check h.1 hknown
    have hrest := ih h.2 (List.forall_mem_cons.mpr ⟨hprime, hknown⟩)
    exact List.forall_mem_cons.mpr ⟨hprime, hrest⟩

end RequestSigning.Modular
