/-!
# Arithmetic modulo a number

Powers by repeated squaring, and inverses by Euclid's algorithm. An inverse is one
(`Modular.mul_inverse?`), and is found for every number that has one (`Modular.exists_inverse?`).

These are the operations that RSA and the curves run on. They are plain recursions, on the bits of
the exponent and on the pair that the algorithm keeps, so that certificates and test keys can be
checked by evaluating them.
-/

namespace RequestSigning.Modular

/-! ### Powers -/

/-- The remainder of a power, by repeated squaring. -/
def powMod (base exponent modulus : Nat) : Nat :=
  if exponent = 0 then 1 % modulus
  else
    let half := powMod (base * base % modulus) (exponent / 2) modulus
    if exponent % 2 = 1 then base * half % modulus else half
termination_by exponent
decreasing_by omega

/-! ### Inverses -/

/-- The greatest common divisor of `r₀` and `r₁`, and the multiplier that goes with it when
`s₀` and `s₁` are those of the two numbers. -/
def euclid (r₀ r₁ : Nat) (s₀ s₁ : Int) : Nat × Int :=
  if r₁ = 0 then (r₀, s₀)
  else euclid r₁ (r₀ % r₁) s₁ (s₀ - (r₀ / r₁ : Nat) * s₁)
termination_by r₁
decreasing_by exact Nat.mod_lt _ (by omega)

/-- The inverse of a number for a modulus, if the two have no common divisor. -/
def inverse? (a modulus : Nat) : Option Nat :=
  let found := euclid a modulus 1 0
  if found.1 = 1 then some (found.2 % modulus).toNat else none

/-- What Euclid's algorithm finds is the common divisor, and the multiplier's product with the
first number leaves it for the second. -/
theorem euclid_mod {a m : Int} {r₀ r₁ : Nat} {s₀ s₁ : Int}
    (h₀ : m ∣ s₀ * a - r₀) (h₁ : m ∣ s₁ * a - r₁) :
    m ∣ (euclid r₀ r₁ s₀ s₁).2 * a - (euclid r₀ r₁ s₀ s₁).1 := by
  fun_induction euclid r₀ r₁ s₀ s₁ with
  | case1 => exact h₀
  | case2 r₀ r₁ s₀ s₁ h ih =>
    refine ih h₁ ?_
    have division : (r₀ : Int) = (r₀ / r₁ : Nat) * r₁ + (r₀ % r₁ : Nat) := by
      exact_mod_cast (Nat.div_add_mod' r₀ r₁).symm
    have rearranged : (s₀ - (r₀ / r₁ : Nat) * s₁) * a - (r₀ % r₁ : Nat) =
        (s₀ * a - r₀) - (r₀ / r₁ : Nat) * (s₁ * a - r₁) := by
      rw [Int.sub_mul, Int.mul_sub, Int.mul_assoc]
      omega
    rw [rearranged]
    exact Int.dvd_sub h₀ (Int.dvd_trans h₁ (Int.dvd_mul_left _ _))

/-- What is given as an inverse is one. -/
theorem mul_inverse? {a modulus b : Nat} (positive : 0 < modulus)
    (h : inverse? a modulus = some b) : a * b % modulus = 1 % modulus := by
  simp only [inverse?] at h
  split at h
  case isFalse => simp at h
  case isTrue one =>
    have found : (modulus : Int) ∣
        (euclid a modulus 1 0).2 * a - (euclid a modulus 1 0).1 :=
      euclid_mod (by simp) (by simp)
    rw [one] at found
    generalize (euclid a modulus 1 0).2 = s at h found
    have value : (b : Int) = s % modulus := by
      have := Int.emod_nonneg s (show (modulus : Int) ≠ 0 by omega)
      simp only [Option.some.injEq] at h
      omega
    have same : ((a * b : Nat) : Int) % modulus = (1 : Nat) % modulus := by
      rw [Int.natCast_mul, value, Int.mul_comm, Int.mul_emod, Int.emod_emod, ← Int.mul_emod]
      exact Int.emod_eq_emod_iff_emod_sub_eq_zero.mpr (Int.emod_eq_zero_of_dvd found)
    exact_mod_cast same

/-- Euclid's algorithm finds the greatest common divisor. -/
theorem euclid_fst (r₀ r₁ : Nat) (s₀ s₁ : Int) : (euclid r₀ r₁ s₀ s₁).1 = Nat.gcd r₁ r₀ := by
  fun_induction euclid r₀ r₁ s₀ s₁ with
  | case1 => rw [Nat.gcd_zero_left]
  | case2 r₀ r₁ s₀ s₁ h ih => rw [ih, ← Nat.gcd_rec]

/-- A number without a common divisor with the modulus has an inverse. -/
theorem exists_inverse? {a modulus : Nat} (h : Nat.Coprime modulus a) :
    ∃ b, inverse? a modulus = some b :=
  ⟨_, if_pos ((euclid_fst a modulus 1 0).trans h)⟩

end RequestSigning.Modular
