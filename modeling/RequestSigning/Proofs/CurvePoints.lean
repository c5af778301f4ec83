import RequestSigning.Proofs.CurvePrimes
import Mathlib.AlgebraicGeometry.EllipticCurve.Affine.Point
import Mathlib.FieldTheory.Finite.Basic
import Mathlib.GroupTheory.OrderOfElement

/-!
# Points as elements of a group

Triples in Jacobian coordinates represent points of the curve `y² = x³ - 3x + b` over a prime field
(`Ecdsa.Represents`), which are a group. Doubling, adding and multiplying triples does the same to the
points (`Represents.double`, `Represents.add`, `Represents.times`). So the affine point of a scalar has
the coordinates of that multiple of the base point (`Ecdsa.publicPoint_eq`). The base
points have prime order, so a scalar below the order is determined by its affine point
(`Ecdsa.publicPoint_injective`).

The group is Mathlib's group of points of a Weierstrass curve, so its laws are not proved here. What
is proved is that the formulas on natural numbers, with their reductions and their tests for equal
abscissas, compute it in every case, the points at infinity and the doubled and opposite ones
included. Finite points are told apart by their coordinates (`Ecdsa.coordinates_injective`).
-/

namespace RequestSigning.Ecdsa

open WeierstrassCurve.Affine (Point.some)

/-! ### Arithmetic of remainders -/

section Remainders

variable {p : ℕ} {a b : ℕ}

theorem Point.minus_lt (hp : 0 < p) : Point.minus p a b < p := Nat.mod_lt _ hp

/-- Subtraction through natural numbers is the field's, provided what is taken away does not exceed
the prime. -/
theorem Point.cast_minus (hb : b ≤ p) : ((Point.minus p a b : ℕ) : ZMod p) = a - b := by
  rw [minus, ZMod.natCast_mod, Nat.cast_add, Nat.cast_sub hb, ZMod.natCast_self]
  ring

/-- Equality in the field is equality of remainders. -/
theorem cast_eq_iff : ((a : ZMod p) = b) ↔ a % p = b % p := ZMod.natCast_eq_natCast_iff' a b p

/-- A reduced number is zero in the field only if it is zero. -/
theorem eq_zero_of_cast (ha : a < p) (h : (a : ZMod p) = 0) : a = 0 :=
  Nat.eq_zero_of_dvd_of_lt ((ZMod.natCast_eq_zero_iff a p).mp h) ha

end Remainders

/-! ### Triples that represent points -/

variable {p : ℕ} [Fact p.Prime] {b : ZMod p}

/-- The **curve** `y² = x³ - 3x + b`. -/
def shortCurve (b : ZMod p) : WeierstrassCurve.Affine (ZMod p) := ⟨0, 0, 0, -3, b⟩

/-- `Represents P A` says that a triple **represents** a point of a curve. -/
inductive Represents (P : Point) : (shortCurve b).Point → Prop
  | infinity (hz : P.z = 0) : Represents P 0
  | affine {x y : ZMod p} (h : (shortCurve b).Nonsingular x y) (hz : (P.z : ZMod p) ≠ 0)
    (hx : (P.x : ZMod p) = x * (P.z : ZMod p) ^ 2) (hy : (P.y : ZMod p) = y * (P.z : ZMod p) ^ 3) :
    Represents P (.some x y h)

theorem negY_shortCurve (x y : ZMod p) : (shortCurve b).negY x y = -y := by
  simp [WeierstrassCurve.Affine.negY, shortCurve]

/-- The abscissa of a sum, which on a short curve depends on the slope alone. -/
theorem addX_shortCurve (x₁ x₂ slope : ZMod p) :
    (shortCurve b).addX x₁ x₂ slope = slope ^ 2 - x₁ - x₂ := by
  simp [WeierstrassCurve.Affine.addX, shortCurve]

/-- The ordinate of a sum, from the slope and the sum's abscissa. -/
theorem addY_shortCurve (x₁ x₂ y₁ slope : ZMod p) :
    (shortCurve b).addY x₁ x₂ y₁ slope = slope * (x₁ - (slope ^ 2 - x₁ - x₂)) - y₁ := by
  rw [WeierstrassCurve.Affine.addY, negY_shortCurve, WeierstrassCurve.Affine.negAddY,
    addX_shortCurve]
  ring

/-! ### Doubling -/

namespace Point

theorem mod_le (a : ℕ) : a % p ≤ p := (Nat.mod_lt a (Fact.out : p.Prime).pos).le

theorem minus_le (a b : ℕ) : minus p a b ≤ p := (minus_lt (Fact.out : p.Prime).pos).le

variable (P Q : Point)

theorem double_z_lt : (double p P).z < p := minus_lt (Fact.out : p.Prime).pos

/-- The doubling formula read in the field, first coordinate. -/
theorem cast_double_x : ((double p P).x : ZMod p) =
    (3 * ((P.x - P.z ^ 2) * (P.x + P.z ^ 2))) ^ 2 - 8 * (P.x * P.y ^ 2) := by
  simp only [double, cast_minus (mod_le _), ZMod.natCast_mod, Nat.cast_mul, Nat.cast_add,
    Nat.cast_ofNat]
  ring

/-- The doubling formula read in the field, denominator. -/
theorem cast_double_z : ((double p P).z : ZMod p) = 2 * P.y * P.z := by
  simp only [double, cast_minus (mod_le _), ZMod.natCast_mod, Nat.cast_mul, Nat.cast_add]
  ring

/-- The doubling formula read in the field, second coordinate. -/
theorem cast_double_y : ((double p P).y : ZMod p) =
    3 * ((P.x - P.z ^ 2) * (P.x + P.z ^ 2)) * (4 * (P.x * P.y ^ 2) - (double p P).x) -
      8 * (P.y ^ 2) ^ 2 := by
  simp only [double, cast_minus (mod_le _), cast_minus (minus_le _ _), ZMod.natCast_mod, Nat.cast_mul,
    Nat.cast_add, Nat.cast_ofNat]
  ring

end Point

/-- The slope of the tangent at a point that is not its own opposite. -/
theorem slope_tangent {x y : ZMod p} (hy : y ≠ (shortCurve b).negY x y) :
    2 * y ≠ 0 ∧ (shortCurve b).slope x x y y * (2 * y) = 3 * x ^ 2 - 3 := by
  have htwo : 2 * y ≠ 0 := by
    rw [negY_shortCurve] at hy
    exact fun hzero => hy (by linear_combination hzero)
  have hquotient : (shortCurve b).slope x x y y = (3 * x ^ 2 - 3) / (2 * y) := by
    rw [WeierstrassCurve.Affine.slope_of_Y_ne rfl hy, negY_shortCurve]
    simp only [shortCurve]
    ring_nf
  exact ⟨htwo, by rw [hquotient, div_mul_cancel₀ _ htwo]⟩

/-- Doubling represents the sum of a point with itself, at infinity and at ordinate zero too. -/
theorem Represents.double {P : Point} {A : (shortCurve b).Point} (h : Represents P A) :
    Represents (Point.double p P) (A + A) := by
  cases h with
  | infinity hz =>
    rw [add_zero]
    refine .infinity (eq_zero_of_cast (Point.double_z_lt P) ?_)
    rw [Point.cast_double_z, hz, Nat.cast_zero, mul_zero]
  | @affine x y h hz hx hy =>
    by_cases hyy : y = (shortCurve b).negY x y
    · -- the tangent is vertical, and the last coordinate `2yz` is zero
      rw [WeierstrassCurve.Affine.Point.add_self_of_Y_eq hyy]
      refine .infinity (eq_zero_of_cast (Point.double_z_lt P) ?_)
      rw [negY_shortCurve] at hyy
      rw [Point.cast_double_z, hy]
      linear_combination (P.z : ZMod p) ^ 4 * hyy
    · rw [WeierstrassCurve.Affine.Point.add_self_of_Y_ne hyy]
      obtain ⟨htwo, hslope⟩ := slope_tangent hyy
      have hx' : ((Point.double p P).x : ZMod p) =
          ((shortCurve b).slope x x y y ^ 2 - x - x) * ((Point.double p P).z : ZMod p) ^ 2 := by
        rw [Point.cast_double_x, Point.cast_double_z, hx, hy]
        linear_combination (-(P.z : ZMod p) ^ 8 *
          (3 * x ^ 2 - 3 + 2 * y * (shortCurve b).slope x x y y)) * hslope
      refine .affine _ ?_ ?_ ?_
      · rw [Point.cast_double_z, hy]
        exact mul_ne_zero (by rw [← mul_assoc]; exact mul_ne_zero htwo (pow_ne_zero 3 hz)) hz
      · rw [addX_shortCurve, hx']
      · rw [addY_shortCurve, Point.cast_double_y, hx', Point.cast_double_z, hx, hy]
        linear_combination (-4 * y ^ 2 * (P.z : ZMod p) ^ 12 *
          (x - ((shortCurve b).slope x x y y ^ 2 - x - x))) * hslope

/-! ### Adding -/

namespace Point

variable {P Q : Point}

/-- Whether two triples have the same abscissa. -/
theorem sameX_iff : P.x * (Q.z * Q.z % p) % p = Q.x * (P.z * P.z % p) % p ↔
    (P.x : ZMod p) * (Q.z : ZMod p) ^ 2 = Q.x * (P.z : ZMod p) ^ 2 := by
  rw [← cast_eq_iff]
  simp only [Nat.cast_mul, ZMod.natCast_mod, sq]

/-- The test on the cross-multiplied ordinates compares them in the field. -/
theorem sameY_iff : P.y * (Q.z * Q.z % p * Q.z % p) % p = Q.y * (P.z * P.z % p * P.z % p) % p ↔
    (P.y : ZMod p) * (Q.z : ZMod p) ^ 3 = Q.y * (P.z : ZMod p) ^ 3 := by
  rw [← cast_eq_iff]
  simp only [Nat.cast_mul, ZMod.natCast_mod, pow_succ, pow_zero, one_mul]

/-- The sum of two triples with different abscissas. -/
theorem cast_add_of_ne (hP : P.z ≠ 0) (hQ : Q.z ≠ 0)
    (hx : (P.x : ZMod p) * (Q.z : ZMod p) ^ 2 ≠ Q.x * (P.z : ZMod p) ^ 2) :
    let h : ZMod p := Q.x * P.z ^ 2 - P.x * Q.z ^ 2
    let r : ZMod p := Q.y * P.z ^ 3 - P.y * Q.z ^ 3
    ((add p P Q).x : ZMod p) = r ^ 2 - h ^ 3 - 2 * (P.x * Q.z ^ 2 * h ^ 2) ∧
    ((add p P Q).y : ZMod p) =
      r * (P.x * Q.z ^ 2 * h ^ 2 - (add p P Q).x) - P.y * Q.z ^ 3 * h ^ 3 ∧
    ((add p P Q).z : ZMod p) = P.z * Q.z * h := by
  have hne : P.x * (Q.z * Q.z % p) % p ≠ Q.x * (P.z * P.z % p) % p := mt sameX_iff.mp hx
  simp only [add, if_neg hP, if_neg hQ, if_neg hne, cast_minus (mod_le _), cast_minus (minus_le _ _),
    ZMod.natCast_mod, Nat.cast_mul, Nat.cast_ofNat]
  refine ⟨?_, ?_, ?_⟩ <;> ring

/-- Addition hands equal points over to doubling, whose slope it could not compute. -/
theorem add_of_same (hP : P.z ≠ 0) (hQ : Q.z ≠ 0)
    (hx : (P.x : ZMod p) * (Q.z : ZMod p) ^ 2 = Q.x * (P.z : ZMod p) ^ 2)
    (hy : (P.y : ZMod p) * (Q.z : ZMod p) ^ 3 = Q.y * (P.z : ZMod p) ^ 3) :
    add p P Q = double p P := by
  simp only [add, if_neg hP, if_neg hQ, if_pos (sameX_iff.mpr hx), if_pos (sameY_iff.mpr hy)]

/-- Points with one abscissa and different ordinates add up to infinity. -/
theorem add_of_opposite (hP : P.z ≠ 0) (hQ : Q.z ≠ 0)
    (hx : (P.x : ZMod p) * (Q.z : ZMod p) ^ 2 = Q.x * (P.z : ZMod p) ^ 2)
    (hy : (P.y : ZMod p) * (Q.z : ZMod p) ^ 3 ≠ Q.y * (P.z : ZMod p) ^ 3) :
    add p P Q = infinity := by
  simp only [add, if_neg hP, if_neg hQ, if_pos (sameX_iff.mpr hx), if_neg (mt sameY_iff.mp hy)]

end Point

section Affine

variable {P Q : Point} {x₁ x₂ y₁ y₂ : ZMod p} (hz₁ : (P.z : ZMod p) ≠ 0) (hz₂ : (Q.z : ZMod p) ≠ 0)
include hz₁ hz₂

/-- The abscissas of triples, brought to one denominator, are the same if those of the points are. -/
theorem crossX_eq_iff (hx₁ : (P.x : ZMod p) = x₁ * (P.z : ZMod p) ^ 2)
    (hx₂ : (Q.x : ZMod p) = x₂ * (Q.z : ZMod p) ^ 2) :
    (P.x : ZMod p) * (Q.z : ZMod p) ^ 2 = Q.x * (P.z : ZMod p) ^ 2 ↔ x₁ = x₂ := by
  rw [hx₁, hx₂, mul_right_comm x₂, mul_assoc, mul_assoc,
    mul_left_inj' (mul_ne_zero (pow_ne_zero 2 hz₁) (pow_ne_zero 2 hz₂))]

/-- Cross-multiplied ordinates are equal exactly when the ordinates are. -/
theorem crossY_eq_iff (hy₁ : (P.y : ZMod p) = y₁ * (P.z : ZMod p) ^ 3)
    (hy₂ : (Q.y : ZMod p) = y₂ * (Q.z : ZMod p) ^ 3) :
    (P.y : ZMod p) * (Q.z : ZMod p) ^ 3 = Q.y * (P.z : ZMod p) ^ 3 ↔ y₁ = y₂ := by
  rw [hy₁, hy₂, mul_right_comm y₂, mul_assoc, mul_assoc,
    mul_left_inj' (mul_ne_zero (pow_ne_zero 3 hz₁) (pow_ne_zero 3 hz₂))]

/-- The sum of two triples for points with different abscissas. -/
theorem represents_add_of_ne {h₁ : (shortCurve b).Nonsingular x₁ y₁}
    {h₂ : (shortCurve b).Nonsingular x₂ y₂} (hP : P.z ≠ 0) (hQ : Q.z ≠ 0)
    (hx₁ : (P.x : ZMod p) = x₁ * (P.z : ZMod p) ^ 2)
    (hy₁ : (P.y : ZMod p) = y₁ * (P.z : ZMod p) ^ 3)
    (hx₂ : (Q.x : ZMod p) = x₂ * (Q.z : ZMod p) ^ 2)
    (hy₂ : (Q.y : ZMod p) = y₂ * (Q.z : ZMod p) ^ 3) (hx : x₁ ≠ x₂) :
    Represents (Point.add p P Q) (Point.some x₁ y₁ h₁ + Point.some x₂ y₂ h₂) := by
  obtain ⟨hx', hy', hz'⟩ := Point.cast_add_of_ne hP hQ (mt (crossX_eq_iff hz₁ hz₂ hx₁ hx₂).mp hx)
  rw [WeierstrassCurve.Affine.Point.add_of_X_ne hx]
  have hslope : (shortCurve b).slope x₁ x₂ y₁ y₂ * (x₁ - x₂) = y₁ - y₂ := by
    rw [WeierstrassCurve.Affine.slope_of_X_ne hx, div_mul_cancel₀ _ (sub_ne_zero.mpr hx)]
  have hz'' : ((Point.add p P Q).z : ZMod p) = (x₂ - x₁) * (P.z * Q.z) ^ 3 := by
    rw [hz', hx₁, hx₂]
    ring
  have hx'' : ((Point.add p P Q).x : ZMod p) =
      ((shortCurve b).slope x₁ x₂ y₁ y₂ ^ 2 - x₁ - x₂) * ((Point.add p P Q).z : ZMod p) ^ 2 := by
    rw [hz'', hx', hx₁, hx₂, hy₁, hy₂]
    linear_combination (-(P.z * Q.z : ZMod p) ^ 6 *
      (y₁ - y₂ + (shortCurve b).slope x₁ x₂ y₁ y₂ * (x₁ - x₂))) * hslope
  refine .affine _ ?_ ?_ ?_
  · rw [hz'']
    exact mul_ne_zero (sub_ne_zero.mpr (Ne.symm hx)) (pow_ne_zero 3 (mul_ne_zero hz₁ hz₂))
  · rw [addX_shortCurve, hx'']
  · rw [addY_shortCurve, hy', hx'', hz'', hx₁, hx₂, hy₁, hy₂]
    linear_combination ((x₁ - ((shortCurve b).slope x₁ x₂ y₁ y₂ ^ 2 - x₁ - x₂)) *
      (x₂ - x₁) ^ 2 * (P.z * Q.z : ZMod p) ^ 9) * hslope

end Affine

/-- Addition represents the sum of the points, in each of the cases the formula tells apart. -/
theorem Represents.add {P Q : Point} {A B : (shortCurve b).Point} (hA : Represents P A)
    (hB : Represents Q B) : Represents (Point.add p P Q) (A + B) := by
  have hdouble := hA.double
  cases hA with
  | infinity hP => rwa [zero_add, Point.add, if_pos hP]
  | @affine x₁ y₁ h₁ hz₁ hx₁ hy₁ =>
    have hP : P.z ≠ 0 := fun hzero => hz₁ (by rw [hzero, Nat.cast_zero])
    cases hB with
    | infinity hQ =>
      rw [add_zero, Point.add, if_neg hP, if_pos hQ]
      exact .affine h₁ hz₁ hx₁ hy₁
    | @affine x₂ y₂ h₂ hz₂ hx₂ hy₂ =>
      have hQ : Q.z ≠ 0 := fun hzero => hz₂ (by rw [hzero, Nat.cast_zero])
      have hsameX := crossX_eq_iff hz₁ hz₂ hx₁ hx₂
      have hsameY := crossY_eq_iff hz₁ hz₂ hy₁ hy₂
      -- the points are the same, opposite, or on a line that is not vertical
      by_cases hx : x₁ = x₂
      · by_cases hy : y₁ = y₂
        · rw [Point.add_of_same hP hQ (hsameX.mpr hx) (hsameY.mpr hy)]
          subst hx hy
          exact hdouble
        · rw [Point.add_of_opposite hP hQ (hsameX.mpr hx) (mt hsameY.mp hy)]
          have hopposite := (WeierstrassCurve.Affine.Y_eq_of_X_eq h₁.1 h₂.1 hx).resolve_left hy
          rw [WeierstrassCurve.Affine.Point.add_of_Y_eq hx hopposite]
          exact .infinity rfl
      · exact represents_add_of_ne hz₁ hz₂ hP hQ hx₁ hy₁ hx₂ hy₂ hx

/-! ### Multiples -/

/-- Doubling and adding along the bits of a number represents its multiple of the point. -/
theorem Represents.times {P : Point} {A : (shortCurve b).Point} (h : Represents P A) (n : ℕ) :
    Represents (Point.times p n P) (n • A) := by
  fun_induction Point.times p n P with
  | case1 =>
    rw [zero_nsmul]
    exact .infinity rfl
  | case2 n hn twice hodd ih =>
    have hsplit : n • A = (n / 2) • A + (n / 2) • A + A := by
      rw [← add_nsmul, ← succ_nsmul]
      congr 1
      omega
    rw [hsplit]
    exact ih.double.add h
  | case3 n hn twice hodd ih =>
    have hsplit : n • A = (n / 2) • A + (n / 2) • A := by
      rw [← add_nsmul]
      congr 1
      omega
    rw [hsplit]
    exact ih.double

/-! ### Affine coordinates -/

/-- Dividing by the powers of the denominator undoes them in the field. -/
theorem Point.cast_affine {P : Point} (hz : (P.z : ZMod p) ≠ 0) :
    ((P.affine p).1 : ZMod p) * (P.z : ZMod p) ^ 2 = P.x ∧
      ((P.affine p).2 : ZMod p) * (P.z : ZMod p) ^ 3 = P.y := by
  have hinverse : ((Modular.powMod P.z (p - 2) p : ℕ) : ZMod p) * P.z = 1 := by
    have htwo := (Fact.out : p.Prime).two_le
    rw [Modular.powMod_eq, ZMod.natCast_mod, Nat.cast_pow, ← pow_succ,
      show p - 2 + 1 = p - 1 by omega, ZMod.pow_card_sub_one_eq_one hz]
  simp only [affine, ZMod.natCast_mod, Nat.cast_mul]
  generalize ((Modular.powMod P.z (p - 2) p : ℕ) : ZMod p) = inverse at hinverse ⊢
  constructor
  · linear_combination P.x * (inverse * P.z + 1) * hinverse
  · linear_combination P.y * (inverse ^ 2 * P.z ^ 2 + inverse * P.z + 1) * hinverse

/-- The affine coordinates of a triple are those of the point that it represents. -/
theorem Represents.cast_affine {P : Point} {x y : ZMod p} {h : (shortCurve b).Nonsingular x y}
    (hP : Represents P (.some x y h)) :
    ((P.affine p).1 : ZMod p) = x ∧ ((P.affine p).2 : ZMod p) = y := by
  cases hP with
  | affine h hz hx hy =>
    obtain ⟨hx', hy'⟩ := Point.cast_affine hz
    exact ⟨mul_right_cancel₀ (pow_ne_zero 2 hz) (hx'.trans hx),
      mul_right_cancel₀ (pow_ne_zero 3 hz) (hy'.trans hy)⟩

/-- The affine **coordinates** of a point, as numbers below the prime; those of the point at infinity
are zero. -/
def coordinates : (shortCurve b).Point → ℕ × ℕ
  | .zero => (0, 0)
  | .some x y _ => (x.val, y.val)

/-- The affine coordinates of a triple are those of the point that it represents. -/
theorem Represents.affine_eq (hp : 2 < p) {P : Point} {A : (shortCurve b).Point}
    (h : Represents P A) : P.affine p = coordinates A := by
  cases h with
  | infinity hz =>
    have hinverse : Modular.powMod P.z (p - 2) p = 0 := by
      rw [Modular.powMod_eq, hz, zero_pow (by omega), Nat.zero_mod]
    simp only [Point.affine, hinverse, Nat.zero_mod, Nat.mul_zero]
    rfl
  | @affine x y h hz hx hy =>
    obtain ⟨hx', hy'⟩ := (Represents.affine h hz hx hy).cast_affine
    have hlt : ∀ a : ℕ, a % p < p := fun a => Nat.mod_lt a (by omega)
    rw [coordinates, ← hx', ← hy']
    exact Prod.ext (ZMod.val_cast_of_lt (hlt _)).symm (ZMod.val_cast_of_lt (hlt _)).symm

/-- Finite points are told apart by their coordinates. -/
theorem coordinates_injective {A B : (shortCurve b).Point} (hA : A ≠ 0) (hB : B ≠ 0)
    (h : coordinates A = coordinates B) : A = B := by
  cases A with
  | zero => contradiction
  | some x₁ y₁ h₁ =>
    cases B with
    | zero => contradiction
    | some x₂ y₂ h₂ =>
      obtain ⟨hx, hy⟩ := Prod.ext_iff.mp h
      obtain rfl := ZMod.val_injective p hx
      obtain rfl := ZMod.val_injective p hy
      rfl

/-! ### The base points -/

section Base

variable {curve : Curve}

/-- The base point is not of order two. -/
theorem Curve.two_mul_baseY_mod_ne_zero (curve : Curve) :
    2 * curve.baseY % curve.prime ≠ 0 := by
  cases curve <;> decide +kernel

theorem Curve.two_lt_prime (curve : Curve) : 2 < curve.prime := by
  cases curve <;> decide +kernel

/-- The base point's multiple by the order is at infinity, computed. -/
theorem times_order_z (curve : Curve) :
    (Point.times curve.prime curve.order (Point.base curve)).z = 0 := by
  cases curve <;> decide +kernel

/-- The last coefficient of the curve's equation, on which the base point lies. -/
def Curve.constant (curve : Curve) : ZMod curve.prime :=
  curve.baseY ^ 2 - curve.baseX ^ 3 + 3 * curve.baseX

/-- The base point is on its curve. -/
theorem Curve.nonsingular_base (curve : Curve) :
    (shortCurve curve.constant).Nonsingular curve.baseX curve.baseY := by
  rw [WeierstrassCurve.Affine.nonsingular_iff, WeierstrassCurve.Affine.equation_iff]
  constructor
  · simp only [shortCurve, constant]
    ring
  · right
    intro hopposite
    refine curve.two_mul_baseY_mod_ne_zero
      (Nat.mod_eq_zero_of_dvd ((ZMod.natCast_eq_zero_iff _ _).mp ?_))
    simp only [shortCurve] at hopposite
    push_cast
    linear_combination hopposite

/-- The base point as an element of the group. -/
def Curve.generator (curve : Curve) : (shortCurve curve.constant).Point :=
  .some _ _ curve.nonsingular_base

theorem represents_base (curve : Curve) : Represents (Point.base curve) curve.generator := by
  refine .affine _ ?_ ?_ ?_ <;> simp [Point.base]

/-- **Public points.** The affine point of a scalar is that multiple of the base point in the group. -/
theorem publicPoint_eq (curve : Curve) (scalar : ℕ) :
    publicPoint curve scalar = coordinates (scalar • curve.generator) :=
  ((represents_base curve).times scalar).affine_eq curve.two_lt_prime

/-- The order of the curve, times the base point, is the point at infinity. -/
theorem order_nsmul_generator (curve : Curve) : curve.order • curve.generator = 0 := by
  have htimes := (represents_base curve).times curve.order
  generalize curve.order • curve.generator = multiple at htimes ⊢
  cases htimes with
  | infinity => rfl
  | affine _ hz => exact absurd (by rw [times_order_z, Nat.cast_zero]) hz

/-- The order of the curve is the order of the base point, being prime. -/
theorem addOrderOf_generator (curve : Curve) : addOrderOf curve.generator = curve.order := by
  have : Fact curve.order.Prime := ⟨curve.order_prime⟩
  exact addOrderOf_eq_prime (order_nsmul_generator curve)
    (WeierstrassCurve.Affine.Point.some_ne_zero _)

/-- Multiples of the base point are equal where the scalars are, modulo the order. -/
theorem nsmul_generator_eq_iff {m n : ℕ} :
    m • curve.generator = n • curve.generator ↔ m ≡ n [MOD curve.order] := by
  rw [nsmul_eq_nsmul_iff_modEq, addOrderOf_generator]

/-- Only the multiples of the order lead to infinity. -/
theorem nsmul_generator_eq_zero_iff {n : ℕ} :
    n • curve.generator = 0 ↔ curve.order ∣ n := by
  rw [← addOrderOf_dvd_iff_nsmul_eq_zero, addOrderOf_generator]

end Base

/-- **Affine points determine scalars.** Scalars from one up to the order have different points. -/
theorem publicPoint_injective {curve : Curve} {m n : ℕ} (hm : 0 < m)
    (hm' : m < curve.order) (hn : 0 < n) (hn' : n < curve.order)
    (heq : publicPoint curve m = publicPoint curve n) : m = n := by
  have hne : ∀ k, 0 < k → k < curve.order → k • curve.generator ≠ 0 := by
    intro k hk hk' hzero
    have hle := Nat.le_of_dvd hk (nsmul_generator_eq_zero_iff.mp hzero)
    omega
  rw [publicPoint_eq, publicPoint_eq] at heq
  have hpoints : m • curve.generator = n • curve.generator :=
    coordinates_injective (hne m hm hm') (hne n hn hn') heq
  exact (nsmul_generator_eq_iff.mp hpoints).eq_of_lt_of_lt hm' hn'

end RequestSigning.Ecdsa
