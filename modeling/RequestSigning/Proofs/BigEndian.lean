import RequestSigning.Bytes
import Mathlib.Tactic.Ring
import Mathlib.Tactic.Positivity

/-!
# Numbers as byte strings

`Bytes.toNat` reads a byte string as a number in base 256, `Bytes.ofNat` writes one in a given
width, and `Bytes.minimal` in the width that the number needs. Reading undoes writing up to the
width (`toNat_ofNat`), writing undoes reading at the length read (`ofNat_toNat`), and
`Bytes.width` is the least width that holds a number (`lt_pow_width`, `width_le_iff`).

All encodings of keys and signatures go through these three functions, so their round
trips are proved here once. The most significant byte comes first, and the induction is on the list
from the front: a byte in front adds its multiple of a power of 256 (`toNat_cons`).
-/

namespace RequestSigning.Bytes

/-! ### Reading -/

@[simp] theorem toNat_nil : toNat [] = 0 := rfl

private theorem foldl_toNat (n : Nat) (bytes : Bytes) :
    bytes.foldl (fun n b => n * 256 + b.toNat) n = n * 256 ^ bytes.length + toNat bytes := by
  induction bytes generalizing n with
  | nil => simp
  | cons b bytes ih =>
    have hzero := ih (0 * 256 + b.toNat)
    rw [toNat, List.foldl_cons, List.foldl_cons, ih, hzero, List.length_cons, pow_succ]
    ring

theorem toNat_append (a b : Bytes) : toNat (a ++ b) = toNat a * 256 ^ b.length + toNat b := by
  rw [toNat, List.foldl_append, foldl_toNat]
  rfl

theorem toNat_cons (b : UInt8) (bytes : Bytes) :
    toNat (b :: bytes) = b.toNat * 256 ^ bytes.length + toNat bytes := by
  rw [← List.singleton_append, toNat_append]
  simp [toNat]

theorem toNat_lt (bytes : Bytes) : toNat bytes < 256 ^ bytes.length := by
  induction bytes with
  | nil => simp
  | cons b bytes ih =>
    have hb : b.toNat < 256 := b.toNat_lt
    rw [toNat_cons, List.length_cons, pow_succ]
    have hle : b.toNat * 256 ^ bytes.length ≤ 255 * 256 ^ bytes.length :=
      Nat.mul_le_mul_right _ (by omega)
    omega

/-! ### Writing -/

/-- Reading what was written in a width gives the number up to multiples of the width's power. -/
theorem toNat_ofNat (w n : Nat) : toNat (ofNat w n) = n % 256 ^ w := by
  induction w with
  | zero => simp [ofNat, Nat.mod_one]
  | succ w ih =>
    have hshift : n >>> (8 * w) = n / 256 ^ w := by
      rw [Nat.shiftRight_eq_div_pow, pow_mul]
      rfl
    have hdigit : (UInt8.ofNat (n / 256 ^ w)).toNat = n / 256 ^ w % 256 := UInt8.toNat_ofNat'
    rw [ofNat, toNat_cons, length_ofNat, ih, hshift, hdigit, pow_succ, Nat.mod_mul, Nat.add_comm,
      Nat.mul_comm]

theorem toNat_ofNat_of_lt {w n : Nat} (h : n < 256 ^ w) : toNat (ofNat w n) = n := by
  rw [toNat_ofNat, Nat.mod_eq_of_lt h]

/-- Byte strings of one length that write the same number are the same. -/
theorem toNat_injective {a b : Bytes} (hlength : a.length = b.length)
    (h : toNat a = toNat b) : a = b := by
  induction a generalizing b with
  | nil => exact (List.length_eq_zero_iff.mp hlength.symm).symm
  | cons x a ih =>
    cases b with
    | nil => simp at hlength
    | cons y b =>
      have hlen : a.length = b.length := by simpa using hlength
      rw [toNat_cons, toNat_cons, hlen] at h
      have ha := toNat_lt a
      have hb := toNat_lt b
      rw [hlen] at ha
      -- the leading digits agree because the rest is below one unit of them
      have hdigit : x.toNat = y.toNat := by
        have hpos : 0 < 256 ^ b.length := by positivity
        have hx := Nat.add_mul_div_left (toNat a) x.toNat hpos
        have hy := Nat.add_mul_div_left (toNat b) y.toNat hpos
        rw [Nat.div_eq_of_lt ha, Nat.mul_comm, Nat.add_comm, Nat.zero_add] at hx
        rw [Nat.div_eq_of_lt hb, Nat.mul_comm, Nat.add_comm, Nat.zero_add] at hy
        rw [← hx, ← hy, h]
      rw [hdigit] at h
      rw [UInt8.toNat_inj.mp hdigit, ih hlen (by omega)]

/-- Writing a number read from a byte string in the string's length gives the string again. -/
theorem ofNat_toNat (bytes : Bytes) : ofNat bytes.length (toNat bytes) = bytes :=
  toNat_injective (length_ofNat _ _) (toNat_ofNat_of_lt (toNat_lt bytes))

/-! ### Widths -/

theorem lt_pow_width (n : Nat) : n < 256 ^ width n := by
  rw [width]
  split_ifs with h
  · simp [h]
  · rw [show (256 : Nat) = 2 ^ 8 by rfl, ← pow_mul]
    exact Nat.lt_log2_self.trans_le (Nat.pow_le_pow_right (by norm_num) (by omega))

/-- A number needs no more bytes than it fits in. -/
theorem width_le_of_lt {n w : Nat} (h : n < 256 ^ w) : width n ≤ w := by
  rw [width]
  split_ifs with hn
  · exact Nat.zero_le w
  · rw [show (256 : Nat) = 2 ^ 8 by rfl, ← pow_mul] at h
    have hlog := (Nat.log2_lt hn).mpr h
    omega

/-- **Least width.** A width holds a number exactly when it is at least the number's own. -/
theorem width_le_iff {n w : Nat} : width n ≤ w ↔ n < 256 ^ w :=
  ⟨fun h => (lt_pow_width n).trans_le (Nat.pow_le_pow_right (by norm_num) h), width_le_of_lt⟩

/-- A power of the base needs one byte more than its exponent. -/
theorem lt_width_pow (w : Nat) : w < width (256 ^ w) := by
  have hfits : width (256 ^ w) ≤ w ↔ 256 ^ w < 256 ^ w := width_le_iff
  omega

@[simp] theorem length_minimal (n : Nat) : (minimal n).length = width n :=
  length_ofNat _ _

@[simp] theorem toNat_minimal (n : Nat) : toNat (minimal n) = n :=
  toNat_ofNat_of_lt (lt_pow_width n)

/-- The shortest form has no leading zero byte. -/
theorem minimal_head_ne_zero {n : Nat} {first : UInt8} {rest : Bytes}
    (h : minimal n = first :: rest) : first ≠ 0 := by
  rintro rfl
  have hvalue := toNat_minimal n
  have hlength := length_minimal n
  rw [h, toNat_cons] at hvalue
  rw [h, List.length_cons] at hlength
  have hshort : n < 256 ^ rest.length := by
    rw [← hvalue]
    simpa using toNat_lt rest
  have hwidth := width_le_of_lt hshort
  omega

end RequestSigning.Bytes
