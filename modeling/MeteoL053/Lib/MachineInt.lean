import Mathlib.Algebra.Order.Ring.Abs
import Mathlib.Algebra.Order.Ring.Int
import Mathlib.Tactic.Linarith

/-!
Signed machine integers, as integers that stay in the range of their type. An
operation has no result when it overflows or divides by zero, so a computation
has one exactly if every intermediate fits, and then it is the exact one.
-/

namespace MachineInt

inductive IntType where
  | int32
  | int64
  deriving DecidableEq, Repr

namespace IntType

/-- One more than the largest value. -/
def bound : IntType → Int
  | int32 => 2147483648
  | int64 => 9223372036854775808

variable (τ : IntType) (x y : Int)

def Fits : Prop := -τ.bound ≤ x ∧ x < τ.bound

instance : Decidable (τ.Fits x) := inferInstanceAs (Decidable (_ ∧ _))

def checked : Option Int := if τ.Fits x then some x else none

def add : Option Int := τ.checked (x + y)

def sub : Option Int := τ.checked (x - y)

def mul : Option Int := τ.checked (x * y)

/-- A shift to the left, of a negative number too. -/
def shl (n : Nat) : Option Int := τ.checked (x * 2 ^ n)

/-- A shift to the right that keeps the sign. -/
def shr (n : Nat) : Option Int := τ.checked (x >>> n)

/-- Division rounds towards zero. -/
def div : Option Int := if y = 0 then none else τ.checked (x.tdiv y)

variable {τ x y} {α : Type} {f : Int → Option α} {a : α}

theorem checked_bind : (τ.checked x >>= f) = some a ↔ τ.Fits x ∧ f x = some a := by
  unfold checked
  by_cases h : τ.Fits x
  · rw [if_pos h, and_iff_right h]
    rfl
  · rw [if_neg h]
    exact iff_of_false (Option.some_ne_none a).symm fun hfits => h hfits.1

theorem div_bind : (τ.div x y >>= f) = some a ↔
    y ≠ 0 ∧ τ.Fits (x.tdiv y) ∧ f (x.tdiv y) = some a := by
  unfold div
  by_cases h : y = 0
  · rw [if_pos h]
    exact iff_of_false (Option.some_ne_none a).symm fun hdiv => hdiv.1 h
  · rw [if_neg h, checked_bind, and_iff_right h]

theorem fits_zero (τ : IntType) : τ.Fits 0 := by
  cases τ <;> decide

theorem fits_mul_zero (x : Int) (hy : y = 0) : τ.Fits (x * y) := by
  rw [hy, mul_zero]
  exact τ.fits_zero

end IntType

/-! ## Magnitudes -/

/-- `x` is at most `m` away from zero. -/
def Within (m x : Int) : Prop := -m ≤ x ∧ x ≤ m

instance (m x : Int) : Decidable (Within m x) := inferInstanceAs (Decidable (_ ∧ _))

section Within

variable {m n x y : Int}

theorem within_iff : Within m x ↔ |x| ≤ m := abs_le.symm

theorem Within.add (hx : Within m x) (hy : Within n y) : Within (m + n) (x + y) :=
  ⟨by rw [neg_add]; exact add_le_add hx.1 hy.1, add_le_add hx.2 hy.2⟩

theorem Within.neg (hx : Within m x) : Within m (-x) :=
  ⟨neg_le_neg hx.2, neg_le.mp hx.1⟩

theorem Within.sub (hx : Within m x) (hy : Within n y) : Within (m + n) (x - y) := by
  rw [sub_eq_add_neg]
  exact hx.add hy.neg

theorem Within.mul (hx : Within m x) (hy : Within n y) : Within (m * n) (x * y) := by
  rw [within_iff] at hx hy ⊢
  rw [abs_mul]
  exact mul_le_mul hx hy (abs_nonneg y) (le_trans (abs_nonneg x) hx)

/-- A shift to the right divides the magnitude. -/
theorem Within.shiftRight {k : Nat} (hx : Within n x) (h : n ≤ m * 2 ^ k) :
    Within m (x >>> k) := by
  have hpos : (0 : Int) < 2 ^ k := pow_pos (by decide) k
  rw [Int.shiftRight_eq_div_pow, Nat.cast_pow, Nat.cast_ofNat]
  constructor
  · apply Int.le_ediv_of_mul_le hpos
    rw [neg_mul]
    exact le_trans (neg_le_neg h) hx.1
  · exact Int.ediv_le_of_le_mul hpos (le_trans hx.2 h)

theorem Within.tdiv (hx : Within m x) (y : Int) : Within m (x.tdiv y) := by
  rw [within_iff, Int.abs_eq_natAbs] at hx ⊢
  exact le_trans (Int.ofNat_le.mpr (Int.natAbs_tdiv_le_natAbs x y)) hx

theorem Within.mono (hx : Within m x) (h : m ≤ n) : Within n x :=
  ⟨le_trans (neg_le_neg h) hx.1, le_trans hx.2 h⟩

theorem Within.fits32 (hx : Within m x) (h : m < 2147483648) : IntType.int32.Fits x :=
  ⟨le_trans (neg_le_neg h.le) hx.1, lt_of_le_of_lt hx.2 h⟩

theorem Within.fits64 (hx : Within m x) (h : m < 9223372036854775808) : IntType.int64.Fits x :=
  ⟨le_trans (neg_le_neg h.le) hx.1, lt_of_le_of_lt hx.2 h⟩

theorem within32 (h : IntType.int32.Fits x) : Within 2147483648 x := ⟨h.1, h.2.le⟩

theorem within64 (h : IntType.int64.Fits x) : Within 9223372036854775808 x := ⟨h.1, h.2.le⟩

/-- 46340 is the largest number whose square is an `int32_t`. -/
theorem square_fits_iff : IntType.int32.Fits (x * x) ↔ Within 46340 x := by
  constructor
  · intro h
    have hlt : x * x < 2147483648 := h.2
    constructor
    · by_contra hx
      nlinarith
    · by_contra hx
      nlinarith
  · intro h
    exact (h.mul h).fits32 (by omega)

end Within

end MachineInt
