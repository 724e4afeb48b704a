import Mathlib.Algebra.Order.Field.Basic
import Mathlib.Algebra.Order.Floor.Ring
import Mathlib.Tactic.FieldSimp
import Mathlib.Tactic.Linarith
import Mathlib.Tactic.Positivity
import Mathlib.Tactic.Ring

/-!
# Relative errors

`Near u x y` says that `y` stands for `x` up to a relative error of at most `u`. A rounded
operation returns something near its exact result; the rules here carry the bound through scaling,
division and a second rounding, and turn it into bounds on the result itself. Truncation enters
only through `Int.floor`.
-/

namespace WLManager.Numeric

variable {α : Type*} [Field α] [LinearOrder α] [IsStrictOrderedRing α]

/-- `y` is `x` up to a relative error of at most `u`. -/
def Near (u x y : α) : Prop := |y - x| ≤ u * |x|

variable {u v x y z : α}

theorem near_self (hu : 0 ≤ u) (x : α) : Near u x x := by
  rw [Near, sub_self, abs_zero]
  exact mul_nonneg hu (abs_nonneg x)

theorem Near.mul_left (h : Near u x y) (c : α) : Near u (c * x) (c * y) := by
  unfold Near at h ⊢
  calc
    |c * y - c * x| = |c| * |y - x| := by rw [← mul_sub, abs_mul]
    _ ≤ |c| * (u * |x|) := mul_le_mul_of_nonneg_left h (abs_nonneg c)
    _ = u * |c * x| := by rw [abs_mul]; ring

/-- Two errors one after the other. -/
theorem Near.trans (h : Near u x y) (h' : Near v y z) (hv : 0 ≤ v) :
    Near (u + v + u * v) x z := by
  unfold Near at h h' ⊢
  have hy : |y| ≤ |x| + u * |x| := by
    calc
      |y| = |x + (y - x)| := by rw [add_sub_cancel]
      _ ≤ |x| + |y - x| := abs_add_le x (y - x)
      _ ≤ |x| + u * |x| := by gcongr
  calc
    |z - x| = |(z - y) + (y - x)| := by rw [sub_add_sub_cancel]
    _ ≤ |z - y| + |y - x| := abs_add_le _ _
    _ ≤ v * |y| + u * |x| := add_le_add h' h
    _ ≤ v * (|x| + u * |x|) + u * |x| := by gcongr
    _ = (u + v + u * v) * |x| := by ring

section Nonneg

variable (hx : 0 ≤ x) (h : Near u x y)

include hx h

theorem Near.le : y ≤ (1 + u) * x := by
  unfold Near at h
  rw [abs_of_nonneg hx] at h
  have habove := (abs_le.mp h).2
  linarith

theorem Near.ge : (1 - u) * x ≤ y := by
  unfold Near at h
  rw [abs_of_nonneg hx] at h
  have hbelow := (abs_le.mp h).1
  linarith

theorem Near.nonneg (hu : u ≤ 1) : 0 ≤ y :=
  le_trans (mul_nonneg (sub_nonneg.mpr hu) hx) (h.ge hx)

end Nonneg

theorem Near.pos (hx : 0 < x) (h : Near u x y) (hu : u < 1) : 0 < y :=
  lt_of_lt_of_le (mul_pos (sub_pos.mpr hu) hx) (h.ge hx.le)

/-- The exact value is near the rounded one. -/
theorem Near.symm (h : Near u x y) (hu : 0 ≤ u) (hu' : u < 1) : Near (u / (1 - u)) y x := by
  unfold Near at h ⊢
  have hpos : 0 < 1 - u := sub_pos.mpr hu'
  have hxy : (1 - u) * |x| ≤ |y| := by
    have htriangle : |x| ≤ |y| + |y - x| := by
      calc
        |x| = |y - (y - x)| := by rw [sub_sub_cancel]
        _ ≤ |y| + |y - x| := abs_sub _ _
    linarith
  calc
    |x - y| = |y - x| := abs_sub_comm x y
    _ ≤ u * |x| := h
    _ = u / (1 - u) * ((1 - u) * |x|) := by field_simp
    _ ≤ u / (1 - u) * |y| := by gcongr

/-- Dividing by a rounded positive value. -/
theorem Near.div_left (h : Near u x y) (hu : 0 ≤ u) (hu' : u < 1) (hx : 0 < x) (c : α) :
    Near (u / (1 - u)) (c / x) (c / y) := by
  have hy := h.pos hx hu'
  have hsymm := h.symm hu hu'
  unfold Near at hsymm ⊢
  have hquotient : c / y - c / x = c / (x * y) * (x - y) := by
    field_simp
  calc
    |c / y - c / x| = |c / (x * y)| * |x - y| := by rw [hquotient, abs_mul]
    _ ≤ |c / (x * y)| * (u / (1 - u) * |y|) := by gcongr
    _ = u / (1 - u) * (|c / (x * y)| * |y|) := by ring
    _ = u / (1 - u) * |c / x| := by
      rw [← abs_mul]
      congr 2
      field_simp

/-- If a scaled width rounds to at least the height, then the height scaled back rounds to less
than one above the width, as long as the two errors together stay below one. -/
theorem quotient_lt_of_le_product {width height scale product quotient : α} (hwidth : 0 ≤ width)
    (hheight : 0 ≤ height) (hscale : 0 < scale) (hu : 0 ≤ u)
    (hproduct : Near u (width * scale) product) (hquotient : Near u (height / scale) quotient)
    (hfits : height ≤ product) (hsmall : (1 + u) ^ 2 * width < width + 1) :
    quotient < width + 1 := by
  have hback : height / scale ≤ (1 + u) * width := by
    rw [div_le_iff₀ hscale, mul_assoc]
    exact hfits.trans (hproduct.le (mul_nonneg hwidth hscale.le))
  calc
    quotient ≤ (1 + u) * (height / scale) := hquotient.le (div_nonneg hheight hscale.le)
    _ ≤ (1 + u) * ((1 + u) * width) := by gcongr
    _ = (1 + u) ^ 2 * width := by ring
    _ < width + 1 := hsmall

section Floor

variable [FloorRing α]

/-- Truncating a nonnegative result costs less than one, and an error that stays below one up to
the size of the result costs less than another. -/
theorem Near.abs_floor_sub_lt (h : Near u x y) (hu : 0 ≤ u) (hu' : u < 1) (hy : 0 ≤ y)
    (hsmall : u / (1 - u) * y ≤ 1) : |(⌊y⌋ : α) - x| < 2 := by
  have hsymm := h.symm hu hu'
  unfold Near at hsymm
  rw [abs_of_nonneg hy] at hsymm
  have hfloor : |(⌊y⌋ : α) - y| < 1 := by
    rw [abs_sub_comm, Int.self_sub_floor, abs_of_nonneg (Int.fract_nonneg y)]
    exact Int.fract_lt_one y
  calc
    |(⌊y⌋ : α) - x| = |((⌊y⌋ : α) - y) + (y - x)| := by rw [sub_add_sub_cancel]
    _ ≤ |(⌊y⌋ : α) - y| + |y - x| := abs_add_le _ _
    _ < 1 + 1 := by
      rw [abs_sub_comm y x]
      exact add_lt_add_of_lt_of_le hfloor (hsymm.trans hsmall)
    _ = 2 := one_add_one_eq_two

/-- The exact value is at most the error, for results of that size, above what truncating the result
leaves and one more. -/
theorem Near.lt_floor_add {bound slack : α} (h : Near u x y) (hx : 0 ≤ x) (hu : 0 ≤ u) (hu' : u < 1)
    (hy : y ≤ bound) (hslack : u * bound ≤ slack * (1 - u)) : x < ⌊y⌋ + 1 + slack := by
  have hpos : 0 < 1 - u := sub_pos.mpr hu'
  have hbelow := h.ge hx
  have herror : u * x ≤ slack := by
    refine le_of_mul_le_mul_right ?_ hpos
    calc
      u * x * (1 - u) = u * ((1 - u) * x) := by ring
      _ ≤ u * bound := mul_le_mul_of_nonneg_left (hbelow.trans hy) hu
      _ ≤ slack * (1 - u) := hslack
  calc
    x = (1 - u) * x + u * x := by ring
    _ ≤ y + slack := add_le_add hbelow herror
    _ < ⌊y⌋ + 1 + slack := by
      have hfloor := Int.lt_floor_add_one y
      linarith

end Floor

end WLManager.Numeric
