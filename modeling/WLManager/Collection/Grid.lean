import Mathlib.Algebra.Order.Ring.Nat
import Mathlib.Data.List.Basic

/-!
# Grids laid out row by row

`rowMajor` lists the cells of a grid one row after the other, each cell being a few elements. A
numbering of the cells without gaps gives the same list as counting through them, and where the
cells of two grids have the same lengths the lists agree only if the cells do.
-/

namespace WLManager.Grid

variable {α : Type*}

/-- The cells row by row, and column by column within a row. -/
def rowMajor (height width : ℕ) (cell : ℕ → ℕ → List α) : List α :=
  (List.range height).flatMap fun row ↦ (List.range width).flatMap fun col ↦ cell row col

theorem length_flatMap_range {f : ℕ → List α} {count length : ℕ}
    (hlength : ∀ i < count, (f i).length = length) :
    ((List.range count).flatMap f).length = length * count := by
  induction count with
  | zero => rfl
  | succ count ih =>
    have hbefore := ih fun i hi ↦ hlength i (Nat.lt_succ_of_lt hi)
    rw [List.range_succ, List.flatMap_append, List.flatMap_singleton, List.length_append, hbefore,
      hlength count (Nat.lt_succ_self count), Nat.mul_succ]

/-- Lists of blocks of the same lengths are equal block by block. -/
theorem flatMap_range_inj {f g : ℕ → List α} {count : ℕ}
    (hlength : ∀ i < count, (f i).length = (g i).length) :
    (List.range count).flatMap f = (List.range count).flatMap g ↔ ∀ i < count, f i = g i := by
  constructor
  · induction count with
    | zero => exact fun _ i hi ↦ absurd hi (Nat.not_lt_zero i)
    | succ count ih =>
      intro heq
      simp only [List.range_succ, List.flatMap_append, List.flatMap_singleton] at heq
      obtain ⟨hbefore, hlast⟩ := List.append_inj' heq (hlength count (Nat.lt_succ_self count))
      exact Nat.forall_lt_succ_right.mpr
        ⟨ih (fun i hi ↦ hlength i (Nat.lt_succ_of_lt hi)) hbefore, hlast⟩
  · intro heq
    apply List.flatMap_congr
    exact fun i hi ↦ heq i (List.mem_range.mp hi)

/-- Counting through the cells. -/
theorem flatMap_range_mul (f : ℕ → List α) (height width : ℕ) :
    (List.range (height * width)).flatMap f =
      rowMajor height width fun row col ↦ f (row * width + col) := by
  unfold rowMajor
  induction height with
  | zero => rw [Nat.zero_mul, List.range_zero, List.flatMap_nil, List.flatMap_nil]
  | succ height ih =>
    rw [Nat.succ_mul, List.range_add, List.flatMap_append, ih, List.flatMap_map, List.range_succ,
      List.flatMap_append, List.flatMap_singleton]

section Uniform

variable {height width length : ℕ} {cell cell' : ℕ → ℕ → List α}
  (hcell : ∀ row < height, ∀ col < width, (cell row col).length = length)
  (hcell' : ∀ row < height, ∀ col < width, (cell' row col).length = length)

include hcell

theorem length_rowMajor : (rowMajor height width cell).length = length * width * height :=
  length_flatMap_range fun row hrow ↦ length_flatMap_range (hcell row hrow)

include hcell'

/-- Two grids whose cells have one length are the same list exactly when their cells agree. -/
theorem rowMajor_inj :
    rowMajor height width cell = rowMajor height width cell' ↔
      ∀ row < height, ∀ col < width, cell row col = cell' row col := by
  unfold rowMajor
  rw [flatMap_range_inj fun row hrow ↦
    (length_flatMap_range (hcell row hrow)).trans (length_flatMap_range (hcell' row hrow)).symm]
  have hrows : ∀ row < height, ((List.range width).flatMap (cell row) =
      (List.range width).flatMap (cell' row) ↔ ∀ col < width, cell row col = cell' row col) := by
    intro row hrow
    exact flatMap_range_inj fun col hcol ↦
      (hcell row hrow col hcol).trans (hcell' row hrow col hcol).symm
  exact forall₂_congr hrows

end Uniform

end WLManager.Grid
