import Mathlib.Logic.Basic

/-!
# The order of floats

Two floats can be compared unless one of them is no number. A float that is not below another is
therefore at least the other, or one of the two is no number.
-/

namespace SiteBuilder.Decimal

open Float.Model

/-- Comparing signs the other way round gives the opposite. -/
theorem compare_sign_swap (s t : UnpackedFloat.Sign) : compare s t = (compare t s).swap := by
  cases s <;> cases t <;> rfl

/-- Two floats can be compared if neither is no number. -/
theorem isSome_compare (x y : UnpackedFloat) : (x.compare y).isSome = (!x.isNaN && !y.isNaN) := by
  cases x with
  | notANumber => cases y <;> rfl
  | infinity s => cases y <;> cases s <;> rfl
  | zero s =>
    cases y with
    | infinity t | finite t => cases t <;> rfl
    | _ => rfl
  | finite s =>
    cases y with
    | infinity t | finite t => cases s <;> cases t <;> rfl
    | _ => cases s <;> rfl

/-- Two floats cannot be compared if one of them is no number. -/
theorem compare_eq_none_iff (x y : UnpackedFloat) : x.compare y = none ↔ x.isNaN = true ∨ y.isNaN = true := by
  rw [← Option.not_isSome_iff_eq_none, isSome_compare]
  cases x.isNaN <;> cases y.isNaN <;> decide

/-- Comparing floats the other way round gives the opposite. -/
theorem compare_swap (x y : UnpackedFloat) : x.compare y = (y.compare x).map Ordering.swap := by
  have hint (i j : Int) : compare i j = (compare j i).swap := Std.OrientedCmp.eq_swap
  have hnat (i j : Nat) : compare i j = (compare j i).swap := Std.OrientedCmp.eq_swap
  cases x with
  | notANumber => cases y <;> rfl
  | infinity s =>
    cases y with
    | infinity t => exact congrArg some (compare_sign_swap s t)
    | notANumber => cases s <;> rfl
    | zero t => cases s <;> rfl
    | finite t => cases s <;> cases t <;> rfl
  | zero s =>
    cases y with
    | infinity t | finite t => cases t <;> rfl
    | _ => rfl
  | finite s m i =>
    cases y with
    | infinity t => cases s <;> cases t <;> rfl
    | notANumber => cases s <;> rfl
    | zero t => cases s <;> rfl
    | finite t n j =>
      have hparts : (compare i j).then (compare m n) = ((compare j i).then (compare n m)).swap := by
        rw [Ordering.swap_then, ← hint, ← hnat]
      cases s <;> cases t
      case negative.negative => exact congrArg (fun order => some order.swap) hparts
      case positive.positive => exact congrArg some hparts
      all_goals rfl

/-- A float is below another if the comparison says so. -/
theorem lt_iff_compare (x y : Float) : x < y ↔ x.toModel.unpack.compare y.toModel.unpack = some .lt := by
  rw [← beq_iff_eq]
  exact decide_eq_true_iff

/-- A float is at most another if the comparison does not say otherwise. -/
theorem le_iff_compare (x y : Float) :
    x ≤ y ↔ ∃ order, x.toModel.unpack.compare y.toModel.unpack = some order ∧ order.isLE = true := by
  rw [← Option.any_eq_true]
  exact decide_eq_true_iff

/-- A float is at most another, or one of them is no number. -/
def NotAbove (x y : Float) : Prop := x.isNaN = true ∨ y.isNaN = true ∨ x ≤ y

/-- A float is not above another if the other is not below it. -/
theorem notAbove_iff_not_lt (x y : Float) : NotAbove x y ↔ ¬ y < x := by
  have hnan : x.toModel.unpack.compare y.toModel.unpack = none ↔ x.isNaN = true ∨ y.isNaN = true :=
    compare_eq_none_iff _ _
  rw [NotAbove, ← or_assoc, ← hnan, lt_iff_compare, le_iff_compare, compare_swap y.toModel.unpack]
  cases x.toModel.unpack.compare y.toModel.unpack with
  | none => simp
  | some order => cases order <;> simp

/-- Numbers are not above others if they are at most these. -/
theorem notAbove_iff_le {x y : Float} (hx : x.isNaN = false) (hy : y.isNaN = false) :
    NotAbove x y ↔ x ≤ y := by
  rw [NotAbove, hx, hy]
  simp

end SiteBuilder.Decimal
