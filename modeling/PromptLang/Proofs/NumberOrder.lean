import Mathlib.Data.Int.Order.Basic
import Mathlib.Data.Prod.Lex
import Mathlib.Order.Compare
import PromptLang.Number.Binary

/-! The order of floats. Numbers are compared by sign, then by exponent and mantissa, so that each has a place in a linear order in which the
two zeros stand together. A NaN is at most no float, and no float is at most a NaN. -/

namespace PromptLang.Number

open Float.Model Float.Model.UnpackedFloat

abbrev Place := Int ×ₗ Int ×ₗ Int

/-- Where its parts put a float: by sign and size, then by exponent and mantissa, which count downwards below zero. A NaN is put before all
numbers. -/
def placeOf : UnpackedFloat → Place
  | .notANumber => toLex (-3, toLex (0, 0))
  | .infinity .negative => toLex (-2, toLex (0, 0))
  | .finite .negative m e _ => toLex (-1, toLex (-e, -m))
  | .zero _ => toLex (0, toLex (0, 0))
  | .finite .positive m e _ => toLex (1, toLex (e, m))
  | .infinity .positive => toLex (2, toLex (0, 0))

def place (x : Float) : Place := placeOf x.toModel.unpack

theorem compare_place (a a' b b' c c' : Int) :
    compare (toLex (a, toLex (b, c)) : Place) (toLex (a', toLex (b', c'))) =
      (compare a a').then ((compare b b').then (compare c c')) := by
  simp [Prod.Lex.compare_def, compareLex, compareOn]

theorem compare_neg (a b : Int) : compare (-a) (-b) = (compare a b).swap := by
  rw [← cmp_eq_compare, ← cmp_eq_compare, cmp_swap]
  have hanti : StrictAnti (Neg.neg : Int → Int) := fun _ _ h => Int.neg_lt_neg h
  exact hanti.cmp_map_eq a b

theorem compare_natCast (m n : Nat) : compare (m : Int) (n : Int) = compare m n := by
  rw [← cmp_eq_compare, ← cmp_eq_compare]
  have hmono : StrictMono (Nat.cast : Nat → Int) := fun _ _ h => Int.ofNat_lt.2 h
  exact hmono.cmp_map_eq m n

theorem compare_mirrored (e e' : Int) (m m' : Nat) :
    (compare (-e) (-e')).then (compare (-m : Int) (-m')) = ((compare e e').then (compare m m')).swap := by
  rw [compare_neg, compare_neg, compare_natCast, Ordering.swap_then]

/-- Numbers compare as their places do. -/
theorem compare_eq {a b : UnpackedFloat} (ha : a ≠ .notANumber) (hb : b ≠ .notANumber) :
    a.compare b = some (compare (placeOf a) (placeOf b)) := by
  cases a with
  | notANumber => exact absurd rfl ha
  | infinity s =>
    cases b with
    | notANumber => exact absurd rfl hb
    | infinity s' | zero s' | finite s' m e h => cases s <;> cases s' <;> rfl
  | zero s =>
    cases b with
    | notANumber => exact absurd rfl hb
    | infinity s' | zero s' | finite s' m e h => cases s <;> cases s' <;> rfl
  | finite s m e h =>
    cases b with
    | notANumber => exact absurd rfl hb
    | infinity s' | zero s' => cases s <;> cases s' <;> rfl
    | finite s' m' e' h' =>
      cases s with
      | positive =>
        cases s' with
        | positive =>
          have hplaces := compare_place 1 1 e e' m m'
          rw [compare_natCast] at hplaces
          exact congrArg some hplaces.symm
        | negative => rfl
      | negative =>
        cases s' with
        | positive => rfl
        | negative =>
          have hplaces := compare_place (-1) (-1) (-e) (-e') (-m) (-m')
          rw [compare_mirrored] at hplaces
          exact congrArg some hplaces.symm

section Order

variable {x y : Float}

theorem isNaN_eq_false_iff : x.isNaN = false ↔ x.toModel.unpack ≠ .notANumber := by
  have hnan : x.isNaN = x.toModel.unpack.isNaN := rfl
  rw [hnan]
  cases x.toModel.unpack with
  | notANumber => exact iff_of_false Bool.noConfusion fun h => h rfl
  | _ => exact iff_of_true rfl UnpackedFloat.noConfusion

theorem any_compare_iff (test : Ordering → Bool) : (x.toModel.unpack.compare y.toModel.unpack).any test = true ↔
    x.isNaN = false ∧ y.isNaN = false ∧ test (compare (place x) (place y)) = true := by
  rw [isNaN_eq_false_iff, isNaN_eq_false_iff]
  by_cases hx : x.toModel.unpack = .notANumber
  · rw [hx]
    exact iff_of_false Bool.noConfusion fun h => h.1 rfl
  · by_cases hy : y.toModel.unpack = .notANumber
    · have hnone : x.toModel.unpack.compare .notANumber = none := by cases x.toModel.unpack <;> rfl
      rw [hy, hnone]
      exact iff_of_false Bool.noConfusion fun h => h.2.1 rfl
    · rw [compare_eq hx hy]
      exact ⟨fun h => ⟨hx, hy, h⟩, fun h => h.2.2⟩

theorem beq_some (c : Option Ordering) (o : Ordering) : (c == some o) = c.any (· == o) := by
  cases c <;> rfl

theorem le_iff : x ≤ y ↔ x.isNaN = false ∧ y.isNaN = false ∧ place x ≤ place y := by
  have hle : x ≤ y ↔ (x.toModel.unpack.compare y.toModel.unpack).any Ordering.isLE = true := decide_eq_true_iff
  rw [hle, any_compare_iff, Ordering.isLE_iff_ne_gt, ← ne_eq, compare_le_iff_le]

theorem lt_iff : x < y ↔ x.isNaN = false ∧ y.isNaN = false ∧ place x < place y := by
  have hlt : x < y ↔ (x.toModel.unpack.compare y.toModel.unpack == some .lt) = true := decide_eq_true_iff
  rw [hlt, beq_some, any_compare_iff, beq_iff_eq, compare_lt_iff_lt]

theorem beq_iff : (x == y) = true ↔ x.isNaN = false ∧ y.isNaN = false ∧ place x = place y := by
  have hbeq : (x == y) = (x.toModel.unpack.compare y.toModel.unpack == some .eq) := rfl
  rw [hbeq, beq_some, any_compare_iff, beq_iff_eq, compare_eq_iff_eq]

end Order

end PromptLang.Number
