import Mathlib.Data.Rat.Cast.Order
import Mathlib.Algebra.Order.Field.Power
import Mathlib.Tactic.Positivity
import LayeredLint.Value.Equality

/-!
# What numbers count

- `Binary64.rational?`, `Value.rational?`: the rational number that a number is; infinities and NaNs
  are none.
- `Binary64.integer?_eq_some_iff`: a number is equal to an integer when it is that rational number.
- `Value.equal_int_iff`: **a value equals an integer when it counts as much**, in any form.
-/

namespace LayeredLint

namespace Binary64

/-- The rational number that a finite number is. -/
def rational? : Binary64 → Option ℚ
  | .finite negative m q => some ((if negative then -1 else 1) * (m * 2 ^ q))
  | _ => none

theorem twoTo_cast {q : Int} (h : 0 ≤ q) : (twoTo q : ℚ) = 2 ^ q := by
  obtain ⟨k, rfl⟩ := Int.eq_ofNat_of_zero_le h
  show ((2 ^ k : Nat) : ℚ) = 2 ^ (k : Int)
  rw [Nat.cast_pow, Nat.cast_ofNat, zpow_natCast]

theorem twoTo_pos (q : Int) : 0 < twoTo q :=
  Nat.pow_pos (by decide)

/-- Division by a power of two leaves an integer exactly when there is no remainder. -/
theorem magnitude_eq_some_iff {m k : Nat} {q : Int} :
    (if 0 ≤ q then some (m * twoTo q)
      else if m % twoTo (-q) = 0 then some (m / twoTo (-q)) else none) = some k ↔
        (m : ℚ) * 2 ^ q = k := by
  by_cases hq : 0 ≤ q
  · rw [if_pos hq, Option.some.injEq, ← twoTo_cast hq, ← Nat.cast_mul, Nat.cast_inj]
  · have hpos : (0 : ℚ) < twoTo (-q) := Nat.cast_pos.2 (twoTo_pos (-q))
    have hscale : (m : ℚ) * 2 ^ q = k ↔ m = k * twoTo (-q) := by
      rw [← neg_neg q, zpow_neg, ← twoTo_cast (by omega), neg_neg, ← div_eq_mul_inv,
        div_eq_iff hpos.ne', ← Nat.cast_mul, Nat.cast_inj]
    rw [if_neg hq, hscale]
    constructor
    · intro h
      split at h
      · next hdvd =>
        cases h
        exact (Nat.div_mul_cancel (Nat.dvd_of_mod_eq_zero hdvd)).symm
      · cases h
    · rintro rfl
      rw [if_pos (Nat.mul_mod_left _ _), Nat.mul_div_cancel _ (twoTo_pos (-q))]

/-- A number is equal to an integer when it is that rational number. -/
theorem integer?_eq_some_iff {x : Binary64} {n : Int} :
    x.integer? = some n ↔ x.rational? = some (n : ℚ) := by
  cases x with
  | nan payload => exact iff_of_false nofun nofun
  | infinity negative => exact iff_of_false nofun nofun
  | finite negative m q =>
    have hnonneg : (0 : ℚ) ≤ m * 2 ^ q := by positivity
    simp only [integer?, rational?, Option.map_eq_some_iff, Option.bind_eq_bind,
      Option.bind_eq_some_iff, magnitude_eq_some_iff, Option.pure_def, Option.some.injEq]
    constructor
    · rintro ⟨_, ⟨k, hk, rfl⟩, rfl⟩
      rw [hk]
      cases negative <;> simp
    · intro h
      -- the magnitude is an integer that is not negative, so a natural number
      obtain ⟨j, hj, hsign⟩ : ∃ j : Int, (m : ℚ) * 2 ^ q = j ∧ (if negative then -j else j) = n := by
        cases negative
        · exact ⟨n, by simpa using h, rfl⟩
        · refine ⟨-n, ?_, neg_neg n⟩
          rw [Int.cast_neg, ← h]
          simp
      rw [hj] at hnonneg
      obtain ⟨k, rfl⟩ := Int.eq_ofNat_of_zero_le (Int.cast_nonneg_iff.1 hnonneg)
      exact ⟨k, ⟨k, hj, rfl⟩, hsign⟩

end Binary64

namespace Value

/-- The rational number that a value counts, none for what is no number. -/
def rational? : Value → Option ℚ
  | .bool b => some (if b then 1 else 0)
  | .int n => some n
  | .float x => x.rational?
  | _ => none

theorem rational?_of_isNumber_eq_false {v : Value} (h : isNumber v = false) :
    v.rational? = none := by
  cases v <;> first | rfl | cases h

/-- A number names the same entry as an integer when it counts as much. -/
theorem keyForm_eq_int_iff {v : Value} {n : Int} (h : isNumber v = true) :
    keyForm v = .int n ↔ v.rational? = some (n : ℚ) := by
  cases v with
  | bool b => cases b <;> simp [keyForm, rational?, eq_comm]
  | int m => simp [keyForm, rational?]
  | float x =>
    rw [rational?, ← Binary64.integer?_eq_some_iff]
    unfold keyForm
    split
    · next m hm => rw [hm, Value.int.injEq, Option.some.injEq]
    · next hnone =>
      rw [hnone]
      exact iff_of_false (fun h => by cases h) (fun h => by cases h)
  | _ => cases h

theorem equal_int (v : Value) (n : Int) :
    equal v (.int n) = (isNumber v && decide (keyForm v = .int n)) := by
  cases v <;> rfl

/-- **A value equals an integer when it counts as much.** -/
theorem equal_int_iff (v : Value) (n : Int) :
    equal v (.int n) = true ↔ v.rational? = some (n : ℚ) := by
  rw [equal_int, Bool.and_eq_true, decide_eq_true_eq]
  cases hnumber : isNumber v with
  | true => exact (and_iff_right rfl).trans (keyForm_eq_int_iff hnumber)
  | false =>
    rw [rational?_of_isNumber_eq_false hnumber]
    exact iff_of_false (fun h => nomatch h.1) nofun

end Value

end LayeredLint
