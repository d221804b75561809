import Mathlib.Tactic.Linarith
import AirLab.CLang.Decimal

set_option relaxedAutoImplicit false
set_option autoImplicit false

/-!
# The range of floating-point values

A finite value of a bounded size takes a bounded number of characters. Sums and quotients of such
values stay finite and bounded.

## Main definitions

* `CLang.Flt.Within` — a finite value that is at most `b` in size.

## Main results

* `CLang.Flt.Within.add`, `CLang.Flt.Within.div` — sums, and quotients by a whole number.
* `CLang.Flt.Within.intWidth_le` — the width of such a value.
-/

namespace CLang

namespace Flt

/-- The value is finite and at most `b` in size. -/
def Within (b : ℕ) (x : Flt) : Prop := ∃ q, x = fin q ∧ |q| ≤ b

/-- Such a value is finite. -/
lemma Within.isFinite {b : ℕ} {x : Flt} (hx : x.Within b) : x.IsFinite := by
  obtain ⟨q, rfl, -⟩ := hx
  trivial

/-- A value of a smaller range. -/
lemma Within.mono {a b : ℕ} {x : Flt} (hx : x.Within a) (hab : a ≤ b) : x.Within b := by
  obtain ⟨q, rfl, hq⟩ := hx
  exact ⟨q, rfl, hq.trans (Nat.cast_le.2 hab)⟩

/-- Zero is in every range. -/
lemma within_zero (b : ℕ) : (0 : Flt).Within b := ⟨0, rfl, by simp⟩

/-- The range of a sum. -/
lemma Within.add {a b : ℕ} {x y : Flt} (hx : x.Within a) (hy : y.Within b) :
    (x + y).Within (a + b) := by
  obtain ⟨p, rfl, hp⟩ := hx
  obtain ⟨q, rfl, hq⟩ := hy
  have hsum := abs_add_le p q
  refine ⟨p + q, rfl, ?_⟩
  push_cast
  linarith

/-- The range of a quotient by a whole number. -/
lemma Within.div {b : ℕ} {x : Flt} (hx : x.Within b) {n : ℕ} (hn : 0 < n) :
    (x / .fin (n : ℚ)).Within b := by
  obtain ⟨q, rfl, hq⟩ := hx
  have hone : (1 : ℚ) ≤ n := Nat.one_le_cast.2 hn
  refine ⟨q / n, fin_div_fin (by linarith), ?_⟩
  rw [abs_div, abs_of_pos (by linarith : (0 : ℚ) < n)]
  exact (div_le_self (abs_nonneg q) hone).trans hq

/-- **The width of a value in a range**: a sign and the digits of the bound at most. -/
lemma Within.intWidth_le {b : ℕ} {x : Flt} (hx : x.Within b) :
    intWidth x.toRat ≤ Nat.log 10 b + 2 := by
  obtain ⟨q, rfl, hq⟩ := hx
  exact CLang.intWidth_le hq

end Flt

end CLang
