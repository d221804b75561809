import Mathlib.Data.Rat.Defs
import Mathlib.Data.Rat.Cast.Order
import Mathlib.Tactic.Lemma

set_option relaxedAutoImplicit false
set_option autoImplicit false

/-!
# Floating-point values read as rationals

A floating-point value is a rational number, an infinity or not a number. Arithmetic on finite
values is exact; the cases that leave the finite values (division by zero, infinite and
undefined operands) follow the rules of IEEE 754. The two zeros are one value, a zero divisor
counting as the positive one.

## Main definitions

* `CLang.Flt` — the values, with `+`, `*`, `/` and `0`.
* `CLang.Flt.ofBits` — the value of a 32-bit pattern.
* `CLang.Flt.fltMax`, `CLang.Flt.InFloatRange` — the range of the type `float`.
-/

namespace CLang

/-- A floating-point value. -/
inductive Flt
  | fin (q : ℚ)
  | inf (neg : Bool)
  | nan
  deriving DecidableEq

namespace Flt

instance : Zero Flt := ⟨fin 0⟩

/-- A finite value. -/
def IsFinite : Flt → Prop
  | fin _ => True
  | _ => False

instance : DecidablePred IsFinite := fun x => by
  cases x <;> unfold IsFinite <;> infer_instance

/-- The rational number of a finite value, `0` for the others. -/
def toRat : Flt → ℚ
  | fin q => q
  | _ => 0

/-- `FLT_MAX`: the largest finite value of the format binary32. -/
def fltMax : ℕ := (2 ^ 24 - 1) * 2 ^ 104

/-- A finite value of the type `float`, of either sign. -/
def InFloatRange (x : Flt) : Prop := ∃ q, x = fin q ∧ |q| ≤ fltMax

/-- Addition: infinities of opposite signs have no sum. -/
def add : Flt → Flt → Flt
  | fin a, fin b => fin (a + b)
  | nan, _ => nan
  | _, nan => nan
  | inf s, fin _ => inf s
  | fin _, inf s => inf s
  | inf s, inf t => if s = t then inf s else nan

/-- Multiplication: zero times an infinity is undefined. -/
def mul : Flt → Flt → Flt
  | fin a, fin b => fin (a * b)
  | nan, _ => nan
  | _, nan => nan
  | inf s, fin b => if b = 0 then nan else inf (s != decide (b < 0))
  | fin a, inf s => if a = 0 then nan else inf (s != decide (a < 0))
  | inf s, inf t => inf (s != t)

/-- Division: a nonzero value over zero is infinite, zero over zero is undefined. -/
def div : Flt → Flt → Flt
  | fin a, fin b =>
    if b = 0 then (if a = 0 then nan else inf (decide (a < 0))) else fin (a / b)
  | nan, _ => nan
  | _, nan => nan
  | inf s, fin b => inf (s != decide (b < 0))
  | fin _, inf _ => fin 0
  | inf _, inf _ => nan

instance : Add Flt := ⟨add⟩

instance : Mul Flt := ⟨mul⟩

instance : Div Flt := ⟨div⟩

/-- The zero of the type is the finite value `0`. -/
lemma zero_eq : (0 : Flt) = fin 0 := rfl

/-- Sums of finite values are exact. -/
@[simp] lemma fin_add_fin (a b : ℚ) : fin a + fin b = fin (a + b) := rfl

/-- Products of finite values are exact. -/
@[simp] lemma fin_mul_fin (a b : ℚ) : fin a * fin b = fin (a * b) := rfl

/-- Quotients by a nonzero finite value are exact. -/
lemma fin_div_fin {a b : ℚ} (hb : b ≠ 0) : fin a / fin b = fin (a / b) := by
  change (if b = 0 then _ else _) = _
  rw [if_neg hb]

/-- Zero over zero is not a number. -/
lemma zero_div_zero : fin 0 / fin 0 = nan := rfl

/-- A finite value is its rational number. -/
lemma IsFinite.eq_fin {x : Flt} (hx : x.IsFinite) : x = fin x.toRat := by
  cases x with
  | fin q => rfl
  | inf s => exact hx.elim
  | nan => exact hx.elim

/-- **The value of a 32-bit pattern** in the format binary32: sign bit, eight exponent bits,
twenty-three fraction bits. -/
def ofBits (b : UInt32) : Flt :=
  let neg : Bool := b.toNat / 2 ^ 31 = 1
  let e : ℕ := b.toNat / 2 ^ 23 % 2 ^ 8
  let m : ℕ := b.toNat % 2 ^ 23
  let signed (q : ℚ) : ℚ := if neg then -q else q
  if e = 255 then (if m = 0 then inf neg else nan)
  -- an exponent field of zero has no hidden bit
  else if e = 0 then fin (signed (m / 2 ^ 149))
  else fin (signed ((2 ^ 23 + m) * 2 ^ e / 2 ^ 150))

end Flt

end CLang
