import Mathlib.Data.Nat.Digits.Lemmas
import Mathlib.Data.Rat.Floor
import Mathlib.Tactic.IntervalCases
import Mathlib.Tactic.NormNum
import AirLab.CLang.Float
import AirLab.CLang.Text

set_option relaxedAutoImplicit false
set_option autoImplicit false

/-!
# Formatted numbers

The conversions `%d` of a nonnegative integer and `%0.2f`, on values read as rationals.

## Main definitions

* `CLang.decimal` — `%d`.
* `CLang.fixed2` — `%0.2f`: rounded to hundredths, halves to the even neighbour.

* `CLang.intWidth` — the characters `%0.2f` prints before the point.

## Main results

* `CLang.decimal_subset`, `CLang.fixed2_subset` — the characters of a number.
* `CLang.length_decimal`, `CLang.length_fixed2` — how many characters are printed.
-/

namespace CLang

/-- `%d` of a nonnegative integer: its decimal digits, the most significant one first. -/
def decimal (n : ℕ) : Text :=
  if n = 0 then ['0'] else (Nat.digits 10 n).reverse.map Nat.digitChar

/-- The nearest integer of a nonnegative rational, halves going to the even neighbour. -/
def roundHalfEven (q : ℚ) : ℕ :=
  let n := ⌊q⌋₊
  let r := q - n
  if r < 1 / 2 then n else if 1 / 2 < r then n + 1 else if n % 2 = 0 then n else n + 1

/-- Hundredths with a point: at least one digit before it, two after it. -/
def hundredths (n : ℕ) : Text :=
  decimal (n / 100) ++ '.' :: [Nat.digitChar (n / 10 % 10), Nat.digitChar (n % 10)]

/-- `%0.2f` of a rational. -/
def fixed2Rat (q : ℚ) : Text :=
  if q < 0 then '-' :: hundredths (roundHalfEven (-q * 100))
  else hundredths (roundHalfEven (q * 100))

/-- `%0.2f`, correctly rounded as the C standard has it. The firmware's own formatter rounds exact
ties down, prints at most 16 significant digits and gives a negative NaN its sign. -/
def fixed2 : Flt → Text
  | .fin q => fixed2Rat q
  | .inf neg => if neg then "-inf".toList else "inf".toList
  | .nan => "nan".toList

/-! ## The characters of a number -/

/-- The characters the conversions print. -/
def numerals : Text := "0123456789-.infa".toList

/-- A decimal digit is one of them. -/
lemma digitChar_mem {d : ℕ} (hd : d < 10) : Nat.digitChar d ∈ numerals := by
  interval_cases d <;> decide

/-- `%d` prints numerals. -/
lemma decimal_subset (n : ℕ) : decimal n ⊆ numerals := by
  unfold decimal
  split_ifs with hn
  · decide
  · intro c hc
    obtain ⟨d, hd, rfl⟩ := List.mem_map.1 hc
    exact digitChar_mem (Nat.digits_lt_base (by norm_num) (List.mem_reverse.1 hd))

/-- Hundredths are printed as numerals. -/
lemma hundredths_subset (n : ℕ) : hundredths n ⊆ numerals := by
  have h1 := digitChar_mem (Nat.mod_lt (n / 10) (by norm_num : 10 > 0))
  have h2 := digitChar_mem (Nat.mod_lt n (by norm_num : 10 > 0))
  have hpoint : '.' ∈ numerals := by decide
  simp [hundredths, decimal_subset, h1, h2, hpoint]

/-- `%0.2f` prints numerals. -/
lemma fixed2_subset (x : Flt) : fixed2 x ⊆ numerals := by
  have hminus : '-' ∈ numerals := by decide
  cases x with
  | fin q =>
    simp only [fixed2, fixed2Rat]
    split_ifs
    · exact List.cons_subset.2 ⟨hminus, hundredths_subset _⟩
    · exact hundredths_subset _
  | inf neg => cases neg <;> decide
  | nan => decide

/-! ## The width of a number -/

/-- `%d` prints a digit for each power of ten up to the number, and one for zero. -/
lemma length_decimal (n : ℕ) : (decimal n).length = Nat.log 10 n + 1 := by
  unfold decimal
  split_ifs with hn
  · rw [hn]
    rfl
  · rw [List.length_map, List.length_reverse, Nat.length_digits 10 n (by norm_num) hn]

/-- **The characters `%0.2f` prints before the point**: a sign and the digits of the integer
part of the rounded number. -/
def intWidth (q : ℚ) : ℕ :=
  (if q < 0 then 1 else 0) + (Nat.log 10 (roundHalfEven (|q| * 100) / 100) + 1)

/-- `%0.2f` prints the point and two digits after them. -/
lemma length_fixed2 (q : ℚ) : (fixed2 (.fin q)).length = intWidth q + 3 := by
  simp only [fixed2, fixed2Rat, intWidth]
  split_ifs with hq
  · simp [hundredths, length_decimal, abs_of_neg hq]
    ring
  · simp [hundredths, length_decimal, abs_of_nonneg (not_lt.1 hq)]

/-- Rounding does not exceed an integer. -/
lemma roundHalfEven_le {q : ℚ} {n : ℕ} (hq : q ≤ n) : roundHalfEven q ≤ n := by
  have hfloor : ⌊q⌋₊ ≤ n := Nat.floor_le_of_le hq
  simp only [roundHalfEven]
  obtain hlt | heq := Nat.lt_or_eq_of_le hfloor
  · split_ifs <;> omega
  · have hsmall : q - ⌊q⌋₊ < 1 / 2 := by
      rw [heq]
      linarith
    rw [if_pos hsmall, heq]

/-- A number up to `n` on either side of zero has a sign and the digits of `n` at most. -/
lemma intWidth_le {q : ℚ} {n : ℕ} (hq : |q| ≤ n) : intWidth q ≤ Nat.log 10 n + 2 := by
  have hround : roundHalfEven (|q| * 100) ≤ n * 100 := by
    refine roundHalfEven_le ?_
    push_cast
    linarith
  have hdiv : roundHalfEven (|q| * 100) / 100 ≤ n := by omega
  have hlog := Nat.log_mono_right (b := 10) hdiv
  unfold intWidth
  split_ifs <;> omega

/-- A finite value of the type `float` takes at most 43 characters. -/
lemma length_fixed2_le {x : Flt} (hx : x.InFloatRange) : (fixed2 x).length ≤ 43 := by
  obtain ⟨q, rfl, hq⟩ := hx
  have hlog : Nat.log 10 Flt.fltMax < 39 :=
    Nat.log_lt_of_lt_pow (by decide) (by norm_num [Flt.fltMax])
  have hwidth := intWidth_le hq
  rw [length_fixed2]
  omega

end CLang
