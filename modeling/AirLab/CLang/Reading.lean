import Mathlib.Tactic.Linarith
import AirLab.CLang.Decimal

set_option relaxedAutoImplicit false
set_option autoImplicit false

/-!
# Reading formatted numbers back

The numbers printed by `%d` and `%0.2f` can be read back: the first exactly, the second up to the
rounding to hundredths. Infinite and undefined values are printed as words and read as no number.
Lines and fields are read back by splitting the text at their separators.

## Main definitions

* `CLang.readDecimal`, `CLang.readFixed2` — the number a text stands for, if it is one.
* `CLang.Flt.hundredths?` — the number of hundredths a value is printed as.
* `CLang.readLines` — the lines of a text.

## Main results

* `CLang.readDecimal_decimal`, `CLang.readFixed2_fixed2` — printed numbers are read back.
* `CLang.abs_toHundredths_sub_le` — the rounding is at most half a hundredth.
* `CLang.readLines_flatten` — lines in a row are read back.
-/

namespace CLang

/-! ## Digits -/

/-- The value of a digit. -/
def digit? (c : Char) : Option ℕ := if c.isDigit then some (c.toNat - 48) else none

/-- The number a text of digits stands for. -/
def readDecimal (t : Text) : Option ℕ :=
  (t.mapM digit?).map fun digits => Nat.ofDigits 10 digits.reverse

/-- The digits `%d` prints, the most significant one first. -/
def printedDigits (n : ℕ) : List ℕ := if n = 0 then [0] else (Nat.digits 10 n).reverse

/-- `%d` prints these digits. -/
lemma decimal_eq_map (n : ℕ) : decimal n = (printedDigits n).map Nat.digitChar := by
  unfold decimal printedDigits
  split_ifs
  · rfl
  · rfl

/-- They are digits. -/
lemma printedDigits_lt (n : ℕ) : ∀ d ∈ printedDigits n, d < 10 := by
  intro d hd
  unfold printedDigits at hd
  split_ifs at hd
  · obtain rfl := List.mem_singleton.1 hd
    decide
  · exact Nat.digits_lt_base (by decide) (List.mem_reverse.1 hd)

/-- They stand for the number. -/
lemma ofDigits_printedDigits (n : ℕ) : Nat.ofDigits 10 (printedDigits n).reverse = n := by
  unfold printedDigits
  split_ifs with hn
  · rw [hn]
    rfl
  · rw [List.reverse_reverse, Nat.ofDigits_digits]

/-- The value of a printed digit. -/
lemma digit?_digitChar {d : ℕ} (hd : d < 10) : digit? (Nat.digitChar d) = some d := by
  interval_cases d <;> rfl

/-- The values of printed digits. -/
lemma mapM_digit? {ds : List ℕ} (hds : ∀ d ∈ ds, d < 10) :
    (ds.map Nat.digitChar).mapM digit? = some ds := by
  induction ds with
  | nil => rfl
  | cons d ds ih =>
    have hd := digit?_digitChar (hds d List.mem_cons_self)
    have hrest := ih fun d' hd' => hds d' (List.mem_cons_of_mem d hd')
    simp [hd, hrest]

/-- Printed digits are read as the number they stand for. -/
lemma readDecimal_map {ds : List ℕ} (hds : ∀ d ∈ ds, d < 10) :
    readDecimal (ds.map Nat.digitChar) = some (Nat.ofDigits 10 ds.reverse) := by
  rw [readDecimal, mapM_digit? hds, Option.map_some]

/-- **What `%d` prints is read back.** -/
theorem readDecimal_decimal (n : ℕ) : readDecimal (decimal n) = some n := by
  rw [decimal_eq_map, readDecimal_map (printedDigits_lt n), ofDigits_printedDigits]

/-! ## Hundredths -/

/-- The hundredths a text of digits with a point stands for. -/
def readHundredths (t : Text) : Option ℕ := readDecimal (t.filter (· != '.'))

/-- The number a text of digits with a sign and a point stands for. -/
def readFixed2 : Text → Option ℚ
  | '-' :: t => (readHundredths t).map fun n : ℕ => -((n : ℚ) / 100)
  | t => (readHundredths t).map fun n : ℕ => (n : ℚ) / 100

/-- The number rounded to hundredths. -/
def toHundredths (q : ℚ) : ℚ :=
  if q < 0 then -(roundHalfEven (-q * 100) / 100 : ℚ) else (roundHalfEven (q * 100) / 100 : ℚ)

/-- The number a floating-point value is printed as, if it is finite. -/
def Flt.hundredths? : Flt → Option ℚ
  | .fin q => some (toHundredths q)
  | _ => none

/-- Printed digits have no point. -/
lemma filter_map_digitChar {ds : List ℕ} (hds : ∀ d ∈ ds, d < 10) :
    (ds.map Nat.digitChar).filter (· != '.') = ds.map Nat.digitChar := by
  rw [List.filter_eq_self]
  intro c hc
  obtain ⟨d, hd, rfl⟩ := List.mem_map.1 hc
  have := hds d hd
  interval_cases d <;> rfl

/-- Printed hundredths are read back. -/
lemma readHundredths_hundredths (n : ℕ) : readHundredths (hundredths n) = some n := by
  have htens : n / 10 % 10 < 10 := Nat.mod_lt _ (by decide)
  have hones : n % 10 < 10 := Nat.mod_lt _ (by decide)
  have hall : ∀ d ∈ printedDigits (n / 100) ++ [n / 10 % 10, n % 10], d < 10 := by
    intro d hd
    rcases List.mem_append.1 hd with hd | hd
    · exact printedDigits_lt _ d hd
    · simp only [List.mem_cons, List.not_mem_nil, or_false] at hd
      omega
  have htext : (hundredths n).filter (· != '.') =
      (printedDigits (n / 100) ++ [n / 10 % 10, n % 10]).map Nat.digitChar := by
    have hlast : ([n / 10 % 10, n % 10].map Nat.digitChar).filter (· != '.') =
        [n / 10 % 10, n % 10].map Nat.digitChar :=
      filter_map_digitChar fun d hd => hall d (List.mem_append_right _ hd)
    rw [hundredths, decimal_eq_map, List.filter_append,
      filter_map_digitChar (printedDigits_lt _), List.map_append]
    congr 1
  rw [readHundredths, htext, readDecimal_map hall, List.reverse_append]
  simp only [List.reverse_cons, List.reverse_nil, List.nil_append, List.cons_append,
    Nat.ofDigits_cons, ofDigits_printedDigits]
  refine congrArg some ?_
  omega

/-- A text of hundredths does not start with a sign. -/
lemma readFixed2_hundredths (n : ℕ) : readFixed2 (hundredths n) = some (n / 100 : ℚ) := by
  have hread := readHundredths_hundredths n
  rcases hn : hundredths n with _ | ⟨c, t⟩
  · have hpoint : '.' ∈ hundredths n := by simp [hundredths]
    rw [hn] at hpoint
    cases hpoint
  · by_cases hc : c = '-'
    · subst hc
      rw [hn, readHundredths, readDecimal] at hread
      simp [digit?] at hread
    · rw [hn] at hread
      rw [readFixed2]
      · rw [hread]
        rfl
      · intro t' heq
        exact hc (List.cons.inj heq).1

/-- **What `%0.2f` prints is read back**, rounded to hundredths; infinite and undefined values are
read as no number. -/
theorem readFixed2_fixed2 (x : Flt) : readFixed2 (fixed2 x) = x.hundredths? := by
  cases x with
  | fin q =>
    simp only [fixed2, fixed2Rat, Flt.hundredths?, toHundredths]
    split_ifs
    · rw [readFixed2, readHundredths_hundredths, Option.map_some]
    · rw [readFixed2_hundredths]
  | inf neg => cases neg <;> rfl
  | nan => rfl

/-- Rounding moves a number by at most one half. -/
lemma abs_roundHalfEven_sub_le {q : ℚ} (hq : 0 ≤ q) : |(roundHalfEven q : ℚ) - q| ≤ 1 / 2 := by
  have hfloor := Nat.floor_le hq
  have hlt := Nat.lt_floor_add_one q
  simp only [roundHalfEven]
  rw [abs_le]
  split_ifs with h1 h2 h3
  · constructor <;> linarith
  · push_cast
    constructor <;> linarith
  · constructor <;> linarith
  · push_cast
    constructor <;> linarith

/-- **The rounding is at most half a hundredth.** -/
theorem abs_toHundredths_sub_le (q : ℚ) : |toHundredths q - q| ≤ 1 / 200 := by
  unfold toHundredths
  split_ifs with hq
  · have hround := abs_roundHalfEven_sub_le (q := -q * 100) (by linarith)
    rw [abs_le] at hround ⊢
    constructor <;> linarith [hround.1, hround.2]
  · have hround := abs_roundHalfEven_sub_le (q := q * 100) (by linarith)
    rw [abs_le] at hround ⊢
    constructor <;> linarith [hround.1, hround.2]

/-! ## Lines -/

/-- The lines of a text, each ended by a newline. -/
def readLines (t : Text) : List Text := (t.splitOn '\n').dropLast

/-- **Lines in a row are read back.** -/
theorem readLines_flatten {lines : List Text} (hlines : ∀ l ∈ lines, '\n' ∉ l) :
    readLines (lines.map (· ++ ['\n'])).flatten = lines := by
  have hsplit : ((lines.map (· ++ ['\n'])).flatten).splitOn '\n' = lines ++ [[]] := by
    induction lines with
    | nil => rfl
    | cons l lines ih =>
      have hrest := ih fun l' hl' => hlines l' (List.mem_cons_of_mem l hl')
      rw [List.map_cons, List.flatten_cons, List.append_assoc, List.singleton_append,
        List.splitOn_append_cons_self_of_not_mem (hlines l List.mem_cons_self), hrest]
      rfl
  rw [readLines, hsplit, List.dropLast_concat]

end CLang
