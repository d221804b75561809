import Mathlib.Data.List.Basic
import Mathlib.Data.List.TakeWhile
import Mathlib.Tactic.Lemma

set_option relaxedAutoImplicit false
set_option autoImplicit false

/-!
# C strings in character arrays

A string stored in an array of `n` characters is the sequence of characters before the
terminating zero: it contains no zero and is shorter than the array. The string functions look
at nothing else of the array, so this is all that is kept of it.

## Main definitions

* `CLang.CStr n` — the strings an array of `n` characters can hold.
* `CLang.CStr.strlen`, `CLang.CStr.strcpy` — the functions of `string.h`.
* `CLang.CStr.snprintf` — what bounded formatting leaves in an array.
-/

namespace CLang

/-- A text: a sequence of characters. -/
abbrev Text : Type := List Char

/-- The terminating zero. -/
def nul : Char := '\x00'

/-- A string held by an array of `n` characters. -/
@[ext] structure CStr (n : ℕ) where
  chars : Text
  noNul : nul ∉ chars
  fits : chars.length < n

namespace CStr

variable {n m : ℕ}

/-- `strlen`: the number of characters before the terminating zero. -/
def strlen (s : CStr n) : ℕ := s.chars.length

/-- The array that starts with the terminating zero, as static storage does. -/
def empty (hn : 0 < n) : CStr n := ⟨[], by simp, hn⟩

/-- `strcpy` into an array at least as long as the source's: the whole string, which fits. -/
def strcpy (hnm : n ≤ m) (src : CStr n) : CStr m :=
  ⟨src.chars, src.noNul, lt_of_lt_of_le src.fits hnm⟩

/-- `snprintf(buf, n, …)` with the formatted text `t`: at most `n - 1` characters of `t` up to
its first zero, and a terminating zero. -/
def snprintf (hn : 0 < n) (t : Text) : CStr n where
  chars := (t.takeWhile (· != nul)).take (n - 1)
  noNul := fun h => by
    have h' := List.mem_takeWhile_imp (List.mem_of_mem_take h)
    simp at h'
  fits := by
    have := List.length_take_le (n - 1) (t.takeWhile (· != nul))
    omega

/-- A copy has the characters of its source. -/
@[simp] lemma strcpy_chars (hnm : n ≤ m) (src : CStr n) : (strcpy hnm src).chars = src.chars := rfl

/-- The empty array holds no character. -/
@[simp] lemma empty_chars (hn : 0 < n) : (empty hn).chars = [] := rfl

/-- Formatting a text without zeros that is shorter than the array stores all of it. -/
lemma snprintf_chars (hn : 0 < n) {t : Text} (ht : nul ∉ t) (hlen : t.length < n) :
    (snprintf hn t).chars = t := by
  have htw : t.takeWhile (· != nul) = t := by
    rw [List.takeWhile_eq_self_iff]
    intro c hc
    simpa using fun h : c = nul => ht (h ▸ hc)
  change (t.takeWhile (· != nul)).take (n - 1) = t
  rw [htw, List.take_of_length_le (by omega)]

/-- Formatting a text that starts with a character other than zero into an array of at least
two characters stores a nonempty string. -/
lemma snprintf_ne_nil (hn : 1 < n) {c : Char} {t : Text} (hc : c ≠ nul) :
    (snprintf (Nat.lt_of_succ_lt hn) (c :: t)).chars ≠ [] := by
  obtain ⟨k, rfl⟩ : ∃ k, n = k + 2 := ⟨n - 2, by omega⟩
  simp [snprintf, hc]

end CStr

end CLang
