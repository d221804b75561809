import Mathlib.Data.Nat.Notation
import Mathlib.Tactic.Lemma
import Mathlib.Tactic.Ring

set_option relaxedAutoImplicit false
set_option autoImplicit false

/-!
# Little-endian layout of unsigned integers

The bytes of an unsigned integer in memory order on a little-endian machine, the least
significant one first, and the integer a sequence of bytes stands for.

## Main definitions

* `CLang.leValue` — the integer of a sequence of bytes.
* `CLang.leBytes` — the bytes of an integer, in a given number of bytes.

## Main results

* `CLang.leBytes_leValue`, `CLang.leValue_leBytes` — each determines the other.
* `CLang.shiftLeft_or_eq_add` — bytes combined by shifts and `|` are bytes combined by `+`.
* `CLang.flatMap_injective` — a sequence of fields of one width is determined by its bytes.
-/

namespace CLang

variable {α : Type}

/-- The integer stored in a sequence of bytes. -/
def leValue : List UInt8 → ℕ
  | [] => 0
  | b :: bs => b.toNat + 2 ^ 8 * leValue bs

/-- The `width` bytes of an integer. -/
def leBytes : ℕ → ℕ → List UInt8
  | 0, _ => []
  | width + 1, n => UInt8.ofNat n :: leBytes width (n / 2 ^ 8)

/-- An integer is stored in as many bytes as asked for. -/
@[simp] lemma length_leBytes (width n : ℕ) : (leBytes width n).length = width := by
  induction width generalizing n with
  | zero => rfl
  | succ width ih => exact congrArg (· + 1) (ih (n / 2 ^ 8))

/-- The bytes of a stored integer are the bytes it was read from. -/
lemma leBytes_leValue (bs : List UInt8) : leBytes bs.length (leValue bs) = bs := by
  induction bs with
  | nil => rfl
  | cons b bs ih =>
    have hb := b.toNat_lt
    have hlow : UInt8.ofNat (b.toNat + 2 ^ 8 * leValue bs) = b := by
      apply UInt8.toNat_inj.1
      rw [UInt8.toNat_ofNat']
      omega
    have hhigh : (b.toNat + 2 ^ 8 * leValue bs) / 2 ^ 8 = leValue bs := by omega
    change UInt8.ofNat (b.toNat + 2 ^ 8 * leValue bs) ::
      leBytes bs.length ((b.toNat + 2 ^ 8 * leValue bs) / 2 ^ 8) = b :: bs
    rw [hlow, hhigh, ih]

/-- An integer that fits is read back from its bytes. -/
lemma leValue_leBytes {width n : ℕ} (hn : n < 2 ^ (8 * width)) :
    leValue (leBytes width n) = n := by
  induction width generalizing n with
  | zero =>
    obtain rfl : n = 0 := by simpa using hn
    rfl
  | succ width ih =>
    have hrest : n / 2 ^ 8 < 2 ^ (8 * width) := by
      rw [Nat.mul_succ, Nat.pow_add] at hn
      exact Nat.div_lt_of_lt_mul (by rwa [Nat.mul_comm])
    change (UInt8.ofNat n).toNat + 2 ^ 8 * leValue (leBytes width (n / 2 ^ 8)) = n
    rw [ih hrest, UInt8.toNat_ofNat']
    omega

/-- A high part shifted over a low part that fits below it: `|` adds them. -/
lemma shiftLeft_or_eq_add {low k : ℕ} (high : ℕ) (hlow : low < 2 ^ k) :
    high <<< k ||| low = low + 2 ^ k * high := by
  rw [← Nat.shiftLeft_add_eq_or_of_lt hlow, Nat.shiftLeft_eq]
  ring

/-- Fields of one width, each determined by its bytes: so is the sequence of them. -/
lemma flatMap_injective {f : α → List UInt8} {width : ℕ} (hf : Function.Injective f)
    (hlen : ∀ a, (f a).length = width) {l l' : List α} (hl : l.length = l'.length)
    (heq : l.flatMap f = l'.flatMap f) : l = l' := by
  induction l generalizing l' with
  | nil => exact (List.length_eq_zero_iff.1 hl.symm).symm
  | cons a l ih =>
    obtain ⟨a', l', rfl⟩ := List.exists_cons_of_length_eq_add_one hl.symm
    rw [List.flatMap_cons, List.flatMap_cons] at heq
    obtain ⟨hhead, htail⟩ := List.append_inj heq (by rw [hlen, hlen])
    rw [hf hhead, ih (by simpa using hl) htail]

end CLang
