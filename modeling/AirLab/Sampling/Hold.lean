import Mathlib.Algebra.BigOperators.Ring.Finset
import Mathlib.Algebra.Order.Field.Rat
import Mathlib.Algebra.Order.Ring.Rat
import Mathlib.Order.Interval.Finset.Nat
import Mathlib.Tactic.FieldSimp
import Mathlib.Tactic.Positivity
import Mathlib.Tactic.Ring

set_option relaxedAutoImplicit false
set_option autoImplicit false

/-!
# Means over held samples

A buffer is read once in every pass, but only some passes fill it first. A pass that does not
reads what the last filling pass left: the value is held. This file compares the mean over all
passes `a ≤ s < b`, held values included, with the mean over the filling passes among them.

## Main definitions

* `Sampling.held` — which pass filled the buffer last.
* `Sampling.heldMean`, `Sampling.freshMean` — the two means.
* `Sampling.EvenlySpaced` — the filling passes are `a`, `a + d`, `a + 2d`, … for a divisor `d` of
  the number of passes.

## Main results

* `Sampling.heldMean_eq_freshMean_iff` — the two means agree for all data exactly if the filling
  passes are evenly spaced.
-/

namespace Sampling

variable (fresh : ℕ → Prop) [DecidablePred fresh]

/-- The pass that filled the buffer last, before pass `n`. -/
def held : ℕ → Option ℕ
  | 0 => none
  | n + 1 => if fresh n then some n else held n

/-- The filling passes `s` with `a ≤ s < b`. -/
def freshPasses (a b : ℕ) : Finset ℕ := (Finset.Ico a b).filter fresh

/-- The passes `s` with `a ≤ s < b` that read what pass `k` left. -/
def usesOf (a b : ℕ) (k : Option ℕ) : Finset ℕ :=
  (Finset.Ico a b).filter fun s => held fresh (s + 1) = k

/-- The mean over all passes, of the values read. -/
def heldMean (a b : ℕ) (g : Option ℕ → ℚ) : ℚ :=
  (∑ s ∈ Finset.Ico a b, g (held fresh (s + 1))) / (b - a : ℕ)

/-- The mean over the filling passes; `0` if there is none. -/
def freshMean (a b : ℕ) (g : Option ℕ → ℚ) : ℚ :=
  (∑ k ∈ freshPasses fresh a b, g (some k)) / (freshPasses fresh a b).card

/-- The filling passes are `a`, `a + d`, `a + 2d`, …, and the last one also holds for `d` passes. -/
def EvenlySpaced (a b : ℕ) : Prop :=
  ∃ d > 0, d ∣ b - a ∧ ∀ s, a ≤ s → s < b → (fresh s ↔ d ∣ s - a)

/-- Every pass reads what a filling pass among them left, and each of these is read `d` times. -/
def Balanced (a b d : ℕ) : Prop :=
  (∀ s ∈ Finset.Ico a b, held fresh (s + 1) ∈ (freshPasses fresh a b).map .some) ∧
    ∀ k ∈ freshPasses fresh a b, (usesOf fresh a b (some k)).card = d

variable {fresh} {a b d : ℕ}

/-! ## What is held -/

/-- The pass that filled the buffer last is a filling pass with none after it. -/
lemma held_eq_some_iff (n k : ℕ) :
    held fresh n = some k ↔ k < n ∧ fresh k ∧ ∀ t, k < t → t < n → ¬ fresh t := by
  induction n with
  | zero => simp [held]
  | succ n ih =>
    unfold held
    by_cases hn : fresh n
    · rw [if_pos hn, Option.some.injEq]
      constructor
      · rintro rfl
        exact ⟨Nat.lt_succ_self _, hn, fun t h1 h2 => by omega⟩
      · intro hh
        obtain ⟨hk, -, hlater⟩ := hh
        by_contra hne
        exact hlater n (by omega) (Nat.lt_succ_self _) hn
    · rw [if_neg hn, ih]
      constructor
      · intro hh
        obtain ⟨hk, hfresh, hlater⟩ := hh
        refine ⟨by omega, hfresh, fun t h1 h2 => ?_⟩
        by_cases ht : t = n
        · rw [ht]
          exact hn
        · exact hlater t h1 (by omega)
      · intro hh
        obtain ⟨hk, hfresh, hlater⟩ := hh
        have hne : k ≠ n := by
          rintro rfl
          exact hn hfresh
        exact ⟨by omega, hfresh, fun t h1 h2 => hlater t h1 (by omega)⟩

/-- Membership in the filling passes. -/
lemma mem_freshPasses {k : ℕ} : k ∈ freshPasses fresh a b ↔ (a ≤ k ∧ k < b) ∧ fresh k := by
  simp [freshPasses]

/-- Membership in the uses of a filling pass. -/
lemma mem_usesOf {k s : ℕ} : s ∈ usesOf fresh a b (some k) ↔
    (a ≤ s ∧ s < b) ∧ k ≤ s ∧ fresh k ∧ ∀ t, k < t → t ≤ s → ¬ fresh t := by
  simp only [usesOf, Finset.mem_filter, Finset.mem_Ico, held_eq_some_iff, Nat.lt_add_one_iff]

/-! ## Balanced and evenly spaced -/

/-- The number of passes is the number of filling passes times their uses. -/
lemma Balanced.card_mul (hbal : Balanced fresh a b d) :
    b - a = (freshPasses fresh a b).card * d := by
  have hcard := Finset.card_eq_sum_card_fiberwise (f := fun s => held fresh (s + 1))
    (s := Finset.Ico a b) (t := (freshPasses fresh a b).map .some) hbal.1
  rw [Nat.card_Ico, Finset.sum_map] at hcard
  rw [hcard]
  exact Finset.sum_const_nat hbal.2

/-- In a balanced window the first pass is a filling one. -/
lemma Balanced.fresh_first (hbal : Balanced fresh a b d) (hab : a < b) : fresh a := by
  obtain ⟨k, hk, hheld⟩ := Finset.mem_map.1 (hbal.1 a (Finset.mem_Ico.2 ⟨le_rfl, hab⟩))
  have hk' := (held_eq_some_iff (a + 1) k).1 hheld.symm
  obtain rfl : k = a := by
    have := (mem_freshPasses.1 hk).1.1
    omega
  exact hk'.2.1

/-- Two multiples of `d`, counted from `a`, are at least `d` apart. -/
lemma add_le_of_dvd_sub {k t : ℕ} (hak : a ≤ k) (hkt : k < t) (hdk : d ∣ k - a)
    (hdt : d ∣ t - a) : k + d ≤ t := by
  have hdiff : t - k = (t - a) - (k - a) := by omega
  have hdvd : d ∣ t - k := by
    rw [hdiff]
    exact Nat.dvd_sub hdt hdk
  have hle := Nat.le_of_dvd (by omega) hdvd
  omega

/-- The multiple of `d` after a multiple, counted from `a`. -/
lemma dvd_add_sub {k : ℕ} (hak : a ≤ k) (hdk : d ∣ k - a) : d ∣ k + d - a := by
  have hsum : k + d - a = (k - a) + d := by omega
  rw [hsum]
  exact Nat.dvd_add hdk (Nat.dvd_refl d)

/-- Every number from `a` on has a last multiple of `d` before it, counted from `a`. -/
lemma exists_last_multiple {s : ℕ} (hd : 0 < d) (has : a ≤ s) :
    ∃ k, a ≤ k ∧ k ≤ s ∧ s < k + d ∧ d ∣ k - a := by
  have hmod := Nat.mod_lt (s - a) hd
  have hle := Nat.mod_le (s - a) d
  refine ⟨s - (s - a) % d, by omega, by omega, by omega, ?_⟩
  have hsub : s - (s - a) % d - a = s - a - (s - a) % d := by omega
  rw [hsub]
  exact Nat.dvd_sub_mod _

/-- **The filling pass after `k`** in a balanced window comes `d` passes later: an earlier one
would leave `k` with a use too few, a later one with a use too many. -/
lemma Balanced.fresh_iff_next (hbal : Balanced fresh a b d) {k s : ℕ}
    (hk : k ∈ freshPasses fresh a b) (hks : k < s) (hsb : s < b) (hsd : s ≤ k + d)
    (hbetween : ∀ t, k < t → t < s → ¬ fresh t) : fresh s ↔ s = k + d := by
  obtain ⟨⟨hak, -⟩, hfreshk⟩ := mem_freshPasses.1 hk
  have huses := hbal.2 k hk
  constructor
  · intro hs
    have hsub : usesOf fresh a b (some k) ⊆ Finset.Ico k s := by
      intro t ht
      obtain ⟨-, hkt, -, hnone⟩ := mem_usesOf.1 ht
      refine Finset.mem_Ico.2 ⟨hkt, ?_⟩
      by_contra hst
      exact hnone s hks (by omega) hs
    have hcard := Finset.card_le_card hsub
    rw [huses, Nat.card_Ico] at hcard
    omega
  · intro hs
    by_contra hnot
    have hsub : Finset.Ico k (s + 1) ⊆ usesOf fresh a b (some k) := by
      intro t ht
      obtain ⟨hkt, hts⟩ := Finset.mem_Ico.1 ht
      refine mem_usesOf.2 ⟨⟨by omega, by omega⟩, hkt, hfreshk, fun u h1 h2 => ?_⟩
      by_cases hu : u = s
      · rw [hu]
        exact hnot
      · exact hbetween u h1 (by omega)
    have hcard := Finset.card_le_card hsub
    rw [huses, Nat.card_Ico] at hcard
    omega

/-- **Balanced windows are evenly spaced.**

**Proof sketch.** Strong induction on the pass `s`. Let `k` be the last multiple of `d` before
it, counted from `a`. It fills the buffer and no pass between `k` and `s` does, so `s` does
exactly if it is the next multiple. -/
lemma Balanced.evenlySpaced (hbal : Balanced fresh a b d) (hab : a < b) :
    EvenlySpaced fresh a b := by
  have hfirst := hbal.fresh_first hab
  have hmem : a ∈ freshPasses fresh a b := mem_freshPasses.2 ⟨⟨le_rfl, hab⟩, hfirst⟩
  have hd : 0 < d := by
    rw [← hbal.2 a hmem, Finset.card_pos]
    exact ⟨a, mem_usesOf.2 ⟨⟨le_rfl, hab⟩, le_rfl, hfirst, fun t h1 h2 => by omega⟩⟩
  refine ⟨d, hd, ⟨(freshPasses fresh a b).card, by rw [hbal.card_mul, Nat.mul_comm]⟩, ?_⟩
  intro s
  induction s using Nat.strong_induction_on with
  | _ s ih =>
  intro has hsb
  rcases Nat.eq_or_lt_of_le has with rfl | has
  · simpa using hfirst
  obtain ⟨k, hak, hks, hsk, hdk⟩ := exists_last_multiple hd (show a ≤ s - 1 by omega)
  have hfreshk : fresh k := (ih k (by omega) hak (by omega)).2 hdk
  have hbetween : ∀ t, k < t → t < s → ¬ fresh t := by
    intro t h1 h2 ht
    have hle := add_le_of_dvd_sub hak h1 hdk ((ih t h2 (by omega) (by omega)).1 ht)
    omega
  rw [hbal.fresh_iff_next (mem_freshPasses.2 ⟨⟨hak, by omega⟩, hfreshk⟩) (by omega) hsb (by omega)
    hbetween]
  constructor
  · rintro rfl
    exact dvd_add_sub hak hdk
  · intro hds
    have hle := add_le_of_dvd_sub hak (show k < s by omega) hdk hds
    omega

omit [DecidablePred fresh] in
/-- Between two multiples no pass fills the buffer. -/
lemma not_fresh_between (hfresh : ∀ s, a ≤ s → s < b → (fresh s ↔ d ∣ s - a)) {k t : ℕ}
    (hak : a ≤ k) (hdk : d ∣ k - a) (hkt : k < t) (htd : t < k + d) (htb : t < b) :
    ¬ fresh t := by
  intro ht
  have hle := add_le_of_dvd_sub hak hkt hdk ((hfresh t (by omega) htb).1 ht)
  omega

/-- What a filling pass leaves is read up to the next multiple. -/
lemma usesOf_eq (hfresh : ∀ s, a ≤ s → s < b → (fresh s ↔ d ∣ s - a)) {k : ℕ} (hd : 0 < d)
    (hdvd : d ∣ b - a) (hk : k ∈ freshPasses fresh a b) :
    usesOf fresh a b (some k) = Finset.Ico k (k + d) := by
  obtain ⟨⟨hak, hkb⟩, hfreshk⟩ := mem_freshPasses.1 hk
  have hdk : d ∣ k - a := (hfresh k hak hkb).1 hfreshk
  have hkd : k + d ≤ b := add_le_of_dvd_sub hak hkb hdk hdvd
  ext s
  rw [mem_usesOf, Finset.mem_Ico]
  constructor
  · intro hh
    obtain ⟨⟨has, hsb⟩, hks, -, hnone⟩ := hh
    refine ⟨hks, ?_⟩
    by_contra hge
    have hnext : fresh (k + d) := (hfresh _ (by omega) (by omega)).2 (dvd_add_sub hak hdk)
    exact hnone (k + d) (by omega) (by omega) hnext
  · intro hh
    obtain ⟨hks, hlt⟩ := hh
    refine ⟨⟨by omega, by omega⟩, hks, hfreshk, fun t h1 h2 => ?_⟩
    exact not_fresh_between hfresh hak hdk h1 (by omega) (by omega)

/-- **Evenly spaced windows are balanced.** -/
lemma EvenlySpaced.balanced (hspace : EvenlySpaced fresh a b) : ∃ d > 0, Balanced fresh a b d := by
  obtain ⟨d, hd, hdvd, hfresh⟩ := hspace
  refine ⟨d, hd, fun s hs => ?_, fun k hk => ?_⟩
  · obtain ⟨has, hsb⟩ := Finset.mem_Ico.1 hs
    obtain ⟨k, hak, hks, hsk, hdk⟩ := exists_last_multiple hd has
    have hfreshk : fresh k := (hfresh k hak (by omega)).2 hdk
    refine Finset.mem_map.2 ⟨k, mem_freshPasses.2 ⟨⟨hak, by omega⟩, hfreshk⟩, ?_⟩
    refine ((held_eq_some_iff _ _).2 ⟨by omega, hfreshk, fun t h1 h2 => ?_⟩).symm
    exact not_fresh_between hfresh hak hdk h1 (by omega) (by omega)
  · rw [usesOf_eq hfresh hd hdvd hk, Nat.card_Ico]
    omega

/-! ## The means -/

/-- In a balanced window the two means agree. -/
lemma Balanced.heldMean_eq (hbal : Balanced fresh a b d) (hd : 0 < d) (g : Option ℕ → ℚ) :
    heldMean fresh a b g = freshMean fresh a b g := by
  have hsum : ∑ s ∈ Finset.Ico a b, g (held fresh (s + 1)) =
      d * ∑ k ∈ freshPasses fresh a b, g (some k) := by
    rw [← Finset.sum_fiberwise_of_maps_to' hbal.1, Finset.sum_map, Finset.mul_sum]
    refine Finset.sum_congr rfl fun k hk => ?_
    rw [Finset.sum_const, nsmul_eq_mul]
    have hcard : ((Finset.Ico a b).filter fun s => held fresh (s + 1) = some k).card = d :=
      hbal.2 k hk
    exact congrArg (fun n : ℕ => (n : ℚ) * g (some k)) hcard
  unfold heldMean freshMean
  rw [hsum, hbal.card_mul, Nat.cast_mul]
  have hd' : (d : ℚ) ≠ 0 := by exact_mod_cast hd.ne'
  rw [mul_comm ((freshPasses fresh a b).card : ℚ), mul_div_mul_left _ _ hd']

/-- The mean of an indicator counts the uses. -/
lemma heldMean_indicator (k : Option ℕ) :
    heldMean fresh a b (fun x => if x = k then 1 else 0) =
      ((usesOf fresh a b k).card : ℚ) / (b - a : ℕ) := by
  unfold heldMean usesOf
  rw [Finset.sum_boole]

/-- The means of an indicator of a pass outside are not both the same. -/
lemma freshMean_indicator (k : Option ℕ) :
    freshMean fresh a b (fun x => if x = k then 1 else 0) =
      if k ∈ (freshPasses fresh a b).map .some then 1 / ((freshPasses fresh a b).card : ℚ)
      else 0 := by
  unfold freshMean
  rw [Finset.sum_boole]
  split_ifs with hk
  · obtain ⟨n, hn, rfl⟩ := Finset.mem_map.1 hk
    have : (freshPasses fresh a b).filter (fun m => some m = Function.Embedding.some n) = {n} := by
      ext m
      simp only [Finset.mem_filter, Finset.mem_singleton, Function.Embedding.some_apply,
        Option.some.injEq]
      exact ⟨fun h => h.2, fun h => ⟨h ▸ hn, h⟩⟩
    rw [this]
    simp
  · have : (freshPasses fresh a b).filter (fun m => some m = k) = ∅ := by
      refine Finset.filter_eq_empty_iff.2 fun m hm heq => hk ?_
      exact Finset.mem_map.2 ⟨m, hm, heq⟩
    rw [this]
    simp

/-- Means that agree for the indicators belong to a balanced window. -/
lemma balanced_of_heldMean_eq (hab : a < b)
    (hmean : ∀ k, heldMean fresh a b (fun x => if x = k then 1 else 0) =
      freshMean fresh a b (fun x => if x = k then 1 else 0)) :
    Balanced fresh a b ((b - a) / (freshPasses fresh a b).card) := by
  have hpos : (0 : ℚ) < (b - a : ℕ) := by
    have : 0 < b - a := by omega
    exact_mod_cast this
  refine ⟨fun s hs => ?_, fun k hk => ?_⟩
  · by_contra hout
    have hk := hmean (held fresh (s + 1))
    rw [heldMean_indicator, freshMean_indicator, if_neg hout, div_eq_zero_iff] at hk
    rcases hk with hzero | hzero
    · have hmem : s ∈ usesOf fresh a b (held fresh (s + 1)) :=
        Finset.mem_filter.2 ⟨hs, rfl⟩
      have hcard : (usesOf fresh a b (held fresh (s + 1))).card = 0 := by exact_mod_cast hzero
      rw [Finset.card_eq_zero.1 hcard] at hmem
      cases hmem
    · exact hpos.ne' hzero
  · have hcardpos : 0 < (freshPasses fresh a b).card := Finset.card_pos.2 ⟨k, hk⟩
    have hcard' : ((freshPasses fresh a b).card : ℚ) ≠ 0 := by exact_mod_cast hcardpos.ne'
    have hin : some k ∈ (freshPasses fresh a b).map .some := Finset.mem_map.2 ⟨k, hk, rfl⟩
    have huse := hmean (some k)
    rw [heldMean_indicator, freshMean_indicator, if_pos hin, div_eq_div_iff hpos.ne' hcard',
      one_mul] at huse
    have hmul : (usesOf fresh a b (some k)).card * (freshPasses fresh a b).card = b - a := by
      exact_mod_cast huse
    rw [← hmul, Nat.mul_div_cancel _ hcardpos]

/-- **Held means and fresh means.** In a window that is not empty the mean over all passes agrees
with the mean over the filling passes, for all data, exactly if the filling passes are evenly
spaced. It is enough that they agree for the indicators of single passes. -/
theorem heldMean_eq_freshMean_iff (hab : a < b) :
    (∀ k, heldMean fresh a b (fun x => if x = k then 1 else 0) =
      freshMean fresh a b (fun x => if x = k then 1 else 0)) ↔ EvenlySpaced fresh a b := by
  constructor
  · intro hmean
    exact (balanced_of_heldMean_eq hab hmean).evenlySpaced hab
  · intro hspace k
    obtain ⟨d, hd, hbal⟩ := hspace.balanced
    exact hbal.heldMean_eq hd _

/-- In an evenly spaced window the two means agree. -/
theorem EvenlySpaced.heldMean_eq (hspace : EvenlySpaced fresh a b) (g : Option ℕ → ℚ) :
    heldMean fresh a b g = freshMean fresh a b g := by
  obtain ⟨d, hd, hbal⟩ := hspace.balanced
  exact hbal.heldMean_eq hd g

end Sampling
