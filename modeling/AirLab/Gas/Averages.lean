import Mathlib.Algebra.BigOperators.Intervals
import AirLab.Gas.Converters

set_option relaxedAutoImplicit false
set_option autoImplicit false

/-!
# The averages of `gas_sensors_read`

With all transfers succeeding, the eight results should be the averages of the clipped
conversions over all samples. The sample loop stores a reading over the one of the sample
before, and the division at the end is by the number of samples. So the last sample alone is
divided, and the result is the average only where the other samples are small enough to be
rounded off.

## Main definitions

* `AirLab.Bus.value` — the conversion of a channel in a sample.
* `AirLab.Bus.AveragesGas` — the call returns the averages.

## Main results

* `AirLab.Bus.gasSensorsRead_run` — what is returned, whatever fails: the last reading over the
  number of samples.
* `AirLab.averagesGas_iff_roundedOff` — when that is the average over all samples.
-/

namespace AirLab

open CLang Effects Sampling

namespace Bus

variable (b : Bus)

/-- All transfers of a call succeed: there are 24 in each sample. -/
def AllOk (samples : ℕ) : Prop := ∀ n < 24 * samples, b.ok n = true

/-- The conversion of channel `j` in sample `s`, where all transfers succeed. -/
def value (s : ℕ) (j : Fin 8) : UInt16 :=
  bigEndian (b.conversion (3 * (8 * s + j) + 2) (converterOf j) (inputOf j))

/-- The call returns the averages of the clipped conversions, rounded down. -/
def AveragesGas (before : Fin 8 → UInt16) (samples : ℕ) : Prop :=
  ∃ result h, (gasSensorsRead before samples).run b.env [] = (some result, h) ∧
    ∀ j, (result j).toNat = (∑ s ∈ Finset.range samples, (clip (b.value s j)).toNat) / samples

variable {b}

/-! ## What is returned -/

/-- **The last reading over the number of samples** is returned. -/
lemma gasSensorsRead_run (b : Bus) (before : Fin 8 → UInt16) (n : ℕ) :
    ∃ h, (gasSensorsRead before (n + 1)).run b.env [] =
      (some (divideResult (fun j => b.reading (8 * n + j)) (n + 1)), h) := by
  obtain ⟨l, h, hrun, hst⟩ := gasReadings_run b before (n + 1)
  have hresult : l.result = fun j : Fin 8 => b.reading (8 * n + j) := by
    rw [hst.result]
    exact funext fun j => cell_eq_reading b before n j
  rw [gasSensorsRead_eq, Prog.run_bind_of_some b.env hrun, hresult]
  exact ⟨h, rfl⟩

/-- Where all transfers succeed, each pass stores the conversion of its own input. -/
lemma AllOk.reading_eq {samples s : ℕ} (hok : b.AllOk samples) (hs : s < samples) (j : Fin 8) :
    b.reading (8 * s + j) = clip (b.value s j) := by
  have hj := j.isLt
  have hread : held b.Received (8 * s + j + 1) = some (8 * s + j.val) :=
    if_pos (hok _ (by omega))
  have hconf : held (b.Configured (converterOf (8 * s + j))) (8 * s + j + 1) =
      some (8 * s + j.val) := if_pos ⟨rfl, hok _ (by omega)⟩
  have hinput : b.chosen (8 * s + j) = inputOf j := by
    unfold BusPattern.chosen BusPattern.selection
    rw [hconf]
    exact inputOf_pass s j
  unfold reading value
  rw [hread]
  show clip (bigEndian (b.conversion _ (converterOf (8 * s + j)) (b.chosen (8 * s + j)))) = _
  rw [hinput, converterOf_pass]

/-! ## Rounding -/

/-- A remainder added before a division does not show as long as it fits. -/
lemma add_div_eq_div_iff (a r n : ℕ) (hn : 0 < n) : (r + a) / n = a / n ↔ a % n + r < n := by
  have hsplit : r + a = (a % n + r) + a / n * n := by
    have := Nat.mod_add_div' a n
    omega
  rw [hsplit, Nat.add_mul_div_right _ _ hn]
  constructor
  · intro heq
    have hzero : (a % n + r) / n = 0 := by omega
    exact (Nat.div_eq_zero_iff_lt hn).1 hzero
  · intro hlt
    rw [Nat.div_eq_of_lt hlt, Nat.zero_add]

/-- A clipped reading over the number of samples fits into a cell. -/
lemma divided_toNat (reading : UInt16) (n : ℕ) :
    (UInt16.ofNat (reading.toNat / n)).toNat = reading.toNat / n := by
  exact UInt16.toNat_ofNat_of_lt' ((Nat.div_le_self _ _).trans_lt reading.toNat_lt)

end Bus

/-- **When the averages are right.** Where all transfers succeed, the call returns the average of
the clipped conversions of each channel exactly if the samples before the last one are rounded
off: together with the remainder of the last one they stay below the number of samples. -/
theorem averagesGas_iff_roundedOff (b : Bus) (before : Fin 8 → UInt16) (samples : ℕ)
    (hsamples : 1 ≤ samples) (hok : b.AllOk samples) :
    b.AveragesGas before samples ↔ ∀ j,
      (clip (b.value (samples - 1) j)).toNat % samples +
        ∑ s ∈ Finset.range (samples - 1), (clip (b.value s j)).toNat < samples := by
  obtain ⟨n, rfl⟩ : ∃ n, samples = n + 1 := ⟨samples - 1, by omega⟩
  obtain ⟨h, hrun⟩ := Bus.gasSensorsRead_run b before n
  -- for one channel: the average is the last reading over the number of samples
  have hcell : ∀ j : Fin 8,
      (divideResult (fun j : Fin 8 => b.reading (8 * n + j)) (n + 1) j).toNat =
        (∑ s ∈ Finset.range (n + 1), (clip (b.value s j)).toNat) / (n + 1) ↔
      (clip (b.value n j)).toNat % (n + 1) +
        ∑ s ∈ Finset.range n, (clip (b.value s j)).toNat < n + 1 := by
    intro j
    show (UInt16.ofNat ((b.reading (8 * n + j)).toNat / (n + 1))).toNat = _ ↔ _
    rw [Bus.divided_toNat, hok.reading_eq (Nat.lt_succ_self n), Finset.sum_range_succ, eq_comm]
    exact Bus.add_div_eq_div_iff _ _ _ (Nat.succ_pos n)
  rw [Nat.add_sub_cancel]
  constructor
  · intro hav j
    obtain ⟨result, h', hrun', hfields⟩ := hav
    rw [hrun] at hrun'
    obtain rfl := Option.some.inj (congrArg Prod.fst hrun')
    exact (hcell j).1 (hfields j)
  · intro hsmall
    exact ⟨_, h, hrun, fun j => (hcell j).2 (hsmall j)⟩

/-- Converters that convert every input to 1000. -/
def steadyBus : Bus :=
  ⟨⟨fun _ => true, fun _ => 0⟩, fun _ _ _ => (0x03, 0xE8), (0, 0), fun _ => plainAnswer⟩

/-- Converters that convert every input to 0 in the first three samples, and to 1001 then. -/
def risingBus : Bus :=
  ⟨⟨fun _ => true, fun _ => 0⟩, fun n _ _ => if n < 72 then (0, 0) else (0x03, 0xE9), (0, 0),
    fun _ => plainAnswer⟩

/-- Four samples of which the first three are rounded off give the average. -/
theorem risingBus_averages : risingBus.AveragesGas (fun _ => 0) 4 :=
  (averagesGas_iff_roundedOff risingBus _ 4 (by decide) fun _ _ => rfl).2 (by decide)

/-- Two samples of a steady input of 1000 give 500. -/
theorem steadyBus_halved : steadyBus.AllOk 2 ∧ ¬ steadyBus.AveragesGas (fun _ => 0) 2 := by
  refine ⟨fun _ _ => rfl, fun hav => ?_⟩
  obtain ⟨result, h, hrun, hfields⟩ := hav
  obtain ⟨h', hrun'⟩ := Bus.gasSensorsRead_run steadyBus (fun _ => 0) 1
  rw [hrun] at hrun'
  obtain rfl := Option.some.inj (congrArg Prod.fst hrun')
  exact absurd (hfields 0) (by decide)

end AirLab
