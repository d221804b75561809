import Mathlib.Algebra.BigOperators.Group.List.Basic
import Mathlib.Algebra.Order.Field.Rat
import Mathlib.Tactic.FieldSimp
import AirLab.Ambient.Driver

set_option relaxedAutoImplicit false
set_option autoImplicit false

/-!
# The averages of `ambient_sensors_read`

The function adds the values of its samples to a local array that is never set to zero, and
divides by the number of samples. So what the stack held before is part of the averages.

## Main definitions

* `AirLab.failedCalls` — the driver calls of a history that failed.
* `AirLab.values` — the values of a channel read in a history.
* `AirLab.channelMeans` — the means that should be returned.

## Main results

* `AirLab.ambientSums_spec` — what a call has summed up, or that a driver call failed.
* `AirLab.ambientMeans_iff_clearStack` — the means are returned exactly where the stack held
  zeros.
-/

namespace AirLab

open CLang Effects

/-- The driver call of an event failed. -/
def driverFailed : BoardEvent → Bool
  | ⟨.sensorSampleFetch, none⟩ => true
  | ⟨.sensorChannelGet _, none⟩ => true
  | _ => false

/-- How many driver calls of a history failed. -/
def failedCalls (h : History) : ℕ := occurrences driverFailed h

/-- The number a sensor value stands for. -/
def SensorValue.toRat (v : SensorValue) : ℚ := v.val1 + v.val2 / 10 ^ 6

/-- The value of a channel read in an event. -/
def value? (chan : SensorChannel) : BoardEvent → Option ℚ
  | ⟨.sensorChannelGet c, some v⟩ => if c = chan then some v.toRat else none
  | _ => none

/-- The values of a channel read in a history, the latest one first. -/
def values (chan : SensorChannel) (h : History) : List ℚ := h.filterMap (value? chan)

/-- The channel of each place of the output: humidity, temperature, pressure. -/
def outputChannel : Fin 3 → SensorChannel := ![.humidity, .ambientTemp, .press]

/-- The arithmetic mean. -/
def mean (l : List ℚ) : ℚ := l.sum / l.length

/-- **The means of the values read**, humidity, temperature and pressure. -/
def channelMeans (es : History) : Fin 3 → Flt := fun i => .fin (mean (values (outputChannel i) es))

/-- The failed calls after an event. -/
@[simp] lemma failedCalls_cons (e : BoardEvent) (past : History) :
    failedCalls (e :: past) = failedCalls past + if driverFailed e then 1 else 0 :=
  occurrences_cons _ e past

/-- The failed calls of two parts of a history. -/
lemma failedCalls_append (es past : History) :
    failedCalls (es ++ past) = failedCalls es + failedCalls past := List.countP_append

/-- The values after an event. -/
@[simp] lemma values_cons (chan : SensorChannel) (e : BoardEvent) (past : History) :
    values chan (e :: past) = (value? chan e).toList ++ values chan past := by
  unfold values
  rw [List.filterMap_cons]
  rcases value? chan e with _ | v <;> rfl

/-! ## The sums -/

/-- **The passes so far succeeded**: they read `k` values of each channel and added them to what the
sums held before. -/
def Summed (h₀ : History) (stack : Fin 3 → Flt) (k : ℕ) (sum : Fin 3 → Flt) (h : History) : Prop :=
  ∃ es, h = es ++ h₀ ∧ failedCalls es = 0 ∧ (∀ chan, (values chan es).length = k) ∧
    ∀ i, sum i = stack i + .fin (values (outputChannel i) es).sum

/-- A driver call failed since `h₀`. -/
def SensorFailed (h₀ h : History) : Prop := ∃ es, h = es ++ h₀ ∧ failedCalls es ≠ 0

section Sums

variable {env : Env Call Resp} {S : History → Prop} {h₀ : History} {stack : Fin 3 → Flt}

/-- Numbers are added to a floating-point value one after the other. -/
lemma add_fin_add_fin (x : Flt) (a b : ℚ) : x + .fin a + .fin b = x + .fin (b + a) := by
  cases x with
  | fin q => rw [Flt.fin_add_fin, Flt.fin_add_fin, Flt.fin_add_fin, add_assoc, add_comm a b]
  | inf neg => rfl
  | nan => rfl

/-- The events of the three channel reads of a pass. -/
def channelReads (v : Sample) : History :=
  [⟨.sensorChannelGet .humidity, some v.hum⟩, ⟨.sensorChannelGet .ambientTemp, some v.temp⟩,
    ⟨.sensorChannelGet .press, some v.press⟩]

/-- The channel reads: one of them fails, or all are made. -/
lemma wp_channelGets {Q : Option Sample → History → Prop} {h : History}
    (hnone : ∀ es, failedCalls es ≠ 0 → Q none (es ++ h))
    (hsome : ∀ v, Q (some v) (channelReads v ++ h)) : channelGets.wp env Q S h := by
  unfold channelGets sensorChannelGet
  rw [Prog.wp_bind]
  refine (Prog.wp_perform (Call.sensorChannelGet .press) _).2 ?_
  rcases env h (.sensorChannelGet .press) with _ | press
  · exact (Prog.wp_pure none).2 (hnone [⟨.sensorChannelGet .press, none⟩] (by decide))
  rw [Prog.wp_bind]
  refine (Prog.wp_perform (Call.sensorChannelGet .ambientTemp) _).2 ?_
  rcases env _ (.sensorChannelGet .ambientTemp) with _ | temp
  · exact (Prog.wp_pure none).2 (hnone [⟨.sensorChannelGet .ambientTemp, none⟩,
      ⟨.sensorChannelGet .press, some press⟩] (by simp [driverFailed]))
  rw [Prog.wp_bind]
  refine (Prog.wp_perform (Call.sensorChannelGet .humidity) _).2 ?_
  rcases env _ (.sensorChannelGet .humidity) with _ | hum
  · exact (Prog.wp_pure none).2 (hnone [⟨.sensorChannelGet .humidity, none⟩,
      ⟨.sensorChannelGet .ambientTemp, some temp⟩, ⟨.sensorChannelGet .press, some press⟩]
      (by simp [driverFailed]))
  · exact (Prog.wp_pure _).2 (hsome ⟨press, temp, hum⟩)

/-- The driver calls of a pass: one of them fails, or all are made. -/
lemma wp_ambientSample {Q : Option Sample → History → Prop} {h : History}
    (hnone : ∀ es, failedCalls es ≠ 0 → Q none (es ++ h))
    (hsome : ∀ v s, Q (some v) (channelReads v ++ ⟨.kMsleep 20, ()⟩ ::
      ⟨.sensorSampleFetch, some s⟩ :: ⟨.kMsleep 20, ()⟩ :: h)) : ambientSample.wp env Q S h := by
  unfold ambientSample sensorSampleFetch
  rw [Prog.wp_bind, wp_kMsleep, Prog.wp_bind, Prog.wp_bind]
  refine (Prog.wp_perform Call.sensorSampleFetch _).2 ?_
  rw [Prog.wp_pure, Prog.wp_bind, wp_kMsleep]
  rcases env _ .sensorSampleFetch with _ | s
  · exact (Prog.wp_pure none).2 (hnone [⟨.kMsleep 20, ()⟩, ⟨.sensorSampleFetch, none⟩,
      ⟨.kMsleep 20, ()⟩] (by simp [driverFailed]))
  · refine wp_channelGets (fun es hes => ?_) fun v => hsome v s
    have hfailed : failedCalls (es ++ [⟨.kMsleep 20, ()⟩, ⟨.sensorSampleFetch, some s⟩,
        ⟨.kMsleep 20, ()⟩]) ≠ 0 := by
      rw [failedCalls_append]
      omega
    simpa using hnone _ hfailed

/-- **One pass of the sample loop.** -/
lemma ambientPass_summed (k i : ℕ) (sum : Fin 3 → Flt) :
    Prog.Triple env (Summed h₀ stack k sum) (ambientPass i sum)
      (fun r h => r.elim (SensorFailed h₀ h) fun sum' => Summed h₀ stack (k + 1) sum' h) S := by
  intro h hh
  obtain ⟨es, rfl, hok, hlen, hsum⟩ := hh
  unfold ambientPass
  rw [Prog.wp_bind]
  refine wp_ambientSample (fun es' hes' => ?_) fun v s => ?_
  · refine (Prog.wp_pure _).2 ⟨es' ++ es, (List.append_assoc es' es h₀).symm, ?_⟩
    rw [failedCalls_append]
    omega
  · refine (Prog.wp_pure _).2 ⟨channelReads v ++ ⟨.kMsleep 20, ()⟩ ::
      ⟨.sensorSampleFetch, some s⟩ :: ⟨.kMsleep 20, ()⟩ :: es, by simp, ?_, fun chan => ?_,
      fun i => ?_⟩
    · simpa [channelReads, driverFailed] using hok
    · cases chan <;> simp [channelReads, value?, hlen]
    · -- each channel is added to the sum of its own place
      match i with
      | 0 => exact (congrArg (· + v.hum.toDouble) (hsum 0)).trans (add_fin_add_fin _ _ _)
      | 1 => exact (congrArg (· + v.temp.toDouble) (hsum 1)).trans (add_fin_add_fin _ _ _)
      | 2 => exact (congrArg (· + v.press.toDouble) (hsum 2)).trans (add_fin_add_fin _ _ _)

/-- `ambient_sensors_read` up to the end of its sample loop. -/
def ambientSums (samples : UInt8) : App (Option (Fin 3 → Flt)) := do
  let sum ← uninit .sum
  Prog.forUntil ambientPass samples.toNat sum

/-- The call writes the means of the sums, or leaves the array. -/
lemma ambientSensorsRead_eq (samples : UInt8) (a : Fin 3 → Flt) :
    ambientSensorsRead samples a =
      ambientSums samples >>= fun r => pure (r.elim a (ambientMeans samples)) := by
  unfold ambientSensorsRead ambientSums
  rw [bind_assoc]
  refine congrArg (uninit .sum >>= ·) (funext fun sum => ?_)
  refine congrArg (Prog.forUntil ambientPass samples.toNat sum >>= ·) (funext fun r => ?_)
  cases r <;> rfl

/-- **What a call has summed up**, starting with what the stack held, or that a driver call
failed. -/
lemma ambientSums_spec (env : Env Call Resp) (samples : UInt8) (h : History) :
    ∃ r h', (ambientSums samples).run env h = (some r, h') ∧
      r.elim (SensorFailed h h') fun sum =>
        Summed h (env h (.uninit .sum)) samples.toNat sum h' := by
  refine Prog.wp.returns ?_
  unfold ambientSums
  rw [Prog.wp_bind]
  refine (Prog.wp_perform (Call.uninit .sum) _).2 ?_
  refine Prog.Triple.forUntil (I := fun k sum => Summed h (env h (.uninit .sum)) k sum)
    samples.toNat (fun k _ sum => ambientPass_summed k k sum) _ _ ?_
  refine ⟨[⟨.uninit .sum, env h (.uninit .sum)⟩], rfl, rfl, fun chan => rfl, fun i => ?_⟩
  cases env h (.uninit .sum) i with
  | fin q => exact congrArg Flt.fin (add_zero q).symm
  | inf neg => rfl
  | nan => rfl

/-- The means of sums that began with `x` instead of zero. -/
lemma add_div_eq_iff {n : ℕ} (hn : 0 < n) (x : Flt) (s : ℚ) :
    (x + .fin s) / .fin n = .fin (s / n) ↔ x = .fin 0 := by
  have hn' : (n : ℚ) ≠ 0 := by exact_mod_cast hn.ne'
  cases x with
  | fin q =>
    rw [Flt.fin_add_fin, Flt.fin_div_fin hn', Flt.fin.injEq, Flt.fin.injEq, div_left_inj' hn']
    exact add_eq_right
  | inf neg => exact iff_of_false nofun nofun
  | nan => exact iff_of_false nofun nofun

/-- The output of a place is the sum of that place over the number of samples. -/
lemma ambientMeans_apply (samples : UInt8) (sum : Fin 3 → Flt) (i : Fin 3) :
    ambientMeans samples sum i = sum i / .fin samples.toNat := by
  match i with
  | 0 | 1 | 2 => rfl

end Sums

/-- A sensor that always reads 50, for a call whose array of sums holds `sum` at its start. -/
def steadySensor (sum : Fin 3 → Flt) : Env Call Resp := fun _ c =>
  match c with
  | .sensorSampleFetch => some ⟨⟨50, 0⟩, ⟨50, 0⟩, ⟨50, 0⟩⟩
  | .sensorChannelGet _ => some ⟨50, 0⟩
  | .uninit .sum => sum
  | c => plainAnswer c

/-- The events of a call of one sample with this sensor. -/
def steadyReads (sum : Fin 3 → Flt) : History :=
  channelReads ⟨⟨50, 0⟩, ⟨50, 0⟩, ⟨50, 0⟩⟩ ++ [⟨.kMsleep 20, ()⟩,
    ⟨.sensorSampleFetch, some ⟨⟨50, 0⟩, ⟨50, 0⟩, ⟨50, 0⟩⟩⟩, ⟨.kMsleep 20, ()⟩, ⟨.uninit .sum, sum⟩]

/-- A call of one sample with this sensor. -/
lemma steadySensor_run (sum : Fin 3 → Flt) :
    (ambientSensorsRead 1 fun _ => 0).run (steadySensor sum) [] =
      (some (ambientMeans 1 (addSample sum ⟨⟨50, 0⟩, ⟨50, 0⟩, ⟨50, 0⟩⟩)), steadyReads sum) := rfl

/-- No driver call of it fails. -/
lemma failedCalls_steadyReads (sum : Fin 3 → Flt) : failedCalls (steadyReads sum) = 0 := rfl

/-- **When the means are returned.** A call of at least one sample whose driver calls all succeed
returns the means of the values it read exactly if its array of sums happened to hold zeros on
the stack, whatever it read and whatever the output array held. -/
theorem ambientMeans_iff_clearStack (env : Env Call Resp) (samples : UInt8) (a a' : Fin 3 → Flt)
    (h es : History) (hsamples : 0 < samples.toNat)
    (hrun : (ambientSensorsRead samples a).run env h = (some a', es ++ h))
    (hok : failedCalls es = 0) :
    a' = channelMeans es ↔ env h (.uninit .sum) = fun _ => .fin 0 := by
  obtain ⟨r, h', hsums, hspec⟩ := ambientSums_spec env samples h
  rw [ambientSensorsRead_eq, Prog.run_bind_of_some env hsums] at hrun
  obtain ⟨ha', rfl⟩ : r.elim a (ambientMeans samples) = a' ∧ h' = es ++ h := by
    simpa using hrun
  cases r with
  | none =>
    obtain ⟨es', hes, hfailed⟩ := hspec
    rw [List.append_cancel_right hes] at hok
    exact absurd hok hfailed
  | some sum =>
    obtain ⟨es', hes, -, hlen, hsum⟩ := hspec
    obtain rfl := List.append_cancel_right hes
    have hplace : ∀ i, a' i = channelMeans es i ↔ env h (.uninit .sum) i = .fin 0 := by
      intro i
      rw [← ha', channelMeans, mean, hlen]
      change ambientMeans samples sum i = _ ↔ _
      rw [ambientMeans_apply, hsum i]
      exact add_div_eq_iff hsamples _ _
    rw [funext_iff, funext_iff]
    exact forall_congr' hplace

/-- A sensor whose values rise with the time, on a stack of zeros. -/
def risingSensor : Env Call Resp := fun h c =>
  match c with
  | .sensorSampleFetch => some ⟨⟨50, 0⟩, ⟨50, 0⟩, ⟨50, 0⟩⟩
  | .sensorChannelGet _ => some ⟨h.length, 250000⟩
  | c => plainAnswer c

/-- The events of a call of three samples with this sensor. -/
def risingReads : History := ((ambientSensorsRead 3 fun _ => 0).run risingSensor []).2

/-- The three samples are averaged. -/
theorem risingSensor_means :
    (ambientSensorsRead 3 fun _ => 0).run risingSensor [] =
        (some (channelMeans risingReads), risingReads) ∧
      ∀ chan, (values chan risingReads).length = 3 := by
  obtain ⟨a', hrun⟩ : ∃ a', (ambientSensorsRead 3 fun _ => 0).run risingSensor [] =
      (some a', risingReads ++ []) := ⟨_, rfl⟩
  have hmeans := (ambientMeans_iff_clearStack risingSensor 3 (fun _ => 0) a' [] risingReads
    (by decide) hrun rfl).2 rfl
  rw [hmeans, List.append_nil] at hrun
  exact ⟨hrun, fun chan => by cases chan <;> rfl⟩

/-- On a stack of ones a sensor that reads 50 is reported to read 51. -/
theorem oneStack_means : ∃ a' es,
    (ambientSensorsRead 1 fun _ => 0).run (steadySensor fun _ => .fin 1) [] = (some a', es) ∧
      failedCalls es = 0 ∧ (∀ i, channelMeans es i = .fin 50) ∧ ∀ i, a' i = .fin 51 :=
  ⟨_, _, steadySensor_run _, failedCalls_steadyReads _, by decide +kernel, by decide +kernel⟩

end AirLab
