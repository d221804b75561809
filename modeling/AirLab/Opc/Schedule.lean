import Mathlib.Data.ENat.Lattice
import AirLab.Opc.Failures

set_option relaxedAutoImplicit false
set_option autoImplicit false

/-!
# The schedule of the retry loops

`opc_start` repeats its handshake until it is confirmed. It waits for the sensor's buffer once in
every period of the counter and ends each period with a power cycle; the counter starts at 0, but
at 1 after a power cycle, so the first period is one attempt longer than the others. `opc_stop`
has one period and gives up at its end.

## Main definitions

* `AirLab.World.Confirms` — an attempt is answered by 243 and 3.
* `AirLab.commandsSent`, `AirLab.powerCuts`, `AirLab.resetWaits` — what a call does.
* `AirLab.waitsSinceCut` — the waits since the relay was last switched off.
* `AirLab.World.failedAttempts` — the attempts before the first confirmed one.

## Main results

* `AirLab.opcStart_schedule` — the attempts, waits and power cycles of `opc_start`.
* `AirLab.opcStop_schedule` — `opc_stop` ends, within 22 attempts, with the sensor off.
-/

namespace AirLab

open Effects

/-- Attempt `j` of a call that starts at transfer `base` is answered by 243 and 3. -/
def World.Confirms (w : World) (base j : ℕ) : Prop :=
  w.reply (base + 2 * j) = 243 ∧ w.reply (base + 2 * j + 1) = 3

instance (w : World) (base j : ℕ) : Decidable (w.Confirms base j) := by
  unfold World.Confirms; infer_instance

/-! ## What a call does -/

/-- The commands sent, in the order in which they were sent. -/
def commandsSent (es : History) : List UInt8 := ((exchanges es).map Exchange.tx).reverse

/-- The call switches the relay off. -/
def Call.cutsPower (c : Call) : Bool := c.writes relay = some .low

/-- The call is the wait for the sensor's buffer to reset. -/
def Call.isResetWait : Call → Bool
  | .kMsleep ms => ms = 5000
  | _ => false

/-- How often the relay was switched off. -/
def powerCuts (es : History) : ℕ := occurrences (fun e => e.call.cutsPower) es

/-- How often the thread waited for the sensor's buffer. -/
def resetWaits (es : History) : ℕ := occurrences (fun e => e.call.isResetWait) es

/-- How often it did since the relay was last switched off. -/
def waitsSinceCut : History → ℕ
  | [] => 0
  | e :: past =>
    if e.call.cutsPower then 0 else waitsSinceCut past + if e.call.isResetWait then 1 else 0

/-- The relay is switched off only after exactly one wait since the last time. -/
def OneWaitPerCut (es : History) : Prop :=
  Always (fun e past => e.call.cutsPower → waitsSinceCut past = 1) es

/-- The relay is on during every transfer of the events that follow `h₀`. -/
def PoweredTransfers (h₀ es : History) : Prop :=
  Always (fun e past => e.call.isTransfer → level relay (past ++ h₀) = .high) es

/-- The commands after an event. -/
lemma commandsSent_cons (e : BoardEvent) (past : History) :
    commandsSent (e :: past) = commandsSent past ++ ((exchange? e).map Exchange.tx).toList := by
  unfold commandsSent
  rw [exchanges_cons]
  rcases exchange? e with _ | x <;> simp

/-- The power cycles after an event. -/
@[simp] lemma powerCuts_cons (e : BoardEvent) (past : History) :
    powerCuts (e :: past) = powerCuts past + if e.call.cutsPower then 1 else 0 :=
  occurrences_cons _ e past

/-- The waits after an event. -/
@[simp] lemma resetWaits_cons (e : BoardEvent) (past : History) :
    resetWaits (e :: past) = resetWaits past + if e.call.isResetWait then 1 else 0 :=
  occurrences_cons _ e past

/-- The waits since the relay was switched off, after an event. -/
@[simp] lemma waitsSinceCut_cons (e : BoardEvent) (past : History) :
    waitsSinceCut (e :: past) =
      if e.call.cutsPower then 0 else waitsSinceCut past + if e.call.isResetWait then 1 else 0 :=
  rfl

/-- One event more under `OneWaitPerCut`. -/
@[simp] lemma oneWaitPerCut_cons (e : BoardEvent) (past : History) :
    OneWaitPerCut (e :: past) ↔
      (e.call.cutsPower → waitsSinceCut past = 1) ∧ OneWaitPerCut past := Iff.rfl

/-- One event more under `PoweredTransfers`. -/
@[simp] lemma poweredTransfers_cons (h₀ : History) (e : BoardEvent) (past : History) :
    PoweredTransfers h₀ (e :: past) ↔
      (e.call.isTransfer → level relay (past ++ h₀) = .high) ∧ PoweredTransfers h₀ past := Iff.rfl

/-! ## An attempt -/

/-- The events of an attempt from `h` with `cmd` as its second command. -/
def attemptEvents (w : World) (cmd : UInt8) (h : History) : History :=
  commandEvents w cmd (⟨.kMsleep 10, ()⟩ :: (commandEvents w 0x03 h ++ h)) ++
    ⟨.kMsleep 10, ()⟩ :: commandEvents w 0x03 h

/-- An attempt adds its events. -/
lemma attempt_eq (w : World) (cmd : UInt8) (h : History) :
    attempt w cmd h = attemptEvents w cmd h ++ h := by
  simp [attempt, attemptEvents]

section Attempt

variable {w : World} {cmd : UInt8} {h es : History}

/-- An attempt sends 0x03 and its command. -/
lemma commandsSent_attempt :
    commandsSent (attemptEvents w cmd h ++ es) = commandsSent es ++ [0x03, cmd] := by
  simp [attemptEvents, commandEvents, commandsSent_cons, exchange?]

/-- An attempt does not switch the relay. -/
lemma powerCuts_attempt : powerCuts (attemptEvents w cmd h ++ es) = powerCuts es := by
  simp [attemptEvents, commandEvents, Call.cutsPower, Call.writes]

/-- An attempt does not wait for the buffer. -/
lemma resetWaits_attempt : resetWaits (attemptEvents w cmd h ++ es) = resetWaits es := by
  simp [attemptEvents, commandEvents, Call.isResetWait]

/-- An attempt does neither. -/
lemma waitsSinceCut_attempt : waitsSinceCut (attemptEvents w cmd h ++ es) = waitsSinceCut es := by
  simp [attemptEvents, commandEvents, Call.cutsPower, Call.writes, Call.isResetWait]

/-- No power cycle in an attempt. -/
lemma oneWaitPerCut_attempt : OneWaitPerCut (attemptEvents w cmd h ++ es) ↔ OneWaitPerCut es := by
  simp [attemptEvents, commandEvents, Call.cutsPower, Call.writes]

/-- An attempt leaves the relay as it is. -/
lemma level_attempt : level relay (attemptEvents w cmd h ++ es) = level relay es := by
  simp [attemptEvents, commandEvents, Call.writes]

/-- An attempt made with the relay on. -/
lemma poweredTransfers_attempt {h₀ : History} (hon : level relay (es ++ h₀) = .high) :
    PoweredTransfers h₀ (attemptEvents w cmd h ++ es) ↔ PoweredTransfers h₀ es := by
  simp [attemptEvents, commandEvents, Call.writes, hon]

end Attempt

/-! ## The retry loop of `opc_start` -/

/-- The counter before attempt `k`, when all attempts before it failed. -/
def retryCounter : ℕ → ℕ
  | 0 => 0
  | k + 1 => k % 21 + 1

/-- The counter starts again at 1 after it exceeded 20. -/
lemma retryCounter_succ (k : ℕ) :
    retryCounter (k + 1) = if 20 < retryCounter k then 1 else retryCounter k + 1 := by
  cases k with
  | zero => rfl
  | succ k =>
    split_ifs with hc <;> simp only [retryCounter] at hc ⊢ <;> omega

/-- The power cycles of the first `k + 1` attempts, when these failed. -/
lemma cuts_succ (k : ℕ) :
    (k + 1 - 1) / 21 = (k - 1) / 21 + if 20 < retryCounter k then 1 else 0 := by
  cases k with
  | zero => rfl
  | succ k =>
    split_ifs with hc <;> simp only [retryCounter] at hc ⊢ <;> omega

/-- The waits of the first `k + 1` attempts, when these failed. -/
lemma waits_succ (k : ℕ) :
    (k + 1 + 10) / 21 = (k + 10) / 21 + if retryCounter k = 10 then 1 else 0 := by
  cases k with
  | zero => rfl
  | succ k =>
    split_ifs with hc <;> simp only [retryCounter] at hc ⊢ <;> omega

/-- The test for the tenth failure after the first one, on the counter and on its number. -/
lemma eq_ten_iff {c : UInt8} {k : ℕ} (hc : c.toNat = k) : c = 10 ↔ k = 10 := by
  rw [← hc]
  exact ⟨fun heq => by rw [heq]; rfl, fun heq => UInt8.toNat_inj.1 heq⟩

/-- The test for the end of a period, on the counter and on its number. -/
lemma gt_twenty_iff {c : UInt8} {k : ℕ} (hc : c.toNat = k) : c > 20 ↔ 20 < k := by
  rw [gt_iff_lt, UInt8.lt_iff_toNat_lt, hc]
  rfl

/-- One more pair of commands. -/
lemma replicate_flatten_succ (k : ℕ) (l : List UInt8) :
    (List.replicate (k + 1) l).flatten = (List.replicate k l).flatten ++ l := by
  rw [List.replicate_succ']
  simp

/-- The events `es` of a call of `opc_start` or `opc_stop` after the history `h₀`: `k` attempts
with the command `cmd`, `cuts` power cycles, `waits` waits, `since` of them after the last power
cycle, and the relay is on. -/
structure Retried (cmd : UInt8) (h₀ : History) (k cuts waits since : ℕ) (es : History) : Prop where
  transfers : transfers (es ++ h₀) = AirLab.transfers h₀ + 2 * k
  sent : commandsSent es = (List.replicate k [0x03, cmd]).flatten
  power : level relay (es ++ h₀) = .high
  powered : PoweredTransfers h₀ es
  cuts : powerCuts es = cuts
  waits : resetWaits es = waits
  since : waitsSinceCut es = since
  once : OneWaitPerCut es

namespace Retried

variable {w : World} {cmd : UInt8} {h₀ es : History} {k cuts waits since : ℕ}

/-- The relay is switched on. -/
lemma start (cmd : UInt8) (h₀ : History) : Retried cmd h₀ 0 0 0 0 World.relayOn where
  transfers := by simp [World.relayOn, Call.isTransfer]
  sent := rfl
  power := by simp [World.relayOn, Call.writes]
  powered := by simp [World.relayOn, PoweredTransfers, Call.isTransfer]
  cuts := rfl
  waits := rfl
  since := rfl
  once := by simp [World.relayOn, OneWaitPerCut, Call.cutsPower, Call.writes]

/-- An attempt. -/
lemma attempt (hr : Retried cmd h₀ k cuts waits since es) :
    Retried cmd h₀ (k + 1) cuts waits since (attemptEvents w cmd (es ++ h₀) ++ es) where
  transfers := by
    rw [List.append_assoc, ← attempt_eq, transfers_attempt, hr.transfers]
    ring
  sent := by rw [commandsSent_attempt, hr.sent, replicate_flatten_succ]
  power := by rw [List.append_assoc, level_attempt, hr.power]
  powered := (poweredTransfers_attempt hr.power).2 hr.powered
  cuts := by rw [powerCuts_attempt, hr.cuts]
  waits := by rw [resetWaits_attempt, hr.waits]
  since := by rw [waitsSinceCut_attempt, hr.since]
  once := oneWaitPerCut_attempt.2 hr.once

/-- A sleep that is no wait for the sensor's buffer. -/
lemma sleep {ms : ℕ} (hms : ms ≠ 5000) (hr : Retried cmd h₀ k cuts waits since es) :
    Retried cmd h₀ k cuts waits since (⟨.kMsleep ms, ()⟩ :: es) where
  transfers := by simpa [Call.isTransfer] using hr.transfers
  sent := by simpa [commandsSent_cons, exchange?] using hr.sent
  power := by simpa [Call.writes] using hr.power
  powered := by simpa [Call.isTransfer] using hr.powered
  cuts := by simpa [Call.cutsPower, Call.writes] using hr.cuts
  waits := by simpa [Call.isResetWait, hms] using hr.waits
  since := by simpa [Call.cutsPower, Call.writes, Call.isResetWait, hms] using hr.since
  once := by simpa [Call.cutsPower, Call.writes] using hr.once

/-- A wait for the sensor's buffer. -/
lemma resetWait (hr : Retried cmd h₀ k cuts waits since es) :
    Retried cmd h₀ k cuts (waits + 1) (since + 1) (⟨.kMsleep 5000, ()⟩ :: es) where
  transfers := by simpa [Call.isTransfer] using hr.transfers
  sent := by simpa [commandsSent_cons, exchange?] using hr.sent
  power := by simpa [Call.writes] using hr.power
  powered := by simpa [Call.isTransfer] using hr.powered
  cuts := by simpa [Call.cutsPower, Call.writes] using hr.cuts
  waits := by simpa [Call.isResetWait] using hr.waits
  since := by simpa [Call.cutsPower, Call.writes, Call.isResetWait] using hr.since
  once := by simpa [Call.cutsPower, Call.writes] using hr.once

/-- A power cycle, one wait after the last one. -/
lemma powerCycle (hr : Retried cmd h₀ k cuts waits 1 es) :
    Retried cmd h₀ k (cuts + 1) waits 0 (powerCycle ++ es) where
  transfers := by simpa [AirLab.powerCycle, Call.isTransfer] using hr.transfers
  sent := by simpa [AirLab.powerCycle, commandsSent_cons, exchange?] using hr.sent
  power := by simp [AirLab.powerCycle, Call.writes]
  powered := by simpa [AirLab.powerCycle, Call.isTransfer] using hr.powered
  cuts := by simpa [AirLab.powerCycle, Call.cutsPower, Call.writes] using hr.cuts
  waits := by simpa [AirLab.powerCycle, Call.isResetWait] using hr.waits
  since := by simp [AirLab.powerCycle, Call.cutsPower, Call.writes, Call.isResetWait]
  once := by simpa [AirLab.powerCycle, Call.cutsPower, Call.writes, hr.since] using hr.once

end Retried

/-- **What `opc_start` has done when `k` attempts have failed**: `c` is its counter, `es` are its
events. -/
def Retrying (h₀ : History) (k : ℕ) (c : UInt8) (es : History) : Prop :=
  c.toNat = retryCounter k ∧
    Retried 0x00 h₀ k ((k - 1) / 21) ((k + 10) / 21) (if 10 < retryCounter k then 1 else 0) es

/-- **A failed attempt of `opc_start`** and what follows it up to the next one. -/
lemma Retrying.next {w : World} {h₀ es : History} {k : ℕ} {c : UInt8}
    (hst : Retrying h₀ k c es) (hno : ¬ w.Confirms (transfers h₀) k) :
    ∃ c' es', (opcStartPass c).run w.env (es ++ h₀) = (some (.inl c'), es' ++ h₀) ∧
      Retrying h₀ (k + 1) c' es' := by
  obtain ⟨hc, hr⟩ := hst
  have hno' : ¬ (w.reply (transfers (es ++ h₀)) = 243 ∧
      w.reply (transfers (es ++ h₀) + 1) = 3) := by
    rw [hr.transfers]
    exact hno
  have hrun := opcStartPass_run (w := w) c (es ++ h₀)
  rw [if_neg hno', attempt_eq] at hrun
  have hten := eq_ten_iff hc
  have htwenty := gt_twenty_iff hc
  unfold Retrying
  rw [retryCounter_succ, cuts_succ, waits_succ]
  by_cases h20 : 20 < retryCounter k
  · -- the last attempt of a period
    have h10 : ¬ retryCounter k = 10 := by omega
    have hone : (1 : UInt8).toNat = 1 := rfl
    rw [if_pos (htwenty.2 h20), startWaits, if_neg (mt hten.1 h10)] at hrun
    rw [if_pos (show 10 < retryCounter k by omega)] at hr
    have hnext := ((hr.attempt (w := w)).sleep (show 1000 ≠ 5000 by decide)).powerCycle
    rw [if_pos h20, if_pos h20, if_neg h10]
    exact ⟨1, _, by simpa using hrun, hone, hnext⟩
  · rw [if_neg (mt htwenty.1 h20)] at hrun
    have hsucc : (c + 1).toNat = retryCounter k + 1 := by rw [toNat_succ (by omega), hc]
    rw [if_neg h20, if_neg h20]
    by_cases h10 : retryCounter k = 10
    · rw [startWaits, if_pos (hten.2 h10)] at hrun
      rw [if_neg (show ¬ 10 < retryCounter k by omega)] at hr
      have hnext := ((hr.attempt (w := w)).sleep (show 1000 ≠ 5000 by decide)).resetWait
      rw [if_pos h10, if_pos (show 10 < retryCounter k + 1 by omega)]
      exact ⟨c + 1, _, by simpa using hrun, hsucc, hnext⟩
    · rw [startWaits, if_neg (mt hten.1 h10)] at hrun
      have hsame : 10 < retryCounter k + 1 ↔ 10 < retryCounter k := by omega
      have hnext := (hr.attempt (w := w)).sleep (show 1000 ≠ 5000 by decide)
      simp only [if_neg h10, hsame]
      exact ⟨c + 1, _, by simpa using hrun, hsucc, hnext⟩

/-! ## `opc_start` -/

/-- `opc_start` up to `k` passes of its retry loop, with the counter or the end of the loop. -/
def opcStartPasses (k : ℕ) : App (UInt8 ⊕ Unit) := do
  countdown
  gpioPinSet ⟨.gpiob, 3⟩ .high
  countdown
  Prog.passes opcStartPass k 0

/-- The call makes its first passes, then the others. -/
lemma opcStart_eq_passes (k fuel : ℕ) : opcStart (k + fuel) =
    opcStartPasses k >>= fun r => Prog.resume opcStartPass fuel r >>= fun _ => kMsleep 5000 := by
  unfold opcStart opcStartPasses
  rw [Prog.loop_add]
  simp only [bind_assoc]

/-- The passes start with the relay switched on. -/
lemma opcStartPasses_run (w : World) (k : ℕ) (h₀ : History) :
    (opcStartPasses k).run w.env h₀ =
      (Prog.passes opcStartPass k 0).run w.env (World.relayOn ++ h₀) := by
  simp only [opcStartPasses, countdown, Prog.forRange, Prog.run_bind, run_kMsleep,
    run_gpioPinSet, Prog.run_pure]
  rfl

/-- **The first failed attempts of `opc_start`.** -/
lemma opcStartPasses_retrying {w : World} {h₀ : History} {k : ℕ}
    (hno : ∀ i < k, ¬ w.Confirms (transfers h₀) i) :
    ∃ c es, (opcStartPasses k).run w.env h₀ = (some (.inl c), es ++ h₀) ∧
      Retrying h₀ k c es := by
  obtain ⟨c, h, hrun, es, rfl, hst⟩ := Prog.run_passes w.env
    (s := 0) (I := fun i c h => ∃ es, h = es ++ h₀ ∧ Retrying h₀ i c es) k
    (fun i hi c h hh => by
      obtain ⟨es, rfl, hst⟩ := hh
      obtain ⟨c', es', hrun, hst'⟩ := hst.next (hno i hi)
      exact ⟨c', _, hrun, es', rfl, hst'⟩)
    ⟨World.relayOn, rfl, rfl, Retried.start 0x00 h₀⟩
  exact ⟨c, es, (opcStartPasses_run w k h₀).trans hrun, hst⟩

/-- The counter of `opc_start` stays below 22. -/
lemma opcStartPasses_counter (w : World) (h₀ : History) {k : ℕ} {c : UInt8} {h : History}
    (hrun : (opcStartPasses k).run w.env h₀ = (some (.inl c), h)) : c.toNat ≤ 21 := by
  rw [opcStartPasses_run] at hrun
  have hzero : (0 : UInt8).toNat ≤ 21 := by decide
  refine (Prog.Triple.passes (I := fun _ c _ => c.toNat ≤ 21) (Q := fun _ _ => True)
    (S := fun _ => True) k ?_ 0 _ hzero).of_some hrun
  intro i hi c h hc
  have hpass := opcStartPass_run (w := w) c h
  have htwenty : (20 : UInt8).toNat = 20 := rfl
  split_ifs at hpass with hack h20
  · exact (Prog.wp_of_run hpass).2 trivial
  · have hone : (1 : UInt8).toNat ≤ 21 := by decide
    exact (Prog.wp_of_run hpass).2 hone
  · rw [gt_iff_lt, UInt8.lt_iff_toNat_lt] at h20
    have hsucc : (c + 1).toNat = c.toNat + 1 := toNat_succ (by omega)
    exact (Prog.wp_of_run hpass).2 (show (c + 1).toNat ≤ 21 by omega)

/-- **The retry schedule of `opc_start`.** If attempt `n` is the first one that is confirmed, the
call returns after `n + 1` attempts with the relay on; `es` are its events up to the end of the
retry loop. After the first attempt, every 21 failed ones end in a power cycle, and exactly one
wait precedes each. The counter never exceeds 21. -/
theorem opcStart_schedule (w : World) (h₀ : History) {n : ℕ}
    (hno : ∀ i < n, ¬ w.Confirms (transfers h₀) i) (hok : w.Confirms (transfers h₀) n) {fuel : ℕ}
    (hfuel : n < fuel) :
    (∃ es, (opcStart fuel).run w.env h₀ = (some (), ⟨.kMsleep 5000, ()⟩ :: (es ++ h₀)) ∧
      commandsSent es = (List.replicate (n + 1) [0x03, 0x00]).flatten ∧
      level relay (⟨.kMsleep 5000, ()⟩ :: (es ++ h₀)) = .high ∧
      powerCuts es = (if n = 0 then 0 else (n - 1) / 21) ∧
      resetWaits es = (n + 10) / 21 ∧ OneWaitPerCut es) ∧
    ∀ k c h, (opcStartPasses k).run w.env h₀ = (some (.inl c), h) → c.toNat ≤ 21 := by
  refine ⟨?_, fun k c h => opcStartPasses_counter w h₀⟩
  obtain ⟨rest, rfl⟩ : ∃ rest, fuel = n + (rest + 1) := ⟨fuel - n - 1, by omega⟩
  obtain ⟨c, es, hrun, -, hr⟩ := opcStartPasses_retrying hno
  have hok' : w.reply (transfers (es ++ h₀)) = 243 ∧ w.reply (transfers (es ++ h₀) + 1) = 3 := by
    rw [hr.transfers]
    exact hok
  have hlast := opcStartPass_run (w := w) c (es ++ h₀)
  rw [if_pos hok', attempt_eq, ← List.append_assoc] at hlast
  have hdone := hr.attempt (w := w)
  have hcuts : (if n = 0 then 0 else (n - 1) / 21) = (n - 1) / 21 := by
    split_ifs with hn
    · rw [hn]
    · rfl
  refine ⟨_, ?_, hdone.sent, ?_, ?_, hdone.waits, hdone.once⟩
  · rw [opcStart_eq_passes, Prog.run_bind_of_some w.env hrun]
    unfold Prog.resume Prog.loop
    rw [bind_assoc, Prog.run_bind_of_some w.env hlast]
    rfl
  · simpa [Call.writes] using hdone.power
  · rw [hcuts]
    exact hdone.cuts

/-- A sensor that confirms its 23rd handshake and is silent before. -/
def slowSensor : World :=
  ⟨fun n => if n = 44 then some 243 else if n = 45 then some 3 else none, fun _ => 0,
    fun _ => plainAnswer⟩

/-- Before it confirms, its power is cycled once. -/
theorem slowSensor_started : ∃ es,
    (opcStart 23).run slowSensor.env [] = (some (), ⟨.kMsleep 5000, ()⟩ :: es) ∧
      powerCuts es = 1 ∧ resetWaits es = 1 := by
  have hno : ∀ i < 22, ¬ slowSensor.Confirms (transfers []) i := by decide
  have hok : slowSensor.Confirms (transfers []) 22 := by decide
  obtain ⟨⟨es, hrun, -, -, hcuts, hwaits, -⟩, -⟩ :=
    opcStart_schedule slowSensor [] hno hok (show 22 < 23 by decide)
  rw [List.append_nil] at hrun
  exact ⟨es, hrun, hcuts, hwaits⟩

/-! ## `opc_stop` -/

/-- **What `opc_stop` has done when `k` attempts have failed**: `c` is its counter, `es` are its
events. -/
def Stopping (h₀ : History) (k : ℕ) (c : UInt8) (es : History) : Prop :=
  c.toNat = k ∧
    Retried 0x01 h₀ k 0 (if 11 ≤ k then 1 else 0) (if 11 ≤ k then 1 else 0) es

section Stop

variable {w : World} {h₀ es : History} {k : ℕ} {c : UInt8}

/-- A confirmed attempt of `opc_stop`. -/
lemma Stopping.confirmed (hst : Stopping h₀ k c es) (hok : w.Confirms (transfers h₀) k) :
    ∃ es', (opcStopPass c).run w.env (es ++ h₀) = (some (.inr .ready), es' ++ h₀) ∧
      Retried 0x01 h₀ (k + 1) 0 (if 11 ≤ k then 1 else 0) (if 11 ≤ k then 1 else 0) es' := by
  obtain ⟨-, hr⟩ := hst
  have hok' : w.reply (transfers (es ++ h₀)) = 243 ∧ w.reply (transfers (es ++ h₀) + 1) = 3 := by
    rw [hr.transfers]
    exact hok
  have hrun := opcStopPass_run (w := w) c (es ++ h₀)
  rw [if_pos hok', attempt_eq, ← List.append_assoc] at hrun
  exact ⟨_, hrun, hr.attempt⟩

/-- A failed attempt of `opc_stop`: the loop goes on but for the 22nd, where it gives up. -/
lemma Stopping.failed (hst : Stopping h₀ k c es) (hk : k ≤ 21)
    (hno : ¬ w.Confirms (transfers h₀) k) :
    ∃ es', (opcStopPass c).run w.env (es ++ h₀) =
        (some (if k = 21 then .inr .gaveUp else .inl (c + 1)), es' ++ h₀) ∧
      Retried 0x01 h₀ (k + 1) 0 (if 11 ≤ k + 1 then 1 else 0)
        (if 11 ≤ k + 1 then 1 else 0) es' := by
  obtain ⟨hc, hr⟩ := hst
  have hno' : ¬ (w.reply (transfers (es ++ h₀)) = 243 ∧
      w.reply (transfers (es ++ h₀) + 1) = 3) := by
    rw [hr.transfers]
    exact hno
  have hrun := opcStopPass_run (w := w) c (es ++ h₀)
  rw [if_neg hno', attempt_eq] at hrun
  have hexit : (if k = 21 then .inr .gaveUp else .inl (c + 1) : UInt8 ⊕ StopExit) =
      if c > 20 then .inr .gaveUp else .inl (c + 1) := by
    have hiff : k = 21 ↔ c > 20 := by
      rw [gt_twenty_iff hc]
      omega
    simp only [hiff]
  have hnext := (hr.attempt (w := w)).sleep (show 600 ≠ 5000 by decide)
  rw [hexit]
  by_cases h10 : k = 10
  · rw [stopWaits, if_pos ((eq_ten_iff hc).2 h10)] at hrun
    rw [if_neg (show ¬ 11 ≤ k by omega)] at hnext
    rw [if_pos (show 11 ≤ k + 1 by omega)]
    exact ⟨_, by split_ifs at hrun ⊢ <;> simpa using hrun, hnext.resetWait⟩
  · rw [stopWaits, if_neg (mt (eq_ten_iff hc).1 h10)] at hrun
    have hsame : 11 ≤ k + 1 ↔ 11 ≤ k := by omega
    simp only [hsame]
    exact ⟨_, by split_ifs at hrun ⊢ <;> simpa using hrun, hnext⟩

/-- **The first failed attempts of `opc_stop`.** -/
lemma opcStopPasses_stopping (hk : k ≤ 21) (hno : ∀ i < k, ¬ w.Confirms (transfers h₀) i) :
    ∃ c es, (Prog.passes opcStopPass k 0).run w.env (World.relayOn ++ h₀) =
      (some (.inl c), es ++ h₀) ∧ Stopping h₀ k c es := by
  obtain ⟨c, h, hrun, es, rfl, hst⟩ := Prog.run_passes w.env
    (s := 0) (I := fun i c h => ∃ es, h = es ++ h₀ ∧ Stopping h₀ i c es) k
    (fun i hi c h hh => by
      obtain ⟨es, rfl, hst⟩ := hh
      obtain ⟨es', hrun, hr⟩ := hst.failed (by omega) (hno i hi)
      rw [if_neg (show ¬ i = 21 by omega)] at hrun
      have hsucc : (c + 1).toNat = c.toNat + 1 := toNat_succ (by rw [hst.1]; omega)
      exact ⟨c + 1, _, hrun, es', rfl, by rw [hsucc, hst.1], hr⟩)
    ⟨World.relayOn, rfl, rfl, Retried.start 0x01 h₀⟩
  exact ⟨c, es, hrun, hst⟩

/-- **The retry loop of `opc_stop`**, `n` being the failed attempts before the first confirmed one
or, where there is none so early, the 22 attempts after which it gives up. -/
lemma opcStopLoop_run {n : ℕ} (hn : n ≤ 22) (hno : ∀ i < n, ¬ w.Confirms (transfers h₀) i)
    (hok : n < 22 → w.Confirms (transfers h₀) n) (fuel : ℕ) :
    ∃ exit es, (Prog.loop opcStopPass (22 + fuel) 0).run w.env (World.relayOn ++ h₀) =
      (some exit, es ++ h₀) ∧ Retried 0x01 h₀ (min (n + 1) 22) 0 (if 11 ≤ n then 1 else 0)
        (if 11 ≤ n then 1 else 0) es := by
  obtain hlt | rfl := Nat.lt_or_eq_of_le hn
  · obtain ⟨rest, hrest⟩ : ∃ rest, 22 + fuel = n + (rest + 1) := ⟨21 + fuel - n, by omega⟩
    obtain ⟨c, es, hrun, hst⟩ := opcStopPasses_stopping (by omega) hno
    obtain ⟨es', hlast, hr⟩ := hst.confirmed (hok hlt)
    refine ⟨.ready, es', ?_, by rwa [min_eq_left (by omega)]⟩
    rw [hrest, Prog.loop_add, Prog.run_bind_of_some w.env hrun]
    unfold Prog.resume Prog.loop
    rw [Prog.run_bind_of_some w.env hlast]
    rfl
  · -- the 22nd attempt fails too
    obtain ⟨c, es, hrun, hst⟩ := opcStopPasses_stopping le_rfl fun i hi => hno i (by omega)
    obtain ⟨es', hlast, hr⟩ := hst.failed le_rfl (hno 21 (by decide))
    refine ⟨.gaveUp, es', ?_, hr⟩
    rw [show 22 + fuel = 21 + (fuel + 1) by omega, Prog.loop_add, Prog.run_bind_of_some w.env hrun]
    unfold Prog.resume Prog.loop
    rw [Prog.run_bind_of_some w.env hlast]
    rfl

end Stop

/-- The events that power the sensor down, the most recent one first. -/
def powerDownEvents : History :=
  [⟨.gpioPinSet ⟨.gpiob, 5⟩ .low, ()⟩, ⟨.gpioPinSet ⟨.gpiob, 6⟩ .low, ()⟩,
    ⟨.gpioPinSet ⟨.gpiob, 7⟩ .low, ()⟩, ⟨.gpioPinSet ⟨.gpiob, 4⟩ .low, ()⟩,
    ⟨.gpioPinSet ⟨.gpiob, 3⟩ .low, ()⟩, ⟨.kMsleep 2000, ()⟩]

/-- `opc_stop` powers the sensor down after its retry loop. -/
lemma opcStop_run {w : World} {fuel : ℕ} {h₀ h : History} {exit : StopExit}
    (hrun : (Prog.loop opcStopPass fuel 0).run w.env (World.relayOn ++ h₀) = (some exit, h)) :
    (opcStop fuel).run w.env h₀ = (some (), powerDownEvents ++ h) := by
  have hloop : (opcStopHandshake fuel).run w.env h₀ = (some exit, h) := by
    rw [← hrun]
    simp only [opcStopHandshake, countdown, Prog.forRange, Prog.run_bind, run_kMsleep,
      run_gpioPinSet, Prog.run_pure]
    rfl
  rw [opcStop_eq, Prog.run_bind_of_some w.env hloop]
  rfl

/-- How many attempts of a call that starts at transfer `base` fail before the first confirmed one:
infinitely many if there is none. -/
noncomputable def World.failedAttempts (w : World) (base : ℕ) : ℕ∞ :=
  ⨅ (j : ℕ) (_ : w.Confirms base j), (j : ℕ∞)

/-- The failed attempts, where attempt `j` is the first one that is confirmed. -/
lemma World.failedAttempts_eq {w : World} {base j : ℕ} (hno : ∀ i < j, ¬ w.Confirms base i)
    (hok : w.Confirms base j) : w.failedAttempts base = j := by
  refine le_antisymm (iInf₂_le j hok) (le_iInf₂ fun i hi => ?_)
  exact Nat.cast_le.2 (Nat.le_of_not_lt fun hlt => hno i hlt hi)

/-- The failed attempts are at least as many as the first attempts that fail. -/
lemma World.le_failedAttempts {w : World} {base n : ℕ} (hno : ∀ i < n, ¬ w.Confirms base i) :
    n ≤ w.failedAttempts base :=
  le_iInf₂ fun i hi => Nat.cast_le.2 (Nat.le_of_not_lt fun hlt => hno i hlt hi)

/-- **The failed attempts `opc_stop` makes**: those before the first confirmed one, at most 22. -/
lemma World.exists_failed (w : World) (base : ℕ) : ∃ n ≤ 22, (∀ i < n, ¬ w.Confirms base i) ∧
    (n < 22 → w.Confirms base n) ∧ (n : ℕ∞) = min (w.failedAttempts base) 22 := by
  by_cases hex : ∃ n < 22, w.Confirms base n
  · have hfind := Nat.find_spec hex
    have hmin : ∀ i < Nat.find hex, ¬ w.Confirms base i := fun i hi hc =>
      Nat.find_min hex hi ⟨by omega, hc⟩
    refine ⟨Nat.find hex, by omega, hmin, fun _ => hfind.2, ?_⟩
    rw [failedAttempts_eq hmin hfind.2, min_eq_left]
    exact Nat.cast_le.2 hfind.1.le
  · have hno : ∀ i < 22, ¬ w.Confirms base i := fun i hi hc => hex ⟨i, hi, hc⟩
    refine ⟨22, le_rfl, hno, fun hlt => absurd hlt (by decide), ?_⟩
    exact (min_eq_right (le_failedAttempts hno)).symm

/-- **`opc_stop` always ends with the sensor off.** Whatever the sensor replies, it returns after
22 passes of its loop at the latest, having made one attempt more than failed before the first
confirmed one, but at most 22. It waits for the sensor's buffer once if at least 11 of its
attempts failed; the relay is on during every command and off on return. -/
theorem opcStop_schedule (w : World) (h₀ : History) (fuel : ℕ) :
    ∃ (m : ℕ) (es : History), (opcStop (22 + fuel)).run w.env h₀ = (some (), es ++ h₀) ∧
      (m : ℕ∞) = min (w.failedAttempts (transfers h₀) + 1) 22 ∧
      commandsSent es = (List.replicate m [0x03, 0x01]).flatten ∧
      resetWaits es = (if 11 ≤ min (w.failedAttempts (transfers h₀)) 22 then 1 else 0) ∧
      PoweredTransfers h₀ es ∧ level relay (es ++ h₀) = .low := by
  obtain ⟨n, hn, hno, hok, hmin⟩ := w.exists_failed (transfers h₀)
  obtain ⟨exit, es, hrun, hr⟩ := opcStopLoop_run hn hno hok fuel
  refine ⟨min (n + 1) 22, powerDownEvents ++ es, ?_, ?_, ?_, ?_, ?_, ?_⟩
  · rw [List.append_assoc]
    exact opcStop_run hrun
  · rw [Nat.mono_cast.map_min, Nat.cast_add, hmin]
    obtain hle | hle := le_total (w.failedAttempts (transfers h₀)) 22
    · rw [min_eq_left hle]
      rfl
    · rw [min_eq_right hle, min_eq_right (hle.trans le_self_add)]
      rfl
  · rw [← hr.sent]
    simp [powerDownEvents, commandsSent_cons, exchange?]
  · have hiff : (11 : ℕ∞) ≤ min (w.failedAttempts (transfers h₀)) 22 ↔ 11 ≤ n := by
      rw [← hmin]
      exact Nat.cast_le
    simp only [hiff, ← hr.waits]
    simp [powerDownEvents, Call.isResetWait]
  · simpa [powerDownEvents, Call.isTransfer] using hr.powered
  · simp [powerDownEvents, Call.writes]

end AirLab
