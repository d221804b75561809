import Mathlib.Tactic.Ring
import AirLab.Footprint

set_option relaxedAutoImplicit false
set_option autoImplicit false

/-!
# The power phases of a measurement cycle

A measurement cycle switches the sensor on, measures, switches it off and releases the bus. The
power cycle in the retry loop of `opc_start` happens in a call whose first 22 attempts all fail,
and in no other. This file follows the phases of a cycle for whatever holds in them, so that
the properties of `AirLab.Opc.Power` only have to be checked event by event.

## Main definitions

* `AirLab.HandshakeWithin` — one of the next attempts is answered by 243 and 3.
* `AirLab.PowerPhases` — what holds with the sensor on, just switched off, and released.
* `AirLab.particleHistory` — the runs of the particle thread from the pins `main` leaves.
* `AirLab.InTime` — every cycle of a run has its handshake in time.

## Main results

* `AirLab.PowerPhases.opcCycle` — a cycle with a handshake in time goes through the phases.
* `AirLab.opcStart_exhausts` — an `opc_start` without one comes to the power cycle.
* `AirLab.PowerPhases.history_of_inTime`, `AirLab.PowerPhases.inTime_of_history` — a property
  that the phases imply and the power cycle ends holds of exactly the runs whose cycles have
  their handshakes in time.
-/

namespace AirLab

open CLang Effects

variable {w : World}

/-- A counter byte below 255 counts on. -/
lemma toNat_succ {c : UInt8} (hc : c.toNat < 255) : (c + 1).toNat = c.toNat + 1 := by
  have h1 : (1 : UInt8).toNat = 1 := rfl
  rw [UInt8.toNat_add]
  omega

/-! ## Attempts -/

/-- One of the `n` attempts that start at transfer `base` is answered by 243 and 3. -/
def HandshakeWithin (w : World) (base n : ℕ) : Prop :=
  ∃ j < n, w.reply (base + 2 * j) = 243 ∧ w.reply (base + 2 * j + 1) = 3

instance (base n : ℕ) : Decidable (HandshakeWithin w base n) := by
  unfold HandshakeWithin; infer_instance

/-- The history after an attempt from `h` with `cmd` as its second command. -/
def attempt (w : World) (cmd : UInt8) (h : History) : History :=
  commandEvents w cmd (⟨.kMsleep 10, ()⟩ :: (commandEvents w 0x03 h ++ h)) ++
    ⟨.kMsleep 10, ()⟩ :: (commandEvents w 0x03 h ++ h)

/-- An attempt takes two transfers. -/
@[simp] lemma transfers_attempt (cmd : UInt8) (h : History) :
    transfers (attempt w cmd h) = transfers h + 2 := by
  simp [attempt, Call.isTransfer]

/-- The events of the power cycle, the most recent one first. -/
def powerCycle : History :=
  [⟨.gpioPinSet ⟨.gpiob, 3⟩ .high, ()⟩, ⟨.kMsleep 8000, ()⟩, ⟨.gpioPinSet ⟨.gpiob, 5⟩ .low, ()⟩,
    ⟨.gpioPinSet ⟨.gpiob, 7⟩ .low, ()⟩, ⟨.gpioPinSet ⟨.gpiob, 4⟩ .low, ()⟩,
    ⟨.gpioPinSet ⟨.gpiob, 3⟩ .low, ()⟩]

/-- The waits after a failed attempt of `opc_start` with the counter `c`. -/
def startWaits (c : UInt8) : History :=
  if c = 10 then [⟨.kMsleep 5000, ()⟩, ⟨.kMsleep 1000, ()⟩] else [⟨.kMsleep 1000, ()⟩]

/-- Waiting takes no transfer. -/
@[simp] lemma transfers_startWaits (c : UInt8) (h : History) :
    transfers (startWaits c ++ h) = transfers h := by
  unfold startWaits
  split_ifs <;> simp [Call.isTransfer]

/-- **A pass of the retry loop of `opc_start`**: it ends where the attempt is answered by 243
and 3, and goes through a power cycle where the counter is above 20. -/
lemma opcStartPass_run (c : UInt8) (h : History) :
    (opcStartPass c).run w.env h =
      if w.reply (transfers h) = 243 ∧ w.reply (transfers h + 1) = 3 then
        (some (.inr ()), attempt w 0x00 h)
      else if c > 20 then (some (.inl 1), powerCycle ++ (startWaits c ++ attempt w 0x00 h))
      else (some (.inl (c + 1)), startWaits c ++ attempt w 0x00 h) := by
  have h2 : transfers (⟨.kMsleep 10, ()⟩ :: (commandEvents w 0x03 h ++ h)) = transfers h + 1 := by
    simp [Call.isTransfer]
  simp only [opcStartPass, Prog.run_bind, opcSendCommand_run, run_kMsleep, run_gpioPinSet,
    Prog.run_ite, Prog.run_pure, h2]
  split_ifs with hack h10 h20 h20 <;> simp [attempt, startWaits, powerCycle, *]

/-- The waits after a failed attempt of `opc_stop` with the counter `c`. -/
def stopWaits (c : UInt8) : History :=
  if c = 10 then [⟨.kMsleep 5000, ()⟩, ⟨.kMsleep 600, ()⟩] else [⟨.kMsleep 600, ()⟩]

/-- Waiting takes no transfer. -/
@[simp] lemma transfers_stopWaits (c : UInt8) (h : History) :
    transfers (stopWaits c ++ h) = transfers h := by
  unfold stopWaits
  split_ifs <;> simp [Call.isTransfer]

/-- **A pass of the retry loop of `opc_stop`**: it ends where the attempt is answered by 243 and
3, or gives up where the counter is above 20. -/
lemma opcStopPass_run (c : UInt8) (h : History) :
    (opcStopPass c).run w.env h =
      if w.reply (transfers h) = 243 ∧ w.reply (transfers h + 1) = 3 then
        (some (.inr .ready), attempt w 0x01 h)
      else if c > 20 then (some (.inr .gaveUp), stopWaits c ++ attempt w 0x01 h)
      else (some (.inl (c + 1)), stopWaits c ++ attempt w 0x01 h) := by
  have h2 : transfers (⟨.kMsleep 10, ()⟩ :: (commandEvents w 0x03 h ++ h)) = transfers h + 1 := by
    simp [Call.isTransfer]
  simp only [opcStopPass, Prog.run_bind, opcSendCommand_run, run_kMsleep, Prog.run_ite,
    Prog.run_pure, h2]
  split_ifs with hack h10 h20 h20 <;> simp [attempt, stopWaits, *]

/-! ## Calls by what they do to the power and select lines -/

/-- The call does not switch the relay off. -/
def Call.LeavesPower (c : Call) : Prop := c.writes relay ≠ some .low

/-- The call leaves the bus alone: no transfer, the relay as it is, the sensor not selected. -/
def Call.OffBus (c : Call) : Prop :=
  c.isTransfer = false ∧ c.writes relay = none ∧ c.writes chipSelect ≠ some .high

/-- The relay stays on under a call that does not switch it off. -/
lemma level_relay_of_leavesPower {e : BoardEvent} {h : History} (he : e.call.LeavesPower)
    (hrelay : level relay h = .high) : level relay (e :: h) = .high := by
  rw [level_cons, hrelay]
  unfold Call.LeavesPower at he
  rcases hw : e.call.writes relay with _ | _ | _
  · rfl
  · exact absurd hw he
  · rfl

/-- Reading the counter leaves the power on. -/
lemma Call.ofCounter.leavesPower (c : Call) (hc : c.ofCounter) : c.LeavesPower := by
  cases c with
  | gpioPinSet pin v =>
    obtain rfl : pin = chipSelect := hc
    simp [Call.LeavesPower, Call.writes]
  | gpioPinConfigure pin flags => exact hc.elim
  | _ => simp [Call.LeavesPower, Call.writes]

/-- The ambient sensor leaves the bus alone. -/
lemma Call.ofAmbient.offBus (c : Call) (hc : c.ofAmbient) : c.OffBus := by
  cases c <;> first | exact hc.elim | simp [Call.OffBus, Call.writes, Call.isTransfer]

/-- The file system leaves the bus alone. -/
lemma Call.ofStorage.offBus (c : Call) (hc : c.ofStorage) : c.OffBus := by
  cases c <;> first | exact hc.elim | simp [Call.OffBus, Call.writes, Call.isTransfer]

/-! ## The phases of a cycle -/

/-- **The phases of a cycle**: `On` holds while the sensor is on, `Down` between switching it off
and releasing the bus, `Off` from then on until it is switched on again. -/
structure PowerPhases (On Down Off : History → Prop) : Prop where
  switchOn : ∀ h, Off h → On (⟨.kMsleep 1000, ()⟩ :: ⟨.kMsleep 1000, ()⟩ ::
    ⟨.kMsleep 1000, ()⟩ :: ⟨.gpioPinSet ⟨.gpiob, 3⟩ .high, ()⟩ :: h)
  onEvent : ∀ e h, e.call.LeavesPower → On h → On (e :: h)
  switchOff : ∀ h, On h → Down (⟨.gpioPinSet ⟨.gpiob, 3⟩ .low, ()⟩ :: h)
  downEvent : ∀ e h, e.call.OffBus → e.call.isSleep = false → Down h → Down (e :: h)
  release : ∀ h, Down h → Off (⟨.gpioPinConfigure ⟨.gpioa, 4⟩ .outputLow, ()⟩ :: h)
  offEvent : ∀ e h, e.call.OffBus → Off h → Off (e :: h)

namespace PowerPhases

variable {On Down Off S : History → Prop} (hp : PowerPhases On Down Off)

include hp

/-- Events that leave the power on, added in front. -/
lemma on_append (es : History) {h : History} (hes : ∀ e ∈ es, e.call.LeavesPower) (hon : On h) :
    On (es ++ h) := by
  induction es with
  | nil => exact hon
  | cons e es ih =>
    exact hp.onEvent e _ (hes e (by simp)) (ih fun e' he' => hes e' (by simp [he']))

/-- An attempt stays in the first phase. -/
lemma on_attempt (cmd : UInt8) {h : History} (hon : On h) : On (attempt w cmd h) := by
  have hcmd : ∀ c h', ∀ e ∈ commandEvents w c h', e.call.LeavesPower := by
    simp [commandEvents, Call.LeavesPower, Call.writes]
  refine hp.on_append _ (hcmd _ _) (hp.onEvent _ _ ?_ (hp.on_append _ (hcmd _ _) hon))
  simp [Call.LeavesPower, Call.writes]

/-- The waits of `opc_start` stay in the first phase. -/
lemma on_startWaits (c : UInt8) {h : History} (hon : On h) : On (startWaits c ++ h) := by
  refine hp.on_append _ ?_ hon
  unfold startWaits
  split_ifs <;> simp [Call.LeavesPower, Call.writes]

/-- The waits of `opc_stop` stay in the first phase. -/
lemma on_stopWaits (c : UInt8) {h : History} (hon : On h) : On (stopWaits c ++ h) := by
  refine hp.on_append _ ?_ hon
  unfold stopWaits
  split_ifs <;> simp [Call.LeavesPower, Call.writes]

/-- **A pass of `opc_start` up to attempt `n`**, which is answered: the counter is the number of
attempts made, and a pass that goes on does not switch the sensor off. -/
lemma opcStartPass_on {base n : ℕ} (hn : n < 22) (hr1 : w.reply (base + 2 * n) = 243)
    (hr2 : w.reply (base + 2 * n + 1) = 3) (c : UInt8) :
    Prog.Triple w.env
      (fun h => On h ∧ c.toNat ≤ n ∧ transfers h = base + 2 * c.toNat) (opcStartPass c)
      (fun r h => r.elim (fun c' => (On h ∧ c'.toNat ≤ n ∧ transfers h = base + 2 * c'.toNat) ∧
        n + 1 - c'.toNat < n + 1 - c.toNat) fun _ => On h) S := by
  intro h hh
  obtain ⟨hon, hc, htr⟩ := hh
  have hrun := opcStartPass_run (w := w) c h
  have hon2 := hp.on_attempt (w := w) 0x00 hon
  -- the last of the attempts counted is answered
  have hlast : c.toNat = n → w.reply (transfers h) = 243 ∧ w.reply (transfers h + 1) = 3 := by
    rintro rfl
    rw [htr]
    exact ⟨hr1, hr2⟩
  split_ifs at hrun with hack h20
  · exact (Prog.wp_of_run hrun).2 hon2
  · rw [gt_iff_lt, UInt8.lt_iff_toNat_lt] at h20
    have htwenty : (20 : UInt8).toNat = 20 := rfl
    exact absurd (hlast (by omega)) hack
  · have hne : c.toNat ≠ n := fun hcn => hack (hlast hcn)
    have hsucc : (c + 1).toNat = c.toNat + 1 := toNat_succ (by omega)
    refine (Prog.wp_of_run hrun).2 ⟨⟨hp.on_startWaits c hon2, by omega, ?_⟩, by omega⟩
    rw [transfers_startWaits, transfers_attempt, htr, hsucc]
    ring

/-- **`opc_start` with a handshake in time** ends in the first phase: the retry loop breaks out
before the counter allows a power cycle. -/
lemma opcStart_on {fuel : ℕ} (hS : fuel < 22 → ∀ h, On h → S h) :
    Prog.Triple w.env (fun h => Off h ∧ HandshakeWithin w (transfers h) 22) (opcStart fuel)
      (fun _ => On) S := by
  intro h hh
  obtain ⟨hoff, n, hn, hr1, hr2⟩ := hh
  have hsleep : Call.OffBus (.kMsleep 1000) := by
    simp [Call.OffBus, Call.writes, Call.isTransfer]
  have hoff3 := hp.offEvent ⟨.kMsleep 1000, ()⟩ _ hsleep (hp.offEvent ⟨.kMsleep 1000, ()⟩ _ hsleep
    (hp.offEvent ⟨.kMsleep 1000, ()⟩ h hsleep hoff))
  have hon := hp.switchOn _ hoff3
  have hzero : (0 : UInt8).toNat = 0 := rfl
  simp only [opcStart, countdown, Prog.forRange, Prog.wp_bind, Prog.wp_pure, wp_kMsleep,
    wp_gpioPinSet]
  refine (Prog.Triple.loop_variant (fun c => n + 1 - c.toNat)
    (fun c => hp.opcStartPass_on hn hr1 hr2 c) ?_ ?_ _ ⟨hon, ?_, ?_⟩).mono
      (fun _ h' hon' => hp.onEvent _ _ (by simp [Call.LeavesPower, Call.writes]) hon')
      fun _ hs => hs
  · intro c h' hh
    obtain ⟨-, hc, -⟩ := hh
    omega
  · intro hlow c h' hh
    obtain ⟨hon', -, -⟩ := hh
    exact hS (by omega) h' hon'
  · omega
  · simp [Call.isTransfer]

/-- **A pass of `opc_stop`** stays in the first phase and counts up to 21. -/
lemma opcStopPass_on (c : UInt8) :
    Prog.Triple w.env (fun h => On h ∧ c.toNat ≤ 21) (opcStopPass c)
      (fun r h => r.elim (fun c' => (On h ∧ c'.toNat ≤ 21) ∧ 22 - c'.toNat < 22 - c.toNat)
        fun _ => On h) S := by
  intro h hh
  obtain ⟨hon, hc⟩ := hh
  have hrun := opcStopPass_run (w := w) c h
  have hon2 := hp.on_attempt (w := w) 0x01 hon
  split_ifs at hrun with hack h20
  · exact (Prog.wp_of_run hrun).2 hon2
  · exact (Prog.wp_of_run hrun).2 (hp.on_stopWaits c hon2)
  · rw [gt_iff_lt, UInt8.lt_iff_toNat_lt] at h20
    have htwenty : (20 : UInt8).toNat = 20 := rfl
    have hsucc : (c + 1).toNat = c.toNat + 1 := toNat_succ (by omega)
    exact (Prog.wp_of_run hrun).2 ⟨⟨hp.on_stopWaits c hon2, by omega⟩, by omega⟩

/-- `opc_stop` ends with the sensor switched off, after at most 22 attempts. -/
lemma opcStop_down {fuel : ℕ} (hS : fuel < 22 → ∀ h, On h → S h) :
    Prog.Triple w.env On (opcStop fuel) (fun _ => Down) S := by
  intro h hon
  have hset : ∀ n, n ≠ 3 → Call.OffBus (.gpioPinSet ⟨.gpiob, n⟩ .low) := by
    intro n hn
    simp [Call.OffBus, Call.writes, Call.isTransfer, hn]
  simp only [opcStop, countdown, Prog.forRange, Prog.wp_bind, Prog.wp_pure, wp_kMsleep,
    wp_gpioPinSet]
  refine (Prog.Triple.loop_variant (fun c => 22 - c.toNat) (fun c => hp.opcStopPass_on c)
    ?_ ?_ _ ⟨?_, ?_⟩).mono (fun _ h' hon' => ?_) fun _ hs => hs
  · intro c h' hh
    obtain ⟨-, hc⟩ := hh
    omega
  · intro hlow c h' hh
    obtain ⟨hon', -⟩ := hh
    exact hS (by omega) h' hon'
  · have hon2 := hp.onEvent ⟨.kMsleep 2000, ()⟩ _ (by simp [Call.LeavesPower, Call.writes]) hon'
    refine hp.downEvent _ _ (hset 5 (by decide)) rfl ?_
    refine hp.downEvent _ _ (hset 6 (by decide)) rfl ?_
    refine hp.downEvent _ _ (hset 7 (by decide)) rfl ?_
    exact hp.downEvent _ _ (hset 4 (by decide)) rfl (hp.switchOff _ hon2)
  · exact hp.on_append [⟨.kMsleep 1000, ()⟩, ⟨.kMsleep 1000, ()⟩, ⟨.kMsleep 1000, ()⟩,
      ⟨.gpioPinSet ⟨.gpiob, 3⟩ .high, ()⟩, ⟨.kMsleep 1000, ()⟩, ⟨.kMsleep 1000, ()⟩,
      ⟨.kMsleep 1000, ()⟩] (by simp [Call.LeavesPower, Call.writes]) hon
  · simp

/-- `opc_release` releases the bus. -/
lemma opcRelease_off : Prog.Triple w.env Down opcRelease (fun _ => Off) S := by
  intro h hdown
  have hset : ∀ n, n ≠ 3 → Call.OffBus (.gpioPinSet ⟨.gpiob, n⟩ .low) := by
    intro n hn
    simp [Call.OffBus, Call.writes, Call.isTransfer, hn]
  simp only [opcRelease, Prog.wp_bind, Prog.wp_perform, wp_gpioPinConfigure, wp_gpioPinSet]
  refine hp.offEvent _ _ (hset 5 (by decide)) ?_
  refine hp.offEvent _ _ (hset 7 (by decide)) ?_
  refine hp.offEvent _ _ (hset 4 (by decide)) (hp.release _ ?_)
  refine hp.downEvent _ _ ?_ rfl (hp.downEvent _ _ ?_ rfl (hp.downEvent _ _ ?_ rfl
    (hp.downEvent _ _ ?_ rfl hdown))) <;>
    simp [Call.OffBus, Call.writes, Call.isTransfer]

/-- An event off the bus, where a cycle is about to start. -/
lemma ready_event (e : BoardEvent) (h : History) (he : e.call.OffBus)
    (hready : Off h ∧ HandshakeWithin w (transfers h) 22) :
    Off (e :: h) ∧ HandshakeWithin w (transfers (e :: h)) 22 := by
  refine ⟨hp.offEvent e h he hready.1, ?_⟩
  rw [transfers_cons, he.1]
  exact hready.2

/-- **A measurement cycle with a handshake in time** goes through the phases. -/
lemma opcCycle {fuel : ℕ} (hS : fuel < 22 → ∀ h, On h → S h) (n : UInt8) :
    Prog.Triple w.env (fun h => Off h ∧ HandshakeWithin w (transfers h) 22) (opcCycle fuel n)
      (fun _ => Off) S := by
  have hinit : opcInit.Only Call.OffBus := opcInit_calls.mono (by
    simp [Call.OffBus, Call.writes, Call.isTransfer])
  unfold AirLab.opcCycle
  refine Prog.Triple.bind (Prog.Triple.of_only hp.ready_event hinit) fun _ => ?_
  refine Prog.Triple.bind (hp.opcStart_on hS) fun _ => ?_
  refine Prog.Triple.bind (Prog.Triple.of_only hp.onEvent
    ((opcReadHistogram_calls n).mono Call.ofCounter.leavesPower))
    fun data => ?_
  refine Prog.Triple.bind (hp.opcStop_down hS) fun _ => ?_
  exact Prog.Triple.bind hp.opcRelease_off fun _ => Prog.Triple.pure fun _ hoff => hoff

/-- A pass of the particle thread whose handshake comes in time. -/
lemma countParticlesPass {fuel : ℕ} (hS : fuel < 22 → ∀ h, On h → S h) (a : Fin 3 → Flt) :
    Prog.Triple w.env (fun h => Off h ∧ HandshakeWithin w (transfers h) 22)
      (countParticlesPass fuel a) (fun _ => Off) S := by
  have hoff : ∀ {α : Type} {p : App α}, p.Only Call.OffBus →
      Prog.Triple w.env Off p (fun _ => Off) S := fun h => Prog.Triple.of_only hp.offEvent h
  have hpin : ∀ v, (gpioPinSet ledRed v).Only Call.OffBus := fun v =>
    perform_only (by simp [Call.OffBus, Call.writes, Call.isTransfer])
  have hprint : ∀ t, (snprintfcb t).Only Call.OffBus := fun t =>
    .bind (perform_only (by simp [Call.OffBus, Call.writes, Call.isTransfer])) fun _ =>
      Prog.calls_pure _
  have hcopy : ∀ t, (strcpy .opcMsg t).Only Call.OffBus := fun t =>
    perform_only (by simp [Call.OffBus, Call.writes, Call.isTransfer])
  unfold AirLab.countParticlesPass
  refine Prog.Triple.bind (Prog.Triple.of_only hp.ready_event (hpin _)) fun _ => ?_
  refine Prog.Triple.bind (hp.opcCycle hS 7) fun data => ?_
  refine Prog.Triple.bind (hoff (hpin _)) fun _ => ?_
  refine Prog.Triple.bind (hoff ((ambientSensorsRead_calls 1 a).mono Call.ofAmbient.offBus))
    fun a => ?_
  refine Prog.Triple.bind (hoff (hprint _)) fun textData => ?_
  refine Prog.Triple.bind (hoff (hcopy _)) fun _ => ?_
  refine Prog.Triple.bind (hoff ((saveData_calls _ _).mono Call.ofStorage.offBus)) fun _ => ?_
  refine Prog.Triple.bind (hoff (perform_only ?_)) fun _ => Prog.Triple.pure fun _ h => h
  simp [Call.OffBus, Call.writes, Call.isTransfer]

end PowerPhases

/-! ## Cycles without a handshake -/

/-- **`opc_start` without a handshake in time** comes to the power cycle and goes on from there.

**Proof sketch.** The counter is the number of failed attempts, so it is 21 at the 22nd attempt
and above 20 at no attempt before. -/
lemma opcStart_exhausts {T : History → Prop} (hT : ∀ e h, T h → T (e :: h)) {fuel : ℕ}
    (hrest : ∀ h₀, Prog.Triple w.env (· = powerCycle ++ (startWaits 21 ++ attempt w 0x00 h₀))
      (Prog.loop opcStartPass fuel 1) (fun _ => T) T) :
    Prog.Triple w.env (fun h => ¬ HandshakeWithin w (transfers h) 22) (opcStart (22 + fuel))
      (fun _ => T) T := by
  intro h hno
  simp only [opcStart, countdown, Prog.forRange, Prog.wp_bind, Prog.wp_pure, wp_kMsleep,
    wp_gpioPinSet]
  refine (Prog.Triple.loop_passes (Q := fun _ => T) (S := T) 22
    (I := fun i c h' => if i < 22 then c.toNat = i ∧ transfers h' = transfers h + 2 * i
      else c = 1 ∧ ∃ h₀, h' = powerCycle ++ (startWaits 21 ++ attempt w 0x00 h₀)) ?_ ?_ 0 _ ?_).mono
      (fun _ h' hT' => hT _ _ hT') fun _ hs => hs
  · intro i hi c h' hI
    rw [if_pos hi] at hI
    obtain ⟨hc, htr⟩ := hI
    have hrun := opcStartPass_run (w := w) c h'
    have h20' : (20 : UInt8).toNat = 20 := rfl
    split_ifs at hrun with hack h20
    · exact absurd ⟨i, hi, by rw [← htr]; exact hack.1, by rw [← htr]; exact hack.2⟩ hno
    · rw [gt_iff_lt, UInt8.lt_iff_toNat_lt] at h20
      obtain rfl : i = 21 := by omega
      obtain rfl : c = 21 := UInt8.toNat_inj.1 hc
      exact (Prog.wp_of_run hrun).2 ⟨rfl, h', rfl⟩
    · rw [gt_iff_lt, UInt8.lt_iff_toNat_lt] at h20
      refine (Prog.wp_of_run hrun).2 ?_
      simp only [Sum.elim_inl]
      rw [if_pos (by omega), toNat_succ (by omega), transfers_startWaits, transfers_attempt, htr]
      omega
  · intro c h' hI
    simp only [lt_self_iff_false, if_false] at hI
    obtain ⟨rfl, h₀, rfl⟩ := hI
    exact hrest h₀ _ rfl
  · simp [Call.isTransfer]

/-- A pass of the particle thread without a handshake in time. -/
lemma countParticlesPass_exhausts {T : History → Prop} (hT : ∀ e h, T h → T (e :: h)) {fuel : ℕ}
    (hrest : ∀ h₀, Prog.Triple w.env (· = powerCycle ++ (startWaits 21 ++ attempt w 0x00 h₀))
      (Prog.loop opcStartPass fuel 1) (fun _ => T) T) (a : Fin 3 → Flt) :
    Prog.Triple w.env (fun h => ¬ HandshakeWithin w (transfers h) 22)
      (countParticlesPass (22 + fuel) a) (fun _ => T) T := by
  have hquiet : ∀ e h, e.call.OffBus → ¬ HandshakeWithin w (transfers h) 22 →
      ¬ HandshakeWithin w (transfers (e :: h)) 22 := by
    rintro e h ⟨he, -⟩ hno
    rw [transfers_cons, he]
    exact hno
  have hpin : (gpioPinSet ledRed .high).Only Call.OffBus :=
    perform_only (by simp [Call.OffBus, Call.writes, Call.isTransfer])
  have hinit : opcInit.Only Call.OffBus := opcInit_calls.mono (by
    simp [Call.OffBus, Call.writes, Call.isTransfer])
  unfold countParticlesPass opcCycle
  refine Prog.Triple.bind (Prog.Triple.of_only hquiet hpin) fun _ => ?_
  refine Prog.Triple.bind (Q := fun _ => T) ?_ fun data => Prog.Triple.of_stable hT _
  refine Prog.Triple.bind (Prog.Triple.of_only hquiet hinit) fun _ => ?_
  exact Prog.Triple.bind (opcStart_exhausts hT hrest) fun _ => Prog.Triple.of_stable hT _

/-! ## Runs of the particle thread -/

/-- The particle thread from the pins `main` leaves, the first `passes` passes of its loop. -/
def particleRun (fuel passes : ℕ) : App (Fin 3 → Flt) := do
  mainPins
  countParticles fuel passes

/-- The history of such a run. -/
@[irreducible] def particleHistory (w : World) (fuel passes : ℕ) : History :=
  ((particleRun fuel passes).run w.env []).2

/-- The history when `main` starts the threads. -/
def mainHistory : History :=
  [⟨.gpioPinSet ledRed .low, ()⟩, ⟨.gpioPinSet ledGreen .low, ()⟩,
    ⟨.gpioPinConfigure ⟨.gpioa, 6⟩ .input, ()⟩, ⟨.gpioPinConfigure ⟨.gpioa, 7⟩ .outputLow, ()⟩,
    ⟨.gpioPinConfigure ⟨.gpioa, 5⟩ .outputLow, ()⟩,
    ⟨.gpioPinConfigure ⟨.gpioa, 4⟩ .outputInactive, ()⟩,
    ⟨.gpioPinConfigure ⟨.gpiob, 3⟩ .outputInactive, ()⟩,
    ⟨.gpioPinConfigure ledRed .outputInactive, ()⟩,
    ⟨.gpioPinConfigure ledGreen .outputInactive, ()⟩]

/-- In each of the first `passes` cycles one of the first 22 attempts of `opc_start` is answered
by 243 and 3, so that none of them comes to the power cycle. -/
def InTime (w : World) (fuel passes : ℕ) : Prop :=
  ∀ k < passes, HandshakeWithin w (transfers (particleHistory w fuel k)) 22

/-- A run of no passes. -/
lemma particleRun_zero {fuel : ℕ} :
    (particleRun fuel 0).run w.env [] = (some fun _ => 0, mainHistory) := rfl

/-- A run of one more pass. -/
lemma particleRun_succ (fuel n : ℕ) :
    particleRun fuel (n + 1) = particleRun fuel n >>= countParticlesPass fuel := by
  unfold particleRun countParticles Prog.forever
  rw [Prog.forRange, bind_assoc]

/-- **The phases hold along a run whose cycles all have their handshakes in time.**

**Proof sketch.** Induction on the number of passes. -/
lemma PowerPhases.run_off {On Down Off S : History → Prop} (hp : PowerPhases On Down Off)
    (hmain : Off mainHistory) {fuel : ℕ} (hS : fuel < 22 → ∀ h, On h → S h) {passes : ℕ}
    (hin : InTime w fuel passes) :
    (particleRun fuel passes).wp w.env (fun _ => Off) S [] := by
  induction passes with
  | zero => exact (Prog.wp_of_run particleRun_zero).2 hmain
  | succ n ih =>
    have hn := (ih fun k hk => hin k (by omega)).and_run
    rw [particleRun_succ, Prog.wp_bind]
    refine hn.mono ?_ fun _ hs => hs
    intro a h' hh
    obtain ⟨hoff, hrun⟩ := hh
    refine hp.countParticlesPass hS a h' ⟨hoff, ?_⟩
    have := hin n (by omega)
    unfold particleHistory at this
    rw [hrun] at this
    exact this

/-- **A property of histories that the phases imply holds of every run whose cycles all have
their handshakes in time.** -/
lemma PowerPhases.history_of_inTime {On Down Off I : History → Prop}
    (hp : PowerPhases On Down Off) (hmain : Off mainHistory) (hon : ∀ h, On h → I h)
    (hoff : ∀ h, Off h → I h) {fuel passes : ℕ} (hin : InTime w fuel passes) :
    I (particleHistory w fuel passes) := by
  unfold particleHistory
  exact ((hp.run_off hmain (fun _ => hon) hin).mono (fun _ => hoff) fun _ hs => hs).final

/-- **A property of histories that the power cycle ends, and no event restores, fails in every
run with a cycle that comes to the power cycle.**

**Proof sketch.** Induction on the number of passes: as long as all handshakes come in time the
run goes on with the next pass. -/
lemma PowerPhases.inTime_of_history {On Down Off T : History → Prop}
    (hp : PowerPhases On Down Off) (hmain : Off mainHistory) (hT : ∀ e h, T h → T (e :: h))
    {fuel : ℕ} (hrest : ∀ h₀, Prog.Triple w.env
      (· = powerCycle ++ (startWaits 21 ++ attempt w 0x00 h₀))
      (Prog.loop opcStartPass fuel 1) (fun _ => T) T) {passes : ℕ}
    (hno : ¬ T (particleHistory w (22 + fuel) passes)) : InTime w (22 + fuel) passes := by
  induction passes with
  | zero =>
    intro k hk
    omega
  | succ n ih =>
    have hext : particleHistory w (22 + fuel) n <:+ particleHistory w (22 + fuel) (n + 1) := by
      unfold particleHistory
      rw [particleRun_succ]
      exact Prog.run_bind_extends w.env _ _ _
    have hn : InTime w (22 + fuel) n := ih fun hbad => hno (of_suffix hT hext hbad)
    intro k hk
    rcases Nat.lt_succ_iff_lt_or_eq.1 hk with hlt | rfl
    · exact hn k hlt
    by_contra hlate
    obtain ⟨a, h', hrun, -⟩ :=
      (hp.run_off (S := fun _ => False) hmain (fun hlow => by omega) hn).returns
    refine hno ?_
    unfold particleHistory
    refine Prog.wp.final ?_
    rw [particleRun_succ, Prog.wp_bind, Prog.wp_of_run hrun]
    refine countParticlesPass_exhausts hT hrest a h' ?_
    unfold particleHistory at hlate
    rw [hrun] at hlate
    exact hlate

end AirLab
