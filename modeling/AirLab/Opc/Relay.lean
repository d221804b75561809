import AirLab.Effects.Clock
import AirLab.Interleaving
import AirLab.Opc.PowerPhases

set_option relaxedAutoImplicit false
set_option autoImplicit false

/-!
# The relay of the particle counter

The relay is switched in two places, in the retry loop of `opc_start` and at the end of
`opc_stop`, and the first of them can be passed any number of times. Whatever the counter answers
and whatever transfers fail, the relay holds each of its levels for a time, and the counter is
spoken to only while it has power.

## Main definitions

* `AirLab.relayChanges`, `AirLab.dwellTime` — the switchings of the relay, and how long it holds a
  level.
* `AirLab.RelayDiscipline` — what holds of every event of the particle thread.
* `AirLab.RelayHeld` — the level of the relay and the time it has been held for.

## Main results

* `AirLab.relay_dwell` — in every run the relay holds each level for its time.
* `AirLab.transfers_addressed` — in every interleaving all transfers go to the counter, powered
  and selected.
-/

namespace AirLab

open CLang Effects

/-! ## Switchings -/

/-- The event changes the level of the relay. -/
def relayChanges (e : BoardEvent) (past : History) : Bool :=
  level relay (e :: past) ≠ level relay past

/-- How long the relay holds a level, in milliseconds: the wait of a power cycle, and the 21
attempts between two of them with their long wait. -/
def dwellTime : Level → ℕ
  | .low => 8000
  | .high => 21 * 1010 + 5000

/-- The time of the low level. -/
@[simp] lemma dwellTime_low : dwellTime .low = 8000 := rfl

/-- The time of the high level. -/
@[simp] lemma dwellTime_high : dwellTime .high = 26210 := rfl

/-- A switching of the relay ends a level that was held for its time, and a transfer takes place
with the relay on and the counter selected. -/
structure RelayDiscipline (e : BoardEvent) (past : History) : Prop where
  dwell : relayChanges e past = true →
    LongSince Call.slept relayChanges (dwellTime (level relay past)) past
  addressed : e.call.isTransfer = true → level relay past = .high ∧ level chipSelect past = .low

/-- The call leaves the relay alone and is no transfer. -/
def Call.OffRelay (c : Call) : Prop := c.writes relay = none ∧ c.isTransfer = false

/-- The call leaves the relay and the select line alone. -/
def Call.OnBus (c : Call) : Prop := c.writes relay = none ∧ c.writes chipSelect = none

/-- The relay has been at the level `v` for the time `n`, in an orderly history. -/
def RelayHeld (v : Level) (n : ℕ) (h : History) : Prop :=
  (Always RelayDiscipline h ∧ level relay h = v) ∧ LongSince Call.slept relayChanges n h

/-- A shorter time. -/
lemma RelayHeld.mono {v : Level} {m n : ℕ} {h : History} (hh : RelayHeld v n h) (hle : m ≤ n) :
    RelayHeld v m h :=
  ⟨hh.1, hh.2.mono hle⟩

/-- The relay has been on for the time `n`, and the counter is selected. -/
def Selected (n : ℕ) (h : History) : Prop := RelayHeld .high n h ∧ level chipSelect h = .low

/-- What does not write to the relay does not change its level. -/
lemma relayChanges_of_writes {e : BoardEvent} (h : History) (he : e.call.writes relay = none) :
    relayChanges e h = false := by
  simp [relayChanges, he]

/-- **An event that leaves the relay alone**, and is no transfer or one to the counter. -/
lemma RelayHeld.cons {v : Level} {n : ℕ} {h : History} (hh : RelayHeld v n h) {e : BoardEvent}
    (he : e.call.writes relay = none)
    (hto : e.call.isTransfer = true → v = .high ∧ level chipSelect h = .low) :
    RelayHeld v (n + e.call.slept) (e :: h) := by
  obtain ⟨⟨hall, rfl⟩, hlong⟩ := hh
  have hstill := relayChanges_of_writes h he
  refine ⟨⟨⟨⟨fun hc => ?_, hto⟩, hall⟩, ?_⟩, hlong.quiet hstill⟩
  · rw [hstill] at hc
    cases hc
  · rw [level_cons, he]
    rfl

section Rules

variable {env : Env Call Resp} {α β : Type} {v : Level} {m n : ℕ}

/-- **A program that leaves the relay alone lets its time pass.** -/
lemma held_lasts {p : App α} (hp : p.Lasts Call.slept Call.OffRelay n) :
    Prog.Triple env (RelayHeld v m) p (fun _ => RelayHeld v (m + n)) (Always RelayDiscipline) := by
  refine (hp.triple (I := fun h => Always RelayDiscipline h ∧ level relay h = v)
    (fun e h he => relayChanges_of_writes h he.1) fun e h he hh => ?_).mono (fun _ hh => hh)
    (fun _ _ hh => hh) fun _ hh => hh.1
  have hheld : RelayHeld v 0 h := ⟨hh, longSince_zero h⟩
  exact (hheld.cons he.1 fun ht => by simp [he.2] at ht).1

/-- While the counter is selected it may be spoken to. -/
lemma selected_of_calls {p : App α} (hp : p.Within Call.OnBus) :
    Prog.Triple env (Selected m) p (fun _ => Selected m) (Always RelayDiscipline) := by
  refine Prog.Triple.of_calls (fun e h he hh => ⟨?_, ?_⟩) (fun _ _ hh => hh.1.1.1) hp
  · exact (hh.1.cons he.1 fun _ => ⟨rfl, hh.2⟩).mono (Nat.le_add_right _ _)
  · rw [level_cons, he.2]
    exact hh.2

/-- A sequence that starts with a program that keeps the level. -/
lemma held_bind {p : App α} {f : α → App β} {Q : β → History → Prop}
    (hp : p.Lasts Call.slept Call.OffRelay n)
    (hf : ∀ a, Prog.Triple env (RelayHeld v (m + n)) (f a) Q (Always RelayDiscipline)) :
    Prog.Triple env (RelayHeld v m) (p >>= f) Q (Always RelayDiscipline) :=
  (held_lasts hp).bind hf

/-- **Switching the relay**, after the time of its level. -/
lemma held_switch {v' : Level} (hne : v ≠ v') (hm : dwellTime v ≤ m) {S : History → Prop} :
    Prog.Triple env (RelayHeld v m) (gpioPinSet relay v') (fun _ => RelayHeld v' 0) S := by
  intro h hh
  rw [wp_gpioPinSet]
  obtain ⟨⟨hall, rfl⟩, hlong⟩ := hh
  refine ⟨⟨⟨⟨fun _ => hlong.mono hm, fun ht => ?_⟩, hall⟩, ?_⟩, longSince_zero _⟩
  · cases ht
  · simp [Call.writes]

/-- Setting the relay to the level it has changes nothing. -/
lemma held_again {S : History → Prop} :
    Prog.Triple env (RelayHeld v m) (gpioPinSet relay v) (fun _ => RelayHeld v m) S := by
  intro h hh
  rw [wp_gpioPinSet]
  obtain ⟨⟨hall, rfl⟩, hlong⟩ := hh
  have hlevel : level relay (⟨.gpioPinSet relay (level relay h), ()⟩ :: h) = level relay h := by
    simp [Call.writes]
  have hstill : relayChanges ⟨.gpioPinSet relay (level relay h), ()⟩ h = false := by
    simp [relayChanges, Call.writes]
  refine ⟨⟨⟨⟨fun hc => ?_, fun ht => ?_⟩, hall⟩, hlevel⟩, (hlong.quiet hstill).mono ?_⟩
  · rw [hstill] at hc
    cases hc
  · cases ht
  · exact Nat.le_add_right m _

/-- Selecting the counter. -/
lemma held_select {S : History → Prop} :
    Prog.Triple env (RelayHeld .high m) (gpioPinSet chipSelect .low) (fun _ => Selected m) S := by
  intro h hh
  rw [wp_gpioPinSet]
  refine ⟨hh.cons (by simp [Call.writes]) nofun, ?_⟩
  simp [Call.writes]

end Rules

/-! ## The counter -/

/-- Sleeping leaves the relay alone, for its time. -/
lemma kMsleep_lasts (ms : ℕ) : (kMsleep ms).Lasts Call.slept Call.OffRelay ms :=
  Prog.lasts_perform ⟨rfl, rfl⟩

/-- Setting another pin leaves the relay alone. -/
lemma gpioPinSet_lasts {p : Pin} (hp : p ≠ relay) (v : Level) :
    (gpioPinSet p v).Lasts Call.slept Call.OffRelay 0 := by
  refine Prog.lasts_of_calls (perform_within ⟨?_, rfl⟩)
  simp [Call.writes, hp]

/-- A short sleep may come between select and transfer. -/
lemma kUsleep_onBus (us : ℕ) : (kUsleep us).Within Call.OnBus := perform_within ⟨rfl, rfl⟩

section Bus

variable {env : Env Call Resp} {m : ℕ}

/-- A command selects the counter for its transfer. -/
lemma opcSendCommand_held (cmd : UInt8) :
    Prog.Triple env (RelayHeld .high m) (opcSendCommand cmd) (fun _ => RelayHeld .high m)
      (Always RelayDiscipline) := by
  have htransfer : (spiTransceive cmd).Within Call.OnBus := perform_within ⟨rfl, rfl⟩
  unfold opcSendCommand
  refine held_bind (Prog.lasts_of_calls (perform_within ⟨rfl, rfl⟩)) fun rxBuf => ?_
  refine held_select.bind fun _ => (selected_of_calls (kUsleep_onBus 4)).bind fun _ => ?_
  refine (selected_of_calls htransfer).bind fun received => ?_
  refine (selected_of_calls (kUsleep_onBus 4)).bind fun _ => ?_
  refine Prog.Triple.mono (held_bind (gpioPinSet_lasts (by decide) .high) fun _ =>
    Prog.Triple.pure fun _ hh => hh) (fun _ hh => hh.1) (fun _ _ hh => hh) fun _ hh => hh

/-- A payload selects the counter for its transfers. -/
lemma readPayload_held (l : HistLocals) :
    Prog.Triple env (RelayHeld .high m) (readPayload l) (fun _ => RelayHeld .high m)
      (Always RelayDiscipline) := by
  have hpass : ∀ i l, (payloadPass i l).Within Call.OnBus := by
    intro i l
    unfold payloadPass
    exact .bind (perform_within ⟨rfl, rfl⟩) fun _ => Prog.calls_pure _
  unfold readPayload
  refine held_select.bind fun _ => (selected_of_calls (kUsleep_onBus 6)).bind fun _ => ?_
  refine (selected_of_calls (.forRange hpass 62 l)).bind fun l => ?_
  refine (selected_of_calls (kUsleep_onBus 6)).bind fun _ => ?_
  refine Prog.Triple.mono (held_bind (gpioPinSet_lasts (by decide) .high) fun _ =>
    Prog.Triple.pure fun _ hh => hh) (fun _ hh => hh.1) (fun _ _ hh => hh) fun _ hh => hh

/-- A pass of the sample loop takes five seconds. -/
lemma samplePass_held (s : ℕ) (l : HistLocals) :
    Prog.Triple env (RelayHeld .high m) (samplePass s l) (fun _ => RelayHeld .high (m + 5000))
      (Always RelayDiscipline) := by
  unfold samplePass
  refine (opcSendCommand_held 0x30).bind fun r => held_bind (kMsleep_lasts 12) fun _ => ?_
  by_cases hr : r = 243
  · rw [if_pos hr]
    refine (readPayload_held l).bind fun l => held_bind (kMsleep_lasts 5000) fun _ => ?_
    exact Prog.Triple.pure fun _ hh => hh.mono (by omega)
  · rw [if_neg hr]
    refine held_bind (Prog.lasts_pure l) fun l => held_bind (kMsleep_lasts 5000) fun _ => ?_
    exact Prog.Triple.pure fun _ hh => hh.mono (by omega)

/-- Reading a histogram takes five seconds for each sample. -/
lemma opcReadHistogram_held (samples : UInt8) :
    Prog.Triple env (RelayHeld .high m) (opcReadHistogram samples)
      (fun _ => RelayHeld .high (m + samples.toNat * 5000)) (Always RelayDiscipline) := by
  unfold opcReadHistogram
  refine held_bind (Prog.lasts_of_calls (perform_within ⟨rfl, rfl⟩)) fun l => ?_
  refine Prog.Triple.bind (Q := fun _ => RelayHeld .high (m + samples.toNat * 5000)) ?_
    fun l => Prog.Triple.pure fun _ hh => hh
  refine (Prog.Triple.forRange (I := fun i _ => RelayHeld .high (m + i * 5000)) samples.toNat
    (fun i _ l => ?_) _).mono (fun _ hh => hh.mono (by omega)) (fun _ _ hh => hh) fun _ hh => hh
  exact (samplePass_held i l).mono (fun _ hh => hh) (fun _ _ hh => hh.mono (by omega))
    fun _ hh => hh

end Bus

/-- The countdown takes three seconds. -/
lemma countdown_lasts : countdown.Lasts Call.slept Call.OffRelay 3000 :=
  Prog.Lasts.forRange (fun _ _ => kMsleep_lasts 1000) 3 ()

section Cycle

variable {env : Env Call Resp}

/-- The time since the relay was switched on, before the attempt of `opc_start` with the counter
`c`: that of the attempts since a power cycle. -/
def startTime (c : UInt8) : ℕ := 1010 * (c.toNat - 1) + if c > 10 then 5000 else 0

/-- A failed attempt takes its time. -/
lemma startTime_succ {c : UInt8} (hc : ¬ c > 20) :
    startTime (c + 1) ≤ startTime c + 1010 + if c = 10 then 5000 else 0 := by
  have hten : (10 : UInt8).toNat = 10 := rfl
  have htwenty : (20 : UInt8).toNat = 20 := rfl
  rw [gt_iff_lt, UInt8.lt_iff_toNat_lt] at hc
  have hsucc : (c + 1).toNat = c.toNat + 1 := toNat_succ (by omega)
  unfold startTime
  simp only [gt_iff_lt, UInt8.lt_iff_toNat_lt, ← UInt8.toNat_inj, hsucc, hten]
  split_ifs <;> omega

/-- Before a power cycle the relay has been on for its time. -/
lemma startTime_cycle {c : UInt8} (hc : c > 20) :
    dwellTime .high ≤ startTime c + 1010 := by
  have hten : (10 : UInt8).toNat = 10 := rfl
  have htwenty : (20 : UInt8).toNat = 20 := rfl
  rw [gt_iff_lt, UInt8.lt_iff_toNat_lt] at hc
  have hlong : c > 10 := by
    rw [gt_iff_lt, UInt8.lt_iff_toNat_lt]
    omega
  rw [dwellTime_high, startTime, if_pos hlong]
  omega

/-- **A pass of the retry loop of `opc_start`** keeps the time since the relay was switched on. -/
lemma opcStartPass_held (c : UInt8) :
    Prog.Triple env (RelayHeld .high (startTime c)) (opcStartPass c)
      (fun r => r.elim (fun c' => RelayHeld .high (startTime c')) fun _ => RelayHeld .high 0)
      (Always RelayDiscipline) := by
  have hset : ∀ {p : Pin} {n : ℕ}, p ≠ relay → Prog.Triple env (RelayHeld .low n)
      (gpioPinSet p .low) (fun _ => RelayHeld .low n) (Always RelayDiscipline) := fun hp =>
    held_lasts (gpioPinSet_lasts hp .low)
  -- the power cycle, or the next attempt
  have hend : ∀ n, startTime c + 1010 + (if c = 10 then 5000 else 0) ≤ n →
      Prog.Triple env (RelayHeld .high n) (if c > 20 then do
          gpioPinSet ⟨.gpiob, 3⟩ .low
          gpioPinSet ⟨.gpiob, 4⟩ .low
          gpioPinSet ⟨.gpiob, 7⟩ .low
          gpioPinSet ⟨.gpiob, 5⟩ .low
          kMsleep 8000
          gpioPinSet ⟨.gpiob, 3⟩ .high
          pure (.inl (0 + 1))
        else pure (.inl (c + 1)) : App (UInt8 ⊕ Unit))
        (fun r => r.elim (fun c' => RelayHeld .high (startTime c')) fun _ => RelayHeld .high 0)
        (Always RelayDiscipline) := by
    intro n hn
    by_cases hc : c > 20
    · rw [if_pos hc]
      have hcycle := startTime_cycle hc
      refine (held_switch (by decide) (by omega)).bind fun _ => ?_
      refine (hset (by decide)).bind fun _ => (hset (by decide)).bind fun _ => ?_
      refine (hset (by decide)).bind fun _ => held_bind (kMsleep_lasts 8000) fun _ => ?_
      refine (held_switch (by decide) (by simp [dwellTime])).bind fun _ => ?_
      exact Prog.Triple.pure fun _ hh => hh.mono (by decide)
    · rw [if_neg hc]
      have hsucc := startTime_succ hc
      exact Prog.Triple.pure fun _ hh => hh.mono (by omega)
  unfold opcStartPass
  refine (opcSendCommand_held 0x03).bind fun r1 => ?_
  refine held_bind (kMsleep_lasts 10) fun _ => ?_
  refine (opcSendCommand_held 0x00).bind fun r2 => ?_
  by_cases hready : r1 = 243 ∧ r2 = 3
  · rw [if_pos hready]
    exact Prog.Triple.pure fun _ hh => hh.mono (Nat.zero_le _)
  · rw [if_neg hready]
    refine held_bind (kMsleep_lasts 1000) fun _ => ?_
    by_cases hten : c = 10
    · rw [if_pos hten]
      exact held_bind (kMsleep_lasts 5000) fun _ => hend _ (by rw [if_pos hten])
    · rw [if_neg hten]
      exact hend _ (by rw [if_neg hten])

/-- `opc_start` switches the relay on, where it has been off for its time. -/
lemma opcStart_held (fuel : ℕ) :
    Prog.Triple env (RelayHeld .low (dwellTime .low)) (opcStart fuel)
      (fun _ => RelayHeld .high 5000) (Always RelayDiscipline) := by
  unfold opcStart
  refine held_bind countdown_lasts fun _ => ?_
  refine (held_switch (by decide) (Nat.le_add_right _ _)).bind fun _ => ?_
  refine held_bind countdown_lasts fun _ => ?_
  refine Prog.Triple.bind (Q := fun _ => RelayHeld .high 0) ?_ fun _ => ?_
  · refine (Prog.Triple.loop (I := fun c => RelayHeld .high (startTime c)) opcStartPass_held
      (fun _ _ hh => hh.1.1) fuel 0).mono (fun _ hh => hh.mono (by decide)) (fun _ _ hh => hh)
      fun _ hh => hh
  · exact (held_lasts (kMsleep_lasts 5000)).mono (fun _ hh => hh)
      (fun _ _ hh => hh.mono (by omega)) fun _ hh => hh

/-- A pass of the retry loop of `opc_stop` keeps the relay on. -/
lemma opcStopPass_held {n : ℕ} (c : UInt8) :
    Prog.Triple env (RelayHeld .high n) (opcStopPass c)
      (fun r => r.elim (fun _ => RelayHeld .high n) fun _ => RelayHeld .high n)
      (Always RelayDiscipline) := by
  have hend : ∀ m, n ≤ m → Prog.Triple env (RelayHeld .high m) (stopPassEnd c)
      (fun r => r.elim (fun _ => RelayHeld .high n) fun _ => RelayHeld .high n)
      (Always RelayDiscipline) := by
    intro m hm
    unfold stopPassEnd
    by_cases hc : c > 20
    · rw [if_pos hc]
      exact Prog.Triple.pure fun _ hh => hh.mono hm
    · rw [if_neg hc]
      exact Prog.Triple.pure fun _ hh => hh.mono hm
  unfold opcStopPass
  refine (opcSendCommand_held 0x03).bind fun r1 => held_bind (kMsleep_lasts 10) fun _ => ?_
  refine (opcSendCommand_held 0x01).bind fun r2 => ?_
  by_cases hready : r1 = 243 ∧ r2 = 3
  · rw [if_pos hready]
    exact Prog.Triple.pure fun _ hh => hh.mono (Nat.le_add_right n _)
  · rw [if_neg hready]
    refine held_bind (kMsleep_lasts 600) fun _ => ?_
    by_cases hten : c = 10
    · rw [if_pos hten]
      exact held_bind (kMsleep_lasts 5000) fun _ => hend _ (by omega)
    · rw [if_neg hten]
      exact hend _ (by omega)

/-- `opc_stop` switches the relay off, where it has been on for its time. -/
lemma opcStop_held {n : ℕ} (hn : dwellTime .high ≤ n) (fuel : ℕ) :
    Prog.Triple env (RelayHeld .high n) (opcStop fuel) (fun _ => RelayHeld .low 0)
      (Always RelayDiscipline) := by
  have hset : ∀ {p : Pin}, p ≠ relay → Prog.Triple env (RelayHeld .low 0)
      (gpioPinSet p .low) (fun _ => RelayHeld .low 0) (Always RelayDiscipline) := fun hp =>
    held_lasts (gpioPinSet_lasts hp .low)
  have hloop : ∀ m, Prog.Triple env (RelayHeld .high m) (Prog.loop opcStopPass fuel 0)
      (fun _ => RelayHeld .high m) (Always RelayDiscipline) := fun m =>
    Prog.Triple.loop (I := fun _ => RelayHeld .high m) opcStopPass_held
      (fun _ _ hh => hh.1.1) fuel 0
  unfold opcStop
  refine held_bind countdown_lasts fun _ => held_again.bind fun _ => ?_
  refine held_bind countdown_lasts fun _ => (hloop _).bind fun _ => ?_
  refine held_bind (kMsleep_lasts 2000) fun _ => ?_
  refine (held_switch (by decide) (by omega)).bind fun _ => ?_
  refine (hset (by decide)).bind fun _ => (hset (by decide)).bind fun _ => ?_
  exact (hset (by decide)).bind fun _ => hset (by decide)

/-! ## The particle thread -/

/-- What stays off the bus leaves the relay alone. -/
lemma Call.OffBus.offRelay (c : Call) (hc : c.OffBus) : c.OffRelay := ⟨hc.2.1, hc.1⟩

/-- `opc_release` leaves the relay alone. -/
lemma opcRelease_lasts : opcRelease.Lasts Call.slept Call.OffRelay 0 := by
  have hset : ∀ {p : Pin}, p ≠ relay → (gpioPinSet p .low).Within Call.OffRelay := fun hp =>
    perform_within ⟨by simp [Call.writes, hp], rfl⟩
  have hconf : ∀ {p : Pin} {flags : GpioFlags}, p ≠ relay →
      (gpioPinConfigure p flags).Within Call.OffRelay := fun {p flags} hp =>
    perform_within ⟨by cases flags <;> simp [Call.writes, hp], rfl⟩
  refine Prog.lasts_of_calls ?_
  unfold opcRelease
  refine .bind (perform_within ⟨rfl, rfl⟩) fun _ => ?_
  refine .bind (hconf (by decide)) fun _ => .bind (hconf (by decide)) fun _ => ?_
  refine .bind (hconf (by decide)) fun _ => .bind (hconf (by decide)) fun _ => ?_
  refine .bind (hset (by decide)) fun _ => .bind (hset (by decide)) fun _ => ?_
  exact hset (by decide)

/-- A measurement cycle switches the relay on and off again. -/
lemma opcCycle_held (fuel : ℕ) :
    Prog.Triple env (RelayHeld .low (dwellTime .low)) (opcCycle fuel 7) (fun _ => RelayHeld .low 0)
      (Always RelayDiscipline) := by
  have hinit : opcInit.Within Call.OffRelay := opcInit_calls.mono fun c hc => by
    rw [hc]
    exact ⟨rfl, rfl⟩
  have hseven : (7 : UInt8).toNat = 7 := rfl
  unfold opcCycle
  refine held_bind (Prog.lasts_of_calls hinit) fun _ => (opcStart_held fuel).bind fun _ => ?_
  refine (opcReadHistogram_held 7).bind fun data => ?_
  refine (opcStop_held (by rw [dwellTime_high, hseven]; omega) fuel).bind fun _ => ?_
  exact held_bind opcRelease_lasts fun _ => Prog.Triple.pure fun _ hh => hh

/-- A pass of the particle thread leaves the relay off for its time. -/
lemma countParticlesPass_held (fuel : ℕ) (a : Fin 3 → Flt) :
    Prog.Triple env (RelayHeld .low (dwellTime .low)) (countParticlesPass fuel a)
      (fun _ => RelayHeld .low (dwellTime .low)) (Always RelayDiscipline) := by
  have hambient : (ambientSensorsRead 1 a).Within Call.OffRelay :=
    (ambientSensorsRead_calls 1 a).mono fun c hc => Call.OffBus.offRelay c hc.offBus
  have hrecord : ∀ c : Call, c.ofRecord → c.OffRelay := fun c hc => by
    cases c <;> first | exact hc.elim | exact ⟨rfl, rfl⟩
  have hstorage : ∀ textData, (saveData textData "opc").Within Call.OffRelay := fun textData =>
    (saveData_calls textData "opc").mono fun c hc => Call.OffBus.offRelay c hc.offBus
  unfold countParticlesPass
  refine held_bind (gpioPinSet_lasts (by decide) .high) fun _ => ?_
  refine (opcCycle_held fuel).bind fun data => ?_
  refine held_bind (gpioPinSet_lasts (by decide) .low) fun _ => ?_
  refine held_bind (Prog.lasts_of_calls hambient) fun a => ?_
  refine held_bind (Prog.lasts_of_calls ((snprintfcb_calls _).mono hrecord))
    fun textData => ?_
  refine held_bind (Prog.lasts_of_calls ((strcpy_calls _ _).mono hrecord))
    fun _ => ?_
  refine held_bind (Prog.lasts_of_calls (hstorage textData)) fun _ => ?_
  refine held_bind (kMsleep_lasts 120000) fun _ => ?_
  exact Prog.Triple.pure fun _ hh => hh.mono (by rw [dwellTime_low]; omega)

/-- The particle thread keeps the discipline of the relay. -/
lemma countParticles_held (fuel passes : ℕ) :
    Prog.Triple env (RelayHeld .low (dwellTime .low)) (countParticles fuel passes)
      (fun _ => Always RelayDiscipline) (Always RelayDiscipline) :=
  (Prog.Triple.forRange (I := fun _ _ => RelayHeld .low (dwellTime .low)) passes
    (fun _ _ a => countParticlesPass_held fuel a) _).mono (fun _ hh => hh)
      (fun _ _ hh => hh.1.1) fun _ hh => hh

end Cycle

/-! ## The other threads -/

/-- The call leaves the counter alone: its power, its select line and its bus. -/
def Call.OffCounter (c : Call) : Prop :=
  c.writes relay = none ∧ c.writes chipSelect = none ∧ c.isTransfer = false

/-- The gas thread leaves the counter alone. -/
lemma Call.ofGasThread.offCounter (c : Call) (hc : c.ofGasThread) : c.OffCounter := by
  cases c with
  | gpioPinSet p v => rcases hc with h | h | h | h <;> exact h.elim
  | gpioPinConfigure p flags => rcases hc with h | h | h | h <;> exact h.elim
  | spiTransceive tx => rcases hc with h | h | h | h <;> exact h.elim
  | _ => exact ⟨rfl, rfl, rfl⟩

/-- The LEDs are other pins. -/
lemma led_offCounter {p : Pin} (hp : p = ledRed ∨ p = ledGreen) (v : Level) :
    (Call.gpioPinSet p v).OffCounter := by
  rcases hp with rfl | rfl <;> simp [Call.OffCounter, Call.writes, Call.isTransfer]

/-- The send loop leaves the counter alone. -/
lemma Call.ofSend.offCounter (c : Call) (hc : c.ofSend) : c.OffCounter := by
  cases c with
  | gpioPinSet p v => exact led_offCounter (Or.inr hc) v
  | gpioPinConfigure p flags => exact hc.elim
  | spiTransceive tx => exact hc.elim
  | _ => exact ⟨rfl, rfl, rfl⟩

/-- A pass of the join loop leaves the counter alone. -/
lemma joinPass_offCounter (ret : ℤ) : (joinPass ret).Within Call.OffCounter := by
  have hred : ∀ v, (gpioPinSet ledRed v).Within Call.OffCounter := fun v =>
    perform_within (led_offCounter (Or.inl rfl) v)
  have hgreen : (gpioPinSet ledGreen .high).Within Call.OffCounter :=
    perform_within (led_offCounter (Or.inr rfl) .high)
  have hsleep : (kMsleep 1000).Within Call.OffCounter := perform_within ⟨rfl, rfl, rfl⟩
  unfold joinPass
  refine .bind (perform_within ⟨rfl, rfl, rfl⟩) fun ret => .ite ?_ ?_
  · exact .bind (hred _) fun _ => .bind hsleep fun _ => .bind (hred _) fun _ =>
      .bind hsleep fun _ => Prog.calls_pure _
  · exact .bind (perform_within ⟨rfl, rfl, rfl⟩) fun ret => .bind hgreen fun _ =>
      .ite (Prog.calls_pure _) (Prog.calls_pure _)

/-- The sender leaves the counter alone. -/
lemma sendData_offCounter (joins passes : ℕ) :
    (sendData joins passes).Within Call.OffCounter := by
  unfold sendData
  refine .bind (perform_within ⟨rfl, rfl, rfl⟩) fun found => .ite ?_ (Prog.calls_pure _)
  refine .bind (perform_within ⟨rfl, rfl, rfl⟩) fun ret => .ite ?_ (Prog.calls_pure _)
  refine .bind (Prog.Within.loop joinPass_offCounter joins (-1)) fun _ => ?_
  exact (sendLoop_calls passes).mono Call.ofSend.offCounter

/-- What each thread does with the counter. -/
def CounterDiscipline : ThreadId → BoardEvent → History → Prop
  | .gas => fun e _ => e.call.OffCounter
  | .particle => RelayDiscipline
  | .sender => fun e _ => e.call.OffCounter

/-- Every thread on its own keeps its discipline. -/
lemma application_counterDiscipline (fuel joins : ℕ) (passes : ThreadId → ℕ) (i : ThreadId)
    (env : Env Call Resp) :
    Always (CounterDiscipline i) ((application fuel joins passes i).run env []).2 := by
  have hoff : ∀ {p : App Unit}, p.Within Call.OffCounter → Prog.Triple env
      (Always fun e _ => e.call.OffCounter) p (fun _ => Always fun e _ => e.call.OffCounter)
      (Always fun e _ => e.call.OffCounter) := fun hp =>
    Prog.Triple.of_calls (fun _ _ he hh => ⟨he, hh⟩) (fun _ _ hh => hh) hp
  apply Prog.wp.final
  cases i with
  | gas =>
    exact hoff (.bind ((readGas_calls (passes .gas)).mono Call.ofGasThread.offCounter)
      fun _ => Prog.calls_pure _) [] trivial
  | particle =>
    have hparticle : Prog.Triple env (RelayHeld .low (dwellTime .low))
        (countParticles fuel (passes .particle)) (fun _ => Always RelayDiscipline)
        (Always RelayDiscipline) := countParticles_held fuel (passes .particle)
    exact (hparticle.bind fun _ => Prog.Triple.pure (a := ()) fun _ hh => hh) []
      ⟨⟨trivial, rfl⟩, longSince_nil _⟩
  | sender => exact hoff (sendData_offCounter joins (passes .sender)) [] trivial

/-- The other threads leave the counter alone. -/
lemma offCounter_of_mem {H : AppHistory}
    (hown : Always (fun e past => CounterDiscipline e.1 e.2 (own e.1 past)) H)
    {e : ThreadId × BoardEvent} (he : e ∈ H) (hne : e.1 ≠ .particle) : e.2.call.OffCounter := by
  obtain ⟨later, past, rfl⟩ := List.append_of_mem he
  have hnow := hown.of_append.1
  obtain ⟨i, e⟩ := e
  cases i with
  | gas => exact hnow
  | particle => exact absurd rfl hne
  | sender => exact hnow

/-- A pin that the other threads leave alone has the level that the particle thread gave it. -/
lemma level_own {p : Pin} {H : AppHistory}
    (hothers : ∀ e ∈ H, e.1 ≠ .particle → e.2.call.writes p = none) :
    level p (H.map Prod.snd) = level p (own .particle H) := by
  induction H with
  | nil => rfl
  | cons e H ih =>
    obtain ⟨i, e⟩ := e
    have hrest := ih fun e' he' => hothers e' (List.mem_cons_of_mem _ he')
    rw [List.map_cons, level_cons, hrest]
    by_cases hi : i = .particle
    · subst hi
      rw [own_cons_self, level_cons]
    · rw [own_cons_of_ne hi, hothers _ List.mem_cons_self hi]
      rfl

/-- A transfer over SPI goes to the counter, with power and select. -/
def Addressed (e : ThreadId × BoardEvent) (past : AppHistory) : Prop :=
  e.2.call.isTransfer = true → e.1 = .particle ∧
    level relay (past.map Prod.snd) = .high ∧ level chipSelect (past.map Prod.snd) = .low

/-- Where each thread keeps its discipline, all transfers go to the counter. -/
lemma always_addressed {H : AppHistory}
    (hown : Always (fun e past => CounterDiscipline e.1 e.2 (own e.1 past)) H) :
    Always Addressed H := by
  rw [always_iff]
  rintro later ⟨i, e⟩ past rfl htransfer
  have hpast := hown.of_append.2
  obtain rfl : i = .particle := by
    by_contra hne
    have hoff := offCounter_of_mem hown (e := (i, e)) (by simp) hne
    rw [hoff.2.2] at htransfer
    cases htransfer
  have haddressed : RelayDiscipline e (own .particle past) := hown.of_append.1
  rw [level_own fun e' he' hne => (offCounter_of_mem hpast he' hne).1,
    level_own fun e' he' hne => (offCounter_of_mem hpast he' hne).2.1]
  exact ⟨rfl, haddressed.addressed htransfer⟩

section Run

variable (env : AppEnv) (fuel joins : ℕ) (passes : ThreadId → ℕ) (schedule : List ThreadId)

/-- Each thread keeps its discipline in every run. -/
lemma appHistory_counterDiscipline :
    Always (fun e past => CounterDiscipline e.1 e.2 (own e.1 past))
      (appHistory env fuel joins passes schedule) :=
  System.always_own (application_counterDiscipline fuel joins passes) schedule

/-- **The relay holds each of its levels.** In every run of the application, whatever the counter
answers and whatever fails, the particle thread switches the relay off only after it has slept
26.21 s since switching it on, and on only after it has slept 8 s since switching it off. No other
thread writes to the relay. -/
theorem relay_dwell :
    Always (fun e past => relayChanges e past = true →
        LongSince Call.slept relayChanges (dwellTime (level relay past)) past)
      (own .particle (appHistory env fuel joins passes schedule)) ∧
    ∀ e ∈ appHistory env fuel joins passes schedule, e.1 ≠ .particle →
      e.2.call.writes relay = none := by
  have hown : Always RelayDiscipline (own .particle (appHistory env fuel joins passes schedule)) :=
    System.own_always (application_counterDiscipline fuel joins passes .particle) schedule
  have hall := appHistory_counterDiscipline env fuel joins passes schedule
  exact ⟨hown.imp fun _ _ hd => hd.dwell, fun e he hne => (offCounter_of_mem hall he hne).1⟩

/-- **The counter is spoken to only with power and select.** In every interleaving of the threads,
whatever fails, every transfer over SPI is one of the particle thread, and takes place with the
relay on and the select line low, whoever wrote to the pins last. -/
theorem transfers_addressed : Always Addressed (appHistory env fuel joins passes schedule) :=
  always_addressed (appHistory_counterDiscipline env fuel joins passes schedule)

end Run

end AirLab
