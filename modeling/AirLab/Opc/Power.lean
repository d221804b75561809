import AirLab.Opc.PowerPhases

set_option relaxedAutoImplicit false
set_option autoImplicit false

/-!
# Two properties of the power supply

With the relay off the select line of the sensor should be low while the thread sleeps, and
after every switching on of the relay the sensor should have its settling time before the first
command. Both hold along the phases of a measurement cycle. Both fail in the power cycle in the
retry loop of `opc_start`, which lowers pins of port B instead of the bus lines on port A and
switches the relay on again right before the next command.

## Main definitions

* `AirLab.Undriven` — a sleep with the relay off finds chip select low.
* `AirLab.Settled` — a transfer comes 3000 ms of sleep after the relay was switched on.

## Main results

* `AirLab.undriven_iff_inTime` — the first property holds of exactly the runs without a power
  cycle.
* `AirLab.settled_iff_inTime` — so does the second.
-/

namespace AirLab

open CLang Effects

variable {w : World}

/-! ## The unpowered sensor is not driven -/

/-- A sleep of the thread with the relay off finds chip select low. -/
def Undriven (e : BoardEvent) (past : History) : Prop :=
  e.call.isSleep → level relay past = .low → level chipSelect past = .low

/-- What holds in the phases of a cycle that drives no unpowered sensor. -/
lemma undriven_phases : PowerPhases
    (fun h => Always Undriven h ∧ level relay h = .high)
    (fun h => Always Undriven h ∧ level relay h = .low)
    (fun h => Always Undriven h ∧ level relay h = .low ∧ level chipSelect h = .low) where
  switchOn := by
    intro h hh
    obtain ⟨hall, hrelay, hcs⟩ := hh
    simp [Undriven, Call.isSleep, Call.writes, hall, hrelay, hcs]
  onEvent := by
    intro e h he hh
    obtain ⟨hall, hrelay⟩ := hh
    refine ⟨⟨fun _ hlow => ?_, hall⟩, level_relay_of_leavesPower he hrelay⟩
    rw [hrelay] at hlow
    cases hlow
  switchOff := by
    intro h hh
    obtain ⟨hall, hrelay⟩ := hh
    simp [Undriven, Call.isSleep, Call.writes, hall]
  downEvent := by
    rintro e h ⟨-, hpower, -⟩ hawake ⟨hall, hrelay⟩
    refine ⟨⟨fun hsleep => ?_, hall⟩, ?_⟩
    · rw [hawake] at hsleep
      cases hsleep
    · rw [level_cons, hpower]
      exact hrelay
  release := by
    intro h hh
    obtain ⟨hall, hrelay⟩ := hh
    simp [Undriven, Call.isSleep, Call.writes, hall, hrelay]
  offEvent := by
    rintro e h ⟨-, hpower, hselect⟩ ⟨hall, hrelay, hcs⟩
    refine ⟨⟨fun _ _ => hcs, hall⟩, ?_, ?_⟩
    · rw [level_cons, hpower]
      exact hrelay
    · rw [level_cons, hcs]
      rcases hw : e.call.writes chipSelect with _ | _ | _
      · rfl
      · rfl
      · exact absurd hw hselect

/-- The configuration of `main` drives nothing. -/
lemma undriven_main : Always Undriven mainHistory ∧ level relay mainHistory = .low ∧
    level chipSelect mainHistory = .low := by
  simp [mainHistory, Undriven, Call.isSleep, Call.writes]

/-- A run whose handshakes come in time drives no unpowered sensor. -/
lemma undriven_of_inTime {fuel passes : ℕ} (hin : InTime w fuel passes) :
    Always Undriven (particleHistory w fuel passes) :=
  undriven_phases.history_of_inTime undriven_main (fun _ h => h.1) (fun _ h => h.1) hin

/-- The power cycle sleeps with the select line as the last attempt left it, high. -/
lemma powerCycle_drives (h₀ : History) :
    ¬ Always Undriven (powerCycle ++ (startWaits 21 ++ attempt w 0x00 h₀)) := by
  have hcs : level chipSelect (startWaits 21 ++ attempt w 0x00 h₀) = .high := by
    simp [startWaits, attempt, commandEvents, Call.writes]
  simp [powerCycle, Undriven, Call.isSleep, Call.writes, hcs]

/-- A run that drives no unpowered sensor has its handshakes in time. -/
lemma inTime_of_undriven (fuel passes : ℕ)
    (hall : Always Undriven (particleHistory w (22 + fuel) passes)) :
    InTime w (22 + fuel) passes := by
  refine undriven_phases.inTime_of_history undriven_main (T := fun h => ¬ Always Undriven h)
    not_always_cons (fun h₀ => ?_) (not_not.2 hall)
  refine (Prog.Triple.of_stable not_always_cons _).mono ?_ (fun _ _ h => h) fun _ h => h
  rintro _ rfl
  exact powerCycle_drives h₀

/-- **Sleeping with an undriven sensor.** A run in which no `opc_start` makes 22 failed attempts
in a row sleeps with the relay off only when chip select is low. As soon as an `opc_start` gets
that far, the power cycle sleeps 8 s with chip select high. -/
theorem undriven_iff_inTime (w : World) :
    (∀ fuel passes, InTime w fuel passes → Always Undriven (particleHistory w fuel passes)) ∧
      ∀ fuel passes, Always Undriven (particleHistory w (22 + fuel) passes) →
        InTime w (22 + fuel) passes :=
  ⟨fun _ _ => undriven_of_inTime, inTime_of_undriven⟩

/-- A sensor that answers every attempt with 243 and 3. -/
def promptSensor : World :=
  ⟨fun n => some (if n % 2 = 0 then 243 else 3), fun _ => 0, fun _ => plainAnswer⟩

/-- Its first handshake comes in time. -/
lemma promptSensor_inTime (fuel : ℕ) : InTime promptSensor fuel 1 := by
  intro k hk
  obtain rfl : k = 0 := by omega
  have hzero : transfers (particleHistory promptSensor fuel 0) = 0 := by
    unfold particleHistory
    rw [particleRun_zero]
    rfl
  rw [hzero]
  decide

/-- A cycle with a prompt sensor drives no unpowered sensor. -/
theorem promptSensor_undriven : Always Undriven (particleHistory promptSensor 30 1) :=
  (undriven_iff_inTime promptSensor).1 30 1 (promptSensor_inTime 30)

/-- A sensor that answers every command with zero. -/
def muteSensor : World := ⟨fun _ => some 0, fun _ => 0, fun _ => plainAnswer⟩

/-- No handshake of that sensor succeeds. -/
lemma muteSensor_late (base n : ℕ) : ¬ HandshakeWithin muteSensor base n := by
  intro hh
  obtain ⟨j, -, hr, -⟩ := hh
  exact absurd hr (by simp [World.reply, muteSensor])

/-- With a sensor that answers zeros the first `opc_start` sleeps with a driven sensor. -/
theorem muteSensor_driven : ¬ Always Undriven (particleHistory muteSensor 30 1) := by
  intro hall
  have hfuel : 30 = 22 + 8 := rfl
  rw [hfuel] at hall
  exact muteSensor_late _ _ (inTime_of_undriven 8 1 hall 0 (by decide))

/-! ## The settling time -/

/-- Since the relay was switched on, if no transfer has been made since, the thread has slept
for `ms` milliseconds. -/
def SleptSinceOn (ms : ℕ) (h : History) : Prop :=
  ∀ mid rise before, h = mid ++ rise :: before → Rises relay rise before →
    (∀ e ∈ mid, e.call.isTransfer = false) → ms ≤ sleepTotal mid

/-- A transfer comes 3000 ms of sleep after the relay was switched on. -/
def Settled (e : BoardEvent) (past : History) : Prop :=
  e.call.isTransfer → SleptSinceOn 3000 past

/-- Any time is at least no time. -/
lemma sleptSinceOn_zero (h : History) : SleptSinceOn 0 h := fun _ _ _ _ _ _ => Nat.zero_le _

/-- An event with the relay on does not switch it on. -/
lemma SleptSinceOn.cons {ms : ℕ} {h : History} (hslept : SleptSinceOn ms h)
    (hrelay : level relay h = .high) (e : BoardEvent) :
    SleptSinceOn (ms + e.call.slept) (e :: h) := by
  intro mid rise before heq hrise hquiet
  rcases List.cons_eq_append_iff.1 heq with ⟨-, hhead⟩ | ⟨mid', rfl, htail⟩
  · obtain ⟨rfl, rfl⟩ := List.cons.inj hhead
    have := hrise.1
    rw [hrelay] at this
    cases this
  · have := hslept mid' rise before htail hrise fun e' he' => hquiet e' (by simp [he'])
    rw [sleepTotal_cons]
    omega

/-- A longer time is also a shorter one. -/
lemma SleptSinceOn.mono {ms ms' : ℕ} {h : History} (hslept : SleptSinceOn ms h) (hle : ms' ≤ ms) :
    SleptSinceOn ms' h := fun mid rise before heq hrise hquiet =>
  hle.trans (hslept mid rise before heq hrise hquiet)

/-- What holds in the phases of a cycle that lets the sensor settle. -/
lemma settled_phases : PowerPhases
    (fun h => Always Settled h ∧ level relay h = .high ∧ SleptSinceOn 3000 h)
    (fun h => Always Settled h ∧ level relay h = .low)
    (fun h => Always Settled h ∧ level relay h = .low) where
  switchOn := by
    intro h hh
    obtain ⟨hall, hrelay⟩ := hh
    refine ⟨by simp [Settled, Call.isTransfer, hall], by simp [Call.writes], ?_⟩
    have hon : level relay (⟨.gpioPinSet ⟨.gpiob, 3⟩ .high, ()⟩ :: h) = .high := by
      simp [Call.writes]
    refine ((((sleptSinceOn_zero _).cons hon ⟨.kMsleep 1000, ()⟩).cons ?_
      ⟨.kMsleep 1000, ()⟩).cons ?_ ⟨.kMsleep 1000, ()⟩).mono (by simp [Call.slept]) <;>
      simp [Call.writes]
  onEvent := by
    intro e h he hh
    obtain ⟨hall, hrelay, hslept⟩ := hh
    exact ⟨⟨fun _ => hslept, hall⟩, level_relay_of_leavesPower he hrelay,
      (hslept.cons hrelay e).mono (by omega)⟩
  switchOff := by
    intro h hh
    obtain ⟨hall, hrelay, -⟩ := hh
    simp [Settled, Call.isTransfer, Call.writes, hall]
  downEvent := by
    rintro e h ⟨hbus, hpower, -⟩ - ⟨hall, hrelay⟩
    simp [Settled, hbus, hpower, hall, hrelay]
  release := by
    intro h hh
    obtain ⟨hall, hrelay⟩ := hh
    simp [Settled, Call.isTransfer, Call.writes, hall, hrelay]
  offEvent := by
    rintro e h ⟨hbus, hpower, -⟩ ⟨hall, hrelay⟩
    simp [Settled, hbus, hpower, hall, hrelay]

/-- The configuration of `main` makes no transfer. -/
lemma settled_main : Always Settled mainHistory ∧ level relay mainHistory = .low := by
  simp [mainHistory, Settled, Call.isTransfer, Call.writes]

/-- A run whose handshakes come in time lets the sensor settle. -/
lemma settled_of_inTime {fuel passes : ℕ} (hin : InTime w fuel passes) :
    Always Settled (particleHistory w fuel passes) :=
  settled_phases.history_of_inTime settled_main (fun _ h => h.1) (fun _ h => h.1) hin

/-- The first command after the power cycle makes its transfer without a sleep. -/
lemma powerCycle_unsettled (h : History) : ¬ Always Settled (attempt w 0x00 (powerCycle ++ h)) := by
  intro hall
  have hcommand : Always Settled (commandEvents w 0x03 (powerCycle ++ h) ++ (powerCycle ++ h)) :=
    (Always.of_append hall).2
  have hslept : SleptSinceOn 3000 _ := hcommand.2.2.1 rfl
  have := hslept [⟨.kUsleep 4, ()⟩, ⟨.gpioPinSet ⟨.gpioa, 4⟩ .low, ()⟩,
    ⟨.uninit .rxBuf, w.rxBuf (transfers (powerCycle ++ h))⟩] _ _ rfl
    (by simp [Rises, Call.writes]) (by simp [Call.isTransfer])
  simp [Call.slept] at this

/-- A run that lets the sensor settle has its handshakes in time. -/
lemma inTime_of_settled (fuel passes : ℕ)
    (hall : Always Settled (particleHistory w (22 + (fuel + 1)) passes)) :
    InTime w (22 + (fuel + 1)) passes := by
  refine settled_phases.inTime_of_history settled_main (T := fun h => ¬ Always Settled h)
    not_always_cons (fun h₀ => ?_) (not_not.2 hall)
  rw [Prog.loop]
  refine Prog.Triple.bind (Q := fun _ h => ¬ Always Settled h) ?_
    fun _ => Prog.Triple.of_stable not_always_cons _
  rintro _ rfl
  have hrun := opcStartPass_run (w := w) 1 (powerCycle ++ (startWaits 21 ++ attempt w 0x00 h₀))
  have hbad := powerCycle_unsettled (w := w) (startWaits 21 ++ attempt w 0x00 h₀)
  split_ifs at hrun with hack h20
  · exact (Prog.wp_of_run hrun).2 hbad
  · exact absurd h20 (by decide)
  · exact (Prog.wp_of_run hrun).2 (of_suffix not_always_cons (List.suffix_append _ _) hbad)

/-- **The settling time.** A run in which no `opc_start` makes 22 failed attempts in a row makes
no transfer sooner than 3000 ms of sleep after the relay was switched on. As soon as an
`opc_start` gets that far, the attempt that follows the power cycle makes its first transfer
without any sleep. -/
theorem settled_iff_inTime (w : World) :
    (∀ fuel passes, InTime w fuel passes → Always Settled (particleHistory w fuel passes)) ∧
      ∀ fuel passes, Always Settled (particleHistory w (23 + fuel) passes) →
        InTime w (23 + fuel) passes := by
  refine ⟨fun _ _ => settled_of_inTime, fun fuel passes => ?_⟩
  rw [show 23 + fuel = 22 + (fuel + 1) by omega]
  exact inTime_of_settled fuel passes

/-- A cycle with a prompt sensor lets it settle. -/
theorem promptSensor_settled : Always Settled (particleHistory promptSensor 30 1) :=
  (settled_iff_inTime promptSensor).1 30 1 (promptSensor_inTime 30)

/-- With a sensor that answers zeros the first `opc_start` makes a transfer too early. -/
theorem muteSensor_unsettled : ¬ Always Settled (particleHistory muteSensor 30 1) := by
  intro hall
  have hfuel : 30 = 22 + (7 + 1) := rfl
  rw [hfuel] at hall
  exact muteSensor_late _ _ (inTime_of_settled 7 1 hall 0 (by decide))

end AirLab
