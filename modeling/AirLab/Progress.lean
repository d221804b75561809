import AirLab.Effects.Meter
import AirLab.Join
import AirLab.Pacing

set_option relaxedAutoImplicit false
set_option autoImplicit false

/-!
# No time is lost

The threads sleep a lot: between two samples, between two results, after a failure and between two
attempts to reach a device. All that time is accounted for: a thread sleeps a fixed time for each
of its results, and what it sleeps more than that, it sleeps after attempts that failed.

## Main definitions

* `AirLab.resultCall`, `AirLab.resultTime` — a result of a thread, and the time for it.
* `AirLab.attemptCall`, `AirLab.attemptTime` — an attempt, and the time for it.
* `AirLab.stretch` — a part of a history.

## Main results

* `AirLab.application_metered` — every thread keeps its account below the time for a result.
* `AirLab.no_time_lost` — in any stretch of any run, the time slept is accounted for.
-/

namespace AirLab

open CLang Effects

/-- The result of a thread: a record, or a payload handed over. -/
def resultCall : ThreadId → Call → Bool
  | .gas, c => c.isFormat
  | .particle, c => c.isFormat
  | .sender, c => c.isSubmit

/-- An attempt of a thread: a handshake with the counter, or an attempt to join. The gas thread
tries nothing again. -/
def attemptCall : ThreadId → Call → Bool
  | .gas, _ => false
  | .particle, .spiTransceive tx => tx = 0x03
  | .particle, _ => false
  | .sender, c => c.isJoin

/-- The time a thread sleeps at most for a result, in milliseconds. The gas thread sleeps after a
failed write, in its pause and for the samples of both sensors, the particle thread also in the
four countdowns and while the counter starts and stops, the sender after a transmission that has
to be made again. -/
def resultTime : ThreadId → ℕ
  | .gas => 500 + 30000 + 5 * 1330 + 40
  | .particle => 500 + 120000 + 2 * 3000 + 5000 + 7 * 5012 + 2 * 3000 + 2000 + 40
  | .sender => 2000 + 2000 + 10000

/-- The time a thread sleeps at most for an attempt, in milliseconds: in the particle thread the
longest pause is that of the power cycle. -/
def attemptTime : ThreadId → ℕ
  | .gas => 0
  | .particle => 10 + 1000 + 8000
  | .sender => 1000 + 1000

/-- What a call accounts for as an attempt. -/
def attemptCredit (i : ThreadId) (c : Call) : ℕ := if attemptCall i c then attemptTime i else 0

/-- The time of a thread that its results and its attempts do not account for. -/
def timeMeter (i : ThreadId) : Meter Call :=
  Meter.account Call.slept (attemptCredit i) (resultCall i)

/-- The attempts of a history account for their number times their time. -/
lemma totalTime_attemptCredit (i : ThreadId) (h : History) :
    totalTime (attemptCredit i) h =
      attemptTime i * occurrences (fun e => attemptCall i e.call) h := by
  induction h with
  | nil => rfl
  | cons e past ih =>
    rw [totalTime_cons, occurrences_cons, ih, Nat.mul_add, Nat.add_comm]
    unfold attemptCredit
    split_ifs <;> simp

variable {i : ThreadId} {N n : ℕ}

/-! ## Calls -/

/-- A call that is no sleep takes no time. -/
lemma free_takes {c : Call} (hc : c.slept = 0) :
    (Prog.perform c : App (Resp c)).Takes (timeMeter i) N 0 :=
  Prog.takes_perform fun n => hc ▸ Meter.account_le c n

/-- A sequence that starts with one. -/
lemma free_bind {α : Type} {c : Call} {f : Resp c → App α} {k : ℕ} (hc : c.slept = 0)
    (hf : ∀ r, (f r).Takes (timeMeter i) N k) :
    (Prog.perform c >>= f).Takes (timeMeter i) N k :=
  ((free_takes hc).bind hf).mono (by omega)

/-- A sleep takes its time. -/
lemma kMsleep_takes (ms : ℕ) : (kMsleep ms).Takes (timeMeter i) N ms :=
  Prog.takes_perform (Meter.account_le (Call.kMsleep ms))

/-- A call that is no sleep, as it stands. -/
lemma free_metered {c : Call} (hc : c.slept = 0) (hn : n ≤ N) :
    (Prog.perform c : App (Resp c)).Metered (timeMeter i) N n n :=
  (free_takes hc).metered hn le_rfl

/-- A result leaves nothing on the account. -/
lemma result_metered {c : Call} (hc : resultCall i c = true) (hfree : c.slept = 0) :
    (Prog.perform c : App (Resp c)).Metered (timeMeter i) N n 0 := by
  have htick : (timeMeter i).tick c n = 0 := (Meter.account_of_result hc n).trans hfree
  exact Prog.metered_perform (by omega) (Nat.le_of_eq htick)

/-- An attempt accounts for its time in advance. -/
lemma attempt_metered {c : Call} (hc : attemptCall i c = true) (hno : resultCall i c = false)
    (hfree : c.slept = 0) (hn : n ≤ N) :
    (Prog.perform c : App (Resp c)).Metered (timeMeter i) N n (n - attemptTime i) := by
  have hcredit : attemptCredit i c = attemptTime i := if_pos hc
  have htick : (timeMeter i).tick c n = n - attemptTime i := by
    unfold timeMeter
    rw [Meter.account_of_not hno, hfree, hcredit, Nat.add_zero]
  exact Prog.metered_perform (by omega) (Nat.le_of_eq htick)

/-! ## The sensors and the card -/

/-- A pass of a channel loop of the gas sensors. -/
lemma channelPass_takes (addr : UInt8) (off k : ℕ) (l : GasLocals) :
    (channelPass addr off k l).Takes (timeMeter i) N 40 := by
  unfold channelPass
  refine free_bind rfl fun _ => ?_
  refine (kMsleep_takes 10).bind (j := 30) fun _ => ?_
  refine free_bind rfl fun _ => ?_
  refine (kMsleep_takes 10).bind (j := 20) fun _ => ?_
  refine free_bind rfl fun received => ?_
  exact (kMsleep_takes 20).returning

/-- Reading the gas sensors takes 1.33 s for each sample, whatever fails. -/
lemma gasSensorsRead_takes (result : Fin 8 → UInt16) (samples : ℕ) :
    (gasSensorsRead result samples).Takes (timeMeter i) N (samples * 1330) := by
  have hfour : ∀ addr off l, (Prog.forRange (channelPass addr off) 4 l).Takes (timeMeter i) N
      160 := fun addr off l =>
    (Prog.Takes.forRange (channelPass_takes addr off) 4 l).mono (by decide)
  have hsample : ∀ s l, (gasSamplePass s l).Takes (timeMeter i) N 1330 := by
    intro s l
    unfold gasSamplePass
    refine (hfour 0x48 0 l).bind (j := 1170) fun l => ?_
    refine (kMsleep_takes 10).bind (j := 1160) fun _ => ?_
    refine (hfour 0x49 4 l).bind (j := 1000) fun l => ?_
    exact (kMsleep_takes 1000).returning
  have hloop : ∀ l, (gasSampleLoop samples l).Takes (timeMeter i) N (samples * 1330) :=
    Prog.Takes.forRange hsample samples
  unfold gasSensorsRead
  refine free_bind rfl fun readbuf => ?_
  exact (hloop _).returning

/-- The channel reads of the ambient sensor take no time. -/
lemma channelGets_takes : channelGets.Takes (timeMeter i) N 0 := by
  unfold channelGets
  refine free_bind rfl fun press => ?_
  cases press with
  | none => exact Prog.takes_pure _
  | some press =>
    refine free_bind rfl fun temp => ?_
    cases temp with
    | none => exact Prog.takes_pure _
    | some temp =>
      refine free_bind rfl fun hum => ?_
      cases hum <;> exact Prog.takes_pure _

/-- Reading the ambient sensor once takes 40 ms. -/
lemma ambientSensorsRead_takes (a : Fin 3 → Flt) :
    (ambientSensorsRead 1 a).Takes (timeMeter i) N 40 := by
  have hsample : ambientSample.Takes (timeMeter i) N 40 := by
    unfold ambientSample sensorSampleFetch
    refine (kMsleep_takes 20).bind (j := 20) fun _ => ?_
    refine Prog.Takes.bind (k := 0) (j := 20) ?_ fun fetched => ?_
    · exact free_bind (c := .sensorSampleFetch) rfl fun s => Prog.takes_pure _
    exact (kMsleep_takes 20).bind (j := 0) fun _ => .ite channelGets_takes (Prog.takes_pure _)
  have hpass : ∀ k sum, (ambientPass k sum).Takes (timeMeter i) N 40 := fun k sum =>
    hsample.returning
  have hone : ∀ sum, (Prog.forUntil ambientPass (1 : UInt8).toNat sum).Takes (timeMeter i) N
      40 := fun sum => hpass 0 sum
  unfold ambientSensorsRead
  refine free_bind rfl fun sum => ?_
  refine (hone sum).bind (j := 0) fun r => ?_
  cases r <;> exact Prog.takes_pure _

/-- Saving a record takes half a second if the write fails. -/
lemma saveData_takes (data : CStr 200) (type : String) :
    (saveData data type).Takes (timeMeter i) N 500 := by
  unfold saveData
  refine free_bind rfl fun _ => free_bind rfl fun rc => ?_
  refine .ite ?_ ((free_takes rfl).mono (Nat.zero_le 500))
  exact (kMsleep_takes 500).bind (j := 0) fun _ => free_takes rfl

/-! ## The gas thread -/

/-- A pass of the gas thread. -/
lemma readGasPass_metered (l : (Fin 8 → UInt16) × (Fin 3 → Flt)) :
    (readGasPass l).Metered (timeMeter .gas) (resultTime .gas) 30500 30500 := by
  unfold readGasPass
  refine ((gasSensorsRead_takes l.1 5).metered (m := 37150) (by decide) (by decide)).bind
    fun gs => ?_
  refine ((ambientSensorsRead_takes l.2).metered (m := 37190) (by decide) (by decide)).bind
    fun ambSensors => ?_
  refine Prog.Metered.bind (k := 0) ((result_metered rfl rfl).bind fun _ => by simp)
    fun textData => ?_
  refine ((saveData_takes textData "gas").metered (m := 500) (by decide) (by decide)).bind
    fun _ => ?_
  refine (free_metered rfl (by decide)).bind fun _ => ?_
  exact ((kMsleep_takes 30000).metered (m := 30500) (by decide) (by decide)).bind
    fun _ => by simp

/-! ## The particle thread -/

/-- A command takes no time. -/
lemma opcSendCommand_takes (cmd : UInt8) : (opcSendCommand cmd).Takes (timeMeter i) N 0 := by
  unfold opcSendCommand
  refine free_bind rfl fun rxBuf => free_bind rfl fun _ => ?_
  refine free_bind rfl fun _ => free_bind rfl fun received => ?_
  refine free_bind rfl fun _ => free_bind rfl fun _ => ?_
  exact Prog.takes_pure _

/-- The first command of a handshake accounts for the attempt. -/
lemma handshake_metered (hn : n ≤ N) :
    (opcSendCommand 0x03).Metered (timeMeter .particle) N n (n - 9010) := by
  unfold opcSendCommand
  refine (free_metered rfl hn).bind fun rxBuf => (free_metered rfl hn).bind fun _ => ?_
  refine (free_metered rfl hn).bind fun _ => (attempt_metered rfl rfl rfl hn).bind
    fun received => ?_
  refine (free_metered rfl (Nat.le_trans (Nat.sub_le n _) hn)).bind fun _ => ?_
  refine (free_metered rfl (Nat.le_trans (Nat.sub_le n _) hn)).bind fun _ => ?_
  exact (Prog.metered_pure _).2 le_rfl

/-- The countdown takes three seconds. -/
lemma countdown_takes : countdown.Takes (timeMeter i) N 3000 :=
  Prog.Takes.forRange (fun _ _ => kMsleep_takes 1000) 3 ()

/-- The end of a pass of `opc_start` takes eight seconds at most, those of a power cycle. -/
lemma startPassEnd_takes (c : UInt8) : (startPassEnd c).Takes (timeMeter i) N 8000 := by
  unfold startPassEnd
  refine .ite ?_ ((Prog.takes_pure _).mono (Nat.zero_le _))
  refine free_bind rfl fun _ => free_bind rfl fun _ => ?_
  refine free_bind rfl fun _ => free_bind rfl fun _ => ?_
  refine (kMsleep_takes 8000).bind (j := 0) fun _ => free_bind rfl fun _ => ?_
  exact Prog.takes_pure _

/-- A pass of the retry loop of `opc_start` is accounted for by its attempt: the longer pause
comes at the counter 10 and the power cycle only after 20. -/
lemma opcStartPass_metered (c : UInt8) (hn : n ≤ N) (hattempt : 9010 ≤ n) :
    (opcStartPass c).Metered (timeMeter .particle) N n n := by
  unfold opcStartPass
  refine (handshake_metered hn).bind fun r1 => ?_
  refine ((kMsleep_takes 10).metered (m := n - 9000) (by omega) (by omega)).bind fun _ => ?_
  refine ((opcSendCommand_takes 0x00).metered (m := n - 9000) (by omega) (by omega)).bind
    fun r2 => .ite (by simp) ?_
  refine ((kMsleep_takes 1000).metered (m := n - 8000) (by omega) (by omega)).bind fun _ => ?_
  by_cases hc : c = 10
  · -- the counter 10 is not above 20
    simp only [hc, if_true]
    exact ((kMsleep_takes 5000).metered (m := n) (by omega) (by omega)).bind fun _ => by simp
  · simp only [hc, if_false]
    exact (startPassEnd_takes c).metered (by omega) (by omega)

/-- `opc_start` takes its countdowns and the pause at its end. -/
lemma opcStart_metered (fuel : ℕ) (hn : 9010 ≤ n) (hN : n + 11000 ≤ N) :
    (opcStart fuel).Metered (timeMeter .particle) N n (n + 11000) := by
  unfold opcStart
  refine (countdown_takes.metered (m := n + 3000) (by omega) le_rfl).bind fun _ => ?_
  refine (free_metered rfl (by omega)).bind fun _ => ?_
  refine (countdown_takes.metered (m := n + 6000) (by omega) (by omega)).bind fun _ => ?_
  refine (Prog.Metered.loop (fun c => opcStartPass_metered c (by omega) (by omega)) fuel 0).bind
    fun _ => ?_
  exact (kMsleep_takes 5000).metered (by omega) (by omega)

/-- The payload of a histogram takes no time. -/
lemma readPayload_takes (l : HistLocals) : (readPayload l).Takes (timeMeter i) N 0 := by
  have hpass : ∀ k l, (payloadPass k l).Takes (timeMeter i) N 0 := fun k l =>
    free_bind rfl fun received => Prog.takes_pure _
  unfold readPayload
  refine free_bind rfl fun _ => free_bind rfl fun _ => ?_
  refine (Prog.Takes.forRange hpass 62 l).bind (j := 0) fun l => ?_
  refine free_bind rfl fun _ => free_bind rfl fun _ => ?_
  exact Prog.takes_pure l

/-- A sample takes five seconds. -/
lemma samplePass_takes (s : ℕ) (l : HistLocals) :
    (samplePass s l).Takes (timeMeter i) N 5012 := by
  unfold samplePass
  refine (opcSendCommand_takes 0x30).bind (j := 5012) fun r => ?_
  refine (kMsleep_takes 12).bind (j := 5000) fun _ => .ite ?_ ?_
  · refine (readPayload_takes l).bind (j := 5000) fun l => ?_
    exact (kMsleep_takes 5000).returning
  · refine (Prog.takes_pure l).bind (j := 5000) fun l => ?_
    exact (kMsleep_takes 5000).returning

/-- `opc_read_histogram` of seven samples. -/
lemma opcReadHistogram_takes : (opcReadHistogram 7).Takes (timeMeter i) N 35084 := by
  have hloop : ∀ l, (sampleLoop (7 : UInt8).toNat l).Takes (timeMeter i) N 35084 := fun l =>
    (Prog.Takes.forRange samplePass_takes 7 l).mono (by decide)
  unfold opcReadHistogram
  refine free_bind rfl fun l => ?_
  exact (hloop _).returning

/-- A pass of the retry loop of `opc_stop` is accounted for by its attempt. -/
lemma opcStopPass_metered (c : UInt8) (hn : n ≤ N) (hattempt : 9010 ≤ n) :
    (opcStopPass c).Metered (timeMeter .particle) N n n := by
  have hend : (stopPassEnd c).Takes (timeMeter .particle) N 0 :=
    .ite (Prog.takes_pure _) (Prog.takes_pure _)
  have hreset := Prog.Takes.ite (c := c = 10) ((kMsleep_takes 5000).bind fun _ => hend)
    (hend.mono (Nat.zero_le (5000 + 0)))
  unfold opcStopPass
  refine (handshake_metered hn).bind fun r1 => ?_
  refine ((kMsleep_takes 10).metered (m := n - 9000) (by omega) (by omega)).bind fun _ => ?_
  refine ((opcSendCommand_takes 0x01).metered (m := n - 9000) (by omega) (by omega)).bind
    fun r2 => .ite (by simp) ?_
  exact ((kMsleep_takes 600).bind fun _ => hreset).metered (by omega) (by omega)

/-- `opc_stop` takes its countdowns and the pause before the power is cut. -/
lemma opcStop_metered (fuel : ℕ) (hn : 9010 ≤ n) (hN : n + 8000 ≤ N) :
    (opcStop fuel).Metered (timeMeter .particle) N n (n + 8000) := by
  unfold opcStop
  refine (countdown_takes.metered (m := n + 3000) (by omega) le_rfl).bind fun _ => ?_
  refine (free_metered rfl (by omega)).bind fun _ => ?_
  refine (countdown_takes.metered (m := n + 6000) (by omega) (by omega)).bind fun _ => ?_
  refine (Prog.Metered.loop (fun c => opcStopPass_metered c (by omega) (by omega)) fuel 0).bind
    fun _ => ?_
  refine ((kMsleep_takes 2000).metered (m := n + 8000) hN (by omega)).bind fun _ => ?_
  refine (free_metered rfl hN).bind fun _ => (free_metered rfl hN).bind fun _ => ?_
  refine (free_metered rfl hN).bind fun _ => (free_metered rfl hN).bind fun _ => ?_
  exact free_metered rfl hN

/-- `opc_release` takes no time. -/
lemma opcRelease_takes : opcRelease.Takes (timeMeter i) N 0 := by
  unfold opcRelease
  refine free_bind rfl fun _ => free_bind rfl fun _ => ?_
  refine free_bind rfl fun _ => free_bind rfl fun _ => ?_
  refine free_bind rfl fun _ => free_bind rfl fun _ => ?_
  exact free_bind rfl fun _ => free_takes rfl

/-- A measurement cycle. -/
lemma opcCycle_metered (fuel : ℕ) :
    (opcCycle fuel 7).Metered (timeMeter .particle) (resultTime .particle) 120500 174584 := by
  have hinit : opcInit.Takes (timeMeter .particle) (resultTime .particle) 0 :=
    free_bind rfl fun _ => Prog.takes_pure ()
  unfold opcCycle
  refine (hinit.metered (m := 120500) (by decide) (by decide)).bind fun _ => ?_
  refine (opcStart_metered fuel (by decide) (by decide)).bind fun _ => ?_
  refine (opcReadHistogram_takes.metered (m := 166584) (by decide) (by decide)).bind
    fun data => ?_
  refine (opcStop_metered fuel (by decide) (by decide)).bind fun _ => ?_
  exact (opcRelease_takes.metered (m := 174584) (by decide) (by decide)).bind fun _ => by simp

/-- A pass of the particle thread. -/
lemma countParticlesPass_metered (fuel : ℕ) (a : Fin 3 → Flt) :
    (countParticlesPass fuel a).Metered (timeMeter .particle) (resultTime .particle) 120500
      120500 := by
  unfold countParticlesPass
  refine (free_metered rfl (by decide)).bind fun _ => (opcCycle_metered fuel).bind fun data => ?_
  refine (free_metered rfl (by decide)).bind fun _ => ?_
  refine ((ambientSensorsRead_takes a).metered (m := 174624) (by decide) (by decide)).bind
    fun ambSensors => ?_
  refine Prog.Metered.bind (k := 0) ((result_metered rfl rfl).bind fun _ => by simp)
    fun textData => ?_
  refine (free_metered rfl (by decide)).bind fun _ => ?_
  refine ((saveData_takes textData "opc").metered (m := 500) (by decide) (by decide)).bind
    fun _ => ?_
  exact ((kMsleep_takes 120000).metered (m := 120500) (by decide) (by decide)).bind
    fun _ => by simp

/-! ## The sender -/

/-- A pass of the join loop is accounted for by its attempt. -/
lemma joinPass_metered (ret : ℤ) :
    (joinPass ret).Metered (timeMeter .sender) (resultTime .sender) 14000 14000 := by
  have hjoin : lorawanJoin.Metered (timeMeter .sender) (resultTime .sender) 14000 12000 :=
    attempt_metered rfl rfl rfl (by decide)
  unfold joinPass
  refine hjoin.bind fun ret => .ite ?_ ?_
  · refine (free_metered rfl (by decide)).bind fun _ => ?_
    refine ((kMsleep_takes 1000).metered (m := 13000) (by decide) (by decide)).bind fun _ => ?_
    refine (free_metered rfl (by decide)).bind fun _ => ?_
    exact ((kMsleep_takes 1000).metered (m := 14000) (by decide) (by decide)).bind
      fun _ => by simp
  · refine (free_metered rfl (by decide)).bind fun ret => ?_
    exact (free_metered rfl (by decide)).bind fun _ => .ite (by simp) (by simp)

/-- The twenty blinks take two seconds. -/
lemma blink_takes : blink.Takes (timeMeter i) N 2000 := by
  refine Prog.Takes.forRange (k := 100) (fun _ _ => ?_) 20 ()
  refine free_bind rfl fun _ => (kMsleep_takes 50).bind (j := 50) fun _ => ?_
  exact free_bind rfl fun _ => kMsleep_takes 50

/-- What follows a transmission takes 14 s at most: there are no blinks after a failure. -/
lemma afterSend_takes (ret : ℤ) (ok : ℤ → Bool) (hok : ok ret = true → 0 ≤ ret) :
    (afterSend ret ok).Takes (timeMeter i) N 14000 := by
  unfold afterSend
  by_cases hret : ret < 0
  · have hfailed : ok ret = false := by
      rw [Bool.eq_false_iff]
      intro htrue
      have := hok htrue
      omega
    simp only [hret, hfailed, if_true, Bool.false_eq_true, if_false]
    have hlate : (do
        kMsleep 2000
        kMsleep 10000 : App Unit).Takes (timeMeter i) N 12000 :=
      (kMsleep_takes 2000).bind fun _ => kMsleep_takes 10000
    exact .ite ((kMsleep_takes 2000).bind fun _ => hlate) (hlate.mono (by decide))
  · have hagain : ret ≠ -eagain := by
      unfold eagain
      omega
    simp only [hret, hagain, if_false]
    exact .ite ((blink_takes.bind fun _ => kMsleep_takes 10000).mono (by decide))
      ((kMsleep_takes 10000).mono (by decide))

/-- Sending a message. -/
lemma sendMessage_metered (port : UInt8) (m : Mailbox) (ok : ℤ → Bool)
    (hok : ∀ ret, ok ret = true → 0 ≤ ret) :
    (sendMessage port m ok).Metered (timeMeter .sender) (resultTime .sender) 14000 14000 := by
  unfold sendMessage lorawanSend
  refine (free_metered rfl (by decide)).bind fun msg => ?_
  refine Prog.Metered.bind (k := 0) ((result_metered rfl rfl).bind fun _ =>
    free_metered rfl (by decide)) fun ret => ?_
  exact (afterSend_takes ret ok (hok ret)).metered (by decide) (by decide)

/-! ## The threads -/

/-- **Every thread keeps its account below the time for a result.** -/
lemma application_metered (fuel joins : ℕ) (passes : ThreadId → ℕ) (i : ThreadId) :
    (application fuel joins passes i).Metered (timeMeter i) (resultTime i) 0 (resultTime i) := by
  cases i with
  | gas =>
    refine Prog.Metered.bind (k := 30500) ?_ fun _ => (Prog.metered_pure ()).2 (by decide)
    unfold readGasAndAmbientSensors
    refine ((kMsleep_takes 10000).metered (m := 30500) (by decide) (by decide)).bind fun _ => ?_
    refine (free_metered rfl (by decide)).bind fun gs => ?_
    exact Prog.Metered.forRange (fun _ => readGasPass_metered) (passes .gas) _
  | particle =>
    refine Prog.Metered.bind (k := 120500) ?_ fun _ => (Prog.metered_pure ()).2 (by decide)
    exact (Prog.Metered.forRange (fun _ => countParticlesPass_metered fuel) (passes .particle)
      _).mono (Nat.zero_le 120500) le_rfl
  | sender =>
    have hend : (pure () : App Unit).Metered (timeMeter .sender) (resultTime .sender) 0
        14000 := by simp
    show (sendData joins (passes .sender)).Metered (timeMeter .sender) (resultTime .sender) 0
      14000
    unfold sendData
    refine (free_metered rfl (by decide)).bind fun found => .ite ?_ hend
    refine (free_metered rfl (by decide)).bind fun ret => .ite ?_ hend
    refine Prog.Metered.bind (k := 14000) ((Prog.Metered.loop joinPass_metered joins (-1)).mono
      (Nat.zero_le 14000) le_rfl) fun _ => ?_
    refine Prog.Metered.forRange (fun _ _ => ?_) (passes .sender) ()
    exact (sendMessage_metered 1 .gasMsg _ (by simp)).bind fun _ =>
      sendMessage_metered 2 .opcMsg _ (by simp)

section Run

variable (env : AppEnv) (fuel joins : ℕ) (passes : ThreadId → ℕ) (schedule : List ThreadId)

/-- A thread keeps its account below the time for a result in every run. -/
lemma appHistory_keepsBelow (i : ThreadId) :
    KeepsBelow (timeMeter i) (resultTime i)
      (own i (appHistory env fuel joins passes schedule)) :=
  System.keepsBelow_own (application_metered fuel joins passes i) schedule

/-- The `n` events of a history before the last `m`. -/
def stretch (m n : ℕ) (h : History) : History := (h.drop m).take n

/-- **No time is lost.** In any stretch of any run of the application, whatever is answered and
whatever fails, a thread sleeps no longer than the time for each of its results and once more, and
the time for each of its attempts. So a stretch with neither is no longer than the time for one
result. -/
theorem no_time_lost (i : ThreadId) (m n : ℕ) :
    sleepTotal (stretch m n (own i (appHistory env fuel joins passes schedule))) ≤
      resultTime i * (occurrences (fun e => resultCall i e.call)
          (stretch m n (own i (appHistory env fuel joins passes schedule))) + 1) +
        attemptTime i * occurrences (fun e => attemptCall i e.call)
          (stretch m n (own i (appHistory env fuel joins passes schedule))) := by
  have hbelow := appHistory_keepsBelow env fuel joins passes schedule i
  -- what came after the stretch has no part in it
  rw [← List.take_append_drop m (own i _)] at hbelow
  have hearlier := Always.of_append hbelow
  rw [← List.take_append_drop n (List.drop m _)] at hearlier
  rw [← totalTime_slept, ← totalTime_attemptCredit]
  exact KeepsBelow.accounted hearlier

end Run

end AirLab
