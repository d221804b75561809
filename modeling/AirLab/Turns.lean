import AirLab.Effects.Bursts
import AirLab.Interleaving

set_option relaxedAutoImplicit false
set_option autoImplicit false

/-!
# How long a thread of the application keeps the processor

There is no time slicing, so a thread runs until it makes a call in which it waits. Which calls do
is partly up to the drivers: a sleep does, and so does joining the network, but a transfer may be
over at once. The longest burst is that of the particle thread, whose bus is driven bit by bit: it
reads the 62 bytes of a payload without a pause.

## Main definitions

* `AirLab.Call.suspends` — the calls in which a thread waits for certain.
* `AirLab.Call.blocksWith` — calls that may wait as well.

## Main results

* `AirLab.application_bursts` — no thread makes more than 62 calls in a row without such a wait.
* `AirLab.no_thread_shut_out` — every thread can always make its next call soon.
-/

namespace AirLab

open CLang Effects

/-- The calls in which a thread waits for certain: it sleeps, or waits for the network to accept it.
A request to join that fails at once is followed by a sleep. -/
def Call.suspends : Call → Bool
  | .kMsleep _ => true
  | .kUsleep _ => true
  | .lorawanJoin => true
  | _ => false

/-- The calls at which another thread comes to run, if the `others` wait as well. -/
def Call.blocksWith (others : Call → Bool) (c : Call) : Bool := c.suspends || others c

variable {n : ℕ}

/-! ## The particle counter -/

/-- A wait ends a burst. -/
lemma suspending_bursts {c : Call} (hc : c.suspends = true) (n : ℕ) :
    (Prog.perform c : App (Resp c)).Bursts Call.suspends 62 n 0 := Prog.bursts_of_blocks hc

/-- Any other call goes on with it. -/
lemma quiet_bursts {c : Call} (hc : c.suspends = false) (hn : n < 62) :
    (Prog.perform c : App (Resp c)).Bursts Call.suspends 62 n (n + 1) := Prog.bursts_of_not hc hn

/-- Returning a value. -/
lemma pure_bursts {α : Type} (a : α) (n : ℕ) : (pure a : App α).Bursts Call.suspends 62 n n := by
  simp

/-- A command pauses around its transfer. -/
lemma opcSendCommand_bursts (cmd : UInt8) (hn : n < 61) :
    (opcSendCommand cmd).Bursts Call.suspends 62 n 1 := by
  unfold opcSendCommand
  refine (quiet_bursts rfl (by omega)).bind fun rxBuf => ?_
  refine (quiet_bursts rfl (by omega)).bind fun _ => ?_
  refine (suspending_bursts rfl _).bind fun _ => ?_
  refine (quiet_bursts rfl (by omega)).bind fun received => ?_
  refine (suspending_bursts rfl _).bind fun _ => ?_
  exact (quiet_bursts rfl (by omega)).bind fun _ => pure_bursts _ 1

/-- The countdown sleeps. -/
lemma countdown_bursts : countdown.Bursts Call.suspends 62 n n :=
  Prog.Metered.forRange (fun _ _ => (suspending_bursts rfl n).mono le_rfl (Nat.zero_le n)) 3 ()

/-- `opc_init` looks up a device. -/
lemma opcInit_bursts (hn : n < 62) : opcInit.Bursts Call.suspends 62 n (n + 1) :=
  (quiet_bursts rfl hn).bind fun _ => pure_bursts () _

/-- The end of a pass of `opc_start`, with the power cycle or without it. -/
lemma startPassEnd_bursts (c : UInt8) : (startPassEnd c).Bursts Call.suspends 62 0 3 := by
  unfold startPassEnd
  refine .ite ?_ (by simp)
  refine (quiet_bursts rfl (by omega)).bind fun _ => ?_
  refine (quiet_bursts rfl (by omega)).bind fun _ => ?_
  refine (quiet_bursts rfl (by omega)).bind fun _ => ?_
  refine (quiet_bursts rfl (by omega)).bind fun _ => ?_
  refine (suspending_bursts rfl _).bind fun _ => ?_
  refine (quiet_bursts rfl (by omega)).bind fun _ => ?_
  simp

/-- A pass of the retry loop of `opc_start` pauses. -/
lemma opcStartPass_bursts (c : UInt8) : (opcStartPass c).Bursts Call.suspends 62 3 3 := by
  unfold opcStartPass
  refine (opcSendCommand_bursts 0x03 (by omega)).bind fun r1 => ?_
  refine (suspending_bursts rfl _).bind fun _ => ?_
  refine (opcSendCommand_bursts 0x00 (by omega)).bind fun r2 => ?_
  refine .ite (by simp) ?_
  refine (suspending_bursts rfl _).bind fun _ => ?_
  exact .ite ((suspending_bursts rfl _).bind fun _ => startPassEnd_bursts c)
    (startPassEnd_bursts c)

/-- `opc_start` -/
lemma opcStart_bursts (fuel : ℕ) : (opcStart fuel).Bursts Call.suspends 62 2 0 := by
  unfold opcStart
  refine countdown_bursts.bind fun _ => ?_
  refine (quiet_bursts rfl (by omega)).bind fun _ => ?_
  refine countdown_bursts.bind fun _ => ?_
  refine (Prog.Metered.loop opcStartPass_bursts fuel 0).bind fun _ => ?_
  exact suspending_bursts rfl _

/-- The end of a pass of `opc_stop`. -/
lemma stopPassEnd_bursts (c : UInt8) : (stopPassEnd c).Bursts Call.suspends 62 0 2 :=
  .ite (by simp) (by simp)

/-- A pass of the retry loop of `opc_stop` pauses. -/
lemma opcStopPass_bursts (c : UInt8) : (opcStopPass c).Bursts Call.suspends 62 2 2 := by
  unfold opcStopPass
  refine (opcSendCommand_bursts 0x03 (by omega)).bind fun r1 => ?_
  refine (suspending_bursts rfl _).bind fun _ => ?_
  refine (opcSendCommand_bursts 0x01 (by omega)).bind fun r2 => ?_
  refine .ite (by simp) ?_
  refine (suspending_bursts rfl _).bind fun _ => ?_
  exact .ite ((suspending_bursts rfl _).bind fun _ => stopPassEnd_bursts c)
    (stopPassEnd_bursts c)

/-- `opc_stop` ends with five writes after its last pause. -/
lemma opcStop_bursts (fuel : ℕ) : (opcStop fuel).Bursts Call.suspends 62 1 5 := by
  unfold opcStop
  refine countdown_bursts.bind fun _ => ?_
  refine (quiet_bursts rfl (by omega)).bind fun _ => ?_
  refine countdown_bursts.bind fun _ => ?_
  refine (Prog.Metered.loop opcStopPass_bursts fuel 0).bind fun _ => ?_
  refine (suspending_bursts rfl _).bind fun _ => ?_
  refine (quiet_bursts rfl (by omega)).bind fun _ => ?_
  refine (quiet_bursts rfl (by omega)).bind fun _ => ?_
  refine (quiet_bursts rfl (by omega)).bind fun _ => ?_
  refine (quiet_bursts rfl (by omega)).bind fun _ => ?_
  exact quiet_bursts rfl (by omega)

/-- A sample ends with a pause. Its payload is the longest burst: 62 transfers. -/
lemma samplePass_bursts (s : ℕ) (l : HistLocals) :
    (samplePass s l).Bursts Call.suspends 62 1 1 := by
  have hpayload : (readPayload l).Bursts Call.suspends 62 0 1 := by
    unfold readPayload
    refine (quiet_bursts rfl (by omega)).bind fun _ => ?_
    refine (suspending_bursts rfl _).bind fun _ => ?_
    have hbyte : ∀ i l, (payloadPass i l).Takes (Meter.burst Call.suspends) 62 1 := fun i l =>
      (Prog.takes_burst _ 62 (Call.spiTransceive 0xC0)).returning
    refine ((Prog.Takes.forRange hbyte 62 l).metered (by omega) le_rfl).bind fun l => ?_
    refine (suspending_bursts rfl _).bind fun _ => ?_
    exact (quiet_bursts rfl (by omega)).bind fun _ => by simp
  unfold samplePass
  refine (opcSendCommand_bursts 0x30 (by omega)).bind fun r => ?_
  refine (suspending_bursts rfl _).bind fun _ => .ite (hpayload.bind fun l => ?_) ?_
  · exact (suspending_bursts rfl _).bind fun _ => by simp
  · exact (pure_bursts l 0).bind fun l => (suspending_bursts rfl _).bind fun _ => by simp

/-- `opc_read_histogram` -/
lemma opcReadHistogram_bursts (samples : UInt8) :
    (opcReadHistogram samples).Bursts Call.suspends 62 0 1 := by
  unfold opcReadHistogram sampleLoop
  refine (quiet_bursts rfl (by omega)).bind fun l => ?_
  exact (Prog.Metered.forRange samplePass_bursts samples.toNat _).bind fun l => by simp

/-- `opc_release` makes eight calls. -/
lemma opcRelease_bursts : opcRelease.Bursts Call.suspends 62 5 13 := by
  unfold opcRelease
  refine (quiet_bursts rfl (by omega)).bind fun _ => ?_
  refine (quiet_bursts rfl (by omega)).bind fun _ => ?_
  refine (quiet_bursts rfl (by omega)).bind fun _ => ?_
  refine (quiet_bursts rfl (by omega)).bind fun _ => ?_
  refine (quiet_bursts rfl (by omega)).bind fun _ => ?_
  refine (quiet_bursts rfl (by omega)).bind fun _ => ?_
  refine (quiet_bursts rfl (by omega)).bind fun _ => ?_
  exact quiet_bursts rfl (by omega)

/-- A measurement cycle ends with thirteen calls after its last pause. -/
lemma opcCycle_bursts (fuel : ℕ) (samples : UInt8) :
    (opcCycle fuel samples).Bursts Call.suspends 62 1 13 := by
  unfold opcCycle
  refine (opcInit_bursts (by omega)).bind fun _ => ?_
  refine (opcStart_bursts fuel).bind fun _ => ?_
  refine (opcReadHistogram_bursts samples).bind fun data => ?_
  refine (opcStop_bursts fuel).bind fun _ => ?_
  exact opcRelease_bursts.bind fun _ => by simp

/-! ## The other drivers -/

/-- The channel reads of the ambient sensor. -/
lemma channelGets_bursts : channelGets.Bursts Call.suspends 62 0 3 := by
  unfold channelGets
  refine (quiet_bursts rfl (by omega)).bind fun press => ?_
  cases press with
  | none => simp
  | some press =>
    refine (quiet_bursts rfl (by omega)).bind fun temp => ?_
    cases temp with
    | none => simp
    | some temp =>
      refine (quiet_bursts rfl (by omega)).bind fun hum => ?_
      cases hum <;> simp

/-- A sample of the ambient sensor. -/
lemma ambientPass_bursts (i : ℕ) (sum : Fin 3 → Flt) :
    (ambientPass i sum).Bursts Call.suspends 62 n 3 := by
  have hgets : ∀ fetched : Bool, (if fetched then channelGets else return none).Bursts
      Call.suspends 62 0 3 := fun fetched => .ite channelGets_bursts (by simp)
  have hsample : ambientSample.Bursts Call.suspends 62 n 3 := by
    unfold ambientSample sensorSampleFetch
    refine (suspending_bursts rfl _).bind fun _ => ?_
    refine Prog.Metered.bind ((quiet_bursts rfl (by omega)).bind fun s => pure_bursts _ 1)
      fun fetched => ?_
    exact (suspending_bursts rfl _).bind fun _ => hgets fetched
  exact hsample.bind fun v => by simp

/-- `ambient_sensors_read` of one sample. -/
lemma ambientSensorsRead_bursts (a : Fin 3 → Flt) (hn : n < 62) :
    (ambientSensorsRead 1 a).Bursts Call.suspends 62 n 3 := by
  have hone : ∀ sum, (Prog.forUntil ambientPass (1 : UInt8).toNat sum).Bursts Call.suspends 62
      (n + 1) 3 := fun sum => ambientPass_bursts 0 sum
  unfold ambientSensorsRead
  refine (quiet_bursts rfl hn).bind fun sum => ?_
  refine (hone sum).bind fun r => ?_
  cases r <;> simp

/-- `save_data` makes three calls. -/
lemma saveData_bursts (data : CStr 200) (type : String) (hn : n < 60) :
    (saveData data type).Bursts Call.suspends 62 n (n + 3) := by
  unfold saveData
  refine (quiet_bursts rfl (by omega)).bind fun _ => ?_
  refine (quiet_bursts rfl (by omega)).bind fun rc => .ite ?_ (quiet_bursts rfl (by omega))
  refine (suspending_bursts rfl _).bind fun _ => ?_
  exact (quiet_bursts rfl (by omega)).mono le_rfl (by omega)

/-- `gas_sensors_read` -/
lemma gasSensorsRead_bursts (result : Fin 8 → UInt16) (samples : ℕ) (hn : n < 61) :
    (gasSensorsRead result samples).Bursts Call.suspends 62 n (n + 1) := by
  have hchannel : ∀ addr off i l,
      (channelPass addr off i l).Bursts Call.suspends 62 (n + 1) (n + 1) := by
    intro addr off i l
    unfold channelPass
    refine (quiet_bursts rfl (by omega)).bind fun _ => (suspending_bursts rfl _).bind fun _ => ?_
    refine (quiet_bursts rfl (by omega)).bind fun _ => (suspending_bursts rfl _).bind fun _ => ?_
    refine (quiet_bursts rfl (by omega)).bind fun _ => ?_
    exact (suspending_bursts rfl _).bind fun _ => by simp
  have hsample : ∀ s l, (gasSamplePass s l).Bursts Call.suspends 62 (n + 1) (n + 1) := by
    intro s l
    unfold gasSamplePass
    refine (Prog.Metered.forRange (hchannel 0x48 0) 4 l).bind fun l => ?_
    have hsleep : (kMsleep 10).Bursts Call.suspends 62 (n + 1) (n + 1) :=
      (suspending_bursts rfl _).mono le_rfl (Nat.zero_le (n + 1))
    refine hsleep.bind fun _ => ?_
    refine (Prog.Metered.forRange (hchannel 0x49 4) 4 l).bind fun l => ?_
    exact (suspending_bursts rfl _).bind fun _ => by simp
  unfold gasSensorsRead gasSampleLoop
  refine (quiet_bursts rfl (by omega)).bind fun readbuf => ?_
  exact (Prog.Metered.forRange hsample samples _).bind fun l => by simp

/-! ## The threads -/

/-- Formatting a record. -/
lemma snprintfcb_bursts (t : Text) (hn : n < 62) :
    (snprintfcb t).Bursts Call.suspends 62 n (n + 1) :=
  (quiet_bursts rfl hn).bind fun _ => by simp

/-- A pass of the particle thread: its longest burst ends with the ambient sensor. -/
lemma countParticlesPass_bursts (fuel : ℕ) (a : Fin 3 → Flt) :
    (countParticlesPass fuel a).Bursts Call.suspends 62 0 0 := by
  unfold countParticlesPass
  refine (quiet_bursts rfl (by omega)).bind fun _ => ?_
  refine (opcCycle_bursts fuel 7).bind fun data => ?_
  refine (quiet_bursts rfl (by omega)).bind fun _ => ?_
  refine (ambientSensorsRead_bursts a (by omega)).bind fun ambSensors => ?_
  refine (snprintfcb_bursts _ (by omega)).bind fun textData => ?_
  refine (quiet_bursts rfl (by omega)).bind fun _ => ?_
  refine (saveData_bursts textData "opc" (by omega)).bind fun _ => ?_
  exact (suspending_bursts rfl _).bind fun _ => by simp

/-- A pass of the gas thread. -/
lemma readGasPass_bursts (l : (Fin 8 → UInt16) × (Fin 3 → Flt)) :
    (readGasPass l).Bursts Call.suspends 62 1 1 := by
  unfold readGasPass
  refine (gasSensorsRead_bursts l.1 5 (by omega)).bind fun gs => ?_
  refine (ambientSensorsRead_bursts l.2 (by omega)).bind fun ambSensors => ?_
  refine (snprintfcb_bursts _ (by omega)).bind fun textData => ?_
  refine (saveData_bursts textData "gas" (by omega)).bind fun _ => ?_
  refine (quiet_bursts rfl (by omega)).bind fun _ => ?_
  exact (suspending_bursts rfl _).bind fun _ => by simp

/-- Joining the network. -/
lemma joinPass_bursts (ret : ℤ) : (joinPass ret).Bursts Call.suspends 62 2 2 := by
  unfold joinPass
  refine (suspending_bursts rfl _).bind fun ret => .ite ?_ ?_
  · refine (quiet_bursts rfl (by omega)).bind fun _ => (suspending_bursts rfl _).bind fun _ => ?_
    refine (quiet_bursts rfl (by omega)).bind fun _ => (suspending_bursts rfl _).bind fun _ => ?_
    simp
  · refine (quiet_bursts rfl (by omega)).bind fun ret => ?_
    exact (quiet_bursts rfl (by omega)).bind fun _ => .ite (by simp) (by simp)

/-- What follows a transmission ends with a pause. -/
lemma afterSend_bursts (ret : ℤ) (ok : ℤ → Bool) (hn : n < 62) :
    (afterSend ret ok).Bursts Call.suspends 62 n 0 := by
  have hsleep : ∀ ms n, (kMsleep ms).Bursts Call.suspends 62 n 0 := fun ms n =>
    suspending_bursts rfl n
  have hblink : blink.Bursts Call.suspends 62 n n := by
    refine Prog.Metered.forRange (fun _ _ => ?_) 20 ()
    refine (quiet_bursts rfl hn).bind fun _ => (hsleep _ _).bind fun _ => ?_
    refine (quiet_bursts rfl (by omega)).bind fun _ => ?_
    exact (hsleep _ _).mono le_rfl (Nat.zero_le n)
  have hend : ((if ok ret then do
      blink
      kMsleep 10000
    else kMsleep 10000) : App Unit).Bursts Call.suspends 62 n 0 :=
    .ite (hblink.bind fun _ => hsleep _ _) (hsleep _ _)
  have hwait : (kMsleep 2000).Bursts Call.suspends 62 n n :=
    (hsleep _ _).mono le_rfl (Nat.zero_le n)
  have hlate := Prog.Metered.ite (c := ret < 0) (hwait.bind fun _ => hend) hend
  unfold afterSend
  exact .ite (hwait.bind fun _ => hlate) hlate

/-- Sending a message. -/
lemma sendMessage_bursts (port : UInt8) (m : Mailbox) (ok : ℤ → Bool) (hn : n < 59) :
    (sendMessage port m ok).Bursts Call.suspends 62 n 0 := by
  unfold sendMessage lorawanSend
  refine (quiet_bursts rfl (by omega)).bind fun msg => ?_
  refine Prog.Metered.bind ((quiet_bursts rfl (by omega)).bind fun _ =>
    quiet_bursts rfl (by omega)) fun ret => ?_
  exact afterSend_bursts ret ok (by omega)

/-- **No thread makes more than 62 calls in a row without a wait.** -/
lemma application_bursts (fuel joins : ℕ) (passes : ThreadId → ℕ) (i : ThreadId) :
    (application fuel joins passes i).Bursts Call.suspends 62 0 2 := by
  cases i with
  | gas =>
    refine Prog.Metered.bind (k := 1) ?_ fun _ => by simp
    unfold readGasAndAmbientSensors
    refine (suspending_bursts rfl _).bind fun _ => (quiet_bursts rfl (by omega)).bind fun gs => ?_
    exact Prog.Metered.forRange (fun _ => readGasPass_bursts) (passes .gas) _
  | particle =>
    refine Prog.Metered.bind (Prog.Metered.forRange (fun _ => countParticlesPass_bursts fuel)
      (passes .particle) _) fun _ => by simp
  | sender =>
    show (sendData joins (passes .sender)).Bursts Call.suspends 62 0 2
    unfold sendData
    refine (quiet_bursts rfl (by omega)).bind fun found => .ite ?_ (by simp)
    refine (quiet_bursts rfl (by omega)).bind fun ret => .ite ?_ (by simp)
    refine (Prog.Metered.loop joinPass_bursts joins (-1)).bind fun _ => ?_
    refine Prog.Metered.forRange (fun _ _ => ?_) (passes .sender) ()
    refine (sendMessage_bursts 1 .gasMsg _ (by omega)).bind fun _ => ?_
    exact (sendMessage_bursts 2 .opcMsg _ (by omega)).mono le_rfl (by omega)

/-- The application, if the `others` block as well. -/
def appSystem (others : Call → Bool) (env : AppEnv) (fuel joins : ℕ) (passes : ThreadId → ℕ)
    (schedule : List ThreadId) : System ThreadId Call Resp :=
  System.run (Call.blocksWith others) (shared env) (System.init (application fuel joins passes))
    schedule

/-- **No thread is shut out.** Whichever calls wait besides the sleeps and joining the network: in
every state the application reaches, whatever has been answered, a thread has made at most 62
calls since its last wait of these kinds, and a thread that has not ended can make its next call
within 63 steps. -/
theorem no_thread_shut_out (others : Call → Bool) (env : AppEnv) (fuel joins : ℕ)
    (passes : ThreadId → ℕ) (schedule : List ThreadId) (i : ThreadId) :
    streak Call.suspends (own i (appSystem others env fuel joins passes schedule).hist) ≤ 62 ∧
      ∀ c k, (appSystem others env fuel joins passes schedule).prog i = .call c k →
        ∃ more : List ThreadId, more.length ≤ 63 ∧ ∃ r,
          own i (appSystem others env fuel joins passes (schedule ++ more)).hist =
            ⟨c, r⟩ :: own i (appSystem others env fuel joins passes schedule).hist := by
  have hmore : ∀ c : Call, c.suspends = true → c.blocksWith others = true := fun c hc => by
    simp [Call.blocksWith, hc]
  have hbursts : ∀ i, (application fuel joins passes i).Bursts (Call.blocksWith others) 62 0 2 :=
    fun i => (application_bursts fuel joins passes i).of_blocks hmore
  exact ⟨System.streak_own_le (application_bursts fuel joins passes i) schedule,
    fun c k hprog => System.exists_answered hbursts schedule hprog⟩

end AirLab
