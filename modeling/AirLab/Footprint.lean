import AirLab.Threads

set_option relaxedAutoImplicit false
set_option autoImplicit false

/-!
# The calls of each driver

Which calls the functions of a driver make, for frame arguments: what the calls of a driver
leave alone, the driver leaves alone.

## Main definitions

* `AirLab.Call.ofCounter`, `AirLab.Call.ofPower` — reading the particle counter, and the whole
  measurement cycle around it.
* `AirLab.Call.ofGas`, `AirLab.Call.ofAmbient`, `AirLab.Call.ofStorage` — the other drivers.
* `AirLab.Call.ofLink`, `AirLab.Call.ofSend`, `AirLab.Call.ofRadio` — the sender.
* `AirLab.Call.ofGasThread`, `AirLab.Call.ofParticleThread` — the measuring threads.

## Main results

* `AirLab.opcReadHistogram_calls`, `AirLab.opcCycle_calls`, `AirLab.gasSensorsRead_calls`,
  `AirLab.ambientSensorsRead_calls`, `AirLab.saveData_calls`, `AirLab.sendData_calls` — the
  functions make these calls.
* `AirLab.readGas_calls`, `AirLab.countParticles_calls` — so do the threads.
-/

namespace AirLab

open CLang Effects

variable {ok : Call → Prop}

/-- A single call. -/
lemma perform_only {c : Call} (hc : ok c) : (Prog.perform c : App (Resp c)).Only ok :=
  (Prog.calls_perform c).2 hc

/-- A single call, seen as a program that may be endless. -/
lemma perform_within {c : Call} (hc : ok c) : (Prog.perform c : App (Resp c)).Within ok :=
  (Prog.calls_perform c).2 hc

/-! ## The particle counter -/

/-- The calls that read the particle counter: they drive no pin but chip select. -/
def Call.ofCounter : Call → Prop
  | .uninit _ => True
  | .gpioPinSet pin _ => pin = chipSelect
  | .kMsleep _ => True
  | .kUsleep _ => True
  | .spiTransceive _ => True
  | _ => False

/-- The calls of a measurement cycle. -/
def Call.ofPower : Call → Prop
  | .uninit _ => True
  | .gpioPinSet _ _ => True
  | .gpioPinConfigure _ _ => True
  | .kMsleep _ => True
  | .kUsleep _ => True
  | .spiTransceive _ => True
  | .spiRelease => True
  | .deviceGetBinding _ => True
  | _ => False

/-- The transfer of a payload byte. -/
def Call.isPayload : Call → Bool
  | .spiTransceive tx => tx = 0xC0
  | _ => false

/-- The calls of a handshake: those of a cycle without the payloads. -/
def Call.ofHandshake (c : Call) : Prop := c.ofPower ∧ c.isPayload = false

/-- Reading the counter is part of a cycle. -/
lemma Call.ofCounter.ofPower (c : Call) (hc : c.ofCounter) : c.ofPower := by
  cases c <;> trivial

/-- The calls of a command. -/
lemma opcSendCommand_calls (cmd : UInt8) : (opcSendCommand cmd).Only Call.ofCounter := by
  unfold opcSendCommand
  refine .bind (perform_only trivial) fun rxBuf => ?_
  refine .bind (perform_only rfl) fun _ => ?_
  refine .bind (perform_only trivial) fun _ => ?_
  refine .bind (perform_only trivial) fun received => ?_
  refine .bind (perform_only trivial) fun _ => ?_
  exact .bind (perform_only rfl) fun _ => Prog.calls_pure _

/-- A command of a handshake. -/
lemma opcSendCommand_handshake {cmd : UInt8} (hcmd : cmd ≠ 0xC0) :
    (opcSendCommand cmd).Only Call.ofHandshake := by
  unfold opcSendCommand
  refine .bind (perform_only ⟨trivial, rfl⟩) fun rxBuf => ?_
  refine .bind (perform_only ⟨trivial, rfl⟩) fun _ => ?_
  refine .bind (perform_only ⟨trivial, rfl⟩) fun _ => ?_
  refine .bind (perform_only ⟨trivial, by simpa [Call.isPayload] using hcmd⟩) fun received => ?_
  refine .bind (perform_only ⟨trivial, rfl⟩) fun _ => ?_
  exact .bind (perform_only ⟨trivial, rfl⟩) fun _ => Prog.calls_pure _

/-- The calls of a payload. -/
lemma readPayload_calls (l : HistLocals) : (readPayload l).Only Call.ofCounter := by
  have hpass : ∀ i l, (payloadPass i l).Only Call.ofCounter := by
    intro i l
    unfold payloadPass
    exact .bind (perform_only trivial) fun _ => Prog.calls_pure _
  unfold readPayload
  refine .bind (perform_only rfl) fun _ => ?_
  refine .bind (perform_only trivial) fun _ => ?_
  refine .bind (.forRange hpass 62 l) fun l => ?_
  refine .bind (perform_only trivial) fun _ => ?_
  exact .bind (perform_only rfl) fun _ => Prog.calls_pure _

/-- The calls of a pass of the sample loop. -/
lemma samplePass_calls (s : ℕ) (l : HistLocals) : (samplePass s l).Only Call.ofCounter := by
  have hsleep : ∀ ms, (kMsleep ms).Only Call.ofCounter := fun ms => perform_only trivial
  unfold samplePass
  refine .bind (opcSendCommand_calls _) fun r => .bind (hsleep 12) fun _ => .ite ?_ ?_
  · exact .bind (readPayload_calls l) fun l => .bind (hsleep 5000) fun _ => Prog.calls_pure _
  · exact .bind (Prog.calls_pure _) fun l => .bind (hsleep 5000) fun _ => Prog.calls_pure _

/-- The calls of `opc_read_histogram`. -/
lemma opcReadHistogram_calls (n : UInt8) : (opcReadHistogram n).Only Call.ofCounter := by
  unfold opcReadHistogram
  refine .bind (perform_only trivial) fun l => ?_
  exact .bind (.forRange samplePass_calls _ _) fun l => Prog.calls_pure _

/-- The calls of a countdown. -/
lemma countdown_calls : countdown.Only Call.ofHandshake :=
  .forRange (fun _ _ => perform_only ⟨trivial, rfl⟩) 3 ()

/-- The calls of `opc_start`. -/
lemma opcStart_calls (fuel : ℕ) : (opcStart fuel).Within Call.ofHandshake := by
  have hsleep : ∀ ms, (kMsleep ms).Within Call.ofHandshake := fun ms =>
    (Prog.calls_perform _).2 ⟨trivial, rfl⟩
  have hpin : ∀ p v, (gpioPinSet p v).Within Call.ofHandshake := fun p v =>
    (Prog.calls_perform _).2 ⟨trivial, rfl⟩
  have hcmd : ∀ cmd, cmd ≠ 0xC0 → (opcSendCommand cmd).Within Call.ofHandshake := fun cmd hne =>
    (opcSendCommand_handshake hne).mono fun _ h => h
  have hcountdown : countdown.Within Call.ofHandshake := countdown_calls.mono fun _ h => h
  have hend : ∀ c, (startPassEnd c).Within Call.ofHandshake := fun c =>
    .ite (.bind (hpin _ _) fun _ => .bind (hpin _ _) fun _ => .bind (hpin _ _) fun _ =>
      .bind (hpin _ _) fun _ => .bind (hsleep _) fun _ => .bind (hpin _ _) fun _ =>
      Prog.calls_pure _) (Prog.calls_pure _)
  have hpass : ∀ c, (opcStartPass c).Within Call.ofHandshake := by
    intro c
    unfold opcStartPass
    refine .bind (hcmd _ (by decide)) fun r1 => .bind (hsleep _) fun _ => ?_
    refine .bind (hcmd _ (by decide)) fun r2 => .ite ?_ ?_
    · exact Prog.calls_pure _
    · exact .bind (hsleep _) fun _ => .ite (.bind (hsleep _) fun _ => hend c) (hend c)
  unfold opcStart
  refine .bind hcountdown fun _ => .bind (hpin _ _) fun _ => .bind hcountdown fun _ => ?_
  exact .bind (Prog.Within.loop hpass _ _) fun _ => hsleep _

/-- What `opc_stop` does: it sleeps, sets pins and sends two commands. -/
lemma opcStop_within (hsleep : ∀ ms, (kMsleep ms).Within ok)
    (hpin : ∀ p v, (gpioPinSet p v).Within ok)
    (hcmd : ∀ cmd, cmd = 0x03 ∨ cmd = 0x01 → (opcSendCommand cmd).Within ok) (fuel : ℕ) :
    (opcStop fuel).Within ok := by
  have hcountdown : countdown.Within ok := .forRange (fun _ _ => hsleep _) 3 ()
  have hend : ∀ c, (stopPassEnd c).Within ok := fun c =>
    .ite (Prog.calls_pure _) (Prog.calls_pure _)
  have hpass : ∀ c, (opcStopPass c).Within ok := by
    intro c
    unfold opcStopPass
    refine .bind (hcmd _ (.inl rfl)) fun r1 => .bind (hsleep _) fun _ => ?_
    refine .bind (hcmd _ (.inr rfl)) fun r2 => .ite ?_ ?_
    · exact Prog.calls_pure _
    · exact .bind (hsleep _) fun _ => .ite (.bind (hsleep _) fun _ => hend c) (hend c)
  unfold opcStop
  refine .bind hcountdown fun _ => .bind (hpin _ _) fun _ => .bind hcountdown fun _ => ?_
  refine .bind (Prog.Within.loop hpass _ _) fun _ => .bind (hsleep _) fun _ => ?_
  exact .bind (hpin _ _) fun _ => .bind (hpin _ _) fun _ => .bind (hpin _ _) fun _ =>
    .bind (hpin _ _) fun _ => hpin _ _

/-- The calls of `opc_stop`. -/
lemma opcStop_calls (fuel : ℕ) : (opcStop fuel).Within Call.ofHandshake := by
  refine opcStop_within (fun _ => perform_within ⟨trivial, rfl⟩)
    (fun _ _ => perform_within ⟨trivial, rfl⟩) (fun cmd hcmd => ?_) fuel
  have hne : cmd ≠ 0xC0 := by
    rcases hcmd with rfl | rfl <;> decide
  exact (opcSendCommand_handshake hne).mono fun _ h => h

/-- The calls of `opc_init`. -/
lemma opcInit_calls : opcInit.Only fun c => c = .deviceGetBinding "OPC" := by
  unfold opcInit
  exact .bind (perform_only rfl) fun _ => Prog.calls_pure _

/-- The calls of `opc_release`. -/
lemma opcRelease_calls : opcRelease.Only Call.ofHandshake := by
  have hpin : ∀ p v, (gpioPinSet p v).Only Call.ofHandshake := fun p v =>
    perform_only ⟨trivial, rfl⟩
  have hconf : ∀ p v, (gpioPinConfigure p v).Only Call.ofHandshake := fun p v =>
    perform_only ⟨trivial, rfl⟩
  unfold opcRelease
  refine .bind (perform_only ⟨trivial, rfl⟩) fun _ => ?_
  refine .bind (hconf _ _) fun _ => .bind (hconf _ _) fun _ => .bind (hconf _ _) fun _ => ?_
  refine .bind (hconf _ _) fun _ => .bind (hpin _ _) fun _ => .bind (hpin _ _) fun _ => ?_
  exact hpin _ _

/-- The calls of a measurement cycle. -/
lemma opcCycle_calls (fuel : ℕ) (n : UInt8) : (opcCycle fuel n).Within Call.ofPower := by
  unfold opcCycle
  refine .bind (opcInit_calls.mono ?_) fun _ => ?_
  · rintro c rfl
    trivial
  refine .bind ((opcStart_calls fuel).mono (fun _ h => h.1) fun h => h) fun _ => ?_
  refine .bind ((opcReadHistogram_calls n).mono Call.ofCounter.ofPower) fun data => ?_
  refine .bind ((opcStop_calls fuel).mono (fun _ h => h.1) fun h => h) fun _ => ?_
  exact .bind (opcRelease_calls.mono fun _ h => h.1) fun _ => Prog.calls_pure _

/-! ## The other drivers -/

/-- The calls of the gas sensors. -/
def Call.ofGas : Call → Prop
  | .uninit _ => True
  | .kMsleep _ => True
  | .i2cWrite _ _ => True
  | .i2cRead _ => True
  | _ => False

/-- The calls of `gas_sensors_read`. -/
lemma gasSensorsRead_calls (result : Fin 8 → UInt16) (samples : ℕ) :
    (gasSensorsRead result samples).Only Call.ofGas := by
  have hsleep : ∀ ms, (kMsleep ms).Only Call.ofGas := fun ms => perform_only trivial
  have hwrite : ∀ buf addr, (i2cWrite buf addr).Only Call.ofGas := fun buf addr =>
    perform_only trivial
  have hchannel : ∀ addr off i l, (channelPass addr off i l).Only Call.ofGas := by
    intro addr off i l
    unfold channelPass
    refine .bind (hwrite _ _) fun _ => .bind (hsleep _) fun _ => .bind (hwrite _ _) fun _ => ?_
    refine .bind (hsleep _) fun _ => .bind (perform_only trivial) fun received => ?_
    exact .bind (hsleep _) fun _ => Prog.calls_pure _
  have hpass : ∀ s l, (gasSamplePass s l).Only Call.ofGas := by
    intro s l
    unfold gasSamplePass
    refine .bind (.forRange (hchannel 0x48 0) 4 l) fun l => .bind (hsleep _) fun _ => ?_
    exact .bind (.forRange (hchannel 0x49 4) 4 l) fun l => .bind (hsleep _) fun _ =>
      Prog.calls_pure _
  unfold gasSensorsRead
  refine .bind (perform_only trivial) fun readbuf => ?_
  exact .bind (.forRange hpass samples _) fun l => Prog.calls_pure _

/-- The calls of the ambient sensor. -/
def Call.ofAmbient : Call → Prop
  | .uninit _ => True
  | .kMsleep _ => True
  | .sensorSampleFetch => True
  | .sensorChannelGet _ => True
  | _ => False

/-- What `ambient_sensors_read` does: it sleeps, and calls the driver of its sensor. -/
lemma ambientSensorsRead_only (hsum : ok (.uninit .sum)) (hsleep : ∀ ms, ok (.kMsleep ms))
    (hfetch : ok .sensorSampleFetch) (hget : ∀ chan, ok (.sensorChannelGet chan)) (samples : UInt8)
    (a : Fin 3 → Flt) : (ambientSensorsRead samples a).Only ok := by
  have hget : ∀ chan, (sensorChannelGet chan).Only ok := fun chan => perform_only (hget chan)
  have hgets : channelGets.Only ok := by
    unfold channelGets
    refine .bind (hget _) fun press => ?_
    cases press with
    | none => exact Prog.calls_pure _
    | some press =>
      refine .bind (hget _) fun temp => ?_
      cases temp with
      | none => exact Prog.calls_pure _
      | some temp =>
        refine .bind (hget _) fun hum => ?_
        cases hum with
        | none => exact Prog.calls_pure _
        | some hum => exact Prog.calls_pure _
  have hfetch : sensorSampleFetch.Only ok := by
    unfold sensorSampleFetch
    exact .bind (perform_only hfetch) fun _ => Prog.calls_pure _
  have hsample : ambientSample.Only ok := by
    unfold ambientSample
    refine .bind (perform_only (hsleep 20)) fun _ => .bind hfetch fun fetched => ?_
    exact .bind (perform_only (hsleep 20)) fun _ => .ite hgets (Prog.calls_pure _)
  unfold ambientSensorsRead
  refine .bind (perform_only hsum) fun sum => ?_
  refine .bind (.forUntil (fun _ sum => ?_) _ _) fun r => ?_
  · unfold ambientPass
    exact .bind hsample fun v => Prog.calls_pure _
  · cases r with
    | none => exact Prog.calls_pure _
    | some sum => exact Prog.calls_pure _

/-- The calls of `ambient_sensors_read`. -/
lemma ambientSensorsRead_calls (samples : UInt8) (a : Fin 3 → Flt) :
    (ambientSensorsRead samples a).Only Call.ofAmbient :=
  ambientSensorsRead_only trivial (fun _ => trivial) trivial (fun _ => trivial) samples a

/-- The calls of the file system. -/
def Call.ofStorage : Call → Prop
  | .kMsleep _ => True
  | .fsOpen _ => True
  | .fsWrite _ _ => True
  | .fsClose _ => True
  | _ => False

/-- The calls of `save_data`. -/
lemma saveData_calls (data : CStr 200) (type : String) :
    (saveData data type).Only Call.ofStorage := by
  have hclose : ∀ fname, (fsClose fname).Only Call.ofStorage := fun fname => perform_only trivial
  unfold saveData
  refine .bind (perform_only trivial) fun _ => .bind (perform_only trivial) fun rc => ?_
  exact .ite (.bind (perform_only trivial) fun _ => hclose _) (hclose _)

/-! ## The radio -/

/-- The calls around a transmission: joining the network, waiting and the LEDs. -/
def Call.ofLink : Call → Prop
  | .gpioPinSet _ _ => True
  | .kMsleep _ => True
  | .deviceGetBinding _ => True
  | .lorawanStart => True
  | .lorawanJoin => True
  | .lorawanSetDatarate => True
  | .lorawanWait => True
  | _ => False

/-- The calls of the sender. -/
def Call.ofRadio : Call → Prop
  | .load _ => True
  | .lorawanSubmit _ _ => True
  | c => c.ofLink

/-- The calls after a transmission: waiting and the green LED. -/
def Call.ofBlink : Call → Prop
  | .gpioPinSet pin _ => pin = ledGreen
  | .kMsleep _ => True
  | _ => False

/-- The calls of the send loop. -/
def Call.ofSend : Call → Prop
  | .load _ => True
  | .lorawanSubmit _ _ => True
  | .lorawanWait => True
  | c => c.ofBlink

/-- What happens around a transmission is part of the sender. -/
lemma Call.ofLink.ofRadio (c : Call) (hc : c.ofLink) : c.ofRadio := by
  cases c <;> trivial

/-- What happens after a transmission happens around it. -/
lemma Call.ofBlink.ofLink (c : Call) (hc : c.ofBlink) : c.ofLink := by
  cases c <;> trivial

/-- What happens after a transmission is part of the send loop. -/
lemma Call.ofBlink.ofSend (c : Call) (hc : c.ofBlink) : c.ofSend := by
  cases c <;> first | exact hc | exact hc.elim

/-- The send loop is part of the sender. -/
lemma Call.ofSend.ofRadio (c : Call) (hc : c.ofSend) : c.ofRadio := by
  cases c <;> trivial

/-- The calls of a pass of the join loop. -/
lemma joinPass_calls (ret : ℤ) : (joinPass ret).Only Call.ofLink := by
  have hpin : ∀ p v, (gpioPinSet p v).Only Call.ofLink := fun p v => perform_only trivial
  have hsleep : ∀ ms, (kMsleep ms).Only Call.ofLink := fun ms => perform_only trivial
  unfold joinPass
  refine .bind (perform_only trivial) fun ret => .ite ?_ ?_
  · exact .bind (hpin _ _) fun _ => .bind (hsleep _) fun _ => .bind (hpin _ _) fun _ =>
      .bind (hsleep _) fun _ => Prog.calls_pure _
  · exact .bind (perform_only trivial) fun ret => .bind (hpin _ _) fun _ =>
      .ite (Prog.calls_pure _) (Prog.calls_pure _)

/-- The calls after a transmission. -/
lemma afterSend_calls (ret : ℤ) (ok : ℤ → Bool) : (afterSend ret ok).Only Call.ofBlink := by
  have hsleep : ∀ ms, (kMsleep ms).Only Call.ofBlink := fun ms => perform_only trivial
  have hgreen : ∀ v, (gpioPinSet ledGreen v).Only Call.ofBlink := fun v => perform_only rfl
  have hblink : blink.Only Call.ofBlink := by
    refine .forRange (fun _ _ => ?_) 20 ()
    exact .bind (hgreen _) fun _ => .bind (hsleep _) fun _ => .bind (hgreen _) fun _ => hsleep _
  have hend : ((if ok ret then do
      blink
      kMsleep 10000
    else kMsleep 10000) : App Unit).Only Call.ofBlink :=
    .ite (.bind hblink fun _ => hsleep _) (hsleep _)
  have hlate := Prog.Calls.ite (c := ret < 0) (.bind (hsleep 2000) fun _ => hend) hend
  unfold afterSend
  exact .ite (.bind (hsleep 2000) fun _ => hlate) hlate

/-- The calls of a transmission. -/
lemma sendMessage_calls (port : UInt8) (m : Mailbox) (ok : ℤ → Bool) :
    (sendMessage port m ok).Only Call.ofSend := by
  unfold sendMessage lorawanSend
  refine .bind (perform_only trivial) fun msg => ?_
  refine .bind (.bind (perform_only trivial) fun _ => perform_only trivial) fun ret => ?_
  exact (afterSend_calls ret ok).mono Call.ofBlink.ofSend

/-- The calls of the send loop. -/
lemma sendLoop_calls (passes : ℕ) : (Prog.forever sendPass passes ()).Only Call.ofSend :=
  .forRange (fun _ _ => .bind (sendMessage_calls 1 .gasMsg _) fun _ =>
    sendMessage_calls 2 .opcMsg _) passes ()

/-- The calls of the sender. -/
lemma sendData_calls (joins passes : ℕ) : (sendData joins passes).Within Call.ofRadio := by
  unfold sendData
  refine .bind ((Prog.calls_perform _).2 trivial) fun found => .ite ?_ (Prog.calls_pure _)
  refine .bind ((Prog.calls_perform _).2 trivial) fun ret => .ite ?_ (Prog.calls_pure _)
  refine .bind (Prog.Within.loop (fun ret => ?_) joins (-1)) fun _ => ?_
  · exact (joinPass_calls ret).mono Call.ofLink.ofRadio
  · exact (sendLoop_calls passes).mono Call.ofSend.ofRadio

/-! ## The threads -/

/-- Formatting a record and copying it to the sender. -/
def Call.ofRecord : Call → Prop
  | .snprintfcb _ => True
  | .strcpy _ _ => True
  | _ => False

/-- The calls of the gas thread. -/
def Call.ofGasThread (c : Call) : Prop := c.ofGas ∨ c.ofAmbient ∨ c.ofStorage ∨ c.ofRecord

/-- The calls of the particle thread. -/
def Call.ofParticleThread (c : Call) : Prop := c.ofPower ∨ c.ofAmbient ∨ c.ofStorage ∨ c.ofRecord

/-- Formatting a record. -/
lemma snprintfcb_calls (t : Text) : (snprintfcb t).Only Call.ofRecord := by
  unfold snprintfcb
  exact .bind (perform_only trivial) fun _ => Prog.calls_pure _

/-- Copying a record. -/
lemma strcpy_calls (dst : Mailbox) (src : CStr 200) : (strcpy dst src).Only Call.ofRecord :=
  perform_only trivial

/-- The calls of a pass of the gas thread. -/
lemma readGasPass_calls (l : (Fin 8 → UInt16) × (Fin 3 → Flt)) :
    (readGasPass l).Only Call.ofGasThread := by
  unfold readGasPass
  refine .bind ((gasSensorsRead_calls l.1 5).mono fun _ => Or.inl) fun gs => ?_
  refine .bind ((ambientSensorsRead_calls 1 l.2).mono fun _ h => .inr (.inl h)) fun a => ?_
  refine .bind ((snprintfcb_calls _).mono fun _ h => .inr (.inr (.inr h))) fun textData => ?_
  refine .bind ((saveData_calls textData "gas").mono fun _ h => .inr (.inr (.inl h))) fun _ => ?_
  refine .bind ((strcpy_calls _ _).mono fun _ h => .inr (.inr (.inr h))) fun _ => ?_
  exact .bind (perform_only (.inl trivial)) fun _ => Prog.calls_pure _

/-- The calls of the gas thread. -/
lemma readGas_calls (passes : ℕ) :
    (readGasAndAmbientSensors passes).Only Call.ofGasThread := by
  unfold readGasAndAmbientSensors
  refine .bind (perform_only (.inl trivial)) fun _ => ?_
  refine .bind (perform_only (.inl trivial)) fun gs => ?_
  exact .forRange (fun _ l => readGasPass_calls l) passes _

/-- The calls of a pass of the particle thread. -/
lemma countParticlesPass_calls (fuel : ℕ) (a : Fin 3 → Flt) :
    (countParticlesPass fuel a).Within Call.ofParticleThread := by
  have hpin : ∀ v, (gpioPinSet ledRed v).Within Call.ofParticleThread := fun v =>
    (Prog.calls_perform _).2 (.inl trivial)
  unfold countParticlesPass
  refine .bind (hpin _) fun _ => ?_
  refine .bind ((opcCycle_calls fuel 7).mono (fun _ => Or.inl) id) fun data => ?_
  refine .bind (hpin _) fun _ => ?_
  refine .bind ((ambientSensorsRead_calls 1 a).mono fun _ h => .inr (.inl h)) fun a => ?_
  refine .bind ((snprintfcb_calls _).mono fun _ h => .inr (.inr (.inr h))) fun textData => ?_
  refine .bind ((strcpy_calls _ _).mono fun _ h => .inr (.inr (.inr h))) fun _ => ?_
  refine .bind ((saveData_calls textData "opc").mono fun _ h => .inr (.inr (.inl h))) fun _ => ?_
  exact .bind ((Prog.calls_perform _).2 (.inl trivial)) fun _ => Prog.calls_pure _

/-- The calls of the particle thread. -/
lemma countParticles_calls (fuel passes : ℕ) :
    (countParticles fuel passes).Within Call.ofParticleThread :=
  .forRange (fun _ a => countParticlesPass_calls fuel a) passes _

end AirLab
