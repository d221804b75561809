import AirLab.Effects.Clock
import AirLab.Effects.Script
import AirLab.Interleaving

set_option relaxedAutoImplicit false
set_option autoImplicit false

/-!
# The traffic on the I2C bus

`gas_sensors_read` looks at no result of the bus. Hence what the two converters see does not
depend on what they answer, nor on the other threads: it is the same script again and again. A
conversion is read back only after the configuration that started it has had its time.

## Main definitions

* `AirLab.BusOp` — the transfers on the bus.
* `AirLab.sampleScript` — the transfers of one sample.
* `AirLab.Prepared`, `AirLab.Awaited` — a conversion is read once its input has been selected and
  its result pointed to, and both have had their time.

## Main results

* `AirLab.busTraffic_script` — in every run the bus sees a beginning of the script.
* `AirLab.conversions_awaited` — every conversion has its time.
-/

namespace AirLab

open CLang Effects

/-! ## The script -/

/-- A transfer on the I2C bus. -/
inductive BusOp
  | write (buf : List UInt8) (addr : UInt8)
  | read (addr : UInt8)
  deriving DecidableEq

/-- The transfer a call makes. -/
def Call.busOp? : Call → Option BusOp
  | .i2cWrite buf addr => some (.write buf addr)
  | .i2cRead addr => some (.read addr)
  | _ => none

/-- The transfers of one channel: select its input, point to the result, read it. -/
def channelScript (addr : UInt8) (i : ℕ) : List BusOp :=
  [.write [0x01, muxByte i, 0x83] addr, .write [0x00] addr, .read addr]

/-- The transfers of one sample: the four inputs of each converter. -/
def sampleScript : List BusOp :=
  (List.range 4).flatMap (channelScript 0x48) ++ (List.range 4).flatMap (channelScript 0x49)

/-- Reading the particle counter leaves the bus alone. -/
lemma Call.ofPower.noBus (c : Call) (hc : c.ofPower) : c.busOp? = none := by
  cases c <;> first | exact hc.elim | rfl

/-- So does the ambient sensor. -/
lemma Call.ofAmbient.noBus (c : Call) (hc : c.ofAmbient) : c.busOp? = none := by
  cases c <;> first | exact hc.elim | rfl

/-- So does the file system. -/
lemma Call.ofStorage.noBus (c : Call) (hc : c.ofStorage) : c.busOp? = none := by
  cases c <;> first | exact hc.elim | rfl

/-- So do records. -/
lemma Call.ofRecord.noBus (c : Call) (hc : c.ofRecord) : c.busOp? = none := by
  cases c <;> first | exact hc.elim | rfl

/-- So does the sender. -/
lemma Call.ofRadio.noBus (c : Call) (hc : c.ofRadio) : c.busOp? = none := by
  cases c <;> first | exact hc.elim | rfl

/-- The particle thread leaves the bus alone. -/
lemma Call.ofParticleThread.noBus (c : Call) (hc : c.ofParticleThread) : c.busOp? = none := by
  rcases hc with h | h | h | h
  · exact h.noBus
  · exact h.noBus
  · exact h.noBus
  · exact h.noBus

/-- A pass of a channel loop makes the transfers of its channel. -/
lemma channelPass_plays (addr : UInt8) (off i : ℕ) (l : GasLocals) :
    (channelPass addr off i l).Plays Call.busOp? (channelScript addr i) := by
  have hsleep : ∀ ms, (kMsleep ms).Within fun c => c.busOp? = none := fun ms => perform_within rfl
  unfold channelPass
  refine Prog.Plays.bind (t := [_]) (Prog.plays_perform _) fun _ => .after (hsleep _) fun _ => ?_
  refine Prog.Plays.bind (t := [_]) (Prog.plays_perform _) fun _ => .after (hsleep _) fun _ => ?_
  refine Prog.Plays.bind (t := [_]) (u := []) (Prog.plays_perform _) fun _ => ?_
  exact .after (hsleep _) fun _ => Prog.plays_pure _

/-- A pass of the sample loop makes the transfers of a sample. -/
lemma gasSamplePass_plays (s : ℕ) (l : GasLocals) :
    (gasSamplePass s l).Plays Call.busOp? sampleScript := by
  have hsleep : ∀ ms, (kMsleep ms).Within fun c => c.busOp? = none := fun ms => perform_within rfl
  unfold gasSamplePass
  refine (Prog.Plays.forRange (channelPass_plays 0x48 0) 4 l).bind fun l => ?_
  refine .after (hsleep _) fun _ => ?_
  rw [← List.append_nil ((List.range 4).flatMap (channelScript 0x49))]
  refine (Prog.Plays.forRange (channelPass_plays 0x49 4) 4 l).bind fun l => ?_
  exact .after (hsleep _) fun _ => Prog.plays_pure _

/-- `gas_sensors_read` makes the transfers of its samples. -/
lemma gasSensorsRead_plays (result : Fin 8 → UInt16) (samples : ℕ) :
    (gasSensorsRead result samples).Plays Call.busOp?
      (List.replicate samples sampleScript).flatten := by
  have huninit : (uninit .readbuf).Within fun c => c.busOp? = none := perform_within rfl
  unfold gasSensorsRead
  refine .after huninit fun readbuf => ?_
  rw [← List.append_nil (List.replicate samples sampleScript).flatten]
  exact (Prog.Plays.forever (gasSamplePass_plays 0) samples _).bind fun l => Prog.plays_pure _

/-- A pass of the gas thread makes the transfers of five samples. -/
lemma readGasPass_plays (l : (Fin 8 → UInt16) × (Fin 3 → Flt)) :
    (readGasPass l).Plays Call.busOp? (List.replicate 5 sampleScript).flatten := by
  unfold readGasPass
  rw [← List.append_nil (List.replicate 5 sampleScript).flatten]
  refine (gasSensorsRead_plays l.1 5).bind fun gs => ?_
  refine .after ((ambientSensorsRead_calls 1 l.2).mono Call.ofAmbient.noBus) fun a => ?_
  refine .after ((snprintfcb_calls _).mono Call.ofRecord.noBus) fun textData => ?_
  refine .after ((saveData_calls textData "gas").mono Call.ofStorage.noBus) fun _ => ?_
  refine .after ((strcpy_calls _ _).mono Call.ofRecord.noBus) fun _ => ?_
  have hsleep : (kMsleep 30000).Within fun c => c.busOp? = none := perform_within rfl
  exact .after hsleep fun _ => Prog.plays_pure _

/-- The gas thread makes the transfers of five samples in every pass. -/
lemma readGas_plays (passes : ℕ) : (readGasAndAmbientSensors passes).Plays Call.busOp?
    (List.replicate passes (List.replicate 5 sampleScript).flatten).flatten := by
  have hsleep : (kMsleep 10000).Within fun c => c.busOp? = none := perform_within rfl
  have huninit : (uninit .gs).Within fun c => c.busOp? = none := perform_within rfl
  unfold readGasAndAmbientSensors
  refine .after hsleep fun _ => .after huninit fun gs => ?_
  exact Prog.Plays.forever readGasPass_plays passes _

/-- **The traffic on the bus.** In every run of the application, whatever the converters answer,
whichever transfers fail and however the threads interleave, the bus sees the transfers of five
samples for each pass of the gas thread, in their fixed order, or a beginning of them; no other
thread makes a transfer. -/
theorem busTraffic_script (env : AppEnv) (fuel joins : ℕ) (passes : ThreadId → ℕ)
    (schedule : List ThreadId) :
    trace Call.busOp? ((appHistory env fuel joins passes schedule).map Prod.snd) <+:
        (List.replicate (passes .gas) (List.replicate 5 sampleScript).flatten).flatten ∧
      ∀ i ≠ .gas, trace Call.busOp? (own i (appHistory env fuel joins passes schedule)) = [] := by
  refine System.trace_joint (i := .gas) ?_ ?_ schedule
  · show Prog.Follows Call.busOp? (readGasAndAmbientSensors (passes .gas) >>= fun _ => pure ()) _
    rw [← List.append_nil (List.flatten _)]
    exact ((readGas_plays _).bind fun _ => Prog.plays_pure ()).follows
  · intro j hj
    cases j with
    | gas => exact absurd rfl hj
    | particle =>
      refine .after ((countParticles_calls fuel _).mono Call.ofParticleThread.noBus id) fun _ => ?_
      exact Prog.plays_pure ()
    | sender => exact Prog.plays_of_calls ((sendData_calls joins _).mono Call.ofRadio.noBus id)

/-! ## The time of a conversion -/

/-- The transfers so far, the latest first. -/
def busOps (h : History) : List BusOp := h.filterMap fun e => e.call.busOp?

/-- A write on the bus. -/
def Call.isBusWrite : Call → Bool
  | .i2cWrite _ _ => true
  | _ => false

/-- The configuration of a converter: a write of three bytes. -/
def Call.isConfiguration : Call → Bool
  | .i2cWrite buf _ => buf.length = 3
  | _ => false

/-- **A conversion is prepared**: the last two transfers selected an input of the converter and
pointed to its result, and the thread slept 10 ms after each of them. -/
structure Prepared (addr : UInt8) (past : History) : Prop where
  script : ∃ i < 4, ∃ earlier, busOps past =
    .write [0x00] addr :: .write [0x01, muxByte i, 0x83] addr :: earlier
  converted : LongSince Call.slept (fun e _ => e.call.isConfiguration) 20 past
  pointed : LongSince Call.slept (fun e _ => e.call.isBusWrite) 10 past

/-- A conversion is read once it has been prepared. -/
def Awaited (e : BoardEvent) (past : History) : Prop :=
  ∀ addr, e.call = .i2cRead addr → Prepared addr past

/-- A call that reads no conversion awaits none. -/
lemma awaited_cons {e : BoardEvent} {h : History} (he : ∀ addr, e.call ≠ .i2cRead addr)
    (hh : Always Awaited h) : Always Awaited (e :: h) :=
  ⟨fun addr hread => absurd hread (he addr), hh⟩

/-- A call that leaves the bus alone reads no conversion. -/
lemma Call.not_i2cRead {c : Call} (hc : c.busOp? = none) (addr : UInt8) : c ≠ .i2cRead addr := by
  rintro rfl
  cases hc

/-- A program that leaves the bus alone awaits no conversion. -/
lemma awaited_of_calls {α : Type} {env : Env Call Resp} {p : App α}
    (hp : p.Within fun c => c.busOp? = none) :
    Prog.Triple env (Always Awaited) p (fun _ => Always Awaited) (Always Awaited) :=
  Prog.Triple.of_calls (fun _ _ he => awaited_cons (Call.not_i2cRead he)) (fun _ _ hh => hh) hp

/-- The transfers of a channel before its read, with the sleeps between them. -/
lemma prepared_channel {addr : UInt8} {i : ℕ} (hi : i < 4) (ok₁ ok₂ : Bool) (h : History) :
    Prepared addr (⟨.kMsleep 10, ()⟩ :: ⟨.i2cWrite [0x00] addr, ok₂⟩ :: ⟨.kMsleep 10, ()⟩ ::
      ⟨.i2cWrite [0x01, muxByte i, 0x83] addr, ok₁⟩ :: h) := by
  refine ⟨⟨i, hi, busOps h, rfl⟩, ?_, ?_⟩
  · -- the pointer write between the two sleeps is no configuration
    refine LongSince.mono ((((longSince_zero _).quiet ?_).quiet ?_).quiet ?_) (by simp [Call.slept])
    all_goals rfl
  · exact LongSince.mono ((longSince_zero _).quiet rfl) (by simp [Call.slept])

/-- A pass of a channel loop awaits its conversion. -/
lemma channelPass_awaited {env : Env Call Resp} (addr : UInt8) (off : ℕ) {i : ℕ} (hi : i < 4)
    (l : GasLocals) :
    Prog.Triple env (Always Awaited) (channelPass addr off i l) (fun _ => Always Awaited)
      (Always Awaited) := by
  intro h hh
  simp only [channelPass, i2cWrite, i2cRead, Prog.wp_bind, Prog.wp_perform, wp_kMsleep,
    Prog.wp_pure]
  refine awaited_cons (by simp) ⟨fun addr' hread => ?_, ?_⟩
  · obtain rfl : addr = addr' := by simpa using hread
    exact prepared_channel hi _ _ h
  · refine awaited_cons (by simp) (awaited_cons (by simp) ?_)
    exact awaited_cons (by simp) (awaited_cons (by simp) hh)

/-- `gas_sensors_read` awaits its conversions. -/
lemma gasSensorsRead_awaited {env : Env Call Resp} (result : Fin 8 → UInt16) (samples : ℕ) :
    Prog.Triple env (Always Awaited) (gasSensorsRead result samples) (fun _ => Always Awaited)
      (Always Awaited) := by
  have hsleep : ∀ ms, (kMsleep ms).Within fun c => c.busOp? = none := fun ms => perform_within rfl
  have huninit : (uninit .readbuf).Within fun c => c.busOp? = none := perform_within rfl
  have hchannels : ∀ addr off l, Prog.Triple env (Always Awaited)
      (Prog.forRange (channelPass addr off) 4 l) (fun _ => Always Awaited) (Always Awaited) :=
    fun addr off l => Prog.Triple.forRange (I := fun _ _ => Always Awaited) 4
      (fun _ hi l => channelPass_awaited addr off hi l) l
  have hpass : ∀ s l, Prog.Triple env (Always Awaited) (gasSamplePass s l)
      (fun _ => Always Awaited) (Always Awaited) := by
    intro s l
    unfold gasSamplePass
    refine (hchannels 0x48 0 l).bind fun l => (awaited_of_calls (hsleep _)).bind fun _ => ?_
    refine (hchannels 0x49 4 l).bind fun l => (awaited_of_calls (hsleep _)).bind fun _ => ?_
    exact Prog.Triple.pure fun _ hh => hh
  unfold gasSensorsRead
  refine (awaited_of_calls huninit).bind fun readbuf => ?_
  refine Prog.Triple.bind (Prog.Triple.forRange (I := fun _ _ => Always Awaited) samples
    (fun s _ l => hpass s l) _) fun l => ?_
  exact Prog.Triple.pure fun _ hh => hh

/-- The gas thread awaits its conversions. -/
lemma readGas_awaited {env : Env Call Resp} (passes : ℕ) :
    Prog.Triple env (Always Awaited) (readGasAndAmbientSensors passes) (fun _ => Always Awaited)
      (Always Awaited) := by
  have hsleep : ∀ ms, (kMsleep ms).Within fun c => c.busOp? = none := fun ms => perform_within rfl
  have huninit : (uninit .gs).Within fun c => c.busOp? = none := perform_within rfl
  have hpass : ∀ l, Prog.Triple env (Always Awaited) (readGasPass l) (fun _ => Always Awaited)
      (Always Awaited) := by
    intro l
    unfold readGasPass
    refine (gasSensorsRead_awaited l.1 5).bind fun gs => ?_
    refine (awaited_of_calls ((ambientSensorsRead_calls 1 l.2).mono
      Call.ofAmbient.noBus)).bind fun a => ?_
    refine (awaited_of_calls ((snprintfcb_calls _).mono
      Call.ofRecord.noBus)).bind fun textData => ?_
    refine (awaited_of_calls ((saveData_calls textData "gas").mono
      Call.ofStorage.noBus)).bind fun _ => ?_
    refine (awaited_of_calls ((strcpy_calls _ _).mono Call.ofRecord.noBus)).bind fun _ => ?_
    exact (awaited_of_calls (hsleep _)).bind fun _ => Prog.Triple.pure fun _ hh => hh
  unfold readGasAndAmbientSensors
  refine (awaited_of_calls (hsleep _)).bind fun _ => (awaited_of_calls huninit).bind fun gs => ?_
  exact Prog.Triple.forRange (I := fun _ _ => Always Awaited) passes (fun _ _ l => hpass l) _

/-- What each thread does on the bus. -/
def BusDiscipline : ThreadId → BoardEvent → History → Prop
  | .gas => Awaited
  | _ => fun e _ => e.call.busOp? = none

/-- Every thread on its own keeps its discipline. -/
lemma application_awaited (fuel joins : ℕ) (passes : ThreadId → ℕ) (i : ThreadId)
    (env : Env Call Resp) :
    Always (BusDiscipline i) ((application fuel joins passes i).run env []).2 := by
  have hsilent : ∀ {α : Type} {p : App α}, (p.Within fun c => c.busOp? = none) →
      Prog.Triple env (Always fun e _ => e.call.busOp? = none) p
        (fun _ => Always fun e _ => e.call.busOp? = none)
        (Always fun e _ => e.call.busOp? = none) :=
    Prog.Triple.of_calls (fun _ _ he hh => ⟨he, hh⟩) fun _ _ hh => hh
  apply Prog.wp.final
  cases i with
  | gas => exact ((readGas_awaited (passes .gas)).bind fun _ =>
      Prog.Triple.pure (a := ()) fun _ hh => hh) [] trivial
  | particle =>
    have hcalls := (countParticles_calls fuel (passes .particle)).mono
      Call.ofParticleThread.noBus id
    exact ((hsilent hcalls).bind fun _ => Prog.Triple.pure (a := ()) fun _ hh => hh) [] trivial
  | sender => exact hsilent ((sendData_calls joins _).mono Call.ofRadio.noBus id) [] trivial

/-- In a run in which only the gas thread uses the bus, the transfers are its own. -/
lemma busOps_own {H : AppHistory}
    (hown : Always (fun e past => BusDiscipline e.1 e.2 (own e.1 past)) H) :
    busOps (H.map Prod.snd) = busOps (own .gas H) := by
  induction H with
  | nil => rfl
  | cons e H ih =>
    obtain ⟨i, e⟩ := e
    have hrest := ih hown.2
    unfold busOps at hrest ⊢
    rw [List.map_cons, List.filterMap_cons, hrest]
    have hother : i ≠ .gas → e.call.busOp? = none := by
      intro hi
      have hnow := hown.1
      cases i with
      | gas => exact absurd rfl hi
      | particle => exact hnow
      | sender => exact hnow
    by_cases hi : i = .gas
    · subst hi
      rw [own_cons_self, List.filterMap_cons]
    · rw [own_cons_of_ne hi, hother hi]

/-- **Every conversion has its time.** In every run of the application each read of a converter
comes from the gas thread. The last two transfers on the bus, of whatever thread, selected an input
of this converter and then pointed to its result, and the thread slept at least 10 ms after the
pointer write, and 20 ms after the input was selected. -/
theorem conversions_awaited (env : AppEnv) (fuel joins : ℕ) (passes : ThreadId → ℕ)
    (schedule : List ThreadId) :
    Always (fun e past => ∀ addr, e.2.call = .i2cRead addr → e.1 = .gas ∧
        (∃ i < 4, ∃ earlier, busOps (past.map Prod.snd) =
          .write [0x00] addr :: .write [0x01, muxByte i, 0x83] addr :: earlier) ∧
        LongSince Call.slept (fun e _ => e.call.isConfiguration) 20 (own .gas past) ∧
        LongSince Call.slept (fun e _ => e.call.isBusWrite) 10 (own .gas past))
      (appHistory env fuel joins passes schedule) := by
  have hown : Always (fun e past => BusDiscipline e.1 e.2 (own e.1 past))
      (appHistory env fuel joins passes schedule) :=
    System.always_own (application_awaited fuel joins passes) schedule
  rw [always_iff] at hown ⊢
  intro later e past heq addr hread
  have hnow := hown later e past heq
  have hpast : Always (fun e past => BusDiscipline e.1 e.2 (own e.1 past)) past := by
    rw [← always_iff, heq] at hown
    exact hown.of_append.2
  obtain ⟨i, e⟩ := e
  have hother : e.call.busOp? ≠ none := by
    rw [show e.call = .i2cRead addr from hread]
    exact Option.some_ne_none _
  cases i with
  | gas =>
    obtain ⟨hscript, hconverted, hpointed⟩ := hnow addr hread
    rw [busOps_own hpast]
    exact ⟨rfl, hscript, hconverted, hpointed⟩
  | particle => exact absurd hnow hother
  | sender => exact absurd hnow hother

end AirLab
