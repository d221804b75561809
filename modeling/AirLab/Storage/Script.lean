import AirLab.Effects.Script
import AirLab.Interleaving

set_option relaxedAutoImplicit false
set_option autoImplicit false

/-!
# What happens to a record

Both measuring threads format a record, save it and copy it for the sender, each into a file of
its own and each in its own order: the gas thread saves before it copies, the particle thread
copies before it saves. No result of the file system changes that.

## Main definitions

* `AirLab.RecordOp` — what a thread does with a record.
* `AirLab.recordScript` — what a pass of each thread does with its record.

## Main results

* `AirLab.records_script` — every thread keeps to its script.
-/

namespace AirLab

open CLang Effects

/-- What a thread does with a record. -/
inductive RecordOp
  | format
  | copy (dst : Mailbox)
  | fsOpen (fname : Text)
  | fsWrite (fname : Text)
  | fsClose (fname : Text)
  deriving DecidableEq

/-- What a call does with a record. -/
def Call.recordOp? : Call → Option RecordOp
  | .snprintfcb _ => some .format
  | .strcpy dst _ => some (.copy dst)
  | .fsOpen fname => some (.fsOpen fname)
  | .fsWrite fname _ => some (.fsWrite fname)
  | .fsClose fname => some (.fsClose fname)
  | _ => none

/-- A call of `save_data`. -/
def saveScript (type : String) : List RecordOp :=
  [.fsOpen (logName type), .fsWrite (logName type), .fsClose (logName type)]

/-- A pass of each thread. -/
def recordScript : ThreadId → List RecordOp
  | .gas => .format :: (saveScript "gas" ++ [.copy .gasMsg])
  | .particle => .format :: .copy .opcMsg :: saveScript "opc"
  | .sender => []

/-- A measurement cycle has nothing to do with records. -/
lemma Call.ofPower.noRecord (c : Call) (hc : c.ofPower) : c.recordOp? = none := by
  cases c <;> first | exact hc.elim | rfl

/-- Neither have the gas sensors. -/
lemma Call.ofGas.noRecord (c : Call) (hc : c.ofGas) : c.recordOp? = none := by
  cases c <;> first | exact hc.elim | rfl

/-- Neither has the ambient sensor. -/
lemma Call.ofAmbient.noRecord (c : Call) (hc : c.ofAmbient) : c.recordOp? = none := by
  cases c <;> first | exact hc.elim | rfl

/-- Neither has the sender. -/
lemma Call.ofRadio.noRecord (c : Call) (hc : c.ofRadio) : c.recordOp? = none := by
  cases c <;> first | exact hc.elim | rfl

/-- What is no part of a record formats nothing. -/
lemma Call.formatless {c : Call} (hc : c.recordOp? = none) : c.recordOp? ≠ some .format := by
  rw [hc]
  nofun

/-- The file system formats nothing. -/
lemma Call.ofStorage.formatless (c : Call) (hc : c.ofStorage) : c.recordOp? ≠ some .format := by
  cases c <;> simp_all [Call.recordOp?, Call.ofStorage]

/-- Formatting a record. -/
lemma snprintfcb_plays (t : Text) : (snprintfcb t).Plays Call.recordOp? [.format] :=
  Prog.Plays.bind (t := [_]) (u := []) (Prog.plays_perform _) fun _ => Prog.plays_pure _

/-- Copying a record. -/
lemma strcpy_plays (dst : Mailbox) (src : CStr 200) :
    (strcpy dst src).Plays Call.recordOp? [.copy dst] := Prog.plays_perform _

/-- `save_data` opens the file, writes to it and closes it, whatever the results. -/
lemma saveData_plays (data : CStr 200) (type : String) :
    (saveData data type).Plays Call.recordOp? (saveScript type) := by
  have hsleep : (kMsleep 500).Within fun c => c.recordOp? = none := perform_within rfl
  have hclose : (fsClose (logName type)).Plays Call.recordOp? [.fsClose (logName type)] :=
    Prog.plays_perform _
  unfold saveData
  refine Prog.Plays.bind (t := [_]) (Prog.plays_perform _) fun _ => ?_
  refine Prog.Plays.bind (t := [_]) (Prog.plays_perform _) fun rc => ?_
  exact .ite (.after hsleep fun _ => hclose) hclose

/-- A pass of the gas thread. -/
lemma readGasPass_records (l : (Fin 8 → UInt16) × (Fin 3 → Flt)) :
    (readGasPass l).Plays Call.recordOp? (recordScript .gas) := by
  have hsleep : (kMsleep 30000).Within fun c => c.recordOp? = none := perform_within rfl
  unfold readGasPass
  refine .after ((gasSensorsRead_calls l.1 5).mono Call.ofGas.noRecord) fun gs => ?_
  refine .after ((ambientSensorsRead_calls 1 l.2).mono Call.ofAmbient.noRecord) fun a => ?_
  refine (snprintfcb_plays _).bind fun textData => ?_
  refine (saveData_plays textData "gas").bind fun _ => ?_
  refine Prog.Plays.bind (u := []) (strcpy_plays _ textData) fun _ => ?_
  exact .after hsleep fun _ => Prog.plays_pure _

/-- A pass of the particle thread. -/
lemma countParticlesPass_records (fuel : ℕ) (a : Fin 3 → Flt) :
    (countParticlesPass fuel a).Plays Call.recordOp? (recordScript .particle) := by
  have hpin : ∀ v, (gpioPinSet ledRed v).Within fun c => c.recordOp? = none := fun v =>
    perform_within rfl
  have hsleep : (kMsleep 120000).Within fun c => c.recordOp? = none := perform_within rfl
  unfold countParticlesPass
  refine .after (hpin _) fun _ => ?_
  refine .after ((opcCycle_calls fuel 7).mono Call.ofPower.noRecord id) fun data => ?_
  refine .after (hpin _) fun _ => ?_
  refine .after ((ambientSensorsRead_calls 1 a).mono Call.ofAmbient.noRecord) fun a => ?_
  refine (snprintfcb_plays _).bind fun textData => ?_
  refine (strcpy_plays _ textData).bind fun _ => ?_
  refine Prog.Plays.bind (u := []) (saveData_plays textData "opc") fun _ => ?_
  exact .after hsleep fun _ => Prog.plays_pure _

/-- Every thread plays its script in each of its passes. -/
lemma application_records (fuel joins : ℕ) (passes : ThreadId → ℕ) (i : ThreadId) :
    (application fuel joins passes i).Plays Call.recordOp?
      (List.replicate (passes i) (recordScript i)).flatten := by
  cases i with
  | gas =>
    have hsleep : (kMsleep 10000).Within fun c => c.recordOp? = none := perform_within rfl
    have huninit : (uninit .gs).Within fun c => c.recordOp? = none := perform_within rfl
    rw [← List.append_nil (List.flatten _)]
    refine Prog.Plays.bind ?_ fun _ => Prog.plays_pure ()
    exact .after hsleep fun _ => .after huninit fun gs => .forever readGasPass_records _ _
  | particle =>
    rw [← List.append_nil (List.flatten _)]
    refine Prog.Plays.bind ?_ fun _ => Prog.plays_pure ()
    exact .forever (countParticlesPass_records fuel) _ _
  | sender =>
    have hnil : (List.replicate (passes .sender) (recordScript .sender)).flatten = [] := by
      simp [recordScript]
    rw [hnil]
    exact Prog.plays_of_calls ((sendData_calls joins _).mono Call.ofRadio.noRecord id)

/-- **Records in step.** In every run of the application, whatever the file system and the other
devices answer, each thread formats, saves and copies its records in the order of its script,
a pass at a time: no failure makes it skip, repeat or reorder a step. -/
theorem records_script (env : AppEnv) (fuel joins : ℕ) (passes : ThreadId → ℕ)
    (schedule : List ThreadId) (i : ThreadId) :
    trace Call.recordOp? (own i (appHistory env fuel joins passes schedule)) <+:
      (List.replicate (passes i) (recordScript i)).flatten :=
  System.trace_own (application_records fuel joins passes i).follows schedule

end AirLab
