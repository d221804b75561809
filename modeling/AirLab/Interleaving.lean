import AirLab.Effects.Interleave
import AirLab.Footprint

set_option relaxedAutoImplicit false
set_option autoImplicit false

/-!
# The threads together

The three threads have equal priority, and time slicing is off: they switch only at blocking
calls. They share the message arrays and the driver of the ambient sensor. What they read from
there is determined by the joint history; all other answers are the environment's.

## Main definitions

* `AirLab.ThreadId`, `AirLab.application` — the three threads.
* `AirLab.Call.blocks` — the calls at which a thread gives up the processor.
* `AirLab.message`, `AirLab.storedSample` — the shared memory.
* `AirLab.appHistory` — the joint history of a run.
* `AirLab.workingEnv` — a station whose sensors work.
-/

namespace AirLab

open CLang Effects

/-- The threads started by `main`. -/
inductive ThreadId
  | gas
  | particle
  | sender
  deriving DecidableEq

/-- Joint histories of the application. -/
abbrev AppHistory : Type := JointHist ThreadId Call Resp

/-- Joint environments of the application. -/
abbrev AppEnv : Type := JointEnv ThreadId Call Resp

/-- The calls at which another thread may come to run. `strcpy`, reading a message array, the
hand-over to `lorawan_send` and `sensor_channel_get` are none of them, nor is `spi_transceive`: the
bus of the particle counter is driven bit by bit and only waits busily. -/
def Call.blocks : Call → Bool
  | .kMsleep _ => true
  | .kUsleep _ => true
  | .i2cWrite _ _ => true
  | .i2cRead _ => true
  | .sensorSampleFetch => true
  | .fsOpen _ => true
  | .fsWrite _ _ => true
  | .fsClose _ => true
  | .lorawanStart => true
  | .lorawanJoin => true
  | .lorawanSetDatarate => true
  | .lorawanWait => true
  | _ => false

/-- What a message array holds: what was last copied into it, empty at the start. -/
def message (m : Mailbox) : AppHistory → CStr 200
  | [] => CStr.empty textData_pos
  | (_, ⟨.strcpy dst t, _⟩) :: past => if dst = m then t else message m past
  | _ :: past => message m past

/-- The sample the driver of the ambient sensor has stored: that of the last successful fetch. -/
def storedSample : AppHistory → Option Sample
  | [] => none
  | (_, ⟨.sensorSampleFetch, some s⟩) :: _ => some s
  | _ :: past => storedSample past

/-- The answers to the threads: message arrays and the stored sample are read from the joint
history. Reading a channel may also fail. -/
def shared (env : AppEnv) : AppEnv := fun H t c =>
  match c with
  | .load m => message m H
  | .sensorChannelGet chan =>
    (env H t (.sensorChannelGet chan) : Option SensorValue).bind fun _ =>
      (storedSample H).map fun s => s.channel chan
  | c => env H t c

/-- The threads, each with a number of passes of its loop. -/
def application (fuel joins : ℕ) (passes : ThreadId → ℕ) : ThreadId → App Unit
  | .gas => do
    let _ ← readGasAndAmbientSensors (passes .gas)
  | .particle => do
    let _ ← countParticles fuel (passes .particle)
  | .sender => sendData joins (passes .sender)

/-- The joint history of a run of the application. -/
def appHistory (env : AppEnv) (fuel joins : ℕ) (passes : ThreadId → ℕ) (schedule : List ThreadId) :
    AppHistory :=
  (System.run Call.blocks (shared env) (System.init (application fuel joins passes)) schedule).hist

/-! ## A station at work -/

/-- A measurement of the ambient sensor that depends on the time. -/
def workingSample (n : ℕ) : Sample :=
  ⟨⟨101, 325000 + (n % 100 : ℕ)⟩, ⟨20 + (n % 10 : ℕ), 515000⟩, ⟨45, (n % 1000 : ℕ)⟩⟩

/-- Answers of sensors that work: what they measure depends on the number `n` of calls that their
thread has made. -/
def workingAnswer (n : ℕ) : (c : Call) → Resp c
  | .spiTransceive tx =>
    some (if tx = 0xC0 then UInt8.ofNat (60 + n % 8) else if tx < 3 then 3 else 243)
  | .i2cRead _ => some (UInt8.ofNat (n % 4), UInt8.ofNat n)
  | .sensorSampleFetch => some (workingSample n)
  | .sensorChannelGet _ => some ⟨0, 0⟩
  | c => plainAnswer c

/-- The environment of a station at work. -/
def workingEnv : AppEnv := fun H t => workingAnswer (own t H).length

end AirLab
