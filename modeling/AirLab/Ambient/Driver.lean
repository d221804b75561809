import Mathlib.Data.Fin.VecNotation
import AirLab.Board

set_option relaxedAutoImplicit false
set_option autoImplicit false

/-!
# The ambient sensor (`ambient_sensors.c`)

## Main definitions

* `AirLab.ambientSensorsRead` — `ambient_sensors_read`.
-/

namespace AirLab

open CLang Effects

/-- `sensor_sample_fetch`, whether it succeeded. -/
def sensorSampleFetch : App Bool := do
  let fetched ← Prog.perform Call.sensorSampleFetch
  return fetched.isSome

/-- `sensor_channel_get`, the value unless it failed. -/
def sensorChannelGet (chan : SensorChannel) : App (Option SensorValue) :=
  Prog.perform (Call.sensorChannelGet chan)

/-- The three channel reads of a pass, each made only if everything before it succeeded. -/
def channelGets : App (Option Sample) := do
  match ← sensorChannelGet .press with
  | none => return none
  | some press =>
    match ← sensorChannelGet .ambientTemp with
    | none => return none
    | some temp =>
      match ← sensorChannelGet .humidity with
      | none => return none
      | some hum => return some ⟨press, temp, hum⟩

/-- The driver calls of one pass: a fetch between two sleeps, and the channel reads. -/
def ambientSample : App (Option Sample) := do
  kMsleep 20
  let fetched ← sensorSampleFetch
  kMsleep 20
  if fetched then channelGets else return none

/-- `sum[0] = sum[0] + hum; sum[1] = sum[1] + temp; sum[2] = sum[2] + press` -/
def addSample (sum : Fin 3 → Flt) (v : Sample) : Fin 3 → Flt :=
  ![sum 0 + v.hum.toDouble, sum 1 + v.temp.toDouble, sum 2 + v.press.toDouble]

/-- One pass of the sample loop; a failed driver call leaves the function. -/
def ambientPass (_i : ℕ) (sum : Fin 3 → Flt) : App (Option (Fin 3 → Flt)) := do
  let v ← ambientSample
  return v.map (addSample sum)

/-- The three means, humidity, temperature and pressure. -/
def ambientMeans (samples : UInt8) (sum : Fin 3 → Flt) : Fin 3 → Flt :=
  let div : Flt := .fin samples.toNat
  ![sum 0 / div, sum 1 / div, sum 2 / div]

/-- `ambient_sensors_read`: the array is written only after the last pass. -/
def ambientSensorsRead (samples : UInt8) (ambientsensor : Fin 3 → Flt) : App (Fin 3 → Flt) := do
  let sum ← uninit .sum
  match ← Prog.forUntil ambientPass samples.toNat sum with
  | none => return ambientsensor
  | some sum => return ambientMeans samples sum

end AirLab
