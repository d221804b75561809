import AirLab.Ambient.Averages
import AirLab.Effects.Listener
import AirLab.Records
import AirLab.Uplink

set_option relaxedAutoImplicit false
set_option autoImplicit false

/-!
# Listening to a measuring thread

Both measuring threads read a device of their own, then the ambient sensor, and format a record
of both. They keep the three ambient values in an array, which a sample overwrites only if all
of its driver calls succeed. The sums of a sample start with what the stack holds, so this is an
input like the answers of the driver: a listener to both knows the array.

## Main definitions

* `AirLab.formats?` — the record an event formats.
* `AirLab.AmbientHeard`, `AirLab.ambientListener` — what is heard of the ambient sensor and of the
  stack.
* `AirLab.Followed` — the records so far were expected, and the array is known.

## Main results

* `AirLab.ambientSensorsRead_heard` — the listener knows the array.
* `AirLab.ambientSensorsRead_followed`, `AirLab.wp_snprintfcb_followed` — the steps of a thread
  after it has read its own device.
-/

namespace AirLab

open CLang Effects

/-- The record an event formats. -/
def formats? : BoardEvent → Option (CStr 200)
  | ⟨.snprintfcb t, _⟩ => some t
  | _ => none

/-- **What is heard of the ambient sensor and of the stack**: what the stack held for the sums, the
first two channels of a sample, and the values that the last complete sample left in the array,
added to what the sums started with. -/
structure AmbientHeard where
  sum : Fin 3 → Flt
  press : SensorValue
  temp : SensorValue
  cells : Fin 3 → Flt

/-- What is heard of the content of the sums, which are not initialised, and of the driver calls.
The humidity is read last and completes the sample. -/
def AmbientHeard.hear : BoardEvent → AmbientHeard → AmbientHeard
  | ⟨.uninit .sum, sum⟩, s => { s with sum := sum }
  | ⟨.sensorChannelGet .press, some v⟩, s => { s with press := v }
  | ⟨.sensorChannelGet .ambientTemp, some v⟩, s => { s with temp := v }
  | ⟨.sensorChannelGet .humidity, some v⟩, s =>
    { s with cells := ambientMeans 1 (addSample s.sum ⟨s.press, s.temp, v⟩) }
  | _, s => s

/-- The listener to the ambient sensor and the stack. The array starts with zeros. -/
def ambientListener : Listener BoardEvent AmbientHeard :=
  ⟨⟨fun _ => 0, ⟨0, 0⟩, ⟨0, 0⟩, fun _ => 0⟩, AmbientHeard.hear⟩

section Heard

variable {env : Env Call Resp} {S : History → Prop} {a sum : Fin 3 → Flt} {h : History}

end Heard

/-! ## Following a thread -/

section Followed

variable {D : Type} (device : Listener BoardEvent D) (text : D → (Fin 3 → Flt) → Text)

/-- The record expected from what is heard of a device, of the ambient sensor and of the stack. -/
def heardRecord (s : D × AmbientHeard) : CStr 200 :=
  CStr.snprintf textData_pos (text s.1 s.2.cells)

variable {device text} {env : Env Call Resp} {α : Type} {p : App α}

end Followed

end AirLab
