import AirLab.Ambient.Driver
import AirLab.CLang.Decimal
import AirLab.Gas.Driver
import AirLab.Opc.Driver
import AirLab.Storage.Driver

set_option relaxedAutoImplicit false
set_option autoImplicit false

/-!
# The threads (`main.c`)

`main` configures the pins and starts three threads of equal priority: one counts particles,
one reads the gas and ambient sensors, one sends the latest messages of the other two over
LoRaWAN. Each is an endless loop, of which a run makes a given number of passes.

## Main definitions

* `AirLab.mainPins` — the pin configuration of `main`.
* `AirLab.countParticles`, `AirLab.readGasAndAmbientSensors`, `AirLab.sendData` — the threads.
* `AirLab.particleRecord`, `AirLab.gasRecord` — the text lines they log and send.
-/

namespace AirLab

open CLang Effects

/-- The pin configuration of `main`. -/
def mainPins : App Unit := do
  gpioPinConfigure ledGreen .outputInactive
  gpioPinConfigure ledRed .outputInactive
  gpioPinConfigure ⟨.gpiob, 3⟩ .outputInactive
  gpioPinConfigure ⟨.gpioa, 4⟩ .outputInactive
  gpioPinConfigure ⟨.gpioa, 5⟩ .outputLow
  gpioPinConfigure ⟨.gpioa, 7⟩ .outputLow
  gpioPinConfigure ⟨.gpioa, 6⟩ .input
  gpioPinSet ledGreen .low
  gpioPinSet ledRed .low

/-! ## Records -/

/-- The fields of a record, separated by bars and ended by a newline. -/
def joinFields : List Text → Text
  | [] => ['\n']
  | [f] => f ++ ['\n']
  | f :: fs => f ++ '|' :: joinFields fs

/-- The constant that stands in for the time. -/
def timeField : Text := "0000-00-00 00:00:00".toList

/-- The text `count_particles` formats. -/
def particleRecord (data : Histogram) (ambSensors : Fin 3 → Flt) : Text :=
  joinFields (timeField ::
    ([data.period, data.sfr, data.pm1, data.pm25, data.pm10] ++ List.ofFn ambSensors).map fixed2)

/-- The text `read_gas_and_ambient_sensors` formats. -/
def gasRecord (gs : Fin 8 → UInt16) (ambSensors : Fin 3 → Flt) : Text :=
  joinFields (timeField :: (List.ofFn fun i => decimal (gs i).toNat) ++
    (List.ofFn ambSensors).map fixed2)

/-- `snprintfcb(text_data, 200, …)`: what `text_data` holds afterwards. -/
def snprintfcb (t : Text) : App (CStr 200) := do
  let textData := CStr.snprintf textData_pos t
  Prog.perform (Call.snprintfcb textData)
  return textData

/-- `strcpy` into a message array. -/
def strcpy (dst : Mailbox) (src : CStr 200) : App Unit := Prog.perform (Call.strcpy dst src)

/-! ## The particle thread -/

/-- One measurement cycle of the particle counter, with `n` samples. -/
def opcCycle (fuel : ℕ) (n : UInt8) : App Histogram := do
  opcInit
  opcStart fuel
  let data ← opcReadHistogram n
  opcStop fuel
  opcRelease
  return data

/-- One pass of the loop of `count_particles`. -/
def countParticlesPass (fuel : ℕ) (ambSensors : Fin 3 → Flt) : App (Fin 3 → Flt) := do
  gpioPinSet ledRed .high
  let data ← opcCycle fuel 7
  gpioPinSet ledRed .low
  let ambSensors ← ambientSensorsRead 1 ambSensors
  let textData ← snprintfcb (particleRecord data ambSensors)
  strcpy .opcMsg textData
  saveData textData "opc"
  kMsleep 120000
  return ambSensors

/-- `count_particles`, the first `passes` passes of its loop. -/
def countParticles (fuel passes : ℕ) : App (Fin 3 → Flt) :=
  Prog.forever (countParticlesPass fuel) passes fun _ => 0

/-! ## The gas thread -/

/-- One pass of the loop of `read_gas_and_ambient_sensors`. -/
def readGasPass (l : (Fin 8 → UInt16) × (Fin 3 → Flt)) :
    App ((Fin 8 → UInt16) × (Fin 3 → Flt)) := do
  let gs ← gasSensorsRead l.1 5
  let ambSensors ← ambientSensorsRead 1 l.2
  let textData ← snprintfcb (gasRecord gs ambSensors)
  saveData textData "gas"
  strcpy .gasMsg textData
  kMsleep 30000
  return (gs, ambSensors)

/-- `read_gas_and_ambient_sensors`, the first `passes` passes of its loop. -/
def readGasAndAmbientSensors (passes : ℕ) : App ((Fin 8 → UInt16) × (Fin 3 → Flt)) := do
  kMsleep 10000
  let gs ← uninit .gs
  Prog.forever readGasPass passes (gs, fun _ => 0)

/-! ## The sender thread -/

/-- `lorawan_join` -/
def lorawanJoin : App ℤ := Prog.perform Call.lorawanJoin

/-- `lorawan_set_datarate(LORAWAN_DR_2)` -/
def lorawanSetDatarate : App ℤ := Prog.perform Call.lorawanSetDatarate

/-- `lorawan_send`: the first `len` characters of the message are handed over, then the call
blocks for the confirmation. -/
def lorawanSend (port : UInt8) (data : CStr 200) (len : UInt8) : App ℤ := do
  Prog.perform (Call.lorawanSubmit port (data.chars.take len.toNat))
  Prog.perform Call.lorawanWait

/-- One pass of `while (ret < 0)` around `lorawan_join`. The one variable `ret` is the join
result and then the result of setting the data rate. -/
def joinPass (_ret : ℤ) : App (ℤ ⊕ Unit) := do
  let ret ← lorawanJoin
  if ret < 0 then
    gpioPinSet ledRed .high
    kMsleep 1000
    gpioPinSet ledRed .low
    kMsleep 1000
    return .inl ret
  else
    let ret ← lorawanSetDatarate
    gpioPinSet ledGreen .high
    if ret < 0 then
      return .inl ret
    else
      return .inr ()

/-- `EAGAIN` -/
def eagain : ℤ := 11

/-- The twenty blinks after a transmission. -/
def blink : App Unit := Prog.forRange
  (fun _ _ => do
    gpioPinSet ledGreen .high
    kMsleep 50
    gpioPinSet ledGreen .low
    kMsleep 50) 20 ()

/-- What follows a transmission with the result `ret`; `ok` is the test for success. -/
def afterSend (ret : ℤ) (ok : ℤ → Bool) : App Unit := do
  if ret = -eagain then
    kMsleep 2000
  if ret < 0 then
    kMsleep 2000
  if ok ret then
    blink
  kMsleep 10000

/-- Send the message array on the port. -/
def sendMessage (port : UInt8) (m : Mailbox) (ok : ℤ → Bool) : App Unit := do
  let msg ← Prog.perform (Call.load m)
  let ret ← lorawanSend port msg (UInt8.ofNat msg.strlen)
  afterSend ret ok

/-- One pass of the send loop. The two ports test for success in different ways. -/
def sendPass (_u : Unit) : App Unit := do
  sendMessage 1 .gasMsg (fun ret => ret = 0)
  sendMessage 2 .opcMsg (fun ret => 0 ≤ ret)

/-- `send_data`, at most `joins` passes of its join loop and the first `passes` passes of its
send loop. -/
def sendData (joins passes : ℕ) : App Unit := do
  let found ← deviceGetBinding "subghz-radio"
  if found then
    let ret ← Prog.perform Call.lorawanStart
    if 0 ≤ ret then
      Prog.loop joinPass joins (-1)
      Prog.forever sendPass passes ()

end AirLab
