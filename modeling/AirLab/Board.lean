import Mathlib.Data.Rat.Defs
import AirLab.CLang.Text
import AirLab.Effects.History
import AirLab.Effects.Triple
import AirLab.Opc.Histogram

set_option relaxedAutoImplicit false
set_option autoImplicit false

/-!
# The calls of the application

What the application asks of the operating system, the drivers and the memory its threads
share, each as a call of `Effects.Prog`. The answers of the hardware are the environment's; an
object of automatic storage that is read before it is written gets its content from the
environment too.

Log output is left out: nothing reads it back.

## Main definitions

* `AirLab.Call`, `AirLab.Resp` — the calls and the types of their answers.
* `AirLab.App` — programs over these calls.
* `AirLab.level` — the level of an output pin, the one last written.
* `AirLab.transfers`, `AirLab.sleepTotal` — the SPI transfers and the time slept.
* `AirLab.World` — an environment whose SPI device answers from a sequence.
-/

namespace AirLab

open CLang Effects

/-- The GPIO ports in use. -/
inductive Port
  | gpioa
  | gpiob
  deriving DecidableEq

/-- A pin of a port. -/
structure Pin where
  port : Port
  num : ℕ
  deriving DecidableEq

/-- The logical level of a pin; no pin of the board is configured active-low. -/
inductive Level
  | low
  | high
  deriving DecidableEq

/-- The configurations given to `gpio_pin_configure`. -/
inductive GpioFlags
  | outputLow
  | outputInactive
  | input
  deriving DecidableEq

/-- The channels of the ambient sensor. -/
inductive SensorChannel
  | press
  | ambientTemp
  | humidity
  deriving DecidableEq

/-- `struct sensor_value`: an integer part and a millionth part. -/
structure SensorValue where
  val1 : ℤ
  val2 : ℤ
  deriving DecidableEq

/-- `sensor_value_to_double`. -/
def SensorValue.toDouble (v : SensorValue) : Flt := .fin (v.val1 + v.val2 / 10 ^ 6)

/-- One measurement of the ambient sensor, as its driver stores it. -/
structure Sample where
  press : SensorValue
  temp : SensorValue
  hum : SensorValue
  deriving DecidableEq

/-- The channel of a stored measurement. -/
def Sample.channel (s : Sample) : SensorChannel → SensorValue
  | .press => s.press
  | .ambientTemp => s.temp
  | .humidity => s.hum

/-- The text arrays have a size. -/
lemma textData_pos : 0 < 200 := by decide

/-- The message arrays shared by the threads, `gas_msg` and `opc_msg`. -/
inductive Mailbox
  | gasMsg
  | opcMsg
  deriving DecidableEq

/-- The locals of `opc_read_histogram` that are read before the call itself has written them:
the fields of `result`, and the receive byte and the frame of the block in the sample loop. -/
structure HistLocals where
  result : Histogram
  rxBuf : UInt8
  vals : Frame

/-- The objects of automatic storage whose first content is whatever the stack held. -/
inductive Slot
  | rxBuf
  | histogram
  | readbuf
  | gs
  | sum

/-- The content of such an object. -/
@[reducible] def Slot.Content : Slot → Type
  | .rxBuf => UInt8
  | .histogram => HistLocals
  | .readbuf => UInt8 × UInt8
  | .gs => Fin 8 → UInt16
  | .sum => Fin 3 → Flt

/-- The calls. -/
inductive Call
  | gpioPinSet (pin : Pin) (value : Level)
  | gpioPinConfigure (pin : Pin) (flags : GpioFlags)
  | kMsleep (ms : ℕ)
  | kUsleep (us : ℕ)
  | deviceGetBinding (label : String)
  | spiTransceive (tx : UInt8)
  | spiRelease
  | i2cWrite (buf : List UInt8) (addr : UInt8)
  | i2cRead (addr : UInt8)
  | sensorSampleFetch
  | sensorChannelGet (chan : SensorChannel)
  | snprintfcb (textData : CStr 200)
  | strcpy (dst : Mailbox) (src : CStr 200)
  | load (src : Mailbox)
  | fsOpen (fname : Text)
  | fsWrite (fname : Text) (data : Text)
  | fsClose (fname : Text)
  | lorawanStart
  | lorawanJoin
  | lorawanSetDatarate
  | lorawanSubmit (port : UInt8) (payload : Text)
  | lorawanWait
  | uninit (slot : Slot)

/-- The answers. A transfer of one byte over SPI and a read of two bytes over I2C deliver what
was received, or `none` where the driver returns an error and leaves the buffer as it was. A
write over I2C succeeds or not. A fetch that succeeds puts a new measurement into the driver's
store; the program only learns that it succeeded. -/
@[reducible] def Resp : Call → Type
  | .deviceGetBinding _ => Bool
  | .spiTransceive _ => Option UInt8
  | .spiRelease => ℤ
  | .i2cWrite _ _ => Bool
  | .i2cRead _ => Option (UInt8 × UInt8)
  | .sensorSampleFetch => Option Sample
  | .sensorChannelGet _ => Option SensorValue
  | .load _ => CStr 200
  | .fsOpen _ => ℤ
  | .fsWrite _ _ => ℤ
  | .lorawanStart => ℤ
  | .lorawanJoin => ℤ
  | .lorawanSetDatarate => ℤ
  | .lorawanWait => ℤ
  | .uninit s => s.Content
  | _ => Unit

/-- Programs of the application. -/
abbrev App : Type → Type := Prog Call Resp

/-- Events of the application. -/
abbrev BoardEvent : Type := Event Call Resp

/-- Histories of the application, the most recent event first. -/
abbrev History : Type := Hist Call Resp

/-! ## Pins -/

/-- PB3: the relay that powers the particle counter. -/
abbrev relay : Pin := ⟨.gpiob, 3⟩

/-- PA4: the chip-select line of the particle counter. -/
abbrev chipSelect : Pin := ⟨.gpioa, 4⟩

/-- PB11: the red LED `led2`. -/
abbrev ledRed : Pin := ⟨.gpiob, 11⟩

/-- PB9: the green LED `led1`. -/
abbrev ledGreen : Pin := ⟨.gpiob, 9⟩

/-- The output level a call gives to a pin, if any. A pin configured as input keeps the level of
its output register. -/
def Call.writes (p : Pin) : Call → Option Level
  | .gpioPinSet q v => if q = p then some v else none
  | .gpioPinConfigure q .outputLow => if q = p then some .low else none
  | .gpioPinConfigure q .outputInactive => if q = p then some .low else none
  | _ => none

/-- The level of an output pin: the one last written, low before the first write. -/
def level (p : Pin) : History → Level
  | [] => .low
  | e :: past => (e.call.writes p).getD (level p past)

/-- Before the first write a pin is low. -/
@[simp] lemma level_nil (p : Pin) : level p [] = .low := rfl

/-- The level after an event. -/
@[simp] lemma level_cons (p : Pin) (e : BoardEvent) (past : History) :
    level p (e :: past) = (e.call.writes p).getD (level p past) := rfl

/-- The event takes the pin from low to high. -/
def Rises (p : Pin) (e : BoardEvent) (past : History) : Prop :=
  level p past = .low ∧ level p (e :: past) = .high

instance (p : Pin) (e : BoardEvent) (past : History) : Decidable (Rises p e past) := by
  unfold Rises; infer_instance

/-! ## Transfers and sleep -/

/-- A transfer over SPI. -/
def Call.isTransfer : Call → Bool
  | .spiTransceive _ => true
  | _ => false

/-- The milliseconds slept by a call. -/
def Call.slept : Call → ℕ
  | .kMsleep ms => ms
  | _ => 0

/-- A sleep of the thread. -/
def Call.isSleep : Call → Bool
  | .kMsleep _ => true
  | _ => false

/-- The number of SPI transfers so far. -/
def transfers (h : History) : ℕ := occurrences (fun e => e.call.isTransfer) h

/-- The time slept in a part of a history, in milliseconds. -/
def sleepTotal (h : History) : ℕ := (h.map fun e => e.call.slept).sum

/-- No transfer in the empty history. -/
@[simp] lemma transfers_nil : transfers [] = 0 := rfl

/-- The transfers after an event. -/
@[simp] lemma transfers_cons (e : BoardEvent) (past : History) :
    transfers (e :: past) = transfers past + if e.call.isTransfer then 1 else 0 :=
  occurrences_cons _ e past

/-- No sleep in the empty history. -/
@[simp] lemma sleepTotal_nil : sleepTotal [] = 0 := rfl

/-- The time slept after an event. -/
@[simp] lemma sleepTotal_cons (e : BoardEvent) (past : History) :
    sleepTotal (e :: past) = e.call.slept + sleepTotal past := by
  simp [sleepTotal]

/-! ## Calls as programs -/

/-- `gpio_pin_set` -/
def gpioPinSet (pin : Pin) (value : Level) : App Unit := Prog.perform (Call.gpioPinSet pin value)

/-- `gpio_pin_configure` -/
def gpioPinConfigure (pin : Pin) (flags : GpioFlags) : App Unit :=
  Prog.perform (Call.gpioPinConfigure pin flags)

/-- `k_msleep` -/
def kMsleep (ms : ℕ) : App Unit := Prog.perform (Call.kMsleep ms)

/-- `k_usleep` -/
def kUsleep (us : ℕ) : App Unit := Prog.perform (Call.kUsleep us)

/-- `device_get_binding`, whether there is such a device. -/
def deviceGetBinding (label : String) : App Bool := Prog.perform (Call.deviceGetBinding label)

/-- `spi_transceive` of one byte. -/
def spiTransceive (tx : UInt8) : App (Option UInt8) := Prog.perform (Call.spiTransceive tx)

/-- The first content of an object of automatic storage. -/
def uninit (s : Slot) : App s.Content := Prog.perform (Call.uninit s)

section Calls

variable {env : Env Call Resp} {Q : Unit → History → Prop} {S : History → Prop} {h : History}

/-- Setting a pin records the write. -/
lemma run_gpioPinSet (pin : Pin) (value : Level) :
    (gpioPinSet pin value).run env h = (some (), ⟨.gpioPinSet pin value, ()⟩ :: h) := rfl

/-- Sleeping records the time slept. -/
lemma run_kMsleep (ms : ℕ) :
    (kMsleep ms).run env h = (some (), ⟨.kMsleep ms, ()⟩ :: h) := rfl

/-- The rule of setting a pin. -/
@[simp] lemma wp_gpioPinSet (pin : Pin) (value : Level) :
    (gpioPinSet pin value).wp env Q S h ↔ Q () (⟨.gpioPinSet pin value, ()⟩ :: h) :=
  Prog.wp_of_run (run_gpioPinSet pin value)

/-- The rule of configuring a pin. -/
@[simp] lemma wp_gpioPinConfigure (pin : Pin) (flags : GpioFlags) :
    (gpioPinConfigure pin flags).wp env Q S h ↔
      Q () (⟨.gpioPinConfigure pin flags, ()⟩ :: h) :=
  Prog.wp_of_run rfl

/-- The rule of sleeping. -/
@[simp] lemma wp_kMsleep (ms : ℕ) :
    (kMsleep ms).wp env Q S h ↔ Q () (⟨.kMsleep ms, ()⟩ :: h) :=
  Prog.wp_of_run (run_kMsleep ms)

/-- The rule of a short sleep. -/
@[simp] lemma wp_kUsleep (us : ℕ) :
    (kUsleep us).wp env Q S h ↔ Q () (⟨.kUsleep us, ()⟩ :: h) :=
  Prog.wp_of_run rfl

end Calls

/-! ## Environments -/

/-- An answer for every call: zeros, success, and nothing received. -/
def plainAnswer : (c : Call) → Resp c
  | .deviceGetBinding _ => true
  | .spiTransceive _ => none
  | .spiRelease => (0 : ℤ)
  | .i2cWrite _ _ => true
  | .i2cRead _ => none
  | .sensorSampleFetch => none
  | .sensorChannelGet _ => none
  | .load _ => CStr.empty textData_pos
  | .fsOpen _ => (0 : ℤ)
  | .fsWrite _ data => (data.length : ℤ)
  | .lorawanStart => (0 : ℤ)
  | .lorawanJoin => (0 : ℤ)
  | .lorawanSetDatarate => (0 : ℤ)
  | .lorawanWait => (0 : ℤ)
  | .uninit .rxBuf => (0 : UInt8)
  | .uninit .histogram => ⟨⟨fun _ => 0, 0, 0, 0, 0, 0, 0, 0, 0, 0, 0, 0⟩, 0, fun _ => 0⟩
  | .uninit .readbuf => ((0, 0) : UInt8 × UInt8)
  | .uninit .gs => fun _ => (0 : UInt16)
  | .uninit .sum => fun _ => (0 : Flt)
  | .gpioPinSet _ _ => ()
  | .gpioPinConfigure _ _ => ()
  | .kMsleep _ => ()
  | .kUsleep _ => ()
  | .snprintfcb _ => ()
  | .strcpy _ _ => ()
  | .fsClose _ => ()
  | .lorawanSubmit _ _ => ()

/-- An environment whose SPI device answers the `n`-th transfer with `spi n`. `rxBuf n` is what
the receive byte of `opc_send_command` holds before the `n`-th transfer. All other calls are
answered in the light of the whole history. -/
structure World where
  spi : ℕ → Option UInt8
  rxBuf : ℕ → UInt8
  rest : Env Call Resp

/-- The answers of a world. -/
def World.env (w : World) : Env Call Resp := fun h c =>
  match c with
  | .spiTransceive _ => w.spi (transfers h)
  | .uninit .rxBuf => w.rxBuf (transfers h)
  | c => w.rest h c

/-- What `opc_send_command` reads from its receive byte after transfer `n`: the byte delivered,
or the former content where the transfer failed. -/
def World.reply (w : World) (n : ℕ) : UInt8 := (w.spi n).getD (w.rxBuf n)

/-- A transfer gets the answer whose turn it is. -/
lemma World.wp_spiTransceive (w : World) (tx : UInt8) {Q : Option UInt8 → History → Prop}
    {S : History → Prop} {h : History} :
    (spiTransceive tx).wp w.env Q S h ↔
      Q (w.spi (transfers h)) (⟨.spiTransceive tx, w.spi (transfers h)⟩ :: h) :=
  Prog.wp_of_run rfl

end AirLab
