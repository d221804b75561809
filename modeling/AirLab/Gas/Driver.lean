import AirLab.Board

set_option relaxedAutoImplicit false
set_option autoImplicit false

/-!
# The gas sensors (`gas_sensors.c`)

Two converters on the I2C bus, at the addresses 0x48 and 0x49, with four inputs each. The
results of the bus transfers are stored and not looked at.

## Main definitions

* `AirLab.gasSensorsRead` — `gas_sensors_read`.
-/

namespace AirLab

open CLang Effects

/-- The locals of `gas_sensors_read` and the array it writes. -/
structure GasLocals where
  readbuf : UInt8 × UInt8
  result : Fin 8 → UInt16

/-- `i2c_write` -/
def i2cWrite (buf : List UInt8) (addr : UInt8) : App Bool := Prog.perform (Call.i2cWrite buf addr)

/-- `i2c_read` of two bytes. -/
def i2cRead (addr : UInt8) : App (Option (UInt8 × UInt8)) := Prog.perform (Call.i2cRead addr)

/-- `cmd[1]`, the byte of the configuration that selects input `i`. -/
def muxByte : ℕ → UInt8
  | 0 => 0xC1
  | 1 => 0xD1
  | 2 => 0xE1
  | _ => 0xF1

/-- The two bytes of the read buffer as a big-endian number. -/
def bigEndian (b : UInt8 × UInt8) : UInt16 := (b.1.toUInt16 <<< 8) ||| b.2.toUInt16

/-- Readings above 10000 count as zero. -/
def clip (reading : UInt16) : UInt16 := if reading > 10000 then 0 else reading

/-- `result[i] = reading` -/
def setResult (result : Fin 8 → UInt16) (i : ℕ) (reading : UInt16) : Fin 8 → UInt16 :=
  fun j => if j.val = i then reading else result j

/-- One pass of a channel loop: select input `i` of the converter at `addr`, read it, and store
the reading at `off + i`. A failed read leaves the read buffer as it was. -/
def channelPass (addr : UInt8) (off i : ℕ) (l : GasLocals) : App GasLocals := do
  let _ ← i2cWrite [0x01, muxByte i, 0x83] addr
  kMsleep 10
  let _ ← i2cWrite [0x00] addr
  kMsleep 10
  let received ← i2cRead addr
  kMsleep 20
  let readbuf := received.getD l.readbuf
  return { readbuf := readbuf, result := setResult l.result (i + off) (clip (bigEndian readbuf)) }

/-- One pass of the sample loop: the four inputs of each converter. -/
def gasSamplePass (_s : ℕ) (l : GasLocals) : App GasLocals := do
  let l ← Prog.forRange (channelPass 0x48 0) 4 l
  kMsleep 10
  let l ← Prog.forRange (channelPass 0x49 4) 4 l
  kMsleep 1000
  return l

/-- The sample loop, `n` passes. -/
def gasSampleLoop (n : ℕ) (l : GasLocals) : App GasLocals := Prog.forRange gasSamplePass n l

/-- `result[i] = result[i]/samples` for the eight cells. -/
def divideResult (result : Fin 8 → UInt16) (samples : ℕ) : Fin 8 → UInt16 :=
  fun i => UInt16.ofNat ((result i).toNat / samples)

/-- `gas_sensors_read` -/
def gasSensorsRead (result : Fin 8 → UInt16) (samples : ℕ) : App (Fin 8 → UInt16) := do
  let readbuf ← uninit .readbuf
  let l ← gasSampleLoop samples ⟨readbuf, result⟩
  return divideResult l.result samples

end AirLab
