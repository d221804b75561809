import Mathlib.Data.Rat.Defs
import AirLab.CLang.Float

set_option relaxedAutoImplicit false
set_option autoImplicit false

/-!
# The histogram of the particle counter (`opc.h`, `opc.c`)

The sensor sends a histogram as a frame of 62 bytes. The decoder combines the bytes into
16-bit and 32-bit integers and floats and scales the bin counts to concentrations.

## Main definitions

* `AirLab.Frame` — the 62 bytes of a payload.
* `AirLab.Histogram` — `struct histogram`.
* `AirLab.to16bitInt`, `AirLab.to32bitInt`, `AirLab.calculateFloat` — the byte combiners.
* `AirLab.decode` — the fields of `data` after one pass of the sample loop.
-/

namespace AirLab

open CLang

/-- The bytes of one histogram payload, `vals[62]`. -/
abbrev Frame : Type := Fin 62 → UInt8

/-- A payload is not empty, so that its bytes are numbered by numerals. -/
instance Frame.size_neZero : NeZero 62 := ⟨by decide⟩

/-- `vals[i] = b`. -/
def Frame.set (vals : Frame) (i : ℕ) (b : UInt8) : Frame := fun j => if j.val = i then b else vals j

/-- `struct histogram`. The sixteen bins are one field, indexed as in the source. -/
structure Histogram where
  bin : Fin 16 → Flt
  bin1MToF : Flt
  bin3MToF : Flt
  bin5MToF : Flt
  bin7MToF : Flt
  sfr : Flt
  tempPressure : UInt32
  period : Flt
  checksum : UInt32
  pm1 : Flt
  pm25 : Flt
  pm10 : Flt

/-- Combine two bytes into a 16-bit unsigned int. -/
def to16bitInt (lsb msb : UInt8) : UInt16 := (msb.toUInt16 <<< 8) ||| lsb.toUInt16

/-- Combine four bytes into a 32-bit unsigned int. -/
def to32bitInt (val0 val1 val2 val3 : UInt8) : UInt32 :=
  (val3.toUInt32 <<< 24) ||| (val2.toUInt32 <<< 16) ||| (val1.toUInt32 <<< 8) ||| val0.toUInt32

/-- The IEEE 754 float stored in four bytes. The union of the source lays the bytes out in
memory order, on the target the least significant one first. -/
def calculateFloat (val0 val1 val2 val3 : UInt8) : Flt :=
  Flt.ofBits (to32bitInt val0 val1 val2 val3)

/-- The 16-bit count of bin `k`, bytes `2k` and `2k + 1`. -/
def binCount (vals : Frame) (k : Fin 16) : UInt16 :=
  to16bitInt (vals ⟨2 * k, by omega⟩) (vals ⟨2 * k + 1, by omega⟩)

/-- An unsigned integer converted to floating point. -/
def ofNat (n : ℕ) : Flt := .fin n

/-- **The fields of `data`** computed from the frame buffer in one pass of the sample loop. -/
def decode (vals : Frame) : Histogram :=
  let period := calculateFloat (vals 44) (vals 45) (vals 46) (vals 47)
  let sfr := calculateFloat (vals 36) (vals 37) (vals 38) (vals 39)
  let conv := sfr * period
  { bin := fun k => ofNat (binCount vals k).toNat / conv
    bin1MToF := ofNat (vals 32).toNat / .fin 3
    bin3MToF := ofNat (vals 33).toNat / .fin 3
    bin5MToF := ofNat (vals 34).toNat / .fin 3
    bin7MToF := ofNat (vals 35).toNat / .fin 3
    sfr := sfr
    tempPressure := to32bitInt (vals 40) (vals 41) (vals 42) (vals 43)
    period := period
    checksum := (to16bitInt (vals 48) (vals 49)).toUInt32
    pm1 := calculateFloat (vals 50) (vals 51) (vals 52) (vals 53)
    pm25 := calculateFloat (vals 54) (vals 55) (vals 56) (vals 57)
    pm10 := calculateFloat (vals 58) (vals 59) (vals 60) (vals 61) }

end AirLab
