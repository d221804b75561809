import Mathlib.Data.Fin.VecNotation
import Mathlib.Data.Fintype.Basic
import Mathlib.Data.List.OfFn
import Mathlib.Tactic.FinCases
import AirLab.CLang.LittleEndian
import AirLab.Opc.Histogram

set_option relaxedAutoImplicit false
set_option autoImplicit false

/-!
# The layout of a histogram frame

Before any scaling the decoder of `opc_read_histogram` fills 27 integers from the 62 bytes of a
frame. The integers and the frame determine each other: the frame is the little-endian
concatenation of the integers, in the order in which the sensor sends them.

## Main definitions

* `AirLab.RawHistogram` — the integers of a frame.
* `AirLab.rawDecode` — the integers as the source picks them from `vals`.
* `AirLab.wire` — the bytes of the integers in the order of the wire.

## Main results

* `AirLab.decode_eq_scale` — the decoder scales what `rawDecode` picks.
* `AirLab.rawDecode_bijective` — every choice of integers is decoded from exactly one frame.
-/

namespace AirLab

open CLang

/-- The integers of a frame: the fields of `struct histogram` before the divisions, the floats
as their bit patterns. -/
@[ext] structure RawHistogram where
  bin : Fin 16 → UInt16
  bin1MToF : UInt8
  bin3MToF : UInt8
  bin5MToF : UInt8
  bin7MToF : UInt8
  sfr : UInt32
  tempPressure : UInt32
  period : UInt32
  checksum : UInt16
  pm1 : UInt32
  pm25 : UInt32
  pm10 : UInt32

/-- The bytes the source combines for each field, in the order of its statements. -/
def rawDecode (vals : Frame) : RawHistogram where
  period := to32bitInt (vals 44) (vals 45) (vals 46) (vals 47)
  sfr := to32bitInt (vals 36) (vals 37) (vals 38) (vals 39)
  bin := ![
    to16bitInt (vals 0) (vals 1),
    to16bitInt (vals 2) (vals 3),
    to16bitInt (vals 4) (vals 5),
    to16bitInt (vals 6) (vals 7),
    to16bitInt (vals 8) (vals 9),
    to16bitInt (vals 10) (vals 11),
    to16bitInt (vals 12) (vals 13),
    to16bitInt (vals 14) (vals 15),
    to16bitInt (vals 16) (vals 17),
    to16bitInt (vals 18) (vals 19),
    to16bitInt (vals 20) (vals 21),
    to16bitInt (vals 22) (vals 23),
    to16bitInt (vals 24) (vals 25),
    to16bitInt (vals 26) (vals 27),
    to16bitInt (vals 28) (vals 29),
    to16bitInt (vals 30) (vals 31)]
  bin1MToF := vals 32
  bin3MToF := vals 33
  bin5MToF := vals 34
  bin7MToF := vals 35
  tempPressure := to32bitInt (vals 40) (vals 41) (vals 42) (vals 43)
  checksum := to16bitInt (vals 48) (vals 49)
  pm1 := to32bitInt (vals 50) (vals 51) (vals 52) (vals 53)
  pm25 := to32bitInt (vals 54) (vals 55) (vals 56) (vals 57)
  pm10 := to32bitInt (vals 58) (vals 59) (vals 60) (vals 61)

/-- The fields of `data` made from the integers: the counts over `conv`, the times of flight
over 3, the bit patterns as floats. -/
def RawHistogram.scale (raw : RawHistogram) : Histogram :=
  let conv := Flt.ofBits raw.sfr * Flt.ofBits raw.period
  { bin := fun k => ofNat (raw.bin k).toNat / conv
    bin1MToF := ofNat raw.bin1MToF.toNat / .fin 3
    bin3MToF := ofNat raw.bin3MToF.toNat / .fin 3
    bin5MToF := ofNat raw.bin5MToF.toNat / .fin 3
    bin7MToF := ofNat raw.bin7MToF.toNat / .fin 3
    sfr := Flt.ofBits raw.sfr
    tempPressure := raw.tempPressure
    period := Flt.ofBits raw.period
    checksum := raw.checksum.toUInt32
    pm1 := Flt.ofBits raw.pm1
    pm25 := Flt.ofBits raw.pm25
    pm10 := Flt.ofBits raw.pm10 }

/-- The sixteen counts of the source are those of `binCount`. -/
lemma rawDecode_bin (vals : Frame) : (rawDecode vals).bin = binCount vals := by
  funext k
  fin_cases k <;> rfl

/-- **The decoder scales the integers of the frame.** -/
lemma decode_eq_scale (vals : Frame) : decode vals = (rawDecode vals).scale := by
  unfold decode RawHistogram.scale
  rw [rawDecode_bin]
  rfl

/-! ## Integers and their bytes -/

/-- The two bytes of a 16-bit integer. -/
def bytes16 (x : UInt16) : List UInt8 := leBytes 2 x.toNat

/-- The four bytes of a 32-bit integer. -/
def bytes32 (x : UInt32) : List UInt8 := leBytes 4 x.toNat

/-- A 16-bit integer takes two bytes. -/
@[simp] lemma length_bytes16 (x : UInt16) : (bytes16 x).length = 2 := length_leBytes 2 x.toNat

/-- A 32-bit integer takes four bytes. -/
@[simp] lemma length_bytes32 (x : UInt32) : (bytes32 x).length = 4 := length_leBytes 4 x.toNat

/-- Different 16-bit integers have different bytes. -/
lemma bytes16_injective : Function.Injective bytes16 := by
  intro x y hxy
  have hvalue := congrArg leValue hxy
  unfold bytes16 at hvalue
  rw [leValue_leBytes x.toNat_lt, leValue_leBytes y.toNat_lt] at hvalue
  exact UInt16.toNat_inj.1 hvalue

/-- Different 32-bit integers have different bytes. -/
lemma bytes32_injective : Function.Injective bytes32 := by
  intro x y hxy
  have hvalue := congrArg leValue hxy
  unfold bytes32 at hvalue
  rw [leValue_leBytes x.toNat_lt, leValue_leBytes y.toNat_lt] at hvalue
  exact UInt32.toNat_inj.1 hvalue

/-- `to_16bit_int` reads a little-endian integer. -/
lemma to16bitInt_toNat (lsb msb : UInt8) : (to16bitInt lsb msb).toNat = leValue [lsb, msb] := by
  have h1 := msb.toNat_lt
  have hshift : (msb.toUInt16 <<< 8).toNat = msb.toNat <<< 8 := by
    rw [UInt16.toNat_shiftLeft, UInt8.toNat_toUInt16, Nat.shiftLeft_eq, Nat.shiftLeft_eq]
    exact Nat.mod_eq_of_lt (show msb.toNat * 2 ^ 8 < 2 ^ 16 by omega)
  unfold to16bitInt
  rw [UInt16.toNat_or, hshift, UInt8.toNat_toUInt16, shiftLeft_or_eq_add _ lsb.toNat_lt]
  simp [leValue]

/-- A byte shifted within a 32-bit integer. -/
lemma toNat_shiftLeft_byte (b : UInt8) {k : UInt32} (hk : k.toNat ≤ 24) :
    (b.toUInt32 <<< k).toNat = b.toNat <<< k.toNat := by
  have hmod : k.toNat % 32 = k.toNat := Nat.mod_eq_of_lt (by omega)
  have hlt : b.toNat * 2 ^ k.toNat < 2 ^ 32 :=
    calc b.toNat * 2 ^ k.toNat < 2 ^ 8 * 2 ^ k.toNat :=
          Nat.mul_lt_mul_of_pos_right b.toNat_lt (Nat.two_pow_pos _)
      _ ≤ 2 ^ 8 * 2 ^ 24 := Nat.mul_le_mul_left _ (Nat.pow_le_pow_right (by decide) hk)
  rw [UInt32.toNat_shiftLeft, UInt8.toNat_toUInt32, hmod, Nat.shiftLeft_eq]
  exact Nat.mod_eq_of_lt hlt

/-- `to_32bit_int` reads a little-endian integer. -/
lemma to32bitInt_toNat (val0 val1 val2 val3 : UInt8) :
    (to32bitInt val0 val1 val2 val3).toNat = leValue [val0, val1, val2, val3] := by
  have h0 := val0.toNat_lt
  have h1 := val1.toNat_lt
  have h2 := val2.toNat_lt
  have hshift : (to32bitInt val0 val1 val2 val3).toNat =
      val3.toNat <<< 24 ||| val2.toNat <<< 16 ||| val1.toNat <<< 8 ||| val0.toNat := by
    simp only [to32bitInt, UInt32.toNat_or, UInt8.toNat_toUInt32]
    rw [toNat_shiftLeft_byte val3 (by decide), toNat_shiftLeft_byte val2 (by decide),
      toNat_shiftLeft_byte val1 (by decide)]
    rfl
  -- the bytes above are a multiple of the weight of the byte that is added
  have htop : val3.toNat <<< 24 ||| val2.toNat <<< 16 =
      (val2.toNat + 2 ^ 8 * val3.toNat) <<< 16 := by
    rw [shiftLeft_or_eq_add _ (by rw [Nat.shiftLeft_eq]; omega), Nat.shiftLeft_eq, Nat.shiftLeft_eq]
    ring
  have hmid : (val2.toNat + 2 ^ 8 * val3.toNat) <<< 16 ||| val1.toNat <<< 8 =
      (val1.toNat + 2 ^ 8 * (val2.toNat + 2 ^ 8 * val3.toNat)) <<< 8 := by
    rw [shiftLeft_or_eq_add _ (by rw [Nat.shiftLeft_eq]; omega), Nat.shiftLeft_eq, Nat.shiftLeft_eq]
    ring
  rw [hshift, htop, hmid, shiftLeft_or_eq_add _ h0]
  simp [leValue]

/-- The bytes of a 16-bit integer are the ones it was combined from. -/
lemma bytes16_to16bitInt (lsb msb : UInt8) : bytes16 (to16bitInt lsb msb) = [lsb, msb] := by
  unfold bytes16
  rw [to16bitInt_toNat]
  exact leBytes_leValue [lsb, msb]

/-- The bytes of a 32-bit integer are the ones it was combined from. -/
lemma bytes32_to32bitInt (val0 val1 val2 val3 : UInt8) :
    bytes32 (to32bitInt val0 val1 val2 val3) = [val0, val1, val2, val3] := by
  unfold bytes32
  rw [to32bitInt_toNat]
  exact leBytes_leValue [val0, val1, val2, val3]

/-! ## Frames and their integers -/

/-- The frame of the integers: the bins, the times of flight, `sfr`, `temp_pressure`, `period`,
the checksum and the three mass concentrations, each in little-endian order. -/
def wire (raw : RawHistogram) : List UInt8 :=
  (List.ofFn raw.bin).flatMap bytes16 ++
    ([raw.bin1MToF, raw.bin3MToF, raw.bin5MToF, raw.bin7MToF] ++ (bytes32 raw.sfr ++
      (bytes32 raw.tempPressure ++ (bytes32 raw.period ++ (bytes16 raw.checksum ++
        (bytes32 raw.pm1 ++ (bytes32 raw.pm25 ++ bytes32 raw.pm10)))))))

/-- The bins take 32 bytes. -/
lemma length_bins (raw : RawHistogram) : ((List.ofFn raw.bin).flatMap bytes16).length = 32 := by
  simp

/-- A frame has 62 bytes. -/
lemma length_wire (raw : RawHistogram) : (wire raw).length = 62 := by
  simp only [wire, List.length_append, length_bins, length_bytes16, length_bytes32]
  rfl

/-- **The bytes of the decoded integers are the frame**: each byte is used once, with the right
weight. -/
lemma wire_rawDecode (vals : Frame) : wire (rawDecode vals) = List.ofFn vals := by
  simp only [wire, rawDecode, List.ofFn_succ, Matrix.cons_val_zero, Matrix.cons_val_succ,
    List.ofFn_zero, List.flatMap_cons, List.flatMap_nil, bytes16_to16bitInt, bytes32_to32bitInt]
  rfl

/-- **Different integers have different frames.**

**Proof sketch.** Every field has its own width, so equal frames have equal parts, from the bins
on. -/
lemma wire_injective : Function.Injective wire := by
  intro raw raw' heq
  unfold wire at heq
  obtain ⟨hbin, heq⟩ := List.append_inj heq (by rw [length_bins, length_bins])
  obtain ⟨hmtof, heq⟩ := List.append_inj heq rfl
  obtain ⟨hsfr, heq⟩ := List.append_inj heq (by simp)
  obtain ⟨htemp, heq⟩ := List.append_inj heq (by simp)
  obtain ⟨hperiod, heq⟩ := List.append_inj heq (by simp)
  obtain ⟨hsum, heq⟩ := List.append_inj heq (by simp)
  obtain ⟨hpm1, heq⟩ := List.append_inj heq (by simp)
  obtain ⟨hpm25, hpm10⟩ := List.append_inj heq (by simp)
  have hbins := List.ofFn_injective
    (flatMap_injective bytes16_injective length_bytes16 (by simp) hbin)
  simp only [List.cons.injEq, and_true] at hmtof
  obtain ⟨h1, h3, h5, h7⟩ := hmtof
  exact RawHistogram.ext hbins h1 h3 h5 h7 (bytes32_injective hsfr) (bytes32_injective htemp)
    (bytes32_injective hperiod) (bytes16_injective hsum) (bytes32_injective hpm1)
    (bytes32_injective hpm25) (bytes32_injective hpm10)

/-- The bytes of any integers are a frame. -/
lemma exists_frame (raw : RawHistogram) : ∃ vals : Frame, List.ofFn vals = wire raw := by
  have hlen := length_wire raw
  refine ⟨fun i => (wire raw).get (i.cast hlen.symm), ?_⟩
  rw [← List.ofFn_congr hlen (wire raw).get, List.ofFn_get]

/-- A frame decodes to given integers exactly if it is made of their bytes. -/
lemma rawDecode_eq_iff (raw : RawHistogram) (vals : Frame) :
    rawDecode vals = raw ↔ List.ofFn vals = wire raw := by
  rw [← wire_rawDecode, wire_injective.eq_iff]

/-- **The decoder loses and confuses nothing.** The decoded histogram is scaled from 27 integers,
and every choice of these is decoded from exactly one frame: their little-endian concatenation
in the order of the wire. -/
theorem rawDecode_bijective : (∀ vals, decode vals = (rawDecode vals).scale) ∧
    ∀ raw, ∃ vals : Frame, List.ofFn vals = wire raw ∧
      ∀ vals', rawDecode vals' = raw ↔ vals' = vals := by
  refine ⟨decode_eq_scale, fun raw => ?_⟩
  obtain ⟨vals, hframe⟩ := exists_frame raw
  refine ⟨vals, hframe, fun vals' => ?_⟩
  rw [rawDecode_eq_iff, ← hframe]
  exact List.ofFn_injective.eq_iff

end AirLab
