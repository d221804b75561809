import AirLab.CLang.Reading
import AirLab.Gas.Record

set_option relaxedAutoImplicit false
set_option autoImplicit false

/-!
# Reading the log back

A log file is meant to be read: split into lines and the lines into fields, it gives back what
was measured. The cells of the gas sensors come back exactly, the floating-point values within
half a hundredth, as long as the records fit their arrays.

## Main definitions

* `AirLab.record` — the text of a reading, both kinds of records in one.
* `AirLab.Storable` — a reading whose record fits its array.
* `AirLab.readRecord`, `AirLab.readLog` — a line and a file read back.
* `AirLab.ReadAs` — what is read back is the reading.

## Main results

* `AirLab.readLog_records` — a file of whole records gives back the readings.
* `AirLab.records_readBack` — the records of both threads are read back.
-/

namespace AirLab

open CLang Effects

/-! ## Readings and their texts -/

/-- The text of a reading: the time, whole numbers and floating-point values. -/
def record (ints : List ℕ) (reals : List Flt) : Text :=
  joinFields (timeField :: (ints.map decimal ++ reals.map fixed2))

/-- **A reading that can be stored**: its values are finite and its record fits the array. The time
takes 20 characters, a whole number its digits, a value its sign, its digits, a point and two more
digits, and each of them a separator. -/
structure Storable (ints : List ℕ) (reals : List Flt) : Prop where
  finite : ∀ x ∈ reals, x.IsFinite
  fits : 20 + (ints.map fun n => (decimal n).length + 1).sum +
    (reals.map fun x => intWidth x.toRat + 4).sum < 200

/-- **What is read back is the reading**: its whole numbers exactly, its other values within half a
hundredth. -/
def ReadAs (ints : List ℕ) (reals : List Flt) (line : Option (List ℕ × List ℚ)) : Prop :=
  ∃ values, line = some (ints, values) ∧
    List.Forall₂ (fun (x : Flt) value => |value - x.toRat| ≤ 1 / 200) reals values

/-- What a reading is read back as: its whole numbers, and its other values in hundredths, if they
are all finite. -/
def readBack (ints : List ℕ) (reals : List Flt) : Option (List ℕ × List ℚ) :=
  (reals.mapM Flt.hundredths?).map fun values => (ints, values)

/-- Fields read back as `cells` whole numbers and other values. -/
def readFields (cells : ℕ) (fields : List Text) : Option (List ℕ × List ℚ) := do
  let ints ← (fields.take cells).mapM readDecimal
  let values ← (fields.drop cells).mapM readFixed2
  return (ints, values)

/-- A line read back, without its first field, the time. -/
def readRecord (cells : ℕ) (line : Text) : Option (List ℕ × List ℚ) :=
  readFields cells (line.splitOn '|').tail

/-- A file read back, line by line. -/
def readLog (cells : ℕ) (content : Text) : List (Option (List ℕ × List ℚ)) :=
  (readLines content).map (readRecord cells)

/-- The record of the gas thread. -/
lemma gasRecord_eq (gs : Fin 8 → UInt16) (ambSensors : Fin 3 → Flt) :
    gasRecord gs ambSensors = record (List.ofFn fun i => (gs i).toNat) (List.ofFn ambSensors) := by
  unfold gasRecord record
  rw [List.map_ofFn, List.cons_append]
  rfl

/-! ## Lines and fields -/

/-- Fields with bars between them. -/
def fieldLine (fs : List Text) : Text := ['|'].intercalate fs

/-- Joined fields are a line and its end. -/
lemma joinFields_eq (fs : List Text) : joinFields fs = fieldLine fs ++ ['\n'] := by
  unfold fieldLine
  induction fs with
  | nil => rfl
  | cons f fs ih =>
    cases fs with
    | nil => simp [joinFields]
    | cons g fs =>
      rw [joinFields, ih, List.intercalate_cons_cons]
      · simp
      · simp

/-- A line of fields contains no newline. -/
lemma newline_not_mem_fieldLine {fs : List Text} (hfs : ∀ f ∈ fs, IsField f) :
    '\n' ∉ fieldLine fs := by
  have hbar : '\n' ≠ '|' := by decide
  unfold fieldLine
  induction fs with
  | nil => simp
  | cons f fs ih =>
    have hf := (hfs f List.mem_cons_self).2.1
    have hrest := ih fun g hg => hfs g (List.mem_cons_of_mem f hg)
    cases fs with
    | nil => simpa using hf
    | cons g fs =>
      rw [List.intercalate_cons_cons]
      simp only [List.mem_append, List.mem_singleton, not_or]
      exact ⟨⟨hf, hbar⟩, hrest⟩

/-- A line of fields is split into them. -/
lemma splitOn_fieldLine {fs : List Text} (hne : fs ≠ []) (hfs : ∀ f ∈ fs, IsField f) :
    (fieldLine fs).splitOn '|' = fs :=
  List.splitOn_intercalate '|' (fun f hf => (hfs f hf).1) hne

/-- The fields of a record. -/
def lineFields (ints : List ℕ) (reals : List Flt) : List Text :=
  timeField :: (ints.map decimal ++ reals.map fixed2)

/-- They are fields. -/
lemma isField_recordFields (ints : List ℕ) (reals : List Flt) :
    ∀ f ∈ lineFields ints reals, IsField f := by
  intro f hf
  rcases List.mem_cons.1 hf with rfl | hf
  · exact isField_timeField
  rcases List.mem_append.1 hf with hf | hf
  · obtain ⟨n, -, rfl⟩ := List.mem_map.1 hf
    exact isField_of_subset (decimal_subset n)
  · obtain ⟨x, -, rfl⟩ := List.mem_map.1 hf
    exact isField_of_subset (fixed2_subset x)

/-- Whole numbers are read back. -/
lemma mapM_readDecimal (ints : List ℕ) : (ints.map decimal).mapM readDecimal = some ints := by
  induction ints with
  | nil => rfl
  | cons n ints ih => simp [readDecimal_decimal, ih]

/-- Floating-point values are read back, if they are all finite. -/
lemma mapM_readFixed2 (reals : List Flt) :
    (reals.map fixed2).mapM readFixed2 = reals.mapM Flt.hundredths? := by
  induction reals with
  | nil => rfl
  | cons x reals ih => simp [readFixed2_fixed2, ih]

/-- The line of a record is read back. -/
lemma readRecord_fieldLine (ints : List ℕ) (reals : List Flt) :
    readRecord ints.length (fieldLine (lineFields ints reals)) = readBack ints reals := by
  have htake : (ints.map decimal ++ reals.map fixed2).take ints.length = ints.map decimal :=
    List.take_left' (List.length_map _)
  have hdrop : (ints.map decimal ++ reals.map fixed2).drop ints.length = reals.map fixed2 :=
    List.drop_left' (List.length_map _)
  have hsplit : (fieldLine (lineFields ints reals)).splitOn '|' = lineFields ints reals :=
    splitOn_fieldLine (List.cons_ne_nil _ _) (isField_recordFields ints reals)
  rw [readRecord, hsplit, lineFields, List.tail_cons, readFields, htake, hdrop,
    mapM_readDecimal, mapM_readFixed2, readBack]
  cases reals.mapM Flt.hundredths? <;> rfl

/-- **A file of whole records gives back the readings**, in their order.

**Proof sketch.** Each record is a line of fields without separators inside, so that splitting the
file undoes joining the records, and splitting a line undoes joining its fields. -/
theorem readLog_records (cells : ℕ) (readings : List (List ℕ × List Flt))
    (hcells : ∀ r ∈ readings, r.1.length = cells) :
    readLog cells (readings.map fun r => record r.1 r.2).flatten =
      readings.map fun r => readBack r.1 r.2 := by
  have htext : (readings.map fun r => record r.1 r.2) =
      (readings.map fun r => fieldLine (lineFields r.1 r.2)).map (· ++ ['\n']) := by
    rw [List.map_map]
    exact List.map_congr_left fun r _ => joinFields_eq _
  unfold readLog
  rw [htext, readLines_flatten, List.map_map]
  · refine List.map_congr_left fun r hr => ?_
    rw [Function.comp_apply, ← hcells r hr, readRecord_fieldLine]
  · intro l hl
    obtain ⟨r, -, rfl⟩ := List.mem_map.1 hl
    exact newline_not_mem_fieldLine (isField_recordFields r.1 r.2)

/-! ## Readings that fit -/

/-- The length of a record. -/
lemma length_recordText {ints : List ℕ} {reals : List Flt} (hfinite : ∀ x ∈ reals, x.IsFinite) :
    (record ints reals).length = 20 + (ints.map fun n => (decimal n).length + 1).sum +
      (reals.map fun x => intWidth x.toRat + 4).sum := by
  have htime : timeField.length = 19 := by decide
  have hvalues : (reals.map fun x => (fixed2 x).length) =
      reals.map fun x => intWidth x.toRat + 3 := by
    refine List.map_congr_left fun x hx => ?_
    rw [(hfinite x hx).eq_fin, length_fixed2]
    rfl
  rw [record, length_joinFields (List.cons_ne_nil _ _)]
  simp only [List.map_cons, List.map_append, List.map_map, List.sum_cons, List.sum_append,
    List.length_cons, List.length_append, List.length_map, Function.comp_def, htime, hvalues,
    List.sum_map_add, List.map_const', List.sum_replicate_nat]
  omega

/-- A reading that can be stored is formatted whole. -/
lemma Storable.snprintf {ints : List ℕ} {reals : List Flt} (hs : Storable ints reals) :
    (CStr.snprintf textData_pos (record ints reals)).chars = record ints reals := by
  refine CStr.snprintf_chars textData_pos ?_ ?_
  · exact nul_not_mem_joinFields (isField_recordFields ints reals)
  · rw [length_recordText hs.finite]
    exact hs.fits

/-- Finite values are read back within half a hundredth. -/
lemma mapM_hundredths? {reals : List Flt} (hfinite : ∀ x ∈ reals, x.IsFinite) :
    ∃ values, reals.mapM Flt.hundredths? = some values ∧
      List.Forall₂ (fun (x : Flt) value => |value - x.toRat| ≤ 1 / 200) reals values := by
  induction reals with
  | nil => exact ⟨[], rfl, List.Forall₂.nil⟩
  | cons x reals ih =>
    obtain ⟨values, hvalues, hall⟩ := ih fun y hy => hfinite y (List.mem_cons_of_mem x hy)
    have hx := (hfinite x List.mem_cons_self).eq_fin
    refine ⟨toHundredths x.toRat :: values, ?_, .cons (abs_toHundredths_sub_le _) hall⟩
    rw [List.mapM_cons, hvalues, hx]
    rfl

/-- A reading that can be stored is read back. -/
lemma Storable.readAs {ints : List ℕ} {reals : List Flt} (hs : Storable ints reals) :
    ReadAs ints reals (readBack ints reals) := by
  obtain ⟨values, hvalues, hall⟩ := mapM_hundredths? hs.finite
  exact ⟨values, by rw [readBack, hvalues]; rfl, hall⟩

/-- **A file of stored records gives back the readings**, in their order. -/
lemma readLog_stored (cells : ℕ) (readings : List (List ℕ × List Flt))
    (hcells : ∀ r ∈ readings, r.1.length = cells) (hs : ∀ r ∈ readings, Storable r.1 r.2) :
    List.Forall₂ (fun r => ReadAs r.1 r.2) readings
      (readLog cells (readings.map fun r =>
        (CStr.snprintf textData_pos (record r.1 r.2)).chars).flatten) := by
  have hwhole : (readings.map fun r => (CStr.snprintf textData_pos (record r.1 r.2)).chars) =
      readings.map fun r => record r.1 r.2 :=
    List.map_congr_left fun r hr => (hs r hr).snprintf
  rw [hwhole, readLog_records cells readings hcells, List.forall₂_map_right_iff,
    List.forall₂_same]
  exact fun r hr => (hs r hr).readAs

/-! ## The records of the threads -/

/-- A reading of the gas thread: the cells and the ambient values. -/
structure GasReading where
  gs : Fin 8 → UInt16
  ambSensors : Fin 3 → Flt
  storable : Storable (List.ofFn fun i => (gs i).toNat) (List.ofFn ambSensors)

namespace GasReading

/-- The text the gas thread stores. -/
def text (r : GasReading) : Text := (CStr.snprintf textData_pos (gasRecord r.gs r.ambSensors)).chars

/-- The cells. -/
def ints (r : GasReading) : List ℕ := List.ofFn fun i => (r.gs i).toNat

/-- The ambient values. -/
def reals (r : GasReading) : List Flt := List.ofFn r.ambSensors

end GasReading

/-- The floating-point values in the record of the particle thread. -/
def particleValues (data : Histogram) (ambSensors : Fin 3 → Flt) : List Flt :=
  [data.period, data.sfr, data.pm1, data.pm25, data.pm10] ++ List.ofFn ambSensors

/-- The record of the particle thread. -/
lemma particleRecord_eq (data : Histogram) (ambSensors : Fin 3 → Flt) :
    particleRecord data ambSensors = record [] (particleValues data ambSensors) := rfl

/-- A reading of the particle thread: the histogram and the ambient values. -/
structure ParticleReading where
  data : Histogram
  ambSensors : Fin 3 → Flt
  storable : Storable [] (particleValues data ambSensors)

namespace ParticleReading

/-- The text the particle thread stores. -/
def text (r : ParticleReading) : Text :=
  (CStr.snprintf textData_pos (particleRecord r.data r.ambSensors)).chars

/-- The averages and the ambient values. -/
def reals (r : ParticleReading) : List Flt := particleValues r.data r.ambSensors

end ParticleReading

/-- The records of the gas thread are read back. -/
lemma readLog_gasTexts (readings : List GasReading) :
    List.Forall₂ (fun r => ReadAs r.ints r.reals) readings
      (readLog 8 (readings.map GasReading.text).flatten) := by
  have hread := readLog_stored 8 (readings.map fun r => (r.ints, r.reals))
    (fun p hp => ?_) fun p hp => ?_
  · rw [List.map_map, List.forall₂_map_left_iff] at hread
    unfold GasReading.text
    simp only [gasRecord_eq]
    exact hread
  · obtain ⟨r, -, rfl⟩ := List.mem_map.1 hp
    exact List.length_ofFn
  · obtain ⟨r, -, rfl⟩ := List.mem_map.1 hp
    exact r.storable

/-- The records of the particle thread are read back. -/
lemma readLog_particleTexts (readings : List ParticleReading) :
    List.Forall₂ (fun r => ReadAs [] r.reals) readings
      (readLog 0 (readings.map ParticleReading.text).flatten) := by
  have hread := readLog_stored 0 (readings.map fun r => ([], r.reals))
    (fun p hp => ?_) fun p hp => ?_
  · rw [List.map_map, List.forall₂_map_left_iff] at hread
    unfold ParticleReading.text
    simp only [particleRecord_eq]
    exact hread
  · obtain ⟨r, -, rfl⟩ := List.mem_map.1 hp
    rfl
  · obtain ⟨r, -, rfl⟩ := List.mem_map.1 hp
    exact r.storable

/-- **The records of both threads are read back.** For every sequence of readings whose records fit
their arrays, the texts the threads store give back in a row, line by line, the cells of the gas
sensors exactly and all other values within half a hundredth. -/
theorem records_readBack (gases : List GasReading) (particles : List ParticleReading) :
    List.Forall₂ (fun r => ReadAs r.ints r.reals) gases
        (readLog 8 (gases.map GasReading.text).flatten) ∧
      List.Forall₂ (fun r => ReadAs [] r.reals) particles
        (readLog 0 (particles.map ParticleReading.text).flatten) :=
  ⟨readLog_gasTexts gases, readLog_particleTexts particles⟩

end AirLab
