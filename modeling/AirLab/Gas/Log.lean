import Mathlib.Tactic.FinCases
import AirLab.Ambient.Averages
import AirLab.CLang.Range
import AirLab.Storage.Journal
import AirLab.Storage.RoundTrip

set_option relaxedAutoImplicit false
set_option autoImplicit false

/-!
# What the gas thread leaves behind

As long as the stack holds finite values of type `float` and the sensor driver delivers 32-bit
numbers, every record of the gas thread is a whole line with finite values. So the log file can be
read back, and so can every payload on the port of the thread.

## Main definitions

* `AirLab.Typed` — the answers of a history are values of their C types, and finite.
* `AirLab.GasLines` — the gas thread formats whole records.

## Main results

* `AirLab.gasLog_readBack` — the log file gives back readings of the gas thread.
* `AirLab.gasPayload_readBack` — so does every payload on its port.
-/

namespace AirLab

open CLang Effects

/-! ## Answers of their types -/

/-- Both parts are 32-bit numbers. -/
def SensorValue.IsInt32 (v : SensorValue) : Prop := |v.val1| ≤ 2 ^ 31 ∧ |v.val2| ≤ 2 ^ 31

/-- The answer is a value of its C type, where the records depend on it: what the stack holds for
the sums are finite values of type `float`, what the driver delivers is a `struct sensor_value`. -/
def TypedAnswer : BoardEvent → Prop
  | ⟨.uninit .sum, sum⟩ => ∀ i, ((sum : Fin 3 → Flt) i).Within Flt.fltMax
  | ⟨.sensorChannelGet _, some v⟩ => SensorValue.IsInt32 v
  | _ => True

/-- The answers of a history are such values. -/
def Typed (h : History) : Prop := ∀ e ∈ h, TypedAnswer e

/-- They were so before. -/
lemma Typed.of_append {es h : History} (ht : Typed (es ++ h)) : Typed h := fun e he =>
  ht e (List.mem_append_right es he)

/-- They were so before the last event. -/
lemma Typed.of_cons {e : BoardEvent} {h : History} (ht : Typed (e :: h)) : Typed h := fun e' he =>
  ht e' (List.mem_cons_of_mem e he)

/-- The range of a sensor value. -/
lemma SensorValue.IsInt32.within {v : SensorValue} (hv : v.IsInt32) :
    v.toDouble.Within (2 ^ 32) := by
  obtain ⟨h1, h2⟩ := hv
  have h1' : |(v.val1 : ℚ)| ≤ 2 ^ 31 := by exact_mod_cast h1
  have h2' : |(v.val2 : ℚ)| ≤ 2 ^ 31 := by exact_mod_cast h2
  rw [abs_le] at h1' h2'
  refine ⟨(v.val1 : ℚ) + v.val2 / 10 ^ 6, rfl, ?_⟩
  push_cast
  rw [abs_le]
  constructor <;> linarith [h1'.1, h1'.2, h2'.1, h2'.2]

/-- The range of the ambient values: a value from the stack and 255 samples. -/
def ambientRange : ℕ := Flt.fltMax + 255 * 2 ^ 32

/-- All three ambient values are finite and in the range. -/
def InRange (b : ℕ) (a : Fin 3 → Flt) : Prop := ∀ i, (a i).Within b

section Range

variable {env : Env Call Resp} {S : History → Prop}

/-- One pass of the sample loop. -/
lemma ambientPass_inRange (a : Fin 3 → Flt) (k i : ℕ) (sum : Fin 3 → Flt) :
    Prog.Triple env (fun h => Typed h → InRange ambientRange a ∧
        InRange (Flt.fltMax + k * 2 ^ 32) sum) (ambientPass i sum)
      (fun r h => r.elim (Typed h → InRange ambientRange a) fun sum' => Typed h →
        InRange ambientRange a ∧ InRange (Flt.fltMax + (k + 1) * 2 ^ 32) sum') S := by
  intro h hh
  unfold ambientPass
  rw [Prog.wp_bind]
  refine wp_ambientSample (fun es _ => ?_) fun v s => ?_
  · exact (Prog.wp_pure _).2 fun ht => (hh ht.of_append).1
  refine (Prog.wp_pure _).2 fun ht => ?_
  have hreads : ∀ e ∈ channelReads v, TypedAnswer e := fun e he =>
    ht e (List.mem_append_left _ he)
  have hpress : v.press.IsInt32 := hreads ⟨.sensorChannelGet .press, some v.press⟩
    (by simp [channelReads])
  have htemp : v.temp.IsInt32 := hreads ⟨.sensorChannelGet .ambientTemp, some v.temp⟩
    (by simp [channelReads])
  have hhum : v.hum.IsInt32 := hreads ⟨.sensorChannelGet .humidity, some v.hum⟩
    (by simp [channelReads])
  obtain ⟨ha, hsum⟩ := hh ht.of_append.of_cons.of_cons.of_cons
  have hbound : Flt.fltMax + (k + 1) * 2 ^ 32 = Flt.fltMax + k * 2 ^ 32 + 2 ^ 32 := by ring
  refine ⟨ha, fun i => ?_⟩
  rw [hbound]
  fin_cases i
  · exact (hsum 0).add hhum.within
  · exact (hsum 1).add htemp.within
  · exact (hsum 2).add hpress.within

/-- **`ambient_sensors_read` keeps its array in the range.** -/
lemma ambientSensorsRead_inRange {samples : UInt8} (hsamples : 0 < samples.toNat)
    (a : Fin 3 → Flt) :
    Prog.Triple env (fun h => Typed h → InRange ambientRange a) (ambientSensorsRead samples a)
      (fun a' h => Typed h → InRange ambientRange a') S := by
  intro h hh
  unfold ambientSensorsRead
  rw [Prog.wp_bind]
  refine (Prog.wp_perform (Call.uninit .sum) _).2 ?_
  rw [Prog.wp_bind]
  refine Prog.wp.mono (Prog.Triple.forUntil (N := fun h => Typed h → InRange ambientRange a)
    (I := fun k sum h => Typed h → InRange ambientRange a ∧
      InRange (Flt.fltMax + k * 2 ^ 32) sum) samples.toNat
    (fun k _ sum => ambientPass_inRange a k k sum) _ _ ?_) (fun r h' hr => ?_) fun _ hs => hs
  · intro ht
    refine ⟨hh ht.of_cons, ?_⟩
    rw [Nat.zero_mul, Nat.add_zero]
    exact ht _ List.mem_cons_self
  cases r with
  | none => exact (Prog.wp_pure _).2 hr
  | some sum =>
    refine (Prog.wp_pure _).2 fun ht i => ?_
    have hsum : ∀ i, (sum i).Within ambientRange := fun i => by
      refine ((hr ht).2 i).mono ?_
      have hlt : samples.toNat < 256 := samples.toNat_lt
      unfold ambientRange
      omega
    rw [ambientMeans_apply]
    exact (hsum i).div hsamples

end Range

/-! ## Whole records -/

/-- The cells of a reading are averages of clipped values. -/
def GasReading.Clipped (r : GasReading) : Prop := ∀ i, (r.gs i).toNat ≤ 2000

/-- The gas thread formats the record of a reading that is stored whole. -/
def GasLines (e : BoardEvent) (past : History) : Prop :=
  ∀ t, e.call = .snprintfcb t → Typed past → ∃ r : GasReading, t.chars = r.text ∧ r.Clipped

/-- A reading with values in the range can be stored. -/
lemma storable_of_inRange {gs : Fin 8 → UInt16} {a : Fin 3 → Flt} (hgs : ∀ i, (gs i).toNat ≤ 2000)
    (ha : InRange ambientRange a) :
    Storable (List.ofFn fun i => (gs i).toNat) (List.ofFn a) := by
  have hlog : Nat.log 10 ambientRange < 39 := by
    have hpos : 0 < ambientRange := by
      unfold ambientRange
      omega
    have hlt : ambientRange < 10 ^ 39 := by
      unfold ambientRange Flt.fltMax
      norm_num
    exact Nat.log_lt_of_lt_pow (Nat.pos_iff_ne_zero.1 hpos) hlt
  have hcell : ∀ n ∈ List.ofFn fun i => (gs i).toNat, (decimal n).length + 1 ≤ 5 := by
    intro n hn
    obtain ⟨i, rfl⟩ := List.mem_ofFn.1 hn
    have hdigits : Nat.log 10 (gs i).toNat ≤ Nat.log 10 2000 := Nat.log_mono_right (hgs i)
    have hthree : Nat.log 10 2000 < 4 := Nat.log_lt_of_lt_pow (by decide) (by decide)
    rw [length_decimal]
    omega
  have hvalue : ∀ x ∈ List.ofFn a, intWidth x.toRat + 4 ≤ 44 := by
    intro x hx
    obtain ⟨i, rfl⟩ := List.mem_ofFn.1 hx
    have hwidth := (ha i).intWidth_le
    omega
  have hcells := sum_map_le hcell
  have hvalues := sum_map_le hvalue
  rw [List.length_ofFn] at hcells hvalues
  refine ⟨fun x hx => ?_, by omega⟩
  obtain ⟨i, rfl⟩ := List.mem_ofFn.1 hx
  exact (ha i).isFinite

section Lines

variable {env : Env Call Resp} {α : Type}

/-- A call that formats nothing. -/
lemma gasLines_cons {e : BoardEvent} {h : History} (he : e.call.recordOp? ≠ some .format)
    (hh : Always GasLines h) : Always GasLines (e :: h) := by
  refine ⟨fun t hformat => ?_, hh⟩
  rw [hformat] at he
  exact absurd rfl he

/-- A program that formats nothing. -/
lemma gasLines_of_calls {p : App α} (hp : p.Within fun c => c.recordOp? ≠ some .format) (P : Prop) :
    Prog.Triple env (fun h => Always GasLines h ∧ (Typed h → P)) p
      (fun _ h => Always GasLines h ∧ (Typed h → P)) (Always GasLines) :=
  Prog.Triple.of_calls (fun _ _ he hh => ⟨gasLines_cons he hh.1, fun ht => hh.2 ht.of_cons⟩)
    (fun _ _ hh => hh.1) hp

/-- A pass of the gas thread formats a whole record. -/
lemma readGasPass_lines (l : (Fin 8 → UInt16) × (Fin 3 → Flt)) :
    Prog.Triple env (fun h => Always GasLines h ∧ (Typed h → InRange ambientRange l.2))
      (readGasPass l)
      (fun l' h => Always GasLines h ∧ (Typed h → InRange ambientRange l'.2))
      (Always GasLines) := by
  have hstorage : ∀ textData, (saveData textData "gas").Within fun c =>
      c.recordOp? ≠ some .format := fun textData =>
    (saveData_calls textData "gas").mono Call.ofStorage.formatless
  have hcopy : ∀ textData, (strcpy .gasMsg textData).Within fun c =>
      c.recordOp? ≠ some .format := fun textData => perform_within nofun
  have hsleep : (kMsleep 30000).Within fun c => c.recordOp? ≠ some .format :=
    perform_within nofun
  intro h hh
  unfold readGasPass
  rw [Prog.wp_bind]
  have hgas : (gasSensorsRead l.1 5).wp env (fun _ h => Always GasLines h ∧
      (Typed h → InRange ambientRange l.2)) (Always GasLines) h :=
    gasLines_of_calls ((gasSensorsRead_calls l.1 5).mono fun c hc =>
      Call.formatless (Call.ofGas.noRecord c hc)) (InRange ambientRange l.2) h hh
  have hcells : (gasSensorsRead l.1 5).wp env (fun gs _ => ∀ i, (gs i).toNat ≤ 2000)
      (fun _ => True) h := gasSensorsRead_le l.1 h trivial
  refine (hgas.and hcells).mono ?_ fun _ hs => hs.1
  intro gs h₁ hgs
  rw [Prog.wp_bind]
  have hambient : (ambientSensorsRead 1 l.2).wp env (fun _ h => Always GasLines h ∧
      (Typed h → True)) (Always GasLines) h₁ :=
    gasLines_of_calls ((ambientSensorsRead_calls 1 l.2).mono fun c hc =>
      Call.formatless (Call.ofAmbient.noRecord c hc)) True h₁ ⟨hgs.1.1, fun _ => trivial⟩
  have hrange : (ambientSensorsRead 1 l.2).wp env (fun a h => Typed h → InRange ambientRange a)
      (fun _ => True) h₁ := ambientSensorsRead_inRange (by decide) l.2 h₁ hgs.1.2
  refine (hambient.and hrange).mono ?_ fun _ hs => hs.1
  intro a h₂ ha
  rw [Prog.wp_bind, wp_snprintfcb]
  have hformat : Always GasLines (⟨.snprintfcb (CStr.snprintf textData_pos (gasRecord gs a)), ()⟩ ::
      h₂) := by
    refine ⟨fun t ht htyped => ?_, ha.1.1⟩
    obtain rfl := Call.snprintfcb.inj ht
    exact ⟨⟨gs, a, storable_of_inRange hgs.2 (ha.2 htyped)⟩, rfl, hgs.2⟩
  refine (Prog.Triple.bind (gasLines_of_calls (hstorage _) (InRange ambientRange a)) fun _ =>
    Prog.Triple.bind (gasLines_of_calls (hcopy _) (InRange ambientRange a)) fun _ =>
    Prog.Triple.bind (gasLines_of_calls hsleep (InRange ambientRange a)) fun _ =>
    Prog.Triple.pure fun _ hh => hh) _ ⟨hformat, fun ht => ha.2 ht.of_cons⟩

end Lines

/-- The gas thread formats whole records. -/
lemma gas_lines (env : AppEnv) (fuel joins : ℕ) (passes : ThreadId → ℕ)
    (schedule : List ThreadId) :
    Always GasLines (own .gas (appHistory env fuel joins passes schedule)) := by
  refine System.own_always (fun env => Prog.wp.final ?_) schedule
  have hsleep : (kMsleep 10000).Within fun c => c.recordOp? ≠ some .format :=
    perform_within nofun
  have huninit : (uninit .gs).Within fun c => c.recordOp? ≠ some .format :=
    perform_within nofun
  have hzero : InRange ambientRange fun _ => 0 := fun _ => Flt.within_zero _
  have hgas : Prog.Triple env (fun h => Always GasLines h ∧ (Typed h → InRange ambientRange
      fun _ => 0)) (readGasAndAmbientSensors (passes .gas))
      (fun l h => Always GasLines h ∧ (Typed h → InRange ambientRange l.2)) (Always GasLines) := by
    unfold readGasAndAmbientSensors
    refine Prog.Triple.bind (gasLines_of_calls hsleep _) fun _ => ?_
    refine Prog.Triple.bind (gasLines_of_calls huninit _) fun gs => ?_
    exact Prog.Triple.forRange (I := fun _ l h => Always GasLines h ∧
      (Typed h → InRange ambientRange l.2)) (passes .gas) (fun _ _ l => readGasPass_lines l)
      (gs, fun _ => 0)
  exact (hgas.bind fun _ => Prog.Triple.pure (a := ()) fun _ hh => hh.1) []
    ⟨trivial, fun _ => hzero⟩

/-! ## The log file and the payloads -/

/-- What is formatted is the text of a reading. -/
lemma exists_reading {h : History} (hlines : Always GasLines h) (ht : Typed h) {t : Text}
    (hmem : t ∈ (formatted h).map CStr.chars) : ∃ r : GasReading, t = r.text ∧ r.Clipped := by
  induction h with
  | nil => simp [formatted] at hmem
  | cons e h ih =>
    have hrest := ih hlines.2 ht.of_cons
    obtain ⟨c, a⟩ := e
    cases c with
    | snprintfcb t' =>
      rcases List.mem_cons.1 hmem with rfl | hmem
      · exact hlines.1 t' rfl ht.of_cons
      · exact hrest hmem
    | _ => exact hrest hmem

/-- The texts of readings, in a row. -/
lemma exists_readings {texts : List Text}
    (hall : ∀ t ∈ texts, ∃ r : GasReading, t = r.text ∧ r.Clipped) :
    ∃ readings : List GasReading, texts = readings.map GasReading.text ∧
      ∀ r ∈ readings, r.Clipped := by
  induction texts with
  | nil => exact ⟨[], rfl, fun r hr => absurd hr List.not_mem_nil⟩
  | cons t texts ih =>
    obtain ⟨r, rfl, hr⟩ := hall t List.mem_cons_self
    obtain ⟨readings, rfl, hreadings⟩ := ih fun t' ht' => hall t' (List.mem_cons_of_mem _ ht')
    exact ⟨r :: readings, rfl, List.forall_mem_cons.2 ⟨hr, hreadings⟩⟩

/-- Each payload on port 1 is empty, or the text of a reading formatted before that is read back
from it. -/
def PayloadsReadBack (H : AppHistory) : Prop :=
  ∀ s ∈ payloads .gas 1 H, s.1 = [] ∨ ∃ r : GasReading, r.Clipped ∧ s.1 = r.text ∧
    r.text ∈ (records .gas H).reverse.take s.2 ∧
    ∃ line, readLog 8 s.1 = [line] ∧ ReadAs r.ints r.reals line

section Run

variable (env : AppEnv) (fuel joins : ℕ) (passes : ThreadId → ℕ) (schedule : List ThreadId)

/-- The records of the gas thread are texts of readings. -/
lemma gasRecords_readings
    (htyped : ∀ e ∈ appHistory env fuel joins passes schedule, TypedAnswer e.2) :
    ∀ t ∈ records .gas (appHistory env fuel joins passes schedule),
      ∃ r : GasReading, t = r.text ∧ r.Clipped := by
  intro t ht
  refine exists_reading (gas_lines env fuel joins passes schedule) (fun e he => ?_) ht
  exact htyped _ (of_mem_own he)

/-- **The log of the gas thread can be read back.** In every run in which the stack holds finite
values, the driver delivers values of its type and no write to the file of the gas thread is short,
the file gives back, line by line and in their order, readings of the thread: the eight cells, which
are at most 2000, and the three ambient values within half a hundredth. -/
theorem gasLog_readBack
    (htyped : ∀ e ∈ appHistory env fuel joins passes schedule, TypedAnswer e.2)
    (hcard : Always (fun e _ => ¬ ShortWrite (logName "gas") e.2)
      (appHistory env fuel joins passes schedule)) :
    ∃ readings : List GasReading, (∀ r ∈ readings, r.Clipped) ∧
      (readings.map GasReading.text).Sublist
        (records .gas (appHistory env fuel joins passes schedule)).reverse ∧
      List.Forall₂ (fun r => ReadAs r.ints r.reals) readings
        (readLog 8 (logContent (logName "gas")
          ((appHistory env fuel joins passes schedule).map Prod.snd))) := by
  have hintegrity : LogIntegrity .gas (logName "gas")
      (appHistory env fuel joins passes schedule) :=
    appHistory_logIntegrity env fuel joins passes schedule (Or.inl ⟨rfl, rfl⟩)
  obtain ⟨whole, hsub, hcontent⟩ := hintegrity.whole hcard
  obtain ⟨readings, rfl, hclipped⟩ := exists_readings fun t ht =>
    gasRecords_readings env fuel joins passes schedule htyped t
      (List.mem_reverse.1 (hsub.subset ht))
  refine ⟨readings, hclipped, hsub, ?_⟩
  rw [hcontent]
  exact readLog_gasTexts readings

/-- **Every payload on the port of the gas thread can be read back.** In every run in which the
stack holds finite values and the driver delivers values of its type, a payload on port 1 is empty
or the text of a reading that the gas thread formatted before, and gives that reading back. -/
theorem gasPayload_readBack
    (htyped : ∀ e ∈ appHistory env fuel joins passes schedule, TypedAnswer e.2) :
    PayloadsReadBack (appHistory env fuel joins passes schedule) := by
  intro s hs
  have hserves : Serves .gas .gasMsg 1 := Or.inl ⟨rfl, rfl, rfl⟩
  have hwhole := (appHistory_sentInOrder env fuel joins passes schedule hserves).whole s hs
  refine hwhole.imp_right fun hmem => ?_
  obtain ⟨r, htext, hclipped⟩ := gasRecords_readings env fuel joins passes schedule htyped s.1
    (List.mem_reverse.1 (List.mem_of_mem_take hmem))
  refine ⟨r, hclipped, htext, htext ▸ hmem, ?_⟩
  have hread := readLog_gasTexts [r]
  rw [List.map_singleton, List.flatten_singleton, ← htext, List.forall₂_cons_left_iff] at hread
  obtain ⟨line, rest, hline, hrest, hlog⟩ := hread
  obtain rfl := List.forall₂_nil_left_iff.1 hrest
  exact ⟨line, hlog, hline⟩

end Run

/-! ## A run at work -/

/-- The sensor delivers values of its type there. -/
lemma workingSample_isInt32 (n : ℕ) (chan : SensorChannel) :
    ((workingSample n).channel chan).IsInt32 := by
  cases chan <;> simp only [Sample.channel, workingSample, SensorValue.IsInt32, abs_le] <;> omega

/-- So is what its driver stores. -/
lemma storedSample_isInt32 {H : AppHistory}
    (hH : Always (fun e past => e.2.resp = shared workingEnv past e.1 e.2.call) H) {s : Sample}
    (hs : storedSample H = some s) (chan : SensorChannel) : (s.channel chan).IsInt32 := by
  induction H with
  | nil => cases hs
  | cons e H ih =>
    obtain ⟨hnow, hpast⟩ := hH
    obtain ⟨i, c, r⟩ := e
    cases c with
    | sensorSampleFetch =>
      obtain rfl : r = some (workingSample (own i H).length) := hnow
      obtain rfl := Option.some.inj hs
      exact workingSample_isInt32 _ chan
    | _ => exact ih hpast hs

section Working

variable (fuel joins : ℕ) (passes : ThreadId → ℕ) (schedule : List ThreadId)

/-- What was answered, in such an environment. -/
lemma workingEnv_answered : Always (fun e past => e.2.resp = shared workingEnv past e.1 e.2.call)
    (appHistory workingEnv fuel joins passes schedule) :=
  System.always_answered (application fuel joins passes) schedule

/-- Its answers have their C types. -/
lemma workingEnv_typed : ∀ e ∈ appHistory workingEnv fuel joins passes schedule,
    TypedAnswer e.2 := by
  intro e he
  obtain ⟨later, past, heq⟩ := List.append_of_mem he
  have hanswered := workingEnv_answered fuel joins passes schedule
  rw [heq] at hanswered
  obtain ⟨hresp, hpast⟩ := hanswered.of_append
  obtain ⟨i, c, r⟩ := e
  cases c with
  | uninit slot =>
    cases slot with
    | sum =>
      obtain rfl : r = fun _ => (0 : Flt) := hresp
      exact fun i => Flt.within_zero _
    | _ => trivial
  | sensorChannelGet chan =>
    obtain rfl : r = (storedSample past).map fun s => s.channel chan := hresp
    cases hstored : storedSample past with
    | none => trivial
    | some s => exact storedSample_isInt32 hpast hstored chan
  | _ => trivial

/-- No write is short. -/
lemma workingEnv_noShortWrite (fname : Text) : Always (fun e _ => ¬ ShortWrite fname e.2)
    (appHistory workingEnv fuel joins passes schedule) := by
  refine (workingEnv_answered fuel joins passes schedule).imp fun e past hresp hshort => ?_
  obtain ⟨i, c, r⟩ := e
  cases c with
  | fsWrite f data =>
    obtain rfl : r = (data.length : ℤ) := hresp
    exact lt_irrefl _ hshort.2.2
  | _ => exact hshort

end Working

/-- First the gas thread, for two passes, then the sender. -/
@[irreducible] def gasThenSender : List ThreadId :=
  List.replicate 600 .gas ++ List.replicate 400 .sender

/-- A log that is read back. -/
theorem gasLog_readBack_working :
    ∃ readings : List GasReading, (∀ r ∈ readings, r.Clipped) ∧
      (readings.map GasReading.text).Sublist
        (records .gas (appHistory workingEnv 1 1 (fun _ => 2) gasThenSender)).reverse ∧
      List.Forall₂ (fun r => ReadAs r.ints r.reals) readings
        (readLog 8 (logContent (logName "gas")
          ((appHistory workingEnv 1 1 (fun _ => 2) gasThenSender).map Prod.snd))) :=
  gasLog_readBack workingEnv 1 1 (fun _ => 2) gasThenSender
    (workingEnv_typed 1 1 (fun _ => 2) gasThenSender)
    (workingEnv_noShortWrite 1 1 (fun _ => 2) gasThenSender (logName "gas"))

/-- Payloads that are read back. -/
theorem gasPayload_readBack_working :
    PayloadsReadBack (appHistory workingEnv 1 1 (fun _ => 2) gasThenSender) :=
  gasPayload_readBack workingEnv 1 1 (fun _ => 2) gasThenSender
    (workingEnv_typed 1 1 (fun _ => 2) gasThenSender)

end AirLab
