import AirLab.Records

set_option relaxedAutoImplicit false
set_option autoImplicit false

/-!
# The gas record

The record of the gas thread has twelve fields in an array of 200 characters. It fits whatever
the converters deliver: a reading above 10000 counts as zero and the cells are divided by the
five samples, so a cell has at most four digits. The margin is seven characters.

## Main definitions

* `AirLab.Clipped` — the first cells of the result are at most 10000.
* `CLang.Flt.fltMax` — the largest finite value of the type `float`.

## Main results

* `AirLab.gasSensorsRead_le` — the cells are at most 2000.
* `AirLab.gasRecord_whole` — every gas record is a whole line.
-/

namespace AirLab

open CLang Effects

/-! ## The cells -/

/-- The first `n` cells of the result are at most 10000. -/
def Clipped (n : ℕ) (result : Fin 8 → UInt16) : Prop :=
  ∀ j : Fin 8, j.val < n → (result j).toNat ≤ 10000

/-- Clipping. -/
lemma clip_le (reading : UInt16) : (clip reading).toNat ≤ 10000 := by
  unfold clip
  split_ifs with hlarge
  · decide
  · rw [gt_iff_lt, UInt16.lt_iff_toNat_lt] at hlarge
    exact not_lt.1 hlarge

/-- The next cell is written. -/
lemma Clipped.set {n : ℕ} {result : Fin 8 → UInt16} (hc : Clipped n result) (reading : UInt16) :
    Clipped (n + 1) (setResult result n (clip reading)) := by
  intro j hj
  unfold setResult
  split_ifs with heq
  · exact clip_le reading
  · exact hc j (by omega)

section Cells

variable {env : Env Call Resp} {S : History → Prop}

/-- One pass of a channel loop. -/
lemma channelPass_clipped (addr : UInt8) (off i : ℕ) (l : GasLocals) :
    Prog.Triple env (fun _ => Clipped (i + off) l.result) (channelPass addr off i l)
      (fun l' _ => Clipped (i + 1 + off) l'.result) S := by
  intro h hc
  simp only [channelPass, i2cWrite, i2cRead, Prog.wp_bind, Prog.wp_perform, wp_kMsleep,
    Prog.wp_pure]
  rw [Nat.add_right_comm]
  exact hc.set _

/-- One pass of the sample loop writes all cells. -/
lemma gasSamplePass_clipped (s : ℕ) (l : GasLocals) :
    Prog.Triple env (fun _ => True) (gasSamplePass s l) (fun l' _ => Clipped 8 l'.result) S := by
  have hsleep : ∀ ms (l : GasLocals) n, Prog.Triple env (fun _ => Clipped n l.result) (kMsleep ms)
      (fun _ _ => Clipped n l.result) S := fun ms l n h hc => (wp_kMsleep ms).2 hc
  unfold gasSamplePass
  refine Prog.Triple.bind ((Prog.Triple.forRange (I := fun i l _ => Clipped (i + 0) l.result) 4
    (fun i _ l => channelPass_clipped 0x48 0 i l) l).mono
      (fun _ _ j hj => absurd hj (Nat.not_lt_zero _)) (fun _ _ hc => hc) fun _ hs => hs) fun l => ?_
  refine Prog.Triple.bind (hsleep 10 l 4) fun _ => ?_
  refine Prog.Triple.bind ((Prog.Triple.forRange (I := fun i l _ => Clipped (i + 4) l.result) 4
    (fun i _ l => channelPass_clipped 0x49 4 i l) l).mono
      (fun _ hc => hc) (fun _ _ hc => hc) fun _ hs => hs) fun l => ?_
  exact Prog.Triple.bind (hsleep 1000 l 8) fun _ => Prog.Triple.pure fun _ hc => hc

/-- **The cells are at most 2000** after a call with five samples, whatever the converters
deliver and whatever the array held before. -/
lemma gasSensorsRead_le (result : Fin 8 → UInt16) :
    Prog.Triple env (fun _ => True) (gasSensorsRead result 5)
      (fun gs _ => ∀ i, (gs i).toNat ≤ 2000) S := by
  intro h _
  unfold gasSensorsRead gasSampleLoop
  rw [Prog.wp_bind]
  refine (Prog.wp_perform (Call.uninit .readbuf) _).2 ?_
  rw [Prog.wp_bind]
  refine Prog.wp.mono (Prog.Triple.forRange (I := fun s l _ => 0 < s → Clipped 8 l.result) 5
    (fun s _ l => (gasSamplePass_clipped s l).mono (fun _ _ => trivial) (fun _ _ hc _ => hc)
      fun _ hs => hs) _ _ fun h0 => absurd h0 (Nat.lt_irrefl 0)) ?_ fun _ hs => hs
  intro l h' hc
  refine (Prog.wp_pure _).2 fun i => ?_
  have hi := hc (by decide) i i.isLt
  unfold divideResult
  rw [UInt16.toNat_ofNat']
  exact (Nat.mod_le _ _).trans (Nat.div_le_of_le_mul (by omega))

end Cells

/-! ## The record -/

/-- The fields of the record. -/
def gasFields (gs : Fin 8 → UInt16) (ambSensors : Fin 3 → Flt) : List Text :=
  timeField :: ((List.ofFn fun i => decimal (gs i).toNat) ++ (List.ofFn ambSensors).map fixed2)

/-- The record joins twelve fields. -/
lemma gasRecord_isRecordLine (gs : Fin 8 → UInt16) (ambSensors : Fin 3 → Flt) :
    gasRecord gs ambSensors = joinFields (gasFields gs ambSensors) ∧
      (gasFields gs ambSensors).length = 12 ∧ ∀ f ∈ gasFields gs ambSensors, IsField f := by
  refine ⟨rfl, by simp [gasFields], fun f hf => ?_⟩
  rcases List.mem_cons.1 hf with rfl | hf
  · exact isField_timeField
  rcases List.mem_append.1 hf with hf | hf
  · obtain ⟨i, rfl⟩ := (List.mem_ofFn' _ _).1 hf
    exact isField_of_subset (decimal_subset _)
  · obtain ⟨x, -, rfl⟩ := List.mem_map.1 hf
    exact isField_of_subset (fixed2_subset x)

/-- **The record has at most 192 characters.** -/
lemma length_gasRecord_le {gs : Fin 8 → UInt16} {ambSensors : Fin 3 → Flt}
    (hgs : ∀ i, (gs i).toNat ≤ 2000) (hamb : ∀ i, (ambSensors i).InFloatRange) :
    (gasRecord gs ambSensors).length ≤ 192 := by
  obtain ⟨heq, hlen, -⟩ := gasRecord_isRecordLine gs ambSensors
  have hcell : ∀ f ∈ List.ofFn fun i => decimal (gs i).toNat, f.length ≤ 4 := by
    intro f hf
    obtain ⟨i, rfl⟩ := List.mem_ofFn.1 hf
    have hlog : Nat.log 10 (gs i).toNat ≤ Nat.log 10 2000 := Nat.log_mono_right (hgs i)
    have hthree : Nat.log 10 2000 < 4 := Nat.log_lt_of_lt_pow (by decide) (by decide)
    rw [length_decimal]
    omega
  have hvalue : ∀ f ∈ (List.ofFn ambSensors).map fixed2, f.length ≤ 43 := by
    intro f hf
    obtain ⟨x, hx, rfl⟩ := List.mem_map.1 hf
    obtain ⟨i, rfl⟩ := List.mem_ofFn.1 hx
    exact length_fixed2_le (hamb i)
  have hcells := sum_map_le hcell
  have hvalues := sum_map_le hvalue
  have htime : timeField.length = 19 := by decide
  have hne : gasFields gs ambSensors ≠ [] := List.cons_ne_nil _ _
  rw [heq, length_joinFields hne, hlen, gasFields, List.map_cons, List.sum_cons, List.map_append,
    List.sum_append, htime]
  simp only [List.length_ofFn, List.length_map] at hcells hvalues
  omega

/-- A pass of the gas thread reports the text it formats, from cells of at most 2000. -/
lemma readGasPass_reports {env : Env Call Resp} (l : (Fin 8 → UInt16) × (Fin 3 → Flt))
    (h : History) :
    (readGasPass l).wp env (fun l' h' => (∀ i, (l'.1 i).toNat ≤ 2000) ∧
      ∃ t, t = CStr.snprintf textData_pos (gasRecord l'.1 l'.2) ∧
        Reports t.chars [⟨.strcpy .gasMsg t, ()⟩, ⟨.snprintfcb t, ()⟩] h h') (fun _ => True) h := by
  have hgas : (gasSensorsRead l.1 5).Only fun c => c.text? = none :=
    (gasSensorsRead_calls l.1 5).mono Call.ofGas.textless
  have hambient : (ambientSensorsRead 1 l.2).Only fun c => c.text? = none :=
    (ambientSensorsRead_calls 1 l.2).mono Call.ofAmbient.textless
  unfold readGasPass
  rw [Prog.wp_bind]
  have hread : (gasSensorsRead l.1 5).wp env (fun gs _ => ∀ i, (gs i).toNat ≤ 2000)
      (fun _ => True) h := gasSensorsRead_le l.1 h trivial
  refine (hread.and (Prog.Triple.since hgas h (Prog.Since.refl _ h))).mono ?_ fun _ _ => trivial
  intro gs h₁ hh
  obtain ⟨hle, hsince⟩ := hh
  rw [Prog.wp_bind]
  refine Prog.wp.mono (Prog.Triple.since hambient h₁ hsince) ?_ fun _ _ => trivial
  intro ambSensors h₂ hsince
  rw [Prog.wp_bind, wp_snprintfcb, Prog.wp_bind]
  refine Prog.wp.mono (reports_saveData (S := fun _ => True) _ "gas" _ (Reports.format _ hsince)) ?_
    fun _ _ => trivial
  intro _ h₃ hreports
  rw [Prog.wp_bind, wp_strcpy, Prog.wp_bind, wp_kMsleep, Prog.wp_pure]
  refine ⟨hle, _, rfl, ?_⟩
  exact (hreports.copy .gasMsg).sleep 30000

/-- **Every gas record is a whole line.** In every pass of the gas thread, whatever the converters
deliver and whichever transfers fail, if the three ambient values are finite floats, the text
formatted is the record: twelve fields in at most 192 characters. It is copied whole to `gas_msg`,
and no other text is copied or written. -/
theorem gasRecord_whole (env : Env Call Resp) (l l' : (Fin 8 → UInt16) × (Fin 3 → Flt))
    (h h' : History) (hrun : (readGasPass l).run env h = (some l', h'))
    (hamb : ∀ i, (l'.2 i).InFloatRange) :
    ∃ t : CStr 200, t.chars = gasRecord l'.1 l'.2 ∧ t.chars.length ≤ 192 ∧ IsRecordLine 12 t.chars ∧
      Reports t.chars [⟨.strcpy .gasMsg t, ()⟩, ⟨.snprintfcb t, ()⟩] h h' := by
  obtain ⟨hle, t, rfl, hreports⟩ := (readGasPass_reports l h).of_some hrun
  obtain ⟨heq, hlen, hfields⟩ := gasRecord_isRecordLine l'.1 l'.2
  have hshort := length_gasRecord_le hle hamb
  have hwhole : (CStr.snprintf textData_pos (gasRecord l'.1 l'.2)).chars = gasRecord l'.1 l'.2 := by
    refine CStr.snprintf_chars textData_pos ?_ (by omega)
    rw [heq]
    exact nul_not_mem_joinFields hfields
  have hline : IsRecordLine 12 (gasRecord l'.1 l'.2) := by
    rw [heq, ← hlen]
    exact isRecordLine_joinFields hfields
  refine ⟨_, hwhole, ?_, ?_, hreports⟩
  · rwa [hwhole]
  · rwa [hwhole]

/-- A board on which everything is as wide as it can be: the converters deliver 10000, and the stack
holds the least float. -/
def wideBoard : Env Call Resp := fun _ c =>
  match c with
  | .i2cRead _ => some (0x27, 0x10)
  | .sensorSampleFetch => some ⟨⟨50, 0⟩, ⟨50, 0⟩, ⟨50, 0⟩⟩
  | .sensorChannelGet _ => some ⟨50, 0⟩
  | .uninit .sum => fun _ => .fin (-Flt.fltMax)
  | c => plainAnswer c

/-- Its ambient values are almost the least float. -/
lemma wideBoard_ambient (h : History) : ∃ h',
    (ambientSensorsRead 1 fun _ => 0).run wideBoard h =
      (some fun _ => .fin (50 - Flt.fltMax), h') := by
  have hmeans : ∀ i, ambientMeans 1 (addSample (fun _ => .fin (-Flt.fltMax))
      ⟨⟨50, 0⟩, ⟨50, 0⟩, ⟨50, 0⟩⟩) i = .fin (50 - Flt.fltMax) := by decide +kernel
  rw [← funext hmeans]
  exact ⟨_, rfl⟩

/-- Its first gas record is a whole line. -/
theorem wideBoard_record : ∃ l' h' t,
    (readGasPass (fun _ => 0, fun _ => 0)).run wideBoard [] = (some l', h') ∧
      (∀ i, l'.2 i = .fin (50 - Flt.fltMax)) ∧ IsRecordLine 12 t ∧ Reports t [] [] h' := by
  obtain ⟨gs, h, hgs, -⟩ : ∃ gs h, (gasSensorsRead (fun _ => 0) 5).run wideBoard [] = (some gs, h) ∧
      ∀ i, (gs i).toNat ≤ 2000 :=
    (gasSensorsRead_le (fun _ => 0) [] trivial).returns
  obtain ⟨h₁, hambient⟩ := wideBoard_ambient h
  have hrun : ∃ h', (readGasPass (fun _ => 0, fun _ => 0)).run wideBoard [] =
      (some (gs, fun _ => .fin (50 - Flt.fltMax)), h') := by
    unfold readGasPass
    rw [Prog.run_bind_of_some wideBoard hgs, Prog.run_bind_of_some wideBoard hambient]
    exact ⟨_, rfl⟩
  obtain ⟨h', hrun⟩ := hrun
  have hrange : |(50 - Flt.fltMax : ℚ)| ≤ Flt.fltMax := by
    have hlarge : (50 : ℚ) ≤ Flt.fltMax := by
      unfold Flt.fltMax
      norm_num
    rw [abs_le]
    constructor <;> linarith
  obtain ⟨t, -, -, hline, hreports⟩ := gasRecord_whole wideBoard _ _ _ _ hrun
    fun i => ⟨50 - Flt.fltMax, rfl, hrange⟩
  exact ⟨_, h', t.chars, hrun, fun _ => rfl, hline, hreports.of_subset (List.nil_subset _)⟩

end AirLab
