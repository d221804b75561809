import AirLab.Footprint
import AirLab.Opc.Averages

set_option relaxedAutoImplicit false
set_option autoImplicit false

/-!
# What the stack leaves in a histogram

`opc_read_histogram` decodes every frame into the local struct `data` and returns another one,
`result`. Five fields of `data` are added to those of `result`, and a sixth field of `result` is
set to zero. All the others are decoded and dropped: the struct returned has in them what the
stack held.

## Main definitions

* `AirLab.SameLeftovers` — two structs agree in the fields that are never set.
* `AirLab.SameBytes` — two calls that get the same bytes from the sensor.

## Main results

* `AirLab.opcReadHistogram_kept` — the fields that come from the stack.
* `AirLab.histograms_agree_iff` — when two calls with the same bytes return the same histogram.
-/

namespace AirLab

open CLang Effects Sampling

/-- **The fields that the call never sets agree**: the bins, the times of flight and the
checksum. -/
structure SameLeftovers (r r' : Histogram) : Prop where
  bin : r.bin = r'.bin
  bin1MToF : r.bin1MToF = r'.bin1MToF
  bin3MToF : r.bin3MToF = r'.bin3MToF
  bin5MToF : r.bin5MToF = r'.bin5MToF
  bin7MToF : r.bin7MToF = r'.bin7MToF
  checksum : r.checksum = r'.checksum

namespace SameLeftovers

variable {r r' r'' : Histogram}

/-- Agreement is symmetric. -/
lemma symm (h : SameLeftovers r r') : SameLeftovers r' r :=
  ⟨h.bin.symm, h.bin1MToF.symm, h.bin3MToF.symm, h.bin5MToF.symm, h.bin7MToF.symm,
    h.checksum.symm⟩

/-- Agreement is transitive. -/
lemma trans (h : SameLeftovers r r') (h' : SameLeftovers r' r'') : SameLeftovers r r'' :=
  ⟨h.bin.trans h'.bin, h.bin1MToF.trans h'.bin1MToF, h.bin3MToF.trans h'.bin3MToF,
    h.bin5MToF.trans h'.bin5MToF, h.bin7MToF.trans h'.bin7MToF, h.checksum.trans h'.checksum⟩

/-- Structs that agree in these fields are equal if they agree in the averaged ones and in the
pressure. -/
lemma eq_iff (h : SameLeftovers r r') :
    r = r' ↔ (∀ f : Field, f.get r = f.get r') ∧ r.tempPressure = r'.tempPressure := by
  constructor
  · rintro rfl
    exact ⟨fun _ => rfl, rfl⟩
  · intro hh
    obtain ⟨hfields, htemp⟩ := hh
    have hsfr : r.sfr = r'.sfr := hfields .sfr
    have hperiod : r.period = r'.period := hfields .period
    have hpm1 : r.pm1 = r'.pm1 := hfields .pm1
    have hpm25 : r.pm25 = r'.pm25 := hfields .pm25
    have hpm10 : r.pm10 = r'.pm10 := hfields .pm10
    cases r
    cases r'
    simp only [Histogram.mk.injEq]
    exact ⟨h.bin, h.bin1MToF, h.bin3MToF, h.bin5MToF, h.bin7MToF, hsfr, htemp, hperiod, h.checksum,
      hpm1, hpm25, hpm10⟩

end SameLeftovers

/-! ## What comes from the stack -/

/-- The struct `result` still has the leftovers of `r`, and no pressure. -/
structure Kept (r result : Histogram) : Prop where
  same : SameLeftovers result r
  temp : result.tempPressure = 0

namespace Kept

variable {r result : Histogram}

/-- The struct after its fields are set at the start. -/
lemma clearResult (r : Histogram) : Kept r (clearResult r) := ⟨⟨rfl, rfl, rfl, rfl, rfl, rfl⟩, rfl⟩

/-- Adding a sample keeps the leftovers. -/
lemma accumulate (hk : Kept r result) (data : Histogram) : Kept r (accumulate result data) :=
  ⟨⟨hk.same.bin, hk.same.bin1MToF, hk.same.bin3MToF, hk.same.bin5MToF, hk.same.bin7MToF,
    hk.same.checksum⟩, hk.temp⟩

/-- Dividing the sums keeps the leftovers. -/
lemma average (hk : Kept r result) (samples : UInt8) : Kept r (average samples result) :=
  ⟨⟨hk.same.bin, hk.same.bin1MToF, hk.same.bin3MToF, hk.same.bin5MToF, hk.same.bin7MToF,
    hk.same.checksum⟩, hk.temp⟩

end Kept

section Runs

variable {env : Env Call Resp} {S : History → Prop} {r : Histogram}

/-- A payload is stored beside the struct. -/
lemma readPayload_kept (l : HistLocals) :
    Prog.Triple env (fun _ => Kept r l.result) (readPayload l) (fun l' _ => Kept r l'.result)
      S := by
  have hpass : ∀ i l, Prog.Triple env (fun _ => Kept r l.result) (payloadPass i l)
      (fun l' _ => Kept r l'.result) S := by
    intro i l h hk
    simp only [payloadPass, spiTransceive, Prog.wp_bind, Prog.wp_perform, Prog.wp_pure]
    exact hk
  intro h hk
  simp only [readPayload, Prog.wp_bind, wp_gpioPinSet, wp_kUsleep, Prog.wp_pure]
  exact Prog.Triple.forRange 62 (I := fun _ l _ => Kept r l.result) (fun i _ l => hpass i l) l _ hk

/-- **A pass of the sample loop** keeps the leftovers. -/
lemma samplePass_kept (s : ℕ) (l : HistLocals) :
    Prog.Triple env (fun _ => Kept r l.result) (samplePass s l) (fun l' _ => Kept r l'.result)
      S := by
  have hend : ∀ l' : HistLocals, Kept r l'.result →
      Kept r (if s > skip - 1 then accumulate l'.result (decode l'.vals) else l'.result) := by
    intro l' hk
    by_cases hs : s > skip - 1
    · rw [if_pos hs]
      exact hk.accumulate _
    · rwa [if_neg hs]
  intro h hk
  unfold samplePass
  rw [Prog.wp_bind]
  refine Prog.wp.mono (Prog.Triple.of_only (I := fun _ => Kept r l.result) (fun _ _ _ hk => hk)
    (opcSendCommand_calls 0x30) h hk) ?_ fun _ hs => hs
  intro reply h₁ _
  rw [Prog.wp_bind, wp_kMsleep]
  by_cases hack : reply = 243
  · rw [if_pos hack, Prog.wp_bind]
    refine (readPayload_kept l _ hk).mono ?_ fun _ hs => hs
    intro l' h₂ hk'
    rw [Prog.wp_bind, wp_kMsleep, Prog.wp_pure]
    exact hend l' hk'
  · rw [if_neg hack, Prog.wp_bind, Prog.wp_pure, Prog.wp_bind, wp_kMsleep, Prog.wp_pure]
    exact hend l hk

/-- **The fields that come from the stack.** Whatever the sensor sends, the struct returned has
the bins, the times of flight and the checksum that the stack held, and no pressure. -/
lemma opcReadHistogram_kept (samples : UInt8) (h : History) :
    (opcReadHistogram samples).wp env
      (fun result _ => Kept (env h (.uninit .histogram)).result result) S h := by
  unfold opcReadHistogram sampleLoop
  rw [Prog.wp_bind]
  refine (Prog.wp_perform (Call.uninit .histogram) _).2 ?_
  rw [Prog.wp_bind]
  refine Prog.wp.mono (Prog.Triple.forRange samples.toNat
    (I := fun _ l _ => Kept (env h (.uninit .histogram)).result l.result)
    (fun s _ l => samplePass_kept s l) _ _ (.clearResult _)) ?_ fun _ hs => hs
  intro l h' hk
  exact (Prog.wp_pure _).2 (hk.average samples)

end Runs

/-! ## Two calls -/

/-- **Two calls that get the same bytes**: in both every 0x30 command is acknowledged, and the
frames are the same. -/
def SameBytes (x y : HistScript) (samples : UInt8) : Prop :=
  ∀ s < samples.toNat, x.Acked s ∧ y.Acked s ∧ x.frame s = y.frame s

/-- The same bytes have the same sums. -/
lemma summed_congr {x y : HistScript} (f : Field) {n : ℕ}
    (hsame : ∀ s < n, x.Acked s ∧ y.Acked s ∧ x.frame s = y.frame s) :
    x.summed f n = y.summed f n := by
  induction n with
  | zero => rfl
  | succ n ih =>
    obtain ⟨hx, hy, hframe⟩ := hsame n (by omega)
    have hbuffer : x.buffer (held x.Acked (n + 1)) = y.buffer (held y.Acked (n + 1)) := by
      rw [held, held, if_pos hx, if_pos hy]
      exact hframe
    unfold HistScript.summed
    rw [hbuffer, ih fun s hs => hsame s (by omega)]

/-- What a call of a script returns. -/
lemma HistScript.opcReadHistogram_returns (x : HistScript) (samples : UInt8) :
    ∃ result h, (opcReadHistogram samples).run x.env [] = (some result, h) ∧
      (∀ f : Field, f.get result =
        x.summed f samples.toNat / .fin ((samples.toNat : ℤ) - skip : ℤ)) ∧
      Kept x.stack.result result := by
  obtain ⟨result, h, hrun, hfields⟩ := x.opcReadHistogram_run samples
  have hkept : (opcReadHistogram samples).wp x.env
      (fun result _ => Kept x.stack.result result) (fun _ => True) [] :=
    opcReadHistogram_kept samples []
  exact ⟨result, h, hrun, hfields, hkept.of_some hrun⟩

/-- **When the histogram is a function of the frames.** Two calls that get the same bytes from the
sensor return histograms that agree in every field exactly if the stack held the same bins, times
of flight and checksum in the struct returned. -/
theorem histograms_agree_iff (x y : HistScript) (samples : UInt8) (hsame : SameBytes x y samples) :
    ∃ r r' h h', (opcReadHistogram samples).run x.env [] = (some r, h) ∧
      (opcReadHistogram samples).run y.env [] = (some r', h') ∧
      (r = r' ↔ SameLeftovers x.stack.result y.stack.result) := by
  obtain ⟨r, h, hrun, hfields, hkept⟩ := x.opcReadHistogram_returns samples
  obtain ⟨r', h', hrun', hfields', hkept'⟩ := y.opcReadHistogram_returns samples
  refine ⟨r, r', h, h', hrun, hrun', fun heq => ?_, fun hstack => ?_⟩
  · rw [heq] at hkept
    exact hkept.same.symm.trans hkept'.same
  · have hleft : SameLeftovers r r' := (hkept.same.trans hstack).trans hkept'.same.symm
    refine hleft.eq_iff.2 ⟨fun f => ?_, hkept.temp.trans hkept'.temp.symm⟩
    rw [hfields, hfields', summed_congr f hsame]

/-- A counter that is always ready and sends zeros, and what the stack held in every field of the
returned struct that is not set, and in every one that is. -/
def readyCounter (unset set : Flt) : HistScript where
  reply _ := 243
  frame _ _ := 0
  stack := ⟨⟨fun _ => unset, unset, unset, unset, unset, set, 7, set, 7, set, set, set⟩, 0,
    fun _ => 1⟩
  rest _ := plainAnswer

/-- Calls of it get the same bytes. -/
lemma sameBytes_readyCounter (u u' v v' : Flt) (samples : UInt8) :
    SameBytes (readyCounter u v) (readyCounter u' v') samples := fun _ _ => ⟨rfl, rfl, rfl⟩

/-- What the stack held in the averaged fields does not matter. -/
theorem readyCounter_agree : ∃ r h h',
    (opcReadHistogram 3).run (readyCounter 0 0).env [] = (some r, h) ∧
      (opcReadHistogram 3).run (readyCounter 0 (.fin 1)).env [] = (some r, h') := by
  obtain ⟨r, r', h, h', hrun, hrun', hiff⟩ := histograms_agree_iff (readyCounter 0 0)
    (readyCounter 0 (.fin 1)) 3 (sameBytes_readyCounter 0 0 0 (.fin 1) 3)
  obtain rfl := hiff.2 ⟨rfl, rfl, rfl, rfl, rfl, rfl⟩
  exact ⟨r, h, h', hrun, hrun'⟩

/-- What it held in the bins is returned. -/
theorem readyCounter_differ : SameBytes (readyCounter 0 0) (readyCounter (.fin 1) 0) 3 ∧
    ∃ r r' h h', (opcReadHistogram 3).run (readyCounter 0 0).env [] = (some r, h) ∧
      (opcReadHistogram 3).run (readyCounter (.fin 1) 0).env [] = (some r', h') ∧
      r.bin 0 = .fin 0 ∧ r'.bin 0 = .fin 1 := by
  obtain ⟨r, h, hrun, -, hkept⟩ := (readyCounter 0 0).opcReadHistogram_returns 3
  obtain ⟨r', h', hrun', -, hkept'⟩ := (readyCounter (.fin 1) 0).opcReadHistogram_returns 3
  exact ⟨sameBytes_readyCounter 0 (.fin 1) 0 0 3, r, r', h, h', hrun, hrun',
    congrFun hkept.same.bin 0, congrFun hkept'.same.bin 0⟩

end AirLab
