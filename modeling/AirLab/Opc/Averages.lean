import Mathlib.Algebra.BigOperators.Intervals
import AirLab.Opc.Driver
import AirLab.Sampling.Hold

set_option relaxedAutoImplicit false
set_option autoImplicit false

/-!
# The averages of `opc_read_histogram`

The result should be the mean over the samples that the sensor acknowledged, the first two left
out. The sample loop decodes its frame buffer in every pass, also in a pass without an
acknowledgement, and the sums are divided by `samples - SKIP`. So the code computes the mean of
held frames of `AirLab.Sampling.Hold`.

## Main definitions

* `AirLab.HistScript` — the replies, the frames and the stack content of one call.
* `AirLab.Field` — the five averaged fields.
* `AirLab.HistScript.meanOfAcknowledged` — the mean that should be returned.

## Main results

* `AirLab.HistScript.opcReadHistogram_run` — what is returned: the mean of the held frames.
* `AirLab.averages_iff_evenlySpaced` — for which replies that is the mean over the acknowledged
  samples, whatever the frames and the stack.
-/

namespace AirLab

open CLang Effects Sampling

/-! ## Scripts -/

/-- The replies to the 0x30 commands, the frame of each sample, and the stack content before the
call; everything else is answered by `rest`. -/
structure HistScript where
  reply : ℕ → UInt8
  frame : ℕ → Frame
  stack : HistLocals
  rest : Env Call Resp

/-- The 0x30 commands sent so far. -/
def commands : History → ℕ
  | [] => 0
  | ⟨.spiTransceive tx, _⟩ :: past => if tx = 0x30 then commands past + 1 else commands past
  | _ :: past => commands past

/-- The bytes transferred since the last 0x30 command. -/
def payloadIndex : History → ℕ
  | [] => 0
  | ⟨.spiTransceive tx, _⟩ :: past => if tx = 0x30 then 0 else payloadIndex past + 1
  | _ :: past => payloadIndex past

/-- Byte `i` of a frame, zero behind its end. -/
def Frame.byte (vals : Frame) (i : ℕ) : UInt8 := if h : i < 62 then vals ⟨i, h⟩ else 0

/-- The answers of a script. -/
def HistScript.env (x : HistScript) : Env Call Resp := fun h c =>
  match c with
  | .spiTransceive tx =>
    if tx = 0x30 then some (x.reply (commands h))
    else some ((x.frame (commands h - 1)).byte (payloadIndex h))
  | .uninit .histogram => x.stack
  | c => x.rest h c

/-- The five averaged fields. -/
inductive Field
  | pm1
  | pm25
  | pm10
  | period
  | sfr
  deriving DecidableEq

/-- The field of a histogram. -/
def Field.get : Field → Histogram → Flt
  | .pm1, h => h.pm1
  | .pm25, h => h.pm25
  | .pm10, h => h.pm10
  | .period, h => h.period
  | .sfr, h => h.sfr

namespace HistScript

variable (x : HistScript)

/-- Sample `s` is acknowledged. -/
def Acked (s : ℕ) : Prop := x.reply s = 243

instance : DecidablePred x.Acked := fun s => inferInstanceAs (Decidable (x.reply s = 243))

/-- What the frame buffer holds after the frame of sample `k`, or at the start. -/
def buffer : Option ℕ → Frame
  | none => x.stack.vals
  | some k => x.frame k

/-- The sum of a field after `n` passes of the sample loop. -/
def summed (f : Field) : ℕ → Flt
  | 0 => 0
  | s + 1 =>
    if s > skip - 1 then summed f s + f.get (decode (x.buffer (held x.Acked (s + 1))))
    else summed f s

/-- The acknowledged samples that should be averaged. -/
def acknowledged (samples : UInt8) : Finset ℕ :=
  (Finset.range samples.toNat).filter fun s => skip ≤ s ∧ x.reply s = 243

/-- The mean of a field over the acknowledged samples, zero if there is none. -/
def meanOfAcknowledged (samples : UInt8) (f : Field) : Flt :=
  if x.acknowledged samples = ∅ then 0
  else .fin ((∑ s ∈ x.acknowledged samples, (f.get (decode (x.frame s))).toRat) /
    (x.acknowledged samples).card)

/-- The five floats of all frames are finite. -/
def FiniteFrames : Prop := ∀ s f, (Field.get f (decode (x.frame s))).IsFinite

/-- The call returns the means over the acknowledged samples. -/
def Averages (samples : UInt8) : Prop :=
  ∃ result h, (opcReadHistogram samples).run x.env [] = (some result, h) ∧
    ∀ f : Field, f.get result = x.meanOfAcknowledged samples f

/-! ## The sample loop -/

/-- The state between two passes: so many commands sent, the held frame in the buffer, the sums
so far in the result. -/
def LoopState (s : ℕ) (l : HistLocals) (h : History) : Prop :=
  commands h = s ∧ l.vals = x.buffer (held x.Acked s) ∧ ∀ f : Field, f.get l.result = x.summed f s

variable {x} {S : History → Prop}

/-- The 0x30 command of sample `s`. -/
lemma wp_histogramCommand {h : History} {Q : UInt8 → History → Prop}
    (hQ : ∀ h', commands h' = commands h + 1 → payloadIndex h' = 0 → Q (x.reply (commands h)) h') :
    (opcSendCommand 0x30).wp x.env Q S h := by
  have hrun : ∃ h', (opcSendCommand 0x30).run x.env h = (some (x.reply (commands h)), h') ∧
      commands h' = commands h + 1 ∧ payloadIndex h' = 0 := ⟨_, rfl, rfl, rfl⟩
  obtain ⟨h', hrun, hcommands, hindex⟩ := hrun
  exact (Prog.wp_of_run hrun).2 (hQ h' hcommands hindex)

/-- A payload byte. -/
lemma env_payload (h : History) :
    x.env h (.spiTransceive 0xC0) = some ((x.frame (commands h - 1)).byte (payloadIndex h)) := by
  have hne : ¬ (0xC0 : UInt8) = 0x30 := by decide
  show (if (0xC0 : UInt8) = 0x30 then some (x.reply (commands h))
    else some ((x.frame (commands h - 1)).byte (payloadIndex h))) = _
  rw [if_neg hne]

/-- One byte of the payload. -/
lemma payloadPass_spec (s i : ℕ) (hi : i < 62) (result : Histogram) (l : HistLocals) :
    Prog.Triple x.env
      (fun h => commands h = s + 1 ∧ payloadIndex h = i ∧
        (∀ j : Fin 62, j.val < i → l.vals j = x.frame s j) ∧ l.result = result)
      (payloadPass i l)
      (fun l' h => commands h = s + 1 ∧ payloadIndex h = i + 1 ∧
        (∀ j : Fin 62, j.val < i + 1 → l'.vals j = x.frame s j) ∧ l'.result = result) S := by
  intro h hh
  obtain ⟨hcommands, hindex, hvals, hresult⟩ := hh
  unfold payloadPass
  rw [Prog.wp_bind]
  refine (Prog.wp_perform (Call.spiTransceive 0xC0) _).2 ?_
  rw [env_payload, hcommands, hindex, Prog.wp_pure]
  refine ⟨?_, ?_, fun j hj => ?_, hresult⟩
  · simp [commands, hcommands]
  · simp [payloadIndex, hindex]
  · have hbyte : (x.frame (s + 1 - 1)).byte i = x.frame s ⟨i, hi⟩ := dif_pos hi
    simp only [Option.getD_some, Frame.set, hbyte]
    by_cases hji : j.val = i
    · rw [if_pos hji]
      exact congrArg (x.frame s) (Fin.ext hji.symm)
    · rw [if_neg hji]
      exact hvals j (by omega)

/-- A payload fills the frame buffer with the frame of the sample and leaves the sums alone. -/
lemma readPayload_spec (s : ℕ) (l : HistLocals) :
    Prog.Triple x.env (fun h => commands h = s + 1 ∧ payloadIndex h = 0) (readPayload l)
      (fun l' h => commands h = s + 1 ∧ l'.vals = x.frame s ∧ l'.result = l.result) S := by
  intro h hh
  obtain ⟨hcommands, hindex⟩ := hh
  unfold readPayload
  simp only [Prog.wp_bind, wp_gpioPinSet, wp_kUsleep, Prog.wp_pure]
  have hloop : (Prog.forRange payloadPass 62 l).wp x.env _ S _ :=
    Prog.Triple.forRange 62 (I := fun i l' h => commands h = s + 1 ∧ payloadIndex h = i ∧
      (∀ j : Fin 62, j.val < i → l'.vals j = x.frame s j) ∧ l'.result = l.result)
      (fun i hi l' => payloadPass_spec s i hi l.result l') l
      (⟨.kUsleep 6, ()⟩ :: ⟨.gpioPinSet ⟨.gpioa, 4⟩ .low, ()⟩ :: h)
      ⟨hcommands, hindex, fun j hj => by omega, rfl⟩
  refine hloop.mono ?_ fun _ hs => hs
  intro l' h' hh'
  obtain ⟨hcommands', -, hvals, hresult⟩ := hh'
  exact ⟨hcommands', funext fun j => hvals j j.isLt, hresult⟩

/-- **A pass of the sample loop** updates the held frame and adds its fields to the sums. -/
lemma samplePass_spec (s : ℕ) (l : HistLocals) :
    Prog.Triple x.env (x.LoopState s l) (samplePass s l) (x.LoopState (s + 1)) S := by
  intro h hh
  obtain ⟨hcommands, hvals, hsums⟩ := hh
  -- whatever happens in between, the pass ends with the held frame decoded
  have hend : ∀ (l' : HistLocals) (h' : History), commands h' = s + 1 →
      l'.vals = x.buffer (held x.Acked (s + 1)) → l'.result = l.result →
      x.LoopState (s + 1)
        { l' with result := if s > skip - 1 then accumulate l'.result (decode l'.vals)
          else l'.result } (⟨.kMsleep 5000, ()⟩ :: h') := by
    intro l' h' hcommands' hvals' hresult
    refine ⟨hcommands', hvals', fun f => ?_⟩
    have hf := hsums f
    unfold summed
    by_cases hs : s > skip - 1
    · rw [if_pos hs, if_pos hs, hresult, hvals', ← hf]
      cases f <;> rfl
    · rw [if_neg hs, if_neg hs, hresult]
      exact hf
  unfold samplePass
  rw [Prog.wp_bind]
  refine wp_histogramCommand fun h' hcommands' hindex => ?_
  rw [hcommands] at hcommands' ⊢
  rw [Prog.wp_bind, wp_kMsleep]
  by_cases hack : x.reply s = 243
  · have hheld : held x.Acked (s + 1) = some s := if_pos hack
    rw [if_pos hack, Prog.wp_bind]
    refine (readPayload_spec s l (⟨.kMsleep 12, ()⟩ :: h') ⟨hcommands', hindex⟩).mono ?_
      fun _ hs => hs
    intro l' h'' hh''
    obtain ⟨hc, hv, hr⟩ := hh''
    rw [Prog.wp_bind, wp_kMsleep, Prog.wp_pure]
    exact hend l' h'' hc (by rw [hv, hheld]; rfl) hr
  · have hheld : held x.Acked (s + 1) = held x.Acked s := if_neg hack
    rw [if_neg hack, Prog.wp_bind, Prog.wp_pure, Prog.wp_bind, wp_kMsleep, Prog.wp_pure]
    exact hend l _ hcommands' (by rw [hvals, hheld]) rfl

/-- **What is returned**: each sum over `samples - SKIP`. -/
lemma opcReadHistogram_run (samples : UInt8) :
    ∃ result h, (opcReadHistogram samples).run x.env [] = (some result, h) ∧
      ∀ f : Field, f.get result =
        x.summed f samples.toNat / .fin ((samples.toNat : ℤ) - skip : ℤ) := by
  have hwp : (opcReadHistogram samples).wp x.env (fun result _ => ∀ f : Field, f.get result =
      x.summed f samples.toNat / .fin ((samples.toNat : ℤ) - skip : ℤ)) (fun _ => False) [] := by
    unfold opcReadHistogram sampleLoop
    rw [Prog.wp_bind]
    refine (Prog.wp_perform (Call.uninit .histogram) _).2 ?_
    rw [Prog.wp_bind]
    have hloop := Prog.Triple.forRange (S := fun _ => False) samples.toNat (I := x.LoopState)
      (fun s _ l => samplePass_spec s l) { x.stack with result := clearResult x.stack.result }
      [⟨.uninit .histogram, x.stack⟩] ⟨rfl, rfl, fun f => by cases f <;> rfl⟩
    refine Prog.wp.mono hloop ?_ fun _ hs => hs
    intro l h hh
    rw [Prog.wp_pure]
    intro f
    rw [← hh.2.2 f]
    cases f <;> rfl
  obtain ⟨result, h, hrun, hfields⟩ := hwp.returns
  exact ⟨result, h, hrun, hfields⟩

/-! ## The two means -/

variable (x) in
/-- The number that a field of the held frame `k` counts with. -/
def value (f : Field) (k : Option ℕ) : ℚ := (f.get (decode (x.buffer k))).toRat

/-- Nothing is summed up in the first passes. -/
lemma summed_eq_zero (f : Field) {n : ℕ} (hn : n ≤ skip) : x.summed f n = .fin 0 := by
  induction n with
  | zero => rfl
  | succ n ih =>
    have hle : ¬ n > skip - 1 := by
      unfold skip at hn ⊢
      omega
    unfold summed
    rw [if_neg hle]
    exact ih (by omega)

/-- Where all frames read are finite, the sum is the exact sum of their numbers. -/
lemma summed_eq (f : Field) {n : ℕ} (hn : skip ≤ n)
    (hfin : ∀ s, skip ≤ s → s < n →
      (f.get (decode (x.buffer (held x.Acked (s + 1))))).IsFinite) :
    x.summed f n = .fin (∑ s ∈ Finset.Ico skip n, x.value f (held x.Acked (s + 1))) := by
  induction n, hn using Nat.le_induction with
  | base => simpa using x.summed_eq_zero f le_rfl
  | succ n hn ih =>
    have hgt : n > skip - 1 := by
      unfold skip at hn ⊢
      omega
    unfold summed
    rw [if_pos hgt, ih fun s h1 h2 => hfin s h1 (by omega), (hfin n hn (by omega)).eq_fin,
      Flt.fin_add_fin, Finset.sum_Ico_succ_top hn]
    rfl

/-- The mean that should be returned is the mean over the filling passes. -/
lemma meanOfAcknowledged_eq (samples : UInt8) (f : Field) :
    x.meanOfAcknowledged samples f = .fin (freshMean x.Acked skip samples.toNat (x.value f)) := by
  have hset : x.acknowledged samples = freshPasses x.Acked skip samples.toNat := by
    ext s
    simp only [acknowledged, freshPasses, Finset.mem_filter, Finset.mem_range, Finset.mem_Ico]
    exact ⟨fun h => ⟨⟨h.2.1, h.1⟩, h.2.2⟩, fun h => ⟨h.1.2, h.1.1, h.2⟩⟩
  unfold meanOfAcknowledged freshMean
  rw [hset]
  split_ifs with hempty
  · rw [hempty]
    simp [Flt.zero_eq]
  · rfl

/-- With more than two samples and finite frames read, the mean of the held frames is returned. -/
lemma opcReadHistogram_heldMean {samples : UInt8} (hsamples : skip < samples.toNat)
    (hfin : ∀ f s, skip ≤ s → s < samples.toNat →
      (Field.get f (decode (x.buffer (held x.Acked (s + 1))))).IsFinite) :
    x.Averages samples ↔ ∀ f, heldMean x.Acked skip samples.toNat (x.value f) =
      freshMean x.Acked skip samples.toNat (x.value f) := by
  obtain ⟨result, h, hrun, hfields⟩ := x.opcReadHistogram_run samples
  have hresult : ∀ f : Field, f.get result =
      .fin (heldMean x.Acked skip samples.toNat (x.value f)) := by
    intro f
    have hcast : (((samples.toNat : ℤ) - skip : ℤ) : ℚ) = ((samples.toNat - skip : ℕ) : ℚ) := by
      rw [← Nat.cast_sub hsamples.le]
      norm_cast
    have hne : ((samples.toNat - skip : ℕ) : ℚ) ≠ 0 := by
      have : samples.toNat - skip ≠ 0 := by omega
      exact_mod_cast this
    rw [hfields f, summed_eq f hsamples.le (hfin f), hcast, Flt.fin_div_fin hne]
    rfl
  constructor
  · intro hav f
    obtain ⟨result', h', hrun', hfields'⟩ := hav
    rw [hrun] at hrun'
    obtain rfl : result = result' := Option.some.inj (congrArg Prod.fst hrun')
    have hf := hfields' f
    rw [hresult f, meanOfAcknowledged_eq] at hf
    exact Flt.fin.inj hf
  · intro hmean
    refine ⟨result, h, hrun, fun f => ?_⟩
    rw [hresult f, meanOfAcknowledged_eq, hmean f]

/-- With fewer than two samples zeros are returned. -/
lemma averages_of_lt {samples : UInt8} (hsamples : samples.toNat < skip) : x.Averages samples := by
  obtain ⟨result, h, hrun, hfields⟩ := x.opcReadHistogram_run samples
  refine ⟨result, h, hrun, fun f => ?_⟩
  have hne : (((samples.toNat : ℤ) - skip : ℤ) : ℚ) ≠ 0 := by
    have : (samples.toNat : ℤ) - skip ≠ 0 := by omega
    exact_mod_cast this
  have hempty : x.acknowledged samples = ∅ := by
    refine Finset.filter_eq_empty_iff.2 fun s hs hack => ?_
    have := Finset.mem_range.1 hs
    omega
  rw [hfields f, summed_eq_zero f hsamples.le, Flt.fin_div_fin hne, zero_div]
  unfold meanOfAcknowledged
  rw [if_pos hempty]
  rfl

/-- With two samples the averages are not numbers. -/
lemma not_averages_of_eq {samples : UInt8} (hsamples : samples.toNat = skip) :
    ¬ x.Averages samples := by
  intro hav
  obtain ⟨result, h, hrun, hfields⟩ := x.opcReadHistogram_run samples
  obtain ⟨result', h', hrun', hfields'⟩ := hav
  rw [hrun] at hrun'
  obtain rfl : result = result' := Option.some.inj (congrArg Prod.fst hrun')
  have hf := hfields' .pm1
  rw [hfields .pm1, summed_eq_zero .pm1 hsamples.le, hsamples, sub_self, Int.cast_zero,
    Flt.zero_div_zero, meanOfAcknowledged_eq] at hf
  cases hf

/-! ## Frames with one number -/

/-- A frame of zeros but for the field `pm1`, which is one. -/
def oneFrame : Frame := fun j => if j.val = 52 then 0x80 else if j.val = 53 then 0x3F else 0

/-- The script whose frame buffer reads one after sample `k`, or at the start, and zero else. -/
def indicator (reply : ℕ → UInt8) (k : Option ℕ) : HistScript where
  reply := reply
  frame s := if some s = k then oneFrame else fun _ => 0
  stack :=
    { result := decode fun _ => 0
      rxBuf := 0
      vals := if none = k then oneFrame else fun _ => 0 }
  rest := fun _ => plainAnswer

/-- The fields of the two frames. -/
lemma get_oneFrame (f : Field) : f.get (decode oneFrame) = .fin (if f = .pm1 then 1 else 0) := by
  cases f <;> decide +kernel

/-- The fields of the zero frame. -/
lemma get_zeroFrame (f : Field) : f.get (decode fun _ => 0) = .fin 0 := by
  cases f <;> decide +kernel

/-- The fields of its held frames. -/
lemma get_indicator (reply : ℕ → UInt8) (k k' : Option ℕ) (f : Field) :
    f.get (decode ((indicator reply k).buffer k')) =
      .fin (if f = .pm1 ∧ k' = k then 1 else 0) := by
  have hbuffer : (indicator reply k).buffer k' = if k' = k then oneFrame else fun _ => 0 := by
    cases k' with
    | none => rfl
    | some s => rfl
  rw [hbuffer]
  by_cases hk : k' = k
  · rw [if_pos hk, get_oneFrame]
    simp [hk]
  · rw [if_neg hk, get_zeroFrame]
    simp [hk]

/-- All its frames are finite. -/
lemma indicator_finite (reply : ℕ → UInt8) (k : Option ℕ) : (indicator reply k).FiniteFrames := by
  intro s f
  have hf := get_indicator reply k (some s) f
  show (f.get (decode ((indicator reply k).buffer (some s)))).IsFinite
  rw [hf]
  trivial

/-- In an evenly spaced window all frames read are frames of acknowledged samples. -/
lemma finite_of_evenlySpaced {n : ℕ} (hfin : x.FiniteFrames)
    (hspace : EvenlySpaced x.Acked skip n) (f : Field) (s : ℕ) (h1 : skip ≤ s) (h2 : s < n) :
    (f.get (decode (x.buffer (held x.Acked (s + 1))))).IsFinite := by
  obtain ⟨d, -, hbal⟩ := hspace.balanced
  obtain ⟨k, -, hheld⟩ := Finset.mem_map.1 (hbal.1 s (Finset.mem_Ico.2 ⟨h1, h2⟩))
  rw [← hheld]
  exact hfin k f

/-- Where the averages of an indicator are right, its two means agree. -/
lemma indicator_averages {reply : ℕ → UInt8} {samples : UInt8} {k : Option ℕ}
    (hsamples : skip < samples.toNat) (hav : (indicator reply k).Averages samples) :
    heldMean (fun s => reply s = 243) skip samples.toNat (fun k' => if k' = k then 1 else 0) =
      freshMean (fun s => reply s = 243) skip samples.toNat fun k' => if k' = k then 1 else 0 := by
  have hfin : ∀ (f : Field) s, skip ≤ s → s < samples.toNat → (f.get (decode
      ((indicator reply k).buffer (held (indicator reply k).Acked (s + 1))))).IsFinite := by
    intro f s _ _
    rw [get_indicator]
    trivial
  have hmean := (opcReadHistogram_heldMean hsamples hfin).1 hav .pm1
  have hvalue : (indicator reply k).value .pm1 = fun k' => if k' = k then 1 else 0 := by
    funext k'
    unfold value
    rw [get_indicator]
    simp [Flt.toRat]
  rw [hvalue] at hmean
  exact hmean

end HistScript

/-- **Which replies give right averages.** For a number of samples and a sequence of replies to the
0x30 commands, the call returns the means over the acknowledged samples, whatever the frames
with finite floats and whatever was on the stack, exactly if there are fewer than two samples, or
more than two and the acknowledged ones among them are the samples 2, 2 + d, 2 + 2d, … for a
divisor d of `samples - 2`. -/
theorem averages_iff_evenlySpaced (reply : ℕ → UInt8) (samples : UInt8) :
    (∀ x : HistScript, x.reply = reply → x.FiniteFrames → x.Averages samples) ↔
      samples.toNat < 2 ∨
        2 < samples.toNat ∧ EvenlySpaced (fun s => reply s = 243) 2 samples.toNat := by
  constructor
  · intro hav
    rcases Nat.lt_trichotomy samples.toNat 2 with hlt | heq | hgt
    · exact Or.inl hlt
    · exact absurd (hav (HistScript.indicator reply none) rfl (HistScript.indicator_finite _ _))
        (HistScript.not_averages_of_eq heq)
    · refine Or.inr ⟨hgt, (heldMean_eq_freshMean_iff hgt).1 fun k => ?_⟩
      exact HistScript.indicator_averages hgt
        (hav (HistScript.indicator reply k) rfl (HistScript.indicator_finite _ _))
  · intro hcond x hreply hfin
    subst hreply
    rcases hcond with hlt | ⟨hgt, hspace⟩
    · exact HistScript.averages_of_lt hlt
    · have hread := HistScript.finite_of_evenlySpaced hfin hspace
      exact (HistScript.opcReadHistogram_heldMean hgt hread).2 fun f => hspace.heldMean_eq _

/-- A sensor that is busy at sample 3, whose frame of sample 2 has the mean one and whose other
frames are zero. -/
def busyAtThree : HistScript := HistScript.indicator (fun s => if s = 3 then 49 else 243) (some 2)

/-- Of its seven samples the five averaged ones give 2/5, the four acknowledged ones 1/4. -/
theorem busyAtThree_wrong : busyAtThree.FiniteFrames ∧ ¬ busyAtThree.Averages 7 := by
  refine ⟨HistScript.indicator_finite _ _, fun hav => ?_⟩
  have hmean := HistScript.indicator_averages (by decide) hav
  exact absurd hmean (by decide +kernel)

end AirLab
