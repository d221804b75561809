import AirLab.Opc.Averages
import AirLab.Records

set_option relaxedAutoImplicit false
set_option autoImplicit false

/-!
# The particle record

The record of the particle thread has nine fields in an array of 200 characters. Five of them are
averages of floats taken from the frames as they are, so nothing bounds their width: the record is
cut where the numbers are wide enough, and its newline is lost.

## Main definitions

* `AirLab.payloadBytes` — what the payload transfers of a history delivered.
* `AirLab.Received` — a call received given frames, one in each sample.
* `AirLab.frameMean` — the mean of a field over the frames that count.
* `AirLab.WholeRecord` — the text that is formatted, copied and written is the whole record.

## Main results

* `AirLab.particleRecord_whole_iff` — which frames give a whole record.
-/

namespace AirLab

open CLang Effects

/-! ## Payloads -/

/-- What a payload transfer delivered. -/
def payloadByte? : BoardEvent → Option (Option UInt8)
  | ⟨.spiTransceive tx, rx⟩ => if tx = 0xC0 then some rx else none
  | _ => none

/-- What the payload transfers of a history delivered, in the order of the transfers. -/
def payloadBytes (h : History) : List (Option UInt8) := (h.filterMap payloadByte?).reverse

/-- The bytes of the first `n` frames. -/
def frameBytes (frames : ℕ → Frame) (n : ℕ) : List (Option UInt8) :=
  (List.range n).flatMap fun s => (List.ofFn (frames s)).map some

/-- **The payloads between `h₀` and `h` are the first `n` frames.** A payload is read only in a
sample whose 0x30 command reads 243, and one in a sample. -/
def Received (frames : ℕ → Frame) (n : ℕ) (h₀ h : History) : Prop :=
  payloadBytes h = payloadBytes h₀ ++ frameBytes frames n

/-- The payloads after an event. -/
lemma payloadBytes_cons (e : BoardEvent) (past : History) :
    payloadBytes (e :: past) = payloadBytes past ++ (payloadByte? e).toList := by
  unfold payloadBytes
  rw [List.filterMap_cons]
  rcases payloadByte? e with _ | rx <;> simp

/-- An event that is no payload transfer. -/
lemma payloadBytes_quiet {e : BoardEvent} (he : e.call.isPayload = false) (past : History) :
    payloadBytes (e :: past) = payloadBytes past := by
  have hnone : payloadByte? e = none := by
    obtain ⟨c, r⟩ := e
    cases c with
    | spiTransceive tx => exact if_neg (by simpa [Call.isPayload] using he)
    | _ => rfl
  rw [payloadBytes_cons, hnone]
  exact List.append_nil _

/-- The bytes of one more frame. -/
lemma frameBytes_succ (frames : ℕ → Frame) (n : ℕ) :
    frameBytes frames (n + 1) = frameBytes frames n ++ (List.ofFn (frames n)).map some := by
  simp [frameBytes, List.range_succ]

/-- A frame has 62 bytes. -/
lemma length_frameBytes (frames : ℕ → Frame) (n : ℕ) : (frameBytes frames n).length = 62 * n := by
  induction n with
  | zero => rfl
  | succ n ih =>
    rw [frameBytes_succ, List.length_append, ih, List.length_map, List.length_ofFn]
    ring

section Samples

variable {env : Env Call Resp} {S : History → Prop}

/-- The payload loop after `i` bytes: `p` are the bytes received. -/
def PayloadRead (h₀ : History) (l₀ : HistLocals) (i : ℕ) (l : HistLocals) (h : History) : Prop :=
  ∃ p : List (Option UInt8), p.length = i ∧ payloadBytes h = payloadBytes h₀ ++ p ∧
    (∀ (j : Fin 62) b, p[j.val]? = some (some b) → l.vals j = b) ∧ l.result = l₀.result

/-- One byte of a payload. -/
lemma payloadPass_read (h₀ : History) (l₀ : HistLocals) (i : ℕ) (l : HistLocals) :
    Prog.Triple env (PayloadRead h₀ l₀ i l) (payloadPass i l) (PayloadRead h₀ l₀ (i + 1)) S := by
  intro h hh
  obtain ⟨p, hlen, hbytes, hvals, hresult⟩ := hh
  simp only [payloadPass, spiTransceive, Prog.wp_bind, Prog.wp_perform, Prog.wp_pure]
  refine ⟨p ++ [env h (.spiTransceive 0xC0)], by simp [hlen], ?_, fun j b hb => ?_, hresult⟩
  · rw [payloadBytes_cons, hbytes, List.append_assoc]
    rfl
  · show (if j.val = i then (env h (.spiTransceive 0xC0)).getD l.rxBuf else l.vals j) = b
    by_cases hj : j.val = i
    · rw [hj, List.getElem?_append_right hlen.le, hlen, Nat.sub_self] at hb
      have hsome : env h (.spiTransceive 0xC0) = some b := Option.some.inj hb
      rw [if_pos hj, hsome]
      rfl
    · rw [if_neg hj]
      refine hvals j b ?_
      obtain hlt | hge := Nat.lt_or_ge j.val p.length
      · rwa [List.getElem?_append_left hlt] at hb
      · rw [List.getElem?_append_right hge, List.getElem?_eq_none (by simp; omega)] at hb
        cases hb

/-- **A payload** adds 62 bytes and leaves the sums alone. -/
lemma readPayload_read (l : HistLocals) (h : History) :
    (readPayload l).wp env (fun l' h' => PayloadRead h l 62 l' h') S h := by
  simp only [readPayload, Prog.wp_bind, wp_gpioPinSet, wp_kUsleep, Prog.wp_pure]
  have hstart : PayloadRead h l 0 l
      (⟨.kUsleep 6, ()⟩ :: ⟨.gpioPinSet ⟨.gpioa, 4⟩ .low, ()⟩ :: h) := by
    refine ⟨[], rfl, ?_, fun j b hb => ?_, rfl⟩
    · rw [payloadBytes_quiet rfl, payloadBytes_quiet rfl, List.append_nil]
    · cases hb
  refine Prog.wp.mono (Prog.Triple.forRange (I := PayloadRead h l) 62
    (fun i _ l' => payloadPass_read h l i l') l _ hstart) ?_ fun _ hs => hs
  intro l' h' hh
  obtain ⟨p, hlen, hbytes, hvals, hresult⟩ := hh
  refine ⟨p, hlen, ?_, hvals, hresult⟩
  rw [payloadBytes_quiet rfl, payloadBytes_quiet rfl, hbytes]

/-- The script of a call in which every sample is acknowledged. -/
def steadyScript (frames : ℕ → Frame) : HistScript where
  reply _ := 243
  frame := frames
  stack := ⟨decode fun _ => 0, 0, fun _ => 0⟩
  rest _ := plainAnswer

/-- **The state after `s` samples**: at most one payload was read in each, exactly one if every
command is acknowledged, and if the payloads are the given frames, their fields are summed. -/
structure Sampled (env : Env Call Resp) (frames : ℕ → Frame) (h₀ : History) (s : ℕ) (l : HistLocals)
    (h : History) : Prop where
  bounded : ∃ k ≤ s, (payloadBytes h).length = (payloadBytes h₀).length + 62 * k
  acked : (∀ h, env h (.spiTransceive 0x30) = some 243) →
    (payloadBytes h).length = (payloadBytes h₀).length + 62 * s
  summed : Received frames s h₀ h → ∀ f : Field, f.get l.result = (steadyScript frames).summed f s

variable {frames : ℕ → Frame} {h₀ : History}

/-- An acknowledged sample whose payload has been read. -/
lemma Sampled.next_of_acked {s : ℕ} {l l' : HistLocals} {h h' : History}
    (hst : Sampled env frames h₀ s l h) (hread : PayloadRead h l 62 l' h') :
    Sampled env frames h₀ (s + 1)
      { l' with result := if s > skip - 1 then accumulate l'.result (decode l'.vals)
        else l'.result } h' := by
  obtain ⟨p, hlen, hbytes, hvals, hresult⟩ := hread
  have hlength : (payloadBytes h').length = (payloadBytes h).length + 62 := by
    rw [hbytes, List.length_append, hlen]
  obtain ⟨k, hk, hbounded⟩ := hst.bounded
  refine ⟨⟨k + 1, by omega, by omega⟩, fun hall => ?_, fun hreceived f => ?_⟩
  · have := hst.acked hall
    omega
  · -- the last 62 bytes are those of the last frame
    unfold Received at hreceived
    rw [hbytes, frameBytes_succ, ← List.append_assoc] at hreceived
    obtain ⟨hbefore, hframe⟩ := List.append_inj' hreceived (by simp [hlen])
    have hl' : l'.vals = frames s := by
      funext j
      refine hvals j (frames s j) ?_
      rw [hframe, List.getElem?_map, List.getElem?_ofFn, dif_pos j.isLt]
      rfl
    have hheld : Sampling.held (steadyScript frames).Acked (s + 1) = some s := if_pos rfl
    have hf := hst.summed hbefore f
    unfold HistScript.summed
    by_cases hs : s > skip - 1
    · rw [if_pos hs, if_pos hs, hheld, ← hf, hl', hresult]
      cases f <;> rfl
    · rw [if_neg hs, if_neg hs, ← hf, hresult]

/-- A sample without a payload. -/
lemma Sampled.next_of_busy {s : ℕ} {l l' : HistLocals} {h h' : History}
    (hst : Sampled env frames h₀ s l h) (hbytes : payloadBytes h' = payloadBytes h)
    (hbusy : ¬ ∀ h, env h (.spiTransceive 0x30) = some 243) :
    Sampled env frames h₀ (s + 1) l' h' := by
  obtain ⟨k, hk, hbounded⟩ := hst.bounded
  refine ⟨⟨k, by omega, by rw [hbytes, hbounded]⟩, fun hall => absurd hall hbusy,
    fun hreceived => ?_⟩
  -- one frame is missing
  have hlength := congrArg List.length hreceived
  rw [hbytes, List.length_append, length_frameBytes, hbounded] at hlength
  omega

/-- The state depends on the payloads only. -/
lemma Sampled.congr {s : ℕ} {l : HistLocals} {h h' : History} (hst : Sampled env frames h₀ s l h)
    (hbytes : payloadBytes h' = payloadBytes h) : Sampled env frames h₀ s l h' := by
  refine ⟨?_, ?_, ?_⟩
  · rw [hbytes]
    exact hst.bounded
  · rw [hbytes]
    exact hst.acked
  · unfold Received
    rw [hbytes]
    exact hst.summed

/-- The 0x30 command reads no payload, and 243 where it is always acknowledged. -/
lemma wp_readyCommand {h : History} {Q : UInt8 → History → Prop}
    (hQ : ∀ r h', payloadBytes h' = payloadBytes h →
      ((∀ h, env h (.spiTransceive 0x30) = some 243) → r = 243) → Q r h') :
    (opcSendCommand 0x30).wp env Q S h := by
  simp only [opcSendCommand, uninit, spiTransceive, Prog.wp_bind, Prog.wp_perform,
    wp_gpioPinSet, wp_kUsleep, Prog.wp_pure]
  refine hQ _ _ ?_ fun hall => ?_
  · rw [payloadBytes_quiet rfl, payloadBytes_quiet rfl, payloadBytes_quiet rfl,
      payloadBytes_quiet rfl, payloadBytes_quiet rfl, payloadBytes_quiet rfl]
  · rw [hall]
    rfl

/-- **A pass of the sample loop.** -/
lemma samplePass_sampled (s : ℕ) (l : HistLocals) :
    Prog.Triple env (Sampled env frames h₀ s l) (samplePass s l) (Sampled env frames h₀ (s + 1))
      S := by
  intro h hst
  unfold samplePass
  rw [Prog.wp_bind]
  refine wp_readyCommand fun r h₁ hbytes hr => ?_
  rw [Prog.wp_bind, wp_kMsleep]
  have hquiet := fun ms h' => payloadBytes_quiet (e := ⟨.kMsleep ms, ()⟩) rfl h'
  by_cases hack : r = 243
  · rw [if_pos hack, Prog.wp_bind]
    refine (readPayload_read l _).mono ?_ fun _ hs => hs
    intro l' h₂ hread
    rw [Prog.wp_bind, wp_kMsleep, Prog.wp_pure]
    have hst₁ : Sampled env frames h₀ s l (⟨.kMsleep 12, ()⟩ :: h₁) :=
      hst.congr (by rw [hquiet, hbytes])
    exact (hst₁.next_of_acked hread).congr (hquiet 5000 h₂)
  · rw [if_neg hack, Prog.wp_bind, Prog.wp_pure, Prog.wp_bind, wp_kMsleep, Prog.wp_pure]
    exact hst.next_of_busy (by rw [hquiet, hquiet, hbytes]) fun hall => hack (hr hall)

/-- The mean of a field over the frames that count in seven samples. -/
def frameMean (frames : ℕ → Frame) (f : Field) : ℚ :=
  (∑ s ∈ Finset.Ico 2 7, (f.get (decode (frames s))).toRat) / 5

/-- The five floats of the frames that count are finite. -/
def FiniteFloats (frames : ℕ → Frame) : Prop :=
  ∀ s < 7, ∀ f : Field, (f.get (decode (frames s))).IsFinite

/-- The histogram of seven samples, made of the given frames: its five averages are their means. -/
structure Measured (env : Env Call Resp) (frames : ℕ → Frame) (h₀ : History) (data : Histogram)
    (h : History) : Prop where
  acked : (∀ h, env h (.spiTransceive 0x30) = some 243) →
    (payloadBytes h).length = (payloadBytes h₀).length + 434
  means : Received frames 7 h₀ h → FiniteFloats frames →
    ∀ f : Field, f.get data = .fin (frameMean frames f)

/-- **Reading seven samples.** -/
lemma opcReadHistogram_measured (h : History) :
    (opcReadHistogram 7).wp env (Measured env frames h) S h := by
  unfold opcReadHistogram sampleLoop
  rw [Prog.wp_bind]
  refine (Prog.wp_perform (Call.uninit .histogram) _).2 ?_
  rw [Prog.wp_bind]
  have hstart : Sampled env frames h 0
      { env h (.uninit .histogram) with result := clearResult (env h (.uninit .histogram)).result }
      (⟨.uninit .histogram, env h (.uninit .histogram)⟩ :: h) := by
    refine ⟨⟨0, le_rfl, rfl⟩, fun _ => rfl, fun _ f => ?_⟩
    cases f <;> rfl
  refine Prog.wp.mono (Prog.Triple.forRange (I := Sampled env frames h) 7
    (fun s _ l => samplePass_sampled s l) _ _ hstart) ?_ fun _ hs => hs
  intro l h' hst
  rw [Prog.wp_pure]
  refine ⟨fun hall => hst.acked hall, fun hreceived hfin f => ?_⟩
  have hsum := hst.summed hreceived f
  have hvalue : ∀ s, (steadyScript frames).buffer
      (Sampling.held (steadyScript frames).Acked (s + 1)) = frames s := fun s => by
    rw [show Sampling.held (steadyScript frames).Acked (s + 1) = some s from if_pos rfl]
    rfl
  have htotal := HistScript.summed_eq (x := steadyScript frames) f (n := 7) (by decide)
    fun s _ hs => by
      rw [hvalue]
      exact hfin s hs f
  rw [htotal] at hsum
  have hfive : (((7 : UInt8).toNat : ℤ) - skip : ℤ) = 5 := rfl
  have hmean : f.get (average 7 l.result) = f.get l.result / .fin 5 := by
    unfold average
    rw [hfive]
    cases f <;> rfl
  rw [hmean, hsum, Flt.fin_div_fin (by norm_num)]
  unfold frameMean HistScript.value
  simp only [hvalue]
  rfl

/-! ## A pass of the particle thread -/

/-- The means are kept by everything but payloads. -/
lemma Measured.quiet {data : Histogram} {e : BoardEvent} {h : History}
    (he : e.call.isPayload = false) (hm : Measured env frames h₀ data h) :
    Measured env frames h₀ data (e :: h) := by
  refine ⟨?_, ?_⟩
  · rw [payloadBytes_quiet he]
    exact hm.acked
  · unfold Received
    rw [payloadBytes_quiet he]
    exact hm.means

/-- Payloads read after others that are not looked at. -/
lemma Measured.of_payloadBytes_eq {data : Histogram} {h h₁ : History}
    (hbytes : payloadBytes h₁ = payloadBytes h₀) (hm : Measured env frames h₁ data h) :
    Measured env frames h₀ data h := by
  refine ⟨?_, ?_⟩
  · rw [← hbytes]
    exact hm.acked
  · unfold Received
    rw [← hbytes]
    exact hm.means

/-- A call without text and without a payload byte. -/
def Call.IsQuiet (c : Call) : Prop := c.text? = none ∧ c.isPayload = false

/-- A handshake is quiet. -/
lemma Call.ofHandshake.isQuiet (c : Call) (hc : c.ofHandshake) : c.IsQuiet :=
  ⟨Call.ofPower.textless c hc.1, hc.2⟩

/-- Reading the ambient sensor is quiet. -/
lemma Call.ofAmbient.isQuiet (c : Call) (hc : c.ofAmbient) : c.IsQuiet := by
  cases c <;> first | exact hc.elim | exact ⟨rfl, rfl⟩

/-- No text and no payload since `h₀`. -/
def Unmeasured (h₀ h : History) : Prop :=
  Prog.Since (fun c => c.text? = none) h₀ h ∧ payloadBytes h = payloadBytes h₀

/-- The histogram is measured, and no text formatted yet. -/
def Unreported (env : Env Call Resp) (frames : ℕ → Frame) (h₀ : History) (data : Histogram)
    (h : History) : Prop :=
  Prog.Since (fun c => c.text? = none) h₀ h ∧ Measured env frames h₀ data h

/-- Quiet calls before the measurement. -/
lemma Unmeasured.triple {α : Type} {p : App α} (hp : p.Within Call.IsQuiet) :
    Prog.Triple env (Unmeasured h₀) p (fun _ => Unmeasured h₀) fun _ => True := by
  refine Prog.Triple.of_calls (fun e h he hh => ⟨hh.1.cons e he.1, ?_⟩) (fun _ _ _ => trivial) hp
  rw [payloadBytes_quiet he.2, hh.2]

/-- Quiet calls after it. -/
lemma Unreported.triple {data : Histogram} {α : Type} {p : App α} (hp : p.Within Call.IsQuiet) :
    Prog.Triple env (Unreported env frames h₀ data) p (fun _ => Unreported env frames h₀ data)
      fun _ => True :=
  Prog.Triple.of_calls (fun e _ he hh => ⟨hh.1.cons e he.1, hh.2.quiet he.2⟩)
    (fun _ _ _ => trivial) hp

/-- **A measurement cycle** of seven samples. -/
lemma opcCycle_measured (frames : ℕ → Frame) (fuel : ℕ) :
    Prog.Triple env (Unmeasured h₀) (opcCycle fuel 7) (Unreported env frames h₀)
      fun _ => True := by
  have hinit : opcInit.Within Call.IsQuiet := opcInit_calls.mono fun c hc => by
    rw [hc]
    exact ⟨rfl, rfl⟩
  have hread : (opcReadHistogram 7).Only fun c => c.text? = none :=
    (opcReadHistogram_calls 7).mono fun c hc => Call.ofPower.textless c hc.ofPower
  unfold opcCycle
  refine Prog.Triple.bind (Unmeasured.triple hinit) fun _ => ?_
  refine Prog.Triple.bind (Unmeasured.triple ((opcStart_calls fuel).mono
    Call.ofHandshake.isQuiet fun _ => trivial)) fun _ => ?_
  refine Prog.Triple.bind (Q := Unreported env frames h₀) ?_ fun data => ?_
  · intro h hh
    have hmeasured : (opcReadHistogram 7).wp env (Measured env frames h) (fun _ => True) h :=
      opcReadHistogram_measured h
    exact (hmeasured.and (Prog.Triple.since hread h hh.1)).mono
      (fun _ _ hm => ⟨hm.2, hm.1.of_payloadBytes_eq hh.2⟩) fun _ _ => trivial
  refine Prog.Triple.bind (Unreported.triple ((opcStop_calls fuel).mono
    Call.ofHandshake.isQuiet fun _ => trivial)) fun _ => ?_
  refine Prog.Triple.bind (Unreported.triple (opcRelease_calls.mono Call.ofHandshake.isQuiet))
    fun _ => ?_
  exact Prog.Triple.pure fun _ hh => hh

/-- **A pass of the particle thread** reports the text it formats from the histogram it measured. -/
lemma countParticlesPass_reports (frames : ℕ → Frame) (fuel : ℕ) (a : Fin 3 → Flt) (h : History) :
    (countParticlesPass fuel a).wp env (fun a' h' => ∃ data t,
      t = CStr.snprintf textData_pos (particleRecord data a') ∧
        Reports t.chars [⟨.strcpy .opcMsg t, ()⟩, ⟨.snprintfcb t, ()⟩] h h' ∧
          Measured env frames h data h') (fun _ => True) h := by
  have hpin : ∀ v, (gpioPinSet ledRed v).Within Call.IsQuiet := fun v =>
    (Prog.calls_perform _).2 ⟨rfl, rfl⟩
  refine Prog.Triple.bind (Unmeasured.triple (hpin .high)) (fun _ => ?_) h ⟨.refl _ h, rfl⟩
  refine Prog.Triple.bind (opcCycle_measured frames fuel) fun data => ?_
  refine Prog.Triple.bind (Unreported.triple (hpin .low)) fun _ => ?_
  refine Prog.Triple.bind (Unreported.triple ((ambientSensorsRead_calls 1 a).mono
    Call.ofAmbient.isQuiet)) fun a' => ?_
  intro h₁ hh
  obtain ⟨hsince, hm⟩ := hh
  obtain ⟨t, ht⟩ : ∃ t, t = CStr.snprintf textData_pos (particleRecord data a') := ⟨_, rfl⟩
  rw [Prog.wp_bind, wp_snprintfcb, ← ht, Prog.wp_bind, wp_strcpy, Prog.wp_bind]
  have hstorage : ∀ c : Call, c.ofStorage → c.isPayload = false := by
    intro c hc
    cases c <;> first | exact hc.elim | rfl
  have hkeep : Prog.Triple env (Measured env frames h data) (saveData t "opc")
      (fun _ => Measured env frames h data) fun _ => True :=
    Prog.Triple.of_only (fun e h he hh => hh.quiet (hstorage _ he)) (saveData_calls t "opc")
  have hreports : Prog.Triple env (Reports t.chars [⟨.strcpy .opcMsg t, ()⟩, ⟨.snprintfcb t, ()⟩] h)
      (saveData t "opc")
      (fun _ => Reports t.chars [⟨.strcpy .opcMsg t, ()⟩, ⟨.snprintfcb t, ()⟩] h) fun _ => True :=
    reports_saveData t "opc"
  have hsaved := (hreports _ ((Reports.format t hsince).copy .opcMsg)).and
    (hkeep _ (Measured.quiet rfl (Measured.quiet rfl hm)))
  refine hsaved.mono ?_ fun _ _ => trivial
  intro _ h₂ hh
  rw [Prog.wp_bind, wp_kMsleep, Prog.wp_pure]
  exact ⟨data, t, ht, hh.1.sleep 120000, hh.2.quiet rfl⟩

end Samples

/-! ## The record -/

/-- The five means in the order of the record. -/
def measuredFields : List Field := [.period, .sfr, .pm1, .pm25, .pm10]

/-- The numbers the record should contain. -/
def recordValues (frames : ℕ → Frame) (ambSensors : Fin 3 → Flt) : List Flt :=
  measuredFields.map (fun f => .fin (frameMean frames f)) ++ List.ofFn ambSensors

/-- The fields the record should have. -/
def recordFields (frames : ℕ → Frame) (ambSensors : Fin 3 → Flt) : List Text :=
  timeField :: (recordValues frames ambSensors).map fixed2

/-- **The pass from `h₀` to `h` reports the whole record** of the frames and the ambient values: the
text that is formatted, copied to `opc_msg` and written is the line of its nine fields. -/
def WholeRecord (frames : ℕ → Frame) (ambSensors : Fin 3 → Flt) (h₀ h : History) : Prop :=
  ∃ t : CStr 200, t.chars = joinFields (recordFields frames ambSensors) ∧ IsRecordLine 9 t.chars ∧
    Reports t.chars [⟨.strcpy .opcMsg t, ()⟩, ⟨.snprintfcb t, ()⟩] h₀ h

/-- **The characters before the points of the eight numbers**: their signs and integer digits. -/
def recordWidth (frames : ℕ → Frame) (ambSensors : Fin 3 → Flt) : ℕ :=
  (measuredFields.map fun f => intWidth (frameMean frames f)).sum +
    (List.ofFn fun i => intWidth (ambSensors i).toRat).sum

section Record

variable {frames : ℕ → Frame} {ambSensors : Fin 3 → Flt} {h₀ h : History}

/-- The record has nine fields. -/
lemma recordFields_isField (frames : ℕ → Frame) (ambSensors : Fin 3 → Flt) :
    (recordFields frames ambSensors).length = 9 ∧
      ∀ f ∈ recordFields frames ambSensors, IsField f := by
  refine ⟨by simp [recordFields, recordValues, measuredFields], fun f hf => ?_⟩
  rcases List.mem_cons.1 hf with rfl | hf
  · exact isField_timeField
  · obtain ⟨x, -, rfl⟩ := List.mem_map.1 hf
    exact isField_of_subset (fixed2_subset x)

/-- **The length of the record.** -/
lemma length_record (frames : ℕ → Frame) (hamb : ∀ i, (ambSensors i).IsFinite) :
    (joinFields (recordFields frames ambSensors)).length = recordWidth frames ambSensors + 52 := by
  have hne : recordFields frames ambSensors ≠ [] := List.cons_ne_nil _ _
  have htime : timeField.length = 19 := by decide
  have hvalue : ∀ i, (fixed2 (ambSensors i)).length = intWidth (ambSensors i).toRat + 3 := by
    intro i
    rw [(hamb i).eq_fin, length_fixed2]
    rfl
  have hthird : (Fin.succ 1 : Fin 3) = 2 := rfl
  rw [length_joinFields hne, (recordFields_isField frames ambSensors).1]
  simp only [recordFields, recordValues, measuredFields, List.ofFn_succ, List.ofFn_zero,
    List.map_cons, List.map_nil, List.cons_append, List.nil_append, List.sum_cons, List.sum_nil,
    Fin.succ_zero_eq_one, hthird, htime, hvalue, length_fixed2, recordWidth]
  omega

/-- A whole record fits into the array. -/
lemma WholeRecord.width_le (hamb : ∀ i, (ambSensors i).IsFinite)
    (hwhole : WholeRecord frames ambSensors h₀ h) : recordWidth frames ambSensors ≤ 147 := by
  obtain ⟨t, ht, -, -⟩ := hwhole
  have hfits := t.fits
  rw [ht, length_record frames hamb] at hfits
  omega

/-- A text that fits is reported whole. -/
lemma wholeRecord_of_reports {data : Histogram} {t : CStr 200}
    (hamb : ∀ i, (ambSensors i).IsFinite) (hwidth : recordWidth frames ambSensors ≤ 147)
    (ht : t = CStr.snprintf textData_pos (particleRecord data ambSensors))
    (hreports : Reports t.chars [⟨.strcpy .opcMsg t, ()⟩, ⟨.snprintfcb t, ()⟩] h₀ h)
    (hmeans : ∀ f : Field, f.get data = .fin (frameMean frames f)) :
    WholeRecord frames ambSensors h₀ h := by
  obtain ⟨hlen, hfields⟩ := recordFields_isField frames ambSensors
  have hrecord : particleRecord data ambSensors = joinFields (recordFields frames ambSensors) := by
    have hvalues : measuredFields.map (fun f => f.get data) =
        measuredFields.map fun f => .fin (frameMean frames f) :=
      List.map_congr_left fun f _ => hmeans f
    unfold recordFields recordValues
    rw [← hvalues]
    rfl
  have hchars : t.chars = joinFields (recordFields frames ambSensors) := by
    have hlength := length_record frames hamb
    rw [ht, hrecord]
    exact CStr.snprintf_chars textData_pos (nul_not_mem_joinFields hfields) (by omega)
  refine ⟨t, hchars, ?_, hreports⟩
  rw [hchars, ← hlen]
  exact isRecordLine_joinFields hfields

end Record

/-- **Which particle records are whole lines.** In a pass of the particle thread that received seven
frames with finite floats and finite ambient values, the record is whole exactly if the signs and
integer digits of its eight numbers, the means of the frames and the ambient values, are at most
147 characters. -/
theorem particleRecord_whole_iff (env : Env Call Resp) (fuel : ℕ) (a a' : Fin 3 → Flt)
    (h h' : History) (frames : ℕ → Frame)
    (hrun : (countParticlesPass fuel a).run env h = (some a', h'))
    (hreceived : Received frames 7 h h') (hfin : FiniteFloats frames)
    (hamb : ∀ i, (a' i).IsFinite) :
    WholeRecord frames a' h h' ↔ recordWidth frames a' ≤ 147 := by
  refine ⟨fun hwhole => hwhole.width_le hamb, fun hwidth => ?_⟩
  obtain ⟨data, t, ht, hreports, hm⟩ :=
    (countParticlesPass_reports frames fuel a h).of_some hrun
  exact wholeRecord_of_reports hamb hwidth ht hreports (hm.means hreceived hfin)

/-- A counter that answers every command at once and whose frames repeat one byte, an ambient sensor
at 50, and a card that takes nothing. -/
def steadyBoard (b : UInt8) : Env Call Resp := fun _ c =>
  match c with
  | .spiTransceive tx =>
    if tx = 0xC0 then some b else if tx = 0x00 ∨ tx = 0x01 then some 3 else some 243
  | .sensorSampleFetch => some ⟨⟨50, 0⟩, ⟨50, 0⟩, ⟨50, 0⟩⟩
  | .sensorChannelGet _ => some ⟨50, 0⟩
  | .fsWrite _ _ => (0 : ℤ)
  | c => plainAnswer c

/-- All its payload bytes are the byte. -/
lemma steadyBoard_payloadBytes (b : UInt8) {α : Type} (p : App α) :
    ∀ x ∈ payloadBytes (p.run (steadyBoard b) []).2, x = some b := by
  refine Prog.run_invariant (steadyBoard b) (I := fun h => ∀ x ∈ payloadBytes h, x = some b)
    (fun h c hh x hx => ?_) p (fun x hx => nomatch hx)
  rw [payloadBytes_cons] at hx
  rcases List.mem_append.1 hx with hx | hx
  · exact hh x hx
  · cases c with
    | spiTransceive tx =>
      by_cases htx : tx = 0xC0
      · simpa [payloadByte?, steadyBoard, htx] using hx
      · simp [payloadByte?, htx] at hx
    | _ => exact nomatch hx

/-- Frames of one byte. -/
lemma frameBytes_const (b : UInt8) (n : ℕ) :
    frameBytes (fun _ _ => b) n = List.replicate (62 * n) (some b) := by
  refine List.eq_replicate_iff.2 ⟨length_frameBytes _ n, fun x hx => ?_⟩
  obtain ⟨s, -, hx⟩ := List.mem_flatMap.1 hx
  obtain ⟨y, hy, rfl⟩ := List.mem_map.1 hx
  obtain ⟨j, rfl⟩ := List.mem_ofFn.1 hy
  rfl

/-- A measurement cycle on it returns. -/
lemma steadyBoard_cycle (b : UInt8) (h : History) :
    ∃ data h', (opcCycle 1 7).run (steadyBoard b) h = (some data, h') := by
  have hstart : ∀ h, ∃ h', (opcStart 1).run (steadyBoard b) h = (some (), h') := fun h => ⟨_, rfl⟩
  have hstop : ∀ h, ∃ h', (opcStop 1).run (steadyBoard b) h = (some (), h') := fun h => ⟨_, rfl⟩
  obtain ⟨h₁, hinit⟩ : ∃ h₁, opcInit.run (steadyBoard b) h = (some (), h₁) := ⟨_, rfl⟩
  obtain ⟨h₂, hstarted⟩ := hstart h₁
  have hmeasured : (opcReadHistogram 7).wp (steadyBoard b)
      (Measured (steadyBoard b) (fun _ _ => b) h₂) (fun _ => False) h₂ :=
    opcReadHistogram_measured h₂
  obtain ⟨data, h₃, hread, -⟩ := hmeasured.returns
  obtain ⟨h₄, hstopped⟩ := hstop h₃
  unfold opcCycle
  rw [Prog.run_bind_of_some _ hinit, Prog.run_bind_of_some _ hstarted,
    Prog.run_bind_of_some _ hread, Prog.run_bind_of_some _ hstopped]
  exact ⟨data, _, rfl⟩

/-- Its ambient values are 50. -/
lemma steadyBoard_ambient (b : UInt8) (h : History) : ∃ a' h',
    (ambientSensorsRead 1 fun _ => 0).run (steadyBoard b) h = (some a', h') ∧
      ∀ i, a' i = .fin 50 := by
  have hmeans : ∀ i, ambientMeans 1 (addSample (fun _ => 0)
      ⟨⟨50, 0⟩, ⟨50, 0⟩, ⟨50, 0⟩⟩) i = .fin 50 := by decide +kernel
  exact ⟨_, _, rfl, hmeans⟩

/-- Its first pass. -/
lemma steadyBoard_pass (b : UInt8) : ∃ a' h',
    (countParticlesPass 1 fun _ => 0).run (steadyBoard b) [] = (some a', h') ∧
      (∀ i, a' i = .fin 50) ∧ Received (fun _ _ => b) 7 [] h' := by
  obtain ⟨data, h₁, hcycle⟩ := steadyBoard_cycle b [⟨.gpioPinSet ledRed .high, ()⟩]
  obtain ⟨a', h₂, hambient, ha'⟩ := steadyBoard_ambient b (⟨.gpioPinSet ledRed .low, ()⟩ :: h₁)
  obtain ⟨h', hrun⟩ : ∃ h', (countParticlesPass 1 fun _ => 0).run (steadyBoard b) [] =
      (some a', h') := by
    unfold countParticlesPass
    rw [Prog.run_bind_of_some _ (run_gpioPinSet ledRed .high), Prog.run_bind_of_some _ hcycle,
      Prog.run_bind_of_some _ (run_gpioPinSet ledRed .low), Prog.run_bind_of_some _ hambient]
    exact ⟨_, rfl⟩
  refine ⟨a', h', hrun, ha', ?_⟩
  obtain ⟨data', t, -, -, hm⟩ :=
    (countParticlesPass_reports (fun _ _ => b) 1 (fun _ => 0) []).of_some hrun
  have hbytes := steadyBoard_payloadBytes b (countParticlesPass 1 fun _ => 0)
  rw [hrun] at hbytes
  have hlength : (payloadBytes h').length = 62 * 7 := (hm.acked fun _ => rfl).trans (Nat.zero_add _)
  unfold Received
  rw [frameBytes_const]
  exact List.eq_replicate_iff.2 ⟨hlength, hbytes⟩

/-- Frames that repeat the byte 0x7D have five means of 38 digits: their record is cut. -/
theorem wideFrames_cut : ∃ a' h',
    (countParticlesPass 1 fun _ => 0).run (steadyBoard 0x7D) [] = (some a', h') ∧
      Received (fun _ _ => 0x7D) 7 [] h' ∧ FiniteFloats (fun _ _ => 0x7D) ∧
      (∀ i, a' i = .fin 50) ∧ ¬ WholeRecord (fun _ _ => 0x7D) a' [] h' := by
  obtain ⟨a', h', hrun, ha', hreceived⟩ := steadyBoard_pass 0x7D
  have hbyte : ∀ f : Field, (f.get (decode fun _ => 0x7D)).IsFinite := by
    intro f
    cases f <;> decide +kernel
  have hfin : FiniteFloats fun _ _ => 0x7D := fun _ _ f => hbyte f
  refine ⟨a', h', hrun, hreceived, hfin, ha', fun hwhole => ?_⟩
  obtain rfl : a' = fun _ => .fin 50 := funext ha'
  have hwide : ¬ recordWidth (fun _ _ => 0x7D) (fun _ => .fin 50) ≤ 147 := by decide +kernel
  exact hwide (hwhole.width_le fun _ => trivial)

/-- Frames that repeat the byte 0x6D have five means of 28 digits: their record just fits. -/
theorem largeFrames_whole : ∃ a' h',
    (countParticlesPass 1 fun _ => 0).run (steadyBoard 0x6D) [] = (some a', h') ∧
      recordWidth (fun _ _ => 0x6D) a' = 146 ∧ WholeRecord (fun _ _ => 0x6D) a' [] h' := by
  obtain ⟨a', h', hrun, ha', hreceived⟩ := steadyBoard_pass 0x6D
  have hbyte : ∀ f : Field, (f.get (decode fun _ => 0x6D)).IsFinite := by
    intro f
    cases f <;> decide +kernel
  have hfin : FiniteFloats fun _ _ => 0x6D := fun _ _ f => hbyte f
  obtain rfl : a' = fun _ => .fin 50 := funext ha'
  have hnarrow : recordWidth (fun _ _ => 0x6D) (fun _ => .fin 50) = 146 := by decide +kernel
  exact ⟨_, h', hrun, hnarrow, (particleRecord_whole_iff (steadyBoard 0x6D) 1 _ _ [] h' _ hrun
    hreceived hfin fun _ => trivial).2 (by rw [hnarrow]; decide)⟩

end AirLab
