import Mathlib.Data.List.Chain
import AirLab.Threads

set_option relaxedAutoImplicit false
set_option autoImplicit false

/-!
# SPI framing and power discipline of the particle counter

The moments at which the chip-select line goes up cut a history into pieces. The traffic of the
application follows a small grammar: a piece is a command of one byte or a payload of 62 bytes,
and a payload follows a histogram command answered by 243, and only that.

## Main definitions

* `AirLab.pieces` — the SPI traffic of a history, cut where the chip-select line goes up.
* `AirLab.Framing` — the grammar of the traffic.
* `AirLab.Disciplined` — the invariant: powered and selected transfers, traffic in the grammar.
* `AirLab.opcCycles` — measurement cycles of the particle counter.

## Main results

* `AirLab.opcCycles_framing` — every run of measurement cycles is framed and powered.
-/

namespace AirLab

open CLang Effects

/-! ## The traffic of a history -/

/-- A byte sent over SPI, with what came back. -/
structure Exchange where
  tx : UInt8
  rx : Option UInt8
  deriving DecidableEq

/-- The exchange of an event, if it is a transfer. -/
def exchange? : BoardEvent → Option Exchange
  | ⟨.spiTransceive tx, rx⟩ => some ⟨tx, rx⟩
  | _ => none

/-- The traffic since the chip-select line last went up, the latest exchange first. -/
def openPiece : History → List Exchange
  | [] => []
  | e :: past =>
    if Rises chipSelect e past then [] else (exchange? e).toList ++ openPiece past

/-- The pieces that end where the chip-select line went up, the latest one first. -/
def closedPieces : History → List (List Exchange)
  | [] => []
  | e :: past =>
    if Rises chipSelect e past then openPiece past :: closedPieces past else closedPieces past

/-- A pin goes up only where it is set. -/
lemma not_rises {p : Pin} {e : BoardEvent} {past : History} (hw : e.call.writes p ≠ some .high) :
    ¬ Rises p e past := by
  intro hh
  obtain ⟨hlow, hhigh⟩ := hh
  rw [level_cons] at hhigh
  cases hc : e.call.writes p with
  | none => simp [hc, hlow] at hhigh
  | some l => simp_all

/-- An event without traffic that does not set the chip-select line leaves the open piece. -/
lemma openPiece_quiet {e : BoardEvent} {past : History} (hx : exchange? e = none)
    (hw : e.call.writes chipSelect ≠ some .high) : openPiece (e :: past) = openPiece past := by
  simp [openPiece, not_rises hw, hx]

/-- An event that does not set the chip-select line closes no piece. -/
lemma closedPieces_quiet {e : BoardEvent} {past : History}
    (hw : e.call.writes chipSelect ≠ some .high) :
    closedPieces (e :: past) = closedPieces past := by
  simp [closedPieces, not_rises hw]

/-- The history's SPI traffic, cut at the moments the chip-select line goes up, the latest
piece first. -/
def pieces (h : History) : List (List Exchange) := openPiece h :: closedPieces h

/-- The histogram command, answered by 243. -/
def histogramReady : Exchange := ⟨0x30, some 243⟩

/-- **The grammar of the traffic**: commands of one byte, each histogram command answered by 243
followed by a payload of 62 bytes. The flag tells whether a payload is due. -/
inductive Framing : List (List Exchange) → Bool → Prop
  | start : Framing [] false
  | command {ps : List (List Exchange)} (x : Exchange) (hps : Framing ps false) :
      Framing ([x] :: ps) (x = histogramReady)
  | payload {ps : List (List Exchange)} (p : List Exchange) (hp : p.length = 62)
      (hps : Framing ps true) : Framing (p :: ps) false

/-- A piece of traffic in the grammar is a command or a payload. -/
lemma Framing.length_eq {ps : List (List Exchange)} {due : Bool} (h : Framing ps due) :
    ∀ p ∈ ps, p.length = 1 ∨ p.length = 62 := by
  induction h with
  | start => simp
  | command x hps ih =>
    intro p hp
    rcases List.mem_cons.1 hp with rfl | hp
    · exact Or.inl rfl
    · exact ih p hp
  | payload p hp hps ih =>
    intro q hq
    rcases List.mem_cons.1 hq with rfl | hq
    · exact Or.inr hp
    · exact ih q hq

/-- A payload is due exactly after a histogram command answered by 243. -/
lemma Framing.due_iff {ps : List (List Exchange)} {due : Bool} (h : Framing ps due) :
    due = true ↔ ps.head? = some [histogramReady] := by
  cases h with
  | start => simp
  | command x hps => simp
  | payload p hp hps =>
    simp only [Bool.false_eq_true, List.head?_cons, Option.some.injEq, false_iff]
    rintro rfl
    simp at hp

/-- In the grammar a piece is a payload exactly if the piece before it is a histogram command
answered by 243.

**Proof sketch.** Induction on the grammar. A command is no payload, and none was due before it;
before a payload one was due. -/
lemma Framing.isChain {ps : List (List Exchange)} {due : Bool} (h : Framing ps due) :
    ps.IsChain (fun p q => p.length = 62 ↔ q = [histogramReady]) := by
  induction h with
  | start => exact .nil
  | command x hps ih =>
    have hdue := hps.due_iff
    refine List.isChain_cons.2 ⟨fun q hq => ?_, ih⟩
    rw [Option.mem_def] at hq
    simp [hq] at hdue
    simp [hdue]
  | payload p hp hps ih =>
    have hdue := hps.due_iff
    refine List.isChain_cons.2 ⟨fun q hq => ?_, ih⟩
    rw [Option.mem_def] at hq
    simp [hq] at hdue
    simp [hp, hdue]

/-- The first piece of traffic in the grammar is no payload. -/
lemma Framing.getLast_length {ps : List (List Exchange)} {due : Bool} (h : Framing ps due) :
    ∀ p ∈ ps.getLast?, p.length ≠ 62 := by
  induction h with
  | start => simp
  | command x hps ih =>
    rename_i ps
    cases ps with
    | nil => simp
    | cons q qs => simpa using ih
  | payload p hp hps ih =>
    rename_i ps
    cases ps with
    | nil => cases hps
    | cons q qs => simpa using ih

/-! ## The invariant -/

/-- A transfer takes place with the relay on and the sensor selected. -/
def Powered (e : BoardEvent) (past : History) : Prop :=
  e.call.isTransfer = true → level relay past = .high ∧ level chipSelect past = .low

/-- **The invariant between commands**: every transfer so far was powered and selected, the
traffic is in the grammar, and no traffic stands after the last rise of the chip-select
line. -/
structure Disciplined (h : History) : Prop where
  powered : Always Powered h
  settled : openPiece h = []
  framed : Framing (closedPieces h) false

/-- The invariant with the relay at a given level. -/
def DisciplinedAt (l : Level) (h : History) : Prop := Disciplined h ∧ level relay h = l

/-- An event that is no transfer and does not set the chip-select line keeps the invariant. -/
lemma Disciplined.quiet {e : BoardEvent} {h : History} (hd : Disciplined h)
    (ht : e.call.isTransfer = false) (hx : exchange? e = none)
    (hw : e.call.writes chipSelect ≠ some .high) : Disciplined (e :: h) where
  powered := ⟨fun h' => by simp [ht] at h', hd.powered⟩
  settled := (openPiece_quiet hx hw).trans hd.settled
  framed := by rw [closedPieces_quiet hw]; exact hd.framed

/-- Sleeping keeps the invariant. -/
lemma DisciplinedAt.kMsleep {l : Level} {h : History} (hd : DisciplinedAt l h) (ms : ℕ) :
    DisciplinedAt l (⟨.kMsleep ms, ()⟩ :: h) :=
  ⟨hd.1.quiet rfl rfl (by simp [Call.writes]), by simpa [Call.writes] using hd.2⟩

/-- Switching the relay keeps the invariant. -/
lemma DisciplinedAt.setRelay {l : Level} {h : History} (hd : DisciplinedAt l h) (l' : Level) :
    DisciplinedAt l' (⟨.gpioPinSet ⟨.gpiob, 3⟩ l', ()⟩ :: h) :=
  ⟨hd.1.quiet rfl rfl (by simp [Call.writes]), by simp [Call.writes]⟩

/-- Setting any other pin of port B keeps the invariant. -/
lemma DisciplinedAt.setPortB {l : Level} {h : History} (hd : DisciplinedAt l h) {n : ℕ}
    (hn : n ≠ 3) (l' : Level) : DisciplinedAt l (⟨.gpioPinSet ⟨.gpiob, n⟩ l', ()⟩ :: h) :=
  ⟨hd.1.quiet rfl rfl (by simp [Call.writes]), by simpa [Call.writes, hn] using hd.2⟩

/-- Configuring a pin of port A, the chip-select line as an output at low included, keeps the
invariant. -/
lemma DisciplinedAt.configurePortA {l : Level} {h : History} (hd : DisciplinedAt l h) (n : ℕ)
    (flags : GpioFlags) : DisciplinedAt l (⟨.gpioPinConfigure ⟨.gpioa, n⟩ flags, ()⟩ :: h) := by
  refine ⟨hd.1.quiet rfl rfl ?_, ?_⟩
  · cases flags <;> simp [Call.writes]
  · cases flags <;> simpa [Call.writes] using hd.2

/-- **A command** adds a piece of one byte and leaves everything else as it was. -/
lemma DisciplinedAt.command {h : History} (hd : DisciplinedAt .high h) (w : World) (cmd : UInt8) :
    Always Powered (commandEvents w cmd h ++ h) ∧ openPiece (commandEvents w cmd h ++ h) = [] ∧
      closedPieces (commandEvents w cmd h ++ h) =
        [⟨cmd, w.spi (transfers h)⟩] :: closedPieces h ∧
      level relay (commandEvents w cmd h ++ h) = .high := by
  obtain ⟨⟨hpow, hopen, -⟩, hon⟩ := hd
  simp [commandEvents, Always, Powered, openPiece, closedPieces, Rises, exchange?, Call.writes,
    Call.isTransfer, hpow, hopen, hon]
  exact fun hlow => by simp [hlow]

/-! ## The functions keep the invariant -/

section Functions

variable {w : World} {l : Level}

/-- A command other than the histogram command keeps the invariant. -/
lemma DisciplinedAt.otherCommand {h : History} (hd : DisciplinedAt .high h) (w : World)
    {cmd : UInt8} (hcmd : cmd ≠ 0x30) : DisciplinedAt .high (commandEvents w cmd h ++ h) := by
  obtain ⟨hpow, hopen, hclosed, hon⟩ := hd.command w cmd
  refine ⟨⟨hpow, hopen, ?_⟩, hon⟩
  rw [hclosed]
  simpa [histogramReady, hcmd] using
    Framing.command ⟨cmd, w.spi (transfers h)⟩ hd.1.framed

/-- A countdown keeps the invariant. -/
lemma countdown_disciplined :
    Prog.Triple w.env (DisciplinedAt l) countdown (fun _ => DisciplinedAt l) Disciplined :=
  Prog.Triple.forRange 3 (I := fun _ _ => DisciplinedAt l)
    (fun _ _ _ _ hd => by simpa using hd.kMsleep 1000) ()

/-- A pass of the retry loop of `opc_start` keeps the invariant with the relay on, the power
cycle included. -/
lemma opcStartPass_disciplined (c : UInt8) :
    Prog.Triple w.env (DisciplinedAt .high) (opcStartPass c)
      (fun r => r.elim (fun _ => DisciplinedAt .high) fun _ => DisciplinedAt .high)
      Disciplined := by
  intro h hd
  have h1 := (hd.otherCommand w (by decide : (0x03 : UInt8) ≠ 0x30)).kMsleep 10
  have h2 := h1.otherCommand w (by decide : (0x00 : UInt8) ≠ 0x30)
  have h3 := h2.kMsleep 1000
  have hcycle : ∀ h', DisciplinedAt .high h' → DisciplinedAt .high
      (⟨.gpioPinSet ⟨.gpiob, 3⟩ .high, ()⟩ :: ⟨.kMsleep 8000, ()⟩ ::
        ⟨.gpioPinSet ⟨.gpiob, 5⟩ .low, ()⟩ :: ⟨.gpioPinSet ⟨.gpiob, 7⟩ .low, ()⟩ ::
        ⟨.gpioPinSet ⟨.gpiob, 4⟩ .low, ()⟩ :: ⟨.gpioPinSet ⟨.gpiob, 3⟩ .low, ()⟩ :: h') :=
    fun h' hd' => (((((hd'.setRelay .low).setPortB (by decide) .low).setPortB
      (by decide) .low).setPortB (by decide) .low).kMsleep 8000).setRelay .high
  simp only [opcStartPass, Prog.wp_bind, wp_opcSendCommand, wp_kMsleep, wp_gpioPinSet,
    Prog.wp_ite, Prog.wp_pure, Sum.elim_inl, Sum.elim_inr]
  split_ifs
  · exact h2
  · exact hcycle _ (h3.kMsleep 5000)
  · exact h3.kMsleep 5000
  · exact hcycle _ h3
  · exact h3

/-- `opc_start` ends with the relay on. -/
lemma opcStart_disciplined (fuel : ℕ) :
    Prog.Triple w.env (DisciplinedAt l) (opcStart fuel) (fun _ => DisciplinedAt .high)
      Disciplined := by
  refine countdown_disciplined.bind fun _ => ?_
  refine Prog.Triple.bind (Q := fun _ => DisciplinedAt .high)
    (fun h hd => (wp_gpioPinSet _ _).2 (hd.setRelay .high)) fun _ => ?_
  refine countdown_disciplined.bind fun _ => ?_
  refine Prog.Triple.bind (Q := fun _ => DisciplinedAt .high) ?_
    fun _ h hd => (wp_kMsleep _).2 (hd.kMsleep 5000)
  exact Prog.Triple.loop (I := fun _ => DisciplinedAt .high)
    (fun c => opcStartPass_disciplined c) (fun _ _ hd => hd.1) fuel 0

/-- A pass of the retry loop of `opc_stop` keeps the invariant with the relay on. -/
lemma opcStopPass_disciplined (c : UInt8) :
    Prog.Triple w.env (DisciplinedAt .high) (opcStopPass c)
      (fun r => r.elim (fun _ => DisciplinedAt .high) fun _ => DisciplinedAt .high)
      Disciplined := by
  intro h hd
  have h1 := (hd.otherCommand w (by decide : (0x03 : UInt8) ≠ 0x30)).kMsleep 10
  have h2 := h1.otherCommand w (by decide : (0x01 : UInt8) ≠ 0x30)
  have h3 := h2.kMsleep 600
  simp only [opcStopPass, Prog.wp_bind, wp_opcSendCommand, wp_kMsleep, Prog.wp_ite,
    Prog.wp_pure, Sum.elim_inl, Sum.elim_inr]
  split_ifs
  · exact h2
  · exact h3.kMsleep 5000
  · exact h3.kMsleep 5000
  · exact h3
  · exact h3

/-- `opc_stop` ends with the relay off. -/
lemma opcStop_disciplined (fuel : ℕ) :
    Prog.Triple w.env (DisciplinedAt l) (opcStop fuel) (fun _ => DisciplinedAt .low)
      Disciplined := by
  refine countdown_disciplined.bind fun _ => ?_
  refine Prog.Triple.bind (Q := fun _ => DisciplinedAt .high)
    (fun h hd => (wp_gpioPinSet _ _).2 (hd.setRelay .high)) fun _ => ?_
  refine countdown_disciplined.bind fun _ => ?_
  refine Prog.Triple.bind (Q := fun _ => DisciplinedAt .high)
    (Prog.Triple.loop (I := fun _ => DisciplinedAt .high)
      (fun c => opcStopPass_disciplined c) (fun _ _ hd => hd.1) fuel 0) fun _ h hd => ?_
  simp only [Prog.wp_bind, wp_kMsleep, wp_gpioPinSet]
  exact (((((hd.kMsleep 2000).setRelay .low).setPortB (by decide) .low).setPortB
    (by decide) .low).setPortB (by decide) .low).setPortB (by decide) .low

/-- The state of the payload loop after `i` bytes: the sensor is selected and powered, the open
piece has `i` bytes, and the closed pieces are those from before. -/
def PayloadAt (ps : List (List Exchange)) (i : ℕ) (h : History) : Prop :=
  Always Powered h ∧ (openPiece h).length = i ∧ closedPieces h = ps ∧
    level relay h = .high ∧ level chipSelect h = .low

/-- A pass of the payload loop adds one byte to the open piece. -/
lemma payloadPass_at (ps : List (List Exchange)) (i : ℕ) (l : HistLocals) :
    Prog.Triple w.env (PayloadAt ps i) (payloadPass i l) (fun _ => PayloadAt ps (i + 1))
      Disciplined := by
  intro h hh
  obtain ⟨hpow, hlen, hps, hon, hsel⟩ := hh
  simp only [payloadPass, Prog.wp_bind, World.wp_spiTransceive, Prog.wp_pure]
  refine ⟨⟨fun _ => ⟨hon, hsel⟩, hpow⟩, ?_, ?_, hon, hsel⟩
  · simp [openPiece, Rises, Call.writes, exchange?, hsel, hlen]
  · simp [closedPieces, Rises, Call.writes, hsel, hps]

/-- **The payload** adds one piece of 62 bytes. -/
lemma readPayload_framed {ps : List (List Exchange)} (hps : Framing ps true) (l : HistLocals) :
    Prog.Triple w.env
      (fun h => Always Powered h ∧ openPiece h = [] ∧ closedPieces h = ps ∧ level relay h = .high)
      (readPayload l) (fun _ => DisciplinedAt .high) Disciplined := by
  intro h hh
  obtain ⟨hpow, hopen, hclosed, hon⟩ := hh
  have hstart : PayloadAt ps 0
      (⟨.kUsleep 6, ()⟩ :: ⟨.gpioPinSet ⟨.gpioa, 4⟩ .low, ()⟩ :: h) := by
    simp [PayloadAt, Always, Powered, Call.isTransfer, Call.writes, openPiece, closedPieces,
      Rises, exchange?, hpow, hopen, hclosed, hon]
  have hloop : (Prog.forRange payloadPass 62 l).wp w.env (fun _ => PayloadAt ps 62) Disciplined _ :=
    Prog.Triple.forRange 62 (I := fun i _ => PayloadAt ps i)
      (fun i _ l => payloadPass_at ps i l) l _ hstart
  simp only [readPayload, Prog.wp_bind, wp_gpioPinSet, wp_kUsleep, Prog.wp_pure]
  refine hloop.mono ?_ fun _ hd => hd
  intro l' h' hh
  obtain ⟨hpow', hlen, hps', hon', hsel⟩ := hh
  have hpay := Framing.payload (openPiece h') hlen hps
  simp [DisciplinedAt, hon', Call.writes]
  refine ⟨?_, ?_, ?_⟩
  · simp [Always, Powered, Call.isTransfer, hpow']
  · simp [openPiece, Rises, Call.writes, hsel]
  · simpa [closedPieces, openPiece, Rises, Call.writes, exchange?, hsel, hps'] using hpay

/-- A pass of the sample loop keeps the invariant, where every transfer is answered: the payload
follows exactly the answer 243. -/
lemma samplePass_disciplined (hw : ∀ n, (w.spi n).isSome) (s : ℕ) (l : HistLocals) :
    Prog.Triple w.env (DisciplinedAt .high) (samplePass s l) (fun _ => DisciplinedAt .high)
      Disciplined := by
  intro h hd
  obtain ⟨b, hb⟩ := Option.isSome_iff_exists.1 (hw (transfers h))
  obtain ⟨hpow, hopen, hclosed, hon⟩ := hd.command w 0x30
  have hcmd := Framing.command ⟨0x30, w.spi (transfers h)⟩ hd.1.framed
  have hr : w.reply (transfers h) = b := by simp [World.reply, hb]
  simp only [samplePass, Prog.wp_bind, wp_opcSendCommand, wp_kMsleep, Prog.wp_ite, Prog.wp_pure,
    hr]
  split_ifs with h243
  · have hready : (⟨0x30, w.spi (transfers h)⟩ : Exchange) = histogramReady := by
      rw [hb, h243]; rfl
    rw [hready, decide_eq_true rfl, ← hready, ← hclosed] at hcmd
    refine (readPayload_framed hcmd l _ ⟨?_, ?_, ?_, ?_⟩).mono
      (fun _ _ hd' => hd'.kMsleep 5000) fun _ hd' => hd'
    · exact ⟨fun ht => by simp [Call.isTransfer] at ht, hpow⟩
    · exact (openPiece_quiet rfl (by simp [Call.writes])).trans hopen
    · exact closedPieces_quiet (by simp [Call.writes])
    · simpa [Call.writes] using hon
  · have hready : (⟨0x30, w.spi (transfers h)⟩ : Exchange) ≠ histogramReady := by
      simpa [histogramReady, hb] using h243
    rw [decide_eq_false hready, ← hclosed] at hcmd
    exact (DisciplinedAt.kMsleep ⟨⟨hpow, hopen, hcmd⟩, hon⟩ 12).kMsleep 5000

/-- `opc_read_histogram` keeps the invariant. -/
lemma opcReadHistogram_disciplined (hw : ∀ n, (w.spi n).isSome) (samples : UInt8) :
    Prog.Triple w.env (DisciplinedAt .high) (opcReadHistogram samples)
      (fun _ => DisciplinedAt .high) Disciplined := by
  refine Prog.Triple.bind (Q := fun _ => DisciplinedAt .high) ?_ fun l => ?_
  · exact .perform fun h hd => ⟨hd.1.quiet rfl rfl (by simp [Call.writes]),
      by simpa [Call.writes] using hd.2⟩
  · refine Prog.Triple.bind (Q := fun _ => DisciplinedAt .high) ?_ fun l' => .pure fun h hd => hd
    exact Prog.Triple.forRange _ (I := fun _ _ => DisciplinedAt .high)
      (fun s _ l' => samplePass_disciplined hw s l') _

/-- `opc_release` keeps the invariant. -/
lemma opcRelease_disciplined :
    Prog.Triple w.env (DisciplinedAt l) opcRelease (fun _ => DisciplinedAt l) Disciplined := by
  intro h hd
  have h0 : DisciplinedAt l (⟨.spiRelease, w.env h .spiRelease⟩ :: h) :=
    ⟨hd.1.quiet rfl rfl (by simp [Call.writes]), by simpa [Call.writes] using hd.2⟩
  simp only [opcRelease, Prog.wp_bind, Prog.wp_perform, wp_gpioPinConfigure, wp_gpioPinSet]
  exact (((((((h0.configurePortA 7 _).configurePortA 5 _).configurePortA 6 _).configurePortA
    4 _).setPortB (by decide) .low).setPortB (by decide) .low).setPortB (by decide) .low)

end Functions

/-! ## Measurement cycles -/

/-- `k` measurement cycles from the pins `main` leaves, the `i`-th one with `n i` samples. -/
def opcCycles (fuel : ℕ) (n : ℕ → UInt8) (k : ℕ) : App Unit := do
  mainPins
  Prog.forRange (fun i _ => do let _ ← opcCycle fuel (n i)) k ()

/-- The world `w` with an SPI device that answers every transfer with a byte. -/
def World.answering (w : World) (bytes : ℕ → UInt8) : World :=
  { w with spi := fun n => some (bytes n) }

/-- `main` leaves the relay off and the invariant established. -/
lemma mainPins_disciplined (w : World) :
    Prog.Triple w.env (· = []) mainPins (fun _ => DisciplinedAt .low) Disciplined := by
  rintro h rfl
  simp only [mainPins, Prog.wp_bind, wp_gpioPinConfigure, wp_gpioPinSet]
  refine ⟨⟨?_, ?_, ?_⟩, ?_⟩
  · simp [Always, Powered, Call.isTransfer]
  · simp [openPiece, Rises, Call.writes, exchange?]
  · simpa [closedPieces, Rises, Call.writes] using Framing.start
  · simp [Call.writes]

/-- A measurement cycle keeps the invariant. -/
lemma opcCycle_disciplined {w : World} (hw : ∀ n, (w.spi n).isSome) (fuel : ℕ) (n : UInt8) :
    Prog.Triple w.env (DisciplinedAt .low) (opcCycle fuel n) (fun _ => DisciplinedAt .low)
      Disciplined := by
  refine Prog.Triple.bind (Q := fun _ => DisciplinedAt .low) ?_ fun _ => ?_
  · refine Prog.Triple.bind (Q := fun _ => DisciplinedAt .low) ?_ fun _ => .pure fun _ hd => hd
    exact .perform fun h hd => ⟨hd.1.quiet rfl rfl (by simp [Call.writes]),
      by simpa [Call.writes] using hd.2⟩
  refine (opcStart_disciplined fuel).bind fun _ => ?_
  refine (opcReadHistogram_disciplined hw n).bind fun data => ?_
  refine (opcStop_disciplined fuel).bind fun _ => ?_
  exact opcRelease_disciplined.bind fun _ => .pure fun h hd => hd

/-- **SPI framing and power discipline.** In every run of measurement cycles from the pins
`main` leaves, however many cycles and samples there are and whatever the sensor answers: every
transfer takes place with the relay on and the sensor selected; the chip-select line cuts the
traffic into pieces without traffic, commands of one byte and payloads of 62 bytes; and a piece
is a payload exactly if the piece before it is the histogram command answered by 243.

**Proof sketch.** Every function keeps `Disciplined`, so the run ends with it. The grammar of
the traffic (`Framing`) gives the lengths and the order of the pieces; the open piece at the
end is empty. -/
theorem opcCycles_framing (w : World) (bytes : ℕ → UInt8) (fuel k : ℕ) (n : ℕ → UInt8) :
    let h := ((opcCycles fuel n k).run (w.answering bytes).env []).2
    (∀ later tx rx past, h = later ++ ⟨.spiTransceive tx, rx⟩ :: past →
      level relay past = .high ∧ level chipSelect past = .low) ∧
    (∀ p ∈ pieces h, p ≠ [] → p.length = 1 ∨ p.length = 62) ∧
    (pieces h).IsChain (fun p before => p.length = 62 ↔ before = [histogramReady]) ∧
    ∀ p ∈ (pieces h).getLast?, p.length ≠ 62 := by
  intro h
  have hrun : Prog.Triple (w.answering bytes).env (· = []) (opcCycles fuel n k)
      (fun _ => Disciplined) Disciplined := by
    refine (mainPins_disciplined _).bind fun _ => ?_
    refine Prog.Triple.mono (Prog.Triple.forRange k (I := fun _ _ => DisciplinedAt .low)
      (fun i _ _ => ?_) ()) (fun _ hd => hd) (fun _ _ hd => hd.1) fun _ hd => hd
    exact (opcCycle_disciplined (fun _ => rfl) fuel (n i)).bind fun _ => .pure fun _ hd => hd
  have hd : Disciplined h := (hrun [] rfl).final
  have hps : pieces h = [] :: closedPieces h := by rw [pieces, hd.settled]
  refine ⟨?_, ?_, ?_, ?_⟩
  · intro later tx rx past heq
    exact (always_iff Powered h).1 hd.powered later _ past heq rfl
  · intro p hp hne
    rw [hps, List.mem_cons] at hp
    exact hd.framed.length_eq p (hp.resolve_left hne)
  · rw [hps]
    refine List.isChain_cons.2 ⟨fun q hq => ?_, hd.framed.isChain⟩
    have hdue := hd.framed.due_iff
    rw [Option.mem_def] at hq
    simp [hq] at hdue
    simp [hdue]
  · intro p hp
    rw [hps] at hp
    cases hc : closedPieces h with
    | nil => simp_all
    | cons q qs =>
      rw [hc, List.getLast?_cons_cons, ← hc] at hp
      exact hd.framed.getLast_length p hp

end AirLab
