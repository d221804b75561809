import Mathlib.Tactic.IntervalCases
import AirLab.Gas.Driver
import AirLab.Sampling.Hold

set_option relaxedAutoImplicit false
set_option autoImplicit false

/-!
# The converters on the I2C bus

The two converters as devices. Each has a selected input, which only a successful write of its
configuration changes. A successful read gets the conversion of the selected input; a failed one
leaves the read buffer as it was. Which transfers succeed is given in advance, in any pattern.

The passes of the channel loops are numbered through: pass `8 * s + c` reads channel `c` in
sample `s`. It makes the transfers `3 * t`, `3 * t + 1` and `3 * t + 2`.

## Main definitions

* `AirLab.BusPattern`, `AirLab.Bus` — a bus with the two converters, its answers
  `AirLab.Bus.env`.
* `AirLab.Bus.selected` — the input a converter has selected.
* `AirLab.Bus.reading` — what pass `t` stores, in terms of the held input and the held buffer.
* `AirLab.Bus.PassState` — the state between two passes.

## Main results

* `AirLab.Bus.channelPass_spec` — what one pass does.
* `AirLab.Bus.gasReadings_run` — what the cells hold after any number of samples.
-/

namespace AirLab

open CLang Effects Sampling

/-! ## The devices -/

/-- Which transfers succeed, and the inputs selected at the start. -/
structure BusPattern where
  ok : ℕ → Bool
  initial : UInt8 → ℕ

/-- A bus with such a pattern: what converting an input gives at the time of a transfer, and the
former content of the read buffer. -/
structure Bus extends BusPattern where
  conversion : ℕ → UInt8 → ℕ → UInt8 × UInt8
  stack : UInt8 × UInt8
  rest : Env Call Resp

/-- A transfer over I2C. -/
def Call.isBusTransfer : Call → Bool
  | .i2cWrite _ _ => true
  | .i2cRead _ => true
  | _ => false

/-- The number of I2C transfers so far. -/
def busTransfers (h : History) : ℕ := occurrences (fun e => e.call.isBusTransfer) h

/-- The input that a configuration byte selects: the low bits of its multiplexer field. The high
bit, which measures against ground, is set in all configurations of the application. -/
def muxInput (mux : UInt8) : ℕ := (mux >>> 4 &&& 3).toNat

/-- The input selected by bytes written to a converter, if they are three bytes for its
configuration register. -/
def configured : List UInt8 → Option ℕ
  | [reg, mux, _] => if reg = 0x01 then some (muxInput mux) else none
  | _ => none

/-- The input an event selects on the converter `addr`, if any. -/
def selects (addr : UInt8) : BoardEvent → Option ℕ
  | ⟨.i2cWrite buf a, success⟩ => if a = addr ∧ success = true then configured buf else none
  | _ => none

/-! ## The passes of a call -/

/-- The address of the converter of channel `c`, or of pass `c`. -/
def converterOf (c : ℕ) : UInt8 := if c % 8 < 4 then 0x48 else 0x49

/-- The input of channel `c`, or of pass `c`, at its converter. -/
def inputOf (c : ℕ) : ℕ := c % 4

/-- The converter of a pass is the one of its channel. -/
lemma converterOf_pass (n j : ℕ) : converterOf (8 * n + j) = converterOf j := by
  unfold converterOf
  rw [Nat.mul_add_mod]

/-- The input of a pass is the one of its channel. -/
lemma inputOf_pass (n j : ℕ) : inputOf (8 * n + j) = inputOf j := by
  unfold inputOf
  omega

namespace BusPattern

variable (p : BusPattern)

/-- Pass `t` configures the converter `addr`. -/
def Configured (addr : UInt8) (t : ℕ) : Prop := converterOf t = addr ∧ p.ok (3 * t) = true

instance (addr : UInt8) : DecidablePred (p.Configured addr) := fun t =>
  inferInstanceAs (Decidable (converterOf t = addr ∧ p.ok (3 * t) = true))

/-- The read of pass `t` succeeds. -/
def Received (t : ℕ) : Prop := p.ok (3 * t + 2) = true

instance : DecidablePred p.Received := fun t =>
  inferInstanceAs (Decidable (p.ok (3 * t + 2) = true))

/-- The input selected on the converter `addr` before pass `t`: the one of the last pass that
configured it. -/
def selection (addr : UInt8) (t : ℕ) : ℕ :=
  ((held (p.Configured addr) t).map inputOf).getD (p.initial addr)

/-- The input that pass `t` reads. -/
def chosen (t : ℕ) : ℕ := p.selection (converterOf t) (t + 1)

end BusPattern

/-! ## The bus -/

namespace Bus

variable (b : Bus)

/-- The input the converter `addr` has selected. -/
def selected (addr : UInt8) : History → ℕ
  | [] => b.initial addr
  | e :: past => (selects addr e).getD (selected addr past)

/-- The answer to a read. -/
def answer (addr : UInt8) (h : History) : Option (UInt8 × UInt8) :=
  if b.ok (busTransfers h) then
    some (b.conversion (busTransfers h) addr (b.selected addr h))
  else none

/-- The answers of a bus. -/
def env : Env Call Resp := fun h c =>
  match c with
  | .i2cWrite _ _ => b.ok (busTransfers h)
  | .i2cRead addr => b.answer addr h
  | .uninit .readbuf => b.stack
  | c => b.rest h c

/-! ## What the passes store -/

/-- The bytes that pass `t` receives if its read succeeds. -/
def bytes (t : ℕ) : UInt8 × UInt8 := b.conversion (3 * t + 2) (converterOf t) (b.chosen t)

/-- What the read buffer holds after the successful read of pass `k`, or at the start. -/
def buffer : Option ℕ → UInt8 × UInt8
  | none => b.stack
  | some k => b.bytes k

/-- The reading that pass `t` stores. -/
def reading (t : ℕ) : UInt16 := clip (bigEndian (b.buffer (held b.Received (t + 1))))

/-- The cell of channel `j` before pass `t`: the reading of its last pass. -/
def cell (before : Fin 8 → UInt16) (t : ℕ) (j : Fin 8) : UInt16 :=
  match held (fun t => t % 8 = j.val) t with
  | none => before j
  | some k => b.reading k

/-- A successful read of the given input in the history gave the bytes. -/
def Delivered (h : History) (addr : UInt8) (input : ℕ) (bytes : UInt8 × UInt8) : Prop :=
  ∃ later past, h = later ++ ⟨.i2cRead addr, some bytes⟩ :: past ∧ b.selected addr past = input

/-- The state between two passes. -/
structure PassState (before : Fin 8 → UInt16) (t : ℕ) (l : GasLocals) (h : History) : Prop where
  transfers : busTransfers h = 3 * t
  selected : ∀ addr, b.selected addr h = b.selection addr t
  readbuf : l.readbuf = b.buffer (held b.Received t)
  result : l.result = b.cell before t
  delivered : ∀ k < t, b.Received k → b.Delivered h (converterOf k) (b.chosen k) (b.bytes k)

variable {b} {before : Fin 8 → UInt16} {S : History → Prop} {h : History}

/-! ## One pass -/

/-- A write succeeds or not. -/
lemma wp_i2cWrite (buf : List UInt8) (addr : UInt8) {Q : Bool → History → Prop} :
    (i2cWrite buf addr).wp b.env Q S h ↔
      Q (b.ok (busTransfers h)) (⟨.i2cWrite buf addr, b.ok (busTransfers h)⟩ :: h) :=
  Prog.wp_of_run rfl

/-- A read gets the answer of its converter. -/
lemma wp_i2cRead (addr : UInt8) {Q : Option (UInt8 × UInt8) → History → Prop} :
    (i2cRead addr).wp b.env Q S h ↔
      Q (b.answer addr h) (⟨.i2cRead addr, b.answer addr h⟩ :: h) :=
  Prog.wp_of_run rfl

/-- The transfers after an event. -/
@[simp] lemma busTransfers_cons (e : BoardEvent) (past : History) :
    busTransfers (e :: past) = busTransfers past + if e.call.isBusTransfer then 1 else 0 :=
  occurrences_cons _ e past

/-- The selected input after an event. -/
@[simp] lemma selected_cons (addr : UInt8) (e : BoardEvent) (past : History) :
    b.selected addr (e :: past) = (selects addr e).getD (b.selected addr past) := rfl

/-- What was delivered stays delivered. -/
lemma Delivered.append {addr : UInt8} {input : ℕ} {bytes : UInt8 × UInt8}
    (hd : b.Delivered h addr input bytes) (es : History) :
    b.Delivered (es ++ h) addr input bytes := by
  obtain ⟨later, past, rfl, hsel⟩ := hd
  exact ⟨es ++ later, past, (List.append_assoc _ _ _).symm, hsel⟩

/-- The configuration of an input selects it. -/
lemma muxInput_muxByte {i : ℕ} (hi : i < 4) : muxInput (muxByte i) = i := by
  interval_cases i <;> decide

/-- The history before the read of pass `i` of a channel loop from `h`. -/
def beforeRead (b : Bus) (addr : UInt8) (i : ℕ) (h : History) : History :=
  ⟨.kMsleep 10, ()⟩ :: ⟨.i2cWrite [0x00] addr, b.ok (busTransfers h + 1)⟩ ::
    ⟨.kMsleep 10, ()⟩ :: ⟨.i2cWrite [0x01, muxByte i, 0x83] addr, b.ok (busTransfers h)⟩ :: h

/-- The read of a pass comes after its two writes. -/
lemma busTransfers_beforeRead (addr : UInt8) (i : ℕ) (h : History) :
    busTransfers (b.beforeRead addr i h) = busTransfers h + 2 := by
  simp [beforeRead, Call.isBusTransfer]

/-- **The run of a pass of a channel loop**: the read buffer after its read is stored. -/
lemma wp_channelPass {addr : UInt8} {off i : ℕ} {l : GasLocals} {Q : GasLocals → History → Prop} :
    (channelPass addr off i l).wp b.env Q S h ↔
      Q ⟨(b.answer addr (b.beforeRead addr i h)).getD l.readbuf, setResult l.result (i + off)
          (clip (bigEndian ((b.answer addr (b.beforeRead addr i h)).getD l.readbuf)))⟩
        (⟨.kMsleep 20, ()⟩ :: ⟨.i2cRead addr, b.answer addr (b.beforeRead addr i h)⟩ ::
          b.beforeRead addr i h) := by
  have hcount : busTransfers (⟨.kMsleep 10, ()⟩ ::
      ⟨.i2cWrite [0x01, muxByte i, 0x83] addr, b.ok (busTransfers h)⟩ :: h) =
      busTransfers h + 1 := by simp [Call.isBusTransfer]
  unfold channelPass
  simp only [Prog.wp_bind, wp_i2cWrite, wp_i2cRead, wp_kMsleep, Prog.wp_pure, hcount]
  rfl

/-- What is selected when a pass reads. -/
lemma selected_beforeRead {t i : ℕ} (hi : i < 4) (hinput : inputOf t = i) {l : GasLocals}
    (hst : b.PassState before t l h) (addr : UInt8) :
    b.selected addr (b.beforeRead (converterOf t) i h) = b.selection addr (t + 1) := by
  have hmux := muxInput_muxByte hi
  have hsel := hst.selected addr
  unfold BusPattern.selection at hsel ⊢
  unfold beforeRead held
  rw [hst.transfers]
  by_cases hconf : b.Configured addr t
  · have hand : converterOf t = addr ∧ b.ok (3 * t) = true := hconf
    rw [if_pos hconf]
    simp [selects, configured, hand, hmux, hinput]
  · have hand : ¬ (converterOf t = addr ∧ b.ok (3 * t) = true) := hconf
    rw [if_neg hconf, ← hsel]
    simp [selects, configured, hand]

/-- What a pass receives. -/
lemma answer_beforeRead {t i : ℕ} (hi : i < 4) (hinput : inputOf t = i) {l : GasLocals}
    (hst : b.PassState before t l h) :
    b.answer (converterOf t) (b.beforeRead (converterOf t) i h) =
      if b.Received t then some (b.bytes t) else none := by
  unfold answer
  rw [busTransfers_beforeRead, hst.transfers, selected_beforeRead hi hinput hst]
  rfl

/-- Storing a reading takes the cells to the next pass. -/
lemma setResult_cell {t i : ℕ} (hi : t % 8 = i) :
    setResult (b.cell before t) i (b.reading t) = b.cell before (t + 1) := by
  funext j
  unfold setResult cell
  show _ = match if t % 8 = j.val then some t else held (fun t => t % 8 = j.val) t with
    | none => before j
    | some k => b.reading k
  by_cases hj : j.val = i
  · rw [if_pos hj, if_pos (hi.trans hj.symm)]
  · have hne : ¬ t % 8 = j.val := fun heq => hj (heq.symm.trans hi)
    rw [if_neg hj, if_neg hne]

/-- **One pass of a channel loop** takes the state to the next pass. -/
lemma channelPass_spec {t i off : ℕ} (hi : i < 4) (hinput : inputOf t = i) (hcell : t % 8 = i + off)
    (l : GasLocals) :
    Prog.Triple b.env (b.PassState before t l) (channelPass (converterOf t) off i l)
      (b.PassState before (t + 1)) S := by
  intro h hst
  rw [wp_channelPass, answer_beforeRead hi hinput hst]
  have hcount : busTransfers (b.beforeRead (converterOf t) i h) = 3 * t + 2 := by
    rw [busTransfers_beforeRead, hst.transfers]
  have hsel := selected_beforeRead hi hinput hst
  -- the buffer after the read is the held one of the next pass
  have hbuffer : (if b.Received t then some (b.bytes t) else none).getD l.readbuf =
      b.buffer (held b.Received (t + 1)) := by
    unfold held
    by_cases hrec : b.Received t
    · rw [if_pos hrec, if_pos hrec]
      rfl
    · rw [if_neg hrec, if_neg hrec, hst.readbuf]
      rfl
  refine ⟨?_, fun addr => ?_, hbuffer, ?_, fun k hk hrec => ?_⟩
  · simp [hcount, Call.isBusTransfer]
    omega
  · simp [selects, hsel]
  · rw [hbuffer, hst.result]
    exact setResult_cell hcell
  · rcases Nat.lt_succ_iff_lt_or_eq.1 hk with hlt | rfl
    · exact (hst.delivered k hlt hrec).append [_, _, _, _, _, _]
    · rw [if_pos hrec]
      exact ⟨[⟨.kMsleep 20, ()⟩], _, rfl, hsel _⟩

/-! ## All passes of a call -/

/-- A sleep leaves the state as it is. -/
lemma PassState.sleep {t : ℕ} {l : GasLocals} (hst : b.PassState before t l h) (ms : ℕ) :
    b.PassState before t l (⟨.kMsleep ms, ()⟩ :: h) where
  transfers := by simp [hst.transfers, Call.isBusTransfer]
  selected := fun addr => by simp [selects, hst.selected]
  readbuf := hst.readbuf
  result := hst.result
  delivered := fun k hk hrec => (hst.delivered k hk hrec).append [_]

/-- A channel loop from pass `t` reads the four inputs of its converter. -/
lemma channelLoop_spec {t off : ℕ} {addr : UInt8} (haddr : converterOf t = addr) (ht : t % 8 = off)
    (hoff : off = 0 ∨ off = 4) (l : GasLocals) :
    Prog.Triple b.env (b.PassState before t l) (Prog.forRange (channelPass addr off) 4 l)
      (b.PassState before (t + 4)) S := by
  refine Prog.Triple.forRange (I := fun i => b.PassState before (t + i)) 4 (fun i hi l' => ?_) l
  have hconv : addr = converterOf (t + i) := by
    rw [← haddr]
    unfold converterOf
    by_cases hlow : t % 8 < 4
    · rw [if_pos hlow, if_pos (by omega)]
    · rw [if_neg hlow, if_neg (by omega)]
  rw [hconv]
  exact channelPass_spec hi (by unfold inputOf; omega) (by omega) l'

/-- **A pass of the sample loop** reads the eight channels. -/
lemma gasSamplePass_spec (s : ℕ) (l : GasLocals) :
    Prog.Triple b.env (b.PassState before (8 * s) l) (gasSamplePass s l)
      (b.PassState before (8 * (s + 1))) S := by
  have hlow : converterOf (8 * s) = 0x48 := if_pos (by omega)
  have hhigh : converterOf (8 * s + 4) = 0x49 := if_neg (by omega)
  unfold gasSamplePass
  refine Prog.Triple.bind (channelLoop_spec hlow (by omega) (Or.inl rfl) l) fun l1 => ?_
  refine Prog.Triple.bind (Q := fun _ => b.PassState before (8 * s + 4) l1)
    (fun h hst => (wp_kMsleep 10).2 (hst.sleep 10)) fun _ => ?_
  refine Prog.Triple.bind (channelLoop_spec hhigh (by omega) (Or.inr rfl) l1) fun l2 h hst => ?_
  rw [Prog.wp_bind, wp_kMsleep, Prog.wp_pure]
  exact hst.sleep 1000

/-- `gas_sensors_read` up to the end of sample `n`, its readings not yet divided. -/
def gasReadings (before : Fin 8 → UInt16) (n : ℕ) : App GasLocals := do
  let readbuf ← uninit .readbuf
  gasSampleLoop n ⟨readbuf, before⟩

/-- The call reads all samples, then divides. -/
lemma gasSensorsRead_eq (before : Fin 8 → UInt16) (samples : ℕ) :
    gasSensorsRead before samples =
      gasReadings before samples >>= fun l => pure (divideResult l.result samples) :=
  (bind_assoc _ _ _).symm

/-- **The samples of a call** take the state through their passes. -/
lemma gasReadings_run (b : Bus) (before : Fin 8 → UInt16) (n : ℕ) :
    ∃ l h, (gasReadings before n).run b.env [] = (some l, h) ∧ b.PassState before (8 * n) l h := by
  refine Prog.wp.returns ?_
  unfold gasReadings gasSampleLoop
  rw [Prog.wp_bind]
  refine (Prog.wp_perform (Call.uninit .readbuf) _).2 ?_
  refine Prog.Triple.forRange (I := fun s => b.PassState before (8 * s)) n
    (fun s _ => gasSamplePass_spec s) _ _ ⟨rfl, fun addr => rfl, rfl, rfl, fun k hk => ?_⟩
  omega

/-- After a sample each cell holds the reading of that sample's pass. -/
lemma cell_eq_reading (b : Bus) (before : Fin 8 → UInt16) (n : ℕ) (j : Fin 8) :
    b.cell before (8 * (n + 1)) j = b.reading (8 * n + j) := by
  have hj := j.isLt
  have hheld : held (fun t => t % 8 = j.val) (8 * (n + 1)) = some (8 * n + j) :=
    (held_eq_some_iff _ _).2 ⟨by omega, by omega, fun t h1 h2 => by omega⟩
  unfold cell
  rw [hheld]

end Bus

end AirLab
