import AirLab.Board

set_option relaxedAutoImplicit false
set_option autoImplicit false

/-!
# The particle counter (`opc.c`)

The functions that power the sensor over the relay, exchange commands with it and read
histograms. Their endless retry loops take a fuel.

## Main definitions

* `AirLab.opcSendCommand` — one command byte and its reply.
* `AirLab.opcStart`, `AirLab.opcStop` — the handshakes.
* `AirLab.opcReadHistogram` — the sample loop and the averages.
-/

namespace AirLab

open CLang Effects

/-- How many samples to skip in the result, `SKIP`. -/
def skip : ℕ := 2

/-- `opc_release` -/
def opcRelease : App Unit := do
  let _ ← Prog.perform Call.spiRelease
  gpioPinConfigure ⟨.gpioa, 7⟩ .outputLow
  gpioPinConfigure ⟨.gpioa, 5⟩ .outputLow
  gpioPinConfigure ⟨.gpioa, 6⟩ .input
  gpioPinConfigure ⟨.gpioa, 4⟩ .outputLow
  gpioPinSet ⟨.gpiob, 4⟩ .low
  gpioPinSet ⟨.gpiob, 7⟩ .low
  gpioPinSet ⟨.gpiob, 5⟩ .low

/-- `opc_init`: the device is looked up, a missing one is only logged. -/
def opcInit : App Unit := do
  let _ ← deviceGetBinding "OPC"

/-- `opc_send_command`: the result of the transfer is dropped, so a failed one returns the
former content of `rx_buf[0]`. -/
def opcSendCommand (cmd : UInt8) : App UInt8 := do
  let rxBuf ← uninit .rxBuf
  gpioPinSet ⟨.gpioa, 4⟩ .low
  kUsleep 4
  let received ← spiTransceive cmd
  kUsleep 4
  gpioPinSet ⟨.gpioa, 4⟩ .high
  return received.getD rxBuf

/-- The events of one command sent after the history `h`, the most recent one first. -/
def commandEvents (w : World) (cmd : UInt8) (h : History) : History :=
  [⟨.gpioPinSet ⟨.gpioa, 4⟩ .high, ()⟩, ⟨.kUsleep 4, ()⟩,
    ⟨.spiTransceive cmd, w.spi (transfers h)⟩, ⟨.kUsleep 4, ()⟩,
    ⟨.gpioPinSet ⟨.gpioa, 4⟩ .low, ()⟩, ⟨.uninit .rxBuf, w.rxBuf (transfers h)⟩]

/-- A command takes one transfer, under chip select, and returns what its receive byte holds
after it. -/
lemma opcSendCommand_run (w : World) (cmd : UInt8) (h : History) :
    (opcSendCommand cmd).run w.env h =
      (some (w.reply (transfers h)), commandEvents w cmd h ++ h) := rfl

/-- The rule of a command. -/
lemma wp_opcSendCommand {w : World} {cmd : UInt8} {h : History} {Q : UInt8 → History → Prop}
    {S : History → Prop} :
    (opcSendCommand cmd).wp w.env Q S h ↔
      Q (w.reply (transfers h)) (commandEvents w cmd h ++ h) :=
  Prog.wp_of_run (opcSendCommand_run w cmd h)

/-- A command takes one transfer. -/
@[simp] lemma transfers_command (w : World) (cmd : UInt8) (h : History) :
    transfers (commandEvents w cmd h ++ h) = transfers h + 1 := by
  simp [commandEvents, Call.isTransfer]

/-- `for (int t=3; t>0; t--) { ...; k_msleep(1000); }` -/
def countdown : App Unit := Prog.forRange (fun _ _ => kMsleep 1000) 3 ()

/-- One pass of the retry loop of `opc_start` with the counter `c`. -/
def opcStartPass (c : UInt8) : App (UInt8 ⊕ Unit) := do
  let r1 ← opcSendCommand 0x03
  kMsleep 10
  let r2 ← opcSendCommand 0x00
  if r1 = 243 ∧ r2 = 3 then
    return .inr ()
  kMsleep 1000
  if c = 10 then
    kMsleep 5000
  if c > 20 then
    -- power cycle
    gpioPinSet ⟨.gpiob, 3⟩ .low
    gpioPinSet ⟨.gpiob, 4⟩ .low
    gpioPinSet ⟨.gpiob, 7⟩ .low
    gpioPinSet ⟨.gpiob, 5⟩ .low
    kMsleep 8000
    gpioPinSet ⟨.gpiob, 3⟩ .high
    return .inl (0 + 1)
  return .inl (c + 1)

/-- The end of a pass of `opc_start` whose handshake failed, after its pauses: the counter goes on,
or starts anew with a power cycle. -/
def startPassEnd (c : UInt8) : App (UInt8 ⊕ Unit) :=
  if c > 20 then do
    gpioPinSet ⟨.gpiob, 3⟩ .low
    gpioPinSet ⟨.gpiob, 4⟩ .low
    gpioPinSet ⟨.gpiob, 7⟩ .low
    gpioPinSet ⟨.gpiob, 5⟩ .low
    kMsleep 8000
    gpioPinSet ⟨.gpiob, 3⟩ .high
    return .inl (0 + 1)
  else return .inl (c + 1)

/-- `opc_start` -/
def opcStart (fuel : ℕ) : App Unit := do
  countdown
  gpioPinSet ⟨.gpiob, 3⟩ .high
  countdown
  Prog.loop opcStartPass fuel 0
  kMsleep 5000

/-- The two ways out of the retry loop of `opc_stop`; the code after the loop is the same. -/
inductive StopExit
  | ready
  | gaveUp
  deriving DecidableEq

/-- One pass of the retry loop of `opc_stop` with the counter `c`. -/
def opcStopPass (c : UInt8) : App (UInt8 ⊕ StopExit) := do
  let r1 ← opcSendCommand 0x03
  kMsleep 10
  let r2 ← opcSendCommand 0x01
  if r1 = 243 ∧ r2 = 3 then
    return .inr .ready
  kMsleep 600
  if c = 10 then
    kMsleep 5000
  if c > 20 then
    return .inr .gaveUp
  return .inl (c + 1)

/-- The end of a pass of `opc_stop` whose handshake failed, after its pauses: it goes on, or gives
up. -/
def stopPassEnd (c : UInt8) : App (UInt8 ⊕ StopExit) :=
  if c > 20 then return .inr .gaveUp else return .inl (c + 1)

/-- `opc_stop` -/
def opcStop (fuel : ℕ) : App Unit := do
  countdown
  gpioPinSet ⟨.gpiob, 3⟩ .high
  countdown
  let _ ← Prog.loop opcStopPass fuel 0
  kMsleep 2000
  gpioPinSet ⟨.gpiob, 3⟩ .low
  gpioPinSet ⟨.gpiob, 4⟩ .low
  gpioPinSet ⟨.gpiob, 7⟩ .low
  gpioPinSet ⟨.gpiob, 6⟩ .low
  gpioPinSet ⟨.gpiob, 5⟩ .low

/-- One pass of the payload loop: the result of the transfer is dropped, so a failed one stores
the byte received before. -/
def payloadPass (i : ℕ) (l : HistLocals) : App HistLocals := do
  let received ← spiTransceive 0xC0
  let b := received.getD l.rxBuf
  return { l with rxBuf := b, vals := l.vals.set i b }

/-- The payload of a histogram, read under chip select. -/
def readPayload (l : HistLocals) : App HistLocals := do
  gpioPinSet ⟨.gpioa, 4⟩ .low
  kUsleep 6
  let l ← Prog.forRange payloadPass 62 l
  kUsleep 6
  gpioPinSet ⟨.gpioa, 4⟩ .high
  return l

/-- `result.pm1 = result.pm1 + data.pm1; …` for the five accumulated fields. -/
def accumulate (result data : Histogram) : Histogram :=
  { result with
    pm1 := result.pm1 + data.pm1
    pm10 := result.pm10 + data.pm10
    pm25 := result.pm25 + data.pm25
    period := result.period + data.period
    sfr := result.sfr + data.sfr }

/-- One pass `s` of the sample loop. The block's arrays keep their place on the stack, so a pass
without a payload decodes what an earlier pass left in `vals`. -/
def samplePass (s : ℕ) (l : HistLocals) : App HistLocals := do
  let r ← opcSendCommand 0x30
  kMsleep 12
  let l ← if r = 243 then readPayload l else pure l
  let data := decode l.vals
  let result := if s > skip - 1 then accumulate l.result data else l.result
  kMsleep 5000
  return { l with result := result }

/-- The fields of `result` set at the start of `opc_read_histogram`. -/
def clearResult (result : Histogram) : Histogram :=
  { result with pm1 := 0, pm25 := 0, pm10 := 0, sfr := 0, period := 0, tempPressure := 0 }

/-- The averages: the five accumulated fields over `float div = samples-SKIP`. -/
def average (samples : UInt8) (result : Histogram) : Histogram :=
  let div : Flt := .fin (samples.toNat - skip : ℤ)
  { result with
    pm1 := result.pm1 / div
    pm25 := result.pm25 / div
    pm10 := result.pm10 / div
    period := result.period / div
    sfr := result.sfr / div }

/-- The sample loop of `opc_read_histogram`, `n` passes. -/
def sampleLoop (n : ℕ) (l : HistLocals) : App HistLocals := Prog.forRange samplePass n l

/-- `opc_read_histogram` -/
def opcReadHistogram (samples : UInt8) : App Histogram := do
  let l ← uninit .histogram
  let l ← sampleLoop samples.toNat { l with result := clearResult l.result }
  return average samples l.result

end AirLab
