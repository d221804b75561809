import AirLab.Effects.Clock
import AirLab.Effects.Script
import AirLab.Interleaving
import AirLab.Opc.PowerPhases
import AirLab.Storage.Journal

set_option relaxedAutoImplicit false
set_option autoImplicit false

/-!
# The rhythm of the threads

The sender hands over the two messages in turn and waits for the result of each before it goes on;
between two messages it sleeps. The measuring threads sleep between two records. So the radio and
the card see a bounded load, whatever the sensors, the radio and the card answer.

## Main definitions

* `AirLab.MailOp`, `AirLab.sendScript` — what the sender does with the message arrays.
* `AirLab.recordInterval` — the time between two records of a thread.

## Main results

* `AirLab.uplink_script` — the order of reading, sending and waiting.
* `AirLab.submissions_spaced` — ten seconds between two payloads.
* `AirLab.records_spaced` — the time between two records.
* `AirLab.log_growth` — how fast the log files grow at most.
-/

namespace AirLab

open CLang Effects

/-- The time of a history, when every call takes the time it sleeps. -/
lemma totalTime_slept (h : History) : totalTime Call.slept h = sleepTotal h := by
  induction h with
  | nil => rfl
  | cons e past ih => simp [ih]

/-! ## The order of the messages -/

/-- What the sender does with the messages: reading a message array, handing over a payload on a
port, and waiting for the result. -/
inductive MailOp
  | load (src : Mailbox)
  | submit (port : UInt8)
  | wait
  deriving DecidableEq

/-- What a call does with the messages. -/
def Call.mailOp? : Call → Option MailOp
  | .load src => some (.load src)
  | .lorawanSubmit port _ => some (.submit port)
  | .lorawanWait => some .wait
  | _ => none

/-- Sending one message. -/
def messageScript (port : UInt8) (m : Mailbox) : List MailOp := [.load m, .submit port, .wait]

/-- A pass of the send loop. -/
def sendScript : List MailOp := messageScript 1 .gasMsg ++ messageScript 2 .opcMsg

/-- What follows a transmission is no message. -/
lemma Call.ofBlink.noMail (c : Call) (hc : c.ofBlink) : c.mailOp? = none := by
  cases c <;> first | exact hc.elim | rfl

/-- A message is read, handed over and waited for. -/
lemma sendMessage_plays (port : UInt8) (m : Mailbox) (ok : ℤ → Bool) :
    (sendMessage port m ok).Plays Call.mailOp? (messageScript port m) := by
  have hsend : ∀ msg len, (lorawanSend port msg len).Plays Call.mailOp? [.submit port, .wait] :=
    fun msg len => Prog.Plays.bind (t := [_]) (u := [_]) (Prog.plays_perform _) fun _ =>
      Prog.plays_perform _
  unfold sendMessage
  refine Prog.Plays.bind (t := [_]) (Prog.plays_perform _) fun msg => ?_
  refine Prog.Plays.bind (u := []) (hsend msg _) fun ret => ?_
  exact Prog.plays_of_calls ((afterSend_calls ret ok).mono Call.ofBlink.noMail)

/-- Joining the network is no message. -/
lemma joinPass_noMail (ret : ℤ) : (joinPass ret).Within fun c => c.mailOp? = none := by
  have hpin : ∀ p v, (gpioPinSet p v).Within fun c => c.mailOp? = none := fun p v =>
    perform_within rfl
  have hsleep : (kMsleep 1000).Within fun c => c.mailOp? = none := perform_within rfl
  unfold joinPass
  refine .bind (perform_within rfl) fun ret => .ite ?_ ?_
  · exact .bind (hpin _ _) fun _ => .bind hsleep fun _ => .bind (hpin _ _) fun _ =>
      .bind hsleep fun _ => Prog.calls_pure _
  · exact .bind (perform_within rfl) fun ret => .bind (hpin _ _) fun _ =>
      .ite (Prog.calls_pure _) (Prog.calls_pure _)

/-- The sender follows its script: it plays it once it has joined the network. -/
lemma sendData_follows (joins passes : ℕ) :
    (sendData joins passes).Follows Call.mailOp? (List.replicate passes sendScript).flatten := by
  have hloop : (Prog.forever sendPass passes ()).Plays Call.mailOp?
      (List.replicate passes sendScript).flatten :=
    Prog.Plays.forever (fun _ => (sendMessage_plays 1 .gasMsg _).bind fun _ =>
      sendMessage_plays 2 .opcMsg _) passes ()
  have hfound : ∀ label, (deviceGetBinding label).Plays Call.mailOp? [] := fun label =>
    Prog.plays_of_calls (perform_within rfl)
  have hstart : (Prog.perform Call.lorawanStart : App ℤ).Plays Call.mailOp? [] :=
    Prog.plays_of_calls (perform_within rfl)
  have hjoin : (Prog.loop joinPass joins (-1)).Plays Call.mailOp? [] :=
    Prog.plays_of_calls (Prog.Within.loop joinPass_noMail joins (-1))
  unfold sendData
  refine (hfound _).bind_follows fun found => .ite ?_ (Prog.follows_pure _ _)
  refine hstart.bind_follows fun ret => .ite ?_ (Prog.follows_pure _ _)
  exact hjoin.bind_follows fun _ => hloop.follows

/-- The gas thread does not send. -/
lemma Call.ofGasThread.noMail (c : Call) (hc : c.ofGasThread) : c.mailOp? = none := by
  cases c <;> first | rfl | (rcases hc with h | h | h | h <;> exact h.elim)

/-- Neither does the particle thread. -/
lemma Call.ofParticleThread.noMail (c : Call) (hc : c.ofParticleThread) : c.mailOp? = none := by
  cases c <;> first | rfl | (rcases hc with h | h | h | h <;> exact h.elim)

/-- **The order of the messages.** In every run of the application, whatever the radio answers,
the messages of the two measuring threads are sent in turn, that of the gas thread first; a
message array is read only after the result of the payload before has come. No other thread reads
the arrays or sends. -/
theorem uplink_script (env : AppEnv) (fuel joins : ℕ) (passes : ThreadId → ℕ)
    (schedule : List ThreadId) :
    trace Call.mailOp? ((appHistory env fuel joins passes schedule).map Prod.snd) <+:
        (List.replicate (passes .sender) sendScript).flatten ∧
      ∀ i ≠ .sender, trace Call.mailOp? (own i (appHistory env fuel joins passes schedule)) =
        [] := by
  have hsender : (application fuel joins passes .sender).Follows Call.mailOp?
      (List.replicate (passes .sender) sendScript).flatten := sendData_follows joins _
  refine System.trace_joint hsender (fun j hj => ?_) schedule
  cases j with
  | gas =>
    refine .after ((readGas_calls _).mono Call.ofGasThread.noMail) fun _ => ?_
    exact Prog.plays_pure ()
  | particle =>
    refine .after ((countParticles_calls fuel _).mono Call.ofParticleThread.noMail id) fun _ => ?_
    exact Prog.plays_pure ()
  | sender => exact absurd rfl hj

/-! ## The time between two payloads -/

/-- Handing over a payload. -/
def Call.isSubmit : Call → Bool
  | .lorawanSubmit _ _ => true
  | _ => false

/-- A call that hands over nothing. -/
lemma perform_noSubmit {c : Call} (hc : c.isSubmit = false) :
    (Prog.perform c : App (Resp c)).Lasts Call.slept (fun c => c.isSubmit = false) 0 :=
  Prog.lasts_of_calls (perform_within hc)

/-- Sleeping hands over nothing. -/
lemma kMsleep_noSubmit (ms : ℕ) :
    (kMsleep ms).Lasts Call.slept (fun c => c.isSubmit = false) ms := Prog.lasts_perform rfl

/-- What follows a transmission takes ten seconds. -/
lemma afterSend_lasts (ret : ℤ) (ok : ℤ → Bool) :
    (afterSend ret ok).Lasts Call.slept (fun c => c.isSubmit = false) 10000 := by
  have hpin : ∀ v, (gpioPinSet ledGreen v).Within fun c => c.isSubmit = false := fun v =>
    perform_within rfl
  have hsleep : ∀ ms, (kMsleep ms).Within fun c => c.isSubmit = false := fun ms =>
    perform_within rfl
  have hblink : blink.Within fun c => c.isSubmit = false :=
    .forRange (fun _ _ => .bind (hpin _) fun _ => .bind (hsleep _) fun _ => .bind (hpin _)
      fun _ => hsleep _) 20 ()
  have hend : ((if ok ret then do
      blink
      kMsleep 10000
    else kMsleep 10000) : App Unit).Lasts Call.slept (fun c => c.isSubmit = false) 10000 :=
    .ite (((Prog.lasts_of_calls hblink).bind fun _ => kMsleep_noSubmit 10000).mono (by omega))
      (kMsleep_noSubmit 10000)
  have hlate := Prog.Lasts.ite (c := ret < 0)
    (((kMsleep_noSubmit 2000).bind fun _ => hend).mono (by omega)) hend
  unfold afterSend
  exact .ite (((kMsleep_noSubmit 2000).bind fun _ => hlate).mono (by omega)) hlate

section Sender

variable {env : Env Call Resp}

/-- A message is handed over ten seconds after the one before, and ten seconds pass after it. -/
lemma sendMessage_spaced (port : UInt8) (m : Mailbox) (ok : ℤ → Bool) :
    Prog.Triple env (Prog.SpacedSince Call.slept Call.isSubmit 10000 10000)
      (sendMessage port m ok) (fun _ => Prog.SpacedSince Call.slept Call.isSubmit 10000 10000)
      (Spaced Call.slept (fun e _ => e.call.isSubmit) 10000) := by
  unfold sendMessage lorawanSend
  refine (perform_noSubmit rfl).spaced_bind fun msg => ?_
  refine Prog.Triple.bind (Q := fun _ => Prog.SpacedSince Call.slept Call.isSubmit 10000 0)
    (Prog.Triple.bind (Prog.spaced_perform (by omega)) fun _ => ?_) fun ret => ?_
  · exact (perform_noSubmit rfl).spaced
  · exact (afterSend_lasts ret ok).spaced.mono (fun _ hh => hh) (fun _ _ hh => hh.mono (by omega))
      fun _ hh => hh

/-- The sender hands over its messages ten seconds apart. -/
lemma sendData_spaced (joins passes : ℕ) :
    Prog.Triple env (Prog.SpacedSince Call.slept Call.isSubmit 10000 10000)
      (sendData joins passes) (fun _ => Spaced Call.slept (fun e _ => e.call.isSubmit) 10000)
      (Spaced Call.slept (fun e _ => e.call.isSubmit) 10000) := by
  have hquiet : ∀ c : Call, c.ofLink → c.isSubmit = false := fun c hc => by
    cases c <;> first | rfl | exact hc.elim
  have hjoin : (Prog.loop joinPass joins (-1)).Within fun c => c.isSubmit = false :=
    Prog.Within.loop (fun ret => (joinPass_calls ret).mono hquiet) joins (-1)
  have hloop : Prog.Triple env (Prog.SpacedSince Call.slept Call.isSubmit 10000 10000)
      (Prog.forever sendPass passes ())
      (fun _ => Spaced Call.slept (fun e _ => e.call.isSubmit) 10000)
      (Spaced Call.slept (fun e _ => e.call.isSubmit) 10000) :=
    Prog.spaced_forever (fun _ => (sendMessage_spaced 1 .gasMsg _).bind fun _ =>
      sendMessage_spaced 2 .opcMsg _) passes ()
  unfold sendData
  refine (perform_noSubmit rfl).spaced_bind fun found => ?_
  cases found with
  | false => exact Prog.Triple.pure fun _ hh => hh.1
  | true =>
    refine (perform_noSubmit rfl).spaced_bind fun ret => ?_
    by_cases hret : 0 ≤ ret
    · rw [if_pos hret]
      exact (Prog.lasts_of_calls hjoin).spaced_bind fun _ => hloop
    · rw [if_neg hret]
      exact Prog.Triple.pure fun _ hh => hh.1

end Sender

/-- **Ten seconds between two payloads.** In every run of the application the sender sleeps at
least ten seconds between two payloads, whatever became of the first; so at most one payload for
every ten seconds of sleep is handed over, and no other thread hands over any. -/
theorem submissions_spaced (env : AppEnv) (fuel joins : ℕ) (passes : ThreadId → ℕ)
    (schedule : List ThreadId) :
    Spaced Call.slept (fun e _ => e.call.isSubmit) 10000
        (own .sender (appHistory env fuel joins passes schedule)) ∧
      occurrences (fun e => e.2.call.isSubmit) (appHistory env fuel joins passes schedule) *
        10000 ≤ sleepTotal (own .sender (appHistory env fuel joins passes schedule)) + 10000 := by
  have hspaced : Spaced Call.slept (fun e _ => e.call.isSubmit) 10000
      (own .sender (appHistory env fuel joins passes schedule)) := by
    refine System.own_always (fun env => Prog.wp.final ?_) schedule
    exact sendData_spaced joins (passes .sender) [] (Prog.spacedSince_nil _ _)
  refine ⟨hspaced, ?_⟩
  have hown : Always (fun e past => MailDiscipline e.1 e.2 (own e.1 past))
      (appHistory env fuel joins passes schedule) :=
    System.always_own (application_disciplined fuel joins passes) schedule
  have honly : ∀ e ∈ appHistory env fuel joins passes schedule,
      e.2.call.isSubmit = true → e.1 = .sender := by
    intro e he hsubmit
    obtain ⟨later, past, heq⟩ := List.append_of_mem he
    have hnow := (always_iff _ _).1 hown later e past heq
    obtain ⟨i, c, r⟩ := e
    cases c <;> first | exact hnow.of_lorawanSubmit.1 | simp [Call.isSubmit] at hsubmit
  have hcount : occurrences (fun e => e.2.call.isSubmit)
      (appHistory env fuel joins passes schedule) = occurrences (fun e => e.call.isSubmit)
        (own .sender (appHistory env fuel joins passes schedule)) :=
    occurrences_own (t := fun e : BoardEvent => e.call.isSubmit) honly
  rw [hcount, ← totalTime_slept]
  exact hspaced.rate

/-! ## The time between two records -/

/-- Formatting a record. -/
def Call.isFormat : Call → Bool
  | .snprintfcb _ => true
  | _ => false

/-- How long a thread sleeps at least between two records, in milliseconds: both measuring threads
for their samples, those of the ambient sensor and their pause, the particle thread also while the
counter starts and stops, each time after one handshake at least. The sender formats no records. -/
def recordInterval : ThreadId → ℕ
  | .gas => 5 * 1330 + 40 + 30000
  | .particle => (6000 + 10 + 5000) + 7 * 5012 + (6000 + 10 + 2000) + 40 + 120000
  | .sender => 0

/-- Programs that let the time `n` pass and format no record. -/
abbrev Unrecorded {α : Type} (p : App α) (n : ℕ) : Prop :=
  p.Lasts Call.slept (fun c => c.isFormat = false) n

/-- A single call that formats no record. -/
lemma perform_unrecorded {c : Call} (hc : c.isFormat = false) :
    Unrecorded (Prog.perform c) c.slept := Prog.lasts_perform hc

/-- Reading the counter formats no record. -/
lemma Call.ofCounter.unrecorded (c : Call) (hc : c.ofCounter) : c.isFormat = false := by
  cases c <;> first | rfl | exact hc.elim

/-- Neither does a handshake. -/
lemma Call.ofHandshake.unrecorded (c : Call) (hc : c.ofHandshake) : c.isFormat = false := by
  cases c <;> first | rfl | exact hc.1.elim

/-- Neither does the ambient sensor. -/
lemma Call.ofAmbient.unrecorded (c : Call) (hc : c.ofAmbient) : c.isFormat = false := by
  cases c <;> first | rfl | exact hc.elim

/-- Neither does the file system. -/
lemma Call.ofStorage.unrecorded (c : Call) (hc : c.ofStorage) : c.isFormat = false := by
  cases c <;> first | rfl | exact hc.elim

/-- Sleeping formats no record. -/
lemma kMsleep_unrecorded (ms : ℕ) : Unrecorded (kMsleep ms) ms := perform_unrecorded rfl

/-- A pass of a channel loop of the gas sensors. -/
lemma channelPass_unrecorded (addr : UInt8) (off i : ℕ) (l : GasLocals) :
    Unrecorded (channelPass addr off i l) 40 := by
  unfold channelPass
  refine (perform_unrecorded rfl).bind (n := 40) fun _ => ?_
  refine (perform_unrecorded rfl).bind (m := 10) (n := 30) fun _ => ?_
  refine (perform_unrecorded rfl).bind (m := 0) (n := 30) fun _ => ?_
  refine (perform_unrecorded rfl).bind (m := 10) (n := 20) fun _ => ?_
  refine (perform_unrecorded rfl).bind (m := 0) (n := 20) fun received => ?_
  exact (perform_unrecorded rfl).bind (m := 20) (n := 0) fun _ => Prog.lasts_pure _

/-- Reading the gas sensors takes 1.33 s for each sample. -/
lemma gasSensorsRead_unrecorded (result : Fin 8 → UInt16) (samples : ℕ) :
    Unrecorded (gasSensorsRead result samples) (samples * 1330) := by
  have hchannels : ∀ addr off l, Unrecorded (Prog.forRange (channelPass addr off) 4 l) 160 :=
    fun addr off l => Prog.Lasts.forRange (channelPass_unrecorded addr off) 4 l
  have hpass : ∀ s l, Unrecorded (gasSamplePass s l) 1330 := by
    intro s l
    unfold gasSamplePass
    refine (hchannels _ _ l).bind (n := 1170) fun l => ?_
    refine (perform_unrecorded rfl).bind (m := 10) (n := 1160) fun _ => ?_
    refine (hchannels _ _ l).bind (n := 1000) fun l => ?_
    exact (perform_unrecorded rfl).bind (m := 1000) (n := 0) fun _ => Prog.lasts_pure _
  have hzero : samples * 1330 = 0 + (samples * 1330 + 0) := by omega
  rw [hzero]
  unfold gasSensorsRead
  refine (perform_unrecorded rfl).bind (m := 0) fun readbuf => ?_
  exact Prog.Lasts.bind (Prog.Lasts.forRange hpass samples _) fun l => Prog.lasts_pure _

/-- A command to the counter takes no time. -/
lemma opcSendCommand_unrecorded (cmd : UInt8) : Unrecorded (opcSendCommand cmd) 0 :=
  Prog.lasts_of_calls ((opcSendCommand_calls cmd).mono Call.ofCounter.unrecorded)

/-- Reading a histogram takes 5.012 s for each sample. -/
lemma opcReadHistogram_unrecorded (samples : UInt8) :
    Unrecorded (opcReadHistogram samples) (samples.toNat * 5012) := by
  have hpayload : ∀ l, Unrecorded (readPayload l) 0 := fun l =>
    Prog.lasts_of_calls ((readPayload_calls l).mono Call.ofCounter.unrecorded)
  have hpass : ∀ s l, Unrecorded (samplePass s l) 5012 := by
    intro s l
    unfold samplePass
    refine (opcSendCommand_unrecorded 0x30).bind (m := 0) (n := 5012) fun r => ?_
    refine (kMsleep_unrecorded 12).bind (n := 5000) fun _ => .ite ?_ ?_
    · refine (hpayload l).bind (m := 0) (n := 5000) fun l => ?_
      exact (kMsleep_unrecorded 5000).bind (n := 0) fun _ => Prog.lasts_pure _
    · refine (Prog.lasts_pure l).bind (m := 0) (n := 5000) fun l => ?_
      exact (kMsleep_unrecorded 5000).bind (n := 0) fun _ => Prog.lasts_pure _
  have hzero : samples.toNat * 5012 = 0 + (samples.toNat * 5012 + 0) := by omega
  rw [hzero]
  unfold opcReadHistogram sampleLoop
  refine (perform_unrecorded rfl).bind (m := 0) fun l => ?_
  exact Prog.Lasts.bind (Prog.Lasts.forRange hpass samples.toNat _) fun l => Prog.lasts_pure _

/-- The countdown takes three seconds. -/
lemma countdown_unrecorded : Unrecorded countdown 3000 :=
  Prog.Lasts.forRange (fun _ _ => kMsleep_unrecorded 1000) 3 ()

/-- Setting a pin takes no time. -/
lemma gpioPinSet_unrecorded (p : Pin) (v : Level) : Unrecorded (gpioPinSet p v) 0 :=
  perform_unrecorded rfl

/-- A pass of the retry loop of `opc_start` pauses between its commands. -/
lemma opcStartPass_unrecorded (c : UInt8) : Unrecorded (opcStartPass c) 10 := by
  have hend : Unrecorded (startPassEnd c) 0 := by
    unfold startPassEnd
    refine .ite ?_ (Prog.lasts_pure _)
    refine (gpioPinSet_unrecorded _ _).bind (n := 0) fun _ => ?_
    refine (gpioPinSet_unrecorded _ _).bind (n := 0) fun _ => ?_
    refine (gpioPinSet_unrecorded _ _).bind (n := 0) fun _ => ?_
    refine (gpioPinSet_unrecorded _ _).bind (n := 0) fun _ => ?_
    refine ((kMsleep_unrecorded 8000).bind (n := 0) fun _ => ?_).mono (Nat.zero_le _)
    exact (gpioPinSet_unrecorded _ _).bind fun _ => Prog.lasts_pure _
  unfold opcStartPass
  refine (opcSendCommand_unrecorded 0x03).bind (n := 10) fun r1 => ?_
  refine (kMsleep_unrecorded 10).bind (n := 0) fun _ => ?_
  refine (opcSendCommand_unrecorded 0x00).bind (n := 0) fun r2 => .ite (Prog.lasts_pure _) ?_
  refine ((kMsleep_unrecorded 1000).bind (n := 0) fun _ => .ite ?_ hend).mono (Nat.zero_le _)
  exact ((kMsleep_unrecorded 5000).bind fun _ => hend).mono (Nat.zero_le _)

/-- `opc_start` takes its countdowns, one handshake at least, and the pause at its end. -/
lemma opcStart_unrecorded (fuel : ℕ) : Unrecorded (opcStart fuel) (6000 + 10 + 5000) := by
  unfold opcStart
  refine countdown_unrecorded.bind (n := 8010) fun _ => ?_
  refine (gpioPinSet_unrecorded _ _).bind (n := 8010) fun _ => ?_
  refine countdown_unrecorded.bind (n := 5010) fun _ => ?_
  exact (Prog.Lasts.loop opcStartPass_unrecorded fuel 0).bind (n := 5000) fun _ =>
    kMsleep_unrecorded 5000

/-- A pass of the retry loop of `opc_stop` pauses between its commands. -/
lemma opcStopPass_unrecorded (c : UInt8) : Unrecorded (opcStopPass c) 10 := by
  have hend : Unrecorded (stopPassEnd c) 0 := .ite (Prog.lasts_pure _) (Prog.lasts_pure _)
  unfold opcStopPass
  refine (opcSendCommand_unrecorded 0x03).bind (n := 10) fun r1 => ?_
  refine (kMsleep_unrecorded 10).bind (n := 0) fun _ => ?_
  refine (opcSendCommand_unrecorded 0x01).bind (n := 0) fun r2 => .ite (Prog.lasts_pure _) ?_
  refine ((kMsleep_unrecorded 600).bind (n := 0) fun _ => .ite ?_ hend).mono (Nat.zero_le _)
  exact ((kMsleep_unrecorded 5000).bind fun _ => hend).mono (Nat.zero_le _)

/-- `opc_stop` takes its countdowns, one handshake at least, and the pause before it cuts the
power. -/
lemma opcStop_unrecorded (fuel : ℕ) : Unrecorded (opcStop fuel) (6000 + 10 + 2000) := by
  unfold opcStop
  refine countdown_unrecorded.bind (n := 5010) fun _ => ?_
  refine (gpioPinSet_unrecorded _ _).bind (n := 5010) fun _ => ?_
  refine countdown_unrecorded.bind (n := 2010) fun _ => ?_
  refine (Prog.Lasts.loop opcStopPass_unrecorded fuel 0).bind (n := 2000) fun _ => ?_
  refine (kMsleep_unrecorded 2000).bind (n := 0) fun _ => ?_
  exact .bind (gpioPinSet_unrecorded _ _) fun _ => .bind (gpioPinSet_unrecorded _ _) fun _ =>
    .bind (gpioPinSet_unrecorded _ _) fun _ => .bind (gpioPinSet_unrecorded _ _) fun _ =>
      gpioPinSet_unrecorded _ _

/-- A measurement cycle takes the time of its samples, and of starting and stopping the counter. -/
lemma opcCycle_unrecorded (fuel : ℕ) (n : UInt8) :
    Unrecorded (opcCycle fuel n)
      ((6000 + 10 + 5000) + (n.toNat * 5012 + (6000 + 10 + 2000))) := by
  have hinit : Unrecorded opcInit 0 := Prog.lasts_of_calls (opcInit_calls.mono fun c hc => by
    rw [hc]
    rfl)
  have hrelease : Unrecorded opcRelease 0 :=
    Prog.lasts_of_calls (opcRelease_calls.mono Call.ofHandshake.unrecorded)
  unfold opcCycle
  refine (hinit.bind fun _ => (opcStart_unrecorded fuel).bind fun _ =>
    (opcReadHistogram_unrecorded n).bind fun data => (opcStop_unrecorded fuel).bind fun _ =>
    hrelease.bind fun _ => Prog.lasts_pure _).mono ?_
  omega

/-- Reading the ambient sensor once takes 40 ms, whatever fails. -/
lemma ambientSensorsRead_unrecorded (a : Fin 3 → Flt) : Unrecorded (ambientSensorsRead 1 a) 40 := by
  have hgets : Unrecorded channelGets 0 := by
    refine Prog.lasts_of_calls ?_
    have hget : ∀ chan, (sensorChannelGet chan).Within fun c => c.isFormat = false := fun chan =>
      perform_within rfl
    unfold channelGets
    refine .bind (hget _) fun press => ?_
    cases press with
    | none => exact Prog.calls_pure _
    | some press =>
      refine .bind (hget _) fun temp => ?_
      cases temp with
      | none => exact Prog.calls_pure _
      | some temp =>
        refine .bind (hget _) fun hum => ?_
        cases hum <;> exact Prog.calls_pure _
  have hfetch : Unrecorded sensorSampleFetch 0 := by
    unfold sensorSampleFetch
    exact (perform_unrecorded (c := .sensorSampleFetch) rfl).bind (n := 0) fun s =>
      Prog.lasts_pure _
  have hpass : ∀ i sum, Unrecorded (ambientPass i sum) 40 := by
    intro i sum
    unfold ambientPass ambientSample
    refine Prog.Lasts.bind (m := 40) (n := 0) ?_ fun v => Prog.lasts_pure _
    refine (kMsleep_unrecorded 20).bind (n := 20) fun _ => hfetch.bind (n := 20) fun fetched => ?_
    exact (kMsleep_unrecorded 20).bind (n := 0) fun _ => .ite hgets (Prog.lasts_pure _)
  have hone : ∀ sum, Unrecorded (Prog.forUntil ambientPass (1 : UInt8).toNat sum) 40 :=
    fun sum => hpass 0 sum
  unfold ambientSensorsRead
  refine (perform_unrecorded rfl).bind (n := 40) fun sum => (hone sum).bind (n := 0) fun r => ?_
  cases r <;> exact Prog.lasts_pure _

/-- The records of a thread so far were spaced, and the last one is at least the time `m` ago. -/
abbrev RecordsSince (i : ThreadId) (m : ℕ) (h : History) : Prop :=
  Prog.SpacedSince Call.slept Call.isFormat (recordInterval i) m h

/-- The records of a thread are spaced. -/
abbrev RecordsSpaced (i : ThreadId) (h : History) : Prop :=
  Spaced Call.slept (fun e _ => e.call.isFormat) (recordInterval i) h

section Records

variable {env : Env Call Resp}

/-- Formatting a record, when the time since the last one has passed. -/
lemma snprintfcb_spaced {i : ThreadId} {m : ℕ} (hle : recordInterval i ≤ m) (t : Text)
    {S : History → Prop} :
    Prog.Triple env (RecordsSince i m) (snprintfcb t) (fun _ => RecordsSince i 0) S := by
  unfold snprintfcb
  exact (Prog.spaced_perform hle).bind fun _ => Prog.Triple.pure fun _ hh => hh

/-- A pass of the gas thread keeps the rhythm. -/
lemma readGasPass_spaced (l : (Fin 8 → UInt16) × (Fin 3 → Flt)) :
    Prog.Triple env (RecordsSince .gas 30000) (readGasPass l) (fun _ => RecordsSince .gas 30000)
      (RecordsSpaced .gas) := by
  have hambient := ambientSensorsRead_unrecorded l.2
  have hsave : ∀ textData, Unrecorded (saveData textData "gas") 0 := fun textData =>
    Prog.lasts_of_calls ((saveData_calls textData "gas").mono Call.ofStorage.unrecorded)
  have hcopy : ∀ textData, Unrecorded (strcpy .gasMsg textData) 0 := fun textData =>
    perform_unrecorded rfl
  have hsleep : Unrecorded (kMsleep 30000) 30000 := perform_unrecorded rfl
  unfold readGasPass
  refine (gasSensorsRead_unrecorded l.1 5).spaced_bind fun gs => hambient.spaced_bind fun a => ?_
  refine (snprintfcb_spaced (by simp [recordInterval]) _).bind fun textData => ?_
  refine (hsave textData).spaced_bind fun _ => (hcopy textData).spaced_bind fun _ => ?_
  exact hsleep.spaced_bind fun _ => Prog.Triple.pure fun _ hh => hh.mono (by omega)

/-- A pass of the particle thread keeps the rhythm. -/
lemma countParticlesPass_spaced (fuel : ℕ) (a : Fin 3 → Flt) :
    Prog.Triple env (RecordsSince .particle 120000) (countParticlesPass fuel a)
      (fun _ => RecordsSince .particle 120000) (RecordsSpaced .particle) := by
  have hpin : ∀ v, Unrecorded (gpioPinSet ledRed v) 0 := fun v => perform_unrecorded rfl
  have hambient := ambientSensorsRead_unrecorded a
  have hsave : ∀ textData, Unrecorded (saveData textData "opc") 0 := fun textData =>
    Prog.lasts_of_calls ((saveData_calls textData "opc").mono Call.ofStorage.unrecorded)
  have hcopy : ∀ textData, Unrecorded (strcpy .opcMsg textData) 0 := fun textData =>
    perform_unrecorded rfl
  have hsleep : Unrecorded (kMsleep 120000) 120000 := perform_unrecorded rfl
  have hseven : (7 : UInt8).toNat = 7 := rfl
  unfold countParticlesPass
  refine (hpin _).spaced_bind fun _ => (opcCycle_unrecorded fuel 7).spaced_bind fun data => ?_
  refine (hpin _).spaced_bind fun _ => hambient.spaced_bind fun a => ?_
  refine (snprintfcb_spaced (by simp [recordInterval, hseven]) _).bind fun textData => ?_
  refine (hcopy textData).spaced_bind fun _ => (hsave textData).spaced_bind fun _ => ?_
  exact hsleep.spaced_bind fun _ => Prog.Triple.pure fun _ hh => hh.mono (by omega)

/-- A thread keeps its rhythm. -/
lemma application_recordsSpaced (fuel joins : ℕ) (passes : ThreadId → ℕ) (i : ThreadId)
    (env : Env Call Resp) :
    RecordsSpaced i ((application fuel joins passes i).run env []).2 := by
  apply Prog.wp.final
  cases i with
  | gas =>
    have hsleep : Unrecorded (kMsleep 10000) 10000 := perform_unrecorded rfl
    have huninit : Unrecorded (uninit .gs) 0 := perform_unrecorded rfl
    have hgas : Prog.Triple env (RecordsSince .gas 30000) (readGasAndAmbientSensors (passes .gas))
        (fun _ => RecordsSpaced .gas) (RecordsSpaced .gas) := by
      unfold readGasAndAmbientSensors
      refine hsleep.spaced_bind fun _ => huninit.spaced_bind fun gs => ?_
      exact (Prog.spaced_forever readGasPass_spaced (passes .gas) _).mono
        (fun _ hh => hh.mono (by omega)) (fun _ _ hh => hh) fun _ hh => hh
    exact (hgas.bind fun _ => Prog.Triple.pure (a := ()) fun _ hh => hh) []
      (Prog.spacedSince_nil _ _)
  | particle =>
    have hparticle : Prog.Triple env (RecordsSince .particle 120000)
        (countParticles fuel (passes .particle)) (fun _ => RecordsSpaced .particle)
        (RecordsSpaced .particle) :=
      Prog.spaced_forever (countParticlesPass_spaced fuel) (passes .particle) _
    exact (hparticle.bind fun _ => Prog.Triple.pure (a := ()) fun _ hh => hh) []
      (Prog.spacedSince_nil _ _)
  | sender =>
    have hradio : ∀ c : Call, c.ofRadio → c.isFormat = false := fun c hc => by
      cases c <;> first | rfl | exact hc.elim
    have hsender : Unrecorded (sendData joins (passes .sender)) 0 :=
      Prog.lasts_of_calls ((sendData_calls joins (passes .sender)).mono hradio id)
    exact (hsender.spaced.mono (fun _ hh => hh) (fun _ _ hh => hh.1) fun _ hh => hh) []
      (Prog.spacedSince_nil (recordInterval .sender) 0)

end Records

/-! ## The growth of the log files -/

/-- The records of a thread are the texts it formatted. -/
lemma length_records (i : ThreadId) (H : AppHistory) :
    (records i H).length = occurrences (fun e => e.call.isFormat) (own i H) := by
  have hformatted : ∀ h : History,
      (formatted h).length = occurrences (fun e => e.call.isFormat) h := by
    intro h
    induction h with
    | nil => rfl
    | cons e h ih =>
      obtain ⟨c, r⟩ := e
      rw [occurrences_cons, ← ih]
      cases c <;> rfl
  rw [records, List.length_map, hformatted]

/-- A record fits its buffer. -/
lemma length_le_of_mem_records {i : ThreadId} {H : AppHistory} {t : Text}
    (ht : t ∈ records i H) : t.length ≤ 199 := by
  obtain ⟨s, -, rfl⟩ := List.mem_map.1 ht
  exact Nat.le_of_lt_succ s.fits

section Run

variable (env : AppEnv) (fuel joins : ℕ) (passes : ThreadId → ℕ) (schedule : List ThreadId)

/-- **The time between two records.** In every run of the application, whatever is answered and
whatever fails, a thread sleeps at least its interval between two records. -/
theorem records_spaced (i : ThreadId) :
    RecordsSpaced i (own i (appHistory env fuel joins passes schedule)) :=
  System.own_always (application_recordsSpaced fuel joins passes i) schedule

/-- The log file of a thread grows by at most a buffer for each of its intervals. -/
lemma logContent_growth {producer : ThreadId} {fname : Text} (hkeeps : Keeps producer fname) :
    (logContent fname ((appHistory env fuel joins passes schedule).map Prod.snd)).length *
        recordInterval producer ≤
      199 * (sleepTotal (own producer (appHistory env fuel joins passes schedule)) +
        recordInterval producer) := by
  have hspaced : RecordsSpaced producer
      (own producer (appHistory env fuel joins passes schedule)) :=
    System.own_always (application_recordsSpaced fuel joins passes producer) schedule
  have hjournaled := (appHistory_logIntegrity env fuel joins passes schedule hkeeps).journaled
  have hlength := hjournaled.length_le fun t ht => length_le_of_mem_records ht
  have hrate : (records producer (appHistory env fuel joins passes schedule)).length *
      recordInterval producer ≤ sleepTotal (own producer (appHistory env fuel joins passes
        schedule)) + recordInterval producer := by
    rw [length_records, ← totalTime_slept]
    exact hspaced.rate
  calc (logContent fname ((appHistory env fuel joins passes schedule).map Prod.snd)).length *
        recordInterval producer
      ≤ (records producer (appHistory env fuel joins passes schedule)).length * 199 *
        recordInterval producer := Nat.mul_le_mul_right _ hlength
    _ = 199 * ((records producer (appHistory env fuel joins passes schedule)).length *
        recordInterval producer) := by ring
    _ ≤ _ := Nat.mul_le_mul_left _ hrate

/-- **The growth of the log files.** In every run of the application each log file is at most 199
characters long for each interval that its thread has slept, and 199 more: the gas thread writes
at most 199 characters in 36.69 s, the particle thread in 174.144 s. -/
theorem log_growth :
    (logContent (logName "gas")
        ((appHistory env fuel joins passes schedule).map Prod.snd)).length * recordInterval .gas ≤
      199 * (sleepTotal (own .gas (appHistory env fuel joins passes schedule)) +
        recordInterval .gas) ∧
    (logContent (logName "opc")
        ((appHistory env fuel joins passes schedule).map Prod.snd)).length *
        recordInterval .particle ≤
      199 * (sleepTotal (own .particle (appHistory env fuel joins passes schedule)) +
        recordInterval .particle) :=
  ⟨logContent_growth env fuel joins passes schedule (Or.inl ⟨rfl, rfl⟩),
    logContent_growth env fuel joins passes schedule (Or.inr ⟨rfl, rfl⟩)⟩

end Run

end AirLab
