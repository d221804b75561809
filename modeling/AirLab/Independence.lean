import AirLab.Effects.Restrict
import AirLab.Storage.Log
import AirLab.Uplink

set_option relaxedAutoImplicit false
set_option autoImplicit false

/-!
# The measurements without the radio

The sender only reads what the measuring threads leave in the message arrays. Where the hardware
answers the measuring threads the same whatever the radio does, the sender cannot disturb them:
what they do beside it they also do without it, and the files hold the same.

## Main definitions

* `AirLab.ThreadId.measures` — the measuring threads.
* `AirLab.measurementHistory` — a run of the measuring threads alone.
* `AirLab.RadioFree` — answers to the measuring threads that do not depend on the sender.

## Main results

* `AirLab.measurements_undisturbed` — dropping the sender from a run leaves a run without it.
-/

namespace AirLab

open CLang Effects

/-- The threads that measure. -/
def ThreadId.measures : ThreadId → Bool
  | .sender => false
  | _ => true

/-- A run of the measuring threads without the sender. -/
def measurementHistory (env : AppEnv) (fuel : ℕ) (passes : ThreadId → ℕ)
    (schedule : List ThreadId) : AppHistory :=
  (System.run Call.blocks (shared env)
    (System.init (System.alone ThreadId.measures (application fuel 0 passes))) schedule).hist

/-- The hardware answers the measuring threads the same whatever the sender has done. -/
def RadioFree (env : AppEnv) : Prop :=
  ∀ H t c, t.measures = true → env H t c = env (kept ThreadId.measures H) t c

/-- The sender makes its own calls only. -/
def SenderCalls (H : AppHistory) : Prop := ∀ e ∈ H, e.1 = .sender → e.2.call.ofRadio

/-- So it does in every run. -/
lemma appHistory_senderCalls (env : AppEnv) (fuel joins : ℕ) (passes : ThreadId → ℕ)
    (schedule : List ThreadId) : SenderCalls (appHistory env fuel joins passes schedule) := by
  have hcalls : ∀ env, Always (fun e _ => e.call.ofRadio)
      ((application fuel joins passes .sender).run env []).2 := fun env =>
    Prog.wp.final (Prog.Triple.of_calls (fun _ _ he hh => ⟨he, hh⟩) (fun _ _ hh => hh)
      (sendData_calls joins (passes .sender)) [] trivial)
  have hown : Always (fun e _ => e.call.ofRadio)
      (own .sender (appHistory env fuel joins passes schedule)) :=
    System.own_always hcalls schedule
  intro e he hsender
  obtain ⟨i, e⟩ := e
  obtain rfl : i = .sender := hsender
  obtain ⟨later, past, heq⟩ := List.append_of_mem (mem_own he)
  rw [heq] at hown
  exact hown.of_append.1

/-- What is read from a history and does not change with the sender's calls is the same without
them. -/
lemma eq_kept {β : Type} {f : AppHistory → β}
    (hcongr : ∀ e H H', f H = f H' → f (e :: H) = f (e :: H'))
    (hskip : ∀ c r H, c.ofRadio → f ((.sender, ⟨c, r⟩) :: H) = f H) {H : AppHistory}
    (hH : SenderCalls H) : f (kept ThreadId.measures H) = f H := by
  induction H with
  | nil => rfl
  | cons e H ih =>
    have hrest := ih fun e' he' => hH e' (List.mem_cons_of_mem _ he')
    obtain ⟨i, c, r⟩ := e
    cases hi : i.measures with
    | true =>
      rw [kept_cons_of_keep hi]
      exact hcongr _ _ _ hrest
    | false =>
      obtain rfl : i = .sender := by cases i <;> simp [ThreadId.measures] at hi ⊢
      rw [kept_cons_of_not hi, hrest, hskip c r H (hH _ List.mem_cons_self rfl)]

/-- The sender copies nothing into the message arrays. -/
lemma message_kept (m : Mailbox) {H : AppHistory} (hH : SenderCalls H) :
    message m (kept ThreadId.measures H) = message m H := by
  refine eq_kept (fun e H H' heq => ?_) (fun c r H hc => ?_) hH
  · obtain ⟨i, c, r⟩ := e
    cases c <;> simp only [message, heq]
  · cases c <;> first | rfl | exact hc.elim

/-- It fetches no sample. -/
lemma storedSample_kept {H : AppHistory} (hH : SenderCalls H) :
    storedSample (kept ThreadId.measures H) = storedSample H := by
  refine eq_kept (fun e H H' heq => ?_) (fun c r H hc => ?_) hH
  · obtain ⟨i, c, r⟩ := e
    cases c <;> first | exact heq | skip
    cases r <;> simp only [storedSample, heq]
  · cases c <;> first | rfl | exact hc.elim

/-- It writes no file. -/
lemma logContent_kept (fname : Text) {H : AppHistory} (hH : SenderCalls H) :
    logContent fname ((kept ThreadId.measures H).map Prod.snd) =
      logContent fname (H.map Prod.snd) := by
  refine eq_kept (f := fun H => logContent fname (H.map Prod.snd)) (fun e H H' heq => ?_)
    (fun c r H hc => ?_) hH
  · obtain ⟨i, c, r⟩ := e
    cases c <;> simp only [List.map_cons, logContent, heq]
  · cases c <;> first | rfl | exact hc.elim

/-- What the measuring threads share does not depend on the sender either. -/
lemma RadioFree.shared {env : AppEnv} (henv : RadioFree env) {H : AppHistory} (hH : SenderCalls H)
    {t : ThreadId} (ht : t.measures = true) (c : Call) :
    shared env H t c = AirLab.shared env (kept ThreadId.measures H) t c := by
  cases c <;> simp only [AirLab.shared, message_kept _ hH, storedSample_kept hH] <;>
    first | exact henv H t _ ht | skip
  rw [henv H t _ ht]

/-- **The radio cannot disturb the measurements.** Where the hardware answers the measuring
threads the same whatever the sender does: dropping the sender's events from a run of the
application leaves a run of the measuring threads alone, call by call and answer by answer, and
the files hold the same.

**Proof sketch.** The sender copies nothing, fetches no sample and writes no file, so the
answers to the measuring threads are those they get without it (`System.exists_run_alone`). -/
theorem measurements_undisturbed {env : AppEnv} (henv : RadioFree env) (fuel joins : ℕ)
    (passes : ThreadId → ℕ) (schedule : List ThreadId) :
    ∃ schedule', measurementHistory env fuel passes schedule' =
        kept ThreadId.measures (appHistory env fuel joins passes schedule) ∧
      ∀ fname, logContent fname ((measurementHistory env fuel passes schedule').map Prod.snd) =
        logContent fname ((appHistory env fuel joins passes schedule).map Prod.snd) := by
  have halone : System.alone ThreadId.measures (application fuel joins passes) =
      System.alone ThreadId.measures (application fuel 0 passes) := by
    funext i
    cases i <;> rfl
  obtain ⟨schedule', hrun⟩ := System.exists_run_alone
    (appHistory_senderCalls env fuel joins passes)
    (fun H t c hH ht => henv.shared hH ht c) schedule
  rw [halone] at hrun
  refine ⟨schedule', hrun, fun fname => ?_⟩
  unfold measurementHistory
  rw [hrun]
  exact logContent_kept fname (appHistory_senderCalls env fuel joins passes schedule)

/-- What a station at work answers a thread depends on the calls of that thread only. -/
lemma workingEnv_radioFree : RadioFree workingEnv := fun H t c ht => by
  have hown : own t (kept ThreadId.measures H) = own t H := own_kept ht H
  simp only [workingEnv, hown]

/-- The three threads in turns, for one record of each measuring thread and some payloads. -/
@[irreducible] def inTurns : List ThreadId :=
  List.replicate 300 .gas ++ List.replicate 40 .sender ++ List.replicate 2000 .particle ++
    List.replicate 60 .sender

/-- A station at work is not disturbed. -/
theorem measurements_undisturbed_working :
    ∃ schedule', measurementHistory workingEnv 25 (fun _ => 2) schedule' =
        kept ThreadId.measures (appHistory workingEnv 25 1 (fun _ => 2) inTurns) ∧
      ∀ fname, logContent fname ((measurementHistory workingEnv 25 (fun _ => 2)
          schedule').map Prod.snd) =
        logContent fname ((appHistory workingEnv 25 1 (fun _ => 2) inTurns).map Prod.snd) :=
  measurements_undisturbed workingEnv_radioFree 25 1 (fun _ => 2) inTurns

end AirLab
