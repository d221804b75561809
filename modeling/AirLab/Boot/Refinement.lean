import AirLab.Boot.Sequence
import AirLab.Opc.Relay

set_option relaxedAutoImplicit false
set_option autoImplicit false

/-!
# The application as started by `main`

The runs of the application alone begin with no thread having made a call and all pins low. Here
`main` comes first. What the threads then do is such a run, and the pins have the levels that such
a run gives them: `main` has only set them low, before any thread was there.

## Main definitions

* `AirLab.boardOf` — the calls that reach the board, from `main` and from the threads.

## Main results

* `AirLab.boot_run` — what the threads do is a run of the application.
* `AirLab.boot_pins` — the levels of the pins, and the transfers to the counter.
-/

namespace AirLab

open CLang Effects

/-- The calls of `main` and of the threads that reach pins, buses and drivers, in their order. -/
def boardOf : MachineHistory → History
  | [] => []
  | .inl ⟨.inl c, r⟩ :: M => ⟨c, r⟩ :: boardOf M
  | .inl ⟨.inr _, _⟩ :: M => boardOf M
  | .inr (_, e) :: M => e :: boardOf M

/-- What `main` did to the pins makes no difference to the threads.

**Proof sketch.** Induction on the history. Where `main` sets a pin, it sets it low, and no thread
has made a call: the pin is low in the history of the threads too. -/
lemma level_boardOf {M : MachineHistory} (hgated : Always (Machine.Gated BootCall.starts) M)
    (hmain : Always BootDiscipline (mainOf M)) (p : Pin) :
    level p (boardOf M) = level p ((threadsOf M).map Prod.snd) := by
  induction M with
  | nil => rfl
  | cons e M ih =>
    rcases e with ⟨c | c, r⟩ | ⟨i, e⟩
    · rw [mainOf_inl] at hmain
      have hrest := ih hgated.2 hmain.2
      show level p (⟨c, r⟩ :: boardOf M) = level p ((threadsOf M).map Prod.snd)
      rw [level_cons, hrest]
      rcases hw : c.writes p with _ | v
      · rfl
      · obtain ⟨rfl, hunstarted⟩ := hmain.1.pins c p v rfl hw
        rw [Machine.threadsOf_eq_nil hgated.2 hunstarted]
        rfl
    · rw [mainOf_inl] at hmain
      exact ih hgated.2 hmain.2
    · have hrest := ih hgated.2 hmain
      show level p (e :: boardOf M) = level p ((threadsOf ((.inr (i, e)) :: M)).map Prod.snd)
      rw [threadsOf_inr, List.map_cons, level_cons, level_cons, hrest]

section Run

variable (w : Hardware) (fuel joins mainPasses : ℕ) (passes : ThreadId → ℕ)
  (schedule : List (Option ThreadId))

/-- What the threads do is a run of the application: whatever holds of every run of the application
holds of the threads that `main` has started. -/
lemma boot_run :
    ∃ (env : AppEnv) (threadSchedule : List ThreadId),
      threadsOf (bootHistory w fuel joins mainPasses passes schedule) =
        appHistory env fuel joins passes threadSchedule := by
  obtain ⟨moment, threadSchedule, hrun⟩ : ∃ (moment : AppHistory → MachineHistory)
      (threadSchedule : List ThreadId),
      (Machine.run BootCall.starts Call.blocks w.answers
        (Machine.init (main fuel mainPasses) (application fuel joins passes)) schedule).threads =
      System.run Call.blocks (fun H => w.answers.thread (moment H) H)
        (System.init (application fuel joins passes)) threadSchedule :=
    Machine.run_refines _ _ schedule
  refine ⟨fun H => w.thread (moment H) H, threadSchedule, ?_⟩
  have hanswers : (fun H => w.answers.thread (moment H) H) =
      shared fun H => w.thread (moment H) H := by
    funext H i c
    cases c <;> rfl
  rw [hanswers] at hrun
  exact congrArg System.hist hrun

/-- **The pins of the board.** In every run of the main program beside its threads, the level of
every pin, whoever wrote to it, is the one it has in the history of the threads alone; and every
transfer over SPI that a thread makes is one of the particle thread, with the relay on and the
select line low on the board. -/
theorem boot_pins :
    (∀ p, level p (boardOf (bootHistory w fuel joins mainPasses passes schedule)) =
        level p ((threadsOf (bootHistory w fuel joins mainPasses passes schedule)).map
          Prod.snd)) ∧
      Always (fun e past => ∀ t, e = Sum.inr t → t.2.call.isTransfer = true →
          t.1 = ThreadId.particle ∧ level relay (boardOf past) = .high ∧
            level chipSelect (boardOf past) = .low)
        (bootHistory w fuel joins mainPasses passes schedule) := by
  have hgated : Always (Machine.Gated BootCall.starts)
      (bootHistory w fuel joins mainPasses passes schedule) :=
    Machine.always_gated _ _ schedule
  have hmain := boot_disciplined w fuel joins mainPasses passes schedule
  have haddressed : Always Addressed
      (threadsOf (bootHistory w fuel joins mainPasses passes schedule)) := by
    obtain ⟨env, threadSchedule, hrun⟩ := boot_run w fuel joins mainPasses passes schedule
    rw [hrun]
    exact always_addressed (appHistory_counterDiscipline env fuel joins passes threadSchedule)
  refine ⟨level_boardOf hgated hmain, ?_⟩
  revert hgated hmain haddressed
  generalize bootHistory w fuel joins mainPasses passes schedule = M
  intro hgated hmain haddressed
  rw [always_threadsOf_iff] at haddressed
  rw [always_iff]
  rintro later e past rfl t rfl htransfer
  have hpast : Always BootDiscipline (mainOf past) := by
    unfold mainOf at hmain
    rw [List.filterMap_append] at hmain
    exact hmain.of_append
  have hgatedPast := hgated.of_append.2
  rw [level_boardOf hgatedPast hpast, level_boardOf hgatedPast hpast]
  exact haddressed.of_append.1 t rfl htransfer

end Run

end AirLab
