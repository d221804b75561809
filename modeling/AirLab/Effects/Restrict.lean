import Mathlib.Data.List.Induction
import AirLab.Effects.Interleave

set_option relaxedAutoImplicit false
set_option autoImplicit false

/-!
# Some of the threads alone

Some threads are kept and the others left out. Where the answers to the kept threads do not
depend on what the others have done, the others cannot disturb them: what the kept threads do in
a run of all threads they also do in a run of their own, call by call and in the same order.

## Main definitions

* `Effects.kept` — the events of the kept threads.
* `Effects.System.alone` — the kept threads, the others having nothing to do.
* `Effects.System.Restricts` — how a run of the kept threads follows a run of all.

## Main results

* `Effects.System.exists_run_alone` — the kept part of every run is a run of the kept threads.
-/

namespace Effects

variable {ι C : Type} {R : C → Type}

/-- The events of the threads that are kept. -/
def kept (keep : ι → Bool) (H : JointHist ι C R) : JointHist ι C R := H.filter fun e => keep e.1

variable {keep : ι → Bool}

/-- Nothing has happened. -/
@[simp] lemma kept_nil : kept keep ([] : JointHist ι C R) = [] := rfl

/-- An event of a thread that is kept. -/
lemma kept_cons_of_keep {i : ι} (hi : keep i = true) (e : Event C R) (H : JointHist ι C R) :
    kept keep ((i, e) :: H) = (i, e) :: kept keep H := by
  simp [kept, hi]

/-- An event of another thread. -/
lemma kept_cons_of_not {i : ι} (hi : keep i = false) (e : Event C R) (H : JointHist ι C R) :
    kept keep ((i, e) :: H) = kept keep H := by
  simp [kept, hi]

/-- A kept thread has made the same calls. -/
lemma own_kept [DecidableEq ι] {i : ι} (hi : keep i = true) (H : JointHist ι C R) :
    own i (kept keep H) = own i H := by
  induction H with
  | nil => rfl
  | cons e H ih =>
    obtain ⟨j, e⟩ := e
    cases hj : keep j with
    | true =>
      rw [kept_cons_of_keep hj]
      by_cases hij : j = i
      · subst hij
        rw [own_cons_self, own_cons_self, ih]
      · rw [own_cons_of_ne hij, own_cons_of_ne hij, ih]
    | false =>
      have hij : j ≠ i := fun heq => by simp [heq, hi] at hj
      rw [kept_cons_of_not hj, own_cons_of_ne hij, ih]

namespace System

/-- The kept threads on their own: the others end at once. -/
def alone (keep : ι → Bool) (prog : ι → Prog C R Unit) : ι → Prog C R Unit :=
  fun i => if keep i then prog i else pure ()

/-- The state `s'` of the kept threads goes with the state `s` of all threads. -/
structure Restricts (keep : ι → Bool) (s s' : System ι C R) : Prop where
  prog : ∀ i, keep i = true → s'.prog i = s.prog i
  turn : s'.turn = s.turn.filter keep
  hist : s'.hist = kept keep s.hist

variable [DecidableEq ι] {blocks : C → Bool} {env env' : JointEnv ι C R} {s s' : System ι C R}

/-- A step of a kept thread is followed by the same step, unless it does nothing. -/
lemma Restricts.repeat (hs : Restricts keep s s') {i : ι} (hi : keep i = true)
    (henv : ∀ c, env s.hist i c = env' (kept keep s.hist) i c) :
    Restricts keep (step blocks env s i) s' ∨
      Restricts keep (step blocks env s i) (step blocks env' s' i) := by
  rcases step_cases blocks env s i with hstay | ⟨c, k, hprog, hfree, hgo⟩
  · rw [hstay]
    exact Or.inl hs
  have hprog' : s'.prog i = .call c k := (hs.prog i hi).trans hprog
  have hfree' : s'.turn = none ∨ s'.turn = some i := by
    rw [hs.turn]
    rcases hfree with hnone | hsome
    · simp [hnone]
    · simp [hsome, hi]
  have hanswer : env' s'.hist i c = env s.hist i c := by rw [hs.hist, henv]
  have hgo' : step blocks env' s' i =
      { prog := Function.update s'.prog i (k (env s.hist i c))
        turn := if !blocks c && (k (env s.hist i c)).quiet blocks then some i else none
        hist := (i, ⟨c, env s.hist i c⟩) :: s'.hist } := by
    unfold step
    rw [hprog']
    simp only [if_pos hfree', hanswer]
  rw [hgo, hgo']
  refine Or.inr ⟨fun j hj => ?_, ?_, ?_⟩
  · by_cases hij : j = i
    · subst hij
      simp
    · simp [Function.update_of_ne hij, hs.prog j hj]
  · simp only
    split_ifs <;> simp [Option.filter, hi]
  · rw [hs.hist, kept_cons_of_keep hi]

/-- A step of another thread is followed by none. -/
lemma Restricts.skip (hs : Restricts keep s s') {i : ι} (hi : keep i = false) :
    Restricts keep (step blocks env s i) s' := by
  rcases step_cases blocks env s i with hstay | ⟨c, k, -, hfree, hgo⟩
  · rw [hstay]
    exact hs
  rw [hgo]
  refine ⟨fun j hj => ?_, ?_, ?_⟩
  · have hne : j ≠ i := fun heq => by simp [heq, hi] at hj
    rw [hs.prog j hj]
    exact (Function.update_of_ne hne _ _).symm
  · rw [hs.turn]
    rcases hfree with hnone | hsome
    · rw [hnone]
      split_ifs <;> simp [Option.filter, hi]
    · rw [hsome]
      split_ifs <;> simp [Option.filter, hi]
  · rw [hs.hist, kept_cons_of_not hi]

/-- **The kept part of every run is a run of the kept threads**, where their answers do not depend
on the others.

**Proof sketch.** Induction on the schedule: the steps of the kept threads are repeated, those of
the others left out. -/
theorem exists_run_alone {prog : ι → Prog C R Unit} {P : JointHist ι C R → Prop}
    (hP : ∀ schedule, P (run blocks env (init prog) schedule).hist)
    (henv : ∀ H i c, P H → keep i = true → env H i c = env' (kept keep H) i c)
    (schedule : List ι) :
    ∃ schedule', (run blocks env' (init (alone keep prog)) schedule').hist =
      kept keep (run blocks env (init prog) schedule).hist := by
  suffices hrun : ∃ schedule', Restricts keep (run blocks env (init prog) schedule)
      (run blocks env' (init (alone keep prog)) schedule') by
    obtain ⟨schedule', hs⟩ := hrun
    exact ⟨schedule', hs.hist⟩
  induction schedule using List.reverseRecOn with
  | nil => exact ⟨[], fun i hi => by simp [init, run, alone, hi], rfl, rfl⟩
  | append_singleton schedule i ih =>
    obtain ⟨schedule', hs⟩ := ih
    have hlast : ∀ (env : JointEnv ι C R) s schedule, run blocks env s (schedule ++ [i]) =
        step blocks env (run blocks env s schedule) i := fun env s schedule => by simp [run]
    rw [hlast]
    cases hi : keep i with
    | false => exact ⟨schedule', hs.skip hi⟩
    | true =>
      rcases hs.repeat hi fun c => henv _ i c (hP schedule) hi with hstay | hgo
      · exact ⟨schedule', hstay⟩
      · exact ⟨schedule' ++ [i], by rwa [hlast]⟩

end System

end Effects
