import AirLab.Effects.Meter

set_option relaxedAutoImplicit false
set_option autoImplicit false

/-!
# How long a thread keeps the processor

Cooperative threads depend on each other to block: a thread that goes on making calls that do
not block keeps all others from running. The meter of a thread is how many such calls it has made
in a row, and where it is bounded no thread is shut out.

## Main definitions

* `Effects.Meter.burst`, `Effects.streak` — the calls that did not block since the last that did.
* `Effects.Prog.Bursts` — a bound on them along a program.

## Main results

* `Effects.System.exists_released` — the processor is given up after as many calls.
* `Effects.System.exists_answered` — every thread can make its next call.
-/

namespace Effects

variable {ι C : Type} {R : C → Type} {α : Type} {blocks : C → Bool}

/-! ## Programs -/

/-- **Bursts**: a call that blocks ends the burst, any other goes on with it. -/
def Meter.burst (blocks : C → Bool) : Meter C where
  tick c n := if blocks c then 0 else n + 1
  mono c n n' hle := by
    show (if blocks c then 0 else n + 1) ≤ if blocks c then 0 else n' + 1
    split_ifs <;> omega

/-- The number of calls since the last one that blocked. -/
def streak (blocks : C → Bool) (h : Hist C R) : ℕ := (Meter.burst blocks).read h

/-- A call that blocks ends the burst. -/
lemma Meter.burst_of_blocks {c : C} (hc : blocks c = true) (n : ℕ) :
    (Meter.burst blocks).tick c n = 0 := if_pos hc

/-- Any other call goes on with it. -/
lemma Meter.burst_of_not {c : C} (hc : blocks c = false) (n : ℕ) :
    (Meter.burst blocks).tick c n = n + 1 := if_neg (Bool.not_eq_true _ ▸ hc)

namespace Prog

/-- **Bursts of calls that do not block.** After at most `n` of them in a row the program never
makes more than `N` in a row, and returns after at most `m` of them. -/
abbrev Bursts (blocks : C → Bool) (N : ℕ) (p : Prog C R α) (n m : ℕ) : Prop :=
  p.Metered (Meter.burst blocks) N n m

variable {N n : ℕ}

/-- A call that blocks. -/
lemma bursts_of_blocks {c : C} (hc : blocks c = true) :
    (perform c : Prog C R (R c)).Bursts blocks N n 0 := by
  have htick := Meter.burst_of_blocks hc n
  exact metered_perform (by omega) (Nat.le_of_eq htick)

/-- A call that does not. -/
lemma bursts_of_not {c : C} (hc : blocks c = false) (hn : n < N) :
    (perform c : Prog C R (R c)).Bursts blocks N n (n + 1) := by
  have htick := Meter.burst_of_not hc n
  exact metered_perform (by omega) (Nat.le_of_eq htick)

/-- Any call goes on with it by one at most. -/
lemma takes_burst (blocks : C → Bool) (N : ℕ) (c : C) :
    (perform c : Prog C R (R c)).Takes (Meter.burst blocks) N 1 :=
  takes_perform fun n => by
    show (if blocks c then 0 else n + 1) ≤ n + 1
    split_ifs <;> omega

/-- Where more calls block the bursts are no longer. -/
lemma Bursts.of_blocks {blocks' : C → Bool} {m : ℕ}
    (hmore : ∀ c, blocks c = true → blocks' c = true) {p : Prog C R α}
    (hp : p.Bursts blocks N n m) : p.Bursts blocks' N n m := by
  refine hp.of_tick_le (fun c n => ?_) le_rfl
  show (if blocks' c then 0 else n + 1) ≤ if blocks c then 0 else n + 1
  by_cases hc : blocks c = true
  · rw [if_pos (hmore c hc)]
    exact Nat.zero_le _
  · rw [if_neg hc]
    split_ifs <;> omega

end Prog

/-! ## Threads -/

namespace System

variable [DecidableEq ι] {env : JointEnv ι C R} {prog : ι → Prog C R Unit} {N m : ℕ}

/-- The thread that has the turn goes on with a call that does not block. -/
lemma quiet_of_turn (schedule : List ι) {i : ι}
    (hturn : (run blocks env (init prog) schedule).turn = some i) :
    ((run blocks env (init prog) schedule).prog i).quiet blocks = true := by
  refine run_invariant (I := fun s => ∀ i, s.turn = some i → (s.prog i).quiet blocks = true) ?_
    (init prog) (fun i h => by simp [init] at h) schedule i hturn
  intro s j hI
  rcases step_cases blocks env s j with hstay | ⟨c, k, hprog, hfree, hgo⟩
  · rw [hstay]
    exact hI
  rw [hgo]
  intro i hi
  simp only at hi ⊢
  split_ifs at hi with hc
  obtain rfl := Option.some.inj hi
  rw [Function.update_self]
  exact (Bool.and_eq_true_iff.1 hc).2

/-- The streaks of every thread are bounded in every run. -/
lemma streak_own_le {busy : C → Bool} {i : ι} (hp : (prog i).Bursts busy N 0 m)
    (schedule : List ι) :
    streak busy (own i (run blocks env (init prog) schedule).hist) ≤ N :=
  (keepsBelow_own hp schedule).read_le

/-- A step of the thread that has the turn adds to its streak, and may end its turn. -/
lemma step_of_turn (schedule : List ι) {i : ι}
    (hturn : (run blocks env (init prog) schedule).turn = some i) :
    streak blocks (own i (run blocks env (init prog) (schedule ++ [i])).hist) =
        streak blocks (own i (run blocks env (init prog) schedule).hist) + 1 ∧
      ((run blocks env (init prog) (schedule ++ [i])).turn = none ∨
        (run blocks env (init prog) (schedule ++ [i])).turn = some i) := by
  have hquiet := quiet_of_turn schedule hturn
  have hrun : run blocks env (init prog) (schedule ++ [i]) =
      step blocks env (run blocks env (init prog) schedule) i := by
    simp [run]
  rw [hrun]
  unfold step
  cases hprog : (run blocks env (init prog) schedule).prog i with
  | ret a => simp [hprog, Prog.quiet] at hquiet
  | spent => simp [hprog, Prog.quiet] at hquiet
  | call c k =>
    have hc : blocks c = false := by simpa [hprog, Prog.quiet] using hquiet
    simp only [hturn, or_true, if_true, own_cons_self]
    exact ⟨Meter.burst_of_not hc _, by split_ifs <;> simp⟩

/-- **The processor is given up after at most `N` calls.**

**Proof sketch.** Induction on what is left up to `N`: every step of the thread that has the turn
is a call that does not block, and adds to its streak. -/
theorem exists_released {i : ι} (hp : (prog i).Bursts blocks N 0 m) (schedule : List ι)
    (hturn : (run blocks env (init prog) schedule).turn = some i) :
    ∃ k ≤ N, (run blocks env (init prog) (schedule ++ List.replicate k i)).turn = none := by
  suffices hleft : ∀ d schedule, (run blocks env (init prog) schedule).turn = some i →
      N ≤ streak blocks (own i (run blocks env (init prog) schedule).hist) + d →
      ∃ k ≤ d, (run blocks env (init prog) (schedule ++ List.replicate k i)).turn = none by
    exact hleft N schedule hturn (by omega)
  intro d
  induction d with
  | zero =>
    intro schedule hturn hd
    have hstreak := (step_of_turn schedule hturn).1
    have hle : streak blocks (own i (run blocks env (init prog) (schedule ++ [i])).hist) ≤ N :=
      streak_own_le hp (schedule ++ [i])
    omega
  | succ d ih =>
    intro schedule hturn hd
    obtain ⟨hstreak, hnone | hsome⟩ := step_of_turn schedule hturn
    · exact ⟨1, by omega, hnone⟩
    · obtain ⟨k, hk, hmore⟩ := ih (schedule ++ [i]) hsome (by omega)
      refine ⟨k + 1, by omega, ?_⟩
      simpa [List.replicate_succ] using hmore

/-- The steps of one thread leave the others alone. -/
lemma run_replicate_other {i j : ι} (hij : j ≠ i) (k : ℕ) (s : System ι C R) :
    (run blocks env s (List.replicate k i)).prog j = s.prog j ∧
      own j (run blocks env s (List.replicate k i)).hist = own j s.hist := by
  induction k generalizing s with
  | zero => exact ⟨rfl, rfl⟩
  | succ k ih =>
    obtain ⟨hprog, hown⟩ := ih (step blocks env s i)
    have hstep : (step blocks env s i).prog j = s.prog j ∧
        own j (step blocks env s i).hist = own j s.hist := by
      rcases step_cases blocks env s i with hstay | ⟨c, k, -, -, hgo⟩
      · rw [hstay]
        exact ⟨rfl, rfl⟩
      · rw [hgo]
        exact ⟨Function.update_of_ne hij _ _, own_cons_of_ne (Ne.symm hij) _ _⟩
    exact ⟨hprog.trans hstep.1, hown.trans hstep.2⟩

/-- A thread that may run makes its next call. -/
lemma step_answers (blocks : C → Bool) (env : JointEnv ι C R) {s : System ι C R} {j : ι} {c : C}
    {k : R c → Prog C R Unit}
    (hprog : s.prog j = .call c k) (hfree : s.turn = none ∨ s.turn = some j) :
    ∃ r, (step blocks env s j).hist = (j, ⟨c, r⟩) :: s.hist := by
  unfold step
  rw [hprog]
  simp only [if_pos hfree]
  exact ⟨env s.hist j c, rfl⟩

/-- **No thread is shut out.** In every state that is reached, a thread that has not ended can
make its next call after at most `N` calls of another thread. -/
theorem exists_answered (hp : ∀ i, (prog i).Bursts blocks N 0 m) (schedule : List ι) {j : ι}
    {c : C} {k : R c → Prog C R Unit}
    (hprog : (run blocks env (init prog) schedule).prog j = .call c k) :
    ∃ more : List ι, more.length ≤ N + 1 ∧ ∃ r,
      own j (run blocks env (init prog) (schedule ++ more)).hist =
        ⟨c, r⟩ :: own j (run blocks env (init prog) schedule).hist := by
  have hrun : ∀ s more,
      run blocks env s (more ++ [j]) = step blocks env (run blocks env s more) j :=
    fun s more => by simp [run]
  by_cases hfree : (run blocks env (init prog) schedule).turn = none ∨
      (run blocks env (init prog) schedule).turn = some j
  · obtain ⟨r, hlast⟩ := step_answers blocks env hprog hfree
    refine ⟨[j], by simp, r, ?_⟩
    rw [hrun, hlast, own_cons_self]
  · obtain ⟨i, hi⟩ := Option.ne_none_iff_exists'.1 (not_or.1 hfree).1
    have hji : j ≠ i := fun h => (not_or.1 hfree).2 (h ▸ hi)
    obtain ⟨n, hn, hnone⟩ := exists_released (hp i) schedule hi
    have happend : run blocks env (init prog) (schedule ++ List.replicate n i) =
        run blocks env (run blocks env (init prog) schedule) (List.replicate n i) := by
      simp [run]
    have hother : (run blocks env (init prog) (schedule ++ List.replicate n i)).prog j =
          (run blocks env (init prog) schedule).prog j ∧
        own j (run blocks env (init prog) (schedule ++ List.replicate n i)).hist =
          own j (run blocks env (init prog) schedule).hist := by
      rw [happend]
      exact run_replicate_other hji n _
    obtain ⟨r, hlast⟩ := step_answers blocks env (hother.1.trans hprog) (Or.inl hnone)
    refine ⟨List.replicate n i ++ [j], by simpa using hn, r, ?_⟩
    rw [← List.append_assoc, hrun, hlast, own_cons_self, hother.2]

end System

end Effects
