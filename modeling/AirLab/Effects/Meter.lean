import AirLab.Effects.Clock
import AirLab.Effects.Interleave
import Mathlib.Order.Monotone.Basic

set_option relaxedAutoImplicit false
set_option autoImplicit false

/-!
# Meters

A meter is a number that every call moves: how many calls were made since some other one, how much
time has passed that nothing yet accounts for. How far it can go along a program, whatever the
program is answered, is read off the program, and holds of a thread among others as well.

## Main definitions

* `Effects.Meter` — a number that calls move.
* `Effects.KeepsBelow` — it never exceeds a bound.
* `Effects.Prog.Metered` — a program that keeps it below a bound.
* `Effects.Prog.Takes` — a program that raises it by at most a certain amount.
* `Effects.Meter.account` — the time that results and attempts do not account for.

## Main results

* `Effects.System.keepsBelow_own` — a thread keeps its meter below the bound of its program.
* `Effects.KeepsBelow.accounted` — all time is accounted for.
-/

namespace Effects

variable {C : Type} {R : C → Type} {α β σ : Type}

/-- **A meter**: a number that every call moves. The more it was before, the more it is after. -/
structure Meter (C : Type) where
  tick : C → ℕ → ℕ
  mono : ∀ c, Monotone (tick c)

/-- The meter after a history. -/
def Meter.read (M : Meter C) : Hist C R → ℕ
  | [] => 0
  | e :: past => M.tick e.call (M.read past)

/-- The meter never exceeded `N`. -/
def KeepsBelow (M : Meter C) (N : ℕ) (h : Hist C R) : Prop :=
  Always (fun e past => M.read (e :: past) ≤ N) h

variable {M : Meter C}

/-- The meter after one more call. -/
@[simp] lemma Meter.read_cons (e : Event C R) (h : Hist C R) :
    M.read (e :: h) = M.tick e.call (M.read h) := rfl

/-- What never exceeded the bound is within it now. -/
lemma KeepsBelow.read_le {N : ℕ} {h : Hist C R} (hbelow : KeepsBelow M N h) : M.read h ≤ N := by
  cases h with
  | nil => exact Nat.zero_le N
  | cons e past => exact hbelow.1

namespace Prog

/-! ## Programs that keep below a bound -/

/-- **A program that keeps the meter below `N`.** Started with at most `n` on the meter, it never
exceeds `N`, and returns with at most `m`. -/
def Metered (M : Meter C) (N : ℕ) : Prog C R α → ℕ → ℕ → Prop
  | ret _, n, m => n ≤ m
  | spent, _, _ => True
  | call c k, n, m => M.tick c n ≤ N ∧ ∀ r, (k r).Metered M N (M.tick c n) m

variable {N n m n' m' k j : ℕ}

/-- Returning a value. -/
@[simp] lemma metered_pure (a : α) : (pure a : Prog C R α).Metered M N n m ↔ n ≤ m := Iff.rfl

/-- Running out of fuel. -/
@[simp] lemma metered_spent : (spent : Prog C R α).Metered M N n m := trivial

/-- Less before, more after. -/
lemma Metered.mono {p : Prog C R α} (hp : p.Metered M N n m) (hn : n' ≤ n) (hm : m ≤ m') :
    p.Metered M N n' m' := by
  induction p generalizing n n' with
  | ret a =>
    have hle : n ≤ m := hp
    show n' ≤ m'
    omega
  | spent => trivial
  | call c k ih =>
    have htick : M.tick c n' ≤ M.tick c n := M.mono c hn
    exact ⟨Nat.le_trans htick hp.1, fun r => ih r (hp.2 r) htick⟩

/-- **A meter that every call moves less** stays below the same bound. -/
lemma Metered.of_tick_le {M' : Meter C} (hle : ∀ c n, M'.tick c n ≤ M.tick c n) {p : Prog C R α}
    (hp : p.Metered M N n m) (hn : n' ≤ n) : p.Metered M' N n' m := by
  induction p generalizing n n' with
  | ret a =>
    have hm : n ≤ m := hp
    show n' ≤ m
    omega
  | spent => trivial
  | call c k ih =>
    have htick : M'.tick c n' ≤ M.tick c n := Nat.le_trans (hle c n') (M.mono c hn)
    exact ⟨Nat.le_trans htick hp.1, fun r => ih r (hp.2 r) htick⟩

/-- A single call. -/
lemma metered_perform {c : C} (hN : M.tick c n ≤ N) (hm : M.tick c n ≤ m) :
    (perform c : Prog C R (R c)).Metered M N n m :=
  ⟨hN, fun _ => hm⟩

/-- A sequence. -/
lemma Metered.bind {p : Prog C R α} {f : α → Prog C R β} (hp : p.Metered M N n k)
    (hf : ∀ a, (f a).Metered M N k m) : (p >>= f).Metered M N n m := by
  change (p.bind f).Metered M N n m
  induction p generalizing n with
  | ret a => exact (hf a).mono hp (Nat.le_refl m)
  | spent => trivial
  | call c g ih => exact ⟨hp.1, fun r => ih r (hp.2 r)⟩

/-- **The bound is kept**, and the meter returns with what the program allows. -/
lemma Metered.triple {env : Env C R} {p : Prog C R α} (hp : p.Metered M N n m) :
    Triple env (fun h => KeepsBelow M N h ∧ M.read h ≤ n) p
      (fun _ h => KeepsBelow M N h ∧ M.read h ≤ m) (KeepsBelow M N) := by
  intro h hh
  induction p generalizing h n with
  | ret a => exact (wp_pure a).2 ⟨hh.1, Nat.le_trans hh.2 hp⟩
  | spent => exact wp_spent.2 hh.1
  | call c k ih =>
    refine (wp_bind (Prog.perform c) k _).2 ((wp_perform c _).2 ?_)
    have hread : M.read (⟨c, env h c⟩ :: h) ≤ M.tick c n := M.mono c hh.2
    exact ih _ (hp.2 _) _ ⟨⟨Nat.le_trans hread hp.1, hh.1⟩, hread⟩

/-- The bound is kept along every run from the start. -/
theorem Metered.keepsBelow {p : Prog C R α} (hp : p.Metered M N 0 m) (env : Env C R) :
    KeepsBelow M N (p.run env []).2 :=
  Prog.wp.final ((hp.triple [] ⟨trivial, Nat.le_refl 0⟩).mono (fun _ _ hh => hh.1) fun _ hh => hh)

-- From here on the rules are the interface.
attribute [irreducible] Metered

/-- A branch. -/
lemma Metered.ite {c : Prop} [Decidable c] {p q : Prog C R α} (hp : p.Metered M N n m)
    (hq : q.Metered M N n m) : (if c then p else q).Metered M N n m := by
  split_ifs
  · exact hp
  · exact hq

/-- A `for` loop whose passes return with as much as they start with. -/
lemma Metered.forRange {body : ℕ → σ → Prog C R σ} (hbody : ∀ i s, (body i s).Metered M N n n)
    (j : ℕ) (s : σ) : (Prog.forRange body j s).Metered M N n n := by
  induction j with
  | zero => exact (metered_pure s).2 (Nat.le_refl n)
  | succ j ih => exact ih.bind (hbody j)

/-- A `while (1)` whose passes do. -/
lemma Metered.loop {body : σ → Prog C R (σ ⊕ α)} (hbody : ∀ s, (body s).Metered M N n n)
    (fuel : ℕ) (s : σ) : (Prog.loop body fuel s).Metered M N n n := by
  induction fuel generalizing s with
  | zero => exact metered_spent
  | succ fuel ih =>
    refine (hbody s).bind fun r => ?_
    cases r with
    | inl s' => exact ih s'
    | inr a => exact (metered_pure a).2 (Nat.le_refl n)

/-! ## Programs that raise the meter -/

/-- **A program that raises the meter by at most `k`**, as far as the bound allows it. -/
def Takes (M : Meter C) (N : ℕ) (p : Prog C R α) (k : ℕ) : Prop :=
  ∀ n, n + k ≤ N → p.Metered M N n (n + k)

/-- The bound allows what the program takes. -/
lemma Takes.metered {p : Prog C R α} (hp : p.Takes M N k) (hN : n + k ≤ N) (hm : n + k ≤ m) :
    p.Metered M N n m :=
  (hp n hN).mono (Nat.le_refl n) hm

/-- Returning a value takes nothing. -/
lemma takes_pure (a : α) : (pure a : Prog C R α).Takes M N 0 := fun _ _ =>
  (metered_pure a).2 (Nat.le_refl _)

/-- A single call. -/
lemma takes_perform {c : C} (hc : ∀ n, M.tick c n ≤ n + k) :
    (perform c : Prog C R (R c)).Takes M N k := fun n hn =>
  metered_perform (Nat.le_trans (hc n) hn) (hc n)

/-- A program that takes less also takes at most more. -/
lemma Takes.mono {p : Prog C R α} (hp : p.Takes M N k) (hle : k ≤ j) : p.Takes M N j :=
  fun n hn => (hp n (by omega)).mono (Nat.le_refl n) (by omega)

/-- A sequence takes what its parts take. -/
lemma Takes.bind {p : Prog C R α} {f : α → Prog C R β} (hp : p.Takes M N k)
    (hf : ∀ a, (f a).Takes M N j) : (p >>= f).Takes M N (k + j) := fun n hn =>
  (hp n (by omega)).bind fun a => (hf a).metered (by omega) (by omega)

/-- Returning a value at the end takes no more. -/
lemma Takes.returning {p : Prog C R α} {g : α → β} (hp : p.Takes M N k) :
    (p >>= fun a => pure (g a)).Takes M N k :=
  hp.bind fun a => takes_pure (g a)

/-- A branch takes what either side takes. -/
lemma Takes.ite {c : Prop} [Decidable c] {p q : Prog C R α} (hp : p.Takes M N k)
    (hq : q.Takes M N k) : (if c then p else q).Takes M N k := by
  split_ifs
  · exact hp
  · exact hq

/-- A `for` loop takes what all its passes take. -/
lemma Takes.forRange {body : ℕ → σ → Prog C R σ} (hbody : ∀ i s, (body i s).Takes M N k) (j : ℕ)
    (s : σ) : (Prog.forRange body j s).Takes M N (j * k) := by
  induction j with
  | zero =>
    rw [Nat.zero_mul]
    exact takes_pure s
  | succ j ih =>
    rw [Nat.succ_mul]
    exact ih.bind (hbody j)

end Prog

/-- **A thread keeps its meter below the bound of its program**, however the threads interleave. -/
theorem System.keepsBelow_own {ι : Type} [DecidableEq ι] {blocks : C → Bool}
    {env : JointEnv ι C R} {prog : ι → Prog C R Unit} {N m : ℕ} {i : ι}
    (hp : (prog i).Metered M N 0 m) (schedule : List ι) :
    KeepsBelow M N (own i (run blocks env (init prog) schedule).hist) :=
  own_always (fun env => hp.keepsBelow env) schedule

/-! ## Accounting for time -/

variable {cost credit : C → ℕ} {result : C → Bool}

/-- **The time that is not accounted for**: every call adds its time, a result accounts for all
the time before it, and any other call for its credit. -/
def Meter.account (cost credit : C → ℕ) (result : C → Bool) : Meter C where
  tick c n := if result c then cost c else n + cost c - credit c
  mono c n n' hle := by
    show (if result c then cost c else n + cost c - credit c) ≤
      if result c then cost c else n' + cost c - credit c
    split_ifs <;> omega

/-- After a result only its own time is left. -/
lemma Meter.account_of_result {c : C} (hc : result c = true) (n : ℕ) :
    (Meter.account cost credit result).tick c n = cost c := if_pos hc

/-- Any other call adds its time and accounts for its credit. -/
lemma Meter.account_of_not {c : C} (hc : result c = false) (n : ℕ) :
    (Meter.account cost credit result).tick c n = n + cost c - credit c :=
  if_neg (Bool.not_eq_true _ ▸ hc)

/-- A call adds at most its time. -/
lemma Meter.account_le (c : C) (n : ℕ) :
    (Meter.account cost credit result).tick c n ≤ n + cost c := by
  show (if result c then cost c else n + cost c - credit c) ≤ n + cost c
  split_ifs <;> omega

/-- **All time is accounted for.** If the account never exceeds `N`, then in any stretch of the
history no more time passes than `N` for each result and once more, and the credits.

**Proof sketch.** Induction on the stretch: what the results and the credits do not account for
is on the meter, and a result is charged for what was on it. -/
theorem KeepsBelow.accounted {N : ℕ} {later past : Hist C R}
    (hbelow : KeepsBelow (Meter.account cost credit result) N (later ++ past)) :
    totalTime cost later ≤ N * (occurrences (fun e => result e.call) later + 1) +
      totalTime credit later := by
  suffices hopen : totalTime cost later ≤ N * occurrences (fun e => result e.call) later +
      totalTime credit later + (Meter.account cost credit result).read (later ++ past) by
    have hread := hbelow.read_le
    rw [Nat.mul_add, Nat.mul_one]
    omega
  induction later with
  | nil => exact Nat.zero_le _
  | cons e later ih =>
    have hearlier : KeepsBelow (Meter.account cost credit result) N (later ++ past) := hbelow.2
    have hrest := ih hearlier
    rw [List.cons_append, totalTime_cons, totalTime_cons, occurrences_cons, Meter.read_cons]
    cases he : result e.call with
    | true =>
      have hread := hearlier.read_le
      rw [Meter.account_of_result he, if_pos rfl, Nat.mul_add, Nat.mul_one]
      omega
    | false =>
      rw [Meter.account_of_not he, if_neg Bool.false_ne_true, Nat.add_zero]
      omega

end Effects
