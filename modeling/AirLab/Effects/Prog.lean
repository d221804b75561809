import Mathlib.Data.Nat.Notation
import Mathlib.Logic.Basic
import Mathlib.Tactic.Lemma
import Mathlib.Tactic.SplitIfs
import Mathlib.Tactic.Cases

set_option relaxedAutoImplicit false
set_option autoImplicit false

/-!
# Programs that call their environment

A program is a tree of calls: it returns a value, or it makes a call and continues with the
answer. `C` is the type of calls and `R c` the type of answers to the call `c`. An unbounded
loop is unrolled as often as its fuel allows and ends in `Effects.Prog.spent` when the fuel is
used up, so that a statement for every fuel is a statement about every finite part of an
endless run.

A program is run against an environment, which answers each call in the light of everything
that happened before. The history of a run is the list of its calls with their answers, the
most recent one first.

## Main definitions

* `Effects.Prog` — programs, a monad (`Effects.Prog.bind`).
* `Effects.Prog.loop`, `Effects.Prog.forever` — `while (1)` with and without a way out.
* `Effects.Prog.passes` — the first passes of such a loop.
* `Effects.Prog.forRange`, `Effects.Prog.forUntil` — `for (i = 0; i < n; i++)` without and with
  a way out of the function.
* `Effects.Prog.Only`, `Effects.Prog.Within` — a program all of whose calls are of a given kind,
  without endless loops or with them.
* `Effects.Event`, `Effects.Hist` — a call with its answer, and histories.
* `Effects.Prog.run` — the run of a program from a history.

## Main results

* `Effects.Prog.run_bind` — a sequence runs its first part, then its second.
* `Effects.Prog.run_extends` — a run only adds to the history.
-/

namespace Effects

variable {C : Type} {R : C → Type} {α β γ σ : Type}

/-- A program: the calls it makes, each followed by what the program does with the answer. -/
inductive Prog (C : Type) (R : C → Type) (α : Type) : Type
  | ret (a : α) : Prog C R α
  | spent : Prog C R α
  | call (c : C) (k : R c → Prog C R α) : Prog C R α

/-- A call together with the answer it got. -/
structure Event (C : Type) (R : C → Type) where
  call : C
  resp : R call

/-- A history: the events so far, the most recent one first. -/
abbrev Hist (C : Type) (R : C → Type) : Type := List (Event C R)

/-- An environment answers a call in the light of the history. -/
abbrev Env (C : Type) (R : C → Type) : Type := Hist C R → (c : C) → R c

namespace Prog

/-! ## The monad of programs -/

/-- Continue with `f` where `p` returns. -/
def bind : Prog C R α → (α → Prog C R β) → Prog C R β
  | ret a, f => f a
  | spent, _ => spent
  | call c k, f => call c fun r => (k r).bind f

instance : Monad (Prog C R) where
  pure := ret
  bind := bind

/-- Make one call and return its answer. -/
def perform (c : C) : Prog C R (R c) := call c ret

/-- Returning the value is the right unit of `bind`. -/
lemma bind_ret (p : Prog C R α) : p.bind ret = p := by
  induction p with
  | ret a => rfl
  | spent => rfl
  | call c k ih => exact congrArg (call c) (funext ih)

/-- `bind` is associative. -/
lemma bind_bind (p : Prog C R α) (f : α → Prog C R β) (g : β → Prog C R γ) :
    (p.bind f).bind g = p.bind fun a => (f a).bind g := by
  induction p with
  | ret a => rfl
  | spent => rfl
  | call c k ih => exact congrArg (call c) (funext ih)

instance : LawfulMonad (Prog C R) :=
  LawfulMonad.mk' (Prog C R) bind_ret (fun _ _ => rfl) bind_bind

/-! ## Loops -/

/-- `while (1)`: repeat `body` on the loop's variables until it breaks out with a result. The
fuel bounds the number of iterations. -/
def loop (body : σ → Prog C R (σ ⊕ α)) : ℕ → σ → Prog C R α
  | 0, _ => spent
  | fuel + 1, s => do
    match ← body s with
    | .inl s' => loop body fuel s'
    | .inr a => pure a

/-- The first `n` passes of a `while (1)`: the loop's variables after them, or the result of a
pass that broke out. -/
def passes (body : σ → Prog C R (σ ⊕ α)) : ℕ → σ → Prog C R (σ ⊕ α)
  | 0, s => pure (.inl s)
  | n + 1, s => do
    match ← body s with
    | .inl s' => passes body n s'
    | .inr a => pure (.inr a)

/-- The rest of a `while (1)` after some passes. -/
def resume (body : σ → Prog C R (σ ⊕ α)) (fuel : ℕ) : σ ⊕ α → Prog C R α
  | .inl s => loop body fuel s
  | .inr a => pure a

/-- A `while (1)` makes its first passes, then the others. -/
lemma loop_add (body : σ → Prog C R (σ ⊕ α)) (n fuel : ℕ) (s : σ) :
    loop body (n + fuel) s = passes body n s >>= resume body fuel := by
  induction n generalizing s with
  | zero => rw [Nat.zero_add]; rfl
  | succ n ih =>
    rw [Nat.add_right_comm]
    unfold loop passes
    rw [bind_assoc]
    refine congrArg (body s >>= ·) (funext fun r => ?_)
    cases r with
    | inl s' => exact ih s'
    | inr a => rfl

/-- `for (i = 0; i < n; i++)`: run `body 0`, …, `body (n - 1)` on the loop's variables. -/
def forRange (body : ℕ → σ → Prog C R σ) : ℕ → σ → Prog C R σ
  | 0, s => pure s
  | n + 1, s => do
    let s' ← forRange body n s
    body n s'

/-- The first `n` passes of a `while (1)` without a way out. -/
def forever (body : σ → Prog C R σ) (n : ℕ) (s : σ) : Prog C R σ := forRange (fun _ => body) n s

/-- `for (i = 0; i < n; i++)` with a body that may leave the function: it returns `none` there,
and the loop stops. -/
def forUntil (body : ℕ → σ → Prog C R (Option σ)) : ℕ → σ → Prog C R (Option σ)
  | 0, s => pure (some s)
  | n + 1, s => do
    match ← forUntil body n s with
    | none => pure none
    | some s' => body n s'

/-! ## The calls of a program -/

/-- Every call the program may make satisfies `ok`, and only an `endless` one may run out of
fuel. -/
def Calls (ok : C → Prop) (endless : Prop) : Prog C R α → Prop
  | ret _ => True
  | spent => endless
  | call c k => ok c ∧ ∀ r, (k r).Calls ok endless

/-- The program has no endless loop, and every call it may make satisfies `ok`. -/
abbrev Only (ok : C → Prop) (p : Prog C R α) : Prop := p.Calls ok False

/-- Every call the program may make satisfies `ok`. -/
abbrev Within (ok : C → Prop) (p : Prog C R α) : Prop := p.Calls ok True

section Calls

variable {ok ok' : C → Prop} {endless endless' : Prop}

/-- Returning a value makes no call. -/
@[simp] lemma calls_pure (a : α) : (pure a : Prog C R α).Calls ok endless := trivial

/-- Running out of fuel. -/
@[simp] lemma calls_spent : (spent : Prog C R α).Calls ok endless ↔ endless := Iff.rfl

/-- A single call. -/
@[simp] lemma calls_perform (c : C) :
    (perform c : Prog C R (R c)).Calls ok endless ↔ ok c :=
  and_iff_left fun _ => trivial

/-- A call and what follows it. -/
lemma calls_call (c : C) (k : R c → Prog C R α) :
    (call c k).Calls ok endless ↔ ok c ∧ ∀ r, (k r).Calls ok endless := Iff.rfl

/-- A sequence makes the calls of its parts. -/
lemma Calls.bind {p : Prog C R α} {f : α → Prog C R β} (hp : p.Calls ok endless)
    (hf : ∀ a, (f a).Calls ok endless) : (p >>= f).Calls ok endless := by
  change (p.bind f).Calls ok endless
  induction p with
  | ret a => exact hf a
  | spent => exact hp
  | call c k ih => exact ⟨hp.1, fun r => ih r (hp.2 r)⟩

-- From here on the rules are the interface.
attribute [irreducible] Calls

/-- A branch makes the calls of either side. -/
lemma Calls.ite {c : Prop} [Decidable c] {p q : Prog C R α} (hp : p.Calls ok endless)
    (hq : q.Calls ok endless) : (if c then p else q).Calls ok endless := by
  split_ifs
  · exact hp
  · exact hq

/-- A weaker condition on the calls. -/
lemma Calls.mono {p : Prog C R α} (hp : p.Calls ok endless) (hok : ∀ c, ok c → ok' c)
    (hendless : endless → endless') : p.Calls ok' endless' := by
  induction p with
  | ret a => exact calls_pure a
  | spent => exact calls_spent.2 (hendless (calls_spent.1 hp))
  | call c k ih =>
    rw [calls_call] at hp ⊢
    exact ⟨hok c hp.1, fun r => ih r (hp.2 r)⟩

/-- A program without endless loops, with a weaker condition on the calls. -/
lemma Only.mono {p : Prog C R α} (hp : p.Only ok) (hok : ∀ c, ok c → ok' c) :
    p.Calls ok' endless := Calls.mono hp hok False.elim

/-- Every program makes calls. -/
lemma within_true (p : Prog C R α) : p.Within fun _ => True := by
  induction p with
  | ret a => exact calls_pure a
  | spent => exact calls_spent.2 trivial
  | call c k ih => exact (calls_call c k).2 ⟨trivial, ih⟩

/-- A `while (1)` makes the calls of its body. -/
lemma Within.loop {body : σ → Prog C R (σ ⊕ α)} (hbody : ∀ s, (body s).Within ok)
    (fuel : ℕ) (s : σ) : (Prog.loop body fuel s).Within ok := by
  induction fuel generalizing s with
  | zero => exact calls_spent.2 trivial
  | succ fuel ih =>
    refine Calls.bind (hbody s) fun r => ?_
    cases r with
    | inl s' => exact ih s'
    | inr a => exact calls_pure a

/-- A `for` loop makes the calls of its body. -/
lemma Calls.forRange {body : ℕ → σ → Prog C R σ} (hbody : ∀ i s, (body i s).Calls ok endless)
    (n : ℕ) (s : σ) : (Prog.forRange body n s).Calls ok endless := by
  induction n with
  | zero => exact calls_pure s
  | succ n ih => exact Calls.bind ih (hbody n)

/-- A `for` loop with a way out makes the calls of its body. -/
lemma Calls.forUntil {body : ℕ → σ → Prog C R (Option σ)}
    (hbody : ∀ i s, (body i s).Calls ok endless) (n : ℕ) (s : σ) :
    (Prog.forUntil body n s).Calls ok endless := by
  induction n with
  | zero => exact calls_pure _
  | succ n ih =>
    refine Calls.bind ih fun r => ?_
    cases r with
    | none => exact calls_pure _
    | some s' => exact hbody n s'

end Calls

/-! ## Runs -/

/-- **The run of a program** from the history `h`: what it returns, or `none` where the fuel of
a loop is used up, and the history it ends with. -/
def run (env : Env C R) : Prog C R α → Hist C R → Option α × Hist C R
  | ret a, h => (some a, h)
  | spent, h => (none, h)
  | call c k, h => (k (env h c)).run env (⟨c, env h c⟩ :: h)

variable (env : Env C R)

/-- Returning a value adds nothing to the history. -/
@[simp] lemma run_pure (a : α) (h : Hist C R) :
    (pure a : Prog C R α).run env h = (some a, h) := rfl

/-- A program out of fuel stays where it is. -/
@[simp] lemma run_spent (h : Hist C R) : (spent : Prog C R α).run env h = (none, h) := rfl

/-- A single call returns the environment's answer and records it. -/
@[simp] lemma run_perform (c : C) (h : Hist C R) :
    (perform c : Prog C R (R c)).run env h = (some (env h c), ⟨c, env h c⟩ :: h) := rfl

/-- **A sequence** runs its first part and, if that returned, its second part from there.

**Proof sketch.** Induction on the first program; a call answers the same in both. -/
lemma run_bind (p : Prog C R α) (f : α → Prog C R β) (h : Hist C R) :
    (p >>= f).run env h =
      match p.run env h with
      | (some a, h') => (f a).run env h'
      | (none, h') => (none, h') := by
  change (p.bind f).run env h = _
  induction p generalizing h with
  | ret a => rfl
  | spent => rfl
  | call c k ih => exact ih (env h c) _

/-- The run of a branch. -/
lemma run_ite (c : Prop) [Decidable c] (p q : Prog C R α) (h : Hist C R) :
    (if c then p else q).run env h = if c then p.run env h else q.run env h := by
  split_ifs <;> rfl

/-- A sequence whose first part is known to return. -/
lemma run_bind_of_some {p : Prog C R α} {f : α → Prog C R β} {h h' : Hist C R} {a : α}
    (hp : p.run env h = (some a, h')) : (p >>= f).run env h = (f a).run env h' := by
  rw [run_bind, hp]

/-- A sequence that returns is two programs that return. -/
lemma run_bind_eq_some {p : Prog C R α} {f : α → Prog C R β} {h h'' : Hist C R} {b : β} :
    (p >>= f).run env h = (some b, h'') ↔
      ∃ a h', p.run env h = (some a, h') ∧ (f a).run env h' = (some b, h'') := by
  rw [run_bind]
  constructor
  · intro hrun
    rcases hp : p.run env h with ⟨_ | a, h'⟩
    · rw [hp] at hrun
      cases hrun
    · rw [hp] at hrun
      exact ⟨a, h', rfl, hrun⟩
  · intro hparts
    obtain ⟨a, h', hp, hf⟩ := hparts
    rw [hp]
    exact hf

/-- The run of the first passes of a `while (1)` that all go on.

**Proof sketch.** Induction on the number of passes, the invariant moving up with the first. -/
lemma run_passes {body : σ → Prog C R (σ ⊕ α)} {I : ℕ → σ → Hist C R → Prop} (n : ℕ)
    (hstep : ∀ i < n, ∀ s h, I i s h →
      ∃ s' h', (body s).run env h = (some (.inl s'), h') ∧ I (i + 1) s' h')
    {s : σ} {h : Hist C R} (hI : I 0 s h) :
    ∃ s' h', (passes body n s).run env h = (some (.inl s'), h') ∧ I n s' h' := by
  induction n generalizing I s h with
  | zero => exact ⟨s, h, rfl, hI⟩
  | succ n ih =>
    obtain ⟨s', h', hrun, hI'⟩ := hstep 0 (by omega) s h hI
    obtain ⟨t, h'', hrest, ht⟩ :=
      ih (I := fun i => I (i + 1)) (fun i hi => hstep (i + 1) (by omega)) hI'
    refine ⟨t, h'', ?_, ht⟩
    unfold passes
    rw [run_bind_of_some env hrun]
    exact hrest

/-- **A run only adds to the history.** -/
lemma run_extends (p : Prog C R α) (h : Hist C R) : h <:+ (p.run env h).2 := by
  induction p generalizing h with
  | ret a => exact List.suffix_rfl
  | spent => exact List.suffix_rfl
  | call c k ih => exact (List.suffix_cons _ h).trans (ih (env h c) _)

/-- What every answered call preserves holds after every run. -/
lemma run_invariant {I : Hist C R → Prop} (hI : ∀ h c, I h → I (⟨c, env h c⟩ :: h))
    (p : Prog C R α) {h : Hist C R} (hh : I h) : I (p.run env h).2 := by
  induction p generalizing h with
  | ret a => exact hh
  | spent => exact hh
  | call c k ih => exact ih (env h c) (hI h c hh)

/-- The run of the first part of a sequence is the beginning of the run of the sequence. -/
lemma run_bind_extends (p : Prog C R α) (f : α → Prog C R β) (h : Hist C R) :
    (p.run env h).2 <:+ ((p >>= f).run env h).2 := by
  rw [run_bind]
  rcases p.run env h with ⟨_ | a, h'⟩
  · exact List.suffix_rfl
  · exact run_extends env (f a) h'

end Prog

end Effects
