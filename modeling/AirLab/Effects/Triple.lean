import AirLab.Effects.Prog

set_option relaxedAutoImplicit false
set_option autoImplicit false

/-!
# Triples for programs that call their environment

`Effects.Prog.wp env p Q S h` says what holds of the run of `p` from the history `h`: where the
run returns, `Q` holds of the value and of the final history; where the fuel of a loop is used
up, `S` holds of the history reached. The rules compose along sequences and loops, so that a
proof about a program follows the text of the program.

## Main definitions

* `Effects.Prog.wp` — the weakest precondition.
* `Effects.Prog.Since` — a history that continues another one with calls of a given kind.
* `Effects.Prog.Triple` — from every history with `P`, the run satisfies `Q` or `S`.

## Main results

* `Effects.Prog.wp_bind` — the rule of sequences.
* `Effects.Prog.Triple.loop` — the invariant rule of `while (1)`.
* `Effects.Prog.Triple.forRange` — the invariant rule of `for (i = 0; i < n; i++)`.
-/

namespace Effects

namespace Prog

variable {C : Type} {R : C → Type} {α β σ : Type} (env : Env C R)

/-- The run of `p` from `h` returns a value and a history with `Q`, or it uses up its fuel at
a history with `S`. -/
def wp (p : Prog C R α) (Q : α → Hist C R → Prop) (S : Hist C R → Prop) (h : Hist C R) : Prop :=
  match p.run env h with
  | (some a, h') => Q a h'
  | (none, h') => S h'

/-- From every history with `P`, the run of `p` ends with `Q`, or it uses up its fuel at a
history with `S`. -/
def Triple (P : Hist C R → Prop) (p : Prog C R α) (Q : α → Hist C R → Prop)
    (S : Hist C R → Prop) : Prop :=
  ∀ h, P h → p.wp env Q S h

variable {env} {P P' : Hist C R → Prop} {Q Q' : α → Hist C R → Prop} {S S' : Hist C R → Prop}
  {h : Hist C R}

/-! ## Straight-line programs -/

/-- Returning a value. -/
@[simp] lemma wp_pure (a : α) : (pure a : Prog C R α).wp env Q S h ↔ Q a h := Iff.rfl

/-- Running out of fuel. -/
@[simp] lemma wp_spent : (spent : Prog C R α).wp env Q S h ↔ S h := Iff.rfl

/-- A single call. -/
@[simp] lemma wp_perform (c : C) (Q : R c → Hist C R → Prop) :
    (perform c).wp env Q S h ↔ Q (env h c) (⟨c, env h c⟩ :: h) := Iff.rfl

/-- **The rule of sequences.** -/
@[simp] lemma wp_bind (p : Prog C R α) (f : α → Prog C R β) (Q : β → Hist C R → Prop) :
    (p >>= f).wp env Q S h ↔ p.wp env (fun a h' => (f a).wp env Q S h') S h := by
  unfold wp
  rw [run_bind]
  rcases p.run env h with ⟨_ | a, h'⟩ <;> rfl

/-- A branch. -/
lemma wp_ite (c : Prop) [Decidable c] (p q : Prog C R α) :
    (if c then p else q).wp env Q S h ↔ if c then p.wp env Q S h else q.wp env Q S h := by
  split_ifs <;> rfl

/-- A program whose run is known. -/
lemma wp_of_run {p : Prog C R α} {a : α} {h' : Hist C R} (hp : p.run env h = (some a, h')) :
    p.wp env Q S h ↔ Q a h' := by
  unfold wp
  rw [hp]

/-- What holds of the run of `p`, said of a run that returned. -/
lemma wp.of_some {p : Prog C R α} {a : α} {h' : Hist C R} (hw : p.wp env Q S h)
    (hp : p.run env h = (some a, h')) : Q a h' :=
  (wp_of_run hp).1 hw

/-- A postcondition that implies what is wanted of either ending. -/
lemma wp.mono {p : Prog C R α} (hw : p.wp env Q S h) (hQ : ∀ a h', Q a h' → Q' a h')
    (hS : ∀ h', S h' → S' h') : p.wp env Q' S' h := by
  unfold wp at hw ⊢
  rcases hp : p.run env h with ⟨_ | a, h'⟩
  · rw [hp] at hw
    exact hS h' hw
  · rw [hp] at hw
    exact hQ a h' hw

/-- Two things that hold of the run of `p` hold together. -/
lemma wp.and {p : Prog C R α} (hw : p.wp env Q S h) (hw' : p.wp env Q' S' h) :
    p.wp env (fun a h' => Q a h' ∧ Q' a h') (fun h' => S h' ∧ S' h') h := by
  unfold wp at hw hw' ⊢
  rcases hp : p.run env h with ⟨_ | a, h'⟩ <;> rw [hp] at hw hw' <;> exact ⟨hw, hw'⟩

/-- What holds of the run of `p`, together with what the run is. -/
lemma wp.and_run {p : Prog C R α} (hw : p.wp env Q S h) :
    p.wp env (fun a h' => Q a h' ∧ p.run env h = (some a, h')) S h := by
  unfold wp at hw ⊢
  rcases hp : p.run env h with ⟨_ | a, h'⟩
  · rw [hp] at hw
    exact hw
  · rw [hp] at hw
    exact ⟨hw, rfl⟩

/-- What holds of either ending holds of the history the run ends with. -/
lemma wp.final {p : Prog C R α} {I : Hist C R → Prop} (hw : p.wp env (fun _ => I) I h) :
    I (p.run env h).2 := by
  unfold wp at hw
  rcases hp : p.run env h with ⟨_ | a, h'⟩ <;> rw [hp] at hw <;> exact hw

/-- The history `h` continues `h₀` with calls of a given kind. -/
def Since (ok : C → Prop) (h₀ h : Hist C R) : Prop := ∃ es, h = es ++ h₀ ∧ ∀ e ∈ es, ok e.call

/-- Nothing has been added yet. -/
lemma Since.refl (ok : C → Prop) (h₀ : Hist C R) : Since ok h₀ h₀ :=
  ⟨[], rfl, fun _ he => absurd he (List.not_mem_nil)⟩

/-- One more call. -/
lemma Since.cons {ok : C → Prop} {h₀ h : Hist C R} (hh : Since ok h₀ h) (e : Event C R)
    (he : ok e.call) : Since ok h₀ (e :: h) := by
  obtain ⟨es, rfl, hes⟩ := hh
  exact ⟨e :: es, rfl, List.forall_mem_cons.2 ⟨he, hes⟩⟩

-- The rules above are the interface: no tactic should compute a run on its own.
attribute [irreducible] wp

namespace Triple

/-- Strengthening the precondition and weakening the postconditions. -/
lemma mono {p : Prog C R α} (ht : Triple env P p Q S) (hP : ∀ h, P' h → P h)
    (hQ : ∀ a h, Q a h → Q' a h) (hS : ∀ h, S h → S' h) : Triple env P' p Q' S' :=
  fun h hh => (ht h (hP h hh)).mono hQ hS

/-- Returning a value. -/
lemma pure {a : α} (hPQ : ∀ h, P h → Q a h) : Triple env P (Pure.pure a) Q S :=
  fun h hh => (wp_pure a).2 (hPQ h hh)

/-- A single call. -/
lemma perform {c : C} {Q : R c → Hist C R → Prop}
    (hPQ : ∀ h, P h → Q (env h c) (⟨c, env h c⟩ :: h)) : Triple env P (Prog.perform c) Q S :=
  fun h hh => (wp_perform c Q).2 (hPQ h hh)

/-- **Sequential composition.** -/
lemma bind {p : Prog C R α} {f : α → Prog C R β} {T : β → Hist C R → Prop}
    (hp : Triple env P p Q S) (hf : ∀ a, Triple env (Q a) (f a) T S) :
    Triple env P (p >>= f) T S := by
  intro h hh
  rw [wp_bind]
  exact (hp h hh).mono (fun a h' hQ => hf a h' hQ) fun _ hS => hS

/-! ## Loops -/

/-- **The invariant rule of `while (1)`**: an iteration that goes on re-establishes the
invariant for the new loop variables, an iteration that breaks out establishes the
postcondition.

**Proof sketch.** Induction on the fuel; without fuel the loop stops at a history with the
invariant. -/
lemma loop {body : σ → Prog C R (σ ⊕ α)} {I : σ → Hist C R → Prop}
    (hbody : ∀ s, Triple env (I s) (body s) (fun r => r.elim I Q) S)
    (hS : ∀ s h, I s h → S h) (fuel : ℕ) (s : σ) :
    Triple env (I s) (Prog.loop body fuel s) Q S := by
  induction fuel generalizing s with
  | zero => exact fun h hI => wp_spent.2 (hS s h hI)
  | succ fuel ih =>
    refine Triple.bind (hbody s) fun r => ?_
    cases r with
    | inl s' => exact ih s'
    | inr a => exact Triple.pure fun h hQ => hQ

/-- **The rule of a `while (1)` that ends**: a pass that goes on lowers the variant, so only a
fuel below the variant can be used up.

**Proof sketch.** Induction on the fuel; its distance to the variant never grows. -/
lemma loop_variant {body : σ → Prog C R (σ ⊕ α)} {I : σ → Hist C R → Prop} (v : σ → ℕ)
    (hbody : ∀ s, Triple env (I s) (body s)
      (fun r h => r.elim (fun s' => I s' h ∧ v s' < v s) fun a => Q a h) S)
    {fuel : ℕ} {s : σ} (hpos : ∀ s h, I s h → 0 < v s)
    (hS : fuel < v s → ∀ s h, I s h → S h) :
    Triple env (I s) (Prog.loop body fuel s) Q S := by
  induction fuel generalizing s with
  | zero => exact fun h hI => wp_spent.2 (hS (hpos s h hI) s h hI)
  | succ fuel ih =>
    refine Triple.bind (hbody s) fun r => ?_
    cases r with
    | inl s' =>
      intro h hh
      obtain ⟨hI, hlt⟩ := hh
      exact ih (fun hlow => hS (by omega)) h hI
    | inr a => exact Triple.pure fun h hQ => hQ

/-- **The rule of the first passes of a `while (1)`**: pass `i < n` takes the invariant from `i`
to `i + 1`, or breaks out with the postcondition.

**Proof sketch.** Induction on `n`, the invariant moving up with each pass. -/
lemma passes {body : σ → Prog C R (σ ⊕ α)} {I : ℕ → σ → Hist C R → Prop} (n : ℕ)
    (hbody : ∀ i < n, ∀ s, Triple env (I i s) (body s)
      (fun r h => r.elim (fun s' => I (i + 1) s' h) fun a => Q a h) S) (s : σ) :
    Triple env (I 0 s) (Prog.passes body n s)
      (fun r h => r.elim (fun s' => I n s' h) fun a => Q a h) S := by
  induction n generalizing I s with
  | zero => exact Triple.pure fun h hI => hI
  | succ n ih =>
    refine Triple.bind (hbody 0 (by omega) s) fun r => ?_
    cases r with
    | inl s' => exact ih (I := fun i => I (i + 1)) (fun i hi => hbody (i + 1) (by omega)) s'
    | inr a => exact Triple.pure fun h hQ => hQ

/-- **The first passes of a `while (1)`**: where `n` passes go on, the loop does what it does
from there on. -/
lemma loop_passes {body : σ → Prog C R (σ ⊕ α)} {I : ℕ → σ → Hist C R → Prop} {fuel : ℕ} (n : ℕ)
    (hbody : ∀ i < n, ∀ s, Triple env (I i s) (body s)
      (fun r h => r.elim (fun s' => I (i + 1) s' h) fun _ => False) S)
    (hrest : ∀ s, Triple env (I n s) (Prog.loop body fuel s) Q S) (s : σ) :
    Triple env (I 0 s) (Prog.loop body (n + fuel) s) Q S := by
  rw [loop_add]
  refine Triple.bind (Triple.passes (Q := fun _ _ => False) n hbody s) fun r => ?_
  cases r with
  | inl s' => exact hrest s'
  | inr a => exact fun h hf => hf.elim

/-- **The invariant rule of `for (i = 0; i < n; i++)`**: iteration `i < n` takes the invariant
from `i` to `i + 1`.

**Proof sketch.** Induction on `n`, the last iteration being `n - 1`. -/
lemma forRange {body : ℕ → σ → Prog C R σ} {I : ℕ → σ → Hist C R → Prop} (n : ℕ)
    (hbody : ∀ i < n, ∀ s, Triple env (I i s) (body i s) (I (i + 1)) S) (s : σ) :
    Triple env (I 0 s) (Prog.forRange body n s) (I n) S := by
  induction n with
  | zero => exact Triple.pure fun h hI => hI
  | succ n ih => exact Triple.bind (ih fun i hi => hbody i (by omega)) (hbody n (by omega))

/-- **The invariant rule of `for (i = 0; i < n; i++)` with a way out**: an iteration that goes on
takes the invariant from `i` to `i + 1`, an iteration that leaves establishes `N`.

**Proof sketch.** Induction on `n`; after an iteration that left, the loop does nothing. -/
lemma forUntil {body : ℕ → σ → Prog C R (Option σ)} {I : ℕ → σ → Hist C R → Prop}
    {N : Hist C R → Prop} (n : ℕ)
    (hbody : ∀ i < n, ∀ s, Triple env (I i s) (body i s)
      (fun r h => r.elim (N h) fun s' => I (i + 1) s' h) S) (s : σ) :
    Triple env (I 0 s) (Prog.forUntil body n s)
      (fun r h => r.elim (N h) fun s' => I n s' h) S := by
  induction n with
  | zero => exact Triple.pure fun h hI => hI
  | succ n ih =>
    refine Triple.bind (ih fun i hi => hbody i (by omega)) fun r => ?_
    cases r with
    | none => exact Triple.pure fun h hN => hN
    | some s' => exact hbody n (by omega) s'

/-! ## Programs seen from outside -/

/-- What every call of a given kind preserves, a program of such calls preserves. -/
lemma of_calls {ok : C → Prop} {endless : Prop} {I : Hist C R → Prop}
    (hI : ∀ e h, ok e.call → I h → I (e :: h)) (hS : endless → ∀ h, I h → S h)
    {p : Prog C R α} (hp : p.Calls ok endless) : Triple env I p (fun _ => I) S := by
  intro h hh
  induction p generalizing h with
  | ret a => exact (wp_pure a).2 hh
  | spent => exact wp_spent.2 (hS (calls_spent.1 hp) h hh)
  | call c k ih =>
    rw [calls_call] at hp
    have hrest := ih (env h c) (hp.2 _) (⟨c, env h c⟩ :: h) (hI _ h hp.1 hh)
    exact (wp_bind (Prog.perform c) k _).2 ((wp_perform c _).2 hrest)

/-- A program without endless loops also returns. -/
lemma of_only {ok : C → Prop} {I : Hist C R → Prop}
    (hI : ∀ e h, ok e.call → I h → I (e :: h)) {p : Prog C R α} (hp : p.Only ok) :
    Triple env I p (fun _ => I) S :=
  of_calls hI False.elim hp

/-- A program adds calls of its kind to the history. -/
lemma since {ok : C → Prop} {endless : Prop} {h₀ : Hist C R} {p : Prog C R α}
    (hp : p.Calls ok endless) :
    Triple env (Since ok h₀) p (fun _ => Since ok h₀) (Since ok h₀) :=
  of_calls (fun e _ he hh => hh.cons e he) (fun _ _ hh => hh) hp

/-- What every event preserves, every program preserves. -/
lemma of_stable {I : Hist C R → Prop} (hI : ∀ e h, I h → I (e :: h)) (p : Prog C R α) :
    Triple env I p (fun _ => I) I :=
  of_calls (fun e h _ => hI e h) (fun _ _ h => h) p.within_true

end Triple

/-- A program that cannot use up its fuel returns. -/
lemma wp.returns {p : Prog C R α} (hw : p.wp env Q (fun _ => False) h) :
    ∃ a h', p.run env h = (some a, h') ∧ Q a h' := by
  unfold wp at hw
  rcases hp : p.run env h with ⟨_ | a, h'⟩
  · rw [hp] at hw
    exact hw.elim
  · rw [hp] at hw
    exact ⟨a, h', rfl, hw⟩

end Prog

end Effects
