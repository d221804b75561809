import Mathlib.Data.List.Induction
import AirLab.Effects.Interleave
import AirLab.Effects.Mailbox

set_option relaxedAutoImplicit false
set_option autoImplicit false

/-!
# Pairs of calls that cannot be broken up

A program that follows every marked call at once with a certain next call makes the two
together: where neither of them blocks, no other thread runs between them. A producer whose
items are made and published in such a pair is never seen with an item that is not published.

## Main definitions

* `Effects.Prog.Starts`, `Effects.Prog.Pairs` — how a program begins, and what follows its marked
  calls.
* `Effects.MailEvent.pending`, `Effects.MailEvent.Prompt` — an item that is made and not yet
  published, and a producer with at most one of them.

## Main results

* `Effects.System.always_unbroken` — after a marked call, the next call of all threads is the
  thread's own.
* `Effects.MailEvent.content_eq` — the mailbox holds the latest item, or the one before while
  the latest is pending.
-/

namespace Effects

variable {ι C : Type} {R : C → Type} {α β σ : Type} {mark next : C → Prop}

/-! ## Programs -/

namespace Prog

/-- The program begins with a call of a certain kind. -/
def Starts (next : C → Prop) : Prog C R α → Prop
  | .call c _ => next c
  | _ => False

/-- After every marked call the program goes on at once with a next call. -/
def Pairs (mark next : C → Prop) : Prog C R α → Prop
  | .call c k => ∀ r, (mark c → (k r).Starts next) ∧ (k r).Pairs mark next
  | _ => True

/-- The first part of a sequence begins it. -/
lemma Starts.bind {p : Prog C R α} (hp : p.Starts next) (f : α → Prog C R β) :
    (p >>= f).Starts next := by
  cases p with
  | call c k => exact hp
  | ret a => exact hp.elim
  | spent => exact hp.elim

/-- A program that begins with a call that does not block is quiet. -/
lemma Starts.quiet {blocks : C → Bool} (hnext : ∀ c, next c → blocks c = false)
    {p : Prog C R α} (hp : p.Starts next) : p.quiet blocks = true := by
  cases p with
  | call c k =>
    have hc : blocks c = false := hnext c hp
    simp [Prog.quiet, hc]
  | ret a => exact hp.elim
  | spent => exact hp.elim

/-- Returning a value. -/
@[simp] lemma pairs_pure (a : α) : (pure a : Prog C R α).Pairs mark next := trivial

/-- Running out of fuel. -/
@[simp] lemma pairs_spent : (spent : Prog C R α).Pairs mark next := trivial

/-- A sequence of parts that keep their pairs together. -/
lemma Pairs.bind {p : Prog C R α} {f : α → Prog C R β} (hp : p.Pairs mark next)
    (hf : ∀ a, (f a).Pairs mark next) : (p >>= f).Pairs mark next := by
  change (p.bind f).Pairs mark next
  induction p with
  | ret a => exact hf a
  | spent => trivial
  | call c k ih => exact fun r => ⟨fun hc => ((hp r).1 hc).bind f, ih r (hp r).2⟩

/-- A marked call with what follows it at once. -/
lemma Pairs.pair {c : C} {f : R c → Prog C R β} (hstarts : ∀ r, (f r).Starts next)
    (hf : ∀ r, (f r).Pairs mark next) : (perform c >>= f).Pairs mark next :=
  fun r => ⟨fun _ => hstarts r, hf r⟩

/-- A program without marked calls has no pairs. -/
lemma Pairs.of_calls {endless : Prop} {p : Prog C R α}
    (hp : p.Calls (fun c => ¬ mark c) endless) : p.Pairs mark next := by
  induction p with
  | ret a => trivial
  | spent => trivial
  | call c k ih =>
    rw [calls_call] at hp
    exact fun r => ⟨fun hc => absurd hc hp.1, ih r (hp.2 r)⟩

/-- A `for` loop whose body keeps its pairs together. -/
lemma Pairs.forRange {body : ℕ → σ → Prog C R σ} (hbody : ∀ i s, (body i s).Pairs mark next)
    (n : ℕ) (s : σ) : (Prog.forRange body n s).Pairs mark next := by
  induction n with
  | zero => exact pairs_pure s
  | succ n ih => exact Pairs.bind ih (hbody n)

end Prog

/-! ## Threads -/

namespace System

variable [DecidableEq ι] {blocks : C → Bool} {env : JointEnv ι C R}

/-- What is left of a program along a path still keeps its pairs together, and after a marked
call it begins with the next one. -/
lemma pairs_path {p q : Prog C R α} {h : Hist C R} (hpath : Path p [] q h)
    (hp : p.Pairs mark next) : q.Pairs mark next ∧
      ∀ e rest, h = e :: rest → mark e.call → q.Starts next := by
  induction hpath with
  | refl => exact ⟨hp, by simp⟩
  | @answer c k h r _ ih =>
    obtain ⟨hpairs, -⟩ := ih
    refine ⟨(hpairs r).2, fun e rest heq hmark => ?_⟩
    obtain ⟨rfl, -⟩ := List.cons.inj heq
    exact (hpairs r).1 hmark

/-- A thread between two calls that do not block has the turn. -/
lemma turn_of_quiet (prog : ι → Prog C R Unit) (schedule : List ι) {i : ι} {e : Event C R}
    {rest : Hist C R}
    (hquiet : ((run blocks env (init prog) schedule).prog i).quiet blocks = true)
    (hown : own i (run blocks env (init prog) schedule).hist = e :: rest)
    (he : blocks e.call = false) : (run blocks env (init prog) schedule).turn = some i := by
  refine run_invariant (I := fun s => ∀ i e rest, (s.prog i).quiet blocks = true →
    own i s.hist = e :: rest → blocks e.call = false → s.turn = some i) ?_
    (init prog) (fun i e rest _ hown => by simp [init] at hown) schedule i e rest hquiet hown he
  intro s j hturn
  rcases step_cases blocks env s j with hstay | ⟨c, k, hprog, hfree, hgo⟩
  · rw [hstay]
    exact hturn
  rw [hgo]
  intro i e rest hquiet hown he
  by_cases hij : i = j
  · subst hij
    simp only [own_cons_self, List.cons.injEq] at hown
    obtain ⟨rfl, -⟩ := hown
    simp only [Function.update_self] at hquiet
    have hc : blocks c = false := he
    simp [hc, hquiet]
  · simp only [Function.update_of_ne hij, own_cons_of_ne (Ne.symm hij)] at hquiet hown
    have hlock := hturn i e rest hquiet hown he
    rcases hfree with hnone | hsome
    · simp [hlock] at hnone
    · simp only [hlock, Option.some.injEq] at hsome
      exact absurd hsome hij

/-- **A pair of calls is not broken up.** After a marked call of a thread, the next call of all
threads is the thread's own, and one of the next ones.

**Proof sketch.** After the marked call the thread's program begins with a next call. Neither
call blocks, so the thread has the turn and no other thread can make a step. -/
theorem always_unbroken {prog : ι → Prog C R Unit} {i : ι} (hp : (prog i).Pairs mark next)
    (hmark : ∀ c, mark c → blocks c = false) (hnext : ∀ c, next c → blocks c = false)
    (schedule : List ι) :
    Always (fun e past => ∀ e' rest, own i past = e' :: rest → mark e'.call →
      e.1 = i ∧ next e.2.call) (run blocks env (init prog) schedule).hist := by
  induction schedule using List.reverseRecOn with
  | nil => trivial
  | append_singleton schedule j ih =>
    have hrun : run blocks env (init prog) (schedule ++ [j]) =
        step blocks env (run blocks env (init prog) schedule) j := by
      simp [run]
    rw [hrun]
    rcases step_cases blocks env (run blocks env (init prog) schedule) j with
      hstay | ⟨c, k, hprog, hfree, hgo⟩
    · rw [hstay]
      exact ih
    rw [hgo]
    refine ⟨fun e' rest hown he' => ?_, ih⟩
    have hstarts := (pairs_path (path_own prog schedule i) hp).2 e' rest hown he'
    have hlock := turn_of_quiet prog schedule (hstarts.quiet hnext) hown (hmark _ he')
    obtain rfl : j = i := by
      rcases hfree with hnone | hsome
      · simp [hlock] at hnone
      · simpa [hlock, eq_comm] using hsome
    rw [hprog] at hstarts
    exact ⟨rfl, hstarts⟩

end System

/-! ## The mailbox -/

namespace MailEvent

variable {M : Type} {empty : M}

/-- Whether the latest item is not yet published. -/
def pending : List (MailEvent M) → Bool
  | [] => false
  | produce _ :: _ => true
  | publish _ :: _ => false
  | send _ :: past => pending past

/-- An item is made only when the one before has been published. -/
def Prompt : MailEvent M → List (MailEvent M) → Prop
  | produce _, past => pending past = false
  | _, _ => True

/-- **The mailbox is at most one item behind.** It holds the latest item, and while that is
pending the item before.

**Proof sketch.** Induction on the history. An item that is made was preceded by a published
one, which the mailbox still holds. -/
theorem content_eq {h : List (MailEvent M)} (hall : Always (Orderly empty) h)
    (hprompt : Always Prompt h) :
    content empty h = ((produced h).drop (pending h).toNat).headD empty := by
  induction h with
  | nil => rfl
  | cons e past ih =>
    have hpast := ih hall.2 hprompt.2
    cases e with
    | produce m =>
      have hpending : pending past = false := hprompt.1
      simpa [content, produced, pending, hpending] using hpast
    | publish m =>
      have hhead : (produced past).head? = some m := hall.1
      simp [content, produced, pending, List.headD_eq_head?_getD, hhead]
    | send m => exact hpast

end MailEvent

end Effects
