import Mathlib.Data.List.Basic
import Mathlib.Tactic.Lemma

set_option relaxedAutoImplicit false
set_option autoImplicit false

/-!
# Properties of histories

A history is a list of events, whatever the events are, with the most recent one first: the
part of the list behind an event is the event's past.

## Main definitions

* `Effects.Always` — every event of a history stands in a given relation to its past.
* `Effects.occurrences` — how many events of a history satisfy a test.

## Main results

* `Effects.always_iff` — `Always` in terms of the places of a history.
* `Effects.of_suffix` — what every event preserves holds of every later history.
-/

namespace Effects

variable {E : Type}

/-- Every event of the history satisfies `P` together with its past. -/
def Always (P : E → List E → Prop) : List E → Prop
  | [] => True
  | e :: past => P e past ∧ Always P past

/-- The empty history has no event to check. -/
@[simp] lemma always_nil (P : E → List E → Prop) : Always P [] := trivial

/-- The most recent event is checked against the rest of the history. -/
@[simp] lemma always_cons (P : E → List E → Prop) (e : E) (past : List E) :
    Always P (e :: past) ↔ P e past ∧ Always P past := Iff.rfl

/-- **`Always`, place by place**: at every place where the history can be cut into an event,
its past and what came later, the event satisfies `P`.

**Proof sketch.** Induction on the history. A cut has the most recent event at its place, or
it is a cut of the past. -/
theorem always_iff (P : E → List E → Prop) (h : List E) :
    Always P h ↔ ∀ later e past, h = later ++ e :: past → P e past := by
  induction h with
  | nil => simp
  | cons e' h ih =>
    constructor
    · rintro ⟨he, hrest⟩ later e past heq
      rcases List.cons_eq_append_iff.1 heq with ⟨-, heq⟩ | ⟨later', -, heq⟩
      · obtain ⟨rfl, rfl⟩ := List.cons.inj heq
        exact he
      · exact ih.1 hrest later' e past heq
    · intro hcut
      refine ⟨hcut [] e' h rfl, ih.2 fun later e past heq => ?_⟩
      exact hcut (e' :: later) e past (by rw [heq]; rfl)

/-- A property of the events of a history holds of every earlier history. -/
lemma Always.of_append {P : E → List E → Prop} {later past : List E}
    (h : Always P (later ++ past)) : Always P past := by
  induction later with
  | nil => exact h
  | cons e later ih => exact ih h.2

/-- A property of events that follows from another one. -/
lemma Always.imp {P Q : E → List E → Prop} (hPQ : ∀ e past, P e past → Q e past) {h : List E}
    (hall : Always P h) : Always Q h := by
  induction h with
  | nil => trivial
  | cons e past ih => exact ⟨hPQ e past hall.1, ih hall.2⟩

/-- What holds of the events of a history as they are viewed holds of the view. -/
lemma Always.filterMap {F : Type} {P : F → List F → Prop} {view : E → Option F} {h : List E}
    (hall : Always (fun e past => ∀ a, view e = some a → P a (past.filterMap view)) h) :
    Always P (h.filterMap view) := by
  induction h with
  | nil => trivial
  | cons e past ih =>
    rw [List.filterMap_cons]
    cases hview : view e with
    | none => exact ih hall.2
    | some a => exact ⟨hall.1 a hview, ih hall.2⟩

/-- What every event preserves holds of every later history. -/
lemma of_suffix {T : List E → Prop} (hT : ∀ e h, T h → T (e :: h)) {past h : List E}
    (hsuffix : past <:+ h) (hpast : T past) : T h := by
  obtain ⟨later, rfl⟩ := hsuffix
  induction later with
  | nil => exact hpast
  | cons e later ih => exact hT e _ ih

/-- No event makes up for an earlier one that does not satisfy `P`. -/
lemma not_always_cons {P : E → List E → Prop} (e : E) (h : List E)
    (hno : ¬ Always P h) : ¬ Always P (e :: h) := fun hall => hno hall.2

/-- How many events of the history satisfy the test. -/
def occurrences (test : E → Bool) (h : List E) : ℕ := h.countP test

/-- The empty history contains no event. -/
@[simp] lemma occurrences_nil (test : E → Bool) : occurrences test [] = 0 := rfl

/-- The most recent event counts if it passes the test. -/
@[simp] lemma occurrences_cons (test : E → Bool) (e : E) (past : List E) :
    occurrences test (e :: past) = occurrences test past + if test e then 1 else 0 := by
  simp [occurrences, List.countP_cons]

end Effects
