import Mathlib.Data.List.Forall2
import AirLab.Effects.History

set_option relaxedAutoImplicit false
set_option autoImplicit false

/-!
# A journal

A producer makes texts one after another and appends each of them to a journal before it makes
the next one. The medium may take less than the whole text, and reports how much it took.
Whatever it takes, the journal consists of beginnings of the texts, one for each text and in
their order, each as long as reported, and at most the latest text is still missing.

## Main definitions

* `Effects.JournalEvent` — the actions of the producer, with what the medium took.
* `Effects.JournalEvent.Orderly` — each text is appended once, before the next is made.
* `Effects.Journaled` — what the journal holds of the texts.

## Main results

* `Effects.JournalEvent.journaled` — an orderly history leaves such a journal.
* `Effects.JournalEvent.content_whole` — a medium that takes all or nothing leaves whole texts.
-/

namespace Effects

variable {A E : Type}

/-- What happens to the journal: a text is made, and the first `n` letters of a text are
appended. -/
inductive JournalEvent (A : Type)
  | produce (t : List A)
  | append (t : List A) (n : ℕ)

namespace JournalEvent

/-- The texts made, the latest first. -/
def produced : List (JournalEvent A) → List (List A)
  | [] => []
  | .produce t :: past => t :: produced past
  | .append _ _ :: past => produced past

/-- What was appended each time, the latest first. -/
def appended : List (JournalEvent A) → List (List A)
  | [] => []
  | .produce _ :: past => appended past
  | .append t n :: past => t.take n :: appended past

/-- How many letters the medium reported each time, the latest first. -/
def counts : List (JournalEvent A) → List ℕ
  | [] => []
  | .produce _ :: past => counts past
  | .append _ n :: past => n :: counts past

/-- The letters of the journal. -/
def content : List (JournalEvent A) → List A
  | [] => []
  | .produce _ :: past => content past
  | .append t n :: past => content past ++ t.take n

/-- **A text is made when all others have been appended, and appended while it is the latest and
for the first time.** -/
def Orderly : JournalEvent A → List (JournalEvent A) → Prop
  | .produce _, past => (appended past).length = (produced past).length
  | .append t _, past => (produced past).head? = some t ∧
      (appended past).length < (produced past).length

end JournalEvent

/-- **What a journal holds of the texts**, the latest of which is listed first, when the medium
reported these counts: each text was appended once, except perhaps for the latest, which is still
missing, and the journal holds of it as many letters as were reported. -/
def Journaled (texts : List (List A)) (counts : List ℕ) (content : List A) : Prop :=
  ∃ pending settled, texts = pending ++ settled ∧ pending.length ≤ 1 ∧
    counts.length = settled.length ∧
    content = (List.zipWith List.take counts settled).reverse.flatten

/-- Texts kept in part are no longer than the texts. -/
lemma length_flatten_le (counts : List ℕ) (settled : List (List A)) {b : ℕ}
    (hb : ∀ t ∈ settled, t.length ≤ b) :
    (List.zipWith List.take counts settled).flatten.length ≤ settled.length * b := by
  induction settled generalizing counts with
  | nil => simp
  | cons t settled ih =>
    cases counts with
    | nil => simp
    | cons n counts =>
      have hrest := ih counts fun t' ht' => hb t' (List.mem_cons_of_mem _ ht')
      have hfirst := List.length_take_le' n t
      have hbound := hb t List.mem_cons_self
      rw [List.zipWith_cons_cons, List.flatten_cons, List.length_append, List.length_cons,
        Nat.add_mul]
      omega

/-- **A journal is no longer than its texts.** -/
lemma Journaled.length_le {texts : List (List A)} {counts : List ℕ} {content : List A} {b : ℕ}
    (hj : Journaled texts counts content) (hb : ∀ t ∈ texts, t.length ≤ b) :
    content.length ≤ texts.length * b := by
  obtain ⟨pending, settled, rfl, -, hlength, rfl⟩ := hj
  have hsettled := length_flatten_le counts.reverse settled.reverse (b := b) fun t ht =>
    hb t (List.mem_append_right _ (List.mem_reverse.1 ht))
  rw [List.length_reverse] at hsettled
  rw [List.reverse_zipWith hlength]
  refine Nat.le_trans hsettled (Nat.mul_le_mul_right b ?_)
  rw [List.length_append]
  exact Nat.le_add_left _ _

namespace JournalEvent

/-- The content is what was appended. -/
lemma content_eq (h : List (JournalEvent A)) : content h = (appended h).reverse.flatten := by
  induction h with
  | nil => rfl
  | cons e h ih =>
    cases e with
    | produce t => exact ih
    | append t n => simp [content, appended, ih]

/-- Every append takes what `took` allows. -/
def Within (took : List A → ℕ → Prop) : JournalEvent A → Prop
  | .produce _ => True
  | .append t n => took t n

/-- In an orderly history all texts have been appended, or all but the latest, and what was
appended is of each text what the medium reported.

**Proof sketch.** Induction on the history. A text that is made is the one still missing, a text
that is appended is no longer missing. -/
lemma appended_eq {took : List A → ℕ → Prop} {h : List (JournalEvent A)}
    (hh : Always Orderly h) (htook : Always (fun e _ => Within took e) h) :
    ∃ pending settled, produced h = pending ++ settled ∧ pending.length ≤ 1 ∧
      List.Forall₂ (fun n t => took t n) (counts h) settled ∧
      appended h = List.zipWith List.take (counts h) settled := by
  induction h with
  | nil => exact ⟨[], [], rfl, Nat.zero_le _, List.Forall₂.nil, rfl⟩
  | cons e h ih =>
    obtain ⟨hnow, hpast⟩ := hh
    obtain ⟨pending, settled, hproduced, hle, hall, happended⟩ := ih hpast htook.2
    have hlength : (appended h).length = settled.length := by
      rw [happended, List.length_zipWith, hall.length_eq, Nat.min_self]
    cases e with
    | produce t =>
      have heq : (appended h).length = (produced h).length := hnow
      rw [hproduced, List.length_append, hlength] at heq
      obtain rfl : pending = [] := List.length_eq_zero_iff.1 (by omega)
      exact ⟨[t], settled, by rw [produced, hproduced]; rfl, Nat.le_refl _, hall, happended⟩
    | append t n =>
      obtain ⟨hlatest, hlt⟩ := hnow
      rw [hproduced, List.length_append, hlength] at hlt
      obtain ⟨t', rfl⟩ := List.length_eq_one_iff.1 (show pending.length = 1 by omega)
      rw [hproduced] at hlatest
      obtain rfl : t' = t := Option.some.inj hlatest
      exact ⟨[], t' :: settled, hproduced, Nat.zero_le _, .cons htook.1 hall,
        congrArg (List.cons _) happended⟩

/-- **An orderly history leaves a journal of the texts.** -/
theorem journaled {h : List (JournalEvent A)} (hh : Always Orderly h) :
    Journaled (produced h) (counts h) (content h) := by
  have hany : Always (fun e _ => Within (fun _ _ => True) e) h := by
    rw [always_iff]
    intro _ e _ _
    cases e <;> trivial
  obtain ⟨pending, settled, hproduced, hle, hall, happended⟩ := appended_eq hh hany
  refine ⟨pending, settled, hproduced, hle, hall.length_eq, ?_⟩
  rw [content_eq, happended]

/-- A medium takes all of the text or nothing. -/
def AllOrNothing (t : List A) (n : ℕ) : Prop := n = 0 ∨ t.length ≤ n

/-- Texts of which all or nothing was kept, in a row. -/
lemma exists_sublist {counts : List ℕ} {texts : List (List A)}
    (hall : List.Forall₂ (fun n t => AllOrNothing t n) counts texts) :
    ∃ whole : List (List A), whole.Sublist texts ∧
      (List.zipWith List.take counts texts).flatten = whole.flatten := by
  induction hall with
  | nil => exact ⟨[], List.Sublist.refl _, rfl⟩
  | @cons n t counts texts hn _ ih =>
    obtain ⟨whole, hsub, heq⟩ := ih
    obtain rfl | hn := hn
    · exact ⟨whole, hsub.cons t, heq⟩
    · refine ⟨t :: whole, hsub.cons_cons t, ?_⟩
      rw [List.zipWith_cons_cons, List.flatten_cons, List.flatten_cons, heq,
        List.take_of_length_le hn]

/-- **A medium that takes all or nothing** leaves a journal of some of the texts, whole and in
their order. -/
theorem content_whole {h : List (JournalEvent A)} (hh : Always Orderly h)
    (hall : Always (fun e _ => Within AllOrNothing e) h) :
    ∃ whole : List (List A), whole.Sublist (produced h).reverse ∧ content h = whole.flatten := by
  obtain ⟨pending, settled, hproduced, -, htaken, happended⟩ := appended_eq hh hall
  obtain ⟨whole, hsub, heq⟩ := exists_sublist (List.forall₂_reverse_iff.2 htaken)
  refine ⟨whole, hsub.trans ?_, ?_⟩
  · rw [hproduced, List.reverse_append]
    exact List.sublist_append_left _ _
  · rw [content_eq, happended, List.reverse_zipWith htaken.length_eq, heq]

end JournalEvent

end Effects
