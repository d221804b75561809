import AirLab.Effects.History
import AirLab.Effects.Triple

set_option relaxedAutoImplicit false
set_option autoImplicit false

/-!
# The time between events

Every call takes a time, at least the time it asks to be put to sleep for. Some events of a
history are marked, and what matters is how much time passes from one marked event to the next
one. A program that makes no marked event only lets time pass; how much of it at least can be
read off the program.

## Main definitions

* `Effects.sinceLast`, `Effects.LongSince` — the time since the last marked event.
* `Effects.Spaced` — a marked event comes only a certain time after the one before.
* `Effects.Prog.Lasts` — a program of quiet calls that takes a certain time.
* `Effects.Prog.SpacedSince` — spaced events, the last of them some time ago.

## Main results

* `Effects.Prog.Lasts.triple` — a program of quiet calls lets its time pass.
* `Effects.Spaced.rate` — spaced events are at most as many as the time allows.
-/

namespace Effects

variable {C : Type} {R : C → Type} {α β σ : Type} {cost : C → ℕ}
  {mark : Event C R → Hist C R → Bool}

/-! ## The time since the last marked event -/

/-- The time the calls of a history take together. -/
def totalTime (cost : C → ℕ) : Hist C R → ℕ
  | [] => 0
  | e :: past => cost e.call + totalTime cost past

/-- The time since the last marked event, if there was one. -/
def sinceLast (cost : C → ℕ) (mark : Event C R → Hist C R → Bool) : Hist C R → Option ℕ
  | [] => none
  | e :: past => if mark e past then some 0 else (sinceLast cost mark past).map (cost e.call + ·)

/-- The last marked event, if there was one, is at least the time `n` ago. -/
def LongSince (cost : C → ℕ) (mark : Event C R → Hist C R → Bool) (n : ℕ) (h : Hist C R) : Prop :=
  ∀ t, sinceLast cost mark h = some t → n ≤ t

/-- A marked event comes only the time `n` after the marked event before. -/
def Spaced (cost : C → ℕ) (mark : Event C R → Hist C R → Bool) (n : ℕ) (h : Hist C R) : Prop :=
  Always (fun e past => mark e past = true → LongSince cost mark n past) h

/-- No time has passed in the empty history. -/
@[simp] lemma totalTime_nil : totalTime cost ([] : Hist C R) = 0 := rfl

/-- The time of one more call. -/
@[simp] lemma totalTime_cons (e : Event C R) (h : Hist C R) :
    totalTime cost (e :: h) = cost e.call + totalTime cost h := rfl

/-- Nothing was marked before the start. -/
lemma longSince_nil (n : ℕ) : LongSince cost mark n ([] : Hist C R) := nofun

/-- Any time is at least no time. -/
lemma longSince_zero (h : Hist C R) : LongSince cost mark 0 h := fun _ _ => Nat.zero_le _

/-- A longer time is also a shorter one. -/
lemma LongSince.mono {m n : ℕ} {h : Hist C R} (hl : LongSince cost mark n h) (hle : m ≤ n) :
    LongSince cost mark m h := fun t ht => Nat.le_trans hle (hl t ht)

/-- An event that is not marked lets its time pass. -/
lemma LongSince.quiet {n : ℕ} {e : Event C R} {h : Hist C R} (hl : LongSince cost mark n h)
    (he : mark e h = false) : LongSince cost mark (n + cost e.call) (e :: h) := by
  intro t ht
  rw [sinceLast, he] at ht
  obtain ⟨t', ht', rfl⟩ := Option.map_eq_some_iff.1 ht
  have := hl t' ht'
  omega

/-- **Spaced events are at most as many as the time allows.**

**Proof sketch.** Induction on the history: up to the last marked event all the times between
marked events have passed, and the time since then. -/
theorem Spaced.rate {test : C → Bool} {n : ℕ} {h : Hist C R}
    (hs : Spaced cost (fun e _ => test e.call) n h) :
    occurrences (fun e => test e.call) h * n ≤ totalTime cost h + n := by
  suffices hboth : (∀ t, sinceLast cost (fun e _ => test e.call) h = some t →
      occurrences (fun e => test e.call) h * n + t ≤ totalTime cost h + n) ∧
      (sinceLast cost (fun e _ => test e.call) h = none →
        occurrences (fun e => test e.call) h = 0) by
    rcases ht : sinceLast cost (fun e _ => test e.call) h with _ | t
    · rw [hboth.2 ht]
      omega
    · have := hboth.1 t ht
      omega
  induction h with
  | nil => exact ⟨nofun, fun _ => rfl⟩
  | cons e h ih =>
    obtain ⟨hsome, hnone⟩ := ih hs.2
    rw [occurrences_cons, totalTime_cons]
    by_cases he : test e.call = true
    · rw [if_pos he]
      refine ⟨fun t ht => ?_, fun ht => ?_⟩
      · rw [sinceLast, if_pos he] at ht
        obtain rfl := Option.some.inj ht
        rcases hlast : sinceLast cost (fun e _ => test e.call) h with _ | t'
        · rw [hnone hlast]
          omega
        · have hlong := hs.1 he t' hlast
          have hrest := hsome t' hlast
          rw [Nat.add_mul]
          omega
      · rw [sinceLast, if_pos he] at ht
        cases ht
    · rw [if_neg he, Nat.add_zero]
      refine ⟨fun t ht => ?_, fun ht => ?_⟩
      · rw [sinceLast, if_neg he] at ht
        obtain ⟨t', ht', rfl⟩ := Option.map_eq_some_iff.1 ht
        have := hsome t' ht'
        omega
      · rw [sinceLast, if_neg he, Option.map_eq_none_iff] at ht
        exact hnone ht

namespace Prog

/-! ## Programs that let time pass -/

/-- **A program of quiet calls that takes the time `n`** up to its return. -/
def Lasts (cost : C → ℕ) (quiet : C → Prop) : Prog C R α → ℕ → Prop
  | ret _, n => n = 0
  | spent, _ => True
  | call c k, n => quiet c ∧ ∃ m, n ≤ cost c + m ∧ ∀ r, (k r).Lasts cost quiet m

variable {quiet : C → Prop}

/-- Returning a value takes no time. -/
@[simp] lemma lasts_pure (a : α) : (pure a : Prog C R α).Lasts cost quiet 0 := rfl

/-- Running out of fuel. -/
@[simp] lemma lasts_spent (n : ℕ) : (spent : Prog C R α).Lasts cost quiet n := trivial

/-- A single call takes its time. -/
lemma lasts_perform {c : C} (hc : quiet c) :
    (perform c : Prog C R (R c)).Lasts cost quiet (cost c) :=
  ⟨hc, 0, Nat.le_refl _, fun _ => rfl⟩

/-- A call and what follows it. -/
lemma lasts_call (c : C) (k : R c → Prog C R α) (n : ℕ) :
    (call c k).Lasts cost quiet n ↔
      quiet c ∧ ∃ m, n ≤ cost c + m ∧ ∀ r, (k r).Lasts cost quiet m := Iff.rfl

/-- A sequence takes the times of its parts. -/
lemma Lasts.bind {p : Prog C R α} {f : α → Prog C R β} {m n : ℕ} (hp : p.Lasts cost quiet m)
    (hf : ∀ a, (f a).Lasts cost quiet n) : (p >>= f).Lasts cost quiet (m + n) := by
  change (p.bind f).Lasts cost quiet (m + n)
  induction p generalizing m with
  | ret a =>
    obtain rfl : m = 0 := hp
    rw [Nat.zero_add]
    exact hf a
  | spent => trivial
  | call c k ih =>
    obtain ⟨hc, m', hle, hk⟩ := hp
    exact ⟨hc, m' + n, by omega, fun r => ih r (hk r)⟩

/-- A program of quiet calls takes at least no time. -/
lemma lasts_of_calls {p : Prog C R α} (hp : p.Within quiet) : p.Lasts cost quiet 0 := by
  induction p with
  | ret a => rfl
  | spent => trivial
  | call c k ih =>
    obtain ⟨hc, hk⟩ := (calls_call c k).1 hp
    exact ⟨hc, 0, Nat.zero_le _, fun r => ih r (hk r)⟩

/-- A program that takes longer also takes less. -/
lemma Lasts.mono {p : Prog C R α} {m n : ℕ} (hp : p.Lasts cost quiet n) (hle : m ≤ n) :
    p.Lasts cost quiet m := by
  induction p generalizing m n with
  | ret a =>
    obtain rfl : n = 0 := hp
    exact Nat.le_zero.1 hle
  | spent => trivial
  | call c k ih =>
    obtain ⟨hc, n', hn, hk⟩ := hp
    exact ⟨hc, n', Nat.le_trans hle hn, hk⟩

-- From here on the rules are the interface.
attribute [irreducible] Lasts

/-- A branch takes the time that both sides take. -/
lemma Lasts.ite {c : Prop} [Decidable c] {p q : Prog C R α} {n : ℕ} (hp : p.Lasts cost quiet n)
    (hq : q.Lasts cost quiet n) : (if c then p else q).Lasts cost quiet n := by
  split_ifs
  · exact hp
  · exact hq

/-- A `for` loop takes the time of all its passes. -/
lemma Lasts.forRange {body : ℕ → σ → Prog C R σ} {k : ℕ}
    (hbody : ∀ i s, (body i s).Lasts cost quiet k) (n : ℕ) (s : σ) :
    (Prog.forRange body n s).Lasts cost quiet (n * k) := by
  induction n with
  | zero =>
    rw [Nat.zero_mul]
    exact lasts_pure s
  | succ n ih =>
    rw [Nat.succ_mul]
    exact ih.bind (hbody n)

/-- A `while (1)` takes at least the time of one pass. -/
lemma Lasts.loop {body : σ → Prog C R (σ ⊕ α)} {k : ℕ} (hbody : ∀ s, (body s).Lasts cost quiet k)
    (fuel : ℕ) (s : σ) : (Prog.loop body fuel s).Lasts cost quiet k := by
  induction fuel generalizing s with
  | zero => exact lasts_spent k
  | succ fuel ih =>
    refine ((hbody s).bind (n := 0) fun r => ?_).mono (Nat.le_add_right k 0)
    cases r with
    | inl s' => exact (ih s').mono (Nat.zero_le k)
    | inr a => exact lasts_pure a

/-- **A program of quiet calls lets its time pass**, and marks nothing. -/
lemma Lasts.triple {p : Prog C R α} {n : ℕ} (hp : p.Lasts cost quiet n)
    (hquiet : ∀ e h, quiet e.call → mark e h = false) {env : Env C R} {I : Hist C R → Prop}
    (hI : ∀ e h, quiet e.call → I h → I (e :: h)) {m : ℕ} :
    Triple env (fun h => I h ∧ LongSince cost mark m h) p
      (fun _ h => I h ∧ LongSince cost mark (m + n) h) I := by
  intro h hh
  induction p generalizing h m n with
  | ret a =>
    unfold Lasts at hp
    rw [hp]
    exact (wp_pure a).2 hh
  | spent => exact wp_spent.2 hh.1
  | call c k ih =>
    obtain ⟨hc, n', hn, hk⟩ := (lasts_call c k n).1 hp
    refine (wp_bind (Prog.perform c) k _).2 ((wp_perform c _).2 ?_)
    have hnext := hh.2.quiet (hquiet ⟨c, env h c⟩ h hc)
    refine (ih (env h c) (hk _) _ ⟨hI _ h hc hh.1, hnext⟩).mono ?_ fun _ hS => hS
    intro _ h' hh'
    exact ⟨hh'.1, hh'.2.mono (by simp only; omega)⟩

/-! ## Loops that keep a rhythm -/

/-- The marked calls came spaced so far, and the last one is at least the time `m` ago. -/
def SpacedSince (cost : C → ℕ) (test : C → Bool) (n m : ℕ) (h : Hist C R) : Prop :=
  Spaced cost (fun e _ => test e.call) n h ∧ LongSince cost (fun e _ => test e.call) m h

variable {test : C → Bool} {env : Env C R} {n m k : ℕ}

/-- At the start no marked call has been made. -/
lemma spacedSince_nil (n m : ℕ) : SpacedSince cost test n m ([] : Hist C R) :=
  ⟨trivial, longSince_nil m⟩

/-- A shorter time. -/
lemma SpacedSince.mono {h : Hist C R} (hh : SpacedSince cost test n m h) (hle : k ≤ m) :
    SpacedSince cost test n k h :=
  ⟨hh.1, hh.2.mono hle⟩

/-- **A program without marked calls lets its time pass.** -/
lemma Lasts.spaced {p : Prog C R α} (hp : p.Lasts cost (fun c => test c = false) k) :
    Triple env (SpacedSince cost test n m) p (fun _ => SpacedSince cost test n (m + k))
      (Spaced cost (fun e _ => test e.call) n) :=
  hp.triple (fun _ _ he => he) fun e _ he hh => ⟨fun ht => by simp [he] at ht, hh⟩

/-- A sequence that starts with a program without marked calls. -/
lemma Lasts.spaced_bind {p : Prog C R α} {f : α → Prog C R β} {Q : β → Hist C R → Prop}
    (hp : p.Lasts cost (fun c => test c = false) k)
    (hf : ∀ a, Triple env (SpacedSince cost test n (m + k)) (f a) Q
      (Spaced cost (fun e _ => test e.call) n)) :
    Triple env (SpacedSince cost test n m) (p >>= f) Q (Spaced cost (fun e _ => test e.call) n) :=
  hp.spaced.bind hf

/-- **A marked call**, when the time since the last one has passed. -/
lemma spaced_perform {c : C} (hle : n ≤ m) {S : Hist C R → Prop} :
    Triple env (SpacedSince cost test n m) (Prog.perform c) (fun _ => SpacedSince cost test n 0)
      S :=
  Triple.perform fun _ hh => ⟨⟨fun _ => hh.2.mono hle, hh.1⟩, longSince_zero _⟩

/-- **A loop keeps the rhythm of its passes.** -/
lemma spaced_forever {body : σ → Prog C R σ}
    (hbody : ∀ s, Triple env (SpacedSince cost test n m) (body s)
      (fun _ => SpacedSince cost test n m) (Spaced cost (fun e _ => test e.call) n))
    (passes : ℕ) (s : σ) :
    Triple env (SpacedSince cost test n m) (Prog.forever body passes s)
      (fun _ => Spaced cost (fun e _ => test e.call) n)
      (Spaced cost (fun e _ => test e.call) n) :=
  (Triple.forRange (I := fun _ _ => SpacedSince cost test n m) passes (fun _ _ => hbody) s).mono
    (fun _ hh => hh) (fun _ _ hh => hh.1) fun _ hh => hh

end Prog

end Effects
