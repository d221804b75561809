import AirLab.Effects.Interleave

set_option relaxedAutoImplicit false
set_option autoImplicit false

/-!
# Scripts

Some of the calls of a program are observed, the others are not. A program plays a script if its
observations are the same whatever it is answered: those of a run that returns are the whole
script, those of a run that got stuck somewhere are a beginning of it. A program that may also
return before the end follows the script. Scripts compose along sequences and loops, and a thread
keeps to its script in every joint run.

## Main definitions

* `Effects.trace` — the observations of a history, the oldest first.
* `Effects.Prog.Plays`, `Effects.Prog.Follows` — a program that plays a script, or follows it.

## Main results

* `Effects.Prog.Follows.path` — along every path the observations are a beginning of the script.
* `Effects.System.trace_own` — so are those of a thread in every joint run.
* `Effects.System.trace_joint` — and those of all threads, if the other threads play nothing.
-/

namespace Effects

variable {ι C O : Type} {R : C → Type} {α β σ : Type} {obs : C → Option O}

/-! ## Observations -/

/-- The observations of a history, the oldest first. -/
def trace (obs : C → Option O) (h : Hist C R) : List O :=
  (h.filterMap fun e => obs e.call).reverse

/-- Nothing is observed of the empty history. -/
@[simp] lemma trace_nil : trace obs ([] : Hist C R) = [] := rfl

/-- The latest event is observed last. -/
@[simp] lemma trace_cons (e : Event C R) (h : Hist C R) :
    trace obs (e :: h) = trace obs h ++ (obs e.call).toList := by
  unfold trace
  rcases he : obs e.call with _ | o
  · simp [he]
  · simp [he]

namespace Prog

/-! ## Programs that play a script -/

/-- **The program plays the script**: whatever the answers, what is observed up to its return is
the script. A program out of fuel has played as much of it as it had. -/
def Plays (obs : C → Option O) : Prog C R α → List O → Prop
  | ret _, script => script = []
  | spent, _ => True
  | call c k, script => ∃ rest, script = (obs c).toList ++ rest ∧ ∀ r, (k r).Plays obs rest

/-- Returning a value plays nothing. -/
@[simp] lemma plays_pure (a : α) : (pure a : Prog C R α).Plays obs [] := rfl

/-- A single call plays what is observed of it. -/
lemma plays_perform (c : C) : (perform c : Prog C R (R c)).Plays obs (obs c).toList :=
  ⟨[], (List.append_nil _).symm, fun _ => rfl⟩

/-- A call and what follows it. -/
lemma plays_call (c : C) (k : R c → Prog C R α) (script : List O) :
    (call c k).Plays obs script ↔
      ∃ rest, script = (obs c).toList ++ rest ∧ ∀ r, (k r).Plays obs rest := Iff.rfl

/-- A sequence plays one script after the other. -/
lemma Plays.bind {p : Prog C R α} {f : α → Prog C R β} {t u : List O} (hp : p.Plays obs t)
    (hf : ∀ a, (f a).Plays obs u) : (p >>= f).Plays obs (t ++ u) := by
  change (p.bind f).Plays obs (t ++ u)
  induction p generalizing t with
  | ret a =>
    obtain rfl : t = [] := hp
    exact hf a
  | spent => trivial
  | call c k ih =>
    obtain ⟨rest, rfl, hrest⟩ := hp
    exact ⟨rest ++ u, List.append_assoc _ _ _, fun r => ih r (hrest r)⟩

/-- **The program follows the script**: whatever the answers, what is observed of it is a beginning
of the script, wherever it stops. -/
def Follows (obs : C → Option O) : Prog C R α → List O → Prop
  | ret _, _ => True
  | spent, _ => True
  | call c k, script => ∃ rest, script = (obs c).toList ++ rest ∧ ∀ r, (k r).Follows obs rest

/-- Returning a value follows every script. -/
@[simp] lemma follows_pure (a : α) (script : List O) :
    (pure a : Prog C R α).Follows obs script := trivial

/-- A call and what follows it. -/
lemma follows_call (c : C) (k : R c → Prog C R α) (script : List O) :
    (call c k).Follows obs script ↔
      ∃ rest, script = (obs c).toList ++ rest ∧ ∀ r, (k r).Follows obs rest := Iff.rfl

/-- A script that is played to its end, and one that is followed. -/
lemma Plays.bind_follows {p : Prog C R α} {f : α → Prog C R β} {t u : List O}
    (hp : p.Plays obs t) (hf : ∀ a, (f a).Follows obs u) : (p >>= f).Follows obs (t ++ u) := by
  change (p.bind f).Follows obs (t ++ u)
  induction p generalizing t with
  | ret a =>
    obtain rfl : t = [] := hp
    exact hf a
  | spent => trivial
  | call c k ih =>
    obtain ⟨rest, rfl, hrest⟩ := hp
    exact ⟨rest ++ u, List.append_assoc _ _ _, fun r => ih r (hrest r)⟩

/-- Who plays a script follows it. -/
lemma Plays.follows {p : Prog C R α} {script : List O} (hp : p.Plays obs script) :
    p.Follows obs script := by
  induction p generalizing script with
  | ret a => trivial
  | spent => trivial
  | call c k ih =>
    obtain ⟨rest, rfl, hrest⟩ := hp
    exact ⟨rest, rfl, fun r => ih r (hrest r)⟩

-- From here on the rules are the interface.
attribute [irreducible] Plays Follows

/-- A branch follows the script that both sides follow. -/
lemma Follows.ite {c : Prop} [Decidable c] {p q : Prog C R α} {script : List O}
    (hp : p.Follows obs script) (hq : q.Follows obs script) :
    (if c then p else q).Follows obs script := by
  split_ifs
  · exact hp
  · exact hq

/-- A branch plays the script that both sides play. -/
lemma Plays.ite {c : Prop} [Decidable c] {p q : Prog C R α} {script : List O}
    (hp : p.Plays obs script) (hq : q.Plays obs script) :
    (if c then p else q).Plays obs script := by
  split_ifs
  · exact hp
  · exact hq

/-- A program of calls that are not observed plays nothing. -/
lemma plays_of_calls {p : Prog C R α} (hp : p.Within fun c => obs c = none) :
    p.Plays obs [] := by
  induction p with
  | ret a => exact plays_pure a
  | spent =>
    unfold Plays
    trivial
  | call c k ih =>
    obtain ⟨hc, hk⟩ := (calls_call c k).1 hp
    exact (plays_call c k []).2 ⟨[], by rw [hc]; rfl, fun r => ih r (hk r)⟩

/-- A program of calls that are not observed, in front of another one. -/
lemma Plays.after {p : Prog C R α} {f : α → Prog C R β} {script : List O}
    (hp : p.Within fun c => obs c = none) (hf : ∀ a, (f a).Plays obs script) :
    (p >>= f).Plays obs script :=
  (plays_of_calls hp).bind hf

/-- A `for` loop plays the scripts of its passes in a row. -/
lemma Plays.forRange {body : ℕ → σ → Prog C R σ} {script : ℕ → List O}
    (hbody : ∀ i s, (body i s).Plays obs (script i)) (n : ℕ) (s : σ) :
    (Prog.forRange body n s).Plays obs ((List.range n).flatMap script) := by
  induction n with
  | zero => exact plays_pure s
  | succ n ih =>
    have hscript : (List.range (n + 1)).flatMap script =
        (List.range n).flatMap script ++ script n := by
      simp [List.range_succ]
    rw [hscript]
    exact ih.bind (hbody n)

/-- The first passes of a `while (1)` play the script of a pass again and again. -/
lemma Plays.forever {body : σ → Prog C R σ} {script : List O}
    (hbody : ∀ s, (body s).Plays obs script) (n : ℕ) (s : σ) :
    (Prog.forever body n s).Plays obs (List.replicate n script).flatten := by
  have hrange : (List.range n).flatMap (fun _ => script) = (List.replicate n script).flatten := by
    simp [List.flatMap_def, List.map_const']
  rw [← hrange]
  exact Plays.forRange (fun _ => hbody) n s

/-- **Along every path the observations are a beginning of the script**, and what is left of the
program follows the rest. -/
lemma Follows.path {p q : Prog C R α} {h h' : Hist C R} {script : List O}
    (hp : p.Follows obs script) (hpath : Path p h q h') :
    ∃ played rest, script = played ++ rest ∧ trace obs h' = trace obs h ++ played ∧
      q.Follows obs rest := by
  induction hpath with
  | refl => exact ⟨[], script, rfl, (List.append_nil _).symm, hp⟩
  | @answer c k h' r _ ih =>
    obtain ⟨played, rest, hscript, htrace, hrest⟩ := ih
    obtain ⟨next, hnext, hk⟩ := (follows_call c k rest).1 hrest
    refine ⟨played ++ (obs c).toList, next, ?_, ?_, hk r⟩
    · rw [hscript, hnext, List.append_assoc]
    · rw [trace_cons, htrace, List.append_assoc]

end Prog

namespace System

variable [DecidableEq ι] {blocks : C → Bool} {env : JointEnv ι C R}

/-- **In every joint run the observations of a thread are a beginning of its script.** -/
theorem trace_own {prog : ι → Prog C R Unit} {i : ι} {script : List O}
    (hp : (prog i).Follows obs script) (schedule : List ι) :
    trace obs (own i (run blocks env (init prog) schedule).hist) <+: script := by
  obtain ⟨played, rest, hscript, htrace, -⟩ := hp.path (path_own prog schedule i)
  rw [trace_nil, List.nil_append] at htrace
  rw [htrace, hscript]
  exact List.prefix_append _ _

end System

/-- If the other threads are not observed, one thread makes all observations. -/
lemma trace_eq_own [DecidableEq ι] {i : ι} {H : JointHist ι C R}
    (hothers : ∀ j ≠ i, trace obs (own j H) = []) :
    trace obs (H.map Prod.snd) = trace obs (own i H) := by
  induction H with
  | nil => rfl
  | cons e H ih =>
    obtain ⟨j, e⟩ := e
    have hrest : ∀ k ≠ i, trace obs (own k H) = [] := by
      intro k hk
      have hall := hothers k hk
      by_cases hjk : j = k
      · subst hjk
        rw [own_cons_self, trace_cons, List.append_eq_nil_iff] at hall
        exact hall.1
      · rwa [own_cons_of_ne hjk] at hall
    rw [List.map_cons, trace_cons, ih hrest]
    by_cases hji : j = i
    · subst hji
      rw [own_cons_self, trace_cons]
    · have hnone := hothers j hji
      rw [own_cons_self, trace_cons, List.append_eq_nil_iff] at hnone
      rw [own_cons_of_ne hji, hnone.2, List.append_nil]

/-- **One thread follows a script and the others play nothing**: in every joint run all observations
together are a beginning of the script, and none is of another thread. -/
theorem System.trace_joint [DecidableEq ι] {blocks : C → Bool} {env : JointEnv ι C R}
    {prog : ι → Prog C R Unit} {i : ι} {script : List O} (hp : (prog i).Follows obs script)
    (hothers : ∀ j ≠ i, (prog j).Plays obs []) (schedule : List ι) :
    trace obs ((run blocks env (init prog) schedule).hist.map Prod.snd) <+: script ∧
      ∀ j ≠ i, trace obs (own j (run blocks env (init prog) schedule).hist) = [] := by
  have hnone : ∀ j ≠ i, trace obs (own j (run blocks env (init prog) schedule).hist) = [] :=
    fun j hj => List.prefix_nil.1 (trace_own (hothers j hj).follows schedule)
  refine ⟨?_, hnone⟩
  rw [trace_eq_own hnone]
  exact trace_own hp schedule

end Effects
