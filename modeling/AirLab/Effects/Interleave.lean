import Mathlib.Logic.Function.Basic
import AirLab.Effects.History
import AirLab.Effects.Prog

set_option relaxedAutoImplicit false
set_option autoImplicit false

/-!
# Cooperative threads

Threads of equal priority that are never preempted: a thread gives up the processor only at a
call that blocks. The joint history records the calls of all threads. A schedule names, step by
step, the thread whose next call is answered; a thread that is between two calls that do not
block cannot be overtaken, and naming another thread then changes nothing.

A blocking call is answered in a step of its own, so that between the completion of the call
and the moment its thread runs on, other threads may run.

## Main definitions

* `Effects.JointHist`, `Effects.own` — joint histories and the events of one thread in them.
* `Effects.System`, `Effects.System.step`, `Effects.System.run` — the threads, a step and a run.

## Main results

* `Effects.System.run_invariant` — what every step preserves holds after every run.
* `Effects.System.always_own` — what holds along every run of each thread on its own holds of its
  events in every joint run.
* `Effects.System.always_adjacent` — two calls of a thread in a row that do not block stand next
  to each other in the joint history.
-/

namespace Effects

variable {ι C : Type} {R : C → Type}

/-- A joint history: the events of all threads, the most recent one first. -/
abbrev JointHist (ι C : Type) (R : C → Type) : Type := List (ι × Event C R)

/-- A joint environment answers the calls of each thread in the light of the joint history. -/
abbrev JointEnv (ι C : Type) (R : C → Type) : Type := JointHist ι C R → ι → (c : C) → R c

section Own

variable [DecidableEq ι]

/-- The events of thread `i`. -/
def own (i : ι) : JointHist ι C R → Hist C R
  | [] => []
  | (j, e) :: past => if j = i then e :: own i past else own i past

/-- No thread has made a call in the empty history. -/
@[simp] lemma own_nil (i : ι) : own i ([] : JointHist ι C R) = [] := rfl

/-- An event of the thread. -/
@[simp] lemma own_cons_self (i : ι) (e : Event C R) (past : JointHist ι C R) :
    own i ((i, e) :: past) = e :: own i past := if_pos rfl

/-- An event of another thread. -/
lemma own_cons_of_ne {i j : ι} (hne : j ≠ i) (e : Event C R) (past : JointHist ι C R) :
    own i ((j, e) :: past) = own i past := if_neg hne

/-- The events of a thread in two parts of a history. -/
lemma own_append (i : ι) (later before : JointHist ι C R) :
    own i (later ++ before) = own i later ++ own i before := by
  induction later with
  | nil => rfl
  | cons e later ih =>
    obtain ⟨j, e⟩ := e
    by_cases hj : j = i
    · subst hj
      rw [List.cons_append, own_cons_self, own_cons_self, ih]
      rfl
    · rw [List.cons_append, own_cons_of_ne hj, own_cons_of_ne hj, ih]

/-- An event of the thread is among its events. -/
lemma mem_own {i : ι} {e : Event C R} {H : JointHist ι C R} (he : (i, e) ∈ H) : e ∈ own i H := by
  obtain ⟨later, before, rfl⟩ := List.append_of_mem he
  rw [own_append, own_cons_self]
  simp

/-- An event among those of the thread is one of the thread's. -/
lemma of_mem_own {i : ι} {e : Event C R} {H : JointHist ι C R} (he : e ∈ own i H) :
    (i, e) ∈ H := by
  induction H with
  | nil => cases he
  | cons x H ih =>
    obtain ⟨j, x⟩ := x
    by_cases hj : j = i
    · subst hj
      rw [own_cons_self] at he
      rcases List.mem_cons.1 he with rfl | he
      · exact List.mem_cons_self
      · exact List.mem_cons_of_mem _ (ih he)
    · rw [own_cons_of_ne hj] at he
      exact List.mem_cons_of_mem _ (ih he)

/-- What holds of the events of a thread, seen in the joint history. -/
lemma always_own_iff {i : ι} {P : Event C R → Hist C R → Prop} {H : JointHist ι C R} :
    Always P (own i H) ↔ Always (fun e past => e.1 = i → P e.2 (own i past)) H := by
  induction H with
  | nil => exact Iff.rfl
  | cons e H ih =>
    obtain ⟨j, e⟩ := e
    rw [always_cons, ← ih]
    by_cases hj : j = i
    · subst hj
      rw [own_cons_self, always_cons]
      exact and_congr_left fun _ => ⟨fun h _ => h, fun h => h rfl⟩
    · rw [own_cons_of_ne hj]
      exact ⟨fun h => ⟨fun heq => absurd heq hj, h⟩, fun h => h.2⟩

/-- Events of one thread only are counted in its history. -/
lemma occurrences_own {i : ι} {t : Event C R → Bool} {H : JointHist ι C R}
    (honly : ∀ e ∈ H, t e.2 = true → e.1 = i) :
    occurrences (fun e => t e.2) H = occurrences t (own i H) := by
  induction H with
  | nil => rfl
  | cons e H ih =>
    obtain ⟨j, e⟩ := e
    rw [occurrences_cons, ih fun e' he' => honly e' (List.mem_cons_of_mem _ he')]
    by_cases hj : j = i
    · subst hj
      rw [own_cons_self, occurrences_cons]
    · have hfalse : t e = false := by
        rw [Bool.eq_false_iff]
        exact fun he => hj (honly (j, e) List.mem_cons_self he)
      rw [own_cons_of_ne hj, hfalse]
      rfl

end Own

/-- The program's next call does not block. -/
def Prog.quiet {α : Type} (blocks : C → Bool) : Prog C R α → Bool
  | .call c _ => !blocks c
  | _ => false

/-- Threads with what they have still to do, the thread that cannot be overtaken at the moment,
if any, and the joint history. -/
structure System (ι C : Type) (R : C → Type) where
  prog : ι → Prog C R Unit
  turn : Option ι
  hist : JointHist ι C R

namespace System

/-- The threads at their start. -/
def init (prog : ι → Prog C R Unit) : System ι C R := ⟨prog, none, []⟩

variable [DecidableEq ι] (blocks : C → Bool) (env : JointEnv ι C R)

/-- The next call of thread `i` is answered, unless another thread cannot be overtaken or the
thread has ended. -/
def step (s : System ι C R) (i : ι) : System ι C R :=
  match s.prog i with
  | .call c k =>
    if s.turn = none ∨ s.turn = some i then
      { prog := Function.update s.prog i (k (env s.hist i c))
        turn := if !blocks c && (k (env s.hist i c)).quiet blocks then some i else none
        hist := (i, ⟨c, env s.hist i c⟩) :: s.hist }
    else s
  | _ => s

/-- The run along a schedule. -/
def run (s : System ι C R) (schedule : List ι) : System ι C R :=
  schedule.foldl (step blocks env) s

variable {blocks env}

/-- **What a step does**: nothing, or it answers the next call of a thread that may run. -/
lemma step_cases (blocks : C → Bool) (env : JointEnv ι C R) (s : System ι C R) (i : ι) :
    step blocks env s i = s ∨ ∃ c k, s.prog i = .call c k ∧ (s.turn = none ∨ s.turn = some i) ∧
      step blocks env s i =
        { prog := Function.update s.prog i (k (env s.hist i c))
          turn := if !blocks c && (k (env s.hist i c)).quiet blocks then some i else none
          hist := (i, ⟨c, env s.hist i c⟩) :: s.hist } := by
  unfold step
  split
  · rename_i c k hprog
    by_cases hturn : s.turn = none ∨ s.turn = some i
    · rw [if_pos hturn]
      exact Or.inr ⟨c, k, hprog, hturn, rfl⟩
    · rw [if_neg hturn]
      exact Or.inl rfl
  · exact Or.inl rfl

/-- **What every step preserves holds after every run.** -/
lemma run_invariant {I : System ι C R → Prop}
    (hstep : ∀ s i, I s → I (step blocks env s i)) (s : System ι C R) (hs : I s)
    (schedule : List ι) : I (run blocks env s schedule) := by
  induction schedule generalizing s with
  | nil => exact hs
  | cons i schedule ih => exact ih (step blocks env s i) (hstep s i hs)

/-- What every event preserves holds of the history of every run. -/
lemma hist_invariant {I : JointHist ι C R → Prop}
    (hstep : ∀ H i c, I H → I ((i, ⟨c, env H i c⟩) :: H)) (s : System ι C R) (hs : I s.hist)
    (schedule : List ι) : I (run blocks env s schedule).hist := by
  refine run_invariant (I := fun s => I s.hist) ?_ s hs schedule
  intro s i hI
  rcases step_cases blocks env s i with hstay | ⟨c, k, -, -, hgo⟩
  · rw [hstay]
    exact hI
  · rw [hgo]
    exact hstep s.hist i c hI

end System

/-! ## A thread on its own -/

/-- The program `p` comes from the history `h` to the program `q` and the history `h'`, with
whatever answers. -/
inductive Path {α : Type} (p : Prog C R α) (h : Hist C R) : Prog C R α → Hist C R → Prop
  | refl : Path p h p h
  | answer {c : C} {k : R c → Prog C R α} {h' : Hist C R} (r : R c) :
      Path p h (.call c k) h' → Path p h (k r) (⟨c, r⟩ :: h')

/-- The environment answers every call as the history has it. -/
def Replays (env : Env C R) (h : Hist C R) : Prop :=
  ∀ later c r past, h = later ++ ⟨c, r⟩ :: past → env past c = r

/-- Every history is replayed by some environment.

**Proof sketch.** Induction on the history. The environment for one more event differs from the
one before only where that event is asked for, after all the others. -/
lemma exists_replays (env : Env C R) (h : Hist C R) : ∃ env', Replays env' h := by
  classical
  induction h with
  | nil => exact ⟨env, fun later c r past heq => by simp at heq⟩
  | cons e h ih =>
    obtain ⟨env', henv'⟩ := ih
    obtain ⟨c₀, r₀⟩ := e
    refine ⟨fun past c => if hc : c = c₀ ∧ past = h then hc.1 ▸ r₀ else env' past c, ?_⟩
    intro later c r past heq
    rcases List.cons_eq_append_iff.1 heq with ⟨-, hhead⟩ | ⟨later', -, htail⟩
    · obtain ⟨he, rfl⟩ := List.cons.inj hhead
      cases he
      simp
    · have hne : ¬ (c = c₀ ∧ past = h) := by
        intro hh
        obtain ⟨-, rfl⟩ := hh
        have hlength := congrArg List.length htail
        rw [List.length_append, List.length_cons] at hlength
        omega
      simp only [dif_neg hne]
      exact henv' later' c r past htail

/-- Along a path the run of a program is the run of what is left of it. -/
lemma Path.run_eq {α : Type} {p q : Prog C R α} {h h' : Hist C R} (hpath : Path p h q h')
    {env : Env C R} (henv : Replays env h') : p.run env h = q.run env h' := by
  induction hpath with
  | refl => rfl
  | @answer c k h' r _ ih =>
    have hr : env h' c = r := henv [] c r h' rfl
    rw [ih fun later c' r' past heq => henv (⟨c, r⟩ :: later) c' r' past (by rw [heq]; rfl),
      Prog.run, hr]

/-- What holds along every run of a program holds along every path. -/
lemma Path.always {α : Type} {p q : Prog C R α} {h : Hist C R} (hpath : Path p [] q h)
    {P : Event C R → Hist C R → Prop} (env : Env C R)
    (hp : ∀ env, Always P (p.run env []).2) : Always P h := by
  obtain ⟨env', henv'⟩ := exists_replays env h
  have hrun := hp env'
  rw [hpath.run_eq henv'] at hrun
  obtain ⟨later, hlater⟩ := Prog.run_extends env' q h
  rw [← hlater] at hrun
  exact hrun.of_append

namespace System

variable [DecidableEq ι] {blocks : C → Bool} {env : JointEnv ι C R}

/-- In every run each thread has followed a path of its program. -/
lemma path_own (prog : ι → Prog C R Unit) (schedule : List ι) (i : ι) :
    Path (prog i) [] ((run blocks env (init prog) schedule).prog i)
      (own i (run blocks env (init prog) schedule).hist) := by
  refine run_invariant (I := fun s => ∀ i, Path (prog i) [] (s.prog i) (own i s.hist)) ?_
    (init prog) (fun i => Path.refl) schedule i
  intro s j hI i
  rcases step_cases blocks env s j with hstay | ⟨c, k, hprog, -, hgo⟩
  · rw [hstay]
    exact hI i
  · rw [hgo]
    by_cases hij : i = j
    · subst hij
      have hpath := hI i
      rw [hprog] at hpath
      simpa using hpath.answer (env s.hist i c)
    · simp only [Function.update_of_ne hij, own_cons_of_ne (Ne.symm hij)]
      exact hI i

/-- **What holds along every run of each thread on its own holds of its events in every joint
run.** -/
theorem always_own {prog : ι → Prog C R Unit} {P : ι → Event C R → Hist C R → Prop}
    (hp : ∀ i env, Always (P i) ((prog i).run env []).2) (schedule : List ι) :
    Always (fun e past => P e.1 e.2 (own e.1 past))
      (run blocks env (init prog) schedule).hist := by
  have hown : ∀ i, Always (P i) (own i (run blocks env (init prog) schedule).hist) := fun i =>
    (path_own prog schedule i).always (fun _ c => env [] i c) (hp i)
  revert hown
  generalize (run blocks env (init prog) schedule).hist = H
  intro hown
  induction H with
  | nil => trivial
  | cons e past ih =>
    obtain ⟨i, e⟩ := e
    refine ⟨?_, ih fun j => ?_⟩
    · have hi := hown i
      rw [own_cons_self] at hi
      exact hi.1
    · have hj := hown j
      by_cases hij : i = j
      · subst hij
        rw [own_cons_self] at hj
        exact hj.2
      · rw [own_cons_of_ne hij] at hj
        exact hj

/-- What holds along every run of one thread on its own holds of its events in every joint
run. -/
lemma own_always {prog : ι → Prog C R Unit} {i : ι} {P : Event C R → Hist C R → Prop}
    (hp : ∀ env, Always P ((prog i).run env []).2) (schedule : List ι) :
    Always P (own i (run blocks env (init prog) schedule).hist) :=
  (path_own prog schedule i).always (fun _ c => env [] i c) hp

/-- Every call has been answered by the environment. -/
theorem always_answered (prog : ι → Prog C R Unit) (schedule : List ι) :
    Always (fun e past => e.2.resp = env past e.1 e.2.call)
      (run blocks env (init prog) schedule).hist :=
  hist_invariant (fun _ _ _ hall => ⟨rfl, hall⟩) (init prog) trivial schedule

/-! ## Calls that do not block -/

/-- Two calls of a thread in a row that do not block stand next to each other. -/
def Adjacent (blocks : C → Bool) (e : ι × Event C R) (past : JointHist ι C R) : Prop :=
  blocks e.2.call = false → ∀ e' rest, own e.1 past = e' :: rest → blocks e'.call = false →
    ∃ past', past = (e.1, e') :: past'

/-- **Between two calls of a thread in a row that do not block no other thread runs.**

**Proof sketch.** The invariant says of a thread before a call that does not block, whose latest
call did not block either: it has the turn, and its latest call is the latest of all. A step of
another thread would need the turn. -/
theorem always_adjacent (prog : ι → Prog C R Unit) (schedule : List ι) :
    Always (Adjacent blocks) (run blocks env (init prog) schedule).hist := by
  refine (run_invariant (I := fun s => Always (Adjacent blocks) s.hist ∧
    ∀ i e rest, (s.prog i).quiet blocks = true → own i s.hist = e :: rest →
      blocks e.call = false → s.turn = some i ∧ ∃ past', s.hist = (i, e) :: past') ?_
    (init prog) ⟨trivial, fun i e rest _ hown => by simp [init] at hown⟩ schedule).1
  intro s j hI
  obtain ⟨hall, hturn⟩ := hI
  rcases step_cases blocks env s j with hstay | ⟨c, k, hprog, hfree, hgo⟩
  · rw [hstay]
    exact ⟨hall, hturn⟩
  rw [hgo]
  refine ⟨⟨fun hc e rest hown he => ?_, hall⟩, fun i e rest hquiet hown he => ?_⟩
  · have hnext : (s.prog j).quiet blocks = true := by
      rw [hprog]
      simpa [Prog.quiet] using hc
    exact (hturn j e rest hnext hown he).2
  · by_cases hij : i = j
    · subst hij
      simp only [own_cons_self, List.cons.injEq] at hown
      obtain ⟨rfl, -⟩ := hown
      simp only [Function.update_self] at hquiet
      have hc : blocks c = false := he
      simp [hc, hquiet]
    · simp only [Function.update_of_ne hij, own_cons_of_ne (Ne.symm hij)] at hquiet hown
      have hlock := (hturn i e rest hquiet hown he).1
      rcases hfree with hnone | hsome
      · rw [hlock] at hnone
        cases hnone
      · rw [hlock] at hsome
        exact absurd (Option.some.inj hsome) hij

end System

end Effects
