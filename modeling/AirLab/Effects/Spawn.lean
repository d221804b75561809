import AirLab.Effects.Interleave

set_option relaxedAutoImplicit false
set_option autoImplicit false

/-!
# A main program that starts threads

The main program has calls of its own, some of which start a thread. A thread makes no call before
it is started; from then on it runs beside the main program. What the threads do together is then
a run of the threads alone: whatever holds of all such runs holds of them here.

## Main definitions

* `Effects.MachineHist`, `Effects.mainOf`, `Effects.threadsOf` — histories of a main program and
  its threads.
* `Effects.Machine`, `Effects.Machine.step`, `Effects.Machine.run` — their steps and runs.
* `Effects.Prog.lift` — a program over some of the calls of the main program.

## Main results

* `Effects.Machine.run_refines` — the threads of a machine run as a system of threads.
* `Effects.Machine.always_gated` — every call of a thread comes after the start of the thread.
* `Effects.Machine.always_main` — what holds along every run of the main program on its own holds
  of its events.
-/

namespace Effects

variable {ι B C : Type} {S : B → Type} {R : C → Type} {α β : Type}

/-! ## Histories -/

/-- An event of the main program, or of a thread. -/
abbrev MachineEvent (ι B : Type) (S : B → Type) (C : Type) (R : C → Type) : Type :=
  Event B S ⊕ (ι × Event C R)

/-- A history of the main program and its threads, the most recent event first. -/
abbrev MachineHist (ι B : Type) (S : B → Type) (C : Type) (R : C → Type) : Type :=
  List (MachineEvent ι B S C R)

/-- The events of the main program. -/
def mainOf (M : MachineHist ι B S C R) : Hist B S := M.filterMap Sum.getLeft?

/-- The events of the threads. -/
def threadsOf (M : MachineHist ι B S C R) : JointHist ι C R := M.filterMap Sum.getRight?

/-- Nothing has happened. -/
@[simp] lemma mainOf_nil : mainOf ([] : MachineHist ι B S C R) = [] := rfl

/-- An event of the main program. -/
@[simp] lemma mainOf_inl (e : Event B S) (M : MachineHist ι B S C R) :
    mainOf (.inl e :: M) = e :: mainOf M := rfl

/-- An event of a thread is none of the main program. -/
@[simp] lemma mainOf_inr (e : ι × Event C R) (M : MachineHist ι B S C R) :
    mainOf (.inr e :: M) = mainOf M := rfl

/-- Nothing has happened. -/
@[simp] lemma threadsOf_nil : threadsOf ([] : MachineHist ι B S C R) = [] := rfl

/-- An event of the main program is none of a thread. -/
@[simp] lemma threadsOf_inl (e : Event B S) (M : MachineHist ι B S C R) :
    threadsOf (.inl e :: M) = threadsOf M := rfl

/-- An event of a thread. -/
@[simp] lemma threadsOf_inr (e : ι × Event C R) (M : MachineHist ι B S C R) :
    threadsOf (.inr e :: M) = e :: threadsOf M := rfl

/-- The answers to the main program and to the threads. -/
structure Answers (ι B : Type) (S : B → Type) (C : Type) (R : C → Type) where
  main : MachineHist ι B S C R → (b : B) → S b
  thread : MachineHist ι B S C R → JointEnv ι C R

/-- A main program and its threads, with what they have still to do, and the history. -/
structure Machine (ι B : Type) (S : B → Type) (C : Type) (R : C → Type) where
  main : Prog B S Unit
  prog : ι → Prog C R Unit
  turn : Option ι
  hist : MachineHist ι B S C R

namespace Machine

/-- The machine at its start. -/
def init (main : Prog B S Unit) (prog : ι → Prog C R Unit) : Machine ι B S C R :=
  ⟨main, prog, none, []⟩

/-- The threads of a machine, as a system. -/
def threads (s : Machine ι B S C R) : System ι C R := ⟨s.prog, s.turn, threadsOf s.hist⟩

variable [DecidableEq ι]

/-- The thread has been started. -/
def started (starts : B → Option ι) (M : MachineHist ι B S C R) (i : ι) : Bool :=
  (mainOf M).any fun e => starts e.call = some i

variable (starts : B → Option ι) (blocks : C → Bool) (answers : Answers ι B S C R)

/-- The next call of the main program is answered. -/
def stepMain (s : Machine ι B S C R) : Machine ι B S C R :=
  match s.main with
  | .call b k =>
    { s with
      main := k (answers.main s.hist b)
      hist := .inl ⟨b, answers.main s.hist b⟩ :: s.hist }
  | _ => s

/-- The next call of a thread is answered, if it has been started and may run. -/
def stepThread (s : Machine ι B S C R) (i : ι) : Machine ι B S C R :=
  match s.prog i with
  | .call c k =>
    if started starts s.hist i = true ∧ (s.turn = none ∨ s.turn = some i) then
      { s with
        prog := Function.update s.prog i (k (answers.thread s.hist (threadsOf s.hist) i c))
        turn := if !blocks c &&
            (k (answers.thread s.hist (threadsOf s.hist) i c)).quiet blocks then
          some i else none
        hist := .inr (i, ⟨c, answers.thread s.hist (threadsOf s.hist) i c⟩) :: s.hist }
    else s
  | _ => s

/-- A step of the main program, which may go on at any time, or of a thread. -/
def step (s : Machine ι B S C R) : Option ι → Machine ι B S C R
  | none => stepMain answers s
  | some i => stepThread starts blocks answers s i

/-- The run along a schedule. -/
def run (s : Machine ι B S C R) (schedule : List (Option ι)) : Machine ι B S C R :=
  schedule.foldl (step starts blocks answers) s

variable {starts blocks answers}

/-- **What a step does**: nothing, or it answers the next call of the main program, or of a thread
that has been started. -/
lemma step_cases (starts : B → Option ι) (blocks : C → Bool) (answers : Answers ι B S C R)
    (s : Machine ι B S C R) (a : Option ι) :
    step starts blocks answers s a = s ∨
    (∃ b k, s.main = .call b k ∧ step starts blocks answers s a =
      { s with
        main := k (answers.main s.hist b)
        hist := .inl ⟨b, answers.main s.hist b⟩ :: s.hist }) ∨
    ∃ i c k, s.prog i = .call c k ∧ started starts s.hist i = true ∧
      (s.turn = none ∨ s.turn = some i) ∧ step starts blocks answers s a =
      { s with
        prog := Function.update s.prog i (k (answers.thread s.hist (threadsOf s.hist) i c))
        turn := if !blocks c &&
            (k (answers.thread s.hist (threadsOf s.hist) i c)).quiet blocks then
          some i else none
        hist := .inr (i, ⟨c, answers.thread s.hist (threadsOf s.hist) i c⟩) :: s.hist } := by
  cases a with
  | none =>
    show stepMain answers s = s ∨ _
    rcases hmain : s.main with _ | _ | ⟨b, k⟩
    · exact Or.inl (by simp [stepMain, hmain])
    · exact Or.inl (by simp [stepMain, hmain])
    · exact Or.inr (Or.inl ⟨b, k, rfl, by simp [step, stepMain, hmain]⟩)
  | some i =>
    show stepThread starts blocks answers s i = s ∨ _
    rcases hprog : s.prog i with _ | _ | ⟨c, k⟩
    · exact Or.inl (by simp [stepThread, hprog])
    · exact Or.inl (by simp [stepThread, hprog])
    · by_cases hgo : started starts s.hist i = true ∧ (s.turn = none ∨ s.turn = some i)
      · refine Or.inr (Or.inr ⟨i, c, k, hprog, hgo.1, hgo.2, ?_⟩)
        simp only [step, stepThread, hprog, if_pos hgo]
      · exact Or.inl (by simp only [stepThread, hprog, if_neg hgo])

/-- **What every step preserves holds after every run.** -/
lemma run_invariant {I : Machine ι B S C R → Prop}
    (hstep : ∀ s a, I s → I (step starts blocks answers s a)) (s : Machine ι B S C R) (hs : I s)
    (schedule : List (Option ι)) : I (run starts blocks answers s schedule) := by
  induction schedule generalizing s with
  | nil => exact hs
  | cons a schedule ih => exact ih _ (hstep s a hs)

/-! ## The main program -/

/-- The main program has followed a path. -/
lemma path_main (main : Prog B S Unit) (prog : ι → Prog C R Unit) (schedule : List (Option ι)) :
    Path main [] (run starts blocks answers (init main prog) schedule).main
      (mainOf (run starts blocks answers (init main prog) schedule).hist) := by
  refine run_invariant (I := fun s => Path main [] s.main (mainOf s.hist)) ?_ _ Path.refl schedule
  intro s a hI
  rcases step_cases starts blocks answers s a with
    hstay | ⟨b, k, hmain, hgo⟩ | ⟨i, c, k, -, -, -, hgo⟩
  · rw [hstay]
    exact hI
  · rw [hgo]
    rw [hmain] at hI
    exact hI.answer (answers.main s.hist b)
  · rw [hgo]
    exact hI

/-- **What holds along every run of the main program on its own holds of its events.** -/
theorem always_main {main : Prog B S Unit} {P : Event B S → Hist B S → Prop}
    (hp : ∀ env, Always P (main.run env []).2) (prog : ι → Prog C R Unit)
    (schedule : List (Option ι)) :
    Always P (mainOf (run starts blocks answers (init main prog) schedule).hist) :=
  (path_main main prog schedule).always (fun _ b => answers.main [] b) hp

/-- An event of a thread, if it is one, comes after the start of the thread. -/
def Gated (starts : B → Option ι) (e : MachineEvent ι B S C R) (past : MachineHist ι B S C R) :
    Prop :=
  ∀ t, e = .inr t → started starts past t.1 = true

/-- **Every call of a thread comes after the start of the thread.** -/
theorem always_gated (main : Prog B S Unit) (prog : ι → Prog C R Unit)
    (schedule : List (Option ι)) :
    Always (Gated starts) (run starts blocks answers (init main prog) schedule).hist := by
  refine run_invariant (I := fun s => Always (Gated starts) s.hist) ?_ (init main prog) trivial
    schedule
  intro s a hI
  rcases step_cases starts blocks answers s a with hstay | ⟨b, k, -, hgo⟩ | ⟨i, c, k, -, hs, -, hgo⟩
  · rw [hstay]
    exact hI
  · rw [hgo]
    exact ⟨nofun, hI⟩
  · rw [hgo]
    refine ⟨fun t ht => ?_, hI⟩
    obtain rfl := Sum.inr.inj ht
    exact hs

/-! ## The threads -/

/-- A system only adds to its history. -/
lemma system_hist_suffix {env : JointEnv ι C R} (s : System ι C R) (schedule : List ι) :
    s.hist <:+ (System.run blocks env s schedule).hist :=
  System.hist_invariant (I := fun H => s.hist <:+ H)
    (fun _ _ _ hH => hH.trans (List.suffix_cons _ _)) s List.suffix_rfl schedule

/-- A run depends only on the answers it has got. -/
lemma system_run_congr {env env' : JointEnv ι C R} (s : System ι C R) (schedule : List ι)
    (henv : ∀ H, H.length < (System.run blocks env s schedule).hist.length → env H = env' H) :
    System.run blocks env' s schedule = System.run blocks env s schedule := by
  induction schedule generalizing s with
  | nil => rfl
  | cons i schedule ih =>
    have hstep : System.step blocks env' s i = System.step blocks env s i := by
      rcases System.step_cases blocks env s i with hstay | ⟨c, k, hprog, hfree, hgo⟩
      · rcases System.step_cases blocks env' s i with hstay' | ⟨c, k, hprog, hfree, -⟩
        · rw [hstay, hstay']
        · -- both environments let the thread go on, or neither does
          exfalso
          have hlength := congrArg (fun s => s.hist.length) hstay
          unfold System.step at hlength
          rw [hprog] at hlength
          simp only [if_pos hfree, List.length_cons] at hlength
          omega
      · have hbefore : s.hist.length < (System.run blocks env s (i :: schedule)).hist.length := by
          have hlater : (System.step blocks env s i).hist.length ≤
              (System.run blocks env (System.step blocks env s i) schedule).hist.length :=
            (system_hist_suffix _ schedule).length_le
          have hfinal : System.run blocks env s (i :: schedule) =
              System.run blocks env (System.step blocks env s i) schedule := rfl
          rw [hfinal]
          refine Nat.lt_of_lt_of_le ?_ hlater
          rw [hgo]
          exact Nat.lt_succ_self _
        unfold System.step
        rw [hprog]
        simp only [henv s.hist hbefore]
    exact (congrArg (System.run blocks env' · schedule) hstep).trans (ih _ henv)

/-- **The threads of a machine run as a system of threads.** For every run of the machine there
are a schedule and answers of the threads alone with the same run, the answers being those that
the machine had.

**Proof sketch.** Induction on the schedule. A step of a thread is a step of the system, if the
environment gives at the threads' history the answers that the machine has at this moment; it was
not asked at that history before. -/
theorem run_refines (main : Prog B S Unit) (prog : ι → Prog C R Unit)
    (schedule : List (Option ι)) :
    ∃ (moment : JointHist ι C R → MachineHist ι B S C R) (threadSchedule : List ι),
      (run starts blocks answers (init main prog) schedule).threads =
        System.run blocks (fun H => answers.thread (moment H) H) (System.init prog)
          threadSchedule := by
  classical
  refine run_invariant (I := fun s => ∃ (moment : JointHist ι C R → MachineHist ι B S C R)
    (threadSchedule : List ι), s.threads = System.run blocks
      (fun H => answers.thread (moment H) H) (System.init prog) threadSchedule) ?_ _
    ⟨fun _ => [], [], rfl⟩ schedule
  intro s a hI
  obtain ⟨moment, threadSchedule, hthreads⟩ := hI
  rcases step_cases starts blocks answers s a with hstay | ⟨b, k, -, hgo⟩ |
    ⟨i, c, k, hprog, -, hturn, hgo⟩
  · rw [hstay]
    exact ⟨moment, threadSchedule, hthreads⟩
  · rw [hgo]
    exact ⟨moment, threadSchedule, hthreads⟩
  · refine ⟨Function.update moment (threadsOf s.hist) s.hist, threadSchedule ++ [i], ?_⟩
    have hsame : System.run blocks (fun H => answers.thread
        (Function.update moment (threadsOf s.hist) s.hist H) H) (System.init prog)
          threadSchedule = s.threads := by
      rw [hthreads]
      refine system_run_congr _ _ fun H hH => ?_
      rw [← hthreads] at hH
      have hne : H ≠ threadsOf s.hist := by
        rintro rfl
        exact Nat.lt_irrefl _ hH
      simp only [Function.update_of_ne hne]
    have happend : System.run blocks (fun H => answers.thread
        (Function.update moment (threadsOf s.hist) s.hist H) H) (System.init prog)
          (threadSchedule ++ [i]) = System.step blocks (fun H => answers.thread
        (Function.update moment (threadsOf s.hist) s.hist H) H) s.threads i := by
      rw [← hsame]
      exact List.foldl_append
    rw [happend, hgo]
    unfold System.step threads
    simp only [hprog, if_pos hturn, Function.update_self, threadsOf_inr]

end Machine

/-! ## Programs over some of the calls -/

/-- A program over other calls: `f` says which call stands for a call, and `g` reads its
answer. -/
def Prog.lift (f : C → B) (g : (c : C) → S (f c) → R c) : Prog C R α → Prog B S α
  | .ret a => .ret a
  | .spent => .spent
  | .call c k => .call (f c) fun r => (k (g c r)).lift f g

/-- A sequence. -/
lemma Prog.lift_bind (f : C → B) (g : (c : C) → S (f c) → R c) (p : Prog C R α)
    (q : α → Prog C R β) :
    (p >>= q).lift f g = p.lift f g >>= fun a => (q a).lift f g := by
  change (p.bind q).lift f g = (p.lift f g).bind fun a => (q a).lift f g
  induction p with
  | ret a => rfl
  | spent => rfl
  | call c k ih => exact congrArg (Prog.call (f c)) (funext fun r => ih (g c r))

/-! ## The two histories -/

/-- What holds of the events of the threads, seen in the history of the machine. -/
lemma always_threadsOf_iff {P : ι × Event C R → JointHist ι C R → Prop}
    {M : MachineHist ι B S C R} :
    Always P (threadsOf M) ↔ Always (fun e past => ∀ t, e = .inr t → P t (threadsOf past)) M := by
  induction M with
  | nil => exact Iff.rfl
  | cons e M ih =>
    cases e with
    | inl e =>
      rw [threadsOf_inl, always_cons, ih]
      exact ⟨fun h => ⟨nofun, h⟩, fun h => h.2⟩
    | inr t =>
      rw [threadsOf_inr, always_cons, always_cons, ih]
      exact and_congr_left fun _ =>
        ⟨fun h t' ht' => Sum.inr.inj ht' ▸ h, fun h => h t rfl⟩

/-- A thread that has been started was started by a call. -/
lemma Machine.exists_start [DecidableEq ι] {starts : B → Option ι} {M : MachineHist ι B S C R}
    {i : ι} (hs : Machine.started starts M i = true) :
    ∃ e ∈ mainOf M, starts e.call = some i := by
  unfold Machine.started at hs
  simpa using hs

/-- Before a thread is started no thread has made a call. -/
lemma Machine.threadsOf_eq_nil [DecidableEq ι] {starts : B → Option ι} {M : MachineHist ι B S C R}
    (hgated : Always (Machine.Gated starts) M)
    (hno : ∀ e ∈ mainOf M, starts e.call = none) : threadsOf M = [] := by
  induction M with
  | nil => rfl
  | cons e M ih =>
    cases e with
    | inl e =>
      exact ih hgated.2 fun e' he' => hno e' (List.mem_cons_of_mem _ he')
    | inr t =>
      obtain ⟨e, he, hstart⟩ := Machine.exists_start (hgated.1 t rfl)
      have hnone := hno e he
      rw [hstart] at hnone
      cases hnone

end Effects
