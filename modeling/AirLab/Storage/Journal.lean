import AirLab.Effects.Journal
import AirLab.Records
import AirLab.Storage.Log
import AirLab.Storage.Script
import AirLab.Uplink

set_option relaxedAutoImplicit false
set_option autoImplicit false

/-!
# The log files of a run

A measuring thread writes each record to its file once, before it formats the next one. Hence
each log file is a journal of the records of its thread, whatever the other threads do in
between. The gas thread saves a record before it copies it for the sender, so a payload on its
port has been written to its file before.

## Main definitions

* `AirLab.Journals` — a thread writes each record once, before it formats the next one.
* `AirLab.reported` — how many characters the writes to a file reported.
* `AirLab.SavedFirst` — a record is saved before it is copied.

## Main results

* `AirLab.log_journaled` — each log file is a journal of the records of its thread.
* `AirLab.payload_saved` — a payload on port 1 was saved before.
-/

namespace AirLab

open CLang Effects

/-! ## The journal of a thread -/

/-- A write to a file. -/
def Call.isWrite : Call → Bool
  | .fsWrite _ _ => true
  | _ => false

/-- The number of writes to files. -/
def writes (h : History) : ℕ := occurrences (fun e => e.call.isWrite) h

/-- The writes after an event. -/
@[simp] lemma writes_cons (e : BoardEvent) (past : History) :
    writes (e :: past) = writes past + if e.call.isWrite then 1 else 0 := occurrences_cons _ e past

/-- **A thread that keeps a journal in the file**: it writes to no other file, writes each record
once, the latest one, and has written all records before it formats the next. -/
def Journals (fname : Text) (e : BoardEvent) (past : History) : Prop :=
  match e.call with
  | .snprintfcb _ => writes past = (formatted past).length
  | .fsWrite f data => f = fname ∧ ((formatted past).map CStr.chars).head? = some data ∧
      writes past < (formatted past).length
  | _ => True

/-- The call neither formats nor writes. -/
def Call.Unlogged : Call → Prop
  | .snprintfcb _ => False
  | .fsWrite _ _ => False
  | _ => True

/-- Every record has been written. -/
def Even (fname : Text) (h : History) : Prop :=
  Always (Journals fname) h ∧ writes h = (formatted h).length

/-- The record `t` is still to be written. -/
def Due (fname : Text) (t : CStr 200) (h : History) : Prop :=
  Always (Journals fname) h ∧ writes h + 1 = (formatted h).length ∧ (formatted h).head? = some t

/-- Calls without a record are not logged. -/
lemma Call.unlogged_of_noRecord (c : Call) (hc : c.recordOp? = none) : c.Unlogged := by
  cases c <;> simp_all [Call.recordOp?, Call.Unlogged]

section Journal

variable {env : Env Call Resp} {fname : Text} {α : Type} {e : BoardEvent} {h : History}

/-- An event that neither formats nor writes is as it should be, and changes no number. -/
lemma unlogged_cons (fname : Text) (h : History) (he : e.call.Unlogged) : Journals fname e h ∧
    writes (e :: h) = writes h ∧ formatted (e :: h) = formatted h := by
  obtain ⟨c, r⟩ := e
  rw [writes_cons]
  cases c <;> first | exact he.elim | exact ⟨trivial, rfl, rfl⟩

/-- Every record stays written. -/
lemma Even.cons (hh : Even fname h) (he : e.call.Unlogged) : Even fname (e :: h) := by
  obtain ⟨hnow, hwrites, hformatted⟩ := unlogged_cons fname h he
  exact ⟨⟨hnow, hh.1⟩, by rw [hwrites, hformatted, hh.2]⟩

/-- The record stays due. -/
lemma Due.cons {t : CStr 200} (hh : Due fname t h) (he : e.call.Unlogged) :
    Due fname t (e :: h) := by
  obtain ⟨hnow, hwrites, hformatted⟩ := unlogged_cons fname h he
  refine ⟨⟨hnow, hh.1⟩, ?_, ?_⟩
  · rw [hwrites, hformatted, hh.2.1]
  · rw [hformatted, hh.2.2]

/-- A program without a record leaves every record written. -/
lemma even_of_calls {p : App α} (hp : p.Within fun c => c.recordOp? = none) :
    Prog.Triple env (Even fname) p (fun _ => Even fname) (Always (Journals fname)) :=
  Prog.Triple.of_calls (fun e _ he hh => hh.cons (Call.unlogged_of_noRecord e.call he))
    (fun _ _ hh => hh.1) hp

/-- Formatting a record makes it due. -/
lemma snprintfcb_due (t : Text) : Prog.Triple env (Even fname) (snprintfcb t)
    (fun textData => Due fname textData) (Always (Journals fname)) := by
  intro h hh
  rw [wp_snprintfcb]
  refine ⟨⟨hh.2, hh.1⟩, ?_, rfl⟩
  simp [Call.isWrite, formatted, hh.2]

/-- Copying a record leaves it due. -/
lemma strcpy_due (dst : Mailbox) (t : CStr 200) : Prog.Triple env (Due fname t) (strcpy dst t)
    (fun _ => Due fname t) (Always (Journals fname)) := by
  intro h hh
  rw [wp_strcpy]
  exact hh.cons trivial

/-- Copying a record leaves every record written. -/
lemma strcpy_even (dst : Mailbox) (t : CStr 200) : Prog.Triple env (Even fname) (strcpy dst t)
    (fun _ => Even fname) (Always (Journals fname)) := by
  intro h hh
  rw [wp_strcpy]
  exact hh.cons trivial

/-- `save_data` writes the record that is due. -/
lemma saveData_even (data : CStr 200) (type : String) :
    Prog.Triple env (Due (logName type) data) (saveData data type) (fun _ => Even (logName type))
      (Always (Journals (logName type))) := by
  intro h hh
  have hopen := hh.cons (e := ⟨.fsOpen (logName type), env h (.fsOpen (logName type))⟩) trivial
  have hwrite : ∀ rc, Even (logName type) (⟨.fsWrite (logName type) data.chars, rc⟩ ::
      ⟨.fsOpen (logName type), env h (.fsOpen (logName type))⟩ :: h) := by
    intro rc
    obtain ⟨hall, hcount, hlatest⟩ := hopen
    refine ⟨⟨⟨rfl, ?_, by omega⟩, hall⟩, ?_⟩
    · rw [List.head?_map, hlatest]
      rfl
    · simp only [writes_cons, Call.isWrite, if_true]
      exact hcount
  simp only [saveData, fsOpen, fsWrite, fsClose, Prog.wp_bind, Prog.wp_perform, Prog.wp_ite,
    wp_kMsleep]
  split_ifs
  · exact ((hwrite _).cons (e := ⟨.kMsleep 500, ()⟩) trivial).cons trivial
  · exact (hwrite _).cons trivial

/-- A pass of the gas thread keeps the journal. -/
lemma readGasPass_even (l : (Fin 8 → UInt16) × (Fin 3 → Flt)) :
    Prog.Triple env (Even (logName "gas")) (readGasPass l) (fun _ => Even (logName "gas"))
      (Always (Journals (logName "gas"))) := by
  have hsleep : (kMsleep 30000).Within fun c => c.recordOp? = none := perform_within rfl
  unfold readGasPass
  refine (even_of_calls ((gasSensorsRead_calls l.1 5).mono Call.ofGas.noRecord)).bind fun gs => ?_
  refine (even_of_calls ((ambientSensorsRead_calls 1 l.2).mono
    Call.ofAmbient.noRecord)).bind fun a => ?_
  refine (snprintfcb_due _).bind fun textData => ?_
  refine (saveData_even textData "gas").bind fun _ => ?_
  refine (strcpy_even _ textData).bind fun _ => (even_of_calls hsleep).bind fun _ => ?_
  exact Prog.Triple.pure fun _ hh => hh

/-- A pass of the particle thread keeps the journal. -/
lemma countParticlesPass_even (fuel : ℕ) (a : Fin 3 → Flt) :
    Prog.Triple env (Even (logName "opc")) (countParticlesPass fuel a)
      (fun _ => Even (logName "opc")) (Always (Journals (logName "opc"))) := by
  have hpin : ∀ v, (gpioPinSet ledRed v).Within fun c => c.recordOp? = none := fun v =>
    perform_within rfl
  have hsleep : (kMsleep 120000).Within fun c => c.recordOp? = none := perform_within rfl
  unfold countParticlesPass
  refine (even_of_calls (hpin _)).bind fun _ => ?_
  refine (even_of_calls ((opcCycle_calls fuel 7).mono Call.ofPower.noRecord id)).bind fun data => ?_
  refine (even_of_calls (hpin _)).bind fun _ => ?_
  refine (even_of_calls ((ambientSensorsRead_calls 1 a).mono
    Call.ofAmbient.noRecord)).bind fun a => ?_
  refine (snprintfcb_due _).bind fun textData => (strcpy_due _ textData).bind fun _ => ?_
  refine (saveData_even textData "opc").bind fun _ => ?_
  exact (even_of_calls hsleep).bind fun _ => Prog.Triple.pure fun _ hh => hh

end Journal

/-- What each thread does with the log files. -/
def LogDiscipline : ThreadId → BoardEvent → History → Prop
  | .gas => Journals (logName "gas")
  | .particle => Journals (logName "opc")
  | .sender => fun e _ => e.call.Unlogged

/-- Every thread on its own keeps its discipline. -/
lemma application_journals (fuel joins : ℕ) (passes : ThreadId → ℕ) (i : ThreadId)
    (env : Env Call Resp) :
    Always (LogDiscipline i) ((application fuel joins passes i).run env []).2 := by
  apply Prog.wp.final
  cases i with
  | gas =>
    have hsleep : (kMsleep 10000).Within fun c => c.recordOp? = none := perform_within rfl
    have huninit : (uninit .gs).Within fun c => c.recordOp? = none := perform_within rfl
    have hgas : Prog.Triple env (Even (logName "gas")) (readGasAndAmbientSensors (passes .gas))
        (fun _ => Even (logName "gas")) (Always (Journals (logName "gas"))) :=
      (even_of_calls hsleep).bind fun _ => (even_of_calls huninit).bind fun gs =>
        Prog.Triple.forRange (I := fun _ _ => Even (logName "gas")) (passes .gas)
          (fun _ _ l => readGasPass_even l) _
    exact (hgas.bind fun _ => Prog.Triple.pure (a := ()) fun _ hh => hh.1) [] ⟨trivial, rfl⟩
  | particle =>
    have hparticle : Prog.Triple env (Even (logName "opc")) (countParticles fuel (passes .particle))
        (fun _ => Even (logName "opc")) (Always (Journals (logName "opc"))) :=
      Prog.Triple.forRange (I := fun _ _ => Even (logName "opc")) (passes .particle)
        (fun _ _ a => countParticlesPass_even fuel a) _
    exact (hparticle.bind fun _ => Prog.Triple.pure (a := ()) fun _ hh => hh.1) [] ⟨trivial, rfl⟩
  | sender =>
    have hcalls := (sendData_calls joins (passes .sender)).mono Call.ofRadio.noRecord id
    exact Prog.Triple.of_calls (I := Always (LogDiscipline .sender))
      (fun e _ he hh => ⟨Call.unlogged_of_noRecord e.call he, hh⟩) (fun _ _ hh => hh) hcalls
      [] trivial

/-- The thread that keeps a journal in a file. -/
def Keeps (producer : ThreadId) (fname : Text) : Prop :=
  producer = .gas ∧ fname = logName "gas" ∨ producer = .particle ∧ fname = logName "opc"

/-- The two files have different names. -/
lemma logName_ne : logName "gas" ≠ logName "opc" := by decide

/-- A file is kept by one thread, and a thread keeps one file. -/
lemma Keeps.iff {i producer : ThreadId} {f fname : Text} (hi : Keeps i f)
    (hproducer : Keeps producer fname) : f = fname ↔ i = producer := by
  have hne := logName_ne
  rcases hi with ⟨rfl, rfl⟩ | ⟨rfl, rfl⟩ <;> rcases hproducer with ⟨rfl, rfl⟩ | ⟨rfl, rfl⟩
  · exact iff_of_true rfl rfl
  · exact iff_of_false hne nofun
  · exact iff_of_false hne.symm nofun
  · exact iff_of_true rfl rfl

/-- What is written is the latest record of the thread, to the file of the thread. -/
lemma LogDiscipline.of_fsWrite {i : ThreadId} {f data : Text} {rc : ℤ} {past : History}
    (h : LogDiscipline i ⟨.fsWrite f data, rc⟩ past) : Keeps i f ∧
      ((formatted past).map CStr.chars).head? = some data ∧
      writes past < (formatted past).length := by
  cases i with
  | gas =>
    obtain ⟨rfl, hlatest, hlt⟩ : f = logName "gas" ∧ _ := h
    exact ⟨Or.inl ⟨rfl, rfl⟩, hlatest, hlt⟩
  | particle =>
    obtain ⟨rfl, hlatest, hlt⟩ : f = logName "opc" ∧ _ := h
    exact ⟨Or.inr ⟨rfl, rfl⟩, hlatest, hlt⟩
  | sender => exact (h : False).elim

/-- A record is formatted when all others have been written. -/
lemma LogDiscipline.of_snprintfcb {i : ThreadId} {t : CStr 200} {r : Unit} {past : History}
    (h : LogDiscipline i ⟨.snprintfcb t, r⟩ past) : writes past = (formatted past).length := by
  cases i with
  | gas => exact h
  | particle => exact h
  | sender => exact (h : False).elim

/-! ## The files of a run -/

/-- How many characters the writes to a file reported, the latest first. A failed write reports
an error code, which is negative. -/
def reported (fname : Text) : History → List ℕ
  | [] => []
  | ⟨.fsWrite f _, rc⟩ :: past =>
    if f = fname then (rc : ℤ).toNat :: reported fname past else reported fname past
  | _ :: past => reported fname past

/-- The events of a log file: the records its thread formats, and what its writes took. -/
def journalView (producer : ThreadId) (fname : Text) :
    ThreadId × BoardEvent → Option (JournalEvent Char)
  | (i, ⟨.snprintfcb t, _⟩) => if i = producer then some (.produce t.chars) else none
  | (_, ⟨.fsWrite f data, rc⟩) =>
    if f = fname then some (.append data (rc : ℤ).toNat) else none
  | _ => none

section View

variable {producer : ThreadId} {fname : Text}

/-- The texts are the records formatted by the producer. -/
lemma produced_journalView (producer : ThreadId) (fname : Text) (H : AppHistory) :
    JournalEvent.produced (H.filterMap (journalView producer fname)) = records producer H := by
  induction H with
  | nil => rfl
  | cons e H ih =>
    obtain ⟨i, c, r⟩ := e
    unfold records at ih ⊢
    by_cases hi : i = producer
    · subst hi
      rw [own_cons_self]
      cases c <;> simp only [List.filterMap_cons, journalView, formatted, if_true] <;>
        first | exact ih | skip
      · simp [JournalEvent.produced, ih]
      · split_ifs <;> simp [JournalEvent.produced, ih]
    · rw [own_cons_of_ne hi]
      cases c <;> simp only [List.filterMap_cons, journalView, if_neg hi] <;>
        first | exact ih | skip
      split_ifs <;> simp [JournalEvent.produced, ih]

/-- The content is that of the log file. -/
lemma content_journalView (producer : ThreadId) (fname : Text) (H : AppHistory) :
    JournalEvent.content (H.filterMap (journalView producer fname)) =
      logContent fname (H.map Prod.snd) := by
  induction H with
  | nil => rfl
  | cons e H ih =>
    obtain ⟨i, c, r⟩ := e
    cases c <;> simp only [List.filterMap_cons, List.map_cons, journalView, logContent] <;>
      first | exact ih | skip
    · split_ifs <;> simp [JournalEvent.content, ih]
    · split_ifs <;> simp [JournalEvent.content, ih]

/-- The counts are those that the writes to the file reported. -/
lemma counts_journalView (producer : ThreadId) (fname : Text) (H : AppHistory) :
    JournalEvent.counts (H.filterMap (journalView producer fname)) =
      reported fname (H.map Prod.snd) := by
  induction H with
  | nil => rfl
  | cons e H ih =>
    obtain ⟨i, c, r⟩ := e
    cases c <;> simp only [List.filterMap_cons, List.map_cons, journalView, reported] <;>
      first | exact ih | skip
    · split_ifs <;> simp [JournalEvent.counts, ih]
    · split_ifs <;> simp [JournalEvent.counts, ih]

/-- What was appended to a file are the writes of the thread that keeps it. -/
lemma length_appended (hkeeps : Keeps producer fname) {H : AppHistory}
    (hown : Always (fun e past => LogDiscipline e.1 e.2 (own e.1 past)) H) :
    (JournalEvent.appended (H.filterMap (journalView producer fname))).length =
      writes (own producer H) := by
  induction H with
  | nil => rfl
  | cons e H ih =>
    obtain ⟨hnow, hpast⟩ := hown
    have hrest := ih hpast
    obtain ⟨i, c, r⟩ := e
    by_cases hi : i = producer
    · subst hi
      rw [own_cons_self, writes_cons, ← hrest]
      cases c <;> first | rfl | skip
      · simp [journalView, JournalEvent.appended, Call.isWrite]
      · have hf := (hnow.of_fsWrite.1.iff hkeeps).2 rfl
        simp [journalView, JournalEvent.appended, Call.isWrite, hf]
    · rw [own_cons_of_ne hi, ← hrest]
      cases c <;> first | rfl | skip
      · simp only [List.filterMap_cons, journalView, if_neg hi]
      · have hf := fun heq => hi ((hnow.of_fsWrite.1.iff hkeeps).1 heq)
        simp only [List.filterMap_cons, journalView, if_neg hf]

/-- **The log files are used like journals.** -/
lemma always_orderly_journal (hkeeps : Keeps producer fname) {H : AppHistory}
    (hown : Always (fun e past => LogDiscipline e.1 e.2 (own e.1 past)) H) :
    Always JournalEvent.Orderly (H.filterMap (journalView producer fname)) := by
  apply Always.filterMap
  induction H with
  | nil => trivial
  | cons e past ih =>
    obtain ⟨hnow, hpast⟩ := hown
    refine ⟨fun a ha => ?_, ih hpast⟩
    have hlength := length_appended hkeeps hpast
    have hproduced := produced_journalView producer fname past
    obtain ⟨i, c, r⟩ := e
    cases c with
    | snprintfcb t =>
      simp only [journalView] at ha
      split_ifs at ha with hi
      cases ha
      subst hi
      show (JournalEvent.appended _).length = (JournalEvent.produced _).length
      rw [hlength, hproduced, hnow.of_snprintfcb, records, List.length_map]
    | fsWrite f data =>
      simp only [journalView] at ha
      split_ifs at ha with hf
      cases ha
      obtain ⟨hi, hlatest, hlt⟩ := hnow.of_fsWrite
      obtain rfl := (hi.iff hkeeps).1 hf
      refine ⟨?_, ?_⟩
      · rw [hproduced]
        exact hlatest
      · rw [hlength, hproduced, records, List.length_map]
        exact hlt
    | _ => simp [journalView] at ha

end View

/-- A write that is not short appends all or nothing. -/
lemma allOrNothing_of_not_short {data : Text} {rc : ℤ} (hnot : ¬ (0 < rc ∧ rc < data.length)) :
    JournalEvent.AllOrNothing data rc.toNat := by
  unfold JournalEvent.AllOrNothing
  omega

/-- **What a log file holds of the records of its thread.** -/
structure LogIntegrity (producer : ThreadId) (fname : Text) (H : AppHistory) : Prop where
  /-- Of each record what its write reported, in the order of their production. -/
  journaled : Journaled (records producer H) (reported fname (H.map Prod.snd))
    (logContent fname (H.map Prod.snd))
  /-- Some of the records, whole, if no write to the file was short. -/
  whole : Always (fun e _ => ¬ ShortWrite fname e.2) H → ∃ whole : List Text,
    whole.Sublist (records producer H).reverse ∧
      logContent fname (H.map Prod.snd) = whole.flatten

/-- A journal has its content from the records. -/
lemma logIntegrity_of_keeps {producer : ThreadId} {fname : Text} (hkeeps : Keeps producer fname)
    {H : AppHistory} (hown : Always (fun e past => LogDiscipline e.1 e.2 (own e.1 past)) H) :
    LogIntegrity producer fname H := by
  have horderly := always_orderly_journal hkeeps hown
  constructor
  · rw [← produced_journalView producer fname, ← counts_journalView producer fname,
      ← content_journalView producer fname]
    exact JournalEvent.journaled horderly
  · intro hwhole
    rw [← produced_journalView producer fname, ← content_journalView producer fname]
    refine JournalEvent.content_whole horderly (Always.filterMap (hwhole.imp ?_))
    intro e past he a ha
    obtain ⟨i, c, r⟩ := e
    cases c with
    | snprintfcb t =>
      simp only [journalView] at ha
      split_ifs at ha
      cases ha
      trivial
    | fsWrite f data =>
      simp only [journalView] at ha
      split_ifs at ha with hf
      cases ha
      exact allOrNothing_of_not_short fun hshort => he ⟨hf, hshort⟩
    | _ => simp [journalView] at ha

/-- The file of a thread has its content from the records of the thread. -/
lemma appHistory_logIntegrity (env : AppEnv) (fuel joins : ℕ) (passes : ThreadId → ℕ)
    (schedule : List ThreadId) {producer : ThreadId} {fname : Text}
    (hkeeps : Keeps producer fname) :
    LogIntegrity producer fname (appHistory env fuel joins passes schedule) :=
  logIntegrity_of_keeps hkeeps (System.always_own (application_journals fuel joins passes) schedule)

/-- **Each log file is a journal of its thread.** In every run of the application, whatever the
file system answers and however the threads interleave, each record that a thread formatted was
written once, in the order of their production and at most the latest not yet, and the file holds
of each as many characters as its write reported. If no write to the file is short it holds whole
records. -/
theorem log_journaled (env : AppEnv) (fuel joins : ℕ) (passes : ThreadId → ℕ)
    (schedule : List ThreadId) :
    LogIntegrity .gas (logName "gas") (appHistory env fuel joins passes schedule) ∧
      LogIntegrity .particle (logName "opc") (appHistory env fuel joins passes schedule) :=
  ⟨appHistory_logIntegrity env fuel joins passes schedule (Or.inl ⟨rfl, rfl⟩),
    appHistory_logIntegrity env fuel joins passes schedule (Or.inr ⟨rfl, rfl⟩)⟩

/-! ## Saved before it is sent -/

/-- The gas thread copies a record only after a write of it to its file. -/
def SavedFirst (e : BoardEvent) (past : History) : Prop :=
  ∀ dst t, e.call = .strcpy dst t → ∃ rc, ⟨.fsWrite (logName "gas") t.chars, rc⟩ ∈ past

section Saved

variable {env : Env Call Resp} {α : Type}

/-- A call that copies nothing. -/
lemma savedFirst_cons {e : BoardEvent} {h : History} (he : ∀ dst t, e.call ≠ .strcpy dst t)
    (hh : Always SavedFirst h) : Always SavedFirst (e :: h) :=
  ⟨fun dst t hcopy => absurd hcopy (he dst t), hh⟩

/-- A program without a record copies nothing. -/
lemma savedFirst_of_calls {p : App α} (hp : p.Within fun c => c.recordOp? = none) :
    Prog.Triple env (Always SavedFirst) p (fun _ => Always SavedFirst) (Always SavedFirst) := by
  refine Prog.Triple.of_calls (fun e h he hh => savedFirst_cons (fun dst t hcopy => ?_) hh)
    (fun _ _ hh => hh) hp
  rw [hcopy] at he
  cases he

/-- After `save_data` the record has been written. -/
lemma saveData_saved (data : CStr 200) (type : String) :
    Prog.Triple env (Always SavedFirst) (saveData data type)
      (fun _ h => Always SavedFirst h ∧ ∃ rc, ⟨.fsWrite (logName type) data.chars, rc⟩ ∈ h)
      (Always SavedFirst) := by
  intro h hh
  have hopen := savedFirst_cons (e := ⟨.fsOpen (logName type), env h (.fsOpen (logName type))⟩)
    (by simp) hh
  have hwrite : ∀ rc, Always SavedFirst (⟨.fsWrite (logName type) data.chars, rc⟩ ::
      ⟨.fsOpen (logName type), env h (.fsOpen (logName type))⟩ :: h) := fun rc =>
    savedFirst_cons (by simp) hopen
  simp only [saveData, fsOpen, fsWrite, fsClose, Prog.wp_bind, Prog.wp_perform, Prog.wp_ite,
    wp_kMsleep]
  split_ifs
  · refine ⟨savedFirst_cons (by simp) (savedFirst_cons (e := ⟨.kMsleep 500, ()⟩)
      (by simp) (hwrite _)), ?_⟩
    exact ⟨_, List.mem_cons_of_mem _ (List.mem_cons_of_mem _ List.mem_cons_self)⟩
  · exact ⟨savedFirst_cons (by simp) (hwrite _), _,
      List.mem_cons_of_mem _ List.mem_cons_self⟩

/-- A pass of the gas thread saves its record first. -/
lemma readGasPass_saved (l : (Fin 8 → UInt16) × (Fin 3 → Flt)) :
    Prog.Triple env (Always SavedFirst) (readGasPass l) (fun _ => Always SavedFirst)
      (Always SavedFirst) := by
  have hsleep : (kMsleep 30000).Within fun c => c.recordOp? = none := perform_within rfl
  unfold readGasPass
  refine (savedFirst_of_calls ((gasSensorsRead_calls l.1 5).mono
    Call.ofGas.noRecord)).bind fun gs => ?_
  refine (savedFirst_of_calls ((ambientSensorsRead_calls 1 l.2).mono
    Call.ofAmbient.noRecord)).bind fun a => ?_
  refine Prog.Triple.bind (Q := fun _ => Always SavedFirst) ?_ fun textData => ?_
  · intro h hh
    rw [wp_snprintfcb]
    exact savedFirst_cons (fun _ _ => nofun) hh
  refine (saveData_saved textData "gas").bind fun _ => ?_
  refine Prog.Triple.bind (Q := fun _ => Always SavedFirst) ?_ fun _ => ?_
  · intro h hh
    rw [wp_strcpy]
    refine ⟨fun dst t hcopy => ?_, hh.1⟩
    obtain ⟨-, rfl⟩ : Mailbox.gasMsg = dst ∧ textData = t := by simpa using hcopy
    exact hh.2
  exact (savedFirst_of_calls hsleep).bind fun _ => Prog.Triple.pure fun _ hh => hh

end Saved

/-- The gas thread saves its records first. -/
lemma gas_savedFirst (env : AppEnv) (fuel joins : ℕ) (passes : ThreadId → ℕ)
    (schedule : List ThreadId) :
    Always SavedFirst (own .gas (appHistory env fuel joins passes schedule)) := by
  refine System.own_always (fun env => Prog.wp.final ?_) schedule
  have hsleep : (kMsleep 10000).Within fun c => c.recordOp? = none := perform_within rfl
  have huninit : (uninit .gs).Within fun c => c.recordOp? = none := perform_within rfl
  have hgas : Prog.Triple env (Always SavedFirst) (readGasAndAmbientSensors (passes .gas))
      (fun _ => Always SavedFirst) (Always SavedFirst) :=
    (savedFirst_of_calls hsleep).bind fun _ => (savedFirst_of_calls huninit).bind fun gs =>
      Prog.Triple.forRange (I := fun _ _ => Always SavedFirst) (passes .gas)
        (fun _ _ l => readGasPass_saved l) _
  exact (hgas.bind fun _ => Prog.Triple.pure (a := ()) fun _ hh => hh) [] trivial

/-- A message array that is not empty holds what was last copied into it. -/
lemma exists_strcpy {m : Mailbox} {H : AppHistory} (hne : (message m H).chars ≠ []) :
    ∃ i later past, H = later ++ (i, ⟨.strcpy m (message m H), ()⟩) :: past := by
  induction H with
  | nil => exact absurd rfl hne
  | cons e H ih =>
    obtain ⟨i, c, r⟩ := e
    have hearlier : message m ((i, ⟨c, r⟩) :: H) = message m H →
        ∃ j later past, (i, ⟨c, r⟩) :: H =
          later ++ (j, ⟨.strcpy m (message m ((i, ⟨c, r⟩) :: H)), ()⟩) :: past := by
      intro heq
      rw [heq] at hne ⊢
      obtain ⟨j, later, past, hH⟩ := ih hne
      exact ⟨j, (i, ⟨c, r⟩) :: later, past, congrArg (List.cons _) hH⟩
    cases c with
    | strcpy dst t =>
      by_cases hdst : dst = m
      · subst hdst
        have heq : message dst ((i, ⟨.strcpy dst t, r⟩) :: H) = t := by simp [message]
        exact ⟨i, [], H, by rw [heq]; rfl⟩
      · exact hearlier (by simp [message, hdst])
    | _ => exact hearlier rfl

/-- **A payload on the port of the gas thread has been saved before.** In every run of the
application, a payload on port 1 that is not empty was passed to `fs_write` for the file of the
gas thread before it was handed over. -/
theorem payload_saved (env : AppEnv) (fuel joins : ℕ) (passes : ThreadId → ℕ)
    (schedule : List ThreadId) :
    Always (fun e past => ∀ payload, e.2.call = .lorawanSubmit 1 payload → payload ≠ [] →
        ∃ rc, (ThreadId.gas, ⟨.fsWrite (logName "gas") payload, rc⟩) ∈ past)
      (appHistory env fuel joins passes schedule) := by
  have hown : Always (fun e past => MailDiscipline e.1 e.2 (own e.1 past))
      (appHistory env fuel joins passes schedule) :=
    System.always_own (application_disciplined fuel joins passes) schedule
  have hanswered : Always (fun e past => e.2.resp = shared env past e.1 e.2.call)
      (appHistory env fuel joins passes schedule) :=
    System.always_answered (application fuel joins passes) schedule
  have hadjacent : Always (System.Adjacent Call.blocks)
      (appHistory env fuel joins passes schedule) :=
    System.always_adjacent (application fuel joins passes) schedule
  have hsaved := always_own_iff.1 (gas_savedFirst env fuel joins passes schedule)
  revert hown hanswered hadjacent hsaved
  generalize appHistory env fuel joins passes schedule = H
  intro hown hanswered hadjacent hsaved
  rw [always_iff]
  rintro later ⟨i, c, r⟩ past rfl payload hsubmit hne
  obtain rfl : c = .lorawanSubmit 1 payload := hsubmit
  obtain ⟨rfl, m, msg, rest, hrest, hpayload, hport⟩ :=
    (Always.of_append hown).1.of_lorawanSubmit
  obtain rfl : m = .gasMsg := by simpa using hport
  obtain ⟨past', rfl⟩ := (Always.of_append hadjacent).1 rfl _ rest hrest rfl
  have hmsg : msg = message .gasMsg past' := (Always.of_append hanswered).2.1
  rw [handOver_whole, hmsg] at hpayload
  rw [hpayload] at hne ⊢
  -- the copy was made by the gas thread, after its write
  obtain ⟨j, later', before, hbefore⟩ := exists_strcpy hne
  obtain ⟨t, ht⟩ : ∃ t, t = message .gasMsg past' := ⟨_, rfl⟩
  rw [← ht] at hbefore ⊢
  subst hbefore
  have hcopy := (Always.of_append (Always.of_append hown).2.2).1
  obtain ⟨⟨rfl, -⟩ | ⟨-, hdst⟩, -⟩ := hcopy.of_strcpy
  · have hfirst := (Always.of_append (Always.of_append hsaved).2.2).1 rfl
    obtain ⟨rc, hrc⟩ := hfirst .gasMsg t rfl
    refine ⟨rc, List.mem_cons_of_mem _ (List.mem_append_right _ (List.mem_cons_of_mem _ ?_))⟩
    exact of_mem_own hrc
  · cases hdst

end AirLab
