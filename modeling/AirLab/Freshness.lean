import AirLab.Effects.Unbroken
import AirLab.Storage.Script
import AirLab.Uplink

set_option relaxedAutoImplicit false
set_option autoImplicit false

/-!
# How old a payload can be

The sender hands over what the message arrays hold, while their producers go on measuring. The
particle thread copies a record right after formatting it, which no other thread can see
half-done; the gas thread saves the record in between, and the file system blocks. So a payload
on port 2 is the latest record, and a payload on port 1 may be the one before, but only while
the latest is being saved.

## Main definitions

* `AirLab.unpublished`, `AirLab.SinceFormat` — the latest record is not copied yet, and what its
  thread has done since.
* `AirLab.Between` — what a thread does between formatting and copying.

## Main results

* `AirLab.payloads_fresh` — how old the payloads are, in every run.
-/

namespace AirLab

open CLang Effects

/-! ## Records that are not copied yet -/

/-- The call formats a record. -/
def Call.Formats (c : Call) : Prop := c.recordOp? = some .format

/-- The call copies into the message array `m`. -/
def Call.CopiesTo (m : Mailbox) (c : Call) : Prop := c.recordOp? = some (.copy m)

/-- Only `snprintfcb` formats. -/
lemma Call.Formats.eq {c : Call} (hc : c.Formats) : ∃ t, c = .snprintfcb t := by
  cases c <;> simp [Call.Formats, Call.recordOp?] at hc ⊢

/-- Formatting does not block. -/
lemma Call.Formats.blocks_eq {c : Call} (hc : c.Formats) : c.blocks = false := by
  obtain ⟨t, rfl⟩ := hc.eq
  rfl

/-- Only `strcpy` copies. -/
lemma Call.CopiesTo.eq {m : Mailbox} {c : Call} (hc : c.CopiesTo m) :
    ∃ t, c = .strcpy m t := by
  cases c <;> simp_all [Call.CopiesTo, Call.recordOp?]

/-- Neither does copying. -/
lemma Call.CopiesTo.blocks_eq {m : Mailbox} {c : Call} (hc : c.CopiesTo m) :
    c.blocks = false := by
  obtain ⟨t, rfl⟩ := hc.eq
  rfl

/-- Whether the latest record of a thread is not copied yet. -/
def unpublished : History → Bool
  | [] => false
  | ⟨.snprintfcb _, _⟩ :: _ => true
  | ⟨.strcpy _ _, _⟩ :: _ => false
  | _ :: past => unpublished past

/-- Since the latest record was formatted its thread has only made calls of a kind. -/
def SinceFormat (kind : Call → Prop) (h : History) : Prop :=
  ∃ es e rest, h = es ++ e :: rest ∧ e.call.Formats ∧ ∀ e' ∈ es, kind e'.call

/-- Between formatting a record and copying it into `m` a thread only makes calls of a kind. -/
def Between (kind : Call → Prop) (m : Mailbox) (e : BoardEvent) (past : History) : Prop :=
  unpublished past = true → kind e.call ∨ e.call.CopiesTo m

variable {kind : Call → Prop} {m : Mailbox}

/-- An event that has nothing to do with records. -/
lemma unpublished_silent {e : BoardEvent} (he : e.call.Silent) (h : History) :
    unpublished (e :: h) = unpublished h := by
  obtain ⟨c, r⟩ := e
  cases c <;> first | exact he.elim | rfl

/-- Copying a record. -/
lemma unpublished_copiesTo {e : BoardEvent} (he : e.call.CopiesTo m) (h : History) :
    unpublished (e :: h) = false := by
  obtain ⟨c, r⟩ := e
  obtain ⟨t, rfl⟩ := he.eq
  rfl

/-- Only formatting leaves a record that is not copied yet. -/
lemma formats_or_of_unpublished {e : BoardEvent} {h : History}
    (hu : unpublished (e :: h) = true) : e.call.Formats ∨ unpublished h = true := by
  obtain ⟨c, r⟩ := e
  cases c <;> first | exact Or.inl rfl | exact Or.inr hu | simp [unpublished] at hu

/-- **What has happened to a record that is not copied yet.**

**Proof sketch.** Induction on the history, back to where the record was formatted. -/
lemma SinceFormat.of_unpublished {h : History} (hall : Always (Between kind m) h)
    (hu : unpublished h = true) : SinceFormat kind h := by
  induction h with
  | nil => simp [unpublished] at hu
  | cons e past ih =>
    rcases formats_or_of_unpublished hu with hformats | hpast
    · exact ⟨[], e, past, rfl, hformats, by simp⟩
    · obtain ⟨es, e', rest, rfl, he', hes⟩ := ih hall.2 hpast
      have hcopies : ¬ e.call.CopiesTo m := fun hm => by simp [unpublished_copiesTo hm] at hu
      have he : kind e.call := (hall.1 hpast).resolve_right hcopies
      exact ⟨e :: es, e', rest, rfl, he', List.forall_mem_cons.2 ⟨he, hes⟩⟩

/-! ## The producers -/

section Producers

variable {env : Env Call Resp} {α : Type} {S : History → Prop}

/-- Between two records a thread does what it likes. -/
lemma between_silent {p : App α} (hp : p.Within Call.Silent) :
    Prog.Triple env (fun h => Always (Between kind m) h ∧ unpublished h = false) p
      (fun _ h => Always (Between kind m) h ∧ unpublished h = false) (Always (Between kind m)) := by
  refine Prog.Triple.of_calls (fun e h he hh => ⟨⟨fun hu => ?_, hh.1⟩, ?_⟩) (fun _ _ hh => hh.1) hp
  · simp [hh.2] at hu
  · rw [unpublished_silent he]
    exact hh.2

/-- Formatting a record. -/
lemma between_snprintfcb (t : Text) :
    Prog.Triple env (fun h => Always (Between kind m) h ∧ unpublished h = false) (snprintfcb t)
      (fun _ => Always (Between kind m)) S := by
  unfold snprintfcb
  refine Prog.Triple.bind (Q := fun _ => Always (Between kind m)) (.perform fun h hh => ?_)
    fun _ => .pure fun _ hh => hh
  exact ⟨fun hu => by simp [hh.2] at hu, hh.1⟩

/-- Calls of the kind after it. -/
lemma between_kind {p : App α} (hp : p.Only kind) :
    Prog.Triple env (Always (Between kind m)) p (fun _ => Always (Between kind m)) S :=
  Prog.Triple.of_only (fun _ _ he hh => ⟨fun _ => Or.inl he, hh⟩) hp

/-- Copying it. -/
lemma between_strcpy (t : CStr 200) :
    Prog.Triple env (Always (Between kind m)) (strcpy m t)
      (fun _ h => Always (Between kind m) h ∧ unpublished h = false) S :=
  .perform fun _ hh => ⟨⟨fun _ => Or.inr rfl, hh⟩, rfl⟩

/-- The gas thread saves a record before it copies it. -/
lemma readGasPass_between (l : (Fin 8 → UInt16) × (Fin 3 → Flt)) :
    Prog.Triple env (fun h => Always (Between Call.ofStorage .gasMsg) h ∧ unpublished h = false)
      (readGasPass l)
      (fun _ h => Always (Between Call.ofStorage .gasMsg) h ∧ unpublished h = false)
      (Always (Between Call.ofStorage .gasMsg)) := by
  unfold readGasPass
  refine Prog.Triple.bind (between_silent
    ((gasSensorsRead_calls l.1 5).mono Call.ofGas.silent)) fun gs => ?_
  refine Prog.Triple.bind (between_silent
    ((ambientSensorsRead_calls 1 l.2).mono Call.ofAmbient.silent)) fun ambSensors => ?_
  refine Prog.Triple.bind (between_snprintfcb _) fun textData => ?_
  refine Prog.Triple.bind (between_kind (saveData_calls textData "gas")) fun _ => ?_
  refine Prog.Triple.bind (between_strcpy textData) fun _ => ?_
  refine Prog.Triple.bind (between_silent (silent_call trivial)) fun _ => ?_
  exact Prog.Triple.pure fun _ hh => hh

/-- The particle thread copies a record at once. -/
lemma countParticlesPass_between (fuel : ℕ) (a : Fin 3 → Flt) :
    Prog.Triple env (fun h => Always (Between (fun _ => False) .opcMsg) h ∧ unpublished h = false)
      (countParticlesPass fuel a)
      (fun _ h => Always (Between (fun _ => False) .opcMsg) h ∧ unpublished h = false)
      (Always (Between (fun _ => False) .opcMsg)) := by
  have hpin : ∀ v, (gpioPinSet ledRed v).Within Call.Silent := fun v => silent_call trivial
  unfold countParticlesPass
  refine Prog.Triple.bind (between_silent (hpin _)) fun _ => ?_
  refine Prog.Triple.bind (between_silent
    ((opcCycle_calls fuel 7).mono Call.ofPower.silent id)) fun data => ?_
  refine Prog.Triple.bind (between_silent (hpin _)) fun _ => ?_
  refine Prog.Triple.bind (between_silent
    ((ambientSensorsRead_calls 1 a).mono Call.ofAmbient.silent)) fun ambSensors => ?_
  refine Prog.Triple.bind (between_snprintfcb _) fun textData => ?_
  refine Prog.Triple.bind (between_strcpy textData) fun _ => ?_
  refine Prog.Triple.bind (between_silent
    ((saveData_calls textData "opc").mono Call.ofStorage.silent)) fun _ => ?_
  refine Prog.Triple.bind (between_silent (silent_call trivial)) fun _ => ?_
  exact Prog.Triple.pure fun _ hh => hh

end Producers

/-- What a thread does between formatting and copying a record. -/
def betweenKind : ThreadId → Call → Prop
  | .gas => Call.ofStorage
  | _ => fun _ => False

/-- The measuring threads keep to it. -/
lemma own_between {producer : ThreadId} {port : UInt8} (hserves : Serves producer m port)
    (env : AppEnv) (fuel joins : ℕ) (passes : ThreadId → ℕ) (schedule : List ThreadId) :
    Always (Between (betweenKind producer) m)
      (own producer (appHistory env fuel joins passes schedule)) := by
  refine System.own_always (fun env => Prog.wp.final ?_) schedule
  rcases hserves with ⟨rfl, rfl, rfl⟩ | ⟨rfl, rfl, rfl⟩
  · have hgas : Prog.Triple env
        (fun h => Always (Between Call.ofStorage .gasMsg) h ∧ unpublished h = false)
        (readGasAndAmbientSensors (passes .gas)) (fun _ => Always (Between Call.ofStorage .gasMsg))
        (Always (Between Call.ofStorage .gasMsg)) := by
      unfold readGasAndAmbientSensors
      refine Prog.Triple.bind (between_silent (silent_call trivial)) fun _ => ?_
      refine Prog.Triple.bind (between_silent (silent_call trivial)) fun gs => ?_
      exact Prog.Triple.mono (Prog.Triple.forRange (I := fun _ _ h =>
        Always (Between Call.ofStorage .gasMsg) h ∧ unpublished h = false) (passes .gas)
        (fun _ _ l => readGasPass_between l) _) (fun _ hh => hh) (fun _ _ hh => hh.1) fun _ hh => hh
    exact (hgas.bind fun _ => Prog.Triple.pure (a := ()) fun _ hh => hh) [] ⟨trivial, rfl⟩
  · have hparticle : Prog.Triple env
        (fun h => Always (Between (fun _ => False) .opcMsg) h ∧ unpublished h = false)
        (countParticles fuel (passes .particle))
        (fun _ => Always (Between (fun _ => False) .opcMsg))
        (Always (Between (fun _ => False) .opcMsg)) :=
      Prog.Triple.mono (Prog.Triple.forRange (I := fun _ _ h =>
        Always (Between (fun _ => False) .opcMsg) h ∧ unpublished h = false) (passes .particle)
        (fun _ _ a => countParticlesPass_between fuel a) _) (fun _ hh => hh) (fun _ _ hh => hh.1)
        fun _ hh => hh
    exact (hparticle.bind fun _ => Prog.Triple.pure (a := ()) fun _ hh => hh) [] ⟨trivial, rfl⟩

/-! ## A record and its copy -/

/-- A call that formats nothing keeps all pairs together. -/
lemma pairs_of_silent {α : Type} {p : App α} (hp : p.Within Call.Silent) :
    p.Pairs Call.Formats (Call.CopiesTo m) :=
  Prog.Pairs.of_calls (hp.mono (fun c hc hf => by
    obtain ⟨t, rfl⟩ := hf.eq
    exact hc) id)

/-- The particle thread copies what it formats at once. -/
lemma countParticlesPass_pairs (fuel : ℕ) (a : Fin 3 → Flt) :
    (countParticlesPass fuel a).Pairs Call.Formats (Call.CopiesTo .opcMsg) := by
  have hpin : ∀ v, (gpioPinSet ledRed v).Within Call.Silent := fun v => silent_call trivial
  have hsleep : ∀ ms, (kMsleep ms).Within Call.Silent := fun ms => silent_call trivial
  unfold countParticlesPass
  refine (pairs_of_silent (hpin _)).bind fun _ => ?_
  refine (pairs_of_silent ((opcCycle_calls fuel 7).mono Call.ofPower.silent id)).bind fun data => ?_
  refine (pairs_of_silent (hpin _)).bind fun _ => ?_
  refine (pairs_of_silent ((ambientSensorsRead_calls 1 a).mono Call.ofAmbient.silent)).bind
    fun ambSensors => ?_
  unfold snprintfcb
  rw [bind_assoc]
  refine Prog.Pairs.pair (fun _ => rfl) fun _ => ?_
  refine (Prog.Pairs.of_calls (perform_within nofun)).bind fun _ => ?_
  refine (pairs_of_silent ((saveData_calls _ "opc").mono Call.ofStorage.silent)).bind fun _ => ?_
  exact (pairs_of_silent (hsleep _)).bind fun _ => Prog.pairs_pure _

/-- **No other thread sees a particle record that is not copied yet.**

**Proof sketch.** Such a record was formatted in the thread's latest call; then the next call of
all threads is its copy. -/
lemma copied_of_other (env : AppEnv) (fuel joins : ℕ) (passes : ThreadId → ℕ)
    (schedule : List ThreadId) :
    Always (fun e past => e.1 ≠ .particle → unpublished (own .particle past) = false)
      (appHistory env fuel joins passes schedule) := by
  have hpairs : (application fuel joins passes .particle).Pairs Call.Formats
      (Call.CopiesTo .opcMsg) :=
    Prog.Pairs.bind (Prog.Pairs.forRange (fun _ a => countParticlesPass_pairs fuel a) _ _)
      fun _ => Prog.pairs_pure ()
  have hunbroken : Always (fun e past => ∀ e' rest, own .particle past = e' :: rest →
      e'.call.Formats → e.1 = .particle ∧ e.2.call.CopiesTo .opcMsg)
      (appHistory env fuel joins passes schedule) :=
    System.always_unbroken hpairs (fun _ => Call.Formats.blocks_eq)
      (fun _ => Call.CopiesTo.blocks_eq) schedule
  have hbetween := own_between (Or.inr ⟨rfl, rfl, rfl⟩) env fuel joins passes schedule
  revert hunbroken hbetween
  generalize appHistory env fuel joins passes schedule = H
  intro hunbroken hbetween
  induction H with
  | nil => trivial
  | cons e past ih =>
    rw [← List.singleton_append, own_append] at hbetween
    refine ⟨fun hne => ?_, ih hunbroken.2 hbetween.of_append⟩
    rw [Bool.eq_false_iff]
    intro hu
    obtain ⟨es, e', rest, hown, hformats, hes⟩ := SinceFormat.of_unpublished hbetween.of_append hu
    obtain rfl : es = [] := List.eq_nil_iff_forall_not_mem.2 hes
    exact hne (hunbroken.1 e' rest hown hformats).1

/-! ## The payloads -/

variable {producer : ThreadId} {port : UInt8}

/-- The latest item of a message array is pending while the record is not copied yet. -/
lemma pending_mailView (hserves : Serves producer m port) {H : AppHistory}
    (hown : Always (fun e past => MailDiscipline e.1 e.2 (own e.1 past)) H) :
    MailEvent.pending (H.filterMap (mailView producer m port)) =
      unpublished (own producer H) := by
  induction H with
  | nil => rfl
  | cons e H ih =>
    obtain ⟨hnow, hpast⟩ := hown
    obtain ⟨i, c, r⟩ := e
    have hrest := ih hpast
    by_cases hi : i = producer
    · subst hi
      rw [own_cons_self]
      cases c <;> simp only [List.filterMap_cons, mailView, if_true, MailEvent.pending,
        unpublished] <;> first | exact hrest | skip
      · -- the producer copies into its own message array
        obtain ⟨hthread, -⟩ := hnow.of_strcpy
        rcases hserves with ⟨rfl, rfl, rfl⟩ | ⟨rfl, rfl, rfl⟩ <;>
          simp at hthread <;> simp [hthread, MailEvent.pending]
      · split_ifs <;> simp [MailEvent.pending, hrest]
    · rw [own_cons_of_ne hi]
      cases c <;> simp only [List.filterMap_cons, mailView, if_neg hi] <;>
        first | exact hrest | skip
      · obtain ⟨hthread, -⟩ := hnow.of_strcpy
        rcases hserves with ⟨rfl, rfl, rfl⟩ | ⟨rfl, rfl, rfl⟩ <;>
          simp [hi] at hthread <;> simp [hthread, hrest]
      · split_ifs <;> simp [MailEvent.pending, hrest]

/-- A record is formatted only when the one before has been copied. -/
lemma always_prompt (hserves : Serves producer m port) {H : AppHistory}
    (hown : Always (fun e past => MailDiscipline e.1 e.2 (own e.1 past)) H)
    (hbetween : Always (Between (betweenKind producer) m) (own producer H)) :
    Always MailEvent.Prompt (H.filterMap (mailView producer m port)) := by
  rw [always_own_iff] at hbetween
  refine Always.filterMap ((always_iff _ _).2 fun later e past heq a ha => ?_)
  subst heq
  obtain ⟨i, c, r⟩ := e
  cases a with
  | produce record =>
    obtain ⟨t, rfl, rfl⟩ : ∃ t, c = .snprintfcb t ∧ i = producer := by
      cases c <;> simp_all [mailView]
    show MailEvent.pending _ = false
    rw [pending_mailView hserves hown.of_append.2, Bool.eq_false_iff]
    intro hu
    -- formatting is neither copying nor done while saving
    rcases hbetween.of_append.1 rfl hu with hkind | hcopies
    · cases i <;> exact hkind
    · cases hcopies
  | publish record => trivial
  | send payload => trivial

/-- A payload is the latest record of its producer, or the one before while the latest is not
copied yet. -/
lemma payload_eq (hserves : Serves producer m port) (env : AppEnv) (fuel joins : ℕ)
    (passes : ThreadId → ℕ) (schedule : List ThreadId) :
    Always (fun e past => ∀ payload, e.2.call = .lorawanSubmit port payload →
      payload = ((records producer past).drop (unpublished (own producer past)).toNat).headD [])
      (appHistory env fuel joins passes schedule) := by
  have hown : Always (fun e past => MailDiscipline e.1 e.2 (own e.1 past))
      (appHistory env fuel joins passes schedule) :=
    System.always_own (application_disciplined fuel joins passes) schedule
  have hanswered : Always (fun e past => e.2.resp = shared env past e.1 e.2.call)
      (appHistory env fuel joins passes schedule) :=
    System.always_answered (application fuel joins passes) schedule
  have hadjacent : Always (System.Adjacent Call.blocks)
      (appHistory env fuel joins passes schedule) :=
    System.always_adjacent (application fuel joins passes) schedule
  have hbetween := own_between hserves env fuel joins passes schedule
  have horderly := always_orderly hserves hown hanswered hadjacent
  have hprompt := always_prompt hserves hown hbetween
  revert hown horderly hprompt
  generalize appHistory env fuel joins passes schedule = H
  intro hown horderly hprompt
  refine (always_iff _ _).2 fun later e past heq payload hcall => ?_
  subst heq
  obtain ⟨i, c, r⟩ := e
  obtain rfl : c = .lorawanSubmit port payload := hcall
  have hview : mailView producer m port (i, ⟨.lorawanSubmit port payload, r⟩) =
      some (.send payload) := if_pos rfl
  rw [List.filterMap_append, List.filterMap_cons, hview] at horderly hprompt
  have hcontent := MailEvent.content_eq horderly.of_append.2 hprompt.of_append.2
  rw [produced_mailView, pending_mailView hserves hown.of_append.2] at hcontent
  exact (horderly.of_append.1 : payload = _).trans hcontent

/-- **How old a payload can be.** In every run of the application, whatever the schedule and the
answers: a payload on port 2 is the latest record of the particle thread, and one on port 1 is
the latest record of the gas thread or, while that is being saved, the record before. The
payload is empty where there is no such record.

**Proof sketch.** The message arrays are mailboxes that are at most one item behind
(`MailEvent.content_eq`). The particle thread's records are copied before another thread runs,
those of the gas thread are saved first. -/
theorem payloads_fresh (env : AppEnv) (fuel joins : ℕ) (passes : ThreadId → ℕ)
    (schedule : List ThreadId) :
    Always (fun e past =>
      (∀ payload, e.2.call = .lorawanSubmit 1 payload →
        payload = (records .gas past).headD [] ∨
          SinceFormat Call.ofStorage (own .gas past) ∧
            payload = (records .gas past).tail.headD []) ∧
      ∀ payload, e.2.call = .lorawanSubmit 2 payload →
        payload = (records .particle past).headD [])
      (appHistory env fuel joins passes schedule) := by
  have hgas := payload_eq (Or.inl ⟨rfl, rfl, rfl⟩) env fuel joins passes schedule
  have hparticle := payload_eq (Or.inr ⟨rfl, rfl, rfl⟩) env fuel joins passes schedule
  have hcopied := copied_of_other env fuel joins passes schedule
  have hbetween := own_between (Or.inl ⟨rfl, rfl, rfl⟩) env fuel joins passes schedule
  have hown : Always (fun e past => MailDiscipline e.1 e.2 (own e.1 past))
      (appHistory env fuel joins passes schedule) :=
    System.always_own (application_disciplined fuel joins passes) schedule
  revert hgas hparticle hcopied hbetween hown
  generalize appHistory env fuel joins passes schedule = H
  intro hgas hparticle hcopied hbetween hown
  refine (always_iff _ _).2 fun later e past heq => ?_
  subst heq
  rw [List.append_cons, own_append] at hbetween
  refine ⟨fun payload hcall => ?_, fun payload hcall => ?_⟩
  · have heq := hgas.of_append.1 payload hcall
    cases hu : unpublished (own .gas past) with
    | false =>
      rw [hu] at heq
      exact Or.inl heq
    | true =>
      rw [hu] at heq
      refine Or.inr ⟨SinceFormat.of_unpublished hbetween.of_append hu, ?_⟩
      simpa using heq
  · have heq := hparticle.of_append.1 payload hcall
    have hne : e.1 ≠ .particle := by
      obtain ⟨i, c, r⟩ := e
      obtain rfl : c = .lorawanSubmit 2 payload := hcall
      obtain rfl : i = .sender := hown.of_append.1.of_lorawanSubmit.1
      simp
    simpa [hcopied.of_append.1 hne] using heq

end AirLab
