import Mathlib.Algebra.Order.BigOperators.Group.List
import AirLab.Footprint

set_option relaxedAutoImplicit false
set_option autoImplicit false

/-!
# Records

The two measuring threads format a record into an array of 200 characters, copy it to the array
of the sender and append it to a file. A record is meant to be a line: fields separated by bars,
and a newline at the end.

## Main definitions

* `AirLab.IsRecordLine` — a line of a number of fields.
* `AirLab.Call.text?` — the text a call formats, copies or writes.
* `AirLab.Reports` — all texts of a part of a history are one text.

## Main results

* `AirLab.length_joinFields`, `AirLab.isRecordLine_joinFields` — the length and the shape of a
  record.
-/

namespace AirLab

open CLang Effects

/-! ## Lines -/

/-- A field: neither a separator nor the end of a line or of a string. -/
def IsField (f : Text) : Prop := '|' ∉ f ∧ '\n' ∉ f ∧ nul ∉ f

/-- **A line of `n` fields**, separated by bars and ended by a newline. -/
def IsRecordLine (n : ℕ) (t : Text) : Prop :=
  ∃ fields : List Text, fields.length = n ∧ (∀ f ∈ fields, IsField f) ∧ t = joinFields fields

/-- A printed number is a field. -/
lemma isField_of_subset {f : Text} (hf : f ⊆ numerals) : IsField f := by
  have hbar : '|' ∉ numerals := by decide
  have hnewline : '\n' ∉ numerals := by decide
  have hnul : nul ∉ numerals := by decide
  exact ⟨fun h => hbar (hf h), fun h => hnewline (hf h), fun h => hnul (hf h)⟩

/-- The time is a field. -/
lemma isField_timeField : IsField timeField := by
  unfold IsField
  decide

/-- Each field takes its characters and one for what follows it. -/
lemma length_joinFields {fs : List Text} (hne : fs ≠ []) :
    (joinFields fs).length = (fs.map List.length).sum + fs.length := by
  induction fs with
  | nil => exact absurd rfl hne
  | cons f fs ih =>
    cases fs with
    | nil => simp [joinFields]
    | cons g fs =>
      have hrest := ih (List.cons_ne_nil g fs)
      simp only [joinFields, List.length_append, List.length_cons, List.map_cons, List.sum_cons]
        at hrest ⊢
      omega

/-- Bounded numbers, summed up over a list. -/
lemma sum_map_le {α : Type} {l : List α} {f : α → ℕ} {b : ℕ} (hf : ∀ x ∈ l, f x ≤ b) :
    (l.map f).sum ≤ l.length * b := by
  have hsum := List.sum_le_card_nsmul (l.map f) b fun n hn => by
    obtain ⟨x, hx, rfl⟩ := List.mem_map.1 hn
    exact hf x hx
  simpa using hsum

/-- A record of fields contains no terminating zero. -/
lemma nul_not_mem_joinFields {fs : List Text} (hfs : ∀ f ∈ fs, IsField f) :
    nul ∉ joinFields fs := by
  have hbar : nul ≠ '|' := by decide
  have hnewline : nul ≠ '\n' := by decide
  induction fs with
  | nil => simpa [joinFields] using hnewline
  | cons f fs ih =>
    have hf := (hfs f (List.mem_cons_self)).2.2
    have hrest := ih fun g hg => hfs g (List.mem_cons_of_mem f hg)
    cases fs with
    | nil => simpa [joinFields, hf] using hnewline
    | cons g fs => simp [joinFields, hf, hbar, hrest]

/-- Fields joined are a line. -/
lemma isRecordLine_joinFields {fs : List Text} (hfs : ∀ f ∈ fs, IsField f) :
    IsRecordLine fs.length (joinFields fs) := ⟨fs, rfl, hfs, rfl⟩

/-! ## The texts of a history -/

/-- The text a call formats, copies or writes. -/
def Call.text? : Call → Option Text
  | .snprintfcb t => some t.chars
  | .strcpy _ t => some t.chars
  | .fsWrite _ data => some data
  | _ => none

/-- Reading the gas sensors involves no text. -/
lemma Call.ofGas.textless (c : Call) (hc : c.ofGas) : c.text? = none := by
  cases c <;> first | exact hc.elim | rfl

/-- Reading the ambient sensor involves no text. -/
lemma Call.ofAmbient.textless (c : Call) (hc : c.ofAmbient) : c.text? = none := by
  cases c <;> first | exact hc.elim | rfl

/-- A measurement cycle involves no text. -/
lemma Call.ofPower.textless (c : Call) (hc : c.ofPower) : c.text? = none := by
  cases c <;> first | exact hc.elim | rfl

/-- **The events after `h₀` report the text `t`**: they include the events `done`, and every text
that is formatted, copied or written in them is `t`. -/
def Reports (t : Text) (done : List BoardEvent) (h₀ h : History) : Prop :=
  ∃ es, h = es ++ h₀ ∧ (∀ e ∈ done, e ∈ es) ∧ ∀ e ∈ es, ∀ u, e.call.text? = some u → u = t

section Reports

variable {env : Env Call Resp} {S : History → Prop} {t : Text} {done : List BoardEvent}
  {h₀ h : History}

/-- Without texts any text is reported. -/
lemma reports_of_since (hh : Prog.Since (fun c => c.text? = none) h₀ h) : Reports t [] h₀ h := by
  obtain ⟨es, rfl, hes⟩ := hh
  refine ⟨es, rfl, fun e he => absurd he List.not_mem_nil, fun e he u hu => ?_⟩
  rw [hes e he] at hu
  cases hu

/-- One more event. -/
lemma Reports.cons {e : BoardEvent} (he : ∀ u, e.call.text? = some u → u = t)
    (hh : Reports t done h₀ h) : Reports t (e :: done) h₀ (e :: h) := by
  obtain ⟨es, rfl, hdone, hes⟩ := hh
  refine ⟨e :: es, rfl, fun e' he' => ?_, List.forall_mem_cons.2 ⟨he, hes⟩⟩
  rcases List.mem_cons.1 he' with rfl | hmem
  · exact List.mem_cons_self
  · exact List.mem_cons_of_mem e (hdone e' hmem)

/-- Fewer events are looked at. -/
lemma Reports.of_subset {done' : List BoardEvent} (hsub : done' ⊆ done)
    (hh : Reports t done h₀ h) : Reports t done' h₀ h := by
  obtain ⟨es, rfl, hdone, hes⟩ := hh
  exact ⟨es, rfl, fun e he => hdone e (hsub he), hes⟩

/-- The text is formatted. -/
lemma Reports.format (t : CStr 200) (hh : Prog.Since (fun c => c.text? = none) h₀ h) :
    Reports t.chars [⟨.snprintfcb t, ()⟩] h₀ (⟨.snprintfcb t, ()⟩ :: h) :=
  (reports_of_since hh).cons fun _ hu => (Option.some.inj hu).symm

/-- The text is copied. -/
lemma Reports.copy {t : CStr 200} (dst : Mailbox) (hh : Reports t.chars done h₀ h) :
    Reports t.chars (⟨.strcpy dst t, ()⟩ :: done) h₀ (⟨.strcpy dst t, ()⟩ :: h) :=
  hh.cons fun _ hu => (Option.some.inj hu).symm

/-- A sleep. -/
lemma Reports.sleep (ms : ℕ) (hh : Reports t done h₀ h) :
    Reports t done h₀ (⟨.kMsleep ms, ()⟩ :: h) :=
  (hh.cons (e := ⟨.kMsleep ms, ()⟩) fun _ hu => nomatch hu).of_subset (List.subset_cons_self _ _)

/-- Formatting a record. -/
lemma wp_snprintfcb {Q : CStr 200 → History → Prop} (t : Text) :
    (snprintfcb t).wp env Q S h ↔ Q (CStr.snprintf textData_pos t)
      (⟨.snprintfcb (CStr.snprintf textData_pos t), ()⟩ :: h) :=
  Prog.wp_of_run rfl

/-- Copying a record. -/
lemma wp_strcpy {Q : Unit → History → Prop} (dst : Mailbox) (src : CStr 200) :
    (strcpy dst src).wp env Q S h ↔ Q () (⟨.strcpy dst src, ()⟩ :: h) :=
  Prog.wp_of_run rfl

/-- A program whose texts are `t`. -/
lemma reports_of_calls {α : Type} {p : App α}
    (hp : p.Only fun c => ∀ u, c.text? = some u → u = t) :
    Prog.Triple env (Reports t done h₀) p (fun _ => Reports t done h₀) S :=
  Prog.Triple.of_only (fun _ _ he hh => (hh.cons he).of_subset (List.subset_cons_of_subset _
    (List.Subset.refl done))) hp

/-- A call without a text. -/
lemma textless {c : Call} (hc : c.text? = none) (u : Text) (hu : c.text? = some u) : u = t := by
  rw [hc] at hu
  cases hu

/-- Saving a record. -/
lemma reports_saveData (data : CStr 200) (type : String) :
    Prog.Triple env (Reports data.chars done h₀) (saveData data type)
      (fun _ => Reports data.chars done h₀) S := by
  refine reports_of_calls ?_
  have hclose : ∀ fname, (fsClose fname).Only fun c => ∀ u, c.text? = some u → u = data.chars :=
    fun fname => perform_only (textless rfl)
  unfold saveData
  refine .bind (perform_only (textless rfl)) fun _ => .bind (perform_only ?_) fun rc => ?_
  · intro u hu
    exact (Option.some.inj hu).symm
  · exact .ite (.bind (perform_only (textless rfl)) fun _ => hclose _) (hclose _)

end Reports

end AirLab
