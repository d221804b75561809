import AirLab.Storage.Driver

set_option relaxedAutoImplicit false
set_option autoImplicit false

/-!
# The content of a log file

A log file is only ever appended to: a write that is not refused appends as many characters as
it reports, at most the whole record. `save_data` takes every count that is not negative for
success, so a record that was written in part stays in the file and the next one continues it.
Apart from that the file consists of whole records.

## Main definitions

* `AirLab.card` — the answers of the SD card.
* `AirLab.logContent` — what a log file holds.
* `AirLab.saves`, `AirLab.passed` — a sequence of calls of `save_data` and its records.
* `AirLab.WholeRecords` — the file is made of whole records.
* `AirLab.ShortWrite` — a write that appends a part of its record.

## Main results

* `AirLab.wholeRecords_iff_noShortWrite` — the file is made of whole records at all times as long
  as no write to it is short; for records of one line each, only then.
-/

namespace AirLab

open CLang Effects

/-! ## The card -/

/-- The file is open: it was opened successfully and not closed since. -/
def isOpen (fname : Text) : History → Bool
  | [] => false
  | ⟨.fsOpen f, rc⟩ :: past => if f = fname then decide (0 ≤ rc) else isOpen fname past
  | ⟨.fsClose f, _⟩ :: past => if f = fname then false else isOpen fname past
  | _ :: past => isOpen fname past

/-- The answers of the card: a write to a file that is not open fails, any other fails or reports
a count up to the length of its data. -/
def card (env : Env Call Resp) : Env Call Resp := fun h c =>
  match c with
  | .fsWrite fname data =>
    if isOpen fname h then min (env h (.fsWrite fname data) : ℤ) data.length
    else min (env h (.fsWrite fname data) : ℤ) (-1)
  | c => env h c

/-- What a log file holds: the characters its writes report as written. -/
def logContent (fname : Text) : History → Text
  | [] => []
  | ⟨.fsWrite f data, rc⟩ :: past =>
    if f = fname then logContent fname past ++ data.take (rc : ℤ).toNat
    else logContent fname past
  | _ :: past => logContent fname past

/-! ## Sequences of calls -/

/-- The first `n` of a sequence of calls of `save_data`. -/
def saves (calls : ℕ → CStr 200 × String) (n : ℕ) : App Unit :=
  Prog.forRange (fun i _ => saveData (calls i).1 (calls i).2) n ()

/-- The history of the first `n` calls. -/
def saveHistory (env : Env Call Resp) (calls : ℕ → CStr 200 × String) (n : ℕ) : History :=
  ((saves calls n).run (card env) []).2

/-- The records passed for a file in the first `n` calls. -/
def passed (fname : Text) (calls : ℕ → CStr 200 × String) : ℕ → List Text
  | 0 => []
  | n + 1 =>
    if logName (calls n).2 = fname then passed fname calls n ++ [(calls n).1.chars]
    else passed fname calls n

/-- The file is the concatenation of a subsequence of the records passed for it. -/
def WholeRecords (fname : Text) (calls : ℕ → CStr 200 × String) (n : ℕ) (h : History) : Prop :=
  ∃ kept : List Text, kept.Sublist (passed fname calls n) ∧ logContent fname h = kept.flatten

/-- The event appends a part of its record to the file, not nothing and not all of it. -/
def ShortWrite (fname : Text) : BoardEvent → Prop
  | ⟨.fsWrite f data, rc⟩ => f = fname ∧ 0 < (rc : ℤ) ∧ (rc : ℤ) < data.length
  | _ => False

/-- The record is a single line, ended by a newline. -/
def IsLine (record : Text) : Prop := ∃ line : Text, '\n' ∉ line ∧ record = line ++ ['\n']

/-! ## One call -/

/-- The answer of the card to the write of a call of `save_data` after the history `h`. -/
def writeResult (env : Env Call Resp) (data : CStr 200) (type : String) (h : History) : ℤ :=
  card env (⟨.fsOpen (logName type), env h (.fsOpen (logName type))⟩ :: h)
    (.fsWrite (logName type) data.chars)

/-- **The run of `save_data`**: it opens the file, writes to it and closes it, after a sleep if the
write failed. -/
lemma saveData_run (env : Env Call Resp) (data : CStr 200) (type : String) (h : History) :
    (saveData data type).run (card env) h =
      (some (), ⟨.fsClose (logName type), ()⟩ ::
        ((if writeResult env data type h < 0 then [⟨.kMsleep 500, ()⟩] else []) ++
          ⟨.fsWrite (logName type) data.chars, writeResult env data type h⟩ ::
          ⟨.fsOpen (logName type), env h (.fsOpen (logName type))⟩ :: h)) := by
  have hopen : (fsOpen (logName type)).run (card env) h =
      (some (env h (.fsOpen (logName type))),
        ⟨.fsOpen (logName type), env h (.fsOpen (logName type))⟩ :: h) := rfl
  have hwrite : ∀ h', (fsWrite (logName type) data.chars).run (card env) h' =
      (some (card env h' (.fsWrite (logName type) data.chars)),
        ⟨.fsWrite (logName type) data.chars, card env h' (.fsWrite (logName type) data.chars)⟩ ::
          h') := fun _ => rfl
  have hclose : ∀ h', (fsClose (logName type)).run (card env) h' =
      (some (), ⟨.fsClose (logName type), ()⟩ :: h') := fun _ => rfl
  unfold saveData writeResult
  by_cases hrc : card env (⟨.fsOpen (logName type), env h (.fsOpen (logName type))⟩ :: h)
      (.fsWrite (logName type) data.chars) < 0
  · simp only [Prog.run_bind, hopen, hwrite, run_kMsleep, hclose, if_pos hrc]
    rfl
  · simp only [Prog.run_bind, hopen, hwrite, hclose, if_neg hrc]
    rfl

section Sequence

variable {env : Env Call Resp} {calls : ℕ → CStr 200 × String} {fname : Text}

/-- The answer to the write of call `n`. -/
def resultOf (env : Env Call Resp) (calls : ℕ → CStr 200 × String) (n : ℕ) : ℤ :=
  writeResult env (calls n).1 (calls n).2 (saveHistory env calls n)

/-- The first `n` calls return. -/
lemma saves_run (n : ℕ) :
    (saves calls n).run (card env) [] = (some (), saveHistory env calls n) := by
  have hreturn : ((saves calls n).run (card env) []).1 = some () := by
    induction n with
    | zero => rfl
    | succ n ih =>
      unfold saves at ih ⊢
      rw [Prog.forRange, Prog.run_bind]
      rcases hrun : (Prog.forRange (fun i _ => saveData (calls i).1 (calls i).2) n ()).run
        (card env) [] with ⟨r, h'⟩
      rw [hrun] at ih
      obtain rfl : r = some () := ih
      simp only [saveData_run]
  exact Prod.ext hreturn rfl

/-- The history after one more call. -/
lemma saveHistory_succ (n : ℕ) :
    saveHistory env calls (n + 1) = ⟨.fsClose (logName (calls n).2), ()⟩ ::
      ((if resultOf env calls n < 0 then [⟨.kMsleep 500, ()⟩] else []) ++
        ⟨.fsWrite (logName (calls n).2) (calls n).1.chars, resultOf env calls n⟩ ::
        ⟨.fsOpen (logName (calls n).2),
          env (saveHistory env calls n) (.fsOpen (logName (calls n).2))⟩ ::
        saveHistory env calls n) := by
  have hrun : (saves calls (n + 1)).run (card env) [] =
      (saveData (calls n).1 (calls n).2).run (card env) (saveHistory env calls n) :=
    Prog.run_bind_of_some (card env) (saves_run n)
  have hlast : (saves calls (n + 1)).run (card env) [] = _ := saves_run (n + 1)
  rw [hrun, saveData_run] at hlast
  exact (congrArg Prod.snd hlast).symm

/-- One more call appends what its write reports to its file and leaves the others alone. -/
lemma logContent_succ (n : ℕ) :
    logContent fname (saveHistory env calls (n + 1)) =
      if logName (calls n).2 = fname then
        logContent fname (saveHistory env calls n) ++
          (calls n).1.chars.take (resultOf env calls n).toNat
      else logContent fname (saveHistory env calls n) := by
  rw [saveHistory_succ]
  by_cases hrc : resultOf env calls n < 0
  · simp [hrc, logContent]
  · simp [hrc, logContent]

/-- One more call makes at most one short write. -/
lemma noShortWrite_succ (n : ℕ) :
    Always (fun e _ => ¬ ShortWrite fname e) (saveHistory env calls (n + 1)) ↔
      ¬ (logName (calls n).2 = fname ∧ 0 < resultOf env calls n ∧
          resultOf env calls n < (calls n).1.chars.length) ∧
        Always (fun e _ => ¬ ShortWrite fname e) (saveHistory env calls n) := by
  rw [saveHistory_succ]
  by_cases hrc : resultOf env calls n < 0
  · simp [hrc, ShortWrite]
  · simp [hrc, ShortWrite]

/-- A file to which no write was short is made of whole records.

**Proof sketch.** Induction on the number of calls. A write appends nothing, so that its record
is left out, or all of its record. -/
lemma wholeRecords_of_noShortWrite {n : ℕ}
    (hno : Always (fun e _ => ¬ ShortWrite fname e) (saveHistory env calls n)) :
    WholeRecords fname calls n (saveHistory env calls n) := by
  induction n with
  | zero => exact ⟨[], List.Sublist.refl _, rfl⟩
  | succ n ih =>
    rw [noShortWrite_succ] at hno
    obtain ⟨hnow, hpast⟩ := hno
    obtain ⟨kept, hsub, hcontent⟩ := ih hpast
    unfold WholeRecords
    rw [logContent_succ, passed]
    by_cases hf : logName (calls n).2 = fname
    · rw [if_pos hf, if_pos hf, hcontent]
      by_cases hrc : 0 < resultOf env calls n
      · have hall : (calls n).1.chars.length ≤ (resultOf env calls n).toNat := by
          have : ¬ resultOf env calls n < (calls n).1.chars.length := fun hlt =>
            hnow ⟨hf, hrc, hlt⟩
          omega
        refine ⟨kept ++ [(calls n).1.chars], hsub.append (List.Sublist.refl _), ?_⟩
        rw [List.take_of_length_le hall]
        simp
      · have hnone : (resultOf env calls n).toNat = 0 := by omega
        refine ⟨kept, hsub.trans (List.sublist_append_left _ _), ?_⟩
        simp [hnone]
    · rw [if_neg hf, if_neg hf]
      exact ⟨kept, hsub, hcontent⟩

/-- A concatenation of lines is empty or ends with a newline. -/
lemma flatten_lines {kept : List Text} (hlines : ∀ t ∈ kept, IsLine t) :
    kept.flatten = [] ∨ kept.flatten.getLast? = some '\n' := by
  rcases List.eq_nil_or_concat kept with rfl | ⟨rest, t, rfl⟩
  · exact Or.inl rfl
  · obtain ⟨line, -, rfl⟩ := hlines t (by simp)
    exact Or.inr (by simp)

/-- The records passed are among the calls. -/
lemma passed_lines (hlines : ∀ i, IsLine (calls i).1.chars) (n : ℕ) :
    ∀ t ∈ passed fname calls n, IsLine t := by
  induction n with
  | zero => simp [passed]
  | succ n ih =>
    intro t ht
    unfold passed at ht
    split_ifs at ht
    · rcases List.mem_append.1 ht with ht | ht
      · exact ih t ht
      · obtain rfl := List.mem_singleton.1 ht
        exact hlines n
    · exact ih t ht

/-- A short write of a line leaves the file with an open line at its end. -/
lemma not_wholeRecords_of_shortWrite (hlines : ∀ i, IsLine (calls i).1.chars) {n : ℕ}
    (hf : logName (calls n).2 = fname) (hpos : 0 < resultOf env calls n)
    (hlt : resultOf env calls n < (calls n).1.chars.length) :
    ¬ WholeRecords fname calls (n + 1) (saveHistory env calls (n + 1)) := by
  intro hh
  obtain ⟨kept, hsub, hcontent⟩ := hh
  obtain ⟨line, hline, hrecord⟩ := hlines n
  rw [logContent_succ, if_pos hf, hrecord] at hcontent
  rw [hrecord, List.length_append, List.length_singleton] at hlt
  obtain ⟨k, hk⟩ : ∃ k, (resultOf env calls n).toNat = k + 1 :=
    ⟨(resultOf env calls n).toNat - 1, by omega⟩
  have hle : k + 1 ≤ line.length := by omega
  rw [hk, List.take_append_of_le_length hle] at hcontent
  have hne : line.take (k + 1) ≠ [] := by
    rw [Ne, List.take_eq_nil_iff]
    rintro (h | rfl)
    · omega
    · simp at hle
  have hlast : kept.flatten.getLast? = some ((line.take (k + 1)).getLast hne) := by
    rw [← hcontent, List.getLast?_append_of_ne_nil _ hne, List.getLast?_eq_getLast_of_ne_nil hne]
  rcases flatten_lines fun t ht => passed_lines hlines (n + 1) t (hsub.subset ht) with hnil | hnl
  · rw [hnil] at hlast
    cases hlast
  · rw [hnl] at hlast
    have hmem := List.getLast_mem hne
    rw [← Option.some.inj hlast] at hmem
    exact hline (List.mem_of_mem_take hmem)

/-- A file that is made of whole lines at all times has had no short write. -/
lemma noShortWrite_of_wholeRecords (hlines : ∀ i, IsLine (calls i).1.chars) {n : ℕ}
    (hwhole : ∀ k ≤ n, WholeRecords fname calls k (saveHistory env calls k)) :
    Always (fun e _ => ¬ ShortWrite fname e) (saveHistory env calls n) := by
  induction n with
  | zero => trivial
  | succ n ih =>
    rw [noShortWrite_succ]
    refine ⟨fun hshort => ?_, ih fun k hk => hwhole k (by omega)⟩
    obtain ⟨hf, hpos, hlt⟩ := hshort
    exact not_wholeRecords_of_shortWrite hlines hf hpos hlt (hwhole (n + 1) le_rfl)

/-- Without a short write up to call `n` there is none up to an earlier call. -/
lemma noShortWrite_mono {k n : ℕ} (hle : k ≤ n)
    (hno : Always (fun e _ => ¬ ShortWrite fname e) (saveHistory env calls n)) :
    Always (fun e _ => ¬ ShortWrite fname e) (saveHistory env calls k) := by
  induction n with
  | zero =>
    obtain rfl : k = 0 := by omega
    exact hno
  | succ n ih =>
    rcases Nat.of_le_succ hle with hle | rfl
    · exact ih hle (noShortWrite_succ n |>.1 hno).2
    · exact hno

end Sequence

/-- **Whole records only.** As long as no write to a log file is short, the file is at all times
between calls the concatenation of a subsequence of the records passed for it. For records of
one line each the converse holds too: the first short write leaves an open line. -/
theorem wholeRecords_iff_noShortWrite (env : Env Call Resp) (calls : ℕ → CStr 200 × String)
    (fname : Text) (n : ℕ) :
    (Always (fun e _ => ¬ ShortWrite fname e) (saveHistory env calls n) →
      ∀ k ≤ n, WholeRecords fname calls k (saveHistory env calls k)) ∧
    ((∀ i, IsLine (calls i).1.chars) →
      (∀ k ≤ n, WholeRecords fname calls k (saveHistory env calls k)) →
        Always (fun e _ => ¬ ShortWrite fname e) (saveHistory env calls n)) :=
  ⟨fun hno _ hk => wholeRecords_of_noShortWrite (noShortWrite_mono hk hno),
    fun hlines hwhole => noShortWrite_of_wholeRecords hlines hwhole⟩

/-- The calls that save the line `7` for the particle counter. -/
def sevens : ℕ → CStr 200 × String := fun _ =>
  (CStr.snprintf textData_pos ['7', '\n'], "opc")

/-- Their record is a line. -/
lemma sevens_line (i : ℕ) : IsLine (sevens i).1.chars := ⟨['7'], by decide, rfl⟩

/-- A card that writes what it is given never writes a part of it. -/
lemma plainAnswer_noShortWrite (calls : ℕ → CStr 200 × String) (fname : Text) (n : ℕ) :
    Always (fun e _ => ¬ ShortWrite fname e) (saveHistory (fun _ => plainAnswer) calls n) := by
  induction n with
  | zero => trivial
  | succ n ih =>
    rw [noShortWrite_succ]
    refine ⟨?_, ih⟩
    intro hh
    obtain ⟨-, hpos, hlt⟩ := hh
    have hopen : ∀ h : History, isOpen (logName (calls n).2)
        (⟨.fsOpen (logName (calls n).2), (0 : ℤ)⟩ :: h) = true := by
      intro h
      simp [isOpen]
    have hall : resultOf (fun _ => plainAnswer) calls n = (calls n).1.chars.length := by
      unfold resultOf writeResult card
      simp only [plainAnswer, hopen, if_true, min_self]
    omega

/-- Its log is made of whole records after three calls. -/
theorem sevens_wholeRecords :
    WholeRecords (logName "opc") sevens 3 (saveHistory (fun _ => plainAnswer) sevens 3) :=
  (wholeRecords_iff_noShortWrite (fun _ => plainAnswer) sevens (logName "opc") 3).1
    (plainAnswer_noShortWrite sevens _ 3) 3 le_rfl

/-- A card on which only the first character of every record finds room. -/
def fullCard : Env Call Resp := fun _ c =>
  match c with
  | .fsWrite _ _ => (1 : ℤ)
  | c => plainAnswer c

/-- On that card the first record of one line is left in part. -/
theorem fullCard_partialRecord : (∀ i, IsLine (sevens i).1.chars) ∧
    ¬ WholeRecords (logName "opc") sevens 1 (saveHistory fullCard sevens 1) := by
  refine ⟨sevens_line, fun hwhole => ?_⟩
  have hresult : resultOf fullCard sevens 0 = 1 := by decide
  exact not_wholeRecords_of_shortWrite sevens_line rfl (by rw [hresult]; decide)
    (by rw [hresult]; decide) hwhole

end AirLab
