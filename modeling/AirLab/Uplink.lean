import AirLab.Effects.Mailbox
import AirLab.Interleaving

set_option relaxedAutoImplicit false
set_option autoImplicit false

/-!
# The uplinks

The gas thread and the particle thread format a record, publish it in a message array and go
on; the sender hands over to `lorawan_send` what it finds there. Seen from outside each message
array is a mailbox of one place: the records formatted by its producer are the items, the
payloads on its port are what is sent.

## Main definitions

* `AirLab.Publishes`, `AirLab.Sends` — what each thread does with records and message arrays.
* `AirLab.mailView` — the events of one message array.
* `AirLab.UplinkIntegrity` — payloads are whole records, in the order of their production.

## Main results

* `AirLab.uplink_integrity` — both ports, for every run of the application.
-/

namespace AirLab

open CLang Effects

/-! ## What each thread does -/

/-- The contents of `text_data` after each `snprintfcb`, the latest first. -/
def formatted : History → List (CStr 200)
  | [] => []
  | ⟨.snprintfcb t, _⟩ :: past => t :: formatted past
  | _ :: past => formatted past

/-- A producer formats texts that are not empty, copies the latest one into the message array
`m` and into no other, and sends nothing. -/
def Publishes (m : Mailbox) (e : BoardEvent) (past : History) : Prop :=
  match e.call with
  | .snprintfcb t => t.chars ≠ []
  | .strcpy dst t => dst = m ∧ (formatted past).head? = some t
  | .lorawanSubmit _ _ => False
  | _ => True

/-- The sender hands over the message array it has just read, the one that belongs to the port,
and formats and copies nothing. -/
def Sends (e : BoardEvent) (past : History) : Prop :=
  match e.call with
  | .snprintfcb _ => False
  | .strcpy _ _ => False
  | .lorawanSubmit port payload => ∃ m msg past', past = ⟨.load m, msg⟩ :: past' ∧
      payload = msg.chars.take (UInt8.ofNat msg.strlen).toNat ∧
      (port = 1 ∧ m = .gasMsg ∨ port = 2 ∧ m = .opcMsg)
  | _ => True

/-- The call has nothing to do with records and message arrays. -/
def Call.Silent : Call → Prop
  | .snprintfcb _ => False
  | .strcpy _ _ => False
  | .lorawanSubmit _ _ => False
  | _ => True

/-- A measurement cycle has nothing to do with records. -/
lemma Call.ofPower.silent (c : Call) (hc : c.ofPower) : c.Silent := by
  cases c <;> trivial

/-- Neither have the gas sensors. -/
lemma Call.ofGas.silent (c : Call) (hc : c.ofGas) : c.Silent := by
  cases c <;> trivial

/-- Neither has the ambient sensor. -/
lemma Call.ofAmbient.silent (c : Call) (hc : c.ofAmbient) : c.Silent := by
  cases c <;> trivial

/-- Neither has the file system. -/
lemma Call.ofStorage.silent (c : Call) (hc : c.ofStorage) : c.Silent := by
  cases c <;> trivial

/-- Neither has what happens around a transmission. -/
lemma Call.ofLink.silent (c : Call) (hc : c.ofLink) : c.Silent := by
  cases c <;> trivial

/-- A silent event is as a producer's event should be, and formats nothing. -/
lemma publishes_silent (m : Mailbox) (last : Option (CStr 200)) (e : BoardEvent) (h : History)
    (he : e.call.Silent) (hh : Always (Publishes m) h ∧ (formatted h).head? = last) :
    Always (Publishes m) (e :: h) ∧ (formatted (e :: h)).head? = last := by
  obtain ⟨c, r⟩ := e
  cases c <;> first | exact he.elim | exact ⟨⟨trivial, hh.1⟩, hh.2⟩

/-- A silent event is as the sender's events should be. -/
lemma sends_silent (e : BoardEvent) (h : History) (he : e.call.Silent) (hh : Always Sends h) :
    Always Sends (e :: h) := by
  obtain ⟨c, r⟩ := e
  cases c <;> first | exact he.elim | exact ⟨trivial, hh⟩

/-- A silent call is a silent program. -/
lemma silent_call {c : Call} (hc : c.Silent) : (Prog.perform c : App (Resp c)).Within Call.Silent :=
  (Prog.calls_perform c).2 hc

section Producers

variable {env : Env Call Resp} {m : Mailbox} {α : Type}

/-- A silent program keeps a producer's history as it should be, and the latest record. -/
lemma publishes_of_silent {p : App α} (hp : p.Within Call.Silent) (last : Option (CStr 200)) :
    Prog.Triple env (fun h => Always (Publishes m) h ∧ (formatted h).head? = last) p
      (fun _ h => Always (Publishes m) h ∧ (formatted h).head? = last) (Always (Publishes m)) :=
  Prog.Triple.of_calls (publishes_silent m last) (fun _ _ hh => hh.1) hp

/-- The same without the latest record. -/
lemma always_publishes_of_silent {p : App α} (hp : p.Within Call.Silent) :
    Prog.Triple env (Always (Publishes m)) p (fun _ => Always (Publishes m))
      (Always (Publishes m)) := by
  intro h hh
  exact (publishes_of_silent hp (formatted h).head? h ⟨hh, rfl⟩).mono (fun _ _ hh => hh.1)
    fun _ hh => hh

/-- A record begins with its first field. -/
lemma joinFields_cons (f : Text) (fs : List Text) : ∃ t, joinFields (f :: fs) = f ++ t := by
  cases fs with
  | nil => exact ⟨['\n'], rfl⟩
  | cons g fs => exact ⟨'|' :: joinFields (g :: fs), rfl⟩

/-- A record that begins with the time leaves a text in `text_data`. -/
lemma snprintf_record_ne_nil (fs : List Text) :
    (CStr.snprintf textData_pos (joinFields (timeField :: fs))).chars ≠ [] := by
  obtain ⟨t, ht⟩ := joinFields_cons timeField fs
  have hzero : timeField = '0' :: timeField.tail := by decide
  rw [ht, hzero]
  exact CStr.snprintf_ne_nil (by decide) (by decide)

/-- Formatting a record makes it the latest one. -/
lemma snprintfcb_publishes {t : Text} (ht : (CStr.snprintf textData_pos t).chars ≠ [])
    {S : History → Prop} :
    Prog.Triple env (Always (Publishes m)) (snprintfcb t)
      (fun textData h => Always (Publishes m) h ∧ (formatted h).head? = some textData) S := by
  unfold snprintfcb
  refine Prog.Triple.bind (Q := fun _ h => Always (Publishes m) h ∧
    (formatted h).head? = some (CStr.snprintf textData_pos t)) (.perform ?_) fun _ => .pure ?_
  · intro h hh
    exact ⟨⟨ht, hh⟩, rfl⟩
  · intro h hh
    exact hh

/-- The latest record is copied into the producer's message array. -/
lemma strcpy_publishes (t : CStr 200) {S : History → Prop} :
    Prog.Triple env (fun h => Always (Publishes m) h ∧ (formatted h).head? = some t) (strcpy m t)
      (fun _ => Always (Publishes m)) S := by
  refine .perform ?_
  intro h hh
  exact ⟨⟨rfl, hh.2⟩, hh.1⟩

/-- A pass of the gas thread formats, saves and publishes a record. -/
lemma readGasPass_publishes (l : (Fin 8 → UInt16) × (Fin 3 → Flt)) :
    Prog.Triple env (Always (Publishes .gasMsg)) (readGasPass l)
      (fun _ => Always (Publishes .gasMsg)) (Always (Publishes .gasMsg)) := by
  unfold readGasPass
  refine Prog.Triple.bind (always_publishes_of_silent
    ((gasSensorsRead_calls l.1 5).mono Call.ofGas.silent)) fun gs => ?_
  refine Prog.Triple.bind (always_publishes_of_silent
    ((ambientSensorsRead_calls 1 l.2).mono Call.ofAmbient.silent)) fun ambSensors => ?_
  refine Prog.Triple.bind (snprintfcb_publishes (snprintf_record_ne_nil _)) fun textData => ?_
  refine Prog.Triple.bind (publishes_of_silent
    ((saveData_calls textData "gas").mono Call.ofStorage.silent) _) fun _ => ?_
  refine Prog.Triple.bind (strcpy_publishes textData) fun _ => ?_
  refine Prog.Triple.bind (always_publishes_of_silent (silent_call trivial)) fun _ => ?_
  exact Prog.Triple.pure fun _ hh => hh

/-- A pass of the particle thread formats, publishes and saves a record. -/
lemma countParticlesPass_publishes (fuel : ℕ) (a : Fin 3 → Flt) :
    Prog.Triple env (Always (Publishes .opcMsg)) (countParticlesPass fuel a)
      (fun _ => Always (Publishes .opcMsg)) (Always (Publishes .opcMsg)) := by
  have hpin : ∀ v, (gpioPinSet ledRed v).Within Call.Silent := fun v =>
    silent_call trivial
  unfold countParticlesPass
  refine Prog.Triple.bind (always_publishes_of_silent (hpin _)) fun _ => ?_
  refine Prog.Triple.bind (always_publishes_of_silent
    ((opcCycle_calls fuel 7).mono Call.ofPower.silent id)) fun data => ?_
  refine Prog.Triple.bind (always_publishes_of_silent (hpin _)) fun _ => ?_
  refine Prog.Triple.bind (always_publishes_of_silent
    ((ambientSensorsRead_calls 1 a).mono Call.ofAmbient.silent)) fun ambSensors => ?_
  refine Prog.Triple.bind (snprintfcb_publishes (snprintf_record_ne_nil _)) fun textData => ?_
  refine Prog.Triple.bind (strcpy_publishes textData) fun _ => ?_
  refine Prog.Triple.bind (always_publishes_of_silent
    ((saveData_calls textData "opc").mono Call.ofStorage.silent)) fun _ => ?_
  refine Prog.Triple.bind (always_publishes_of_silent (silent_call trivial)) fun _ => ?_
  exact Prog.Triple.pure fun _ hh => hh

/-- The gas thread publishes in `gas_msg`. -/
lemma readGas_publishes (env : Env Call Resp) (passes : ℕ) :
    Prog.Triple env (Always (Publishes .gasMsg)) (readGasAndAmbientSensors passes)
      (fun _ => Always (Publishes .gasMsg)) (Always (Publishes .gasMsg)) := by
  unfold readGasAndAmbientSensors
  refine Prog.Triple.bind (always_publishes_of_silent (silent_call trivial)) fun _ => ?_
  refine Prog.Triple.bind (always_publishes_of_silent (silent_call trivial)) fun gs => ?_
  exact Prog.Triple.forRange (I := fun _ _ => Always (Publishes .gasMsg)) passes
    (fun _ _ l => readGasPass_publishes l) _

/-- The particle thread publishes in `opc_msg`. -/
lemma countParticles_publishes (env : Env Call Resp) (fuel passes : ℕ) :
    Prog.Triple env (Always (Publishes .opcMsg)) (countParticles fuel passes)
      (fun _ => Always (Publishes .opcMsg)) (Always (Publishes .opcMsg)) :=
  Prog.Triple.forRange (I := fun _ _ => Always (Publishes .opcMsg)) passes
    (fun _ _ a => countParticlesPass_publishes fuel a) _

end Producers

section Sender

variable {env : Env Call Resp} {α : Type}

/-- A silent program keeps the sender's history as it should be. -/
lemma sends_of_silent {p : App α} (hp : p.Within Call.Silent) :
    Prog.Triple env (Always Sends) p (fun _ => Always Sends) (Always Sends) :=
  Prog.Triple.of_calls sends_silent (fun _ _ hh => hh) hp

/-- Sending a message array hands over what has just been read from it. -/
lemma sendMessage_sends (port : UInt8) (m : Mailbox) (ok : ℤ → Bool)
    (hport : port = 1 ∧ m = .gasMsg ∨ port = 2 ∧ m = .opcMsg) :
    Prog.Triple env (Always Sends) (sendMessage port m ok) (fun _ => Always Sends)
      (Always Sends) := by
  unfold sendMessage lorawanSend
  refine Prog.Triple.bind (Q := fun msg h => Always Sends h ∧ ∃ past, h = ⟨.load m, msg⟩ :: past)
    (.perform ?_) fun msg => ?_
  · intro h hh
    exact ⟨⟨trivial, hh⟩, h, rfl⟩
  refine Prog.Triple.bind (Q := fun _ => Always Sends)
    (Prog.Triple.bind (Q := fun _ => Always Sends) (.perform ?_)
      fun _ => sends_of_silent (silent_call trivial)) fun ret => ?_
  · intro h hh
    obtain ⟨hall, past, rfl⟩ := hh
    exact ⟨⟨m, msg, past, rfl, rfl, hport⟩, hall⟩
  exact sends_of_silent ((afterSend_calls ret ok).mono fun c hc => (hc.ofLink).silent)

/-- The sender hands over `gas_msg` on port 1 and `opc_msg` on port 2. -/
lemma sendData_sends (joins passes : ℕ) :
    Prog.Triple env (Always Sends) (sendData joins passes) (fun _ => Always Sends)
      (Always Sends) := by
  have hloop : ∀ ret, (Prog.loop joinPass joins ret).Within Call.Silent :=
    Prog.Within.loop (fun ret => (joinPass_calls ret).mono Call.ofLink.silent) joins
  have hpass : ∀ u, Prog.Triple env (Always Sends) (sendPass u) (fun _ => Always Sends)
      (Always Sends) := by
    intro u
    unfold sendPass
    exact Prog.Triple.bind (sendMessage_sends 1 .gasMsg _ (Or.inl ⟨rfl, rfl⟩)) fun _ =>
      sendMessage_sends 2 .opcMsg _ (Or.inr ⟨rfl, rfl⟩)
  unfold sendData
  refine Prog.Triple.bind (sends_of_silent (silent_call trivial)) fun found => ?_
  cases found with
  | false => exact Prog.Triple.pure fun _ hh => hh
  | true =>
    refine Prog.Triple.bind (sends_of_silent (silent_call trivial)) fun ret => ?_
    by_cases hret : 0 ≤ ret
    · rw [if_pos hret]
      refine Prog.Triple.bind (sends_of_silent (hloop (-1))) fun _ => ?_
      exact Prog.Triple.forRange (I := fun _ _ => Always Sends) passes (fun _ _ u => hpass u) ()
    · rw [if_neg hret]
      exact Prog.Triple.pure fun _ hh => hh

end Sender

/-- What each thread does with records and message arrays. -/
def MailDiscipline : ThreadId → BoardEvent → History → Prop
  | .gas => Publishes .gasMsg
  | .particle => Publishes .opcMsg
  | .sender => Sends

/-- What is copied is the latest record of the thread, into the thread's message array. -/
lemma MailDiscipline.of_strcpy {i : ThreadId} {dst : Mailbox} {t : CStr 200} {r : Unit}
    {past : History} (h : MailDiscipline i ⟨.strcpy dst t, r⟩ past) :
    (i = .gas ∧ dst = .gasMsg ∨ i = .particle ∧ dst = .opcMsg) ∧
      (formatted past).head? = some t := by
  cases i with
  | gas =>
    obtain ⟨hdst, hhead⟩ : dst = .gasMsg ∧ (formatted past).head? = some t := h
    exact ⟨Or.inl ⟨rfl, hdst⟩, hhead⟩
  | particle =>
    obtain ⟨hdst, hhead⟩ : dst = .opcMsg ∧ (formatted past).head? = some t := h
    exact ⟨Or.inr ⟨rfl, hdst⟩, hhead⟩
  | sender => exact (h : False).elim

/-- What is handed over is what the sender has just read. -/
lemma MailDiscipline.of_lorawanSubmit {i : ThreadId} {port : UInt8} {payload : Text} {r : Unit}
    {past : History} (h : MailDiscipline i ⟨.lorawanSubmit port payload, r⟩ past) :
    i = .sender ∧ ∃ m msg past', past = ⟨.load m, msg⟩ :: past' ∧
      payload = msg.chars.take (UInt8.ofNat msg.strlen).toNat ∧
      (port = 1 ∧ m = .gasMsg ∨ port = 2 ∧ m = .opcMsg) := by
  cases i with
  | gas => exact (h : False).elim
  | particle => exact (h : False).elim
  | sender => exact ⟨rfl, h⟩

/-- What is formatted is not empty. -/
lemma MailDiscipline.of_snprintfcb {i : ThreadId} {t : CStr 200} {r : Unit} {past : History}
    (h : MailDiscipline i ⟨.snprintfcb t, r⟩ past) : t.chars ≠ [] := by
  cases i with
  | gas => exact h
  | particle => exact h
  | sender => exact (h : False).elim

/-- Every thread on its own keeps its discipline. -/
lemma application_disciplined (fuel joins : ℕ) (passes : ThreadId → ℕ) (i : ThreadId)
    (env : Env Call Resp) :
    Always (MailDiscipline i) ((application fuel joins passes i).run env []).2 := by
  apply Prog.wp.final
  cases i with
  | gas =>
    have hgas := readGas_publishes env (passes .gas)
    exact (Prog.Triple.bind hgas fun _ => Prog.Triple.pure (a := ()) fun _ hh => hh) [] trivial
  | particle =>
    have hparticle := countParticles_publishes env fuel (passes .particle)
    exact (Prog.Triple.bind hparticle fun _ => Prog.Triple.pure (a := ()) fun _ hh => hh) [] trivial
  | sender => exact sendData_sends joins _ [] trivial

/-! ## The mailboxes -/

/-- The events of the message array `m`: the records its producer formats, what is copied into
it, and what is handed over on the port. -/
def mailView (producer : ThreadId) (m : Mailbox) (port : UInt8) :
    ThreadId × BoardEvent → Option (MailEvent Text)
  | (i, ⟨.snprintfcb t, _⟩) => if i = producer then some (.produce t.chars) else none
  | (_, ⟨.strcpy dst t, _⟩) => if dst = m then some (.publish t.chars) else none
  | (_, ⟨.lorawanSubmit p payload, _⟩) => if p = port then some (.send payload) else none
  | _ => none

variable {producer : ThreadId} {m : Mailbox} {port : UInt8}

/-- The items are the records formatted by the producer. -/
lemma produced_mailView (H : AppHistory) :
    MailEvent.produced (H.filterMap (mailView producer m port)) =
      (formatted (own producer H)).map CStr.chars := by
  induction H with
  | nil => rfl
  | cons e H ih =>
    obtain ⟨i, c, r⟩ := e
    by_cases hi : i = producer
    · subst hi
      rw [own_cons_self]
      cases c <;> simp only [List.filterMap_cons, mailView, formatted, if_true] <;>
        first | exact ih | skip
      · simp [MailEvent.produced, ih]
      · split_ifs <;> simp [MailEvent.produced, ih]
      · split_ifs <;> simp [MailEvent.produced, ih]
    · rw [own_cons_of_ne hi]
      cases c <;> simp only [List.filterMap_cons, mailView, if_neg hi] <;>
        first | exact ih | skip
      · split_ifs <;> simp [MailEvent.produced, ih]
      · split_ifs <;> simp [MailEvent.produced, ih]

/-- The content is what the message array holds. -/
lemma content_mailView (H : AppHistory) :
    MailEvent.content [] (H.filterMap (mailView producer m port)) = (message m H).chars := by
  induction H with
  | nil => rfl
  | cons e H ih =>
    obtain ⟨i, c, r⟩ := e
    cases c <;> simp only [List.filterMap_cons, mailView, message] <;> first | exact ih | skip
    · split_ifs <;> simp [MailEvent.content, ih]
    · split_ifs <;> simp [MailEvent.content, ih]
    · split_ifs <;> simp [MailEvent.content, ih]

/-- Payloads on a port are whole records of its producer, in the order of their production: each
is empty or a record formatted before, no empty payload follows a record, and the production
order never goes backwards. -/
structure UplinkIntegrity (records : List Text) (sent : List (Text × ℕ)) : Prop where
  whole : ∀ s ∈ sent, s.1 = [] ∨ s.1 ∈ records.reverse.take s.2
  never_empty_again : sent.Pairwise fun later earlier => earlier.1 ≠ [] → later.1 ≠ []
  inOrder : SentInOrder [] records sent

/-- The records a thread has formatted, the latest first. -/
def records (producer : ThreadId) (H : AppHistory) : List Text :=
  (formatted (own producer H)).map CStr.chars

/-- The payloads handed over on a port, each with the number of records its producer had
formatted by then, the latest first. -/
def payloads (producer : ThreadId) (port : UInt8) : AppHistory → List (Text × ℕ)
  | [] => []
  | (_, ⟨.lorawanSubmit p payload, _⟩) :: past =>
    if p = port then (payload, (records producer past).length) :: payloads producer port past
    else payloads producer port past
  | _ :: past => payloads producer port past

/-- What is sent from the mailbox are the payloads on the port. -/
lemma sent_mailView (H : AppHistory) :
    MailEvent.sent (H.filterMap (mailView producer m port)) = payloads producer port H := by
  induction H with
  | nil => rfl
  | cons e H ih =>
    obtain ⟨i, c, r⟩ := e
    cases c <;> simp only [List.filterMap_cons, mailView, payloads] <;> first | exact ih | skip
    · split_ifs <;> simp [MailEvent.sent, ih]
    · split_ifs <;> simp [MailEvent.sent, ih]
    · split_ifs
      · simp [MailEvent.sent, ih, produced_mailView, records]
      · exact ih

/-- A thread formats no empty record. -/
lemma records_ne_nil {H : AppHistory}
    (hown : Always (fun e past => MailDiscipline e.1 e.2 (own e.1 past)) H) (producer : ThreadId) :
    [] ∉ records producer H := by
  induction H with
  | nil => simp [records, formatted]
  | cons e H ih =>
    obtain ⟨hnow, hpast⟩ := hown
    obtain ⟨i, c, r⟩ := e
    have hrest := ih hpast
    by_cases hi : i = producer
    · subst hi
      unfold records
      rw [own_cons_self]
      cases c <;> first | exact hrest | skip
      rename_i t
      have ht : t.chars ≠ [] := hnow.of_snprintfcb
      simp only [formatted, List.map_cons, List.mem_cons, not_or]
      exact ⟨ht.symm, hrest⟩
    · unfold records
      rw [own_cons_of_ne hi]
      exact hrest

/-- The length handed to `lorawan_send` is the whole length: a record is shorter than 200
characters, so its length fits the byte. -/
lemma handOver_whole (msg : CStr 200) :
    msg.chars.take (UInt8.ofNat msg.strlen).toNat = msg.chars := by
  have hfits : msg.strlen < 200 := msg.fits
  have hlen : (UInt8.ofNat msg.strlen).toNat = msg.strlen := by
    rw [UInt8.toNat_ofNat']
    omega
  rw [hlen]
  exact List.take_length

/-- The producer and the port of a message array. -/
def Serves (producer : ThreadId) (m : Mailbox) (port : UInt8) : Prop :=
  producer = .gas ∧ m = .gasMsg ∧ port = 1 ∨ producer = .particle ∧ m = .opcMsg ∧ port = 2

/-- **The message arrays are used like mailboxes.** Only its producer copies into a message array,
and copies the latest record; what is handed over on its port is what it holds at that moment.

**Proof sketch.** The first is the discipline of the producers. For the second, the sender has
read the array in the call before; neither call blocks, so no other thread has run in between,
and the array still holds what was read. -/
lemma always_orderly (hserves : Serves producer m port) {env : AppEnv} {H : AppHistory}
    (hown : Always (fun e past => MailDiscipline e.1 e.2 (own e.1 past)) H)
    (hanswered : Always (fun e past => e.2.resp = shared env past e.1 e.2.call) H)
    (hadjacent : Always (System.Adjacent Call.blocks) H) :
    Always (MailEvent.Orderly []) (H.filterMap (mailView producer m port)) := by
  apply MailEvent.always_filterMap
  induction H with
  | nil => trivial
  | cons e past ih =>
    obtain ⟨hnow, hpast⟩ := hown
    refine ⟨fun a ha => ?_, ih hpast hanswered.2 hadjacent.2⟩
    obtain ⟨i, c, r⟩ := e
    cases c with
    | snprintfcb t =>
      simp only [mailView] at ha
      split_ifs at ha
      cases ha
      trivial
    | strcpy dst t =>
      simp only [mailView] at ha
      split_ifs at ha with hdst
      cases ha
      subst hdst
      -- only the producer copies into this array
      obtain ⟨hthread, hhead⟩ := hnow.of_strcpy
      obtain rfl : i = producer := by
        rcases hserves with ⟨rfl, rfl, rfl⟩ | ⟨rfl, rfl, rfl⟩
        · simpa using hthread
        · simpa using hthread
      show (MailEvent.produced (past.filterMap (mailView i dst port))).head? = some t.chars
      rw [produced_mailView, List.head?_map, hhead]
      rfl
    | lorawanSubmit p payload =>
      simp only [mailView] at ha
      split_ifs at ha with hp
      cases ha
      subst hp
      obtain ⟨rfl, m', msg, rest, hrest, hpayload, hport⟩ := hnow.of_lorawanSubmit
      obtain ⟨past', rfl⟩ := hadjacent.1 rfl _ rest hrest rfl
      obtain rfl : m' = m := by
        rcases hserves with ⟨rfl, rfl, rfl⟩ | ⟨rfl, rfl, rfl⟩
        · simpa using hport
        · simpa using hport
      have hmsg : msg = message m' past' := hanswered.2.1
      show payload = MailEvent.content [] _
      rw [content_mailView, hpayload, handOver_whole, hmsg]
      rfl
    | _ => simp [mailView] at ha

/-- What is sent on the port of a producer, in order. -/
lemma appHistory_sentInOrder (env : AppEnv) (fuel joins : ℕ) (passes : ThreadId → ℕ)
    (schedule : List ThreadId) (hserves : Serves producer m port) :
    SentInOrder [] (records producer (appHistory env fuel joins passes schedule))
      (payloads producer port (appHistory env fuel joins passes schedule)) := by
  have hanswered : Always (fun e past => e.2.resp = shared env past e.1 e.2.call)
      (appHistory env fuel joins passes schedule) :=
    System.always_answered (application fuel joins passes) schedule
  have hinOrder := MailEvent.sentInOrder (always_orderly hserves
    (System.always_own (application_disciplined fuel joins passes) schedule) hanswered
    (System.always_adjacent (application fuel joins passes) schedule))
  rw [produced_mailView, sent_mailView] at hinOrder
  exact hinOrder

/-- **Uplink integrity and order.** In every run of the application, whatever the schedule and the
answers, the payloads on port 1 are whole records of the gas thread and those on port 2 whole
records of the particle thread, in the order of their production. -/
theorem uplink_integrity (env : AppEnv) (fuel joins : ℕ) (passes : ThreadId → ℕ)
    (schedule : List ThreadId) :
    UplinkIntegrity (records .gas (appHistory env fuel joins passes schedule))
        (payloads .gas 1 (appHistory env fuel joins passes schedule)) ∧
      UplinkIntegrity (records .particle (appHistory env fuel joins passes schedule))
        (payloads .particle 2 (appHistory env fuel joins passes schedule)) := by
  have hown : Always (fun e past => MailDiscipline e.1 e.2 (own e.1 past))
      (appHistory env fuel joins passes schedule) :=
    System.always_own (application_disciplined fuel joins passes) schedule
  have hanswered : Always (fun e past => e.2.resp = shared env past e.1 e.2.call)
      (appHistory env fuel joins passes schedule) :=
    System.always_answered (application fuel joins passes) schedule
  have hadjacent : Always (System.Adjacent Call.blocks)
      (appHistory env fuel joins passes schedule) :=
    System.always_adjacent (application fuel joins passes) schedule
  have hport : ∀ producer m port, Serves producer m port →
      UplinkIntegrity (records producer (appHistory env fuel joins passes schedule))
        (payloads producer port (appHistory env fuel joins passes schedule)) := by
    intro producer m port hserves
    have hinOrder := MailEvent.sentInOrder (always_orderly hserves hown hanswered hadjacent)
    rw [produced_mailView, sent_mailView] at hinOrder
    exact ⟨hinOrder.whole, hinOrder.never_empty_again (records_ne_nil hown producer), hinOrder⟩
  exact ⟨hport .gas .gasMsg 1 (Or.inl ⟨rfl, rfl, rfl⟩),
    hport .particle .opcMsg 2 (Or.inr ⟨rfl, rfl, rfl⟩)⟩

end AirLab
