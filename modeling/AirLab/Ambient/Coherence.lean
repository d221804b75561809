import AirLab.Interleaving

set_option relaxedAutoImplicit false
set_option autoImplicit false

/-!
# Coherent readings of the ambient sensor

The gas thread and the particle thread read the same sensor. A thread fetches a sample, sleeps
for 20 ms and reads the three channels from what the driver has stored, by then perhaps the
sample of the other thread. No call between the three reads blocks, so they see one sample.

## Main definitions

* `AirLab.SensorUse` — the order of the sensor calls of a thread.
* `AirLab.SensorClient` — programs that use the sensor through `ambient_sensors_read` only.
* `AirLab.Coherent` — a triple of channel reads comes from one fetch, not older than the thread's
  own.
* `AirLab.EndsWithReads` — the triple a pass of the sample loop has read.

## Main results

* `AirLab.ambient_coherent` — all triples of all runs are coherent.
-/

namespace AirLab

open CLang Effects

/-! ## The sensor calls of a thread -/

/-- The pressure is read after a successful fetch and a sleep, the temperature right after the
pressure, the humidity right after the temperature. -/
def SensorUse (e : BoardEvent) (past : History) : Prop :=
  match e.call with
  | .sensorChannelGet .press => ∃ s past',
      past = ⟨.kMsleep 20, ()⟩ :: ⟨.sensorSampleFetch, some s⟩ :: past'
  | .sensorChannelGet .ambientTemp => ∃ press past',
      past = ⟨.sensorChannelGet .press, some press⟩ :: past'
  | .sensorChannelGet .humidity => ∃ temp past',
      past = ⟨.sensorChannelGet .ambientTemp, some temp⟩ :: past'
  | _ => True

/-- The call does not read a channel. -/
def Call.ReadsNoChannel : Call → Prop
  | .sensorChannelGet _ => False
  | _ => True

/-- A call that reads no channel may come at any time. -/
lemma sensorUse_cons (e : BoardEvent) (h : History) (he : e.call.ReadsNoChannel)
    (hh : Always SensorUse h) : Always SensorUse (e :: h) := by
  obtain ⟨c, r⟩ := e
  cases c <;> first | exact he.elim | exact ⟨trivial, hh⟩

section Client

variable {env : Env Call Resp} {S : History → Prop}

/-- The reads of a pass after its fetch. -/
lemma channelGets_sensorUse (s : Sample) :
    Prog.Triple env (fun h => Always SensorUse h ∧
        ∃ past, h = ⟨.kMsleep 20, ()⟩ :: ⟨.sensorSampleFetch, some s⟩ :: past)
      channelGets (fun _ => Always SensorUse) S := by
  unfold channelGets
  refine Prog.Triple.bind (Q := fun press h => Always SensorUse h ∧
    ∃ past, h = ⟨.sensorChannelGet .press, press⟩ :: past) (.perform ?_) fun press => ?_
  · intro h hh
    obtain ⟨hall, past, rfl⟩ := hh
    exact ⟨⟨⟨s, past, rfl⟩, hall⟩, _, rfl⟩
  cases press with
  | none => exact .pure fun h hh => hh.1
  | some press =>
    refine Prog.Triple.bind (Q := fun temp h => Always SensorUse h ∧
      ∃ past, h = ⟨.sensorChannelGet .ambientTemp, temp⟩ :: past) (.perform ?_) fun temp => ?_
    · intro h hh
      obtain ⟨hall, past, rfl⟩ := hh
      exact ⟨⟨⟨press, past, rfl⟩, hall⟩, _, rfl⟩
    cases temp with
    | none => exact .pure fun h hh => hh.1
    | some temp =>
      refine Prog.Triple.bind (Q := fun _ => Always SensorUse) (.perform ?_) fun hum => ?_
      · intro h hh
        obtain ⟨hall, past, rfl⟩ := hh
        exact ⟨⟨temp, past, rfl⟩, hall⟩
      cases hum with
      | none => exact .pure fun h hh => hh
      | some hum => exact .pure fun h hh => hh

/-- One pass of the sample loop. -/
lemma ambientSample_sensorUse :
    Prog.Triple env (Always SensorUse) ambientSample (fun _ => Always SensorUse) S := by
  have hsleep : ∀ ms, (kMsleep ms).Only Call.ReadsNoChannel := fun ms => perform_only trivial
  unfold ambientSample
  refine Prog.Triple.bind (Prog.Triple.of_only sensorUse_cons (hsleep 20)) fun _ => ?_
  refine Prog.Triple.bind (Q := fun fetched h => Always SensorUse h ∧
    (fetched = true → ∃ s past, h = ⟨.sensorSampleFetch, some s⟩ :: past)) ?_ fun fetched => ?_
  · unfold sensorSampleFetch
    refine Prog.Triple.bind (Q := fun fetched h => Always SensorUse h ∧
      ∃ past, h = ⟨.sensorSampleFetch, fetched⟩ :: past) (.perform ?_) fun fetched => .pure ?_
    · intro h hh
      exact ⟨⟨trivial, hh⟩, h, rfl⟩
    · intro h hh
      obtain ⟨hall, past, rfl⟩ := hh
      refine ⟨hall, fun hsome => ?_⟩
      obtain ⟨s, rfl⟩ := Option.isSome_iff_exists.1 hsome
      exact ⟨s, past, rfl⟩
  cases fetched with
  | false =>
    refine Prog.Triple.bind (Q := fun _ => Always SensorUse) (.perform ?_) fun _ =>
      .pure fun h hh => hh
    intro h hh
    exact ⟨trivial, hh.1⟩
  | true =>
    intro h hh
    obtain ⟨hall, hfetch⟩ := hh
    obtain ⟨s, past, rfl⟩ := hfetch rfl
    rw [Prog.wp_bind, wp_kMsleep]
    exact channelGets_sensorUse s _ ⟨⟨trivial, hall⟩, past, rfl⟩

/-- `ambient_sensors_read` keeps the order. -/
lemma ambientSensorsRead_sensorUse (samples : UInt8) (a : Fin 3 → Flt) :
    Prog.Triple env (Always SensorUse) (ambientSensorsRead samples a)
      (fun _ => Always SensorUse) S := by
  have hpass : ∀ i sum, Prog.Triple env (Always SensorUse) (ambientPass i sum)
      (fun r h => r.elim (Always SensorUse h) fun _ => Always SensorUse h) S := by
    intro i sum
    unfold ambientPass
    refine Prog.Triple.bind ambientSample_sensorUse fun v => .pure fun h hh => ?_
    cases v <;> exact hh
  unfold ambientSensorsRead
  refine Prog.Triple.bind (Prog.Triple.of_only sensorUse_cons (perform_only trivial)) fun sum => ?_
  refine Prog.Triple.bind (Prog.Triple.forUntil (I := fun _ _ => Always SensorUse) _
    (fun i _ sum => hpass i sum) sum) fun r => ?_
  cases r with
  | none => exact .pure fun h hh => hh
  | some sum => exact .pure fun h hh => hh

end Client

/-- Programs that use the sensor through `ambient_sensors_read` only, with any number of samples,
as often as they like and with anything else in between. -/
inductive SensorClient : {α : Type} → App α → Prop
  | other {α : Type} {p : App α} (hp : p.Within Call.ReadsNoChannel) : SensorClient p
  | read (samples : UInt8) (a : Fin 3 → Flt) : SensorClient (ambientSensorsRead samples a)
  | bind {α β : Type} {p : App α} {f : α → App β} (hp : SensorClient p)
      (hf : ∀ a, SensorClient (f a)) : SensorClient (p >>= f)

/-- A loop over a client. -/
lemma SensorClient.forRange {σ : Type} {body : ℕ → σ → App σ}
    (hbody : ∀ i s, SensorClient (body i s)) (n : ℕ) (s : σ) :
    SensorClient (Prog.forRange body n s) := by
  induction n with
  | zero => exact .other (Prog.calls_pure s)
  | succ n ih => exact .bind ih (hbody n)

/-- A client keeps the order of the sensor calls. -/
lemma SensorClient.sensorUse {α : Type} {p : App α} (hp : SensorClient p) (env : Env Call Resp) :
    Prog.Triple env (Always SensorUse) p (fun _ => Always SensorUse) (Always SensorUse) := by
  induction hp with
  | other hp => exact Prog.Triple.of_calls sensorUse_cons (fun _ _ h => h) hp
  | read samples a => exact ambientSensorsRead_sensorUse samples a
  | bind _ _ ihp ihf => exact Prog.Triple.bind ihp ihf

/-! ## The threads as clients -/

/-- A single call other than a channel read. -/
lemma client_perform {c : Call} (hc : c.ReadsNoChannel) :
    SensorClient (Prog.perform c : App (Resp c)) := .other ((Prog.calls_perform c).2 hc)

/-- The particle thread. -/
lemma countParticles_client (fuel passes : ℕ) : SensorClient (countParticles fuel passes) := by
  refine .forRange (fun _ a => ?_) passes _
  unfold countParticlesPass
  refine .bind (client_perform trivial) fun _ => ?_
  refine .bind (.other ((opcCycle_calls fuel 7).mono ?_ id)) fun data => ?_
  · intro c hc
    cases c <;> trivial
  refine .bind (client_perform trivial) fun _ => .bind (.read 1 a) fun ambSensors => ?_
  refine .bind (.bind (client_perform trivial) fun _ => .other (Prog.calls_pure _))
    fun textData => ?_
  refine .bind (client_perform trivial) fun _ => ?_
  refine .bind (.other ((saveData_calls textData "opc").mono ?_)) fun _ => ?_
  · intro c hc
    cases c <;> trivial
  exact .bind (client_perform trivial) fun _ => .other (Prog.calls_pure _)

/-- The gas thread. -/
lemma readGas_client (passes : ℕ) : SensorClient (readGasAndAmbientSensors passes) := by
  unfold readGasAndAmbientSensors
  refine .bind (client_perform trivial) fun _ => .bind (client_perform trivial) fun gs => ?_
  refine .forRange (fun _ l => ?_) passes _
  unfold readGasPass
  refine .bind (.other ((gasSensorsRead_calls l.1 5).mono ?_)) fun gs => ?_
  · intro c hc
    cases c <;> trivial
  refine .bind (.read 1 l.2) fun ambSensors => ?_
  refine .bind (.bind (client_perform trivial) fun _ => .other (Prog.calls_pure _))
    fun textData => ?_
  refine .bind (.other ((saveData_calls textData "gas").mono ?_)) fun _ => ?_
  · intro c hc
    cases c <;> trivial
  refine .bind (client_perform trivial) fun _ => ?_
  exact .bind (client_perform trivial) fun _ => .other (Prog.calls_pure _)

/-- The application's threads are clients. -/
lemma application_client (fuel joins : ℕ) (passes : ThreadId → ℕ) (i : ThreadId) :
    SensorClient (application fuel joins passes i) := by
  cases i with
  | gas => exact .bind (readGas_client _) fun _ => .other (Prog.calls_pure _)
  | particle => exact .bind (countParticles_client fuel _) fun _ => .other (Prog.calls_pure _)
  | sender =>
    refine .other ((sendData_calls joins _).mono ?_ id)
    intro c hc
    cases c <;> trivial

/-! ## Joint runs -/

/-- **A coherent triple.** Before the thread read the humidity it read the temperature and the
pressure, with nothing of another thread in between, and all three values belong to one fetch.
The thread's own fetch of this pass succeeded, and none of its fetches came after the one that
delivered the values. -/
def Coherent (e : ThreadId × BoardEvent) (past : AppHistory) : Prop :=
  ∀ hum : SensorValue, e.2 = ⟨.sensorChannelGet .humidity, some hum⟩ → ∃ press temp rest,
    past = (e.1, ⟨.sensorChannelGet .ambientTemp, some temp⟩) ::
      (e.1, ⟨.sensorChannelGet .press, some press⟩) :: rest ∧
    (∃ s own', own e.1 rest = ⟨.kMsleep 20, ()⟩ :: ⟨.sensorSampleFetch, some s⟩ :: own') ∧
    ∃ later j before, rest = later ++ (j, ⟨.sensorSampleFetch, some ⟨press, temp, hum⟩⟩) :: before ∧
      ∀ x ∈ later, x.1 = e.1 → x.2.call ≠ .sensorSampleFetch

/-- The stored sample is that of the last successful fetch. -/
lemma storedSample_eq_some {H : AppHistory} {v : Sample} (hv : storedSample H = some v) :
    ∃ later j before, H = later ++ (j, ⟨.sensorSampleFetch, some v⟩) :: before ∧
      ∀ x ∈ later, ∀ s, x.2 ≠ ⟨.sensorSampleFetch, some s⟩ := by
  induction H with
  | nil => cases hv
  | cons e H ih =>
    obtain ⟨i, c, r⟩ := e
    -- an event that is no successful fetch leaves the stored sample alone
    have hskip : (∀ s, (⟨c, r⟩ : BoardEvent) ≠ ⟨.sensorSampleFetch, some s⟩) →
        storedSample H = some v → ∃ later j before,
          (i, ⟨c, r⟩) :: H = later ++ (j, ⟨.sensorSampleFetch, some v⟩) :: before ∧
            ∀ x ∈ later, ∀ s, x.2 ≠ ⟨.sensorSampleFetch, some s⟩ := by
      intro hne hH
      obtain ⟨later, j, before, rfl, hlater⟩ := ih hH
      refine ⟨(i, ⟨c, r⟩) :: later, j, before, rfl, fun x hx => ?_⟩
      rcases List.mem_cons.1 hx with rfl | hx
      · exact hne
      · exact hlater x hx
    by_cases hc : c = .sensorSampleFetch
    · subst hc
      cases r with
      | none => exact hskip (by simp) hv
      | some s =>
        obtain rfl : s = v := Option.some.inj hv
        exact ⟨[], i, H, rfl, by simp⟩
    · refine hskip (fun s heq => hc (congrArg Event.call heq)) ?_
      cases c <;> first | exact hv | exact absurd rfl hc

/-- A thread whose last event before its sleep was a successful fetch has no fetch among the events
after the last successful fetch of all. -/
lemma own_fetch_not_later {i : ThreadId} {later before : AppHistory} {s : Sample} {own' : History}
    (hfetch : own i (later ++ before) = ⟨.kMsleep 20, ()⟩ :: ⟨.sensorSampleFetch, some s⟩ :: own')
    (hlater : ∀ x ∈ later, ∀ s, x.2 ≠ ⟨.sensorSampleFetch, some s⟩) :
    ∀ x ∈ later, x.1 = i → x.2.call ≠ .sensorSampleFetch := by
  rintro ⟨j, e⟩ hx rfl hcall
  have hmem : e ∈ own j later := mem_own hx
  rw [own_append] at hfetch
  cases hlist : own j later with
  | nil =>
    rw [hlist] at hmem
    cases hmem
  | cons a l =>
    rw [hlist] at hmem hfetch
    obtain ⟨rfl, hl⟩ := List.cons.inj hfetch
    rcases List.mem_cons.1 hmem with rfl | hmem
    · cases hcall
    cases l with
    | nil => cases hmem
    | cons b l =>
      obtain ⟨rfl, -⟩ := List.cons.inj hl
      refine hlater (j, ⟨.sensorSampleFetch, some s⟩) (of_mem_own ?_) s rfl
      rw [hlist]
      simp

/-- A channel read that succeeded got the channel of the stored sample. -/
lemma stored_of_read {env : AppEnv} {H : AppHistory} {i : ThreadId} {chan : SensorChannel}
    {v : SensorValue} (hv : some v = shared env H i (.sensorChannelGet chan)) :
    (storedSample H).map (fun s => s.channel chan) = some v := by
  have hbind : some v = (env H i (.sensorChannelGet chan) : Option SensorValue).bind fun _ =>
      (storedSample H).map fun s => s.channel chan := hv
  obtain ⟨_, -, hsome⟩ := Option.bind_eq_some_iff.1 hbind.symm
  exact hsome

/-- A sample is determined by its channels. -/
lemma eq_some_of_channels {stored : Option Sample} {press temp hum : SensorValue}
    (hpress : stored.map (fun s => s.channel .press) = some press)
    (htemp : stored.map (fun s => s.channel .ambientTemp) = some temp)
    (hhum : stored.map (fun s => s.channel .humidity) = some hum) :
    stored = some ⟨press, temp, hum⟩ := by
  obtain ⟨v, rfl, rfl⟩ := Option.map_eq_some_iff.1 hhum
  rw [Option.map_some, Option.some.injEq] at htemp hpress
  rw [← hpress, ← htemp]
  rfl

/-- **Every triple of channel reads is coherent** in a joint run of clients of the sensor.

**Proof sketch.** The reads of a thread follow each other without a blocking call, so they stand
next to each other in the joint history and see the same stored sample. The thread's own fetch
succeeded, so the last successful fetch is not before it. -/
lemma always_coherent {prog : ThreadId → App Unit} (hprog : ∀ i, SensorClient (prog i))
    (env : AppEnv) (schedule : List ThreadId) :
    Always Coherent
      (System.run Call.blocks (shared env) (System.init prog) schedule).hist := by
  have hown : Always (fun e past => SensorUse e.2 (own e.1 past))
      (System.run Call.blocks (shared env) (System.init prog) schedule).hist :=
    System.always_own (P := fun _ => SensorUse)
      (fun i env' => Prog.wp.final ((hprog i).sensorUse env' [] trivial)) schedule
  have hanswered : Always (fun e past => e.2.resp = shared env past e.1 e.2.call)
      (System.run Call.blocks (shared env) (System.init prog) schedule).hist :=
    System.always_answered prog schedule
  have hadjacent : Always (System.Adjacent Call.blocks)
      (System.run Call.blocks (shared env) (System.init prog) schedule).hist :=
    System.always_adjacent prog schedule
  revert hown hanswered hadjacent
  generalize (System.run Call.blocks (shared env) (System.init prog) schedule).hist = H
  intro hown hanswered hadjacent
  induction H with
  | nil => trivial
  | cons e past ih =>
    refine ⟨?_, ih hown.2 hanswered.2 hadjacent.2⟩
    obtain ⟨i, e⟩ := e
    intro hum he
    obtain rfl : e = ⟨.sensorChannelGet .humidity, some hum⟩ := he
    -- the two reads before this one
    obtain ⟨temp, past₁, hpast₁⟩ := hown.1
    obtain ⟨rest₁, rfl⟩ := hadjacent.1 rfl _ _ hpast₁ rfl
    obtain ⟨press, past₂, hpast₂⟩ := hown.2.1
    obtain ⟨rest, rfl⟩ := hadjacent.2.1 rfl _ _ hpast₂ rfl
    obtain ⟨s, own', hfetch⟩ := hown.2.2.1
    -- all three saw the sample stored after `rest`
    have hhum := stored_of_read hanswered.1
    have htemp := stored_of_read hanswered.2.1
    have hpress := stored_of_read hanswered.2.2.1
    have hv : storedSample rest = some ⟨press, temp, hum⟩ := eq_some_of_channels hpress htemp hhum
    obtain ⟨later, j, before, hrest, hlater⟩ := storedSample_eq_some hv
    refine ⟨press, temp, rest, rfl, ⟨s, own', hfetch⟩, later, j, before, hrest, ?_⟩
    rw [hrest] at hfetch
    exact own_fetch_not_later hfetch hlater

/-! ## What is added to the sums -/

/-- The history ends with the three channel reads that got `v`. -/
def EndsWithReads (v : Sample) (h : History) : Prop :=
  ∃ rest, h = ⟨.sensorChannelGet .humidity, some v.hum⟩ ::
    ⟨.sensorChannelGet .ambientTemp, some v.temp⟩ ::
    ⟨.sensorChannelGet .press, some v.press⟩ :: rest

/-- The channel reads return what they got. -/
lemma channelGets_endsWithReads {env : Env Call Resp} {S : History → Prop} :
    Prog.Triple env (fun _ => True) channelGets
      (fun r h => ∀ v, r = some v → EndsWithReads v h) S := by
  unfold channelGets
  refine Prog.Triple.bind
    (Q := fun press h => ∃ past, h = ⟨.sensorChannelGet .press, press⟩ :: past)
    (.perform fun h _ => ⟨h, rfl⟩) fun press => ?_
  cases press with
  | none => exact .pure fun h _ v hv => by cases hv
  | some press =>
    refine Prog.Triple.bind (Q := fun temp h => ∃ past,
      h = ⟨.sensorChannelGet .ambientTemp, temp⟩ :: ⟨.sensorChannelGet .press, some press⟩ :: past)
      (.perform ?_) fun temp => ?_
    · intro h hh
      obtain ⟨past, rfl⟩ := hh
      exact ⟨past, rfl⟩
    cases temp with
    | none => exact .pure fun h _ v hv => by cases hv
    | some temp =>
      refine Prog.Triple.bind (Q := fun hum h => ∀ v, hum = some v →
        EndsWithReads ⟨press, temp, v⟩ h) (.perform ?_) fun hum => ?_
      · intro h hh v hv
        obtain ⟨past, rfl⟩ := hh
        refine ⟨past, ?_⟩
        rw [hv]
      cases hum with
      | none => exact .pure fun h _ v hv => by cases hv
      | some hum =>
        refine .pure fun h hh v hv => ?_
        obtain rfl := Option.some.inj hv
        exact hh hum rfl

/-- What a pass of the sample loop adds to the sums is what its three channel reads got. -/
lemma ambientPass_adds {env : Env Call Resp} {i : ℕ} {sum sum' : Fin 3 → Flt} {h h' : History}
    (hrun : (ambientPass i sum).run env h = (some (some sum'), h')) :
    ∃ v, sum' = addSample sum v ∧ EndsWithReads v h' := by
  have hsample : Prog.Triple env (fun _ => True) ambientSample
      (fun r h => ∀ v, r = some v → EndsWithReads v h) fun _ => True := by
    unfold ambientSample
    refine Prog.Triple.bind (Q := fun _ _ => True) (.perform fun _ _ => trivial) fun _ => ?_
    refine Prog.Triple.bind (Q := fun _ _ => True) (Prog.Triple.of_stable (fun _ _ h => h) _)
      fun fetched => ?_
    refine Prog.Triple.bind (Q := fun _ _ => True) (.perform fun _ _ => trivial) fun _ => ?_
    cases fetched with
    | false => exact .pure fun h _ v hv => by cases hv
    | true => exact channelGets_endsWithReads
  have hpass : Prog.Triple env (fun _ => True) (ambientPass i sum)
      (fun r h => ∀ sum', r = some sum' → ∃ v, sum' = addSample sum v ∧ EndsWithReads v h)
      fun _ => True := by
    unfold ambientPass
    refine Prog.Triple.bind hsample fun v => .pure fun h hh sum' hsum => ?_
    obtain ⟨v, rfl, rfl⟩ := Option.map_eq_some_iff.1 hsum
    exact ⟨v, rfl, hh v rfl⟩
  exact (hpass h trivial).of_some hrun sum' rfl

/-- **Coherent readings.** What a pass of `ambient_sensors_read` adds to its sums are the values of
its three channel reads. In every joint run of threads that use the sensor through
`ambient_sensors_read`, whatever the schedule and the answers, the three values come from one
completed fetch, no older than the thread's own fetch of the pass. The application's threads are
such threads. -/
theorem ambient_coherent :
    (∀ (env : Env Call Resp) (i : ℕ) (sum sum' : Fin 3 → Flt) (h h' : History),
      (ambientPass i sum).run env h = (some (some sum'), h') →
        ∃ v, sum' = addSample sum v ∧ EndsWithReads v h') ∧
    (∀ (prog : ThreadId → App Unit), (∀ i, SensorClient (prog i)) →
      ∀ (env : AppEnv) (schedule : List ThreadId), Always Coherent
        (System.run Call.blocks (shared env) (System.init prog) schedule).hist) ∧
    ∀ (env : AppEnv) (fuel joins : ℕ) (passes : ThreadId → ℕ) (schedule : List ThreadId),
      Always Coherent (appHistory env fuel joins passes schedule) :=
  ⟨fun _ _ _ _ _ _ hrun => ambientPass_adds hrun, fun _ hprog => always_coherent hprog,
    fun env fuel joins passes => always_coherent (application_client fuel joins passes) env⟩

end AirLab
