import Mathlib.Order.Basic
import AirLab.Footprint

set_option relaxedAutoImplicit false
set_option autoImplicit false

/-!
# Joining the network

The sender repeats `lorawan_join` until the network is joined and then sets the data rate. The
results of both go into the variable `ret`, which is also the condition of the loop: a data rate
that cannot be set looks like a failed join.

## Main definitions

* `AirLab.NetScript` — the results of the radio's driver.
* `AirLab.NetScript.JoinsOnce` — the network is joined once.

## Main results

* `AirLab.joinPass_run` — what a pass of the join loop does.
* `AirLab.joinsOnce_iff_dataRateSet` — the network is joined once exactly if the first data rate
  can be set.
-/

namespace AirLab

open CLang Effects

/-! ## What the radio answers -/

/-- A call of `lorawan_join`. -/
def Call.isJoin : Call → Bool
  | .lorawanJoin => true
  | _ => false

/-- A call of `lorawan_set_datarate`. -/
def Call.isSetDatarate : Call → Bool
  | .lorawanSetDatarate => true
  | _ => false

/-- A join that succeeded. -/
def joinSucceeded : BoardEvent → Bool
  | ⟨.lorawanJoin, ret⟩ => 0 ≤ (ret : ℤ)
  | _ => false

/-- How often `lorawan_join` was called. -/
def joins (h : History) : ℕ := occurrences (fun e => e.call.isJoin) h

/-- How often `lorawan_set_datarate` was called. -/
def datarates (h : History) : ℕ := occurrences (fun e => e.call.isSetDatarate) h

/-- How often a join succeeded. -/
def joined (h : History) : ℕ := occurrences joinSucceeded h

/-- The calls of `lorawan_join` after an event. -/
@[simp] lemma joins_cons (e : BoardEvent) (past : History) :
    joins (e :: past) = joins past + if e.call.isJoin then 1 else 0 := occurrences_cons _ e past

/-- The calls of `lorawan_set_datarate` after an event. -/
@[simp] lemma datarates_cons (e : BoardEvent) (past : History) :
    datarates (e :: past) = datarates past + if e.call.isSetDatarate then 1 else 0 :=
  occurrences_cons _ e past

/-- The successful joins after an event. -/
@[simp] lemma joined_cons (e : BoardEvent) (past : History) :
    joined (e :: past) = joined past + if joinSucceeded e then 1 else 0 :=
  occurrences_cons _ e past

/-- **The results of the radio's driver**: whether there is a radio, whether it starts, and the
result of each call of `lorawan_join` and of `lorawan_set_datarate`. -/
structure NetScript where
  found : Bool
  start : ℤ
  join : ℕ → ℤ
  datarate : ℕ → ℤ
  rest : Env Call Resp

namespace NetScript

/-- The answers of a script. -/
def env (x : NetScript) : Env Call Resp := fun h c =>
  match c with
  | .deviceGetBinding _ => x.found
  | .lorawanStart => x.start
  | .lorawanJoin => x.join (joins h)
  | .lorawanSetDatarate => x.datarate (datarates h)
  | c => x.rest h c

/-- The radio is there and starts. -/
def Started (x : NetScript) : Prop := x.found = true ∧ 0 ≤ x.start

/-- The run of the sender: at most `fuel` passes of its join loop, `passes` of its send loop. -/
def run (x : NetScript) (fuel passes : ℕ) : Option Unit × History :=
  (sendData fuel passes).run x.env []

end NetScript

/-- **What the sender may do** in the light of its past: after a successful join it does not join
again and does not turn the red LED on, and it sends after exactly one. -/
def Permitted (e : BoardEvent) (past : History) : Prop :=
  (e.call.isJoin → joined past = 0) ∧ (e.call = .gpioPinSet ledRed .high → joined past = 0) ∧
    ∀ m, e.call = .load m → joined past = 1

/-- **The network is joined once.** -/
structure NetScript.JoinsOnce (x : NetScript) : Prop where
  /-- Every pass joins as long as the passes before it failed. -/
  repeats : x.Started → ∀ fuel passes, (∀ i, i + 1 < fuel → x.join i < 0) →
    joins (x.run fuel passes).2 = fuel
  /-- The pass of the first successful join is the last one. -/
  exits : x.Started → ∀ n, (∀ i < n, x.join i < 0) → 0 ≤ x.join n → ∀ fuel passes, n < fuel →
    ∃ h, x.run fuel passes = (some (), h) ∧ joins h = n + 1
  /-- No event of any run is out of place. -/
  permitted : ∀ fuel passes, Always Permitted (x.run fuel passes).2

/-! ## The join loop -/

/-- The events of a pass whose join fails. -/
def failedPass (x : NetScript) (h : History) : History :=
  [⟨.kMsleep 1000, ()⟩, ⟨.gpioPinSet ledRed .low, ()⟩, ⟨.kMsleep 1000, ()⟩,
    ⟨.gpioPinSet ledRed .high, ()⟩, ⟨.lorawanJoin, x.join (joins h)⟩]

/-- The events of a pass whose join succeeds. -/
def joinedPass (x : NetScript) (h : History) : History :=
  [⟨.gpioPinSet ledGreen .high, ()⟩, ⟨.lorawanSetDatarate, x.datarate (datarates h)⟩,
    ⟨.lorawanJoin, x.join (joins h)⟩]

/-- **A pass of the join loop.** It goes on if the join fails, and also if the join succeeds and
the data rate cannot be set. -/
lemma joinPass_run (x : NetScript) (ret : ℤ) (h : History) :
    (joinPass ret).run x.env h =
      if x.join (joins h) < 0 then (some (.inl (x.join (joins h))), failedPass x h ++ h)
      else if x.datarate (datarates h) < 0 then
        (some (.inl (x.datarate (datarates h))), joinedPass x h ++ h)
      else (some (.inr ()), joinedPass x h ++ h) := by
  unfold joinPass lorawanJoin lorawanSetDatarate
  rw [Prog.run_bind_of_some x.env (Prog.run_perform x.env .lorawanJoin h)]
  show (if x.join (joins h) < 0 then _ else _ : App (ℤ ⊕ Unit)).run x.env _ = _
  rw [Prog.run_ite]
  by_cases hjoin : x.join (joins h) < 0
  · rw [if_pos hjoin, if_pos hjoin]
    rfl
  · rw [if_neg hjoin, if_neg hjoin]
    -- the join before it does not count as setting a data rate
    show (if x.datarate (datarates h) < 0 then _ else _ : App (ℤ ⊕ Unit)).run x.env
      (joinedPass x h ++ h) = _
    by_cases hdatarate : x.datarate (datarates h) < 0
    · rw [if_pos hdatarate, if_pos hdatarate]
      rfl
    · rw [if_neg hdatarate, if_neg hdatarate]
      rfl

/-- **The loop waits**: the first `n` joins were made and failed. -/
structure Waiting (n : ℕ) (h : History) : Prop where
  joins : joins h = n
  joined : joined h = 0
  datarates : datarates h = 0
  permitted : Always Permitted h

/-- **The network is joined**: the last of `n` joins was the only one that succeeded. -/
structure Joined (n : ℕ) (h : History) : Prop where
  joins : joins h = n
  joined : joined h = 1
  permitted : Always Permitted h

/-- A join that fails leaves the loop waiting. -/
lemma Waiting.failed {x : NetScript} {n : ℕ} {h : History} (hw : Waiting n h)
    (hfail : x.join n < 0) : Waiting (n + 1) (failedPass x h ++ h) := by
  have hjoin : ¬ 0 ≤ x.join (AirLab.joins h) := by rw [hw.joins]; omega
  refine ⟨?_, ?_, ?_, ?_⟩
  · simp [failedPass, Call.isJoin, hw.joins]
  · simp [failedPass, joinSucceeded, hjoin, hw.joined]
  · simp [failedPass, Call.isSetDatarate, hw.datarates]
  · simp [failedPass, Permitted, Call.isJoin, joinSucceeded, hjoin, hw.joined, hw.permitted]

/-- A join that succeeds joins the network. -/
lemma Waiting.succeeded {x : NetScript} {n : ℕ} {h : History} (hw : Waiting n h)
    (hok : 0 ≤ x.join n) : Joined (n + 1) (joinedPass x h ++ h) := by
  have hjoin : 0 ≤ x.join (AirLab.joins h) := by rwa [hw.joins]
  refine ⟨?_, ?_, ?_⟩
  · simp [joinedPass, Call.isJoin, hw.joins]
  · simp [joinedPass, joinSucceeded, hjoin, hw.joined]
  · simp [joinedPass, Permitted, Call.isJoin, hw.joined, hw.permitted]

section JoinLoop

variable {x : NetScript} {n : ℕ} {h₀ : History}

/-- **The first `n` passes**, if their joins fail. -/
lemma joinPasses_waiting (hfail : ∀ i < n, x.join i < 0) (hw : Waiting 0 h₀) (ret : ℤ) :
    ∃ s h, (Prog.passes joinPass n ret).run x.env h₀ = (some (.inl s), h) ∧ Waiting n h := by
  refine Prog.run_passes (I := fun i _ h => Waiting i h) x.env n ?_ hw
  intro i hi s h hwi
  have hjoin : x.join (joins h) < 0 := by
    rw [hwi.joins]
    exact hfail i hi
  have hrun := joinPass_run x s h
  rw [if_pos hjoin] at hrun
  exact ⟨_, _, hrun, hwi.failed (hfail i hi)⟩

/-- As long as the joins fail the loop goes on. -/
lemma joinLoop_waiting (hfail : ∀ i < n, x.join i < 0) (hw : Waiting 0 h₀) (ret : ℤ) :
    ∃ h, (Prog.loop joinPass n ret).run x.env h₀ = (none, h) ∧ Waiting n h := by
  obtain ⟨s, h, hrun, hwn⟩ := joinPasses_waiting hfail hw ret
  refine ⟨h, ?_, hwn⟩
  have hloop := Prog.loop_add joinPass n 0 ret
  rw [Nat.add_zero] at hloop
  rw [hloop, Prog.run_bind_of_some x.env hrun]
  rfl

/-- The pass of the first successful join. -/
lemma joinPasses_joined (hfail : ∀ i < n, x.join i < 0) (hok : 0 ≤ x.join n) (hw : Waiting 0 h₀)
    (ret : ℤ) : ∃ h, Joined (n + 1) h ∧ ∀ fuel,
      (Prog.loop joinPass (n + (fuel + 1)) ret).run x.env h₀ =
        if x.datarate 0 < 0 then (Prog.loop joinPass fuel (x.datarate 0)).run x.env h
        else (some (), h) := by
  obtain ⟨s, h, hrun, hwn⟩ := joinPasses_waiting hfail hw ret
  refine ⟨_, hwn.succeeded hok, fun fuel => ?_⟩
  have hjoin : ¬ x.join (joins h) < 0 := by
    rw [hwn.joins]
    omega
  have hpass := joinPass_run x s h
  rw [if_neg hjoin, hwn.datarates] at hpass
  rw [Prog.loop_add, Prog.run_bind_of_some x.env hrun]
  show (Prog.loop joinPass (fuel + 1) s).run x.env h = _
  rw [Prog.loop]
  by_cases hdatarate : x.datarate 0 < 0
  · rw [if_pos hdatarate] at hpass ⊢
    rw [Prog.run_bind_of_some x.env hpass]
  · rw [if_neg hdatarate] at hpass ⊢
    rw [Prog.run_bind_of_some x.env hpass]
    rfl

end JoinLoop

/-! ## The send loop -/

/-- A joined network stays so while the sender sends. -/
lemma Joined.cons {n : ℕ} {h : History} (hj : Joined n h) (e : BoardEvent)
    (he : e.call.ofSend) : Joined n (e :: h) := by
  obtain ⟨c, r⟩ := e
  cases c with
  | gpioPinSet pin v =>
    obtain rfl : pin = ledGreen := he
    refine ⟨by simp [Call.isJoin, hj.joins], by simp [joinSucceeded, hj.joined], ?_⟩
    simp [Permitted, Call.isJoin, hj.permitted]
  | kMsleep _ | load _ | lorawanSubmit _ _ | lorawanWait =>
    refine ⟨by simp [Call.isJoin, hj.joins], by simp [joinSucceeded, hj.joined], ?_⟩
    simp [Permitted, Call.isJoin, hj.joined, hj.permitted]
  | _ => exact he.elim

/-- **The send loop** returns and keeps the network joined. -/
lemma sendLoop_joined {x : NetScript} {n : ℕ} {h : History} (hj : Joined n h) (passes : ℕ) :
    ∃ h', (Prog.forever sendPass passes ()).run x.env h = (some (), h') ∧ Joined n h' := by
  have hloop : Prog.Triple x.env (Joined n) (Prog.forever sendPass passes ())
      (fun _ => Joined n) fun _ => False :=
    Prog.Triple.of_only (fun e h he hj => hj.cons e he) (sendLoop_calls passes)
  obtain ⟨_, h', hrun, hj'⟩ := (hloop h hj).returns
  exact ⟨h', hrun, hj'⟩

/-! ## The sender -/

/-- The events before the join loop. -/
def startUp (x : NetScript) : History :=
  [⟨.lorawanStart, x.start⟩, ⟨.deviceGetBinding "subghz-radio", x.found⟩]

/-- Before the join loop nothing was joined. -/
lemma waiting_startUp (x : NetScript) : Waiting 0 (startUp x) := by
  refine ⟨rfl, rfl, rfl, ?_⟩
  simp [startUp, Permitted, Call.isJoin]

/-- **The sender on a radio that starts** enters its join loop, and then its send loop. -/
lemma NetScript.run_of_started {x : NetScript} (hstarted : x.Started) (fuel passes : ℕ) :
    x.run fuel passes = (Prog.loop joinPass fuel (-1) >>= fun _ =>
      Prog.forever sendPass passes ()).run x.env (startUp x) := by
  obtain ⟨hfound, hstart⟩ := hstarted
  unfold NetScript.run sendData deviceGetBinding
  rw [Prog.run_bind_of_some x.env (Prog.run_perform x.env (.deviceGetBinding "subghz-radio") [])]
  show (if x.found = true then _ else _ : App Unit).run x.env _ = _
  rw [Prog.run_ite, if_pos hfound,
    Prog.run_bind_of_some x.env (Prog.run_perform x.env .lorawanStart _)]
  show (if 0 ≤ x.start then _ else _ : App Unit).run x.env (startUp x) = _
  rw [Prog.run_ite, if_pos hstart]

/-- The sender on a radio that does not start ends at once. -/
lemma NetScript.permitted_of_not_started {x : NetScript} (hno : ¬ x.Started) (fuel passes : ℕ) :
    Always Permitted (x.run fuel passes).2 := by
  unfold NetScript.run sendData deviceGetBinding
  rw [Prog.run_bind_of_some x.env (Prog.run_perform x.env (.deviceGetBinding "subghz-radio") [])]
  show Always Permitted ((if x.found = true then _ else _ : App Unit).run x.env _).2
  rw [Prog.run_ite]
  by_cases hfound : x.found = true
  · have hstart : ¬ 0 ≤ x.start := fun hstart => hno ⟨hfound, hstart⟩
    rw [if_pos hfound, Prog.run_bind_of_some x.env (Prog.run_perform x.env .lorawanStart _)]
    show Always Permitted ((if 0 ≤ x.start then _ else _ : App Unit).run x.env (startUp x)).2
    rw [Prog.run_ite, if_neg hstart]
    exact (waiting_startUp x).permitted
  · rw [if_neg hfound]
    exact (waiting_startUp x).permitted.2

section Sender

variable {x : NetScript} {n : ℕ}

/-- Of the joins that succeed one is the first. -/
lemma exists_first_join {k : ℕ} (hk : 0 ≤ x.join k) :
    ∃ n ≤ k, (∀ i < n, x.join i < 0) ∧ 0 ≤ x.join n := by
  have hjoin : ∃ n, 0 ≤ x.join n := ⟨k, hk⟩
  exact ⟨Nat.find hjoin, Nat.find_min' hjoin hk, fun i hi => not_le.1 (Nat.find_min hjoin hi),
    Nat.find_spec hjoin⟩

/-- If none of the first joins succeeds they all fail. -/
lemma forall_failed {fuel : ℕ} (hno : ¬ ∃ k < fuel, 0 ≤ x.join k) : ∀ i < fuel, x.join i < 0 :=
  fun i hi => not_le.1 fun hok => hno ⟨i, hi, hok⟩

/-- The sender while the joins fail. -/
lemma run_waiting (hstarted : x.Started) {fuel : ℕ} (hfail : ∀ i < fuel, x.join i < 0)
    (passes : ℕ) : ∃ h, x.run fuel passes = (none, h) ∧ Waiting fuel h := by
  obtain ⟨h, hrun, hw⟩ := joinLoop_waiting hfail (waiting_startUp x) (-1)
  refine ⟨h, ?_, hw⟩
  rw [NetScript.run_of_started hstarted, Prog.run_bind, hrun]

/-- The sender after its first successful join, if the data rate is set. -/
lemma run_joined (hstarted : x.Started) (hfail : ∀ i < n, x.join i < 0) (hok : 0 ≤ x.join n)
    (hdatarate : 0 ≤ x.datarate 0) {fuel : ℕ} (hfuel : n < fuel) (passes : ℕ) :
    ∃ h, x.run fuel passes = (some (), h) ∧ Joined (n + 1) h := by
  obtain ⟨rest, rfl⟩ : ∃ rest, fuel = n + (rest + 1) := ⟨fuel - n - 1, by omega⟩
  obtain ⟨h, hj, hloop⟩ := joinPasses_joined hfail hok (waiting_startUp x) (-1)
  have hrun := hloop rest
  rw [if_neg (by omega)] at hrun
  obtain ⟨h', hsend, hj'⟩ := sendLoop_joined hj passes
  refine ⟨h', ?_, hj'⟩
  rw [NetScript.run_of_started hstarted, Prog.run_bind_of_some x.env hrun, hsend]

/-- If the data rate is not set, a joined network is joined again. -/
lemma not_permitted_of_unset (hstarted : x.Started) (hfail : ∀ i < n, x.join i < 0)
    (hok : 0 ≤ x.join n) (hdatarate : x.datarate 0 < 0) :
    ¬ Always Permitted (x.run (n + 2) 0).2 := by
  obtain ⟨h, hj, hloop⟩ := joinPasses_joined hfail hok (waiting_startUp x) (-1)
  intro hall
  have hjoin : ⟨.lorawanJoin, x.join (joins h)⟩ :: h <:+ (x.run (n + 2) 0).2 := by
    rw [NetScript.run_of_started hstarted]
    refine List.IsSuffix.trans ?_ (Prog.run_bind_extends x.env _ _ _)
    rw [hloop 1, if_pos hdatarate]
    exact (Prog.run_bind_extends x.env lorawanJoin _ h).trans
      (Prog.run_bind_extends x.env (joinPass _) _ h)
  obtain ⟨later, hlater⟩ := hjoin
  rw [← hlater] at hall
  have hzero : joined h = 0 := hall.of_append.1.1 rfl
  have hone := hj.joined
  omega

variable (hset : x.Started → (∃ k, 0 ≤ x.join k) → 0 ≤ x.datarate 0)

include hset

/-- Every pass joins as long as the passes before it failed. -/
lemma joins_of_set (hstarted : x.Started) {fuel : ℕ} (passes : ℕ)
    (hfail : ∀ i, i + 1 < fuel → x.join i < 0) : joins (x.run fuel passes).2 = fuel := by
  by_cases hjoin : ∃ k < fuel, 0 ≤ x.join k
  · -- only the last of the joins can have succeeded
    obtain ⟨k, hk, hok⟩ := hjoin
    obtain rfl : fuel = k + 1 := by
      by_contra hne
      have hneg := hfail k (by omega)
      omega
    obtain ⟨h, hrun, hj⟩ := run_joined hstarted (fun i hi => hfail i (by omega)) hok
      (hset hstarted ⟨k, hok⟩) hk passes
    rw [hrun]
    exact hj.joins
  · obtain ⟨h, hrun, hw⟩ := run_waiting hstarted (forall_failed hjoin) passes
    rw [hrun]
    exact hw.joins

/-- **No event is out of place** if the first data rate is set. -/
lemma permitted_of_set (fuel passes : ℕ) : Always Permitted (x.run fuel passes).2 := by
  by_cases hstarted : x.Started
  · by_cases hjoin : ∃ k < fuel, 0 ≤ x.join k
    · obtain ⟨k, hk, hok⟩ := hjoin
      obtain ⟨n, hn, hfail, hfirst⟩ := exists_first_join hok
      obtain ⟨h, hrun, hj⟩ := run_joined hstarted hfail hfirst (hset hstarted ⟨k, hok⟩)
        (show n < fuel by omega) passes
      rw [hrun]
      exact hj.permitted
    · obtain ⟨h, hrun, hw⟩ := run_waiting hstarted (forall_failed hjoin) passes
      rw [hrun]
      exact hw.permitted
  · exact NetScript.permitted_of_not_started hstarted fuel passes

end Sender

/-- **When the network is joined once.** For every sequence of results of `lorawan_join` and of
`lorawan_set_datarate`, the network is joined once exactly if the first call of
`lorawan_set_datarate` succeeds, or is never made. -/
theorem joinsOnce_iff_dataRateSet (x : NetScript) :
    x.JoinsOnce ↔ (x.Started → (∃ k, 0 ≤ x.join k) → 0 ≤ x.datarate 0) := by
  constructor
  · intro honce hstarted hjoin
    obtain ⟨k, hk⟩ := hjoin
    obtain ⟨n, -, hfail, hok⟩ := exists_first_join hk
    by_contra hneg
    exact not_permitted_of_unset hstarted hfail hok (not_le.1 hneg) (honce.permitted _ _)
  · intro hset
    refine ⟨fun hstarted fuel passes => joins_of_set hset hstarted passes,
      fun hstarted n hfail hok fuel passes hfuel => ?_, permitted_of_set hset⟩
    obtain ⟨h, hrun, hj⟩ := run_joined hstarted hfail hok (hset hstarted ⟨n, hok⟩) hfuel passes
    exact ⟨h, hrun, hj.joins⟩

/-- A radio that joins at once and whose data rate cannot be set. -/
def rateless : NetScript := ⟨true, 0, fun _ => 0, fun _ => -1, fun _ => plainAnswer⟩

/-- It joins a second time. -/
theorem rateless_joinsAgain : rateless.Started ∧ 0 ≤ rateless.join 0 ∧ ¬ rateless.JoinsOnce ∧
    joined (rateless.run 2 0).2 = 2 := by
  refine ⟨⟨rfl, le_rfl⟩, le_rfl, fun honce => ?_, rfl⟩
  exact not_permitted_of_unset ⟨rfl, le_rfl⟩ (fun i hi => absurd hi (Nat.not_lt_zero i)) le_rfl
    (show (-1 : ℤ) < 0 by decide) (honce.permitted 2 0)

end AirLab
