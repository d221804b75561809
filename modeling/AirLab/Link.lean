import AirLab.Effects.Listener
import AirLab.Interleaving

set_option relaxedAutoImplicit false
set_option autoImplicit false

/-!
# The link to the network

The LoRaWAN stack wants to be called in order: start it, join, set the data rate, then hand over
one payload at a time. The results decide what may come next, and the sender follows them: where
a join fails it joins again, and where the data rate cannot be set it goes back to joining. The
states of the link are those of a listener to the radio, and no call of any run is out of order.

## Main definitions

* `AirLab.Link` — the states of the link, and `AirLab.linkListener`, who knows them.
* `AirLab.Link.Allows` — the calls a state allows.

## Main results

* `AirLab.joinPass_link` — a pass of the join loop.
* `AirLab.link_inOrder` — in every run each call of the radio is one its state allows.
-/

namespace AirLab

open CLang Effects

/-! ## The states of the link -/

/-- **The states of the link.** After a join the data rate is due; where it cannot be set, another
join is. -/
inductive Link
  | off
  | started
  | joined
  | unset
  | ready
  | sending
  deriving DecidableEq

/-- What the result of a call makes of the link. -/
def Link.hear : BoardEvent → Link → Link
  | ⟨.lorawanStart, ret⟩, s => if (0 : ℤ) ≤ ret then .started else s
  | ⟨.lorawanJoin, ret⟩, _ => if (0 : ℤ) ≤ ret then .joined else .started
  | ⟨.lorawanSetDatarate, ret⟩, _ => if (0 : ℤ) ≤ ret then .ready else .unset
  | ⟨.lorawanSubmit _ _, _⟩, _ => .sending
  | ⟨.lorawanWait, _⟩, _ => .ready
  | _, s => s

/-- The listener to the radio. -/
def linkListener : Listener BoardEvent Link := ⟨.off, Link.hear⟩

/-- **The calls a state allows**; the others have nothing to do with the radio. A message array is
read only for a payload. -/
def Link.Allows (s : Link) : Call → Prop
  | .lorawanStart => s = .off
  | .lorawanJoin => s = .started ∨ s = .unset
  | .lorawanSetDatarate => s = .joined
  | .load _ => s = .ready
  | .lorawanSubmit _ _ => s = .ready
  | .lorawanWait => s = .sending
  | _ => True

/-- The call is one its state allows. -/
def InOrder (e : BoardEvent) (past : History) : Prop := (linkListener.knows past).Allows e.call

/-- A call that leaves the radio alone. -/
def Call.ofOthers : Call → Prop
  | .lorawanStart => False
  | .lorawanJoin => False
  | .lorawanSetDatarate => False
  | .load _ => False
  | .lorawanSubmit _ _ => False
  | .lorawanWait => False
  | _ => True

/-- It is allowed in every state, and leaves it. -/
lemma Link.of_ofOthers {c : Call} (hc : c.ofOthers) (s : Link) (r : Resp c) :
    s.Allows c ∧ Link.hear ⟨c, r⟩ s = s := by
  cases c <;> first | exact hc.elim | exact ⟨trivial, rfl⟩

/-! ## The sender -/

/-- All calls were in order, and the link is in one of some states. -/
def LinkIn (P : Link → Prop) (h : History) : Prop := Always InOrder h ∧ P (linkListener.knows h)

section Sender

variable {env : Env Call Resp} {P : Link → Prop}

/-- A call whose state allows it. -/
lemma LinkIn.call {Q : Link → Prop} {e : BoardEvent} {h : History} (hh : LinkIn P h)
    (hallow : ∀ s, P s → s.Allows e.call) (hQ : ∀ s, P s → Q (Link.hear e s)) :
    LinkIn Q (e :: h) :=
  ⟨⟨hallow _ hh.2, hh.1⟩, hQ _ hh.2⟩

/-- A program that leaves the radio alone. -/
lemma linkIn_of_calls {α : Type} {p : App α} (hp : p.Within Call.ofOthers) (P : Link → Prop) :
    Prog.Triple env (LinkIn P) p (fun _ => LinkIn P) (Always InOrder) := by
  refine Prog.Triple.of_calls (fun e h he hh => ?_) (fun _ _ hh => hh.1) hp
  refine hh.call (fun s _ => (Link.of_ofOthers he s e.resp).1) fun s hs => ?_
  rw [(Link.of_ofOthers he s e.resp).2]
  exact hs

/-- A join is due. -/
def Link.JoinDue (s : Link) : Prop := s = .started ∨ s = .unset

/-- **A pass of the join loop**: it goes on where another join is due, and the loop ends where the
data rate is set. -/
lemma joinPass_link (ret : ℤ) :
    Prog.Triple env (LinkIn Link.JoinDue) (joinPass ret)
      (fun r => r.elim (fun _ => LinkIn Link.JoinDue) fun _ => LinkIn (· = .ready))
      (Always InOrder) := by
  have hpin : ∀ p v, (gpioPinSet p v).Within Call.ofOthers := fun p v => perform_within trivial
  have hsleep : (kMsleep 1000).Within Call.ofOthers := perform_within trivial
  unfold joinPass
  -- the link after the join, by the sign of the result
  refine Prog.Triple.bind (Q := fun ret h => (ret < 0 → LinkIn Link.JoinDue h) ∧
    (¬ ret < 0 → LinkIn (· = .joined) h)) (Prog.Triple.perform fun h hh => ?_) fun ret => ?_
  · refine ⟨fun hneg => hh.call (fun s hs => hs) fun s _ => ?_,
      fun hpos => hh.call (fun s hs => hs) fun s _ => if_pos (Int.not_lt.1 hpos)⟩
    exact .inl (if_neg (Int.not_le.2 hneg))
  by_cases hneg : ret < 0
  · rw [if_pos hneg]
    refine Prog.Triple.mono (P := LinkIn Link.JoinDue) ?_ (fun h hh => hh.1 hneg)
      (fun _ _ hq => hq) fun _ hs => hs
    refine (linkIn_of_calls (hpin _ _) _).bind fun _ => (linkIn_of_calls hsleep _).bind fun _ => ?_
    refine (linkIn_of_calls (hpin _ _) _).bind fun _ => (linkIn_of_calls hsleep _).bind fun _ => ?_
    exact Prog.Triple.pure fun _ hh => hh
  · rw [if_neg hneg]
    refine Prog.Triple.mono (P := LinkIn (· = .joined)) ?_ (fun h hh => hh.2 hneg)
      (fun _ _ hq => hq) fun _ hs => hs
    -- a data rate that cannot be set looks like a failed join
    refine Prog.Triple.bind (Q := fun ret h => LinkIn (fun s => if ret < 0 then s.JoinDue
      else s = .ready) h) (Prog.Triple.perform fun h hh => ?_) fun ret => ?_
    · refine hh.call (fun s hs => hs) fun s _ => ?_
      show if (env h .lorawanSetDatarate : ℤ) < 0 then _ else _
      split_ifs with hneg
      · exact .inr (if_neg (Int.not_le.2 hneg))
      · exact if_pos (Int.not_lt.1 hneg)
    refine (linkIn_of_calls (hpin _ _) _).bind fun _ => ?_
    split_ifs with hneg
    · exact Prog.Triple.pure fun _ hh => hh
    · exact Prog.Triple.pure fun _ hh => hh

/-- A payload is handed over and waited for. -/
lemma sendMessage_link (port : UInt8) (m : Mailbox) (ok : ℤ → Bool) :
    Prog.Triple env (LinkIn (· = .ready)) (sendMessage port m ok) (fun _ => LinkIn (· = .ready))
      (Always InOrder) := by
  unfold sendMessage lorawanSend
  refine Prog.Triple.bind (Q := fun _ => LinkIn (· = .ready)) (Prog.Triple.perform fun h hh =>
    hh.call (fun s hs => hs) fun s hs => hs) fun msg => ?_
  refine Prog.Triple.bind (Q := fun _ => LinkIn (· = .ready)) ?_ fun ret => ?_
  · refine Prog.Triple.bind (Q := fun _ => LinkIn (· = .sending)) (Prog.Triple.perform fun h hh =>
      hh.call (fun s hs => hs) fun s _ => rfl) fun _ => ?_
    exact Prog.Triple.perform fun h hh => hh.call (fun s hs => hs) fun s _ => rfl
  · refine linkIn_of_calls ((afterSend_calls ret ok).mono fun c hc => ?_) _
    cases c <;> first | exact hc.elim | trivial

/-- **The sender calls the radio in order.** -/
lemma sendData_link (joins passes : ℕ) :
    Prog.Triple env (LinkIn (· = .off)) (sendData joins passes) (fun _ => Always InOrder)
      (Always InOrder) := by
  have hfound : (deviceGetBinding "subghz-radio").Within Call.ofOthers := perform_within trivial
  unfold sendData
  refine (linkIn_of_calls hfound _).bind fun found => ?_
  cases found with
  | false => exact Prog.Triple.pure fun _ hh => hh.1
  | true =>
    refine Prog.Triple.bind (Q := fun ret h => LinkIn (fun s => 0 ≤ ret → s.JoinDue) h)
      (Prog.Triple.perform fun h hh => hh.call (fun s hs => hs) fun s _ hpos => ?_) fun ret => ?_
    · exact .inl (if_pos hpos)
    by_cases hpos : 0 ≤ ret
    · rw [if_pos hpos]
      refine Prog.Triple.mono (P := LinkIn Link.JoinDue) ?_ (fun h hh => ⟨hh.1, hh.2 hpos⟩)
        (fun _ _ hq => hq) fun _ hs => hs
      refine (Prog.Triple.loop (I := fun _ => LinkIn Link.JoinDue) joinPass_link
        (fun _ _ hh => hh.1) joins (-1)).bind fun _ => ?_
      have hpass : ∀ u, Prog.Triple env (LinkIn (· = .ready)) (sendPass u)
          (fun _ => LinkIn (· = .ready)) (Always InOrder) := fun u =>
        (sendMessage_link 1 .gasMsg _).bind fun _ => sendMessage_link 2 .opcMsg _
      exact (Prog.Triple.forRange (I := fun _ _ => LinkIn (· = .ready)) passes
        (fun _ _ u => hpass u) ()).mono (fun _ hh => hh) (fun _ _ hh => hh.1) fun _ hs => hs
    · rw [if_neg hpos]
      exact Prog.Triple.pure fun _ hh => hh.1

end Sender

/-! ## All threads -/

/-- What each thread does with the radio. -/
def LinkDiscipline : ThreadId → BoardEvent → History → Prop
  | .sender => InOrder
  | _ => fun e _ => e.call.ofOthers

/-- Every thread on its own keeps its discipline. -/
lemma application_link (fuel joins : ℕ) (passes : ThreadId → ℕ) (i : ThreadId)
    (env : Env Call Resp) :
    Always (LinkDiscipline i) ((application fuel joins passes i).run env []).2 := by
  have hothers : ∀ {p : App Unit}, p.Within Call.ofOthers →
      Always (fun e _ => e.call.ofOthers) (p.run env []).2 := fun hp =>
    (Prog.Triple.of_calls (I := Always fun e _ => e.call.ofOthers) (fun _ _ he hh => ⟨he, hh⟩)
      (fun _ _ hh => hh) hp [] trivial).final
  cases i with
  | gas =>
    refine hothers (.bind ((readGas_calls (passes .gas)).mono fun c hc => ?_) fun _ =>
      Prog.calls_pure ())
    cases c <;> first | trivial | (rcases hc with h | h | h | h <;> exact h.elim)
  | particle =>
    refine hothers (.bind ((countParticles_calls fuel (passes .particle)).mono (fun c hc => ?_) id)
      fun _ => Prog.calls_pure ())
    cases c <;> first | trivial | (rcases hc with h | h | h | h <;> exact h.elim)
  | sender => exact (sendData_link joins (passes .sender) [] ⟨trivial, rfl⟩).final

/-- **The radio is called in order.** In every run of the application, whatever the radio answers,
each call of the stack is one that the state of the link allows: it is started once, joined
while not joined, and given a payload only after a join and a data rate that both succeeded and
after the result of the payload before. -/
theorem link_inOrder (env : AppEnv) (fuel joins : ℕ) (passes : ThreadId → ℕ)
    (schedule : List ThreadId) :
    Always (fun e past => (linkListener.knows (past.map Prod.snd)).Allows e.2.call)
      (appHistory env fuel joins passes schedule) := by
  have hown : Always (fun e past => LinkDiscipline e.1 e.2 (own e.1 past))
      (appHistory env fuel joins passes schedule) :=
    System.always_own (application_link fuel joins passes) schedule
  have hothers : ∀ e ∈ appHistory env fuel joins passes schedule, e.1 ≠ .sender →
      e.2.call.ofOthers := by
    intro e he hne
    obtain ⟨later, past, heq⟩ := List.append_of_mem he
    have hkeeps := (always_iff _ _).1 hown later e past heq
    obtain ⟨i, e⟩ := e
    cases i with
    | sender => exact absurd rfl hne
    | gas => exact hkeeps
    | particle => exact hkeeps
  rw [always_iff]
  intro later e past heq
  have hkeeps := (always_iff _ _).1 hown later e past heq
  by_cases hsender : e.1 = .sender
  · have hpast : ∀ e' ∈ past, e'.1 ≠ .sender → ∀ s, Link.hear e'.2 s = s := fun e' he' hne s =>
      (Link.of_ofOthers (hothers e' (by simp [heq, he']) hne) s e'.2.resp).2
    rw [Listener.knows_joint (L := linkListener) hpast]
    rw [hsender] at hkeeps
    exact hkeeps
  · exact (Link.of_ofOthers (hothers e (by simp [heq]) hsender) _ e.2.resp).1

end AirLab
