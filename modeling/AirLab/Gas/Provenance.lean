import AirLab.Gas.Converters

set_option relaxedAutoImplicit false
set_option autoImplicit false

/-!
# Where the gas readings come from

A reading of a channel should be zero or a conversion of the channel's own input. The results of
the transfers are not looked at: after a failed configuration the converter still has another
input selected, and after a failed read the buffer still holds what was read last, or what was
on the stack.

## Main definitions

* `AirLab.Bus.Own` — a value is zero or a clipped conversion of the channel's own input.
* `AirLab.Bus.OwnReadings` — all readings that a call stores are.
* `AirLab.BusPattern.FreshOwn` — the last successful read up to a pass is one of its own input.

## Main results

* `AirLab.ownReadings_iff_freshOwn` — for which patterns of successes and failures a call stores
  only own readings, whatever the conversions and the stack.
-/

namespace AirLab

open CLang Effects Sampling

/-- The last successful read up to pass `t` is one of the input that pass `t` is for. -/
def BusPattern.FreshOwn (p : BusPattern) (t : ℕ) : Prop :=
  ∃ k, held p.Received (t + 1) = some k ∧ converterOf k = converterOf t ∧ p.chosen k = inputOf t

namespace Bus

/-- The value is zero, or the clipped conversion that a successful read of the own input of channel
`j` got. -/
def Own (b : Bus) (h : History) (j : Fin 8) (v : UInt16) : Prop :=
  v = 0 ∨ ∃ bytes, b.Delivered h (converterOf j) (inputOf j) bytes ∧ v = clip (bigEndian bytes)

/-- The readings that a call stores, sample by sample, are own readings of their channels. -/
def OwnReadings (b : Bus) (before : Fin 8 → UInt16) (samples : ℕ) : Prop :=
  ∀ n < samples, ∃ l h, (gasReadings before (n + 1)).run b.env [] = (some l, h) ∧
    ∀ j, b.Own h j (l.result j)

variable {b : Bus} {before : Fin 8 → UInt16} {samples : ℕ}

/-! ## Own readings from fresh ones -/

/-- Where each pass reads its own input, or holds such a read, all readings are own. -/
lemma ownReadings_of_freshOwn (hfresh : ∀ t < 8 * samples, b.FreshOwn t) :
    b.OwnReadings before samples := by
  intro n hn
  obtain ⟨l, h, hrun, hst⟩ := gasReadings_run b before (n + 1)
  refine ⟨l, h, hrun, fun j => Or.inr ?_⟩
  have hj := j.isLt
  obtain ⟨k, hheld, hconv, hinput⟩ := hfresh (8 * n + j) (by omega)
  rw [converterOf_pass] at hconv
  rw [inputOf_pass] at hinput
  obtain ⟨hk, hrec, -⟩ := (held_eq_some_iff _ _).1 hheld
  refine ⟨b.bytes k, ?_, ?_⟩
  · rw [← hconv, ← hinput]
    exact hst.delivered k (by omega) hrec
  · rw [hst.result, cell_eq_reading]
    unfold reading
    rw [hheld]
    rfl

/-! ## A marked input -/

/-- The converter and the input of the last successful read up to pass `t`. -/
def sourceOf (p : BusPattern) (t : ℕ) : Option (UInt8 × ℕ) :=
  (held p.Received (t + 1)).map fun k => (converterOf k, p.chosen k)

/-- The bus on which only the input `mark` converts to one, or where one is left on the stack, all
other inputs converting to two. -/
def marked (p : BusPattern) (mark : Option (UInt8 × ℕ)) : Bus where
  toBusPattern := p
  conversion _ addr input := if some (addr, input) = mark then (0, 1) else (0, 2)
  stack := (0, 1)
  rest := fun _ => plainAnswer

/-- The marked pass reads one. -/
lemma reading_marked (p : BusPattern) (t : ℕ) : (marked p (sourceOf p t)).reading t = 1 := by
  unfold reading
  show clip (bigEndian ((marked p (sourceOf p t)).buffer (held p.Received (t + 1)))) = 1
  have hbytes : (marked p (sourceOf p t)).buffer (held p.Received (t + 1)) = (0, 1) := by
    unfold sourceOf
    rcases held p.Received (t + 1) with _ | k
    · rfl
    · exact if_pos rfl
  rw [hbytes]
  decide

/-- What was delivered in a run was an answer of the bus. -/
lemma Delivered.eq_conversion {α : Type} {prog : App α} {addr : UInt8} {input : ℕ}
    {bytes : UInt8 × UInt8} (hd : b.Delivered (prog.run b.env []).2 addr input bytes) :
    ∃ n, bytes = b.conversion n addr input := by
  obtain ⟨later, past, hcut, rfl⟩ := hd
  have hall : Always (fun e past => e.resp = b.env past e.call) (prog.run b.env []).2 :=
    Prog.run_invariant b.env (fun _ _ hall => ⟨rfl, hall⟩) prog trivial
  have hanswer : some bytes = b.answer addr past := (always_iff _ _).1 hall later _ past hcut
  unfold answer at hanswer
  split_ifs at hanswer
  exact ⟨_, Option.some.inj hanswer⟩

/-- A pass whose reading is never one of another source reads its own input. -/
lemma freshOwn_of_marked {p : BusPattern} {t : ℕ} (ht : t < 8 * samples)
    (hown : (marked p (sourceOf p t)).OwnReadings before samples) : p.FreshOwn t := by
  have hj : t % 8 < 8 := Nat.mod_lt _ (by decide)
  have hsplit : 8 * (t / 8) + t % 8 = t := Nat.div_add_mod t 8
  obtain ⟨l, h, hrun, hall⟩ := hown (t / 8) (by omega)
  obtain ⟨l', h', hrun', hst⟩ := gasReadings_run (marked p (sourceOf p t)) before (t / 8 + 1)
  rw [hrun] at hrun'
  obtain rfl := Option.some.inj (congrArg Prod.fst hrun')
  have hvalue : l.result ⟨t % 8, hj⟩ = 1 := by
    rw [hst.result, cell_eq_reading]
    show (marked p (sourceOf p t)).reading (8 * (t / 8) + t % 8) = 1
    rw [hsplit]
    exact reading_marked p t
  have hone := hall ⟨t % 8, hj⟩
  rw [hvalue] at hone
  rcases hone with hzero | ⟨bytes, hdel, hbytes⟩
  · exact absurd hzero (by decide)
  have hhist : h = ((gasReadings before (t / 8 + 1)).run (marked p (sourceOf p t)).env []).2 := by
    rw [hrun]
  rw [hhist] at hdel
  obtain ⟨m, hconv⟩ := hdel.eq_conversion
  -- a reading of one comes from the marked input, so that input is the own one
  have hmark : some (converterOf (t % 8), inputOf (t % 8)) = sourceOf p t := by
    by_contra hne
    have htwo : bytes = (0, 2) := hconv.trans (if_neg hne)
    rw [htwo] at hbytes
    exact absurd hbytes (by decide)
  unfold sourceOf at hmark
  obtain ⟨k, hheld, hk⟩ := Option.map_eq_some_iff.1 hmark.symm
  have hconvk : converterOf k = converterOf (t % 8) := congrArg Prod.fst hk
  have hinputk : p.chosen k = inputOf (t % 8) := congrArg Prod.snd hk
  rw [← converterOf_pass (t / 8) (t % 8), hsplit] at hconvk
  rw [← inputOf_pass (t / 8) (t % 8), hsplit] at hinputk
  exact ⟨k, hheld, hconvk, hinputk⟩

end Bus

/-- **Which failures mix up no channels.** For a pattern of successes and failures, a call stores
only zeros and conversions of the channels' own inputs, whatever the conversions and whatever was
on the stack, exactly if for each channel in each sample the last successful read so far was one
of the channel's own input. -/
theorem ownReadings_iff_freshOwn (p : BusPattern) (samples : ℕ) :
    (∀ b : Bus, b.toBusPattern = p → ∀ before, b.OwnReadings before samples) ↔
      ∀ t < 8 * samples, p.FreshOwn t := by
  constructor
  · intro hown t ht
    exact Bus.freshOwn_of_marked ht (hown (Bus.marked p (Bus.sourceOf p t)) rfl fun _ => 0)
  · intro hfresh b hb before
    subst hb
    exact Bus.ownReadings_of_freshOwn hfresh

/-- A bus on which only the configuration of the second channel fails; the first input of the
converter at 0x48 converts to one. -/
def secondUnconfigured : Bus :=
  Bus.marked ⟨fun n => n != 3, fun _ => 0⟩ (some (0x48, 0))

/-- There the reading of the second channel is that of the first. -/
theorem secondUnconfigured_mixed : ¬ secondUnconfigured.OwnReadings (fun _ => 0) 1 := by
  intro hown
  obtain ⟨k, hheld, -, hinput⟩ := Bus.freshOwn_of_marked (t := 1) (by decide) hown
  have hk : k = 1 := by
    have hrec : held (BusPattern.Received ⟨fun n => n != 3, fun _ => 0⟩) (1 + 1) = some 1 := rfl
    rw [hrec] at hheld
    exact (Option.some.inj hheld).symm
  subst hk
  exact absurd hinput (by decide)

end AirLab
