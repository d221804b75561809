import AirLab.Ambient.Averages
import AirLab.Sampling.Hold
import AirLab.Threads

set_option relaxedAutoImplicit false
set_option autoImplicit false

/-!
# What a failing ambient read leaves behind

The two threads that read the ambient sensor keep an array of their own for the averages and
print it after every call, whether or not the call succeeded. A call writes all of the array,
after its last driver call, or nothing.

## Main definitions

* `AirLab.AmbientCall` — a call of `ambient_sensors_read` at some point of a run.
* `AirLab.AmbientCall.Succeeded` — no driver call of it failed.
* `AirLab.arrayAfter` — the array after a number of calls.

## Main results

* `AirLab.ambientArray_lastSuccess` — the array is the one written by the last successful call.
* `AirLab.countParticles_arrayAfter`, `AirLab.readGas_arrayAfter` — the arrays of the threads.
-/

namespace AirLab

open CLang Effects Sampling

/-- A call of `ambient_sensors_read`: the number of its samples, and the environment and the
history it is made at. -/
structure AmbientCall where
  samples : UInt8
  env : Env Call Resp
  past : History

namespace AmbientCall

/-- The run of the call on the array `a`. -/
def run (x : AmbientCall) (a : Fin 3 → Flt) : Option (Fin 3 → Flt) × History :=
  (ambientSensorsRead x.samples a).run x.env x.past

/-- The array after the call, which is made on the array `a`. -/
def result (x : AmbientCall) (a : Fin 3 → Flt) : Fin 3 → Flt := (x.run a).1.getD a

/-- Every driver call of the call, made on the array `a`, succeeded. -/
def Succeeded (x : AmbientCall) (a : Fin 3 → Flt) : Prop :=
  failedCalls (x.run a).2 = failedCalls x.past

instance (x : AmbientCall) (a : Fin 3 → Flt) : Decidable (x.Succeeded a) :=
  inferInstanceAs (Decidable (_ = _))

/-- **A call writes all or nothing**: what it does and what it would write do not depend on the
array, and it writes exactly if none of its driver calls failed. -/
lemma run_eq (x : AmbientCall) : ∃ w es, ∀ a,
    x.run a = (some (if failedCalls es = 0 then w else a), es ++ x.past) := by
  obtain ⟨r, h', hsums, hspec⟩ := ambientSums_spec x.env x.samples x.past
  have hrun : ∀ a, x.run a = (some (r.elim a (ambientMeans x.samples)), h') := by
    intro a
    unfold run
    rw [ambientSensorsRead_eq, Prog.run_bind_of_some x.env hsums]
    rfl
  cases r with
  | none =>
    obtain ⟨es, rfl, hfailed⟩ := hspec
    refine ⟨fun _ => 0, es, fun a => ?_⟩
    rw [hrun, if_neg hfailed]
    rfl
  | some sum =>
    obtain ⟨es, rfl, hok, -, -⟩ := hspec
    refine ⟨ambientMeans x.samples sum, es, fun a => ?_⟩
    rw [hrun, if_pos hok]
    rfl

/-- What a call in a run leaves in the array. -/
lemma result_eq (x : AmbientCall) {a b : Fin 3 → Flt} {h' : History}
    (hrun : (ambientSensorsRead x.samples a).run x.env x.past = (some b, h')) :
    x.result a = b := by
  unfold result run
  rw [hrun]
  rfl

end AmbientCall

/-- **The array after the first `n` calls**, of zeros before the first. -/
def arrayAfter (x : ℕ → AmbientCall) : ℕ → Fin 3 → Flt
  | 0 => fun _ => 0
  | n + 1 => (x n).result (arrayAfter x n)

/-- The array after one more call. -/
lemma arrayAfter_succ (x : ℕ → AmbientCall) (n : ℕ) :
    arrayAfter x (n + 1) = (x n).result (arrayAfter x n) := rfl

/-- **A failing read changes nothing.** In any sequence of calls on one array, each with any
number of samples and any driver calls failing, there is for each call an array `written k` such
that the call, whatever array it is made on, leaves `written k` if all its driver calls succeed
and the array it was made on if not. After any number of calls the array is the one written by
the last call that succeeded, or the initial zeros. -/
theorem ambientArray_lastSuccess (x : ℕ → AmbientCall) : ∃ written : ℕ → Fin 3 → Flt,
    (∀ k a, ∃ es, (x k).run a =
      (some (if failedCalls es = 0 then written k else a), es ++ (x k).past)) ∧
    ∀ n, arrayAfter x n =
      (held (fun k => (x k).Succeeded (arrayAfter x k)) n).elim (fun _ => 0) written := by
  choose written es hrun using fun k => (x k).run_eq
  refine ⟨written, fun k a => ⟨es k, hrun k a⟩, fun n => ?_⟩
  induction n with
  | zero => rfl
  | succ n ih =>
    have hsucceeded : (x n).Succeeded (arrayAfter x n) ↔ failedCalls (es n) = 0 := by
      unfold AmbientCall.Succeeded
      rw [hrun, failedCalls_append]
      omega
    have hresult : (x n).result (arrayAfter x n) =
        if failedCalls (es n) = 0 then written n else arrayAfter x n := by
      unfold AmbientCall.result
      rw [hrun]
      rfl
    rw [arrayAfter_succ, hresult, held]
    by_cases hok : failedCalls (es n) = 0
    · rw [if_pos hok, if_pos (hsucceeded.2 hok)]
      rfl
    · rw [if_neg hok, if_neg (hok ∘ hsucceeded.1)]
      exact ih

/-! ## The arrays of the threads -/

/-- The array after `n` calls depends on these calls only. -/
lemma arrayAfter_congr {x y : ℕ → AmbientCall} {n : ℕ} (hxy : ∀ k < n, x k = y k) :
    arrayAfter x n = arrayAfter y n := by
  induction n with
  | zero => rfl
  | succ n ih =>
    rw [arrayAfter_succ, arrayAfter_succ, ih fun k hk => hxy k (by omega), hxy n (by omega)]

section Threads

variable {env : Env Call Resp} {σ : Type}

/-- A loop whose passes make a call on an array among the variables.

**Proof sketch.** Induction on the passes; the last one adds its call to the sequence. -/
lemma forever_arrayAfter {body : σ → App σ} (array : σ → Fin 3 → Flt)
    (hbody : ∀ s h s' h', (body s).run env h = (some s', h') →
      ∃ past, array s' = (AmbientCall.mk 1 env past).result (array s))
    {s s' : σ} {h h' : History} (hs : array s = fun _ => 0) {n : ℕ}
    (hrun : (Prog.forever body n s).run env h = (some s', h')) :
    ∃ past : ℕ → History, array s' = arrayAfter (fun k => ⟨1, env, past k⟩) n := by
  induction n generalizing s' h' with
  | zero =>
    obtain ⟨rfl, rfl⟩ : s = s' ∧ h = h' := by simpa [Prog.forever, Prog.forRange] using hrun
    exact ⟨fun _ => [], hs⟩
  | succ n ih =>
    obtain ⟨t, ht, hfirst, hlast⟩ := (Prog.run_bind_eq_some env).1 hrun
    obtain ⟨past, hpast⟩ := ih hfirst
    obtain ⟨p, hp⟩ := hbody t ht s' h' hlast
    refine ⟨Function.update past n p, ?_⟩
    have hcongr : arrayAfter (fun k => ⟨1, env, Function.update past n p k⟩) n =
        arrayAfter (fun k => ⟨1, env, past k⟩) n :=
      arrayAfter_congr fun k hk => by rw [Function.update_of_ne hk.ne]
    rw [hp, hpast, arrayAfter_succ, hcongr, Function.update_self]

/-- A pass of `count_particles` makes one call on its array. -/
lemma countParticlesPass_call (fuel : ℕ) (a : Fin 3 → Flt) (h : History) (a' : Fin 3 → Flt)
    (h' : History) (hrun : (countParticlesPass fuel a).run env h = (some a', h')) :
    ∃ past, a' = (AmbientCall.mk 1 env past).result a := by
  unfold countParticlesPass at hrun
  obtain ⟨_, h₁, -, hrun⟩ := (Prog.run_bind_eq_some env).1 hrun
  obtain ⟨data, h₂, -, hrun⟩ := (Prog.run_bind_eq_some env).1 hrun
  obtain ⟨_, h₃, -, hrun⟩ := (Prog.run_bind_eq_some env).1 hrun
  obtain ⟨b, h₄, hcall, hrun⟩ := (Prog.run_bind_eq_some env).1 hrun
  -- what follows does not write the array
  obtain ⟨text, h₅, -, hrun⟩ := (Prog.run_bind_eq_some env).1 hrun
  obtain ⟨_, h₆, -, hrun⟩ := (Prog.run_bind_eq_some env).1 hrun
  obtain ⟨_, h₇, -, hrun⟩ := (Prog.run_bind_eq_some env).1 hrun
  obtain ⟨_, h₈, -, hrun⟩ := (Prog.run_bind_eq_some env).1 hrun
  rw [Prog.run_pure, Prod.mk.injEq, Option.some.injEq] at hrun
  exact ⟨h₃, hrun.1.symm.trans (AmbientCall.result_eq ⟨1, env, h₃⟩ hcall).symm⟩

/-- A pass of `read_gas_and_ambient_sensors` makes one call on its array. -/
lemma readGasPass_call (l : (Fin 8 → UInt16) × (Fin 3 → Flt)) (h : History)
    (l' : (Fin 8 → UInt16) × (Fin 3 → Flt)) (h' : History)
    (hrun : (readGasPass l).run env h = (some l', h')) :
    ∃ past, l'.2 = (AmbientCall.mk 1 env past).result l.2 := by
  unfold readGasPass at hrun
  obtain ⟨gs, h₁, -, hrun⟩ := (Prog.run_bind_eq_some env).1 hrun
  obtain ⟨b, h₂, hcall, hrun⟩ := (Prog.run_bind_eq_some env).1 hrun
  obtain ⟨text, h₃, -, hrun⟩ := (Prog.run_bind_eq_some env).1 hrun
  obtain ⟨_, h₄, -, hrun⟩ := (Prog.run_bind_eq_some env).1 hrun
  obtain ⟨_, h₅, -, hrun⟩ := (Prog.run_bind_eq_some env).1 hrun
  obtain ⟨_, h₆, -, hrun⟩ := (Prog.run_bind_eq_some env).1 hrun
  rw [Prog.run_pure, Prod.mk.injEq, Option.some.injEq] at hrun
  refine ⟨h₁, ?_⟩
  rw [← hrun.1]
  exact (AmbientCall.result_eq ⟨1, env, h₁⟩ hcall).symm

/-- **The array of `count_particles`** after some passes is that of as many calls of one
sample. -/
theorem countParticles_arrayAfter {fuel passes : ℕ} {a : Fin 3 → Flt} {h h' : History}
    (hrun : (countParticles fuel passes).run env h = (some a, h')) :
    ∃ past : ℕ → History, a = arrayAfter (fun k => ⟨1, env, past k⟩) passes :=
  forever_arrayAfter id (countParticlesPass_call fuel) rfl hrun

/-- **The array of `read_gas_and_ambient_sensors`** after some passes is that of as many calls of
one sample. -/
theorem readGas_arrayAfter {passes : ℕ} {l : (Fin 8 → UInt16) × (Fin 3 → Flt)} {h h' : History}
    (hrun : (readGasAndAmbientSensors passes).run env h = (some l, h')) :
    ∃ past : ℕ → History, l.2 = arrayAfter (fun k => ⟨1, env, past k⟩) passes := by
  unfold readGasAndAmbientSensors at hrun
  obtain ⟨_, h₁, -, hrun⟩ := (Prog.run_bind_eq_some env).1 hrun
  obtain ⟨gs, h₂, -, hrun⟩ := (Prog.run_bind_eq_some env).1 hrun
  exact forever_arrayAfter Prod.snd readGasPass_call rfl hrun

end Threads

end AirLab
