import AirLab.Boot.Driver
import AirLab.Effects.Script
import AirLab.Footprint

set_option relaxedAutoImplicit false
set_option autoImplicit false

/-!
# The boot sequence

The main program starts the threads only when everything they rely on is there: the card has been
asked to mount and its directory is closed again, the ambient sensor was found and is ready, and
all pins are low. Before that no thread makes a call.

## Main definitions

* `AirLab.dirOpen`, `AirLab.StorageDiscipline` — the directory of the card.
* `AirLab.BootComplete` — what is there when the threads start.
* `AirLab.BootDiscipline` — what holds of every event of the main program.

## Main results

* `AirLab.directory_disciplined` — the directory is opened, read and closed in turn.
* `AirLab.threads_after_boot` — a thread runs only after a complete boot, and is started at most
  once.
-/

namespace AirLab

open CLang Effects

/-- Events of the main program. -/
abbrev BootEvent : Type := Event BootCall BootResp

/-! ## What every event of the main program keeps -/

/-- The result is that of a success. -/
def succeeded (res : ℤ) : Bool := res = 0

/-- The directory is open: the last `fs_opendir` succeeded, and it was not closed since. -/
def dirOpen : BootHist → Bool
  | [] => false
  | ⟨.inr (.fsOpendir _), res⟩ :: _ => succeeded res
  | ⟨.inr .fsClosedir, _⟩ :: _ => false
  | _ :: past => dirOpen past

/-- A directory is opened where the card was mounted and none is open; it is read and closed where
it is open. -/
def StorageDiscipline (e : BootEvent) (past : BootHist) : Prop :=
  match e.call with
  | .inr (.fsOpendir path) => ⟨.inr (.fsMount path), frOk⟩ ∈ past ∧ dirOpen past = false
  | .inr .fsReaddir => dirOpen past = true
  | .inr .fsClosedir => dirOpen past = true
  | _ => True

/-- The events of `mainPins`, the latest first. -/
def pinEvents : BootHist :=
  [⟨.inl (.gpioPinSet ledRed .low), ()⟩, ⟨.inl (.gpioPinSet ledGreen .low), ()⟩,
    ⟨.inl (.gpioPinConfigure ⟨.gpioa, 6⟩ .input), ()⟩,
    ⟨.inl (.gpioPinConfigure ⟨.gpioa, 7⟩ .outputLow), ()⟩,
    ⟨.inl (.gpioPinConfigure ⟨.gpioa, 5⟩ .outputLow), ()⟩,
    ⟨.inl (.gpioPinConfigure ⟨.gpioa, 4⟩ .outputInactive), ()⟩,
    ⟨.inl (.gpioPinConfigure ⟨.gpiob, 3⟩ .outputInactive), ()⟩,
    ⟨.inl (.gpioPinConfigure ledRed .outputInactive), ()⟩,
    ⟨.inl (.gpioPinConfigure ledGreen .outputInactive), ()⟩]

/-- **The boot is complete**: the card has been asked to mount, the ambient sensor was found and
is ready, the pins are configured, and the directory is closed. -/
structure BootComplete (h : BootHist) : Prop where
  mounted : ∃ res, ⟨.inr (.fsMount diskMountPt), res⟩ ∈ h
  found : ⟨.inl (.deviceGetBinding "BME280"), true⟩ ∈ h
  ready : ⟨.inr (.deviceIsReady "BME280"), true⟩ ∈ h
  pins : ∀ e ∈ pinEvents, e ∈ h
  dirClosed : dirOpen h = false

/-- What holds of every event of the main program: a pin is only set low, and before any thread is
started; with the first start the boot is complete, and stays so. -/
structure BootDiscipline (e : BootEvent) (past : BootHist) : Prop where
  storage : StorageDiscipline e past
  pins : ∀ c p v, e.call = .inl c → c.writes p = some v →
    v = .low ∧ ∀ e' ∈ past, e'.call.starts = none
  complete : ∀ e' ∈ e :: past, e'.call.starts ≠ none → BootComplete (e :: past)

/-- The call does nothing to directories and threads, and sets pins at most low. -/
def BootCall.Plain : BootCall → Prop
  | .inl c => ∀ p v, c.writes p = some v → v = .low
  | .inr (.fsOpendir _) => False
  | .inr .fsReaddir => False
  | .inr .fsClosedir => False
  | .inr (.kThreadCreate _) => False
  | _ => True

/-- Before the threads: the directory is open or not, and the events `es` are done. -/
structure Setup (o : Bool) (es h : BootHist) : Prop where
  disciplined : Always BootDiscipline h
  unstarted : ∀ e ∈ h, e.call.starts = none
  directory : dirOpen h = o
  done : ∀ e ∈ es, e ∈ h

section Setup

variable {env : Env BootCall BootResp} {S : BootHist → Prop} {o : Bool} {es es' h : BootHist}

/-- Some of the events. -/
lemma Setup.mono (hh : Setup o es h) (hsub : ∀ e ∈ es', e ∈ es) : Setup o es' h :=
  { hh with done := fun e he => hh.done e (hsub e he) }

/-- One more event that starts no thread. -/
lemma Setup.cons {o' : Bool} (hh : Setup o es h) {e : BootEvent} (hstorage : StorageDiscipline e h)
    (hpins : ∀ c p v, e.call = .inl c → c.writes p = some v → v = .low)
    (hstart : e.call.starts = none) (hdir : dirOpen (e :: h) = o') :
    Setup o' (e :: es) (e :: h) where
  disciplined := by
    refine ⟨⟨hstorage, fun c p v hc hw => ⟨hpins c p v hc hw, hh.unstarted⟩, fun e' he' hne => ?_⟩,
      hh.disciplined⟩
    rcases List.mem_cons.1 he' with rfl | he'
    · exact absurd hstart hne
    · exact absurd (hh.unstarted e' he') hne
  unstarted := List.forall_mem_cons.2 ⟨hstart, hh.unstarted⟩
  directory := hdir
  done := List.forall_mem_cons.2
    ⟨List.mem_cons_self, fun e' he' => List.mem_cons_of_mem e (hh.done e' he')⟩

/-- A call that only the main program makes, with any answer. -/
lemma setup_call {c : SetupCall} {P : BootHist → Prop} {Q : SetupResp c → BootHist → Prop}
    (hPQ : ∀ h r, P h → Q r (⟨.inr c, r⟩ :: h)) : Prog.Triple env P (setup c) Q S := by
  intro h hh
  unfold setup
  exact (Prog.wp_perform (R := BootResp) (Sum.inr c) Q).2 (hPQ h _ hh)

/-- A call of the application, with any answer. -/
lemma lift_call {c : Call} {P : BootHist → Prop} {Q : Resp c → BootHist → Prop}
    (hPQ : ∀ h r, P h → Q r (⟨.inl c, r⟩ :: h)) :
    Prog.Triple env P (ofApp (Prog.perform c : App (Resp c))) Q S := by
  intro h hh
  show Prog.wp env (Prog.perform (Sum.inl c)) Q S h
  exact (Prog.wp_perform (R := BootResp) (Sum.inl c) Q).2 (hPQ h _ hh)

/-- A plain call that only the main program makes. -/
lemma setup_done {c : SetupCall} (hc : BootCall.Plain (.inr c)) :
    Prog.Triple env (Setup o es) (setup c) (fun r => Setup o (⟨.inr c, r⟩ :: es)) S := by
  refine setup_call fun h r hh => ?_
  cases c <;> first | exact hc.elim | exact hh.cons trivial nofun rfl hh.directory

/-- A plain call of the application. -/
lemma lift_done {c : Call} (hc : BootCall.Plain (.inl c)) :
    Prog.Triple env (Setup o es) (ofApp (Prog.perform c : App (Resp c)))
      (fun r => Setup o (⟨.inl c, r⟩ :: es)) S := by
  refine lift_call fun h r hh => hh.cons trivial (fun c' p v hc' => ?_) rfl hh.directory
  obtain rfl := Sum.inl.inj hc'
  exact hc p v

/-- The last event may be forgotten. -/
lemma Setup.drop {e : BootEvent} (hh : Setup o (e :: es) h) : Setup o es h :=
  hh.mono fun _ he => List.mem_cons_of_mem e he

/-- A plain call whose answer does not matter. -/
lemma setup_plain {c : SetupCall} (hc : BootCall.Plain (.inr c)) :
    Prog.Triple env (Setup o es) (setup c) (fun _ => Setup o es) S :=
  (setup_done hc).mono (fun _ hh => hh) (fun _ _ hh => hh.drop) fun _ hh => hh

/-- Looking up a device. -/
lemma getBinding_done (label : String) :
    Prog.Triple env (Setup o es) (ofApp (deviceGetBinding label))
      (fun found => Setup o (⟨.inl (.deviceGetBinding label), found⟩ :: es)) S :=
  lift_done fun _ _ hw => nomatch hw

/-! ## The SD card -/

/-- Asking the disk for its sizes. -/
lemma diskInfo_setup : Prog.Triple env (Setup o es) diskInfo (fun _ => Setup o es) S := by
  unfold diskInfo
  refine (setup_plain (by trivial)).bind fun rc => ?_
  by_cases hrc : rc = (0 : ℤ)
  · rw [if_pos hrc]
    refine (setup_plain (by trivial)).bind fun rc => ?_
    by_cases hrc : rc = (0 : ℤ)
    · rw [if_pos hrc]
      exact (setup_plain (by trivial)).bind fun _ => Prog.Triple.pure fun _ hh => hh
    · rw [if_neg hrc]
      exact Prog.Triple.pure fun _ hh => hh
  · rw [if_neg hrc]
    exact Prog.Triple.pure fun _ hh => hh

/-- An entry is read while the directory is open. -/
lemma readdirPass_setup (u : Unit) :
    Prog.Triple env (Setup true es) (readdirPass u)
      (fun r => r.elim (fun _ => Setup true es) fun _ => Setup true es) S := by
  unfold readdirPass
  refine Prog.Triple.bind (Q := fun _ => Setup true es) (setup_call fun h r hh => ?_) fun r => ?_
  · have hread : Setup true (⟨.inr .fsReaddir, r⟩ :: es) (⟨.inr .fsReaddir, r⟩ :: h) :=
      hh.cons hh.directory nofun rfl hh.directory
    exact hread.drop
  · by_cases hr : r.1 ≠ 0 ∨ r.2 = []
    · rw [if_pos hr]
      exact Prog.Triple.pure fun _ hh => hh
    · rw [if_neg hr]
      exact Prog.Triple.pure fun _ hh => hh

/-- **Listing the directory** of a mounted card opens and closes it. -/
lemma lsdir_setup {path : String} (hmounted : ⟨.inr (.fsMount path), frOk⟩ ∈ es) (fuel : ℕ) :
    Prog.Triple env (Setup false es) (lsdir fuel path) (fun _ => Setup false es)
      (Always BootDiscipline) := by
  unfold lsdir
  refine Prog.Triple.bind (Q := fun res => Setup (succeeded res) es)
    (setup_call fun h r hh => ?_) fun res => ?_
  · have hopen : Setup (succeeded r) (⟨.inr (.fsOpendir path), r⟩ :: es)
        (⟨.inr (.fsOpendir path), r⟩ :: h) :=
      hh.cons ⟨hh.done _ hmounted, hh.directory⟩ nofun rfl rfl
    exact hopen.drop
  by_cases hres : res ≠ (0 : ℤ)
  · rw [if_pos hres]
    have hfailed : succeeded res = false := decide_eq_false hres
    rw [hfailed]
    exact Prog.Triple.pure fun _ hh => hh
  · rw [if_neg hres]
    have hopened : succeeded res = true := decide_eq_true (not_not.1 hres)
    rw [hopened]
    refine Prog.Triple.bind (Prog.Triple.loop (I := fun _ => Setup true es) readdirPass_setup
      (fun _ _ hh => hh.disciplined) fuel ()) fun res => ?_
    refine Prog.Triple.bind (Q := fun _ => Setup false es) (setup_call fun h r hh => ?_) fun _ =>
      Prog.Triple.pure fun _ hh => hh
    have hclosed : Setup false (⟨.inr .fsClosedir, r⟩ :: es) (⟨.inr .fsClosedir, r⟩ :: h) :=
      hh.cons hh.directory nofun rfl rfl
    exact hclosed.drop

/-- `init_and_mount_sdcard` asks the card to mount and leaves its directory closed. -/
lemma initAndMountSdcard_setup (fuel : ℕ) :
    Prog.Triple env (Setup false []) (initAndMountSdcard fuel)
      (fun _ h => ∃ res, Setup false [⟨.inr (.fsMount diskMountPt), res⟩] h)
      (Always BootDiscipline) := by
  unfold initAndMountSdcard
  refine diskInfo_setup.bind fun _ => ?_
  refine (setup_done (by trivial)).bind fun res => ?_
  by_cases hres : res = frOk
  · rw [if_pos hres]
    subst hres
    refine (lsdir_setup List.mem_cons_self fuel).bind fun _ => ?_
    exact Prog.Triple.pure fun _ hh => ⟨frOk, hh⟩
  · rw [if_neg hres]
    exact Prog.Triple.pure fun _ hh => ⟨res, hh⟩

/-! ## The sensors and the pins -/

/-- `get_bme280_device` finds the device ready, or not. -/
lemma getBme280Device_setup :
    Prog.Triple env (Setup o es) getBme280Device
      (fun found => Setup o (if found then ⟨.inr (.deviceIsReady "BME280"), true⟩ ::
        ⟨.inl (.deviceGetBinding "BME280"), true⟩ :: es else es)) S := by
  unfold getBme280Device
  refine (getBinding_done "BME280").bind fun found => ?_
  cases found with
  | false => exact Prog.Triple.pure fun _ hh => hh.drop
  | true =>
    refine (setup_done (c := .deviceIsReady "BME280") trivial).mono (fun _ hh => hh) ?_
      fun _ hh => hh
    intro ready h hh
    cases ready with
    | false => exact hh.drop.drop
    | true => exact hh

/-- `gas_sensors_init`. -/
lemma gasSensorsInit_setup :
    Prog.Triple env (Setup o es) gasSensorsInit (fun _ => Setup o es) S := by
  unfold gasSensorsInit
  refine (getBinding_done "I2C_3").bind fun found => ?_
  cases found with
  | false => exact Prog.Triple.pure fun _ hh => hh.drop
  | true =>
    exact (setup_plain (c := .i2cConfigure "I2C_3") trivial).bind fun _ =>
      Prog.Triple.pure fun _ hh => hh.drop

/-- The pins are all set low. -/
lemma mainPins_setup :
    Prog.Triple env (Setup o es) (ofApp mainPins) (fun _ => Setup o (pinEvents ++ es)) S := by
  have hset : ∀ {p : Pin} {es : BootHist}, Prog.Triple env (Setup o es) (ofApp (gpioPinSet p .low))
      (fun r => Setup o (⟨.inl (.gpioPinSet p .low), r⟩ :: es)) S := by
    intro p es
    refine lift_done fun q v hw => ?_
    simp only [Call.writes] at hw
    split_ifs at hw
    exact (Option.some.inj hw).symm
  have hconf : ∀ {p : Pin} {flags : GpioFlags} {es : BootHist}, Prog.Triple env (Setup o es)
      (ofApp (gpioPinConfigure p flags))
      (fun r => Setup o (⟨.inl (.gpioPinConfigure p flags), r⟩ :: es)) S := by
    intro p flags es
    refine lift_done fun q v hw => ?_
    cases flags <;> simp only [Call.writes] at hw
    · split_ifs at hw
      exact (Option.some.inj hw).symm
    · split_ifs at hw
      exact (Option.some.inj hw).symm
    · cases hw
  unfold mainPins
  simp only [ofApp_bind]
  refine hconf.bind fun _ => hconf.bind fun _ => hconf.bind fun _ => hconf.bind fun _ => ?_
  refine hconf.bind fun _ => hconf.bind fun _ => hconf.bind fun _ => hset.bind fun _ => ?_
  exact hset

end Setup

/-! ## The threads -/

/-- Once a thread is started the boot is complete. -/
def Started (h : BootHist) : Prop := Always BootDiscipline h ∧ BootComplete h

section Started

variable {env : Env BootCall BootResp} {S : BootHist → Prop}

/-- A call of the last part of `main`: no directory, no pin. -/
lemma Started.cons {h : BootHist} (hh : Started h) {e : BootEvent}
    (hstorage : StorageDiscipline e h) (hpins : ∀ c, e.call = .inl c → ∀ p, c.writes p = none)
    (hdir : dirOpen (e :: h) = dirOpen h) : Started (e :: h) := by
  obtain ⟨hall, hcomplete⟩ := hh
  have hnow : BootComplete (e :: h) := by
    obtain ⟨⟨res, hmounted⟩, hfound, hready, hset, hclosed⟩ := hcomplete
    exact ⟨⟨res, List.mem_cons_of_mem e hmounted⟩, List.mem_cons_of_mem e hfound,
      List.mem_cons_of_mem e hready, fun e' he' => List.mem_cons_of_mem e (hset e' he'),
      hdir.trans hclosed⟩
  refine ⟨⟨⟨hstorage, fun c p v hc hw => ?_, fun _ _ _ => hnow⟩, hall⟩, hnow⟩
  rw [hpins c hc p] at hw
  cases hw

/-- Starting a thread. -/
lemma kThreadCreate_started (thread : ThreadId) :
    Prog.Triple env Started (kThreadCreate thread) (fun _ => Started) S :=
  setup_call fun _ _ hh => hh.cons trivial nofun rfl

/-- The last loop. -/
lemma sleep_started (ms : ℕ) :
    Prog.Triple env Started (ofApp (kMsleep ms)) (fun _ => Started) S := by
  refine lift_call fun h r hh => hh.cons trivial (fun c hc p => ?_) rfl
  obtain rfl := Sum.inl.inj hc
  rfl

/-- The boot is complete where everything has been done. -/
lemma Setup.started {es h : BootHist} (hh : Setup false es h)
    (hmounted : ∃ res, ⟨.inr (.fsMount diskMountPt), res⟩ ∈ es)
    (hfound : ⟨.inl (.deviceGetBinding "BME280"), true⟩ ∈ es)
    (hready : ⟨.inr (.deviceIsReady "BME280"), true⟩ ∈ es) (hpins : ∀ e ∈ pinEvents, e ∈ es) :
    Started h := by
  obtain ⟨res, hmounted⟩ := hmounted
  exact ⟨hh.disciplined, ⟨res, hh.done _ hmounted⟩, hh.done _ hfound, hh.done _ hready,
    fun e he => hh.done e (hpins e he), hh.directory⟩

/-- **The main program keeps its discipline.** -/
lemma main_disciplined (fuel passes : ℕ) :
    Prog.Triple env (Setup false []) (main fuel passes) (fun _ => Always BootDiscipline)
      (Always BootDiscipline) := by
  unfold main
  refine (initAndMountSdcard_setup fuel).bind fun _ => ?_
  intro h hh
  obtain ⟨res, hh⟩ := hh
  revert h
  show Prog.Triple env (Setup false [⟨.inr (.fsMount diskMountPt), res⟩]) _ _ _
  refine getBme280Device_setup.bind fun devBme280 => ?_
  cases devBme280 with
  | false => exact Prog.Triple.pure fun _ hh => hh.disciplined
  | true =>
    refine gasSensorsInit_setup.bind fun _ => ?_
    refine (getBinding_done "GPIOA").bind fun _ => (getBinding_done "GPIOB").bind fun _ => ?_
    refine mainPins_setup.bind fun _ => ?_
    refine Prog.Triple.mono (P := Started) ?_ (fun h hh => ?_) (fun _ _ hh => hh) fun _ hh => hh
    · refine (kThreadCreate_started _).bind fun _ => (kThreadCreate_started _).bind fun _ => ?_
      refine (kThreadCreate_started _).bind fun _ => ?_
      exact (Prog.Triple.forRange (I := fun _ _ => Started) passes
        (fun _ _ _ => sleep_started 5) ()).mono (fun _ hh => hh) (fun _ _ hh => hh.1) fun _ hh => hh
    · exact hh.started ⟨res, by simp⟩ (by simp) (by simp) fun e he => List.mem_append_left _ he

end Started

/-! ## The starts -/

/-- What `init_and_mount_sdcard` does starts no thread. -/
lemma initAndMountSdcard_calls (fuel : ℕ) :
    (initAndMountSdcard fuel).Within fun c => c.starts = none := by
  have hcall : ∀ {c : SetupCall}, BootCall.starts (.inr c) = none →
      (setup c).Within fun c => c.starts = none := fun hc => (Prog.calls_perform _).2 hc
  have hinfo : diskInfo.Within fun c => c.starts = none := by
    unfold diskInfo
    refine .bind (hcall rfl) fun rc => .ite ?_ (Prog.calls_pure _)
    refine .bind (hcall rfl) fun rc => .ite ?_ (Prog.calls_pure _)
    exact .bind (hcall rfl) fun _ => Prog.calls_pure _
  have hpass : ∀ u, (readdirPass u).Within fun c => c.starts = none := by
    intro u
    unfold readdirPass
    exact .bind (hcall rfl) fun r => .ite (Prog.calls_pure _) (Prog.calls_pure _)
  have hlist : (lsdir fuel diskMountPt).Within fun c => c.starts = none := by
    unfold lsdir
    refine .bind (hcall rfl) fun res => .ite (Prog.calls_pure _) ?_
    refine .bind (Prog.Within.loop hpass fuel ()) fun res => ?_
    exact .bind (hcall rfl) fun _ => Prog.calls_pure _
  unfold initAndMountSdcard
  refine .bind hinfo fun _ => .bind (hcall rfl) fun res => .ite ?_ (Prog.calls_pure _)
  exact .bind hlist fun _ => Prog.calls_pure _

/-- What the application's calls do starts no thread. -/
lemma ofApp_calls {α : Type} (p : App α) : (ofApp p).Within fun c => c.starts = none := by
  unfold ofApp
  induction p with
  | ret a => exact Prog.calls_pure a
  | spent => exact Prog.calls_spent.2 trivial
  | call c k ih => exact (Prog.calls_call _ _).2 ⟨rfl, ih⟩

/-- `main` starts the sender, the gas thread and the particle thread, or none of them. -/
lemma main_follows (fuel passes : ℕ) :
    (main fuel passes).Follows BootCall.starts [.sender, .gas, .particle] := by
  have hcall : ∀ {c : SetupCall}, BootCall.starts (.inr c) = none →
      (setup c).Within fun c => c.starts = none := fun hc => (Prog.calls_perform _).2 hc
  have hcard := Prog.plays_of_calls (initAndMountSdcard_calls fuel)
  have happ : ∀ {α : Type} (p : App α), (ofApp p).Plays BootCall.starts [] := fun p =>
    Prog.plays_of_calls (ofApp_calls p)
  have hbme : getBme280Device.Plays BootCall.starts [] := by
    unfold getBme280Device
    exact (happ _).bind fun found => .ite (Prog.plays_of_calls (hcall rfl)) (Prog.plays_pure _)
  have hgas : gasSensorsInit.Plays BootCall.starts [] := by
    unfold gasSensorsInit
    refine (happ _).bind fun found => .ite ?_ (Prog.plays_pure _)
    exact .after (hcall rfl) fun _ => Prog.plays_pure _
  have hcreate : ∀ thread, (kThreadCreate thread).Plays BootCall.starts [thread] := fun thread =>
    Prog.plays_perform (Sum.inr (SetupCall.kThreadCreate thread))
  have hloop : (Prog.forever (fun _ => ofApp (kMsleep 5)) passes ()).Plays BootCall.starts [] :=
    Prog.plays_of_calls (.forRange (fun _ _ => ofApp_calls _) passes ())
  unfold main
  refine hcard.bind_follows fun _ => hbme.bind_follows fun devBme280 => .ite ?_
    (Prog.follows_pure _ _)
  refine hgas.bind_follows fun _ => (happ _).bind_follows fun _ => (happ _).bind_follows fun _ => ?_
  refine (happ mainPins).bind_follows fun _ => ?_
  refine (hcreate .sender).bind_follows fun _ => (hcreate .gas).bind_follows fun _ => ?_
  exact (hcreate .particle).bind_follows fun _ => hloop.follows

section Run

variable (w : Hardware) (fuel joins mainPasses : ℕ) (passes : ThreadId → ℕ)
  (schedule : List (Option ThreadId))

/-- The main program keeps its discipline in every run. -/
lemma boot_disciplined :
    Always BootDiscipline (mainOf (bootHistory w fuel joins mainPasses passes schedule)) := by
  refine Machine.always_main (fun env => Prog.wp.final ?_) (application fuel joins passes) schedule
  exact main_disciplined fuel mainPasses [] ⟨trivial, fun _ he => absurd he List.not_mem_nil, rfl,
    fun _ he => absurd he List.not_mem_nil⟩

/-- **The directory of the card.** In every run of the main program beside its threads, whatever
fails, the directory is opened only after the card was mounted with success and while none is
open, and it is read and closed only while it is open. -/
theorem directory_disciplined :
    Always StorageDiscipline (mainOf (bootHistory w fuel joins mainPasses passes schedule)) :=
  (boot_disciplined w fuel joins mainPasses passes schedule).imp fun _ _ hd => hd.storage

/-- **A thread runs only after a complete boot.** In every run of the main program beside its
threads, whatever fails, each call of a thread comes after the thread was started, the card was
asked to mount, the ambient sensor was found ready, all pins were configured and the directory was
closed; each thread is started at most once, the sender first and the particle thread last. -/
theorem threads_after_boot :
    Always (fun e past => ∀ t, e = Sum.inr t →
        Machine.started BootCall.starts past t.1 = true ∧ BootComplete (mainOf past))
        (bootHistory w fuel joins mainPasses passes schedule) ∧
      trace BootCall.starts (mainOf (bootHistory w fuel joins mainPasses passes schedule)) <+:
        [.sender, .gas, .particle] := by
  constructor
  · have hgated : Always (Machine.Gated BootCall.starts)
        (bootHistory w fuel joins mainPasses passes schedule) :=
      Machine.always_gated _ _ schedule
    have hmain := boot_disciplined w fuel joins mainPasses passes schedule
    revert hgated hmain
    generalize bootHistory w fuel joins mainPasses passes schedule = M
    intro hgated hmain
    rw [always_iff]
    rintro later e past rfl t rfl
    have hstarted := hgated.of_append.1 t rfl
    obtain ⟨e', he', hstart⟩ := Machine.exists_start hstarted
    have hpast : Always BootDiscipline (mainOf past) := by
      unfold mainOf at hmain
      rw [List.filterMap_append] at hmain
      exact hmain.of_append
    -- the latest event of the main program has seen the start
    rcases hM : mainOf past with _ | ⟨e₀, rest⟩
    · rw [hM] at he'
      exact absurd he' List.not_mem_nil
    · rw [hM] at hpast he'
      exact ⟨hstarted, hpast.1.complete e' he' (by rw [hstart]; nofun)⟩
  · obtain ⟨played, rest, hscript, htrace, -⟩ := (main_follows fuel mainPasses).path
      (Machine.path_main (main fuel mainPasses) (application fuel joins passes) schedule)
    rw [trace_nil, List.nil_append] at htrace
    have hplayed : trace BootCall.starts
        (mainOf (bootHistory w fuel joins mainPasses passes schedule)) = played := htrace
    rw [hscript, hplayed]
    exact List.prefix_append _ _

end Run

end AirLab
