import AirLab.Effects.Spawn
import AirLab.Interleaving

set_option relaxedAutoImplicit false
set_option autoImplicit false

/-!
# The main program (`main.c`)

`main` prepares the SD card, the ambient sensor, the gas sensors and the pins, starts the three
threads and then sleeps for good. What it does to pins and devices are calls of the application;
the rest are calls of its own.

The sizes of the disk and the names in its directory are only logged. Of a directory entry the
program looks at the name, whether it is empty.

## Main definitions

* `AirLab.SetupCall`, `AirLab.Boot` — the calls of the main program, and programs over them.
* `AirLab.initAndMountSdcard`, `AirLab.lsdir` — `file_system.c`.
* `AirLab.getBme280Device`, `AirLab.gasSensorsInit` — the sensors.
* `AirLab.main` — the main program.
* `AirLab.bootHistory` — the history of a run of everything.
-/

namespace AirLab

open CLang Effects

/-- What is asked of a disk. -/
inductive DiskIoctl
  | getSectorCount
  | getSectorSize
  deriving DecidableEq

/-- The calls that only the main program makes. -/
inductive SetupCall
  | diskAccessInit (diskPdrv : String)
  | diskAccessIoctl (diskPdrv : String) (cmd : DiskIoctl)
  | fsMount (mntPoint : String)
  | fsOpendir (path : String)
  | fsReaddir
  | fsClosedir
  | deviceIsReady (label : String)
  | i2cConfigure (label : String)
  | kThreadCreate (thread : ThreadId)

/-- Their answers. Reading a directory gives a result and the name of the entry. -/
@[reducible] def SetupResp : SetupCall → Type
  | .diskAccessInit _ => ℤ
  | .diskAccessIoctl _ _ => ℤ
  | .fsMount _ => ℤ
  | .fsOpendir _ => ℤ
  | .fsReaddir => ℤ × Text
  | .fsClosedir => Unit
  | .deviceIsReady _ => Bool
  | .i2cConfigure _ => ℤ
  | .kThreadCreate _ => Unit

/-- The calls of the main program. -/
abbrev BootCall : Type := Call ⊕ SetupCall

/-- The answers to the main program. -/
@[reducible] def BootResp : BootCall → Type
  | .inl c => Resp c
  | .inr c => SetupResp c

/-- The main program and its parts. -/
abbrev Boot : Type → Type := Prog BootCall BootResp

/-- Histories of the main program, the most recent event first. -/
abbrev BootHist : Type := Hist BootCall BootResp

/-- A call that only the main program makes. -/
def setup (c : SetupCall) : Boot (SetupResp c) := Prog.perform (Sum.inr c)

/-- A part that only makes calls of the application. -/
def ofApp {α : Type} (p : App α) : Boot α := p.lift Sum.inl fun _ r => r

/-- Its parts. -/
lemma ofApp_bind {α β : Type} (p : App α) (f : α → App β) :
    ofApp (p >>= f) = ofApp p >>= fun a => ofApp (f a) := Prog.lift_bind _ _ p f

/-! ## The SD card -/

/-- The `do … while (0)` of `init_and_mount_sdcard`: a call that fails breaks out. -/
def diskInfo : Boot Unit := do
  let rc ← setup (.diskAccessInit "SD")
  if rc = (0 : ℤ) then
    let rc ← setup (.diskAccessIoctl "SD" .getSectorCount)
    if rc = (0 : ℤ) then
      let _ ← setup (.diskAccessIoctl "SD" .getSectorSize)

/-- One pass of the loop of `lsdir`; an error or an empty name breaks out with the result. -/
def readdirPass (_u : Unit) : Boot (Unit ⊕ ℤ) := do
  let r ← setup .fsReaddir
  if r.1 ≠ 0 ∨ r.2 = [] then return .inr r.1 else return .inl ()

/-- `lsdir` -/
def lsdir (fuel : ℕ) (path : String) : Boot ℤ := do
  let res ← setup (.fsOpendir path)
  if res ≠ (0 : ℤ) then
    return res
  let res ← Prog.loop readdirPass fuel ()
  setup .fsClosedir
  return res

/-- `disk_mount_pt` -/
def diskMountPt : String := "/SD:"

/-- `FR_OK` -/
def frOk : ℤ := 0

/-- `init_and_mount_sdcard`: the card is mounted even where its disk gave no information. -/
def initAndMountSdcard (fuel : ℕ) : Boot Unit := do
  diskInfo
  let res ← setup (.fsMount diskMountPt)
  if res = frOk then
    let _ ← lsdir fuel diskMountPt

/-! ## The sensors -/

/-- `get_bme280_device`, whether there is such a device and it is ready. -/
def getBme280Device : Boot Bool := do
  let found ← ofApp (deviceGetBinding "BME280")
  if found then setup (.deviceIsReady "BME280") else return false

/-- `gas_sensors_init`: failures are only logged. -/
def gasSensorsInit : Boot Unit := do
  let found ← ofApp (deviceGetBinding "I2C_3")
  if found then
    let _ ← setup (.i2cConfigure "I2C_3")

/-! ## The main program -/

/-- `k_thread_create` with `K_NO_WAIT`. -/
def kThreadCreate (thread : ThreadId) : Boot Unit := setup (.kThreadCreate thread)

/-- `main`, with the first `passes` passes of its last loop. Without the ambient sensor it
returns early. -/
def main (fuel passes : ℕ) : Boot Unit := do
  initAndMountSdcard fuel
  let devBme280 ← getBme280Device
  if devBme280 then
    gasSensorsInit
    let _ ← ofApp (deviceGetBinding "GPIOA")
    let _ ← ofApp (deviceGetBinding "GPIOB")
    ofApp mainPins
    kThreadCreate .sender
    kThreadCreate .gas
    kThreadCreate .particle
    Prog.forever (fun _ => ofApp (kMsleep 5)) passes ()

/-- The thread that a call starts. -/
def BootCall.starts : BootCall → Option ThreadId
  | .inr (.kThreadCreate thread) => some thread
  | _ => none

/-! ## Everything together -/

/-- Histories of the main program and the threads, the most recent event first. -/
abbrev MachineHistory : Type := MachineHist ThreadId BootCall BootResp Call Resp

/-- The answers of the hardware, to the main program and to the threads. -/
structure Hardware where
  main : MachineHistory → (b : BootCall) → BootResp b
  thread : MachineHistory → AppEnv

/-- The answers to all calls: what the threads share is read from their history. -/
def Hardware.answers (w : Hardware) : Answers ThreadId BootCall BootResp Call Resp :=
  ⟨w.main, fun M => shared (w.thread M)⟩

/-- The history of a run of the main program and the threads. -/
def bootHistory (w : Hardware) (fuel joins mainPasses : ℕ) (passes : ThreadId → ℕ)
    (schedule : List (Option ThreadId)) : MachineHistory :=
  (Machine.run BootCall.starts Call.blocks w.answers
    (Machine.init (main fuel mainPasses) (application fuel joins passes)) schedule).hist

end AirLab
