import AirLab.Board

set_option relaxedAutoImplicit false
set_option autoImplicit false

/-!
# The log files on the SD card (`file_system.c`)

## Main definitions

* `AirLab.saveData` — `save_data`.
-/

namespace AirLab

open CLang Effects

/-- `fs_open` for appending. -/
def fsOpen (fname : Text) : App ℤ := Prog.perform (Call.fsOpen fname)

/-- `fs_write` to the file opened under the name. -/
def fsWrite (fname data : Text) : App ℤ := Prog.perform (Call.fsWrite fname data)

/-- `fs_close` -/
def fsClose (fname : Text) : App Unit := Prog.perform (Call.fsClose fname)

/-- The file name built in `fname[40]`. -/
def logName (type : String) : Text :=
  (CStr.snprintf (Nat.succ_pos 39) ("/SD:/0000.".toList ++ type.toList)).chars

/-- `save_data`: a file that could not be opened is written to nevertheless, and every count
that is not negative is taken for success. -/
def saveData (data : CStr 200) (type : String) : App Unit := do
  let fname := logName type
  let _ ← fsOpen fname
  let rc ← fsWrite fname data.chars
  if rc < 0 then
    kMsleep 500
  fsClose fname

end AirLab
