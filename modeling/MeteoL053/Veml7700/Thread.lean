import MeteoL053.Config.Intervals
import MeteoL053.Stream.System
import MeteoL053.Veml7700.Driver

/-!
The thread of `veml7700Thread.c`.
-/

namespace MeteoL053.Veml7700

open CallTree Config

/-- `VEML7700_HW_ID`. -/
def hwId : UInt8 := 2

/-- The blocks of the thread, with its variables. -/
inductive Label (ν : Type) where
  | start (d : Driver ν) (interval : UInt16)
  | loop (d : Driver ν) (status : HwStatus) (interval : UInt16)

section Code

variable {ν : Type} (fl : Arithmetic ν)

/-- The thread up to its loop. -/
def start (d : Driver ν) (interval : UInt16) : Fw (Label ν) := do
  ask (.registerSchedule hwId)
  ask (.chThdSleepMilliseconds 1000)
  let ok ← init d
  let status := if ok then HwStatus.ok else HwStatus.error
  ask (.setHwStatus status)
  ask (.registerHw hwId)
  ask (.chThdSleepMilliseconds 1000)
  return .loop d status interval

/-- The repeated `VEML7700_init` of the loop, whose result is not used. -/
def tryReconfigure (d : Driver ν) (status : HwStatus) : Fw Unit := do
  if status = .error then
    let _ ← init d
    ask (.chThdSleepMilliseconds 100)

/-- What the loop does with the result of `VEML7700_getALSLux`: the new status. -/
def report (ok : Bool) (lux : ν) : Fw HwStatus := do
  if ok then
    ask .chSysLock
    ask (.setHwValue 0 (fl.toUInt32 lux))
    ask (.setHwStatus .ok)
    ask .chSysUnlock
    Stream.sendReading hwId [fl.toUInt32 lux]
    return .ok
  else
    ask (.setHwStatus .error)
    return .error

/-- One turn of the loop. -/
def loop (d : Driver ν) (status : HwStatus) (interval : UInt16) : Fw (Label ν) := do
  tryReconfigure d status
  let (ok, d) ← getALSLux fl d
  let status ← report fl ok d.lux
  let msg ← ask (.chMsgWaitTimeout (waitTimeout interval))
  return .loop d status (nextInterval interval msg)

/-- The code of a block. -/
def code : Label ν → Fw (Label ν)
  | .start d interval => start d interval
  | .loop d status interval => loop fl d status interval

end Code

end MeteoL053.Veml7700
