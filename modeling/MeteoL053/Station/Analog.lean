import MeteoL053.Station.Calls
import MeteoL053.Stream.System

/-!
The two sensors on the internal ADC: the UV sensor of `ml8511.c` with its thread
`ml8511Thread.c`, and the rain sensor of `rainThread.c`. Both convert one sample
of their own group on `ADCD1`.
-/

namespace MeteoL053.Station

open CallTree Config Registry

/-- `adcAcquireBus`, `adcStart`, `adcConvert` of one sample, `adcStop` and
`adcReleaseBus`. -/
def adcSample (g : AdcGroup) : Code (Msg × UInt16) := do
  ask .adcAcquireBus
  ask .adcStart
  ask (.adcStartConversion g)
  let result ← ask .adcWait
  ask .adcStop
  ask .adcReleaseBus
  return result

namespace Ml8511

/-- `ML8511_HW_ID`. -/
def hwId : UInt8 := 3

/-- The thread of the UV sensor. -/
abbrev device : Device := .sensor .ml8511

/-- `ml8511_cfg_t`: whether there is an enable line, and `isEnabled`. -/
structure Driver where
  enableLine : Bool
  isEnabled : Bool

/-- `ML8511_init`. The group has one channel, so the halt is not reached. -/
def init (d : Driver) : Driver := { d with isEnabled := false }

/-- `ML8511_enable`. -/
def enable (d : Driver) : Code Driver := do
  if d.enableLine ∧ ¬ d.isEnabled then
    ask (.setMl8511Line true)
    ask (.fw (.chThdSleepMilliseconds 1))
    return { d with isEnabled := true }
  return d

/-- `ML8511_disable`. -/
def disable (d : Driver) : Code Driver := do
  if d.enableLine then
    ask (.setMl8511Line false)
    return { d with isEnabled := false }
  return d

/-- The calls for the enable line. -/
def LineCall : Call → Prop
  | .setMl8511Line _ | .fw (.chThdSleepMilliseconds _) => True
  | _ => False

theorem enable_all (d : Driver) : (enable d).All LineCall := by
  unfold enable
  split
  · exact Prog.all_step trivial fun _ => Prog.all_step trivial fun _ => trivial
  · trivial

theorem disable_all (d : Driver) : (disable d).All LineCall := by
  unfold disable
  split
  · exact Prog.all_step trivial fun _ => trivial
  · trivial

inductive Label where
  | start (d : Driver) (interval : UInt16)
  | loop (d : Driver) (interval : UInt16)

section Code

variable (uv : UInt16 → Option UInt32)

/-- `ML8511_getUV` up to the value the thread publishes; `uv` is what the float
arithmetic makes of a sample, `none` unless it is positive. -/
def getUV (d : Driver) : Code (Option UInt32 × Driver) := do
  let d ← enable d
  let (msg, sample) ← adcSample .device1
  let d ← disable d
  return (if msg = .ok then uv sample else none, d)

/-- The thread up to its loop. -/
def start (d : Driver) (interval : UInt16) : Code Label := do
  lift device do
    MeteoL053.ask (.registerSchedule hwId)
    MeteoL053.ask (.chThdSleepMilliseconds 1000)
    MeteoL053.ask (.setHwStatus .unknown)
    MeteoL053.ask (.registerHw hwId)
  return .loop (init d) interval

/-- What the loop does with the result of `ML8511_getUV`. -/
def report : Option UInt32 → Fw Unit
  | some v => do
    MeteoL053.ask .chSysLock
    MeteoL053.ask (.setHwValue 0 v)
    MeteoL053.ask (.setHwStatus .ok)
    MeteoL053.ask .chSysUnlock
    Stream.sendReading hwId [v]
  | none => MeteoL053.ask (.setHwStatus .error)

/-- One turn of the loop. -/
def loop (d : Driver) (interval : UInt16) : Code Label := do
  let (v, d) ← getUV uv d
  lift device (report v)
  let msg ← awaitInterval (waitTimeout interval)
  return .loop d (nextInterval interval msg)

/-- The code of a block. -/
def code : Label → Code Label
  | .start d interval => start d interval
  | .loop d interval => loop uv d interval

end Code

end Ml8511

namespace Rain

/-- `RAIN_FC37_HW_ID`. -/
def hwId : UInt8 := 6

/-- The thread of the rain sensor. -/
abbrev device : Device := .sensor .rain

inductive Label where
  | start (interval : UInt16)
  | loop (referenceNoRain interval : UInt16)

/-- The reference after a sample: the first one above 1000. -/
def nextReference (referenceNoRain sample : UInt16) : UInt16 :=
  if referenceNoRain = 0 ∧ sample > 1000 then sample else referenceNoRain

/-- The status value of a sample. -/
def rainStatus (referenceNoRain sample : UInt16) : UInt32 :=
  if sample < referenceNoRain then 1 else 0

/-- The thread up to its loop. -/
def start (interval : UInt16) : Code Label := do
  lift device do
    MeteoL053.ask (.registerSchedule hwId)
    MeteoL053.ask (.chThdSleepMilliseconds 1000)
    MeteoL053.ask (.setHwStatus .unknown)
    MeteoL053.ask (.registerHw hwId)
  return .loop 0 interval

/-- What the loop does with the result of the conversion; `v` is the status value. -/
def report (msg : Msg) (v : UInt32) : Fw Unit := do
  if msg = .ok then
    MeteoL053.ask .chSysLock
    MeteoL053.ask (.setHwValue 0 v)
    MeteoL053.ask (.setHwStatus .ok)
    MeteoL053.ask .chSysUnlock
    Stream.sendReading hwId [v]
  else
    MeteoL053.ask (.setHwStatus .error)

/-- One turn of the loop. -/
def loop (referenceNoRain interval : UInt16) : Code Label := do
  let (msg, sample) ← adcSample .rain
  let reference := if msg = .ok then nextReference referenceNoRain sample else referenceNoRain
  lift device (report msg (rainStatus reference sample))
  let next ← awaitInterval (waitTimeout interval)
  return .loop reference (nextInterval interval next)

/-- The code of a block. -/
def code : Label → Code Label
  | .start interval => start interval
  | .loop referenceNoRain interval => loop referenceNoRain interval

end Rain

end MeteoL053.Station
