import MeteoL053.Ads1x15
import MeteoL053.Station.Calls
import MeteoL053.Stream.System

/-!
The whole thread of `powerThread.c`: it turns the radio off and on, reads both
voltages over the bus and the two lines of the charger, and reports them.
-/

namespace MeteoL053.Station.Power

open CallTree Config Registry

/-- `POWER_HW_ID`. -/
def hwId : UInt8 := 4

/-- The power thread. -/
abbrev device : Device := .sensor .power

/-- `adcDev` when the thread starts. -/
def initialDevice : Ads1x15.Device where
  config := 0
  gain := 0
  mode := 0
  datarate := 0
  compMode := 0
  compPol := 0
  compLatch := 0
  compQueConvert := 0
  bufferRx := 0
  i2cAddress := 0x48

/-- What the float arithmetic makes of the two ADC values with the gain of the
device. -/
structure Conversion where
  solar : UInt16 → UInt16 → UInt32
  batt : UInt16 → UInt16 → UInt32

/-- The variables of the loop. -/
structure Vars where
  dev : Ads1x15.Device
  status : HwStatus
  battAdcValue : UInt16
  solarAdcValue : UInt16
  interval : UInt16

inductive Label where
  | start (interval : UInt16)
  | loop (v : Vars)

section Code

variable (fuel : Nat) (conv : Conversion)

/-- The thread up to its loop. -/
def start (interval : UInt16) : Fw Label := do
  MeteoL053.ask (.registerSchedule hwId)
  MeteoL053.ask (.chThdSleepMilliseconds 1000)
  let (ok, dev) ← Ads1x15.init fuel initialDevice
  let status := if ok then HwStatus.ok else HwStatus.error
  MeteoL053.ask (.setHwStatus status)
  MeteoL053.ask (.registerHw hwId)
  return .loop ⟨dev, status, 0, 0, interval⟩

/-- The repeated `ADS__init` of the loop, whose result is not used. -/
def tryReconfigure (v : Vars) : Fw Vars := do
  if v.status = .error then
    let (_, dev) ← Ads1x15.init fuel v.dev
    return { v with dev }
  return v

/-- The two readings, joined by `&&`. -/
def readVoltages (v : Vars) : Fw (Bool × Vars) := do
  let (ok, batt, dev) ← Ads1x15.readADCDifferential01 fuel v.dev
  let v := { v with dev, battAdcValue := batt.getD v.battAdcValue }
  if !ok then
    return (false, v)
  let (ok, solar, dev) ← Ads1x15.readADC fuel v.dev 2
  return (ok, { v with dev, solarAdcValue := solar.getD v.solarAdcValue })

/-- A flag as a value. -/
def flag (b : Bool) : UInt32 := if b then 1 else 0

/-- The critical section of the loop: the values are stored under the kernel
lock, and `streamBuff` is returned. -/
def measure (v : Vars) : Code (List UInt32) := do
  ask (.fw .chSysLock)
  let chrg := !(← ask (.palReadLine .chrg))
  let solar := conv.solar v.dev.gain v.solarAdcValue
  ask (.fw (.setHwValue 0 solar))
  let batt := conv.batt v.dev.gain v.battAdcValue
  ask (.fw (.setHwValue 1 batt))
  ask (.fw (.setHwValue 2 (flag chrg)))
  let stdby := !(← ask (.palReadLine .stdby))
  ask (.fw (.setHwValue 3 (flag stdby)))
  ask (.fw (.setHwStatus .ok))
  ask (.fw .chSysUnlock)
  return [solar, batt, flag chrg, flag stdby]

/-- The calls of the critical section. -/
def MeasureCall : Call → Prop
  | .fw .chSysLock | .fw .chSysUnlock | .fw (.setHwValue ..) | .fw (.setHwStatus _) => True
  | .palReadLine _ => True
  | _ => False

theorem measure_all (v : Vars) : (measure conv v).All MeasureCall := by
  iterate 8 refine Prog.all_step trivial fun _ => ?_
  exact ⟨trivial, fun _ => trivial⟩

/-- What the loop does with the readings: the new status. -/
def report (ok : Bool) (v : Vars) : Code HwStatus := do
  if ok then
    let streamBuff ← measure conv v
    lift device (Stream.sendReading hwId streamBuff)
    return .ok
  else
    ask (.fw (.setHwStatus .error))
    return .error

/-- One turn of the loop. A radio that cannot be turned off starts the turn
again, without the wait for a message. -/
def loop (v : Vars) : Code Label := do
  let v ← lift device (tryReconfigure fuel v)
  if !(← lift device Hc12.tunrOffRadio) then
    return .loop v
  let _ ← lift device Hc12.tunrOnRadio
  let (ok, v) ← lift device (readVoltages fuel v)
  let status ← report conv ok v
  let msg ← awaitInterval (waitTimeout v.interval)
  return .loop { v with status, interval := nextInterval v.interval msg }

/-- The code of a block. -/
def code : Label → Code Label
  | .start interval => lift device (start fuel interval)
  | .loop v => loop fuel conv v

end Code

end MeteoL053.Station.Power
