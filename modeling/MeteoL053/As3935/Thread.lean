import MeteoL053.As3935.Masked
import MeteoL053.Config.Intervals
import MeteoL053.Stream.System

/-!
The thread of `as3935Thread.c` and the getters it serves an interrupt with.
`AS3935_init` only stores the thread in the handle and is left out.
-/

namespace MeteoL053.As3935

open CallTree Config

/-! ## The getters -/

section Getters

variable (dev : UInt8)

/-- `AS3935_I2C__sing_reg_read`. -/
def singRegRead (regAdd : UInt8) : Fw UInt8 := ask (.busOp (.as3935Read dev regAdd))

/-- What `AS3935_GetInterruptSrc` makes of register 0x03: 1 is lightning. -/
def interruptSource (reg : UInt8) : UInt8 :=
  if reg &&& 0x0F = 0x08 then 1
  else if reg &&& 0x0F = 0x04 then 2
  else if reg &&& 0x0F = 0x01 then 3
  else 0xFF

/-- `AS3935_GetInterruptSrc`. -/
def getInterruptSrc : Fw UInt8 := do
  ask (.chThdSleepMilliseconds 10)
  let reg ← singRegRead dev 0x03
  return interruptSource reg

/-- What `AS3935_GetLightningDistKm` makes of register 0x07. -/
def distanceKm (reg : UInt8) : UInt8 := reg &&& 0x3F

/-- `AS3935_GetLightningDistKm`. -/
def getLightningDistKm : Fw UInt8 := do
  let reg ← singRegRead dev 0x07
  return distanceKm reg

/-- What `AS3935_GetStrikeEnergyRaw` makes of the registers 0x06, 0x05 and 0x04. -/
def strikeEnergy (mmsb msb lsb : UInt8) : UInt32 :=
  ((mmsb &&& 0x1F).toUInt32 <<< 8 ||| msb.toUInt32) <<< 8 ||| lsb.toUInt32

/-- `AS3935_GetStrikeEnergyRaw`. -/
def getStrikeEnergyRaw : Fw UInt32 := do
  let mmsb ← singRegRead dev 0x06
  let msb ← singRegRead dev 0x05
  let lsb ← singRegRead dev 0x04
  return strikeEnergy mmsb msb lsb

end Getters

/-! ## The thread -/

/-- `USE_AS3935_HW_ID`. -/
def hwId : UInt8 := 5

/-- The blocks of the thread, with its variables, and of the interrupt. -/
inductive Label where
  | start (interval : UInt16)
  | loop (status : HwStatus) (interval : UInt16)
  | interrupt

/-- `As3935__thread_enableInterrupt`. -/
def enableInterrupt : Fw Unit := do
  ask (.palEnableLineEvent .as3935Interrupt)
  ask (.palSetLineMode .as3935Interrupt)
  ask (.palSetLineCallback .as3935Interrupt)

/-- The calls that set up the interrupt line. -/
def LineCall : Call → Prop
  | .palEnableLineEvent _ | .palSetLineMode _ | .palSetLineCallback _ => True
  | _ => False

theorem enableInterrupt_all : enableInterrupt.All LineCall :=
  ⟨trivial, fun _ => ⟨trivial, fun _ => ⟨trivial, fun _ => trivial⟩⟩⟩

/-- `As3935__thread_disableInterrupt`. Its only line is commented out. -/
def disableInterrupt : Fw Unit := return ()

/-- What the thread does with the values it has read: the new status. -/
def publish (interruptSrc distance : UInt8) (energy : UInt32) (status : HwStatus) :
    Fw HwStatus := do
  if interruptSrc = 0x01 ∧ distance ≠ 0xFF ∧ energy ≠ 0xFF then
    ask (.setHwValue 0 interruptSrc.toUInt32)
    ask (.setHwValue 1 distance.toUInt32)
    ask (.setHwValue 2 energy)
    ask (.setHwStatus .ok)
    Stream.sendReading hwId [interruptSrc.toUInt32, distance.toUInt32, energy]
    return .ok
  return status

section Code

variable (dev : UInt8)

/-- The body of `if (interruptCount > 0)`. -/
def serve (status : HwStatus) : Fw HwStatus := do
  disableInterrupt
  let interruptSrc ← getInterruptSrc dev
  let distance ← getLightningDistKm dev
  let energy ← getStrikeEnergyRaw dev
  let status ← publish interruptSrc distance energy status
  ask (.setInterruptCount 0)
  enableInterrupt
  return status

/-- `AS3935_ManualCal` as the status of the thread, which is then shown. -/
def calibrate (capacitance location : UInt8) : Fw HwStatus := do
  let ok ← manualCal dev capacitance location 1
  let status := if ok then HwStatus.ok else HwStatus.error
  ask (.setHwStatus status)
  return status

/-- The thread up to its loop. -/
def start (interval : UInt16) : Fw Label := do
  ask (.registerSchedule hwId)
  ask (.chThdSleepMilliseconds 1000)
  ask .as3935BSemWait
  let status ← calibrate dev 0 2
  ask .as3935BSemSignal
  ask (.registerHw hwId)
  ask (.chThdSleepMilliseconds 1000)
  if status = .ok then
    enableInterrupt
  return .loop status interval

/-- The new calibration of the loop after one that failed. -/
def tryReconfigure (status : HwStatus) : Fw HwStatus := do
  if status = .error then
    disableInterrupt
    let status ← calibrate dev 72 locationOutdoors
    if status = .ok then
      enableInterrupt
    return status
  return status

/-- One turn of the loop. -/
def loop (status : HwStatus) (interval : UInt16) : Fw Label := do
  ask .as3935BSemWait
  let status ← tryReconfigure dev status
  let count ← ask .interruptCount
  let status ← (if count > (0 : UInt32) then serve dev status else return status)
  ask .as3935BSemSignal
  let msg ← ask (.chMsgWaitTimeout (waitTimeout interval))
  return .loop status (nextInterval interval msg)

end Code

end MeteoL053.As3935
