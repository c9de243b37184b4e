import MeteoL053.Config.Intervals
import MeteoL053.Bus.Drivers
import MeteoL053.Bmp280.Driver
import MeteoL053.Stream.System

/-!
The thread of `bmp280Thread.c`, and when it may report a measurement.

The bus operations of the thread are expanded to their code over the bus, and
every answer of the bus and the kernel is possible. `fault`, `result` and the
other history variables say what the last `BMP280_init` met and returned.
-/

namespace MeteoL053.Bmp280

open CallTree Config

/-! ## The thread -/

/-- The conversions from the fixed-point results to the values of a frame, in
`float` arithmetic in the source. -/
structure Conversion where
  temperature : Int → UInt32
  humidity : UInt32 → UInt32
  pressure : UInt32 → UInt32

/-- The blocks of the thread, with its variables. -/
inductive Label where
  | startUp (dev : Handle) (interval : UInt16)
  | loop (dev : Handle) (status : HwStatus) (interval : UInt16)

/-- `BMP280_HW_ID`. -/
def hwId : UInt8 := 1

section Code

variable (fuel : Nat) (enablePinLine : Option Line) (conv : Conversion)

/-- `Bmp280__thread_deviceStart`; `none` is `LINE_NO_PIN`. -/
def deviceStart (dev : Handle) : Fw Handle := do
  let some line := enablePinLine | return dev
  if ← ask (.palReadLine line) then
    return dev
  ask (.palSetLine line)
  ask (.chThdSleepMilliseconds 100)
  let (_, dev) ← init fuel dev
  ask (.chThdSleepMilliseconds 100)
  return dev

/-- `Bmp280__thread_deviceStop`. -/
def deviceStop : Fw Unit := do
  let some line := enablePinLine | return ()
  if ← ask (.palReadLine line) then
    ask (.palClearLine line)

/-- The thread up to its loop. -/
def startUp (dev : Handle) (interval : UInt16) : Fw Label := do
  ask (.registerSchedule hwId)
  ask (.chThdSleepMilliseconds 1000)
  let dev ← deviceStart fuel enablePinLine dev
  let (ok, dev) ← init fuel dev
  let status := if ok then HwStatus.ok else HwStatus.error
  ask (.setHwStatus status)
  ask (.registerHw hwId)
  deviceStop enablePinLine
  ask (.chThdSleepMilliseconds 1000)
  return .loop dev status interval

/-- What the loop does with the result of `BMP280_read_float`: the new status. -/
def report : Option Fixed → Fw HwStatus
  | some x => do
    ask (.setHwValue 0 (conv.temperature x.temperature))
    ask (.setHwValue 1 (conv.humidity x.humidity))
    ask (.setHwValue 2 (conv.pressure x.pressure))
    ask (.setHwStatus .ok)
    Stream.sendReading hwId
      [conv.temperature x.temperature, conv.humidity x.humidity, conv.pressure x.pressure]
    return .ok
  | none => do
    ask (.setHwStatus .error)
    return .error

/-- The repeated `BMP280_init` of the loop, whose result is not used. -/
def tryReconfigure (status : HwStatus) (dev : Handle) : Fw Handle := do
  if status = .error then
    let (_, dev) ← init fuel dev
    return dev
  return dev

/-- One turn of the loop. -/
def loop (dev : Handle) (status : HwStatus) (interval : UInt16) : Fw Label := do
  let dev ← deviceStart fuel enablePinLine dev
  let dev ← tryReconfigure fuel status dev
  let reading ← readFloat fuel dev
  let status ← report conv reading
  deviceStop enablePinLine
  let msg ← ask (.chMsgWaitTimeout (waitTimeout interval))
  return .loop dev status (nextInterval interval msg)

/-- The code of a block. -/
def code : Label → Fw Label
  | .startUp dev interval => startUp fuel enablePinLine dev interval
  | .loop dev status interval => loop fuel enablePinLine conv dev status interval

end Code

/-- The handle after `Bmp280__thread_init`. -/
def initialHandle : Handle where
  addr := i2cAddress1
  params := initDefaultParams
  id := 0
  cal := {}

/-! ## The system -/

structure State where
  /-- the level of the enable line -/
  pin : Bool
  /-- the thread has the bus -/
  held : Bool
  /-- the thread is in `BMP280_init` -/
  inInit : Bool
  /-- the last `BMP280_init` met a fault: an operation other than a status poll
  failed, the chip id was wrong, or it found the driver not READY -/
  fault : Bool
  /-- what the last `BMP280_init` returned, if it was called since the power of
  the sensor was switched -/
  result : Option Bool
  deriving DecidableEq

/-- The operation is a fault of the initialisation it is part of. -/
def faulty : (op : BusOp) → op.Result → Bool
  | .bmp280ReadRegister16 .., r => r.isNone
  | .bmp280ReadData _ addr _, none => addr ≠ regStatus
  | .bmp280ReadData _ addr _, some rx =>
    addr = regId && rx.getD 0 0 ≠ bmp280ChipId && rx.getD 0 0 ≠ bme280ChipId
  | .bmp280WriteRegister8 .., r => r
  | _, _ => false

/-- The operation has read the measurement registers. -/
def measured : (op : BusOp) → op.Result → Bool
  | .bmp280ReadData _ addr _, r => addr = regData && r.isSome
  | _, _ => false

/-- The state after a fault of the running initialisation. -/
def State.met (s : State) (b : Bool) : State := { s with fault := s.fault || (s.inInit && b) }

/-- A line that is switched off and on resets the sensor. -/
def effect (s : State) : (c : Call) → Reply c → State
  | .palSetLine _, _ => { s with pin := true, result := none }
  | .palClearLine _, _ => { s with pin := false, result := none }
  | .enter .bmp280Init, _ => { s with inInit := true, fault := false }
  | .leave .bmp280Init ok, _ => { s with inInit := false, result := some ok }
  | .i2cAcquireBus, _ => { s with held := true }
  | .i2cReleaseBus, _ => { s with held := false }
  | .i2cState, r => s.met (!s.held && r ≠ I2cState.ready)
  | .opDone op r, _ => s.met (faulty op r)
  | .busOp op, r => s.met (faulty op r)
  | _, _ => s

/-- The enable line reads as the thread has set it; all else is possible. -/
def possible (s : State) : (c : Call) → Reply c → Prop
  | .palReadLine _, r => r = s.pin
  | _, _ => True

instance (s : State) (c : Call) (r : Reply c) : Decidable (possible s c r) := by
  revert r
  apply Call.casesOn (motive := fun c => ∀ r : Reply c, Decidable (possible s c r)) c <;> intros <;>
    first
    | exact isTrue trivial
    | exact inferInstanceAs (Decidable (_ = _))

/-- The station as the BMP280 thread sees it. -/
def system (fuel : Nat) (enablePinLine : Option Line) (conv : Conversion) :
    System Unit Call Reply Label State where
  body _ l := Bus.expand (code fuel enablePinLine conv l)
  possible _ := possible
  effect _ := effect

/-- When the thread starts; the line may have any level. -/
def initial (interval : UInt16) (pin : Bool) : Pool Unit Call Reply Label State where
  shared := { pin := pin, held := false, inInit := false, fault := false, result := none }
  prog _ := .ret (.startUp initialHandle interval)

/-- The condition on a step: the measurement registers are not read
successfully after an initialisation that met a fault. -/
def FaultsLast (s : State) : (c : Call) → Reply c → Prop
  | .opDone op r, _ => measured op r = true → s.fault = false
  | .busOp op, r => measured op r = true → s.fault = false
  | _, _ => True

instance (s : State) (c : Call) (r : Reply c) : Decidable (FaultsLast s c r) := by
  revert r
  apply Call.casesOn (motive := fun c => ∀ r : Reply c, Decidable (FaultsLast s c r)) c <;> intros <;>
    first
    | exact isTrue trivial
    | exact inferInstanceAs (Decidable (_ = true → _ = false))

end MeteoL053.Bmp280
