import MeteoL053.Calls

/-!
The driver of `bmp280.c`. Register accesses are calls of the three bus
operations; the handle is passed along and keeps what a failed function has
already written to it. The two polling loops turn at most `fuel` times and hang
after that, so that results for every `fuel` hold of every finite run.
-/

namespace MeteoL053.Bmp280

open CallTree

/-- `BMP280_Mode`. -/
inductive Mode where
  | sleep
  | forced
  | normal
  deriving DecidableEq, Repr

def Mode.code : Mode → UInt8
  | sleep => 0
  | forced => 1
  | normal => 3

/-- `BMP280_Filter`. -/
inductive Filter where
  | off
  | f2
  | f4
  | f8
  | f16
  deriving DecidableEq, Repr

def Filter.code : Filter → UInt8
  | off => 0
  | f2 => 1
  | f4 => 2
  | f8 => 3
  | f16 => 4

/-- `BMP280_Oversampling`. -/
inductive Oversampling where
  | skipped
  | ultraLowPower
  | lowPower
  | standard
  | highRes
  | ultraHighRes
  deriving DecidableEq, Repr

def Oversampling.code : Oversampling → UInt8
  | skipped => 0
  | ultraLowPower => 1
  | lowPower => 2
  | standard => 3
  | highRes => 4
  | ultraHighRes => 5

/-- `BMP280_StandbyTime`. -/
inductive StandbyTime where
  | ms05
  | ms62
  | ms125
  | ms250
  | ms500
  | ms1000
  | ms2000
  | ms4000
  deriving DecidableEq, Repr

def StandbyTime.code : StandbyTime → UInt8
  | ms05 => 0
  | ms62 => 1
  | ms125 => 2
  | ms250 => 3
  | ms500 => 4
  | ms1000 => 5
  | ms2000 => 6
  | ms4000 => 7

/-- `bmp280_params_t`. -/
structure Params where
  mode : Mode
  filter : Filter
  oversamplingPressure : Oversampling
  oversamplingTemperature : Oversampling
  oversamplingHumidity : Oversampling
  standby : StandbyTime
  deriving DecidableEq, Repr

/-- The calibration fields of `BMP280_HandleTypedef`, all zero before the first
successful read. -/
structure Calibration where
  digT1 : UInt16 := 0
  digT2 : Int16 := 0
  digT3 : Int16 := 0
  digP1 : UInt16 := 0
  digP2 : Int16 := 0
  digP3 : Int16 := 0
  digP4 : Int16 := 0
  digP5 : Int16 := 0
  digP6 : Int16 := 0
  digP7 : Int16 := 0
  digP8 : Int16 := 0
  digP9 : Int16 := 0
  digH1 : UInt8 := 0
  digH2 : Int16 := 0
  digH3 : UInt8 := 0
  digH4 : Int16 := 0
  digH5 : Int16 := 0
  digH6 : Int8 := 0
  deriving DecidableEq

/-- `BMP280_HandleTypedef`. -/
structure Handle where
  addr : UInt8
  params : Params
  id : UInt8
  cal : Calibration
  deriving DecidableEq

/-- `BMP280_init_default_params`. -/
def initDefaultParams : Params where
  mode := .forced
  filter := .off
  oversamplingPressure := .standard
  oversamplingTemperature := .standard
  oversamplingHumidity := .standard
  standby := .ms500

def i2cAddress0 : UInt8 := 0x76
def i2cAddress1 : UInt8 := 0x77
def bmp280ChipId : UInt8 := 0x58
def bme280ChipId : UInt8 := 0x60

def regConfig : UInt8 := 0xF5
def regCtrl : UInt8 := 0xF4
def regStatus : UInt8 := 0xF3
def regCtrlHum : UInt8 := 0xF2
def regReset : UInt8 := 0xE0
def regId : UInt8 := 0xD0
def regData : UInt8 := 0xF7

def resetValue : UInt8 := 0xB6

/-! ## Register accesses -/

/-- `BMP280_read_register16`. -/
abbrev readRegister16 (dev : Handle) (addr : UInt8) : Fw (Option UInt16) :=
  ask (.busOp (.bmp280ReadRegister16 dev.addr addr))

/-- `BMP280_read_data`. -/
abbrev readData (dev : Handle) (addr : UInt8) (len : Nat) : Fw (Option (List UInt8)) :=
  ask (.busOp (.bmp280ReadData dev.addr addr len))

/-- `BMP280_write_register8`: true when the write failed. -/
abbrev writeRegister8 (dev : Handle) (addr value : UInt8) : Fw Bool :=
  ask (.busOp (.bmp280WriteRegister8 dev.addr addr value))

/-! ## Calibration -/

/-- The registers of `BMP280_read_calibration_data` in order, each with the
field its value is stored to. -/
def calibrationRegisters : List (UInt8 × (Calibration → UInt16 → Calibration)) :=
  [(0x88, fun cal v => { cal with digT1 := v }),
   (0x8a, fun cal v => { cal with digT2 := v.toInt16 }),
   (0x8c, fun cal v => { cal with digT3 := v.toInt16 }),
   (0x8e, fun cal v => { cal with digP1 := v }),
   (0x90, fun cal v => { cal with digP2 := v.toInt16 }),
   (0x92, fun cal v => { cal with digP3 := v.toInt16 }),
   (0x94, fun cal v => { cal with digP4 := v.toInt16 }),
   (0x96, fun cal v => { cal with digP5 := v.toInt16 }),
   (0x98, fun cal v => { cal with digP6 := v.toInt16 }),
   (0x9a, fun cal v => { cal with digP7 := v.toInt16 }),
   (0x9c, fun cal v => { cal with digP8 := v.toInt16 }),
   (0x9e, fun cal v => { cal with digP9 := v.toInt16 })]

/-- A chain of `BMP280_read_register16` calls joined by `&&`. -/
def readRegisters (dev : Handle) :
    List (UInt8 × (Calibration → UInt16 → Calibration)) → Calibration → Fw (Bool × Calibration)
  | [], cal => return (true, cal)
  | (addr, store) :: regs, cal => do
    match ← readRegister16 dev addr with
    | some v => readRegisters dev regs (store cal v)
    | none => return (false, cal)

/-- `BMP280_read_calibration_data`. -/
def readCalibrationData (dev : Handle) : Fw (Bool × Calibration) :=
  readRegisters dev calibrationRegisters dev.cal

/-- `BMP280_read_hum_calibration_data`. `dig_H4` and `dig_H5` are stored only
when all six reads have succeeded. -/
def readHumCalibrationData (dev : Handle) (cal : Calibration) : Fw (Bool × Calibration) := do
  let some h1 ← readData dev 0xa1 1 | return (false, cal)
  let cal := { cal with digH1 := h1.getD 0 0 }
  let some h2 ← readRegister16 dev 0xe1 | return (false, cal)
  let cal := { cal with digH2 := h2.toInt16 }
  let some h3 ← readData dev 0xe3 1 | return (false, cal)
  let cal := { cal with digH3 := h3.getD 0 0 }
  let some h4 ← readRegister16 dev 0xe4 | return (false, cal)
  let some h5 ← readRegister16 dev 0xe5 | return (false, cal)
  let some h6 ← readData dev 0xe7 1 | return (false, cal)
  return (true,
    { cal with
      digH6 := (h6.getD 0 0).toInt8
      digH4 := ((h4 &&& 0x00ff) <<< 4 ||| (h4 &&& 0x0f00) >>> 8).toInt16
      digH5 := (h5 >>> 4).toInt16 })

/-! ## `BMP280_init` -/

/-- The loop that waits until the NVM data are copied; false when the driver is
found not READY. -/
def waitCopied (dev : Handle) : Nat → Fw Bool
  | 0 => .hang
  | fuel + 1 => do
    if (← ask .i2cState) ≠ I2cState.ready then
      return false
    match ← readData dev regStatus 1 with
    | some status => if status.getD 0 0 &&& 1 = 0 then return true else waitCopied dev fuel
    | none => waitCopied dev fuel

/-- The reads of both calibration functions, the second for a BME280 only. -/
def loadCalibration (dev : Handle) : Fw (Bool × Handle) := do
  let (ok, cal) ← readCalibrationData dev
  if !ok then
    return (false, { dev with cal := cal })
  if dev.id = bme280ChipId then
    let (ok, cal) ← readHumCalibrationData dev cal
    return (ok, { dev with cal := cal })
  return (true, { dev with cal := cal })

/-- The write of the control registers. -/
def writeControl (dev : Handle) : Fw Bool := do
  let params := dev.params
  let ctrl := params.oversamplingTemperature.code <<< 5 |||
    params.oversamplingPressure.code <<< 2 ||| params.mode.code
  if dev.id = bme280ChipId then
    -- only active after the write to `regCtrl`
    if ← writeRegister8 dev regCtrlHum params.oversamplingHumidity.code then
      return false
  return !(← writeRegister8 dev regCtrl ctrl)

/-- The last part of `BMP280_init`: configuration, mode, control. -/
def configure (dev : Handle) : Fw (Bool × Handle) := do
  let config := dev.params.standby.code <<< 5 ||| dev.params.filter.code <<< 2
  if ← writeRegister8 dev regConfig config then
    return (false, dev)
  -- the initial mode for forced is sleep
  let mode := if dev.params.mode = .forced then .sleep else dev.params.mode
  let dev := { dev with params := { dev.params with mode := mode } }
  let ok ← writeControl dev
  return (ok, dev)

/-- The body of `BMP280_init` after the address check. -/
def probe (fuel : Nat) (dev : Handle) : Fw (Bool × Handle) := do
  let some id ← readData dev regId 1 | return (false, dev)
  let dev := { dev with id := id.getD 0 0 }
  if dev.id ≠ bmp280ChipId ∧ dev.id ≠ bme280ChipId then
    return (false, dev)
  if ← writeRegister8 dev regReset resetValue then
    return (false, dev)
  if !(← waitCopied dev fuel) then
    return (false, dev)
  let (ok, dev) ← loadCalibration dev
  if !ok then
    return (false, dev)
  configure dev

/-- `BMP280_init`, always called with the handle's own parameters. -/
def init (fuel : Nat) (dev : Handle) : Fw (Bool × Handle) := do
  ask (.enter .bmp280Init)
  let (ok, dev) ←
    if dev.addr ≠ i2cAddress0 ∧ dev.addr ≠ i2cAddress1 then pure (false, dev) else probe fuel dev
  ask (.leave .bmp280Init ok)
  return (ok, dev)

/-! ## Measurements -/

/-- `BMP280_force_measurement`. -/
def forceMeasurement (dev : Handle) : Fw Bool := do
  let some rx ← readData dev regCtrl 1 | return false
  let ctrl := (rx.getD 0 0 &&& ~~~3) ||| Mode.forced.code
  return !(← writeRegister8 dev regCtrl ctrl)

/-- `BMP280_is_measuring`: false also when the status cannot be read. -/
def isMeasuring (dev : Handle) : Fw Bool := do
  let some rx ← readData dev regStatus 1 | return false
  return rx.getD 0 0 &&& 8 ≠ 0

/-- `>>` on a signed integer. -/
def asr (x : Int) (n : Nat) : Int := x >>> n

/-- `BMP280_compensate_temperature`: the temperature and `fine_temp`. -/
def compensateTemperature (cal : Calibration) (adcTemp : Int) : Int × Int :=
  let t1 : Int := cal.digT1.toNat
  let var1 := asr ((asr adcTemp 3 - t1 * 2) * cal.digT2.toInt) 11
  let var2 := asr (asr ((asr adcTemp 4 - t1) * (asr adcTemp 4 - t1)) 12 * cal.digT3.toInt) 14
  let fineTemp := var1 + var2
  (asr (fineTemp * 5 + 128) 8, fineTemp)

/-- The formula of `BMP280_compensate_pressure`. -/
def exactPressure (cal : Calibration) (adcPress fineTemp : Int) : Int :=
  let var1 := fineTemp - 128000
  let var2 := var1 * var1 * cal.digP6.toInt
  let var2 := var2 + var1 * cal.digP5.toInt * 2 ^ 17
  let var2 := var2 + cal.digP4.toInt * 2 ^ 35
  let var1 := asr (var1 * var1 * cal.digP3.toInt) 8 + var1 * cal.digP2.toInt * 2 ^ 12
  let var1 := asr ((2 ^ 47 + var1) * cal.digP1.toNat) 33
  if var1 = 0 then 0
  else
    let p := 1048576 - adcPress
    let p := ((p * 2 ^ 31 - var2) * 3125).tdiv var1
    let var1 := asr (cal.digP9.toInt * asr p 13 * asr p 13) 25
    let var2 := asr (cal.digP8.toInt * p) 19
    asr (p + var1 + var2) 8 + cal.digP7.toInt * 2 ^ 4

/-- `BMP280_compensate_pressure`; its `return` takes the 64-bit `p` modulo `2 ^ 32`. -/
def compensatePressure (cal : Calibration) (adcPress fineTemp : Int) : UInt32 :=
  UInt32.ofInt (exactPressure cal adcPress fineTemp)

/-- The formula of `BMP280_compensate_humidity`. -/
def exactHumidity (cal : Calibration) (adcHum fineTemp : Int) : Int :=
  let v := fineTemp - 76800
  let offset := adcHum * 2 ^ 14 - cal.digH4.toInt * 2 ^ 20 - cal.digH5.toInt * v
  let slope :=
    asr (asr (v * cal.digH6.toInt) 10 * (asr (v * cal.digH3.toNat) 11 + 32768)) 10 + 2097152
  let v := asr (offset + 16384) 15 * asr (slope * cal.digH2.toInt + 8192) 14
  let v := v - asr (asr (asr v 15 * asr v 15) 7 * cal.digH1.toNat) 4
  let v := if v < 0 then 0 else v
  let v := if v > 419430400 then 419430400 else v
  asr v 12

/-- `BMP280_compensate_humidity`. -/
def compensateHumidity (cal : Calibration) (adcHum fineTemp : Int) : UInt32 :=
  UInt32.ofInt (exactHumidity cal adcHum fineTemp)

/-- The results of `BMP280_read_fixed`. -/
structure Fixed where
  temperature : Int
  pressure : UInt32
  humidity : UInt32
  deriving DecidableEq

/-- `BMP280_read_fixed` with a place for the humidity, as `BMP280_read_float`
calls it for the thread. -/
def readFixed (dev : Handle) : Fw (Option Fixed) := do
  -- only the BME280 measures humidity
  let size := if dev.id = bme280ChipId then 8 else 6
  let some data ← readData dev regData size | return none
  let byte (i : Nat) : Nat := (data.getD i 0).toNat
  let adcPressure := byte 0 <<< 12 ||| byte 1 <<< 4 ||| byte 2 >>> 4
  let adcTemp := byte 3 <<< 12 ||| byte 4 <<< 4 ||| byte 5 >>> 4
  let (temperature, fineTemp) := compensateTemperature dev.cal adcTemp
  let pressure := compensatePressure dev.cal adcPressure fineTemp
  let humidity :=
    if dev.id = bme280ChipId then
      compensateHumidity dev.cal (byte 6 <<< 8 ||| byte 7 : Nat) fineTemp
    else 0
  return some ⟨temperature, pressure, humidity⟩

/-- The loop that waits for the end of the measurement; false when it has not
ended after two seconds. -/
def waitMeasured (dev : Handle) (start : UInt16) : Nat → Fw Bool
  | 0 => .hang
  | fuel + 1 => do
    if !(← isMeasuring dev) then
      return true
    let now ← ask .chVTGetSystemTime
    if timeIsInRange now start (start + 2000) then waitMeasured dev start fuel else return false

/-- `BMP280_read_float` before its divisions, which the thread's conversions
include. -/
def readFloat (fuel : Nat) (dev : Handle) : Fw (Option Fixed) := do
  if dev.params.mode = .sleep then
    if !(← forceMeasurement dev) then
      return none
    let start ← ask .chVTGetSystemTime
    ask (.chThdSleepMilliseconds 5)
    if !(← waitMeasured dev start fuel) then
      return none
  readFixed dev

end MeteoL053.Bmp280
