import Mathlib.Data.Rat.Floor
import MeteoL053.Calls

/-!
The driver of the light sensor, `veml7700.c`. `result` and `lux` are `float` in
the source; the operations on them are a parameter. The `static` variables of the
driver are part of its state.
-/

namespace MeteoL053.Veml7700

open CallTree

/-! ## Arithmetic -/

/-- The operations on `float` that the driver and its thread use, with the values
of the literals of the source. -/
structure Arithmetic (ν : Type) where
  lit : ℚ → ν
  ofUInt32 : UInt32 → ν
  mul : ν → ν → ν
  add : ν → ν → ν
  lt : ν → ν → Bool
  toUInt32 : ν → UInt32

/-- The arithmetic without rounding. -/
def exact : Arithmetic ℚ where
  lit q := q
  ofUInt32 n := n.toNat
  mul := (· * ·)
  add := (· + ·)
  lt a b := decide (a < b)
  toUInt32 q := UInt32.ofNat ⌊q⌋.toNat

/-! ## Registers -/

/-- `VEML7700_ALS_GAIN_..`. -/
inductive Gain where
  | x1
  | x2
  | d8
  | d4
  deriving DecidableEq, Repr

def Gain.code : Gain → UInt32
  | x1 => 0x0
  | x2 => 0x1
  | d8 => 0x2
  | d4 => 0x3

/-- `VEML7700_ALS_INTEGRATION_25ms`. -/
def integration25ms : UInt32 := 0xC

/-- `VEML7700_ALS_PERSISTENCE_1`. -/
def persistence1 : UInt32 := 0x0

/-- `VEML7700_ALS_POWER_MODE_3`. -/
def powerMode3 : UInt32 := 0x2

/-- A flag that is not set. -/
def off : UInt32 := 0

/-- The words of the four registers for a gain. -/
def registerWords (gain : Gain) : Fin 4 → UInt32
  | 0 => gain.code <<< 11 ||| integration25ms <<< 6 ||| persistence1 <<< 4 ||| off <<< 1 ||| off <<< 0
  | 1 => 0x0000
  | 2 => 0xFFFF
  | 3 => powerMode3 <<< 1 ||| off <<< 0

/-- `VEML7700_COMMAND_ALS`. -/
def commandALS : UInt8 := 0x04

/-- The handle, and the static variables of `VEML7700_getALSLux` and
`VEML7700_scaleLux`. -/
structure Driver (ν : Type) where
  addr : UInt8
  lux : ν
  registerCache : Fin 4 → UInt32
  rawCounts : UInt32
  x1 : UInt8
  x2 : UInt8
  d8 : UInt8

/-- `VEML7700_init_default_params` on the memory the station starts with. -/
def initDefaultParams {ν : Type} (fl : Arithmetic ν) : Driver ν where
  addr := 0x10
  lux := fl.lit 0
  registerCache := registerWords .d8
  rawCounts := 0
  x1 := 0
  x2 := 1
  d8 := 0

section Scale

variable {ν : Type} (fl : Arithmetic ν) (d : Driver ν)

/-- `VEML7700_init_default_params_gain`. The argument is not used. -/
def initDefaultParamsGain (_alsGain : Gain) : Driver ν :=
  { d with registerCache := registerWords .d8 }

/-- `registerCache[0]`, the configuration register. -/
def Driver.config : UInt32 := d.registerCache ⟨0, Nat.zero_lt_succ 3⟩

/-- `VEML7700_getGain`. -/
def getGain : UInt8 := ((d.config &&& 0x1800) >>> 11).toUInt8

/-- `VEML7700_getIntegrationTime`. -/
def getIntegrationTime : UInt8 := ((d.config &&& 0x03C0) >>> 6).toUInt8

/-! ## The scale -/

/-- `factor1`, from the gain. -/
def factor1 (gain : UInt8) : ν :=
  if gain &&& 0x3 = 0x0 then fl.lit 1
  else if gain &&& 0x3 = 0x1 then fl.lit (1 / 2)
  else if gain &&& 0x3 = 0x2 then fl.lit 8
  else if gain &&& 0x3 = 0x3 then fl.lit 4
  else fl.lit 1

/-- `factor2`, from the integration time. -/
def factor2 (time : UInt8) : ν :=
  if time = 0xC then fl.lit (2304 / 10000)
  else if time = 0x8 then fl.lit (1152 / 10000)
  else if time = 0x0 then fl.lit (576 / 10000)
  else if time = 0x1 then fl.lit (288 / 10000)
  else if time = 0x2 then fl.lit (144 / 10000)
  else if time = 0x3 then fl.lit (72 / 10000)
  else fl.lit (2304 / 10000)

/-- `result` for a count. -/
def result (rawCounts : UInt32) : ν :=
  fl.mul (fl.mul (fl.ofUInt32 rawCounts) (factor1 fl (getGain d)))
    (factor2 fl (getIntegrationTime d))

/-- The correction by Horner's method. -/
def correct (lux : ν) : ν :=
  fl.mul lux (fl.add (fl.lit (10023 / 10000))
    (fl.mul lux (fl.add (fl.lit (81488 / 10 ^ 9))
      (fl.mul lux (fl.add (fl.lit (-93924 / 10 ^ 13))
        (fl.mul lux (fl.lit (60135 / 10 ^ 17))))))))

end Scale

/-! ## The code -/

section Code

variable {ν : Type} (fl : Arithmetic ν) (d : Driver ν)

/-- `VEML7700_I2C__sing_reg_write`. -/
def singRegWrite (regAdd : UInt8) (regData : UInt32) : Fw Bool :=
  ask (.busOp (.veml7700Write d.addr regAdd regData))

/-- `VEML7700_I2C__sing_reg_read`: the result and `*data` if it was written. -/
def singRegRead (regAdd : UInt8) : Fw (Bool × Option UInt32) :=
  ask (.busOp (.veml7700Read d.addr regAdd))

/-- The loop of `VEML7700_init` over the registers. -/
def writeRegisters : List (Fin 4) → Fw Bool
  | [] => return true
  | i :: is => do
    if !(← singRegWrite d (UInt8.ofNat i) (d.registerCache i)) then
      return false
    writeRegisters is

/-- `VEML7700_init`. -/
def init : Fw Bool := do
  if !(← writeRegisters d (List.finRange 4)) then
    return false
  ask (.chThdSleepMilliseconds 10)
  return true

/-- `VEML7700_getALS` into the static `raw_counts`. -/
def getALS : Fw (Bool × Driver ν) := do
  let (ok, data) ← singRegRead d commandALS
  return (ok, { d with rawCounts := data.getD d.rawCounts })

/-- A switch of the range: the registers for the gain, and the flags when all
four were written. -/
def switchRange (gain : Gain) (x1 x2 d8 : UInt8) : Fw (Bool × Driver ν) := do
  let d := initDefaultParamsGain d gain
  if !(← init d) then
    return (false, d)
  return (true, { d with x1, x2, d8 })

/-- The part of `VEML7700_scaleLux` that selects the range. -/
def selectRange (result : ν) : Fw (Bool × Driver ν) :=
  if fl.lt (fl.lit 1880) result ∧ fl.lt result (fl.lit 3771) then
    if d.x1 = 1 then switchRange d .x1 0 1 1 else return (true, d)
  else if fl.lt (fl.lit 3770) result then
    if d.d8 = 1 then switchRange d .d8 1 1 0 else return (true, d)
  else
    if d.x2 = 1 then switchRange d .x2 1 0 1 else return (true, d)

/-- `VEML7700_scaleLux`. -/
def scaleLux (rawCounts : UInt32) : Fw (Bool × Driver ν) := do
  let result := result fl d rawCounts
  let (ok, d) ← selectRange fl d result
  if !ok then
    return (false, d)
  return (true, { d with lux := correct fl result })

/-- `VEML7700_getALSLux`. -/
def getALSLux : Fw (Bool × Driver ν) := do
  let (ok, d) ← getALS d
  if !ok then
    return (false, d)
  scaleLux fl d d.rawCounts

end Code

end MeteoL053.Veml7700
