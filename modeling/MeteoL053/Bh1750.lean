import MeteoL053.Config.Intervals
import MeteoL053.Stream.System

/-!
The light sensor of `bh1750.c` and its thread `bh1750Thread.c`. `float` is
binary32 with the operations of the core library.
-/

namespace MeteoL053.Bh1750

open CallTree Config

/-! ## The driver -/

def noGroundAddr : UInt8 := 0x5C
def groundAddr : UInt8 := 0x23

def cmdPowerOn : UInt8 := 0x01
def cmdReset : UInt8 := 0x07
def cmdHResMode : UInt8 := 0x10

/-- `BH1750_HandleTypedef`; the buffers are filled anew for each transfer. -/
structure Handle where
  address : UInt8
  value : UInt16

/-- `BH1750_init_default_params`. -/
def initDefaultParams (addrGrounded : Bool) : Handle where
  address := if addrGrounded then groundAddr else noGroundAddr
  value := 0

/-- `BH1750_send_command`. -/
def sendCommand (dev : Handle) (cmd : UInt8) : Fw Msg :=
  ask (.busOp (.bh1750SendCommand dev.address cmd))

/-- `BH1750_read_dev`. -/
def readDev (dev : Handle) : Fw (Msg × Option (List UInt8)) :=
  ask (.busOp (.bh1750ReadDev dev.address))

/-- `BH1750_init`. What the commands return is not used. -/
def init (dev : Handle) : Fw Unit := do
  let _ ← sendCommand dev cmdPowerOn
  let _ ← sendCommand dev cmdReset
  let _ ← sendCommand dev cmdHResMode
  ask (.chThdSleepMilliseconds 300)

/-- The word in `bufferRx`. -/
def rawValue (bufferRx : List UInt8) : UInt16 :=
  (bufferRx.getD 0 0).toUInt16 <<< 8 ||| (bufferRx.getD 1 0).toUInt16

/-- `(uint16_t)((float)value / 1.2f)`. -/
def scale (value : UInt16) : UInt16 := (value.toFloat32 / 1.2).toUInt16

/-- `BH1750_convert`. -/
def convert (dev : Handle) (bufferRx : List UInt8) : Handle :=
  { dev with value := scale (rawValue bufferRx) }

/-- `BH1750_get_lumen`. -/
def getLumen (dev : Handle) : Fw (Bool × Handle) := do
  let (msg, bufferRx) ← readDev dev
  if msg = .ok then
    return (true, convert dev (bufferRx.getD []))
  return (false, dev)

/-! ## The thread -/

/-- `BH1750_HW_ID`. -/
def hwId : UInt8 := 2

/-- The blocks of the thread, with its variables. -/
inductive Label where
  | start (dev : Handle) (interval : UInt16)
  | loop (dev : Handle) (status : HwStatus) (interval : UInt16)

/-- The thread up to its loop. -/
def start (dev : Handle) (interval : UInt16) : Fw Label := do
  ask (.registerSchedule hwId)
  ask (.chThdSleepMilliseconds 1000)
  ask (.setHwStatus .unknown)
  init dev
  ask (.registerHw hwId)
  ask (.chThdSleepMilliseconds 1000)
  return .loop dev .unknown interval

/-- The repeated `BH1750_init` of the loop. -/
def tryReconfigure (dev : Handle) (status : HwStatus) : Fw Unit := do
  if status = .error then
    init dev

/-- What the loop does with the result of `BH1750_get_lumen`: the new status. -/
def report (ok : Bool) (dev : Handle) : Fw HwStatus := do
  if ok then
    ask .chSysLock
    ask (.setHwValue 0 dev.value.toUInt32)
    ask (.setHwStatus .ok)
    ask .chSysUnlock
    Stream.sendReading hwId [dev.value.toUInt32]
    return .ok
  else
    ask (.setHwStatus .error)
    return .error

/-- One turn of the loop. -/
def loop (dev : Handle) (status : HwStatus) (interval : UInt16) : Fw Label := do
  tryReconfigure dev status
  let (ok, dev) ← getLumen dev
  let status ← report ok dev
  let msg ← ask (.chMsgWaitTimeout (waitTimeout interval))
  return .loop dev status (nextInterval interval msg)

/-- The code of a block. -/
def code : Label → Fw Label
  | .start dev interval => start dev interval
  | .loop dev status interval => loop dev status interval

end MeteoL053.Bh1750
