import MeteoL053.Lib.Prog
import MeteoL053.Stream.Pools

/-!
The calls of the firmware: what its threads and drivers ask of ChibiOS, of the
HAL and of the state they share, and how each is answered. Thread and driver
code is written as programs over these calls; each system the code is studied
in says what the calls it is about do.

`enter` and `leave` mark where a function of the source is called and where it
returns; they have no effect on the station.
-/

namespace MeteoL053

open CallTree

/-- `msg_t` results of the kernel and the HAL. -/
inductive Msg where
  | ok
  | timeout
  | reset
  deriving DecidableEq, Repr

/-- `hc12StatusEnum`. -/
inductive Hc12Status where
  | nok
  | sleep
  | ok
  deriving DecidableEq, Repr

/-- `enum hwStatus_e`. -/
inductive HwStatus where
  | unknown
  | ok
  | error
  deriving DecidableEq, Repr

/-- `i2cstate_t` of the shared driver `I2CD1`. -/
inductive I2cState where
  | stop
  | ready
  | activeTx
  | activeRx
  | locked
  deriving DecidableEq, Repr

/-- The GPIO lines the modelled code drives. -/
inductive Line where
  | hc12Enable
  | hc12Set
  | bmp280Enable
  | wind
  | as3935Interrupt
  deriving DecidableEq, Repr

/-- `hc12cfg_t`. -/
structure Hc12Cfg where
  channel : UInt8
  baud : UInt16
  modeFU : UInt8
  power : UInt8
  deriving DecidableEq, Repr

/-- A reading of a sensor thread: its command byte and at most four arguments,
the most a thread passes to `MSP__createMspFrame`. -/
structure Reading where
  cmd : UInt8
  args : List UInt32
  args_length : args.length ≤ 4
  deriving DecidableEq

/-- A text for the shell command `send` that fits a buffer with its final zero. -/
structure Text where
  chars : List UInt8
  chars_length : chars.length < streamMessageSize
  chars_ne_zero : ∀ c ∈ chars, c ≠ 0
  deriving DecidableEq

/-- What a producer has to send. -/
inductive Item where
  | reading (r : Reading)
  | text (t : Text)
  deriving DecidableEq

/-- The operations of the I2C drivers, with the arguments of the source; `dev`
is the address in the device handle. -/
inductive BusOp where
  | bmp280ReadRegister16 (dev addr : UInt8)
  | bmp280ReadData (dev addr : UInt8) (len : Nat)
  | bmp280WriteRegister8 (dev addr value : UInt8)
  | veml7700Write (dev regAdd : UInt8) (regData : UInt32)
  | veml7700Read (dev regAdd : UInt8)
  | bh1750SendCommand (dev cmd : UInt8)
  | bh1750ReadDev (dev : UInt8)
  | adsWriteRegister (dev reg : UInt8) (value : UInt16)
  | adsReadRegister (dev reg : UInt8)
  | as3935Read (dev regAdd : UInt8)
  | as3935Write (dev regAdd dataMask regData : UInt8)
  | as3935Write16 (dev : UInt8) (data : UInt16)
  deriving DecidableEq

/-- What an operation returns: data or nothing after a failure. The results of
`BMP280_write_register8` are the other way round, true means failed. -/
abbrev BusOp.Result : BusOp → Type
  | bmp280ReadRegister16 .. => Option UInt16
  | bmp280ReadData .. => Option (List UInt8)
  | bmp280WriteRegister8 .. => Bool
  | veml7700Write .. => Bool
  | veml7700Read .. => Bool × Option UInt32
  | bh1750SendCommand .. => Msg
  | bh1750ReadDev .. => Msg × Option (List UInt8)
  | adsWriteRegister .. => Bool
  | adsReadRegister .. => Bool × Option UInt16
  | as3935Read .. => UInt8
  | as3935Write .. => Bool
  | as3935Write16 .. => Bool

instance (op : BusOp) : DecidableEq op.Result := by
  cases op <;> exact inferInstance

/-- The functions whose calls and returns are marked. -/
inductive Fn where
  | checkStatus
  | reconfigure
  | goToSleep
  | wakeUp
  | progMode
  | normalMode
  | tunrOffRadio
  | tunrOnRadio
  | bmp280Init
  deriving DecidableEq, Repr

inductive Call where
  /-- `chPoolAlloc(&streamMemPool)` -/
  | chPoolAlloc
  /-- `chPoolFree(&streamMemPool, o)` -/
  | chPoolFree (o : Obj)
  /-- `chMBPostTimeout(&streamMail, o, TIME_IMMEDIATE)` -/
  | chMBPost (o : Obj)
  /-- `chMBFetchTimeout(&streamMail, &o, OSAL_MS2I(300))` -/
  | chMBFetch
  /-- the contents of a pool object -/
  | load (o : Obj)
  | store (o : Obj) (v : PoolStreamObject)
  /-- the next thing a producer has to send -/
  | nextItem
  /-- `chBSemWait(&hc12State.uart_bsem)` -/
  | chBSemWait
  /-- `chBSemWaitTimeout(&hc12State.uart_bsem, ticks)` -/
  | chBSemWaitTimeout (ticks : Nat)
  | chBSemSignal
  | palSetLine (l : Line)
  | palClearLine (l : Line)
  | palReadLine (l : Line)
  /-- `hc12State.status` -/
  | status
  | setStatus (s : Hc12Status)
  /-- `chnWriteTimeout` on `sc_channel` -/
  | chnWrite (bs : List UInt8)
  /-- `chprintf` on `sc_channel`: an AT command -/
  | chprintf (text : String)
  /-- `chnReadTimeout` of at most `n` bytes into `hc12State.rxBuff[i]` -/
  | chnRead (i n : Nat)
  /-- `hc12State.rxBuff[i]` -/
  | rxBuff (i : Nat)
  /-- the configuration a shell user asks for -/
  | nextCfg
  | chThdSleepMilliseconds (ms : Nat)
  | chVTGetSystemTime
  /-- the thread's own `hw_t.status` as the shell shows it -/
  | setHwStatus (s : HwStatus)
  | enter (f : Fn)
  | leave (f : Fn) (result : Bool)
  | i2cAcquireBus
  | i2cReleaseBus
  /-- `I2CD1.state` -/
  | i2cState
  | i2cStop
  /-- `i2cStart` with the configuration of `i2c1_init` -/
  | i2cStart
  /-- the start of `i2cMasterTransmitTimeout`: send `tx`, then read `rxBytes` bytes -/
  | i2cMasterTransmit (addr : UInt8) (tx : List UInt8) (rxBytes : Nat)
  /-- the start of `i2cMasterReceiveTimeout` -/
  | i2cMasterReceive (addr : UInt8) (rxBytes : Nat)
  /-- the end of a transfer: its result and what is in the receive buffer then -/
  | i2cWait
  /-- the next driver operation a thread has to do -/
  | nextBusOp
  /-- a driver operation returns -/
  | opReturn
  /-- a driver operation as one call -/
  | busOp (op : BusOp)
  /-- the operation `op` has returned `r` to its caller -/
  | opDone (op : BusOp) (r : op.Result)
  /-- `chMBPostTimeout(&registerScheduleMail, ..)` for the thread with this `hwId` -/
  | registerSchedule (hwId : UInt8)
  /-- `chMBPostTimeout(&registerHwMail, ..)` -/
  | registerHw (hwId : UInt8)
  /-- `hw_t.values[i].value` of the thread -/
  | setHwValue (i : Nat) (v : UInt32)
  /-- `chMsgWaitTimeout`, with `chMsgGet` and `chMsgRelease` when there is a message -/
  | chMsgWaitTimeout (timeout : UInt32)
  | chSysLock
  | chSysUnlock
  | palEnableLineEvent (l : Line)
  | palSetLineMode (l : Line)
  | palSetLineCallback (l : Line)
  /-- the global `windSpeedCount` -/
  | windSpeedCount
  | setWindSpeedCount (n : UInt32)
  /-- `(uint32_t)((1200.0 * count) / (float)time) * 100` in floating point -/
  | windSpeed (count time : UInt32)
  /-- a pulse of the anemometer: its interrupt runs to the end -/
  | windPulse
  /-- the system clock advances by one -/
  | tick
  /-- `chBSemWait(&as3935_bsem)` and `chBSemSignal(&as3935_bsem)` -/
  | as3935BSemWait
  | as3935BSemSignal
  /-- the global `interruptCount` -/
  | interruptCount
  | setInterruptCount (n : UInt32)
  /-- an interrupt of the lightning sensor: its callback runs to the end -/
  | as3935IRQ
  deriving DecidableEq

/-- The answer to a call. -/
abbrev Reply : Call → Type
  | .chPoolAlloc => Option Obj
  | .chMBPost _ => Bool
  | .chMBFetch => Option Obj
  | .load _ => PoolStreamObject
  | .nextItem => Item
  | .chBSemWaitTimeout _ => Bool
  | .palReadLine _ => Bool
  | .status => Hc12Status
  | .chnRead _ _ => List UInt8
  | .rxBuff _ => UInt8
  | .nextCfg => Hc12Cfg
  | .chVTGetSystemTime => UInt16
  | .i2cState => I2cState
  | .i2cWait => Msg × List UInt8
  | .nextBusOp => BusOp
  | .busOp op => op.Result
  | .chMsgWaitTimeout _ => Option UInt32
  | .windSpeedCount => UInt32
  | .windSpeed _ _ => UInt32
  | .interruptCount => UInt32
  | _ => Unit

/-- Some answer to an operation. -/
def BusOp.anyResult : (op : BusOp) → op.Result
  | bmp280ReadRegister16 .. => none
  | bmp280ReadData .. => none
  | bmp280WriteRegister8 .. => false
  | veml7700Write .. => false
  | veml7700Read .. => (false, none)
  | bh1750SendCommand .. => .ok
  | bh1750ReadDev .. => (.ok, none)
  | adsWriteRegister .. => false
  | adsReadRegister .. => (false, none)
  | as3935Read .. => (0 : UInt8)
  | as3935Write .. => false
  | as3935Write16 .. => false

/-- Some answer to each call, where it does not matter. -/
def anyReply (c : Call) : Reply c := by
  cases c <;> first
    | exact ()
    | exact none
    | exact false
    | exact []
    | exact (0 : UInt8)
    | exact (0 : UInt16)
    | exact (0 : UInt32)
    | exact Hc12Status.nok
    | exact I2cState.ready
    | exact (Msg.ok, [])
    | exact BusOp.bh1750ReadDev 0
    | exact Hc12Cfg.mk 0 0 0 0
    | exact Item.reading ⟨0, [], Nat.zero_le 4⟩
    | exact blank
    | exact BusOp.anyResult _

/-- `chTimeIsInRangeX` on the 16-bit system time. -/
def timeIsInRange (time start stop : UInt16) : Bool := time - start < stop - start

/-- Code of the firmware. -/
abbrev Fw := Prog Call Reply

/-- Make the call `c`. -/
abbrev ask (c : Call) : Fw (Reply c) := Prog.perform c

/-- A computation that leaves the defined behaviour of the source hangs. -/
def orHang {α : Type} : Option α → Fw α
  | some a => .ret a
  | none => .hang

/-- The body of a function, with its call and its return marked. -/
def inFn (f : Fn) (body : Fw Bool) : Fw Bool := do
  ask (.enter f)
  let result ← body
  ask (.leave f result)
  return result

theorem inFn_wp {Φ : Type} {M : Monitor Call Reply Φ} {f : Fn} {body : Fw Bool} {φ : Φ}
    {Q : Bool → Φ → Prop} (h : M.allows φ (.enter f))
    (hb : body.wp M (M.next φ (.enter f) ()) fun result φ' =>
      M.allows φ' (.leave f result) ∧ Q result (M.next φ' (.leave f result) ())) :
    (inFn f body).wp M φ Q := by
  apply Prog.wp_step h
  intro _ _
  apply Prog.wp_bind_of _ _ _ hb
  rintro result φ' ⟨hl, hQ⟩
  exact Prog.wp_step hl fun _ _ => hQ

end MeteoL053
