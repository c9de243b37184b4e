import MeteoL053.Bus.Drivers
import MeteoL053.Config.Registry
import MeteoL053.Config.Saved

/-!
The calls of the whole station: those of the radio, the bus and the sensor
threads, and what the threads beside them ask for (the ADC, messages between
threads, the terminal of the shell and the tables it shows).

`chMsgSend` queues the sender and suspends it until the receiver releases it;
here these are the calls `chMsgSend` and `chMsgSent`. The wait of a sensor
thread for a message is written out in the same way.
-/

namespace MeteoL053.Station

open CallTree Config Registry

/-- The conversion groups of `hw.c` that are in use. -/
inductive AdcGroup where
  | device1
  | rain
  deriving DecidableEq, Repr

/-- The input lines of the charger. -/
inductive InfoLine where
  | chrg
  | stdby
  deriving DecidableEq, Repr

/-- `valueFormatter_e`. -/
inductive Formatter where
  | none
  | by100
  | by100Plus100
  | bool
  deriving DecidableEq, Repr

inductive Call where
  | fw (c : MeteoL053.Call)
  | registry (c : Registry.Call)
  | adcAcquireBus
  | adcReleaseBus
  | adcStart
  | adcStop
  /-- the start of `adcConvert` -/
  | adcStartConversion (g : AdcGroup)
  /-- its end: the result and the sample in the buffer then -/
  | adcWait
  /-- `palSetLine` or `palClearLine` of the ML8511's `enableLine` -/
  | setMl8511Line (level : Bool)
  | palReadLine (l : InfoLine)
  /-- `chMsgSend`: the sender is queued -/
  | chMsgSend (s : Sensor) (msg : UInt32)
  /-- `chMsgSend`: the sender was released -/
  | chMsgSent (s : Sensor)
  /-- `chMsgWaitTimeout`: whether there is a sender -/
  | chMsgWait (timeout : UInt32)
  | chMsgGet
  | chMsgRelease
  /-- the `interval` field of the thread's own configuration -/
  | setInterval (n : UInt16)
  /-- `chBSemWaitTimeout(&as3935_bsem, ticks)` -/
  | as3935BSemWaitTimeout (ticks : Nat)
  /-- `streamRead` and `streamPut` on the terminal -/
  | streamRead
  | streamPut (c : UInt8)
  /-- `chprintf` on the terminal -/
  | print (text : String)
  /-- the line of a value in `cmd_values` -/
  | printValue (name : String) (f : Formatter) (v : UInt32)
  /-- the line of a capacitor in `As3935__thread_autoTune`; the kHz are of `khz` -/
  | printTune (i : UInt8) (count khz : UInt32) (time : UInt16)
  /-- `scheduleList[i]`, known by its thread -/
  | scheduleList (i : Fin scheduleListSize)
  /-- `*scheduleList[i]->interval` of that thread -/
  | interval (s : Sensor)
  /-- `appConfiguration.interval[i] = n` -/
  | setAppInterval (i : Fin scheduleListSize) (n : UInt16)
  /-- `EEPROM__write` of `appConfiguration`: up to its loop, byte `i`, after the loop -/
  | eepromUnlock
  | eepromProgram (i : Fin configSize)
  | eepromLock
  /-- `hwList[i]`, known by its thread, and the fields of its record -/
  | hwList (i : Fin 10)
  | hwStatus (d : Device)
  | hwValue (d : Device) (i : Nat)
  /-- `chCoreGetStatusX` and `chHeapStatus` -/
  | heapStatus
  /-- the registers of `cmd_sleep` and `__WFI` -/
  | waitForInterrupt
  deriving DecidableEq

abbrev Reply : Call → Type
  | .fw c => MeteoL053.Reply c
  | .registry c => Registry.Reply c
  | .adcWait => Msg × UInt16
  | .palReadLine _ => Bool
  | .chMsgWait _ => Bool
  | .chMsgGet => UInt32
  | .as3935BSemWaitTimeout _ => Bool
  | .streamRead => UInt8
  | .scheduleList _ => Option Sensor
  | .interval _ => UInt16
  | .hwList _ => Option Device
  | .hwStatus _ => HwStatus
  | .hwValue .. => UInt32
  | .heapStatus => UInt32 × UInt32 × UInt32 × UInt32
  | _ => Unit

/-- Code of the station. -/
abbrev Code := Prog Call Reply

/-- Make the call `c`. -/
abbrev ask (c : Call) : Code (Reply c) := Prog.perform c

/-- The wait of a sensor thread for a new interval: `chMsgWaitTimeout`, and for
a sender `chMsgGet`, the store and `chMsgRelease`. -/
def awaitInterval (timeout : UInt32) : Code (Option UInt32) := do
  if ← ask (.chMsgWait timeout) then
    let msg ← ask .chMsgGet
    ask (.setInterval msg.toUInt16)
    ask .chMsgRelease
    return some msg
  else
    return none

/-- The code behind a call of the thread of `d`. -/
def codeOf (d : Device) : (c : MeteoL053.Call) → Code (MeteoL053.Reply c)
  | .chMsgWaitTimeout timeout => awaitInterval timeout
  | .registerSchedule _ => do
    let _ ← ask (.registry (.post .schedule d))
  | .registerHw _ => do
    let _ ← ask (.registry (.post .hw d))
  | c => ask (.fw c)

/-- Code of the thread of `d`, with its bus operations expanded. -/
def lift {α : Type} (d : Device) (p : Fw α) : Code α := (Bus.expand p).inline (codeOf d)

/-- Code of the registry threads. -/
def liftRegistry {α : Type} (p : Registry.Code α) : Code α :=
  p.inline fun c => ask (.registry c)

end MeteoL053.Station
