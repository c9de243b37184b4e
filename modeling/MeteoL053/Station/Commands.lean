import MeteoL053.As3935.Thread
import MeteoL053.Config.Schedule
import MeteoL053.Shell
import MeteoL053.Station.Calls

/-!
The shell thread of `shell.c` with the commands of `shellCmd.c`: every key is
read and edited by itself, and a complete line runs its command.

The dialogue with the radio that `HC12__reconfigure` copies to the terminal is
left out. An argument of `send` that does not fit a buffer hangs here; what it
does to the memory is in `Shell.lean`.
-/

namespace MeteoL053.Station

open CallTree Config Registry

/-! ## `As3935__thread_autoTune` -/

namespace Tuning

variable (dev : UInt8)

/-- The lightning sensor, whose functions the shell calls here. -/
abbrev device : Device := .sensor .as3935

/-- One capacitor: `interruptCount` is read for the count and for the kHz. -/
def tuneStep (i : UInt8) : Code Unit := do
  ask (.fw (.setInterruptCount 0))
  let _ ← lift device (As3935.tuneAntenna dev i)
  ask (.fw (.chThdSleepMilliseconds 10))
  let startTime ← ask (.fw .chVTGetSystemTime)
  lift device As3935.enableInterrupt
  ask (.fw (.chThdSleepMilliseconds 2000))
  lift device As3935.disableInterrupt
  let count ← ask (.fw .interruptCount)
  let khz ← ask (.fw .interruptCount)
  let now ← ask (.fw .chVTGetSystemTime)
  ask (.printTune i count khz (now - startTime))
  ask (.print "\r\n")
  ask (.fw (.chThdSleepMilliseconds 2000))

/-- The loop over the capacitors. -/
def tuneSteps : List UInt8 → Code Unit
  | [] => return ()
  | i :: is => do
    tuneStep dev i
    tuneSteps is

/-- The capacitors of the loop. -/
def capacitors : List UInt8 := (List.range 15).map UInt8.ofNat

/-- `As3935__thread_autoTune`, whose result is not used. -/
def autoTune : Code Unit := do
  if !(← ask (.as3935BSemWaitTimeout 1000)) then
    return ()
  lift device As3935.disableInterrupt
  tuneSteps dev capacitors
  let _ ← lift device (As3935.manualCal dev 0 As3935.locationOutdoors 1)
  ask (.fw .as3935BSemSignal)

end Tuning

/-! ## The commands -/

namespace Shell

/-- The blocks of the shell: its start, before the prompt, with a line so far, and
inside `HC12__reconfigure`. -/
inductive Label where
  | start
  | prompt
  | key (line : List UInt8)
  | radio (b : Block)

inductive Command where
  | tune
  | sleep
  | hc12set
  | values
  | send
  | hw
  | schedule
  | save
  | mem
  deriving DecidableEq

/-- `shellCommands`; `tune` is there with the lightning sensor only. -/
def shellCommands (F : Features) : List (String × Command) :=
  (if F .as3935 then [("tune", .tune)] else []) ++
    [("sleep", .sleep), ("hc12set", .hc12set), ("values", .values), ("send", .send), ("hw", .hw),
      ("schedule", .schedule), ("save", .save), ("mem", .mem)]

/-- A C string as text. -/
def text (bytes : List UInt8) : String := String.ofList (bytes.map fun b => Char.ofNat b.toNat)

/-- The search of `cmdexec`: the first command of that name. -/
def cmdexec (table : List (String × Command)) (name : String) : Option Command :=
  (table.find? fun entry => entry.1 = name).map Prod.snd

/-- `shellUsage`. -/
def shellUsage (message : String) : Code Unit := ask (.print ("Usage: " ++ message ++ "\r\n"))

/-- `list_commands`. -/
def listCommands : List (String × Command) → Code Unit
  | [] => return ()
  | (name, _) :: rest => do
    ask (.print (name ++ " "))
    listCommands rest

/-- `cmd_mem`. -/
def cmdMem (argv : List String) : Code Unit := do
  if argv.length > 0 then
    shellUsage "mem"
  else
    let (core, n, total, largest) ← ask .heapStatus
    ask (.print ("core free memory : " ++ toString core.toNat ++ " bytes\r\n"))
    ask (.print ("heap fragments   : " ++ toString n.toNat ++ "\r\n"))
    ask (.print ("heap free total  : " ++ toString total.toNat ++ " bytes\r\n"))
    ask (.print ("heap free largest: " ++ toString largest.toNat ++ " bytes\r\n"))

/-- `cmd_sleep`. -/
def cmdSleep (argv : List String) : Code Unit := do
  if argv.length > 0 then
    ask (.print "Usage: sleep\r\n")
  else
    ask (.print "Going to sleep. Type any character to wake up.\r\n")
    ask (.fw (.chThdSleepMilliseconds 200))
    ask .waitForInterrupt

/-- `HW_STATUS_LIST`. -/
def statusText : HwStatus → String
  | .unknown => "UNKNOWN"
  | .ok => "OK"
  | .error => "ERROR"

/-- The `type` of a record, as `HW_TYPE_LIST` names it. -/
def typeText : Device → String
  | .hc12 => "TRANSMITTER"
  | .sensor _ => "SENSOR"

def deviceName : Device → String
  | .hc12 => "HC12"
  | .sensor s => s.name

/-- The loop of `cmd_hw`. -/
def hwLines : List (Fin 10) → Code Unit
  | [] => return ()
  | i :: is => do
    if let some d ← ask (.hwList i) then
      let status ← ask (.hwStatus d)
      ask (.print (padLeft 6 (toString d.hwId) ++ "  " ++ padLeft 11 (typeText d) ++ "  " ++
        padLeft 10 (deviceName d) ++ "  " ++ padLeft 10 (statusText status) ++ "\r\n"))
    hwLines is

/-- `cmd_hw`. -/
def cmdHw : Code Unit := hwLines (List.finRange 10)

/-- The named values of a sensor, with their formatters. -/
def valueNames : Sensor → List (String × Formatter)
  | .bmp280 => [("Tempeature", .by100Plus100), ("Humidity", .none), ("Pressure", .none)]
  | .bh1750 => [("Lux", .none)]
  | .veml7700 => [("Lux", .none)]
  | .ml8511 => [("UV", .by100)]
  | .rain => [("Rain status", .bool)]
  | .wind => [("Wind speed", .by100)]
  | .as3935 => [("Lighting", .none)]
  | .power =>
    [("Voltage SOLAR", .by100), ("Voltage BATT", .by100), ("Chrg", .bool), ("Stdby", .bool)]

/-- The inner loop of `cmd_values`, from the value `i` on. -/
def sensorValues (s : Sensor) (i : Nat) : List (String × Formatter) → Code Unit
  | [] => return ()
  | (name, f) :: rest => do
    let v ← ask (.hwValue (.sensor s) i)
    ask (.printValue name f v)
    sensorValues s (i + 1) rest

/-- The outer loop of `cmd_values`. -/
def valueLines : List (Fin 10) → Code Unit
  | [] => return ()
  | i :: is => do
    if let some (.sensor s) ← ask (.hwList i) then
      sensorValues s 0 (valueNames s)
    valueLines is

/-- `cmd_values`. -/
def cmdValues : Code Unit := valueLines (List.finRange 10)

/-- The assignment of `cmd_sch` to an id in range. The list is read for the test
and again for the thread; an entry that was gone by then would be undefined. -/
def setEntry (id : Fin scheduleListSize) (intervalI : UInt8) : Code Unit := do
  let entry ← ask (.scheduleList id)
  if entry.isSome && intervalI > 0 then
    match ← ask (.scheduleList id) with
    | some s =>
      ask (.chMsgSend s intervalI.toUInt32)
      ask (.chMsgSent s)
      ask (.setAppInterval id intervalI.toUInt16)
    | none => .hang

/-- The assignment of `cmd_sch`. -/
def setSchedule (id intervalI : UInt8) : Code Unit := do
  if id > 0 then
    if h : id.toNat < scheduleListSize then
      setEntry ⟨id.toNat, h⟩ intervalI

/-- The table `cmd_sch` ends with. -/
def scheduleLines : List (Fin scheduleListSize) → Code Unit
  | [] => return ()
  | i :: is => do
    if let some s ← ask (.scheduleList i) then
      let interval ← ask (.interval s)
      ask (.print (padLeft 6 (toString s.hwId.val) ++ "  " ++ padLeft 11 s.name ++ "  " ++
        padLeft 6 (toString interval.toNat) ++ " seconds\r\n"))
    scheduleLines is

/-- `cmd_sch`. -/
def cmdSch (argv : List String) : Code Unit := do
  match argv with
  | [id, interval] => setSchedule (UInt8.ofInt (atoi id)) (UInt8.ofInt (atoi interval))
  | [] => pure ()
  | _ => ask (.print "wrong params\r\n")
  scheduleLines (List.finRange scheduleListSize)

/-- The loop of `writeRegistersToEeprom`. -/
def programBytes : List (Fin configSize) → Code Unit
  | [] => return ()
  | i :: is => do
    ask (.eepromProgram i)
    programBytes is

/-- `cmd_save`. Other threads run between the bytes. -/
def cmdSave : Code Unit := do
  ask .eepromUnlock
  programBytes (List.finRange configSize)
  ask .eepromLock
  ask (.print "OK\r\n")

/-- Code of the threads below in the shell; `cmd_hc12Set` shows that
`HC12__reconfigure` failed. -/
def codeOf : (c : MeteoL053.Call) → Code (MeteoL053.Reply c)
  | .leave .reconfigure false => do
    ask (.fw (.leave .reconfigure false))
    ask (.print "ERROR\r\n")
  | c => ask (.fw c)

/-- `cmd_send`. -/
def cmdSend : List (List UInt8) → Code Unit
  | [arg] => do
    if ← (Stream.cmdSend arg).inline codeOf then
      ask (.print "OK")
    ask (.print "\r\n")
  | _ => shellUsage "param missing"

/-- `hc12cfg` of `main`. -/
def hc12cfg : Hc12Cfg where
  channel := 1
  baud := 9600
  modeFU := 1
  power := 4

/-- A block of `HC12__reconfigure`, after which the shell is in the next block or
back at its prompt. -/
def radio (p : Fw Block) : Code Label := do
  match ← p.inline codeOf with
  | .drain cfg => return .radio (.drain cfg)
  | .reply cfg cmd timeout index => return .radio (.reply cfg cmd timeout index)
  | _ => return .prompt

section Thread

variable (F : Features) (dev : UInt8)

/-- A command with its arguments. -/
def command (argv : List (List UInt8)) : Command → Code Label
  | .tune => do
    Tuning.autoTune dev
    ask (.print "\r\n")
    return .prompt
  | .sleep => do
    cmdSleep (argv.map text)
    return .prompt
  | .hc12set => radio (Hc12.reconfigure hc12cfg)
  | .values => do
    cmdValues
    return .prompt
  | .send => do
    cmdSend argv
    return .prompt
  | .hw => do
    cmdHw
    return .prompt
  | .schedule => do
    cmdSch (argv.map text)
    return .prompt
  | .save => do
    cmdSave
    return .prompt
  | .mem => do
    cmdMem (argv.map text)
    return .prompt

/-- A command line. The table of the configuration is `shellCommands` again, so
an unknown command is searched twice in the same table. -/
def dispatch (cmd : List UInt8) (argv : List (List UInt8)) : Code Label := do
  if text cmd = "help" then
    if argv.length > 0 then
      shellUsage "help"
    else
      ask (.print "Commands: help ")
      listCommands (shellCommands F)
      listCommands (shellCommands F)
      ask (.print "\r\n")
    return .prompt
  match cmdexec (shellCommands F) (text cmd) with
  | some c => command dev argv c
  | none =>
    match cmdexec (shellCommands F) (text cmd) with
    | some c => command dev argv c
    | none =>
      ask (.print (text cmd))
      ask (.print " ?\r\n")
      return .prompt

/-- The rest of a turn of `shellThread` with a complete line. -/
def execute (line : List UInt8) : Code Label := do
  let (cmd, saveptr) := Shell.parseArguments (some line)
  match cmd, Shell.collectArguments saveptr Shell.shellMaxArguments with
  | _, none =>
    ask (.print "too many arguments\r\n")
    return .prompt
  | none, some _ => return .prompt
  | some cmd, some argv => dispatch F dev cmd argv

/-- One key of `shellGetLine`, with the text before `p` in `line`. -/
def key (line : List UInt8) : Code Label := do
  let c ← ask .streamRead
  if c = 8 ∨ c = 127 then
    if line ≠ [] then
      ask (.streamPut 0x08)
      ask (.streamPut 0x20)
      ask (.streamPut 0x08)
      return .key line.dropLast
    return .key line
  else if c = 0x0D then
    ask (.print "\r\n")
    execute F dev line
  else if c < 0x20 then
    return .key line
  else if line.length < Shell.shellMaxLineLength - 1 then
    ask (.streamPut c)
    return .key (line ++ [c])
  else
    return .key line

/-- `shellThread` up to its loop. -/
def start : Code Label := do
  ask (.print "\r\n")
  ask (.print "ChibiOS/RT Shell\r\n")
  return .prompt

/-- The prompt. -/
def prompt : Code Label := do
  ask (.print "ch> ")
  return .key []

/-- The code of a block. -/
def code : Label → Code Label
  | .start => start
  | .prompt => prompt
  | .key line => key F dev line
  | .radio (.drain cfg) => radio (Hc12.drain cfg)
  | .radio (.reply cfg cmd timeout index) => radio (Hc12.reply cfg cmd timeout index)
  | .radio _ => prompt

end Thread

end Shell

end MeteoL053.Station
