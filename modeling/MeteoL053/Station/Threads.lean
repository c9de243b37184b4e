import MeteoL053.Bh1750
import MeteoL053.Bmp280.Thread
import MeteoL053.Station.Analog
import MeteoL053.Station.Commands
import MeteoL053.Station.Power
import MeteoL053.Veml7700.Thread
import MeteoL053.Wind

/-!
All threads that `main.c` starts, with the two interrupts, as one system of
blocks. Which sensors are there is a choice of `appCfg.h`.

`Ordinary` calls are those that neither take nor release a lock, register
nothing and wait for no message; most of the code of the sensors makes no other.
Which calls a function makes is said once, here or beside the function; the
modules that follow take from it what they need.
-/

namespace MeteoL053.Station

open CallTree Config Registry

/-- The threads of the station and its interrupts. -/
inductive Thread where
  | hc12
  | shell
  | sensor (s : Sensor)
  | registry (m : Mail)
  /-- the interrupt of the wind sensor -/
  | anemometer
  /-- the interrupt of the lightning sensor -/
  | lightning
  deriving DecidableEq

/-- Where a thread continues. -/
inductive Label where
  | off
  | hc12 (b : Block)
  | shell (l : Shell.Label)
  | bmp280 (l : Bmp280.Label)
  | bh1750 (l : Bh1750.Label)
  | veml7700 (l : Veml7700.Label UInt32)
  | ml8511 (l : Ml8511.Label)
  | rain (l : Rain.Label)
  | wind (l : Wind.Label)
  | as3935 (l : As3935.Label)
  | power (l : Power.Label)
  | registry
  | anemometer
  | lightning

/-- What the firmware is built with: the sensors, the lines and addresses of
`main.c`, and the conversions in float arithmetic, for the light sensor on the 32
bits of a `float`. Loops of the drivers without a bound have `fuel`. -/
structure Setup where
  features : Features
  fuel : Nat
  bmp280Line : Option Line
  bmp280 : Bmp280.Conversion
  veml7700 : Veml7700.Arithmetic UInt32
  ml8511Line : Bool
  uv : UInt16 → Option UInt32
  power : Power.Conversion
  as3935 : UInt8

/-- The stream thread. -/
def hc12 : Block → Code Block
  | .start => do
    ask (.fw (.setHwStatus .unknown))
    let _ ← ask (.registry (.post .hw .hc12))
    let _ ← lift .hc12 Hc12.normalMode
    return .ping
  | .ping => lift .hc12 Hc12.ping
  | _ => lift .hc12 Hc12.transmit

/-- A sensor thread. -/
def sensorCode (x : Setup) : Sensor → Label → Code Label
  | .bmp280, .bmp280 l => do
    return .bmp280 (← lift (.sensor .bmp280) (Bmp280.code x.fuel x.bmp280Line x.bmp280 l))
  | .bh1750, .bh1750 l => do return .bh1750 (← lift (.sensor .bh1750) (Bh1750.code l))
  | .veml7700, .veml7700 l => do
    return .veml7700 (← lift (.sensor .veml7700) (Veml7700.code x.veml7700 l))
  | .ml8511, .ml8511 l => do return .ml8511 (← Ml8511.code x.uv l)
  | .rain, .rain l => do return .rain (← Rain.code l)
  | .wind, .wind (.start interval) => do
    return .wind (← lift (.sensor .wind) (Wind.start interval))
  | .wind, .wind (.loop lastRunTime interval) => do
    return .wind (← lift (.sensor .wind) (Wind.loop lastRunTime interval))
  | .as3935, .as3935 (.start interval) => do
    return .as3935 (← lift (.sensor .as3935) (As3935.start x.as3935 interval))
  | .as3935, .as3935 (.loop status interval) => do
    return .as3935 (← lift (.sensor .as3935) (As3935.loop x.as3935 status interval))
  | .power, .power l => do return .power (← Power.code x.fuel x.power l)
  | _, l => .ret l

def body (x : Setup) : Thread → Label → Code Label
  | .hc12, .hc12 b => do return .hc12 (← hc12 b)
  | .shell, .shell l => do return .shell (← Shell.code x.features x.as3935 l)
  | .sensor s, l => sensorCode x s l
  | .registry m, .registry => do
    let _ ← liftRegistry (registerThread m)
    return .registry
  | .anemometer, .anemometer => do
    ask (.fw .windPulse)
    return .anemometer
  | .lightning, .lightning => do
    ask (.fw .as3935IRQ)
    return .lightning
  | _, l => .ret l

/-- Where a sensor thread starts. -/
def sensorStart (x : Setup) (interval : UInt16) : Sensor → Label
  | .bmp280 => .bmp280 (.startUp Bmp280.initialHandle interval)
  | .bh1750 => .bh1750 (.start (Bh1750.initDefaultParams true) interval)
  | .veml7700 => .veml7700 (.start (Veml7700.initDefaultParams x.veml7700) interval)
  | .ml8511 => .ml8511 (.start ⟨x.ml8511Line, false⟩ interval)
  | .rain => .rain (.start interval)
  | .wind => .wind (.start interval)
  | .as3935 => .as3935 (.start interval)
  | .power => .power (.start interval)

/-- Where the threads start with the configuration `cfg`. -/
def startLabel (x : Setup) (cfg : AppConfiguration) : Thread → Label
  | .hc12 => .hc12 .start
  | .shell => .shell .start
  | .sensor s =>
    if x.features.starts (.sensor s) then sensorStart x (startInterval cfg s) s else .off
  | .registry _ => .registry
  | .anemometer => .anemometer
  | .lightning => .lightning

/-! ## Ordinary code -/

/-- A call that is not about locks, registration or messages. -/
def Ordinary : MeteoL053.Call → Prop
  | .chBSemWait | .chBSemWaitTimeout _ | .chBSemSignal => False
  | .as3935BSemWait | .as3935BSemSignal => False
  | .i2cAcquireBus | .i2cReleaseBus => False
  | .chMsgWaitTimeout _ | .registerSchedule _ | .registerHw _ => False
  | .setInterruptCount _ | .as3935IRQ | .windPulse => False
  | _ => True

theorem ordinary_of_streamCall (c : MeteoL053.Call) (h : Stream.StreamCall c) : Ordinary c := by
  cases c <;> first | exact h.elim | trivial

/-- An ordinary call, or one by which a sensor thread registers or waits. -/
def Routine : MeteoL053.Call → Prop
  | .chMsgWaitTimeout _ | .registerSchedule _ | .registerHw _ => True
  | c => Ordinary c

theorem Ordinary.routine {c : MeteoL053.Call} (h : Ordinary c) : Routine c := by
  cases c <;> first | exact h.elim | trivial

/-- Ordinary code as part of a routine block. -/
theorem routine_bind {α β : Type} {p : Fw α} {f : α → Fw β} (hp : p.All Ordinary)
    (hf : ∀ a, (f a).All Routine) : (p >>= f).All Routine :=
  Prog.all_bind (hp.mono fun _ => Ordinary.routine) hf

theorem sendReading_ordinary (cmd : UInt8) (args : List UInt32) :
    (Stream.sendReading cmd args).All Ordinary :=
  (Stream.sendReading_all cmd args).mono ordinary_of_streamCall

section Radio

theorem ordinary_of_modeCall (c : MeteoL053.Call) (h : Hc12.ModeCall c) : Ordinary c := by
  cases c <;> first | exact h.elim | trivial

theorem normalMode_ordinary : Hc12.normalMode.All Ordinary :=
  Hc12.normalMode_all.mono ordinary_of_modeCall

theorem progMode_ordinary : Hc12.progMode.All Ordinary :=
  Hc12.progMode_all.mono ordinary_of_modeCall

theorem goToSleep_ordinary : Hc12.goToSleep.All Ordinary :=
  Hc12.goToSleep_all.mono ordinary_of_modeCall

theorem wakeUp_ordinary : Hc12.wakeUp.All Ordinary :=
  Hc12.wakeUp_all.mono ordinary_of_modeCall

end Radio

section Bmp280

open MeteoL053.Bmp280

variable (dev : Handle) (fuel : Nat)

theorem readRegisters_ordinary (regs : List (UInt8 × (Calibration → UInt16 → Calibration)))
    (cal : Calibration) : (readRegisters dev regs cal).All Ordinary := by
  induction regs generalizing cal with
  | nil => trivial
  | cons reg regs ih =>
    obtain ⟨addr, store⟩ := reg
    refine Prog.all_step trivial fun r => ?_
    cases r with
    | none => trivial
    | some v => exact ih (store cal v)

/-- The read of a register: the code goes on when it succeeds. -/
theorem register_ordinary {α β : Type} {p : Fw (Option β)} {f : Option β → Fw α}
    (hp : p.All Ordinary) (hnone : (f none).All Ordinary)
    (hsome : ∀ v, (f (some v)).All Ordinary) : (p >>= f).All Ordinary := by
  apply Prog.all_bind hp
  intro r
  cases r with
  | none => exact hnone
  | some v => exact hsome v

theorem readHumCalibrationData_ordinary (cal : Calibration) :
    (readHumCalibrationData dev cal).All Ordinary := by
  have hread : ∀ op, (MeteoL053.ask (.busOp op)).All Ordinary := fun _ => ⟨trivial, fun _ => trivial⟩
  refine register_ordinary (hread _) trivial fun h1 => ?_
  refine register_ordinary (hread _) trivial fun h2 => ?_
  refine register_ordinary (hread _) trivial fun h3 => ?_
  refine register_ordinary (hread _) trivial fun h4 => ?_
  refine register_ordinary (hread _) trivial fun h5 => ?_
  exact register_ordinary (hread _) trivial fun h6 => trivial

theorem waitCopied_ordinary : (waitCopied dev fuel).All Ordinary := by
  induction fuel with
  | zero => trivial
  | succ fuel ih =>
    refine Prog.all_step trivial fun state => ?_
    split
    · trivial
    · refine Prog.all_step trivial fun status => ?_
      cases status with
      | none => exact ih
      | some status =>
        dsimp only
        split
        · trivial
        · exact ih

theorem loadCalibration_ordinary : (loadCalibration dev).All Ordinary := by
  apply Prog.all_bind (readRegisters_ordinary dev _ _)
  rintro ⟨ok, cal⟩
  cases ok with
  | false => trivial
  | true =>
    simp only [Bool.not_true, Bool.false_eq_true, if_false]
    split
    · exact Prog.all_bind (readHumCalibrationData_ordinary dev cal) fun _ => trivial
    · trivial

theorem writeControl_ordinary : (writeControl dev).All Ordinary := by
  unfold writeControl
  dsimp only
  split
  · refine Prog.all_step trivial fun failed => ?_
    cases failed with
    | false => exact ⟨trivial, fun _ => trivial⟩
    | true => trivial
  · exact ⟨trivial, fun _ => trivial⟩

theorem configure_ordinary : (configure dev).All Ordinary := by
  refine Prog.all_step trivial fun failed => ?_
  cases failed with
  | true => trivial
  | false => exact Prog.all_bind (writeControl_ordinary _) fun _ => trivial

theorem probe_ordinary : (probe fuel dev).All Ordinary := by
  refine Prog.all_step trivial fun id => ?_
  cases id with
  | none => trivial
  | some id =>
    dsimp only
    split
    · trivial
    · refine Prog.all_step trivial fun failed => ?_
      cases failed with
      | true => trivial
      | false =>
        apply Prog.all_bind (waitCopied_ordinary _ fuel)
        intro copied
        cases copied with
        | false => trivial
        | true =>
          apply Prog.all_bind (loadCalibration_ordinary _)
          rintro ⟨ok, dev'⟩
          cases ok with
          | false => trivial
          | true => exact configure_ordinary dev'

theorem bmp280Init_ordinary : (init fuel dev).All Ordinary := by
  apply Prog.all_step trivial
  intro _
  split
  · exact ⟨trivial, fun _ => trivial⟩
  · exact Prog.all_bind (probe_ordinary dev fuel) fun _ => ⟨trivial, fun _ => trivial⟩

theorem waitMeasured_ordinary (start : UInt16) : (waitMeasured dev start fuel).All Ordinary := by
  induction fuel with
  | zero => trivial
  | succ fuel ih =>
    have hmeasuring : (isMeasuring dev).All Ordinary := by
      refine Prog.all_step trivial fun rx => ?_
      cases rx <;> trivial
    apply Prog.all_bind hmeasuring
    intro measuring
    cases measuring with
    | false => trivial
    | true =>
      refine Prog.all_step trivial fun now => ?_
      cases timeIsInRange now start (start + 2000) with
      | true => exact ih
      | false => trivial

theorem readFixed_ordinary : (readFixed dev).All Ordinary := by
  refine Prog.all_step trivial fun data => ?_
  cases data <;> trivial

theorem readFloat_ordinary : (readFloat fuel dev).All Ordinary := by
  have hforce : (forceMeasurement dev).All Ordinary := by
    refine Prog.all_step trivial fun rx => ?_
    cases rx with
    | none => trivial
    | some rx => exact ⟨trivial, fun _ => trivial⟩
  unfold readFloat
  split
  · apply Prog.all_bind hforce
    intro forced
    cases forced with
    | false => trivial
    | true =>
      refine Prog.all_step trivial fun start => Prog.all_step trivial fun _ => ?_
      apply Prog.all_bind (waitMeasured_ordinary dev fuel start)
      intro measured
      cases measured with
      | false => trivial
      | true => exact readFixed_ordinary dev
  · exact readFixed_ordinary dev

variable (line : Option Line) (conv : Conversion)

theorem deviceStart_ordinary : (deviceStart fuel line dev).All Ordinary := by
  cases line with
  | none => trivial
  | some line =>
    refine Prog.all_step trivial fun level => ?_
    cases level with
    | true => trivial
    | false =>
      refine Prog.all_step trivial fun _ => Prog.all_step trivial fun _ => ?_
      exact Prog.all_bind (bmp280Init_ordinary dev fuel) fun _ => ⟨trivial, fun _ => trivial⟩

theorem deviceStop_ordinary : (deviceStop line).All Ordinary := by
  cases line with
  | none => trivial
  | some line =>
    refine Prog.all_step trivial fun level => ?_
    cases level with
    | false => trivial
    | true => exact ⟨trivial, fun _ => trivial⟩

theorem bmp280Report_ordinary (reading : Option Fixed) : (report conv reading).All Ordinary := by
  cases reading with
  | none => exact ⟨trivial, fun _ => trivial⟩
  | some x =>
    iterate 4 refine Prog.all_step trivial fun _ => ?_
    exact Prog.all_bind (sendReading_ordinary _ _) fun _ => trivial

theorem bmp280TryReconfigure_ordinary (status : HwStatus) :
    (tryReconfigure fuel status dev).All Ordinary := by
  unfold tryReconfigure
  split
  · exact Prog.all_bind (bmp280Init_ordinary dev fuel) fun _ => trivial
  · trivial

theorem bmp280_routine (l : Bmp280.Label) : (Bmp280.code fuel line conv l).All Routine := by
  cases l with
  | startUp dev interval =>
    iterate 2 refine Prog.all_step trivial fun _ => ?_
    apply routine_bind (deviceStart_ordinary dev fuel line)
    intro dev'
    apply routine_bind (bmp280Init_ordinary dev' fuel)
    intro r
    iterate 2 refine Prog.all_step trivial fun _ => ?_
    exact routine_bind (deviceStop_ordinary line) fun _ => ⟨trivial, fun _ => trivial⟩
  | loop dev status interval =>
    apply routine_bind (deviceStart_ordinary dev fuel line)
    intro dev'
    apply routine_bind (bmp280TryReconfigure_ordinary dev' fuel status)
    intro dev''
    apply routine_bind (readFloat_ordinary dev'' fuel)
    intro reading
    apply routine_bind (bmp280Report_ordinary conv reading)
    intro status'
    exact routine_bind (deviceStop_ordinary line) fun _ => ⟨trivial, fun _ => trivial⟩

end Bmp280

section Veml7700

open MeteoL053.Veml7700

variable {ν : Type} (fl : Arithmetic ν) (d : Driver ν)

theorem writeRegisters_ordinary (is : List (Fin 4)) : (writeRegisters d is).All Ordinary := by
  induction is with
  | nil => trivial
  | cons i is ih =>
    refine Prog.all_step trivial fun ok => ?_
    cases ok with
    | false => trivial
    | true => exact ih

theorem veml7700Init_ordinary : (init d).All Ordinary := by
  apply Prog.all_bind (writeRegisters_ordinary d _)
  intro ok
  cases ok with
  | false => trivial
  | true => exact ⟨trivial, fun _ => trivial⟩

theorem veml7700TryReconfigure_ordinary (status : HwStatus) :
    (tryReconfigure d status).All Ordinary := by
  unfold tryReconfigure
  split
  · exact Prog.all_bind (veml7700Init_ordinary d) fun _ => ⟨trivial, fun _ => trivial⟩
  · trivial

theorem switchRange_ordinary (gain : Gain) (x1 x2 d8 : UInt8) :
    (switchRange d gain x1 x2 d8).All Ordinary := by
  apply Prog.all_bind (veml7700Init_ordinary _)
  intro ok
  cases ok <;> trivial

theorem selectRange_ordinary (result : ν) : (selectRange fl d result).All Ordinary := by
  unfold selectRange
  split
  · split
    · exact switchRange_ordinary d ..
    · trivial
  · split
    · split
      · exact switchRange_ordinary d ..
      · trivial
    · split
      · exact switchRange_ordinary d ..
      · trivial

theorem getALSLux_ordinary : (getALSLux fl d).All Ordinary := by
  have hread : (getALS d).All Ordinary := ⟨trivial, fun _ => trivial⟩
  apply Prog.all_bind hread
  rintro ⟨ok, d'⟩
  cases ok with
  | false => trivial
  | true =>
    apply Prog.all_bind (selectRange_ordinary fl _ _)
    rintro ⟨ok, d''⟩
    cases ok <;> trivial

theorem veml7700Report_ordinary (ok : Bool) (lux : ν) : (report fl ok lux).All Ordinary := by
  cases ok with
  | false => exact ⟨trivial, fun _ => trivial⟩
  | true =>
    iterate 4 refine Prog.all_step trivial fun _ => ?_
    exact Prog.all_bind (sendReading_ordinary _ _) fun _ => trivial

theorem veml7700_routine (l : Veml7700.Label ν) : (Veml7700.code fl l).All Routine := by
  cases l with
  | start d interval =>
    iterate 2 refine Prog.all_step trivial fun _ => ?_
    apply routine_bind (veml7700Init_ordinary d)
    intro ok
    iterate 2 refine Prog.all_step trivial fun _ => ?_
    exact ⟨trivial, fun _ => trivial⟩
  | loop d status interval =>
    apply routine_bind (veml7700TryReconfigure_ordinary d status)
    intro _
    apply routine_bind (getALSLux_ordinary fl d)
    rintro ⟨ok, d'⟩
    exact routine_bind (veml7700Report_ordinary fl ok d'.lux) fun _ => ⟨trivial, fun _ => trivial⟩

end Veml7700

section Bh1750

open MeteoL053.Bh1750

variable (dev : Handle)

theorem bh1750Init_ordinary : (init dev).All Ordinary := by
  iterate 3 refine Prog.all_step trivial fun _ => ?_
  exact ⟨trivial, fun _ => trivial⟩

theorem bh1750TryReconfigure_ordinary (status : HwStatus) :
    (tryReconfigure dev status).All Ordinary := by
  unfold tryReconfigure
  split
  · exact bh1750Init_ordinary dev
  · trivial

theorem getLumen_ordinary : (getLumen dev).All Ordinary := by
  refine Prog.all_step trivial fun r => ?_
  dsimp only
  split <;> trivial

theorem bh1750Report_ordinary (ok : Bool) : (report ok dev).All Ordinary := by
  cases ok with
  | false => exact ⟨trivial, fun _ => trivial⟩
  | true =>
    iterate 4 refine Prog.all_step trivial fun _ => ?_
    exact Prog.all_bind (sendReading_ordinary _ _) fun _ => trivial

theorem bh1750_routine (l : Bh1750.Label) : (Bh1750.code l).All Routine := by
  cases l with
  | start dev interval =>
    iterate 3 refine Prog.all_step trivial fun _ => ?_
    apply routine_bind (bh1750Init_ordinary dev)
    intro _
    iterate 2 refine Prog.all_step trivial fun _ => ?_
    trivial
  | loop dev status interval =>
    apply routine_bind (bh1750TryReconfigure_ordinary dev status)
    intro _
    apply routine_bind (getLumen_ordinary dev)
    rintro ⟨ok, dev'⟩
    exact routine_bind (bh1750Report_ordinary dev' ok) fun _ => ⟨trivial, fun _ => trivial⟩

end Bh1750

section Power

open MeteoL053.Ads1x15

variable (fuel : Nat) (dev : Ads1x15.Device)

theorem repeatUntil_ordinary {L α : Type} {turn : L → Fw (L ⊕ α)}
    (h : ∀ l, (turn l).All Ordinary) (l : L) : (repeatUntil turn fuel l).All Ordinary := by
  induction fuel generalizing l with
  | zero => trivial
  | succ fuel ih =>
    apply Prog.all_bind (h l)
    rintro (l' | a)
    · exact ih l'
    · trivial

theorem pollTurn_ordinary : (pollTurn dev).All Ordinary := by
  have hbusy : (isBusy dev).All Ordinary := ⟨trivial, fun _ => trivial⟩
  apply Prog.all_bind hbusy
  rintro ⟨busy, dev'⟩
  cases busy with
  | false => trivial
  | true => exact ⟨trivial, fun _ => trivial⟩

theorem getValue_ordinary : (getValue dev).All Ordinary := ⟨trivial, fun _ => trivial⟩

theorem waitAndGet_ordinary (start stop : UInt16) :
    (waitAndGet fuel dev start stop).All Ordinary := by
  refine Prog.all_step trivial fun now => ?_
  cases timeIsInRange now start stop with
  | false => trivial
  | true => exact Prog.all_bind (repeatUntil_ordinary fuel pollTurn_ordinary dev) getValue_ordinary

theorem readADCPriv_ordinary (readmode : UInt16) :
    (readADCPriv fuel dev readmode).All Ordinary := by
  have hrequest : (requestADCPriv dev readmode).All Ordinary := ⟨trivial, fun _ => trivial⟩
  apply Prog.all_bind hrequest
  rintro ⟨ok, dev'⟩
  cases ok with
  | false => trivial
  | true =>
    refine Prog.all_step trivial fun start => ?_
    dsimp only
    split
    · exact waitAndGet_ordinary fuel dev' _ _
    · exact getValue_ordinary dev'

theorem adsInit_ordinary : (init fuel dev).All Ordinary :=
  Prog.all_bind (readADCPriv_ordinary fuel _ _) fun _ => trivial

theorem powerStart_routine (interval : UInt16) : (Power.start fuel interval).All Routine := by
  iterate 2 refine Prog.all_step trivial fun _ => ?_
  apply routine_bind (adsInit_ordinary fuel _)
  intro r
  iterate 2 refine Prog.all_step trivial fun _ => ?_
  trivial

theorem powerTryReconfigure_ordinary (v : Power.Vars) :
    (Power.tryReconfigure fuel v).All Ordinary := by
  unfold Power.tryReconfigure
  split
  · exact Prog.all_bind (adsInit_ordinary fuel _) fun _ => trivial
  · trivial

theorem readVoltages_ordinary (v : Power.Vars) : (Power.readVoltages fuel v).All Ordinary := by
  apply Prog.all_bind (readADCPriv_ordinary fuel _ _)
  rintro ⟨ok, batt, dev'⟩
  cases ok with
  | false => trivial
  | true => exact Prog.all_bind (readADCPriv_ordinary fuel _ _) fun _ => trivial

end Power

theorem ml8511Report_ordinary (v : Option UInt32) : (Ml8511.report v).All Ordinary := by
  cases v with
  | none => exact ⟨trivial, fun _ => trivial⟩
  | some v =>
    iterate 4 refine Prog.all_step trivial fun _ => ?_
    exact sendReading_ordinary _ _

theorem rainReport_ordinary (msg : Msg) (v : UInt32) : (Rain.report msg v).All Ordinary := by
  unfold Rain.report
  split
  · iterate 4 refine Prog.all_step trivial fun _ => ?_
    exact sendReading_ordinary _ _
  · exact ⟨trivial, fun _ => trivial⟩

theorem windSample_ordinary (lastRunTime : UInt16) : (Wind.sample lastRunTime).All Ordinary := by
  iterate 7 refine Prog.all_step trivial fun _ => ?_
  exact ⟨trivial, fun _ => trivial⟩

theorem windStart_routine (interval : UInt16) : (Wind.start interval).All Routine := by
  iterate 5 refine Prog.all_step trivial fun _ => ?_
  exact ⟨trivial, fun _ => trivial⟩

theorem windLoop_routine (lastRunTime interval : UInt16) :
    (Wind.loop lastRunTime interval).All Routine := by
  have hrest : (Wind.sample lastRunTime >>= fun lastRunTime => do
      let msg ← MeteoL053.ask (.chMsgWaitTimeout (waitTimeout interval))
      return Wind.Label.loop lastRunTime (nextInterval interval msg)).All Routine :=
    routine_bind (windSample_ordinary lastRunTime) fun _ => ⟨trivial, fun _ => trivial⟩
  refine Prog.all_step trivial fun count => ?_
  dsimp only
  split
  · exact Prog.all_step trivial fun _ => hrest
  · exact hrest

/-! ## Code without waits -/

/-- Not a wait for a message and no registration. -/
def Waitless : MeteoL053.Call → Prop
  | .chMsgWaitTimeout _ | .registerSchedule _ | .registerHw _ => False
  | _ => True

theorem Ordinary.waitless {c : MeteoL053.Call} (h : Ordinary c) : Waitless c := by
  cases c <;> first | exact h.elim | trivial

theorem waitless_of_busCall (c : MeteoL053.Call) (h : Bus.BusCall c) : Waitless c := by
  cases c <;> first | exact h.elim | trivial

theorem waitless_of_radioCall (c : MeteoL053.Call) (h : Hc12.RadioCall c) : Waitless c := by
  cases c <;> first | exact h.elim | trivial

theorem waitless_of_stepCall (c : MeteoL053.Call) (h : As3935.StepCall c) : Waitless c := by
  cases c <;> first | exact h.elim | trivial

theorem waitless_of_lineCall (c : MeteoL053.Call) (h : As3935.LineCall c) : Waitless c := by
  cases c <;> first | exact h.elim | trivial

/-- A call that is in the code of a thread as it stands. -/
def Direct : Call → Prop
  | .fw _ => True
  | _ => False

theorem lift_direct {α : Type} (d : Device) {p : Fw α} (hp : p.All Waitless) :
    (lift d p).All Direct := by
  have hexpand : (Bus.expand p).All Waitless :=
    Bus.expand_all hp waitless_of_busCall fun _ _ => trivial
  refine hexpand.inline fun c hc => ?_
  cases c <;> first | exact hc.elim | exact ⟨trivial, fun _ => trivial⟩

/-! ## Code of the shell -/

/-- A call that is neither about locks nor about messages, and waits for nothing
outside the station. -/
def Still : Call → Prop
  | .fw c => Ordinary c
  | .registry (.fetch _) => False
  | .adcAcquireBus | .adcReleaseBus | .as3935BSemWaitTimeout _ => False
  | .chMsgSend .. | .chMsgSent _ | .chMsgWait _ | .chMsgGet | .chMsgRelease => False
  | .setInterval _ => False
  | .streamRead | .waitForInterrupt => False
  | _ => True

/-- A call of a command that shows something or sends a text. -/
def Showing : Call → Prop
  | .print _ | .printValue .. | .hwList _ | .hwStatus _ | .hwValue .. | .heapStatus => True
  | .fw c => Stream.StreamCall c
  | _ => False

/-- A call of `cmd_sch` or `cmd_save` beside the message to the thread, or of
another command that shows something. -/
def Local : Call → Prop
  | .scheduleList _ | .interval _ | .eepromUnlock | .eepromProgram _ | .eepromLock => True
  | c => Showing c

/-- A call of `cmd_sleep`. -/
def SleepCall : Call → Prop
  | .print _ | .fw (.chThdSleepMilliseconds _) | .waitForInterrupt => True
  | _ => False

/-- A call of `As3935__thread_autoTune`. -/
def TuneCall : Call → Prop
  | .fw _ | .as3935BSemWaitTimeout _ | .print _ | .printTune .. => True
  | _ => False

theorem Showing.local {c : Call} (h : Showing c) : Local c := by
  cases c <;> first | exact h.elim | exact h

theorem Local.still {c : Call} (h : Local c) : Still c := by
  cases c with
  | fw c => exact ordinary_of_streamCall c h
  | _ => first | exact h.elim | trivial

theorem tune_of_direct {c : Call} (h : Direct c) : TuneCall c := by
  cases c <;> first | exact h.elim | trivial

namespace Tuning

variable (dev : UInt8)

/-- A function of the driver as part of `autoTune`. -/
theorem tune_bind {α β : Type} {p : Fw α} {f : α → Code β} (hp : p.All Waitless)
    (hf : ∀ a, (f a).All TuneCall) : (lift device p >>= f).All TuneCall :=
  Prog.all_bind ((lift_direct device hp).mono fun _ => tune_of_direct) hf

theorem tuneStep_all (i : UInt8) : (tuneStep dev i).All TuneCall := by
  have hantenna := (As3935.Procedure.code_all dev (.tuneAntenna i)).mono waitless_of_stepCall
  have henable := As3935.enableInterrupt_all.mono waitless_of_lineCall
  refine Prog.all_step trivial fun _ => tune_bind hantenna fun _ => ?_
  refine Prog.all_step trivial fun _ => Prog.all_step trivial fun startTime => ?_
  refine tune_bind henable fun _ => Prog.all_step trivial fun _ => ?_
  iterate 5 refine Prog.all_step trivial fun _ => ?_
  exact ⟨trivial, fun _ => trivial⟩

theorem tuneSteps_all (is : List UInt8) : (tuneSteps dev is).All TuneCall := by
  induction is with
  | nil => trivial
  | cons i is ih => exact Prog.all_bind (tuneStep_all dev i) fun _ => ih

theorem autoTune_all : (autoTune dev).All TuneCall := by
  have hcal := (As3935.Procedure.code_all dev (.manualCal 0 As3935.locationOutdoors 1)).mono
    waitless_of_stepCall
  refine Prog.all_step trivial fun ok => ?_
  cases ok with
  | false => trivial
  | true =>
    refine tune_bind trivial fun _ => Prog.all_bind (tuneSteps_all dev capacitors) fun _ => ?_
    exact tune_bind hcal fun _ => ⟨trivial, fun _ => trivial⟩

end Tuning

namespace Shell

theorem listCommands_showing (table : List (String × Command)) : (listCommands table).All Showing := by
  induction table with
  | nil => trivial
  | cons entry rest ih => exact Prog.all_step trivial fun _ => ih

theorem cmdMem_showing (argv : List String) : (cmdMem argv).All Showing := by
  unfold cmdMem
  split
  · exact ⟨trivial, fun _ => trivial⟩
  · iterate 4 refine Prog.all_step trivial fun _ => ?_
    exact ⟨trivial, fun _ => trivial⟩

theorem hwLines_showing (is : List (Fin 10)) : (hwLines is).All Showing := by
  induction is with
  | nil => trivial
  | cons i is ih =>
    refine Prog.all_step trivial fun d => ?_
    cases d with
    | none => exact ih
    | some d => exact Prog.all_step trivial fun _ => Prog.all_step trivial fun _ => ih

theorem sensorValues_showing (s : Sensor) (i : Nat) (names : List (String × Formatter)) :
    (sensorValues s i names).All Showing := by
  induction names generalizing i with
  | nil => trivial
  | cons entry rest ih =>
    exact Prog.all_step trivial fun _ => Prog.all_step trivial fun _ => ih (i + 1)

theorem valueLines_showing (is : List (Fin 10)) : (valueLines is).All Showing := by
  induction is with
  | nil => trivial
  | cons i is ih =>
    refine Prog.all_step trivial fun d => ?_
    match d with
    | none => exact ih
    | some .hc12 => exact ih
    | some (.sensor s) => exact Prog.all_bind (sensorValues_showing s 0 _) fun _ => ih

theorem cmdSend_showing (argv : List (List UInt8)) : (cmdSend argv).All Showing := by
  match argv with
  | [arg] =>
    have hsend : ((Stream.cmdSend arg).inline codeOf).All Showing := by
      refine (Stream.cmdSend_all arg).inline fun c hc => ?_
      cases c <;> first | exact hc.elim | exact ⟨trivial, fun _ => trivial⟩
    apply Prog.all_bind hsend
    intro posted
    cases posted with
    | false => exact ⟨trivial, fun _ => trivial⟩
    | true => exact Prog.all_step trivial fun _ => ⟨trivial, fun _ => trivial⟩
  | [] => exact ⟨trivial, fun _ => trivial⟩
  | _ :: _ :: _ => exact ⟨trivial, fun _ => trivial⟩

theorem scheduleLines_local (is : List (Fin scheduleListSize)) : (scheduleLines is).All Local := by
  induction is with
  | nil => trivial
  | cons i is ih =>
    refine Prog.all_step trivial fun s => ?_
    cases s with
    | none => exact ih
    | some s => exact Prog.all_step trivial fun _ => Prog.all_step trivial fun _ => ih

theorem programBytes_local (is : List (Fin configSize)) : (programBytes is).All Local := by
  induction is with
  | nil => trivial
  | cons i is ih => exact Prog.all_step trivial fun _ => ih

theorem cmdSave_local : cmdSave.All Local := by
  refine Prog.all_step trivial fun _ => Prog.all_bind (programBytes_local _) fun _ => ?_
  exact Prog.all_step trivial fun _ => ⟨trivial, fun _ => trivial⟩

theorem cmdSleep_all (argv : List String) : (cmdSleep argv).All SleepCall := by
  unfold cmdSleep
  split
  · exact ⟨trivial, fun _ => trivial⟩
  · iterate 2 refine Prog.all_step trivial fun _ => ?_
    exact ⟨trivial, fun _ => trivial⟩

end Shell

/-! ## Monitors that do not mind -/

/-- A monitor that does not mind the calls in `P`. -/
structure Keeps {Φ : Type} (M : Monitor Call Reply Φ) (φ : Φ) (P : Call → Prop) : Prop where
  hangs : M.hangs φ
  calls : ∀ c, P c → M.allows φ c ∧ ∀ r, M.answers φ c r → M.next φ c r = φ

section Keeps

variable {Φ α : Type} {M : Monitor Call Reply Φ} {φ : Φ} {P : Call → Prop}

theorem Keeps.follows {p : Code α} (h : Keeps M φ P) (hp : p.All P) :
    p.wp M φ fun _ φ' => φ' = φ :=
  hp.wp h.calls h.hangs

theorem Keeps.step {c : Call} {f : Reply c → Code α} {Q : α → Φ → Prop} (h : Keeps M φ P)
    (hc : P c) (hf : ∀ r, (f r).wp M φ Q) : (ask c >>= f).wp M φ Q := by
  refine Prog.wp_step (h.calls c hc).1 fun r hr => ?_
  rw [(h.calls c hc).2 r hr]
  exact hf r

end Keeps

end MeteoL053.Station
