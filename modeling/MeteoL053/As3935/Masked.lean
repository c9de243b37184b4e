import MeteoL053.As3935
import MeteoL053.Bus.Attached

/-!
Masked writes to the lightning sensor over a bus that fails. A failed read gives
0xFF, which `AS3935_I2C__sing_reg_write` takes for the contents of the register,
so a write that follows it sets every bit outside its mask.

`AS3935_PowerUp`, `AS3935_ManualCal` and the other functions of several writes are
lists of steps that end at the first failure. `AS3935_I2C__write16` sends the low
byte first, so the direct command arrives as a write of 0x3D to address 0x96.
-/

namespace MeteoL053.As3935

open CallTree RegisterFile

/-! ## Functions of several writes -/

section Code

variable (dev : UInt8)

/-- `AS3935_AS3935_PowerDown`. -/
def powerDown : Fw Bool := Bus.as3935Write dev 0x00 0x01 0x01

/-- `AS3935_CalRCO`. -/
def calRCO : Fw Bool := do
  let status ← Bus.as3935Write16 dev ((0x3D : UInt16) <<< 8 ||| 0x96)
  ask (.chThdSleepMilliseconds 2)
  return status

/-- `AS3935_PowerUp`. -/
def powerUp : Fw Bool := do
  if !(← Bus.as3935Write dev 0x00 0x01 0x00) then
    return false
  if !(← calRCO dev) then
    return false
  if !(← Bus.as3935Write dev 0x08 0x20 0x20) then
    return false
  ask (.chThdSleepMilliseconds 2)
  if !(← Bus.as3935Write dev 0x08 0x20 0x00) then
    return false
  return true

/-- `AS3935_LOCATION_OUTDOORS`. -/
def locationOutdoors : UInt8 := 1

/-- `AS3935_DISTURBER_DIS`. -/
def disturberDisabled : UInt8 := 0

/-- `AS3935_ManualCal`. -/
def manualCal (capacitance location disturber : UInt8) : Fw Bool := do
  if !(← powerUp dev) then
    return false
  let locationStatus ← (if location = locationOutdoors then setOutdoors dev else setIndoors dev)
  if !locationStatus then
    return false
  let disturberStatus ←
    (if disturber = disturberDisabled then disturberDis dev else disturberEn dev)
  if !disturberStatus then
    return false
  if !(← setIRQOutputSource dev 0) then
    return false
  ask (.chThdSleepMilliseconds 500)
  setTuningCaps dev capacitance

/-- `AS3935_ClearStatistics`, three writes joined by `&&`. -/
def clearStatistics : Fw Bool := do
  if !(← Bus.as3935Write dev 0x02 0x40 0x40) then
    return false
  if !(← Bus.as3935Write dev 0x02 0x40 0x00) then
    return false
  Bus.as3935Write dev 0x02 0x40 0x40

/-- `AS3935_TuneAntenna`. -/
def tuneAntenna (tuneCapacitor : UInt8) : Fw Bool := do
  if !(← Bus.as3935Write dev 0x03 0xC0 0xC0) then
    return false
  if !(← Bus.as3935Write dev 0x08 0x80 0x80) then
    return false
  if !(← setTuningCaps dev tuneCapacitor) then
    return false
  return true

end Code

/-! ## Lists of steps -/

inductive Step where
  | write (reg mask data : UInt8)
  | calRCO
  | sleep (ms : Nat)
  deriving DecidableEq

def Step.code (dev : UInt8) : Step → Fw Bool
  | write reg mask data => Bus.as3935Write dev reg mask data
  | calRCO => As3935.calRCO dev
  | sleep ms => do
    ask (.chThdSleepMilliseconds ms)
    return true

/-- Steps up to the first that fails. -/
def perform (dev : UInt8) : List Step → Fw Bool
  | [] => return true
  | step :: steps => do
    if !(← step.code dev) then
      return false
    perform dev steps

/-- The registers after a step that succeeds. -/
def Step.store (regs : UInt8 → UInt8) : Step → UInt8 → UInt8
  | write reg mask data => RegisterFile.write regs reg mask data
  | calRCO => Function.update regs 0x96 0x3D
  | sleep _ => regs

def powerUpSteps : List Step :=
  [.write 0x00 0x01 0x00, .calRCO, .write 0x08 0x20 0x20, .sleep 2, .write 0x08 0x20 0x00]

/-- The functions of the driver that are lists of steps. -/
inductive Procedure where
  | powerDown
  | powerUp
  | manualCal (capacitance location disturber : UInt8)
  | clearStatistics
  | tuneAntenna (tuneCapacitor : UInt8)

def Procedure.code (dev : UInt8) : Procedure → Fw Bool
  | powerDown => As3935.powerDown dev
  | powerUp => As3935.powerUp dev
  | manualCal capacitance location disturber => As3935.manualCal dev capacitance location disturber
  | clearStatistics => As3935.clearStatistics dev
  | tuneAntenna tuneCapacitor => As3935.tuneAntenna dev tuneCapacitor

def Procedure.steps : Procedure → List Step
  | powerDown => [.write 0x00 0x01 0x01]
  | powerUp => powerUpSteps
  | manualCal capacitance location disturber =>
    powerUpSteps ++
      [.write 0x00 0x3E (if location = locationOutdoors then 0x1C else 0x24),
        .write 0x03 0x20 (if disturber = disturberDisabled then 0x20 else 0x00),
        .write 0x08 0xE0 0x00, .sleep 500, .write 0x08 0x0F capacitance]
  | clearStatistics => [.write 0x02 0x40 0x40, .write 0x02 0x40 0x00, .write 0x02 0x40 0x40]
  | tuneAntenna tuneCapacitor =>
    [.write 0x03 0xC0 0xC0, .write 0x08 0x80 0x80, .write 0x08 0x0F tuneCapacitor]

theorem perform_append (dev : UInt8) (steps later : List Step) :
    perform dev (steps ++ later) =
      (perform dev steps >>= fun ok => if !ok then return false else perform dev later) := by
  induction steps with
  | nil => rfl
  | cons step steps ih =>
    simp only [List.cons_append, perform, Prog.bind_assoc, ih]
    congr 1
    funext ok
    cases ok <;> rfl

/-- The result of the last step is the result of the list. -/
theorem perform_singleton (dev : UInt8) (step : Step) : perform dev [step] = step.code dev := by
  have hlast : (fun ok : Bool => (if !ok then pure false else pure true : Fw Bool)) = Prog.ret := by
    funext ok
    cases ok <;> rfl
  simp only [perform, hlast, Prog.bind_ret]

theorem powerUp_eq (dev : UInt8) : powerUp dev = perform dev powerUpSteps := rfl

theorem manualCal_eq (dev capacitance location disturber : UInt8) :
    manualCal dev capacitance location disturber =
      perform dev (Procedure.manualCal capacitance location disturber).steps := by
  have hloc : (if location = locationOutdoors then setOutdoors dev else setIndoors dev) =
      Bus.as3935Write dev 0x00 0x3E (if location = locationOutdoors then 0x1C else 0x24) :=
    (apply_ite (Bus.as3935Write dev 0x00 0x3E) _ _ _).symm
  have hdist : (if disturber = disturberDisabled then disturberDis dev else disturberEn dev) =
      Bus.as3935Write dev 0x03 0x20 (if disturber = disturberDisabled then 0x20 else 0x00) :=
    (apply_ite (Bus.as3935Write dev 0x03 0x20) _ _ _).symm
  have hcaps : setTuningCaps dev capacitance = perform dev [.write 0x08 0x0F capacitance] :=
    (perform_singleton dev (.write 0x08 0x0F capacitance)).symm
  rw [Procedure.steps, perform_append, manualCal, powerUp_eq, hloc, hdist, hcaps]
  rfl

theorem clearStatistics_eq (dev : UInt8) :
    clearStatistics dev = perform dev Procedure.clearStatistics.steps := by
  have hsplit : perform dev Procedure.clearStatistics.steps =
      (perform dev [.write 0x02 0x40 0x40, .write 0x02 0x40 0x00] >>= fun ok =>
        if !ok then return false else perform dev [.write 0x02 0x40 0x40]) :=
    perform_append dev [.write 0x02 0x40 0x40, .write 0x02 0x40 0x00] [.write 0x02 0x40 0x40]
  rw [hsplit, perform_singleton, perform, perform_singleton, Prog.bind_assoc, clearStatistics]
  congr 1
  funext ok
  cases ok <;> rfl

theorem Procedure.code_eq (dev : UInt8) (p : Procedure) : p.code dev = perform dev p.steps := by
  cases p with
  | powerDown => exact (perform_singleton dev (.write 0x00 0x01 0x01)).symm
  | powerUp => exact powerUp_eq dev
  | manualCal capacitance location disturber => exact manualCal_eq dev capacitance location disturber
  | clearStatistics => exact clearStatistics_eq dev
  | tuneAntenna tuneCapacitor => rfl

/-- The calls of a step: those of the bus, and the sleep. -/
def StepCall : Call → Prop
  | .chThdSleepMilliseconds _ => True
  | c => Bus.BusCall c

theorem stepCall_of_busCall (c : Call) (h : Bus.BusCall c) : StepCall c := by
  cases c <;> first | exact h.elim | trivial

theorem Step.code_all (dev : UInt8) (step : Step) : (step.code dev).All StepCall := by
  cases step with
  | write reg mask data => exact (Bus.as3935Write_all dev reg mask data).mono stepCall_of_busCall
  | calRCO =>
    apply Prog.all_bind ((Bus.checkedOp_all ..).mono stepCall_of_busCall)
    intro status
    exact ⟨trivial, fun _ => trivial⟩
  | sleep ms => exact ⟨trivial, fun _ => trivial⟩

theorem perform_all (dev : UInt8) (steps : List Step) : (perform dev steps).All StepCall := by
  induction steps with
  | nil => trivial
  | cons step steps ih =>
    apply Prog.all_bind (step.code_all dev)
    intro ok
    cases ok with
    | false => trivial
    | true => exact ih

theorem Procedure.code_all (dev : UInt8) (p : Procedure) : (p.code dev).All StepCall := by
  rw [p.code_eq dev]
  exact perform_all dev p.steps

/-! ## On a bus that fails -/

/-- The answers of the kernel and the HAL, and which failed transfers have
reached the sensor. -/
structure Faults where
  env : Bus.Env
  reaches : List Bus.Event → Bool

/-- The registers of the sensor on the bus. -/
def Faults.wiring (f : Faults) : Bus.Wiring (UInt8 → UInt8) where
  env := f.env
  transfer _ tx rxBytes regs :=
    ((Device.transfer ⟨regs, []⟩ tx rxBytes).rx, (Device.transfer ⟨regs, []⟩ tx rxBytes).regs)
  reaches := f.reaches

section Runs

variable (f : Faults) (dev : UInt8) (s : Bus.Site (UInt8 → UInt8))

theorem after_read_device (reg : UInt8) (n : Nat) :
    (f.wiring.after s dev [reg] n).device = s.device := by
  rw [Bus.Wiring.after_device]
  split
  · exact f.wiring.check_device _
  · rfl

theorem after_write_device (reg v : UInt8) (n : Nat) :
    (f.wiring.after s dev [reg, v] n).device =
      if (f.wiring.outcome s dev [reg, v] n).Reached then Function.update s.device reg v
      else s.device := by
  rw [Bus.Wiring.after_device]
  split
  · exact congrArg (Function.update · reg v) (f.wiring.check_device _)
  · rfl

/-- What the read half takes for the contents of the register. -/
def origRegData (reg : UInt8) : UInt8 :=
  if f.wiring.outcome s dev [reg] 1 = .done then s.device reg else 0xFF

theorem as3935Read_faulty (reg : UInt8) :
    (Bus.as3935Read dev reg).run f.wiring.answer s =
      some (origRegData f dev s reg, f.wiring.after s dev [reg] 1) := by
  have hsent : (f.wiring.sent s dev [reg] 1).getD 0 0 = s.device reg := by
    have hdevice : (f.wiring.started s dev [reg] 1).device = s.device := f.wiring.check_device _
    change (f.wiring.started s dev [reg] 1).device (reg + UInt8.ofNat 0) = s.device reg
    rw [hdevice, show UInt8.ofNat 0 = 0 from rfl, UInt8.add_zero]
  have hbad : ∀ (msg : Msg) (rx : List UInt8), msg ≠ .ok →
      (if msg = .ok then rx.getD 0 0 else 0xFF : UInt8) = 0xFF := fun _ _ hmsg => if_neg hmsg
  rw [Bus.as3935Read, f.wiring.checkedOp_run s dev [reg] 1 hbad, origRegData, if_pos rfl, hsent]
  cases f.wiring.outcome s dev [reg] 1 <;> rfl

/-- The masked write as it goes: what the two halves come to. -/
def attempt (reg mask data : UInt8) : Attempt UInt8 where
  reg := reg
  mask := mask
  data := data
  read := f.wiring.outcome s dev [reg] 1 = .done
  stored := (f.wiring.outcome (f.wiring.after s dev [reg] 1) dev
    [reg, setMasked (origRegData f dev s reg) mask data] 0).Reached

theorem as3935Write_faulty (reg mask data : UInt8) :
    ∃ ok s', (Bus.as3935Write dev reg mask data).run f.wiring.answer s = some (ok, s') ∧
      s'.device = Attempt.apply s.device (attempt f dev s reg mask data) ∧
      (ok = true → (attempt f dev s reg mask data).stored = true) := by
  rw [Bus.as3935Write, Prog.run_bind_of (as3935Read_faulty f dev s reg),
    Bus.Wiring.checkedOp_run_write]
  refine ⟨_, _, rfl, ?_, ?_⟩
  · rw [after_write_device, after_read_device, Attempt.apply, attempt]
    simp only [decide_eq_true_eq]
    rfl
  · intro hdone
    exact decide_eq_true (.inr (of_decide_eq_true hdone))

/-- The direct command arrives as a plain write. -/
def commandAttempt : Attempt UInt8 where
  reg := 0x96
  mask := 0xFF
  data := 0x3D
  read := true
  stored := (f.wiring.outcome s dev [0x96, 0x3D] 0).Reached

theorem calRCO_faulty :
    ∃ ok s', (calRCO dev).run f.wiring.answer s = some (ok, s') ∧
      s'.device = Attempt.apply s.device (commandAttempt f dev s) ∧
      (ok = true → (commandAttempt f dev s).stored = true) := by
  have hrun : (Bus.as3935Write16 dev ((0x3D : UInt16) <<< 8 ||| 0x96)).run f.wiring.answer s = _ :=
    f.wiring.checkedOp_run_write s dev [0x96, 0x3D] 0
  rw [calRCO, Prog.run_bind_of hrun]
  refine ⟨_, _, rfl, ?_, ?_⟩
  · change (f.wiring.after s dev [0x96, 0x3D] 0).device = _
    rw [after_write_device, Attempt.apply, commandAttempt]
    simp only [decide_eq_true_eq, if_true, setMasked_ones]
  · intro hdone
    exact decide_eq_true (.inr (of_decide_eq_true hdone))

/-- What a step attempts. -/
def Step.attempts : Step → List (Attempt UInt8)
  | write reg mask data => [attempt f dev s reg mask data]
  | calRCO => [commandAttempt f dev s]
  | sleep _ => []

theorem Step.code_faulty (step : Step) :
    ∃ ok s', (step.code dev).run f.wiring.answer s = some (ok, s') ∧
      s'.device = (step.attempts f dev s).foldl Attempt.apply s.device ∧
      (ok = true → ∀ regs, (step.attempts f dev s).foldl Attempt.intend regs = step.store regs) := by
  cases step with
  | write reg mask data =>
    obtain ⟨ok, s', hrun, hdevice, hstored⟩ := as3935Write_faulty f dev s reg mask data
    exact ⟨ok, s', hrun, hdevice, fun hok regs => if_pos (hstored hok)⟩
  | calRCO =>
    obtain ⟨ok, s', hrun, hdevice, hstored⟩ := calRCO_faulty f dev s
    refine ⟨ok, s', hrun, hdevice, fun hok regs => (if_pos (hstored hok)).trans ?_⟩
    exact congrArg (Function.update regs 0x96) (setMasked_ones _ _)
  | sleep ms => exact ⟨true, f.wiring.pass s (.chThdSleepMilliseconds ms), rfl, rfl, fun _ _ => rfl⟩

/-- What a list of steps attempts: it goes on after a step that succeeds. -/
def attempts : List Step → Bus.Site (UInt8 → UInt8) → List (Attempt UInt8)
  | [], _ => []
  | step :: steps, s =>
    step.attempts f dev s ++
      match (step.code dev).run f.wiring.answer s with
      | some (true, s') => attempts steps s'
      | _ => []

theorem perform_faulty (steps : List Step) :
    ∃ ok s', (perform dev steps).run f.wiring.answer s = some (ok, s') ∧
      s'.device = (attempts f dev steps s).foldl Attempt.apply s.device ∧
      (ok = true →
        ∀ regs, (attempts f dev steps s).foldl Attempt.intend regs = steps.foldl Step.store regs) := by
  induction steps generalizing s with
  | nil => exact ⟨true, s, rfl, rfl, fun _ _ => rfl⟩
  | cons step steps ih =>
    obtain ⟨ok, s₁, hrun, hdevice, hstore⟩ := step.code_faulty f dev s
    cases ok with
    | false =>
      refine ⟨false, s₁, ?_, ?_, fun hok => nomatch hok⟩
      · rw [perform, Prog.run_bind_of hrun]
        rfl
      · rw [attempts, hrun, List.append_nil, hdevice]
    | true =>
      obtain ⟨ok, s₂, hrest, hdevice', hstore'⟩ := ih s₁
      refine ⟨ok, s₂, ?_, ?_, fun hok regs => ?_⟩
      · rw [perform, Prog.run_bind_of hrun]
        exact hrest
      · rw [attempts, hrun, List.foldl_append, ← hdevice, hdevice']
      · rw [attempts, hrun, List.foldl_append, hstore rfl, hstore' hok, List.foldl_cons]

end Runs

/-- For every register contents, every register, mask and data and every
combination of check and transfer outcomes: a masked write changes no other
register, it writes the bits of its mask when it returns true, and it keeps the
other bits if and only if it is not blind or they were all set. The setters are
masked writes. The functions of several writes leave what their writes are to
leave, all of them when they return true, if and only if the bits that blind
writes set are written again or are to be set. -/
theorem masked_writes_iff (f : Faults) (dev : UInt8) (s : Bus.Site (UInt8 → UInt8)) :
    (∀ reg mask data, ∃ ok s',
      (Bus.as3935Write dev reg mask data).run f.wiring.answer s = some (ok, s') ∧
      (∀ r, r ≠ reg → s'.device r = s.device r) ∧
      (ok = true → s'.device reg &&& mask = data &&& mask) ∧
      (s'.device reg &&& ~~~mask = s.device reg &&& ~~~mask ↔
        ((attempt f dev s reg mask data).Blind → s.device reg ||| mask = 0xFF))) ∧
    (∀ x : Setter, x.code dev =
      (Bus.as3935Write dev (field x.setting).reg (field x.setting).mask x.data >>= fun _ => pure ())) ∧
    (∀ p : Procedure, ∃ ok s', (p.code dev).run f.wiring.answer s = some (ok, s') ∧
      (ok = true → (attempts f dev p.steps s).foldl Attempt.intend s.device =
        p.steps.foldl Step.store s.device) ∧
      (s'.device = (attempts f dev p.steps s).foldl Attempt.intend s.device ↔
        ∀ reg, Attempt.Harmless reg ((attempts f dev p.steps s).foldl Attempt.intend s.device reg)
          (attempts f dev p.steps s))) := by
  refine ⟨fun reg mask data => ?_, fun x => x.code_eq dev, fun p => ?_⟩
  · obtain ⟨ok, s', hrun, hdevice, hstored⟩ := as3935Write_faulty f dev s reg mask data
    refine ⟨ok, s', hrun, ?_, ?_, ?_⟩
    · intro r hr
      rw [hdevice]
      exact (Attempt.apply_of_ne _ fun h => hr h.2.symm).1
    · intro hok
      rw [hdevice]
      exact Attempt.apply_mask s.device (hstored hok)
    · rw [hdevice]
      exact Attempt.apply_frame_iff s.device (attempt f dev s reg mask data)
  · rw [p.code_eq dev]
    obtain ⟨ok, s', hrun, hdevice, hstore⟩ := perform_faulty f dev s p.steps
    refine ⟨ok, s', hrun, fun hok => hstore hok s.device, ?_⟩
    rw [hdevice, Attempt.foldl_apply_eq_iff]

/-- Only the `n`-th transfer fails, and does not reach the sensor. -/
def failsAt (n : Nat) : Faults where
  env :=
    { delay := fun _ => 0
      reply := fun past c =>
        match c with
        | .i2cState => I2cState.ready
        | .i2cWait =>
          (if (past.filter fun e => e.call matches .i2cMasterTransmit ..).length = n then .reset
            else .ok, [])
        | c => anyReply c }
  reaches _ := false

/-- The sensor with the gain for indoors, powered up. -/
def poweredUp : Bus.Site (UInt8 → UInt8) where
  world := ⟨0, []⟩
  device reg := if reg = 0x00 then 0x24 else 0x00
  tx := []
  rxBytes := 0

/-- When the first transfer fails, `AS3935_SetOutdoors` returns true and has set
the bits 0, 6 and 7 of register 0x00, which are not in its mask. When the eighth
fails, so does the calibration: it returns true and leaves the sensor powered
down. -/
theorem setOutdoors_powers_down :
    ((setOutdoors 0).run (failsAt 1).wiring.answer poweredUp).map
        (fun r => (r.1, poweredUp.device 0x00 &&& ~~~0x3E, r.2.device 0x00 &&& ~~~0x3E)) =
      some (true, 0x00, 0xC1) ∧
    ((manualCal 0 72 locationOutdoors 1).run (failsAt 8).wiring.answer poweredUp).map
        (fun r => (r.1, r.2.device 0x00 &&& 0x01,
          (Procedure.manualCal 72 locationOutdoors 1).steps.foldl Step.store poweredUp.device 0x00 &&&
            0x01)) =
      some (true, 1, 0) := by
  constructor <;> decide +kernel

end MeteoL053.As3935
