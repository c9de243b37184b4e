import MeteoL053.Bus.System
import MeteoL053.Bmp280.Thread

/-!
`BMP280_init` among the transfers of the other sensor threads.

The thread `none` runs `BMP280_init` once, with its bus operations written out;
the threads `some i` do any operations in any order. `BMP280_init` may start at
any point of any history of the bus. This module says what the threads do in
terms of their own calls; `Bmp280/Interleaved.lean` puts them together.
-/

namespace MeteoL053.Bmp280.Traffic

open CallTree Bus

/-- What `BMP280_init` has met so far; history only. -/
structure Past where
  /-- it has been entered -/
  begun : Bool := false
  /-- one of its transfers has ended -/
  settled : Bool := false
  /-- it has read `I2CD1.state` while a transfer was in flight -/
  metTransfer : Bool := false
  /-- the bytes its last transfer sent -/
  tx : List UInt8 := []
  /-- how often it has read the status register -/
  statusReads : Nat := 0

/-- A call of `BMP280_init`; `busy` says whether a transfer is in flight. -/
def Past.next (p : Past) (busy : Bool) : (c : Call) → Reply c → Past
  | .enter _, _ => { p with begun := true }
  | .i2cState, _ => { p with metTransfer := p.metTransfer || busy }
  | .i2cMasterTransmit _ tx _, _ => { p with tx := tx }
  | .i2cMasterReceive .., _ => { p with tx := [] }
  | .i2cWait, _ =>
    { p with
      settled := p.settled || p.begun
      statusReads := p.statusReads + if p.tx = [regStatus] then 1 else 0 }
  | _, _ => p

/-- A call of any thread; `own` is that of `BMP280_init`. -/
def Past.after (p : Past) (own busy : Bool) (c : Call) (r : Reply c) : Past :=
  match own with
  | true => p.next busy c r
  | false => p

variable {ι : Type}

structure State (ι : Type) where
  bus : Bus.State (Option ι)
  past : Past

/-- Where a thread enters next: `BMP280_init` has returned, or the next
operation of another thread. -/
inductive Label where
  | returned (ok : Bool) (dev : Handle)
  | ops
  deriving DecidableEq

/-- `BMP280_init` with its operations written out. -/
def initCode (fuel : Nat) (dev : Handle) : Fw Label := do
  let (ok, dev) ← expand (init fuel dev)
  return .returned ok dev

/-- The end of a transfer of `BMP280_init`: it succeeds, the id is that of a
known chip, and `im_update` is clear at the read of the status register number
`reads`, counted from 0. -/
def OwnEnd (reads : Nat) (p : Past) (r : Msg × List UInt8) : Prop :=
  r.1 = .ok ∧
    (p.tx = [regId] → r.2.getD 0 0 = bmp280ChipId ∨ r.2.getD 0 0 = bme280ChipId) ∧
    (p.tx = [regStatus] → p.statusReads = reads → r.2.getD 0 0 &&& 1 = 0)

instance (reads : Nat) (p : Past) (r : Msg × List UInt8) : Decidable (OwnEnd reads p r) :=
  inferInstanceAs (Decidable (_ ∧ _ ∧ _))

/-- The condition on the steps: the transfers of `BMP280_init` end as said, and
while it runs no transfer of another thread times out. -/
def Granted (reads : Nat) (t : Option ι) (s : State ι) : (c : Call) → Reply c → Prop
  | .i2cWait, r =>
    match t with
    | none => OwnEnd reads s.past r
    | some _ => s.past.begun = true → r.1 ≠ Msg.timeout
  | _, _ => True

instance (reads : Nat) (t : Option ι) (s : State ι) (c : Call) (r : Reply c) :
    Decidable (Granted reads t s c r) := by
  revert r
  apply Call.casesOn (motive := fun c => ∀ r : Reply c, Decidable (Granted reads t s c r)) c <;>
    intros <;>
    first
    | exact isTrue trivial
    | cases t with
      | none => exact inferInstanceAs (Decidable (OwnEnd _ _ _))
      | some i => exact inferInstanceAs (Decidable (_ = _ → _ ≠ _))

section System

variable [DecidableEq ι]

/-- The bus as it is, `I2CD1.state` read exactly. -/
def system (ι : Type) [DecidableEq ι] : System (Option ι) Call Reply Label (State ι) where
  body
    | none, l => .ret l
    | some _, _ => do
      let _ ← busOps
      return .ops
  possible t s c r := Bus.possible true t s.bus c r
  effect t s c r :=
    { bus := Bus.effect t s.bus c r
      past := s.past.after t.isNone (!s.bus.inFlight.isEmpty) c r }

def start (fuel : Nat) (dev : Handle) : Pool (Option ι) Call Reply Label (State ι) where
  shared := { bus := Bus.initial.shared, past := {} }
  prog
    | none => initCode fuel dev
    | some _ => .ret .ops

abbrev traffic (ι : Type) [DecidableEq ι] (reads : Nat) :
    System (Option ι) Call Reply Label (State ι) :=
  (system ι).restrict (Granted reads)

instance (reads : Nat) (t : Option ι) (s : State ι) (c : Call) (r : Reply c) :
    Decidable ((traffic ι reads).possible t s c r) :=
  inferInstanceAs (Decidable (Bus.possible true t s.bus c r ∧ Granted reads t s c r))

end System

/-! ## Phases -/

/-- Where a thread is in an operation. After it has acquired the bus, the driver
has been found `locked`, it has been `stopped` or is known to be `ready`. -/
inductive Stage where
  | idle
  | acquired
  | locked
  | stopped
  | ready
  | active
  deriving DecidableEq

def Stage.next (g : Stage) : (c : Call) → Reply c → Stage
  | .i2cAcquireBus, _ => .acquired
  | .i2cState, r => if g = .idle then .idle else if r = I2cState.locked then .locked else .ready
  | .i2cStop, _ => .stopped
  | .i2cStart, _ => .ready
  | .i2cMasterTransmit .., _ | .i2cMasterReceive .., _ => .active
  | .i2cWait, _ => .acquired
  | .i2cReleaseBus, _ => .idle
  | _, _ => g

/-- The past is that of `BMP280_init`, in its own phase. -/
structure Phase where
  stage : Stage := .idle
  past : Past := {}

/-- The driver is found at work by a thread without the bus. -/
def Phase.busy (φ : Phase) : (c : Call) → Reply c → Bool
  | .i2cState, r => φ.stage = .idle ∧ r ≠ I2cState.ready
  | _, _ => false

/-- The calls of a thread. Without the bus, the state is read by `BMP280_init`
only and after its first transfer. The owner of the bus finds the driver ready
or locked, and ready once it has started it. -/
def monitor (reads : Nat) (own : Bool) : Monitor Call Reply Phase where
  hangs _ := False
  allows φ
    | .nextBusOp | .opReturn | .opDone .. | .enter _ | .leave .. | .i2cAcquireBus =>
      φ.stage = .idle
    | .i2cState =>
      φ.stage = .idle ∧ φ.past.settled = true ∨ φ.stage = .acquired ∨ φ.stage = .ready
    | .i2cStop => φ.stage = .locked
    | .i2cStart => φ.stage = .stopped
    | .i2cMasterTransmit .. | .i2cMasterReceive .. | .i2cReleaseBus =>
      φ.stage = .acquired ∨ φ.stage = .ready
    | .i2cWait => φ.stage = .active
    | _ => False
  answers φ
    | .i2cState, r =>
      (φ.stage = .acquired → r = I2cState.ready ∨ r = I2cState.locked) ∧
        (φ.stage = .ready → r = I2cState.ready)
    | .i2cWait, r => own = true → OwnEnd reads φ.past r
    | _, _ => True
  next φ c r := ⟨φ.stage.next c r, φ.past.after own (φ.busy c r) c r⟩

/-! ## The operations follow the monitor -/

/-- The past after a transfer that sends `tx`. -/
def Past.transferred (p : Past) (own : Bool) (tx : List UInt8) : Past :=
  match own with
  | true =>
    { p with
      tx := tx
      settled := p.settled || p.begun
      statusReads := p.statusReads + if tx = [regStatus] then 1 else 0 }
  | false => p

/-- The bytes a transfer sends. -/
def sent : Transfer → List UInt8
  | .transmit _ tx _ => tx
  | .receive .. => []

section Operations

variable {reads : Nat} {φ : Phase}

/-- The owner of the bus reads the state. -/
theorem next_i2cState (own : Bool) (h : φ.stage ≠ .idle) (r : I2cState) :
    (monitor reads own).next φ .i2cState r =
      ⟨if r = .locked then .locked else .ready, φ.past⟩ := by
  have hstage : φ.stage.next .i2cState r = if r = .locked then .locked else .ready := if_neg h
  have hbusy : φ.busy .i2cState r = false := by simp [Phase.busy, h]
  have hpast : φ.past.after own (φ.busy .i2cState r) .i2cState r = φ.past := by
    rw [hbusy]
    cases own with
    | true => simp only [Past.after, Past.next, Bool.or_false]
    | false => rfl
  exact congrArg₂ Phase.mk hstage hpast

/-- `BMP280_init` reads the state without the bus. -/
theorem next_i2cState_idle (h : φ.stage = .idle) (r : I2cState) :
    (monitor reads true).next φ .i2cState r =
      ⟨.idle, { φ.past with metTransfer := φ.past.metTransfer || decide (r ≠ .ready) }⟩ := by
  have hstage : φ.stage.next .i2cState r = .idle := if_pos h
  have hbusy : φ.busy .i2cState r = decide (r ≠ .ready) := by simp [Phase.busy, h]
  have hpast : φ.past.after true (φ.busy .i2cState r) .i2cState r =
      { φ.past with metTransfer := φ.past.metTransfer || decide (r ≠ .ready) } := by
    rw [hbusy]
    rfl
  exact congrArg₂ Phase.mk hstage hpast

theorem checkI2CCondition_passes (own : Bool) (past : Past) :
    checkI2CCondition.wp (monitor reads own) ⟨.acquired, past⟩ fun ok φ =>
      ok = true ∧ φ = ⟨.ready, past⟩ := by
  -- the second read, of a driver known to be ready
  have hsecond : (do return (← ask .i2cState) = I2cState.ready : Fw Bool).wp (monitor reads own)
      ⟨.ready, past⟩ fun ok φ => ok = true ∧ φ = ⟨.ready, past⟩ := by
    apply Prog.wp_step (Or.inr (Or.inr rfl))
    intro state hstate
    obtain rfl : state = I2cState.ready := hstate.2 rfl
    rw [next_i2cState own (by simp)]
    exact ⟨rfl, rfl⟩
  apply Prog.wp_step (Or.inr (Or.inl rfl))
  intro state hstate
  rw [next_i2cState own (by simp)]
  obtain rfl | rfl : state = I2cState.ready ∨ state = I2cState.locked := hstate.1 rfl
  · exact hsecond
  · have hstart : (monitor reads own).next ((monitor reads own).next ⟨.locked, past⟩ .i2cStop ())
        .i2cStart () = ⟨.ready, past⟩ := by
      cases own <;> rfl
    apply Prog.wp_step rfl
    intro _ _
    apply Prog.wp_step rfl
    intro _ _
    exact hstart ▸ hsecond

theorem Transfer.run_follows (x : Transfer) (own : Bool)
    (h : φ.stage = .acquired ∨ φ.stage = .ready) :
    x.run.wp (monitor reads own) φ fun r φ' =>
      (own = true → OwnEnd reads { φ.past with tx := sent x } r) ∧
        φ' = ⟨.acquired, φ.past.transferred own (sent x)⟩ := by
  cases x with
  | transmit addr tx rxBytes =>
    apply Prog.wp_step h
    intro _ _
    refine ⟨rfl, fun r hr => ⟨fun hown => ?_, ?_⟩⟩
    · subst hown
      exact hr rfl
    · cases own <;> rfl
  | receive addr rxBytes =>
    apply Prog.wp_step h
    intro _ _
    refine ⟨rfl, fun r hr => ⟨fun hown => ?_, ?_⟩⟩
    · subst hown
      exact hr rfl
    · cases own <;> rfl

/-- How an operation without further effects ends. -/
def Ends {α : Type} (reads : Nat) (own : Bool) (φ : Phase) (tx : List UInt8)
    (result : Msg × List UInt8 → α) (a : α) (φ' : Phase) : Prop :=
  ∃ r, (own = true → OwnEnd reads { φ.past with tx := tx } r) ∧ a = result r ∧
    φ' = ⟨.idle, φ.past.transferred own tx⟩

/-- What is left of an operation after its transfer. -/
theorem release_follows {α : Type} {tx : List UInt8} (own : Bool)
    (result : Msg × List UInt8 → α) {r : Msg × List UInt8}
    (hr : own = true → OwnEnd reads { φ.past with tx := tx } r) :
    (do
      ask .i2cReleaseBus
      ask .opReturn
      return result r : Fw α).wp (monitor reads own) ⟨.acquired, φ.past.transferred own tx⟩
      (Ends reads own φ tx result) := by
  apply Prog.wp_step (Or.inl rfl)
  intro _ _
  apply Prog.wp_step rfl
  intro _ _
  refine ⟨r, hr, rfl, ?_⟩
  cases own <;> rfl

/-- The check of the driver passes and the transfer is made. -/
theorem checkedOp_follows {α : Type} (x : Transfer) (failed : α)
    (result : Msg → List UInt8 → α) (own : Bool) (h : φ.stage = .idle) :
    (checkedOp x failed result).wp (monitor reads own) φ
      (Ends reads own φ (sent x) fun r => result r.1 r.2) := by
  apply Prog.wp_step h
  intro _ _
  have hacquired : (monitor reads own).next φ .i2cAcquireBus () = ⟨.acquired, φ.past⟩ := by
    cases own <;> rfl
  rw [hacquired]
  apply Prog.wp_bind_of _ _ _ (checkI2CCondition_passes own φ.past)
  rintro _ _ ⟨rfl, rfl⟩
  apply Prog.wp_bind_of _ _ _ (Transfer.run_follows x own (Or.inr rfl))
  rintro r _ ⟨hr, rfl⟩
  exact release_follows own (fun r => result r.1 r.2) hr

theorem bmp280WriteRegister8_follows (dev addr value : UInt8) (own : Bool)
    (h : φ.stage = .idle) :
    (bmp280WriteRegister8 dev addr value).wp (monitor reads own) φ
      (Ends reads own φ [addr, value] fun r => r.1 ≠ .ok) := by
  apply Prog.wp_step h
  intro _ _
  have hacquired : (monitor reads own).next φ .i2cAcquireBus () = ⟨.acquired, φ.past⟩ := by
    cases own <;> rfl
  rw [hacquired]
  apply Prog.wp_bind_of _ _ _ (Transfer.run_follows _ own (Or.inl rfl))
  rintro r _ ⟨hr, rfl⟩
  exact release_follows own (fun r => (r.1 ≠ .ok : Bool)) hr

/-- Another thread ends every operation without the bus. -/
theorem performOp_follows (op : BusOp) (own : Bool) (h : φ.stage = .idle) :
    (performOp op).wp (monitor reads own) φ fun _ φ' => φ'.stage = .idle := by
  have hchecked : ∀ {α : Type} (x : Transfer) (failed : α) (result : Msg → List UInt8 → α)
      {φ : Phase}, φ.stage = .idle →
      (checkedOp x failed result).wp (monitor reads own) φ fun _ φ' => φ'.stage = .idle := by
    intro α x failed result φ h
    apply Prog.wp_mono _ _ _ (checkedOp_follows x failed result own h)
    rintro a φ' ⟨r, -, -, rfl⟩
    rfl
  cases op with
  | bmp280WriteRegister8 dev addr value =>
    apply Prog.wp_mono _ _ _ (bmp280WriteRegister8_follows dev addr value own h)
    rintro a φ' ⟨r, -, -, rfl⟩
    rfl
  | as3935Write dev regAdd dataMask regData =>
    apply Prog.wp_bind_of _ _ _ (hchecked _ _ _ h)
    intro _ φ' h'
    exact hchecked _ _ _ h'
  | _ =>
    simp only [performOp]
    exact hchecked _ _ _ h

theorem busOps_follows (own : Bool) (h : φ.stage = .idle) :
    busOps.wp (monitor reads own) φ fun _ φ' => φ'.stage = .idle := by
  apply Prog.wp_step h
  intro op _
  have hidle : ((monitor reads own).next φ .nextBusOp op).stage = .idle := h
  apply Prog.wp_bind_of _ _ _ (performOp_follows op own hidle)
  intro _ φ' h'
  exact h'

end Operations

/-! ## `BMP280_init` with its operations as calls -/

/-- The operations of `bmp280.c`. -/
def IsBmp280 : BusOp → Prop
  | .bmp280ReadRegister16 .. | .bmp280ReadData .. | .bmp280WriteRegister8 .. => True
  | _ => False

/-- The bytes such an operation sends. -/
def opSent : BusOp → List UInt8
  | .bmp280ReadRegister16 _ addr => [addr]
  | .bmp280ReadData _ addr _ => [addr]
  | .bmp280WriteRegister8 _ addr value => [addr, value]
  | _ => []

/-- The operation succeeds, with data as `OwnEnd` says. -/
def OpAnswer (reads : Nat) (p : Past) : (op : BusOp) → op.Result → Prop
  | .bmp280ReadRegister16 .., r => r.isSome
  | .bmp280ReadData .., r => ∃ rx, r = some rx ∧ OwnEnd reads p (.ok, rx)
  | .bmp280WriteRegister8 .., r => r = false
  | _, _ => True

/-- The monitor of `BMP280_init` with an operation as one call. -/
def opMonitor (reads : Nat) : Monitor Call Reply Phase where
  hangs _ := False
  allows φ
    | .busOp op => φ.stage = .idle ∧ IsBmp280 op
    | c => (monitor reads true).allows φ c
  answers φ
    | .busOp op, r => OpAnswer reads { φ.past with tx := opSent op } op r
    | c, r => (monitor reads true).answers φ c r
  next φ
    | .busOp op, _ => ⟨.idle, φ.past.transferred true (opSent op)⟩
    | c, r => (monitor reads true).next φ c r

section Init

variable {reads : Nat} {φ : Phase}

theorem performOp_succeeds (op : BusOp) (h : φ.stage = .idle) (hop : IsBmp280 op) :
    (performOp op).wp (monitor reads true) φ fun r φ' =>
      OpAnswer reads { φ.past with tx := opSent op } op r ∧
        φ' = ⟨.idle, φ.past.transferred true (opSent op)⟩ := by
  cases op with
  | bmp280ReadRegister16 dev addr =>
    simp only [performOp, bmp280ReadRegister16]
    apply Prog.wp_mono _ _ _ (checkedOp_follows _ _ _ true h)
    rintro _ _ ⟨⟨msg, rx⟩, hr, rfl, rfl⟩
    obtain rfl : msg = .ok := (hr rfl).1
    exact ⟨rfl, rfl⟩
  | bmp280ReadData dev addr len =>
    simp only [performOp, bmp280ReadData]
    apply Prog.wp_mono _ _ _ (checkedOp_follows _ _ _ true h)
    rintro _ _ ⟨⟨msg, rx⟩, hr, rfl, rfl⟩
    obtain rfl : msg = .ok := (hr rfl).1
    exact ⟨⟨rx, rfl, hr rfl⟩, rfl⟩
  | bmp280WriteRegister8 dev addr value =>
    apply Prog.wp_mono _ _ _ (bmp280WriteRegister8_follows dev addr value true h)
    rintro _ _ ⟨⟨msg, rx⟩, hr, rfl, rfl⟩
    obtain rfl : msg = .ok := (hr rfl).1
    exact ⟨rfl, rfl⟩
  | _ => exact hop.elim

/-- The code behind a call leads where the call leads. -/
theorem codeOf_follows (φ : Phase) (c : Call) (h : (opMonitor reads).allows φ c) :
    (codeOf c).wp (monitor reads true) φ fun r φ' =>
      (opMonitor reads).answers φ c r ∧ φ' = (opMonitor reads).next φ c r := by
  cases c with
  | busOp op =>
    apply Prog.wp_bind_of _ _ _ (performOp_succeeds op h.1 h.2)
    rintro r _ ⟨hr, rfl⟩
    exact Prog.wp_step rfl fun _ _ => ⟨hr, rfl⟩
  | _ => exact ⟨h, fun r hr => ⟨hr, rfl⟩⟩

/-! One rule for each kind of call. -/

section Rules

variable {α : Type} {Q : α → Phase → Prop} {dev : Handle} {addr : UInt8}

theorem readRegister16_wp {f : Option UInt16 → Fw α} (h : φ.stage = .idle)
    (hf : ∀ v, (f (some v)).wp (opMonitor reads)
      ⟨.idle, φ.past.transferred true [addr]⟩ Q) :
    (readRegister16 dev addr >>= f).wp (opMonitor reads) φ Q := by
  refine Prog.wp_step (And.intro h trivial) ?_
  rintro (_ | v) hr
  · cases hr
  · exact hf v

theorem readData_wp {len : Nat} {f : Option (List UInt8) → Fw α} (h : φ.stage = .idle)
    (hf : ∀ rx, OwnEnd reads { φ.past with tx := [addr] } (.ok, rx) →
      (f (some rx)).wp (opMonitor reads)
        ⟨.idle, φ.past.transferred true [addr]⟩ Q) :
    (readData dev addr len >>= f).wp (opMonitor reads) φ Q := by
  refine Prog.wp_step (And.intro h trivial) ?_
  rintro _ ⟨rx, rfl, hrx⟩
  exact hf rx hrx

theorem writeRegister8_wp {value : UInt8} {f : Bool → Fw α} (h : φ.stage = .idle)
    (hf : (f false).wp (opMonitor reads)
      ⟨.idle, φ.past.transferred true [addr, value]⟩ Q) :
    (writeRegister8 dev addr value >>= f).wp (opMonitor reads) φ Q := by
  refine Prog.wp_step (And.intro h trivial) ?_
  rintro _ rfl
  exact hf

end Rules

/-- Outside the operations, having met a transfer in flight or not. -/
def Idle (met : Bool) (φ : Phase) : Prop := φ.stage = .idle ∧ φ.past.metTransfer = met

variable {met : Bool}

theorem readRegisters_succeeds (dev : Handle)
    (regs : List (UInt8 × (Calibration → UInt16 → Calibration))) (cal : Calibration)
    (h : Idle met φ) :
    (readRegisters dev regs cal).wp (opMonitor reads) φ fun r φ' => r.1 = true ∧ Idle met φ' := by
  induction regs generalizing cal φ with
  | nil => exact ⟨rfl, h⟩
  | cons reg regs ih => exact readRegister16_wp h.1 fun v => ih _ ⟨rfl, h.2⟩

theorem readHumCalibrationData_succeeds (dev : Handle) (cal : Calibration) (h : Idle met φ) :
    (readHumCalibrationData dev cal).wp (opMonitor reads) φ fun r φ' =>
      r.1 = true ∧ Idle met φ' := by
  apply readData_wp h.1
  intro h1 _
  apply readRegister16_wp rfl
  intro h2
  apply readData_wp rfl
  intro h3 _
  apply readRegister16_wp rfl
  intro h4
  apply readRegister16_wp rfl
  intro h5
  apply readData_wp rfl
  intro h6 _
  exact ⟨rfl, rfl, h.2⟩

theorem loadCalibration_succeeds (dev : Handle) (h : Idle met φ) :
    (loadCalibration dev).wp (opMonitor reads) φ fun r φ' => r.1 = true ∧ Idle met φ' := by
  apply Prog.wp_bind_of _ _ _ (readRegisters_succeeds dev _ _ h)
  rintro ⟨_, cal⟩ φ' ⟨rfl, h'⟩
  dsimp only
  rw [if_neg (by simp)]
  split
  · exact Prog.wp_bind_of _ _ _ (readHumCalibrationData_succeeds dev cal h') fun r φ'' hr => hr
  · exact ⟨rfl, h'⟩

theorem writeControl_succeeds (dev : Handle) (h : Idle met φ) :
    (writeControl dev).wp (opMonitor reads) φ fun ok φ' => ok = true ∧ Idle met φ' := by
  unfold writeControl
  dsimp only
  split
  · apply writeRegister8_wp h.1
    exact writeRegister8_wp rfl ⟨rfl, rfl, h.2⟩
  · exact writeRegister8_wp h.1 ⟨rfl, rfl, h.2⟩

theorem configure_succeeds (dev : Handle) (h : Idle met φ) :
    (configure dev).wp (opMonitor reads) φ fun r φ' => r.1 = true ∧ Idle met φ' := by
  apply writeRegister8_wp h.1
  have h' : Idle met ⟨.idle, φ.past.transferred true
      [regConfig, dev.params.standby.code <<< 5 ||| dev.params.filter.code <<< 2]⟩ := ⟨rfl, h.2⟩
  exact Prog.wp_bind_of _ _ _ (writeControl_succeeds _ h') fun ok φ'' hok => hok

/-- The wait loop: it is left before the fuel is used up, with false exactly if
a transfer was met. -/
theorem waitCopied_leaves (dev : Handle) (fuel : Nat) (h : Idle false φ)
    (hsettled : φ.past.settled = true) (hle : φ.past.statusReads ≤ reads)
    (hfuel : reads < φ.past.statusReads + fuel) :
    (waitCopied dev fuel).wp (opMonitor reads) φ fun copied φ' => Idle (!copied) φ' := by
  induction fuel generalizing φ with
  | zero => omega
  | succ fuel ih =>
    apply Prog.wp_step (Or.inl ⟨h.1, hsettled⟩)
    intro state _
    have hnext : (opMonitor reads).next φ .i2cState state =
        ⟨.idle, { φ.past with metTransfer := decide (state ≠ I2cState.ready) }⟩ := by
      have hread : (monitor reads true).next φ .i2cState state = _ := next_i2cState_idle h.1 state
      rw [h.2, Bool.false_or] at hread
      exact hread
    rw [hnext]
    by_cases hready : state = I2cState.ready
    · subst hready
      apply readData_wp rfl
      intro status hstatus
      dsimp only
      split
      · exact ⟨rfl, rfl⟩
      · next hbit =>
        -- the copy is not over, so this was not the read number `reads`
        have hne : φ.past.statusReads ≠ reads := fun e => hbit (hstatus.2.2 rfl e)
        refine ih ⟨rfl, rfl⟩ ?_ ?_ ?_
        · simp [Past.transferred, hsettled]
        · simp only [Past.transferred, if_true]
          omega
        · simp only [Past.transferred, if_true]
          omega
    · rw [if_pos hready]
      exact ⟨rfl, by simp [hready]⟩

theorem probe_returns (dev : Handle) {fuel : Nat} (hfuel : reads < fuel) :
    (probe fuel dev).wp (opMonitor reads) ⟨.idle, { begun := true }⟩ fun r φ' =>
      Idle (!r.1) φ' := by
  apply readData_wp rfl
  intro id hid
  dsimp only
  have hknown : ¬(id.getD 0 0 ≠ bmp280ChipId ∧ id.getD 0 0 ≠ bme280ChipId) := by
    rcases hid.2.1 rfl with e | e
    · exact fun h => h.1 e
    · exact fun h => h.2 e
  rw [if_neg hknown]
  apply writeRegister8_wp rfl
  rw [if_neg (by simp)]
  apply Prog.wp_bind_of _ _ _ (waitCopied_leaves _ fuel ⟨rfl, rfl⟩ rfl (Nat.zero_le _) ?_)
  · rintro copied φ h
    cases copied with
    | false => exact h
    | true =>
      apply Prog.wp_bind_of _ _ _ (loadCalibration_succeeds _ h)
      rintro ⟨_, dev'⟩ φ' ⟨rfl, h'⟩
      apply Prog.wp_mono _ _ _ (configure_succeeds dev' h')
      rintro r φ'' ⟨hr, h''⟩
      rw [hr]
      exact h''
  · rw [show Past.statusReads _ = 0 from rfl]
    omega

/-- The handle has one of the two addresses of the chip. -/
def KnownAddress (dev : Handle) : Prop := dev.addr = i2cAddress0 ∨ dev.addr = i2cAddress1

/-- Where the thread of `BMP280_init` may end. -/
def Returned (dev : Handle) : Label → Phase → Prop
  | .returned ok _, φ =>
    φ.stage = .idle ∧ (ok = true ↔ KnownAddress dev ∧ φ.past.metTransfer = false)
  | .ops, _ => False

theorem init_returns (dev : Handle) {fuel : Nat} (hfuel : reads < fuel) :
    (init fuel dev).wp (opMonitor reads) {} fun r φ => Returned dev (.returned r.1 r.2) φ := by
  apply Prog.wp_step rfl
  intro _ _
  by_cases haddr : dev.addr ≠ i2cAddress0 ∧ dev.addr ≠ i2cAddress1
  · rw [if_pos haddr]
    apply Prog.wp_step rfl
    intro _ _
    refine ⟨rfl, fun h => (nomatch h), ?_⟩
    rintro ⟨h0 | h1, -⟩
    · exact absurd h0 haddr.1
    · exact absurd h1 haddr.2
  · rw [if_neg haddr]
    apply Prog.wp_bind_of _ _ _ (probe_returns dev hfuel)
    rintro ⟨ok, dev'⟩ φ ⟨hidle, hmet⟩
    apply Prog.wp_step hidle
    intro _ _
    have hknown : KnownAddress dev := by
      by_contra hunknown
      exact haddr (not_or.mp hunknown)
    have hok : ok = true ↔ φ.past.metTransfer = false := by rw [hmet]; simp
    exact ⟨hidle, hok.trans (and_iff_right hknown).symm⟩

theorem initCode_returns (dev : Handle) {fuel : Nat} (hfuel : reads < fuel) :
    (initCode fuel dev).wp (monitor reads true) {} (Returned dev) := by
  have hhang : ∀ φ, (opMonitor reads).hangs φ → (monitor reads true).hangs φ := fun _ h => h
  have hinit : (expand (init fuel dev)).wp (monitor reads true) {} fun r φ =>
      Returned dev (.returned r.1 r.2) φ :=
    Prog.wp_inline_of hhang codeOf_follows _ _ (init_returns dev hfuel)
  apply Prog.wp_bind_of _ _ _ hinit
  intro r φ h
  exact h

end Init

end MeteoL053.Bmp280.Traffic
