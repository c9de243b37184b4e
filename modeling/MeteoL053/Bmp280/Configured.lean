import MeteoL053.Lib.Threads
import MeteoL053.Bmp280.Thread

/-!
The BMP280 thread reports a measurement only from a configured sensor, in the
runs in which faults last: an initialisation returns true exactly when it met
no fault, and at every read of the measurement registers the last one was made
since the sensor was switched on.
-/

namespace MeteoL053.Bmp280

open CallTree

/-- The monitor of the thread knows the state. A measurement is reported after
an initialisation that returned true, and operations start without the bus. -/
def monitor : Monitor Call Reply State where
  hangs _ := True
  allows s
    | .setHwStatus .ok | .chMBPost _ => s.result = some true
    | .busOp _ | .opDone .. => s.held = false
    | _ => True
  answers s c r := possible s c r ∧ FaultsLast s c r
  next := effect

@[simp] theorem State.met_false (s : State) : s.met false = s := by
  simp [State.met]

theorem State.met_of_not_inInit {s : State} (h : s.inInit = false) (b : Bool) : s.met b = s := by
  have hb : (s.inInit && b) = false := by rw [h, Bool.false_and]
  rw [State.met, hb, Bool.or_false]

/-! ## The bus operations -/

theorem next_i2cState {s : State} (h : s.held = true) (r : I2cState) :
    monitor.next s .i2cState r = s := by
  simp [monitor, effect, h]

theorem checkI2CCondition_keeps {s : State} (h : s.held = true) :
    Bus.checkI2CCondition.wp monitor s fun _ s' => s' = s := by
  apply Prog.wp_step trivial
  intro r _
  rw [next_i2cState h]
  split
  · apply Prog.wp_step trivial
    intro _ _
    apply Prog.wp_step trivial
    intro _ _
    exact Prog.wp_step trivial fun r _ => next_i2cState h r
  · exact Prog.wp_step trivial fun r _ => next_i2cState h r

theorem Transfer.run_keeps (x : Bus.Transfer) (s : State) :
    x.run.wp monitor s fun _ s' => s' = s := by
  cases x with
  | transmit addr tx rxBytes =>
    exact Prog.wp_step trivial fun _ _ => ⟨trivial, fun _ _ => rfl⟩
  | receive addr rxBytes =>
    exact Prog.wp_step trivial fun _ _ => ⟨trivial, fun _ _ => rfl⟩

theorem State.release {s : State} (h : s.held = false) :
    ({ s with held := false } : State) = s := by
  rw [← h]

theorem checkedOp_keeps {α : Type} (x : Bus.Transfer) (failed : α)
    (result : Msg → List UInt8 → α) {s : State} (h : s.held = false) :
    (Bus.checkedOp x failed result).wp monitor s fun _ s' => s' = s := by
  apply Prog.wp_step trivial
  intro _ _
  apply Prog.wp_bind_of _ _ _ (checkI2CCondition_keeps rfl)
  rintro ok _ rfl
  cases ok with
  | false =>
    exact Prog.wp_step trivial fun _ _ => Prog.wp_step trivial fun _ _ => State.release h
  | true =>
    apply Prog.wp_bind_of _ _ _ (Transfer.run_keeps x _)
    rintro ⟨msg, rx⟩ _ rfl
    exact Prog.wp_step trivial fun _ _ => Prog.wp_step trivial fun _ _ => State.release h

theorem bmp280WriteRegister8_keeps (dev addr value : UInt8) {s : State} (h : s.held = false) :
    (Bus.bmp280WriteRegister8 dev addr value).wp monitor s fun _ s' => s' = s := by
  apply Prog.wp_step trivial
  intro _ _
  apply Prog.wp_bind_of _ _ _ (Transfer.run_keeps _ _)
  rintro ⟨msg, rx⟩ _ rfl
  exact Prog.wp_step trivial fun _ _ => Prog.wp_step trivial fun _ _ => State.release h

theorem performOp_keeps (op : BusOp) {s : State} (h : s.held = false) :
    (Bus.performOp op).wp monitor s fun _ s' => s' = s := by
  cases op with
  | bmp280WriteRegister8 dev addr value => exact bmp280WriteRegister8_keeps dev addr value h
  | as3935Write dev regAdd dataMask regData =>
    apply Prog.wp_bind_of _ _ _ (checkedOp_keeps _ _ _ h)
    rintro _ _ rfl
    exact checkedOp_keeps _ _ _ h
  | _ =>
    simp only [Bus.performOp]
    exact checkedOp_keeps _ _ _ h

/-- The code behind a call leads where the call leads. -/
theorem codeOf_follows (s : State) (c : Call) (h : monitor.allows s c) :
    (Bus.codeOf c).wp monitor s fun r s' =>
      monitor.answers s c r ∧ s' = monitor.next s c r := by
  cases c with
  | busOp op =>
    apply Prog.wp_bind_of _ _ _ (performOp_keeps op h)
    rintro r _ rfl
    exact Prog.wp_step h fun _ hr => ⟨hr, rfl⟩
  | _ => exact ⟨h, fun r hr => ⟨hr, rfl⟩⟩

theorem expand_follows {α : Type} {p : Fw α} {s : State} {Q : α → State → Prop}
    (h : p.wp monitor s Q) : (Bus.expand p).wp monitor s Q :=
  Prog.wp_inline codeOf_follows p s h

/-! ## Register accesses -/

section Accesses

variable {α : Type} {dev : Handle} {addr : UInt8} {s : State} {Q : α → State → Prop}

theorem wp_readRegister16 {f : Option UInt16 → Fw α} (h : s.held = false)
    (failed : (f none).wp monitor (s.met true) Q) (ok : ∀ v, (f (some v)).wp monitor s Q) :
    (readRegister16 dev addr >>= f).wp monitor s Q := by
  apply Prog.wp_step h
  intro r _
  cases r with
  | none => exact failed
  | some v =>
    have hnext : monitor.next s (.busOp (.bmp280ReadRegister16 dev.addr addr)) (some v) = s :=
      s.met_false
    rw [hnext]
    exact ok v

/-- A read outside the status and the id register; of the measurement
registers it is known that the last initialisation met no fault. -/
theorem wp_readData {len : Nat} {f : Option (List UInt8) → Fw α} (h : s.held = false)
    (hstatus : addr ≠ regStatus) (hid : addr ≠ regId)
    (failed : (f none).wp monitor (s.met true) Q)
    (ok : ∀ rx, (addr = regData → s.fault = false) → (f (some rx)).wp monitor s Q) :
    (readData dev addr len >>= f).wp monitor s Q := by
  apply Prog.wp_step h
  intro r hr
  cases r with
  | none =>
    have hnext : monitor.next s (.busOp (.bmp280ReadData dev.addr addr len)) none = s.met true := by
      simp [monitor, effect, faulty, hstatus]
    rw [hnext]
    exact failed
  | some rx =>
    have hnext : monitor.next s (.busOp (.bmp280ReadData dev.addr addr len)) (some rx) = s := by
      simp [monitor, effect, faulty, hid]
    rw [hnext]
    apply ok rx
    intro hdata
    exact hr.2 (by simp [measured, hdata])

/-- A poll of the status register is no fault. -/
theorem wp_readStatus {len : Nat} {f : Option (List UInt8) → Fw α} (h : s.held = false)
    (hf : ∀ rx, (f rx).wp monitor s Q) :
    (readData dev regStatus len >>= f).wp monitor s Q := by
  apply Prog.wp_step h
  intro r _
  have hnext : monitor.next s (.busOp (.bmp280ReadData dev.addr regStatus len)) r = s := by
    cases r <;> exact s.met_false
  rw [hnext]
  exact hf r

theorem wp_writeRegister8 {value : UInt8} {f : Bool → Fw α} (h : s.held = false)
    (failed : (f true).wp monitor (s.met true) Q) (ok : (f false).wp monitor s Q) :
    (writeRegister8 dev addr value >>= f).wp monitor s Q := by
  apply Prog.wp_step h
  intro r _
  cases r with
  | true => exact failed
  | false =>
    have hnext : monitor.next s (.busOp (.bmp280WriteRegister8 dev.addr addr value)) false = s :=
      s.met_false
    rw [hnext]
    exact ok

end Accesses

/-! ## `BMP280_init` returns true exactly when it met no fault -/

/-- The first result of `p` tells whether `p` met no fault. -/
def Tells {α : Type} (p : Fw (Bool × α)) (P : α → Prop) : Prop :=
  ∀ s : State, s.held = false → p.wp monitor s fun r s' => s' = s.met (!r.1) ∧ P r.2

theorem readRegisters_tells (dev : Handle)
    (regs : List (UInt8 × (Calibration → UInt16 → Calibration))) (cal : Calibration) :
    Tells (readRegisters dev regs cal) fun _ => True := by
  intro s h
  induction regs generalizing cal with
  | nil => exact ⟨s.met_false.symm, trivial⟩
  | cons reg regs ih =>
    obtain ⟨addr, store⟩ := reg
    apply wp_readRegister16 h
    · exact ⟨rfl, trivial⟩
    · intro v
      exact ih (store cal v)

theorem readHumCalibrationData_tells (dev : Handle) (cal : Calibration) :
    Tells (readHumCalibrationData dev cal) fun _ => True := by
  intro s h
  have failed : ∀ cal, (Prog.ret (false, cal) : Fw (Bool × Calibration)).wp monitor (s.met true)
      fun r s' => s' = s.met (!r.1) ∧ True := fun _ => ⟨rfl, trivial⟩
  apply wp_readData h (by decide) (by decide) (failed _)
  intro h1 _
  apply wp_readRegister16 h (failed _)
  intro h2
  apply wp_readData h (by decide) (by decide) (failed _)
  intro h3 _
  apply wp_readRegister16 h (failed _)
  intro h4
  apply wp_readRegister16 h (failed _)
  intro h5
  apply wp_readData h (by decide) (by decide) (failed _)
  intro h6 _
  exact ⟨s.met_false.symm, trivial⟩

theorem loadCalibration_tells (dev : Handle) :
    Tells (loadCalibration dev) fun dev' => dev'.addr = dev.addr := by
  intro s h
  apply Prog.wp_bind_of _ _ _ (readRegisters_tells dev calibrationRegisters dev.cal s h)
  rintro ⟨ok, cal⟩ _ ⟨rfl, -⟩
  cases ok with
  | false => exact ⟨rfl, rfl⟩
  | true =>
    rw [Bool.not_true, State.met_false]
    simp only [Bool.not_true, Bool.false_eq_true, if_false]
    split
    · apply Prog.wp_bind_of _ _ _ (readHumCalibrationData_tells dev cal s h)
      rintro ⟨ok, cal⟩ _ ⟨rfl, -⟩
      exact ⟨rfl, rfl⟩
    · exact ⟨s.met_false.symm, rfl⟩

theorem waitCopied_follows (dev : Handle) (fuel : Nat) {s : State} (h : s.held = false) :
    (waitCopied dev fuel).wp monitor s fun ok s' => s' = s.met (!ok) := by
  induction fuel with
  | zero => trivial
  | succ fuel ih =>
    apply Prog.wp_step trivial
    intro state _
    have hnext : monitor.next s .i2cState state = s.met (state ≠ I2cState.ready) := by
      simp [monitor, effect, h]
    rw [hnext]
    split
    · next hs => rw [decide_eq_true hs]; rfl
    · next hs =>
      rw [decide_eq_false hs, State.met_false]
      apply wp_readStatus h
      intro rx
      cases rx with
      | none => exact ih
      | some status =>
        dsimp only
        split
        · exact s.met_false.symm
        · exact ih

theorem writeControl_follows (dev : Handle) {s : State} (h : s.held = false) :
    (writeControl dev).wp monitor s fun ok s' => s' = s.met (!ok) := by
  have hctrl : ∀ ctrl, (do return !(← writeRegister8 dev regCtrl ctrl) : Fw Bool).wp monitor s
      fun ok s' => s' = s.met (!ok) :=
    fun _ => wp_writeRegister8 h rfl s.met_false.symm
  unfold writeControl
  dsimp only
  split
  · exact wp_writeRegister8 h rfl (hctrl _)
  · exact hctrl _

theorem configure_tells (dev : Handle) :
    Tells (configure dev) fun dev' => dev'.addr = dev.addr := by
  intro s h
  apply wp_writeRegister8 h
  · exact ⟨rfl, rfl⟩
  · apply Prog.wp_bind_of _ _ _ (writeControl_follows _ h)
    rintro ok _ rfl
    exact ⟨rfl, rfl⟩

theorem probe_tells (fuel : Nat) (dev : Handle) :
    Tells (probe fuel dev) fun dev' => dev'.addr = dev.addr := by
  intro s h
  apply Prog.wp_step h
  intro rx _
  cases rx with
  | none => exact ⟨rfl, rfl⟩
  | some id =>
    dsimp only
    split
    · next hid =>
      have hnext : monitor.next s (.busOp (.bmp280ReadData dev.addr regId 1)) (some id) =
          s.met true := by
        simp only [monitor, effect, faulty]
        rw [decide_eq_true hid.1, decide_eq_true hid.2]
        rfl
      exact ⟨hnext, rfl⟩
    · next hid =>
      have hnext : monitor.next s (.busOp (.bmp280ReadData dev.addr regId 1)) (some id) = s := by
        simp only [monitor, effect, faulty]
        rw [Bool.and_assoc, ← Bool.decide_and, decide_eq_false hid, Bool.and_false, State.met_false]
      rw [hnext]
      apply wp_writeRegister8 h
      · exact ⟨rfl, rfl⟩
      · apply Prog.wp_bind_of _ _ _ (waitCopied_follows _ fuel h)
        rintro ok _ rfl
        cases ok with
        | false => exact ⟨rfl, rfl⟩
        | true =>
          rw [Bool.not_true, State.met_false]
          apply Prog.wp_bind_of _ _ _ (loadCalibration_tells _ s h)
          rintro ⟨ok, dev'⟩ _ ⟨rfl, haddr⟩
          cases ok with
          | false => exact ⟨rfl, haddr⟩
          | true =>
            rw [Bool.not_true, State.met_false]
            refine Prog.wp_mono _ _ ?_ (configure_tells dev' s h)
            rintro r s' ⟨hs', ha⟩
            exact ⟨hs', ha.trans haddr⟩

/-- The state after an initialisation that returned `ok`. -/
def State.initialised (s : State) (ok : Bool) : State :=
  { s with inInit := false, fault := !ok, result := some ok }

/-- **`BMP280_init`**, on the handle of the thread. -/
theorem init_follows (fuel : Nat) {dev : Handle} (haddr : dev.addr = i2cAddress1) {s : State}
    (h : s.held = false) :
    (init fuel dev).wp monitor s fun r s' =>
      s' = s.initialised r.1 ∧ r.2.addr = i2cAddress1 := by
  apply Prog.wp_step trivial
  intro _ _
  have hvalid : ¬(dev.addr ≠ i2cAddress0 ∧ dev.addr ≠ i2cAddress1) := fun hc => hc.2 haddr
  rw [if_neg hvalid]
  apply Prog.wp_bind_of _ _ _ (probe_tells fuel dev { s with inInit := true, fault := false } h)
  rintro ⟨ok, dev'⟩ _ ⟨rfl, ha⟩
  apply Prog.wp_step trivial
  intro _ _
  exact ⟨rfl, ha.trans haddr⟩

/-! ## Measurements -/

section Measurements

variable {s : State} (hi : s.inInit = false) (h : s.held = false)
include hi h

/-- Outside an initialisation no operation is a fault. -/
theorem wp_busOp {α : Type} {op : BusOp} {f : op.Result → Fw α} {Q : α → State → Prop}
    (hf : ∀ r, (measured op r = true → s.fault = false) → (f r).wp monitor s Q) :
    (ask (.busOp op) >>= f).wp monitor s Q := by
  apply Prog.wp_step h
  intro r hr
  have hnext : monitor.next s (.busOp op) r = s := State.met_of_not_inInit hi _
  rw [hnext]
  exact hf r hr.2

theorem forceMeasurement_keeps (dev : Handle) :
    (forceMeasurement dev).wp monitor s fun _ s' => s' = s := by
  apply wp_busOp hi h
  intro rx _
  cases rx with
  | none => rfl
  | some rx => exact wp_busOp hi h fun _ _ => rfl

theorem isMeasuring_keeps (dev : Handle) :
    (isMeasuring dev).wp monitor s fun _ s' => s' = s := by
  apply wp_busOp hi h
  intro rx _
  cases rx <;> rfl

theorem waitMeasured_keeps (dev : Handle) (start : UInt16) (fuel : Nat) :
    (waitMeasured dev start fuel).wp monitor s fun _ s' => s' = s := by
  induction fuel with
  | zero => trivial
  | succ fuel ih =>
    apply Prog.wp_bind_of _ _ _ (isMeasuring_keeps hi h dev)
    rintro measuring _ rfl
    cases measuring with
    | false => rfl
    | true =>
      apply Prog.wp_step trivial
      intro now _
      generalize timeIsInRange now start (start + 2000) = within
      cases within with
      | true => exact ih
      | false => rfl

/-- A measurement comes from an initialisation without a fault. -/
theorem readFixed_follows (dev : Handle) :
    (readFixed dev).wp monitor s fun r s' => s' = s ∧ (r.isSome → s.fault = false) := by
  apply wp_busOp hi h
  intro rx hrx
  cases rx with
  | none => exact ⟨rfl, nofun⟩
  | some data => exact ⟨rfl, fun _ => hrx rfl⟩

theorem readFloat_follows (fuel : Nat) (dev : Handle) :
    (readFloat fuel dev).wp monitor s fun r s' => s' = s ∧ (r.isSome → s.fault = false) := by
  unfold readFloat
  split
  · apply Prog.wp_bind_of _ _ _ (forceMeasurement_keeps hi h dev)
    rintro ok _ rfl
    cases ok with
    | false => exact ⟨rfl, nofun⟩
    | true =>
      apply Prog.wp_step trivial
      intro start _
      apply Prog.wp_step trivial
      intro _ _
      apply Prog.wp_bind_of _ _ _ (waitMeasured_keeps hi h dev start fuel)
      rintro ok _ rfl
      cases ok with
      | false => exact ⟨rfl, nofun⟩
      | true => exact readFixed_follows hi h dev
  · exact readFixed_follows hi h dev

end Measurements

/-! ## The thread -/

section Thread

variable {fuel : Nat} {enablePinLine : Option Line} {conv : Conversion}

/-- Between two functions of the driver. -/
structure Idle (s : State) : Prop where
  outside : s.inInit = false
  released : s.held = false

/-- The last initialisation was made since the power was switched, and returned
whether it met no fault. -/
def Tied (s : State) : Prop := s.result = some (!s.fault)

/-- The next `deviceStart` leaves an initialised sensor. -/
def Startable (enablePinLine : Option Line) (s : State) : Prop :=
  Tied s ∨ enablePinLine.isSome = true ∧ s.pin = false

theorem Idle.initialised {s : State} (h : Idle s) (ok : Bool) : Idle (s.initialised ok) :=
  ⟨rfl, h.released⟩

theorem deviceStart_follows {dev : Handle} (haddr : dev.addr = i2cAddress1) {s : State}
    (h : Idle s) :
    (deviceStart fuel enablePinLine dev).wp monitor s fun dev' s' =>
      dev'.addr = i2cAddress1 ∧ Idle s' ∧ (enablePinLine.isSome = true → s'.pin = true) ∧
        (Startable enablePinLine s → Tied s') := by
  cases enablePinLine with
  | none =>
    refine ⟨haddr, h, nofun, ?_⟩
    rintro (ht | ⟨hc, -⟩)
    · exact ht
    · cases hc
  | some line =>
    apply Prog.wp_step trivial
    intro level hlevel
    have hpin : level = s.pin := hlevel.1
    cases level with
    | true =>
      refine ⟨haddr, h, fun _ => hpin.symm, ?_⟩
      rintro (ht | ⟨-, hp⟩)
      · exact ht
      · cases hpin.trans hp
    | false =>
      apply Prog.wp_step trivial
      intro _ _
      apply Prog.wp_step trivial
      intro _ _
      refine Prog.wp_bind_of _ _ _ (init_follows fuel haddr h.released) ?_
      rintro ⟨ok, dev'⟩ _ ⟨rfl, ha⟩
      apply Prog.wp_step trivial
      intro _ _
      refine ⟨ha, ⟨rfl, h.released⟩, fun _ => rfl, fun _ => ?_⟩
      cases ok <;> rfl

theorem deviceStop_follows {s : State} (h : Idle s) (ht : Tied s)
    (hpin : enablePinLine.isSome = true → s.pin = true) :
    (deviceStop enablePinLine).wp monitor s fun _ s' => Idle s' ∧ Startable enablePinLine s' := by
  cases enablePinLine with
  | none => exact ⟨h, .inl ht⟩
  | some line =>
    apply Prog.wp_step trivial
    intro level hlevel
    have hlevel : level = true := Eq.trans hlevel.1 (hpin rfl)
    subst hlevel
    exact ⟨trivial, fun _ _ => ⟨⟨h.outside, h.released⟩, .inr ⟨rfl, rfl⟩⟩⟩

theorem tryReconfigure_follows (status : HwStatus) {dev : Handle}
    (haddr : dev.addr = i2cAddress1) {s : State} (h : Idle s) (ht : Tied s) :
    (tryReconfigure fuel status dev).wp monitor s fun dev' s' =>
      dev'.addr = i2cAddress1 ∧ Idle s' ∧ s'.pin = s.pin ∧ Tied s' := by
  unfold tryReconfigure
  split
  · apply Prog.wp_bind_of _ _ _ (init_follows fuel haddr h.released)
    rintro ⟨ok, dev'⟩ _ ⟨rfl, ha⟩
    refine ⟨ha, h.initialised ok, rfl, ?_⟩
    cases ok <;> rfl
  · exact ⟨haddr, h, rfl, ht⟩

theorem sendReading_keeps (cmd : UInt8) (args : List UInt32) {s : State}
    (h : s.result = some true) :
    (Stream.sendReading cmd args).wp monitor s fun _ s' => s' = s := by
  have hcall : ∀ c, Stream.StreamCall c →
      monitor.allows s c ∧ ∀ r, monitor.answers s c r → monitor.next s c r = s := by
    intro c hc
    cases c with
    | chPoolAlloc | load o | store o v => exact ⟨trivial, fun _ _ => rfl⟩
    | chMBPost o => exact ⟨h, fun _ _ => rfl⟩
    | _ => exact hc.elim
  exact (Stream.sendReading_all cmd args).wp hcall trivial

theorem report_keeps {x : Option Fixed} {s : State} (ht : Tied s)
    (hx : x.isSome → s.fault = false) : (report conv x).wp monitor s fun _ s' => s' = s := by
  cases x with
  | none => exact Prog.wp_step trivial fun _ _ => rfl
  | some x =>
    have hresult : s.result = some true := by rw [ht, hx rfl]; rfl
    iterate 3
      apply Prog.wp_step trivial
      intro _ _
    apply Prog.wp_step hresult
    intro _ _
    apply Prog.wp_bind_of _ _ _ (sendReading_keeps _ _ hresult)
    rintro _ _ rfl
    rfl

/-- What holds when a block is entered. -/
def Enters (enablePinLine : Option Line) : Label → State → Prop
  | .startUp dev _, s => dev.addr = i2cAddress1 ∧ Idle s
  | .loop dev _ _, s => dev.addr = i2cAddress1 ∧ Idle s ∧ Startable enablePinLine s

theorem startUp_follows {dev : Handle} (interval : UInt16) (haddr : dev.addr = i2cAddress1)
    {s : State} (h : Idle s) :
    (startUp fuel enablePinLine dev interval).wp monitor s (Enters enablePinLine) := by
  apply Prog.wp_step trivial
  intro _ _
  apply Prog.wp_step trivial
  intro _ _
  apply Prog.wp_bind_of _ _ _ (deviceStart_follows haddr h)
  rintro dev₁ s₁ ⟨haddr₁, hidle₁, hpin₁, -⟩
  apply Prog.wp_bind_of _ _ _ (init_follows fuel haddr₁ hidle₁.released)
  rintro ⟨ok, dev₂⟩ _ ⟨rfl, haddr₂⟩
  have ht : Tied (s₁.initialised ok) := by cases ok <;> rfl
  -- the status is OK only if this initialisation returned true
  have hstatus : monitor.allows (s₁.initialised ok)
      (.setHwStatus (if ok then HwStatus.ok else HwStatus.error)) := by
    cases ok with
    | true => rfl
    | false => trivial
  apply Prog.wp_step hstatus
  intro _ _
  apply Prog.wp_step trivial
  intro _ _
  apply Prog.wp_bind_of _ _ _ (deviceStop_follows (hidle₁.initialised ok) ht hpin₁)
  rintro _ s₂ hs₂
  apply Prog.wp_step trivial
  intro _ _
  exact ⟨haddr₂, hs₂⟩

theorem loop_follows {dev : Handle} (status : HwStatus) (interval : UInt16)
    (haddr : dev.addr = i2cAddress1) {s : State} (h : Idle s) (hs : Startable enablePinLine s) :
    (loop fuel enablePinLine conv dev status interval).wp monitor s (Enters enablePinLine) := by
  apply Prog.wp_bind_of _ _ _ (deviceStart_follows haddr h)
  rintro dev₁ s₁ ⟨haddr₁, hidle₁, hpin₁, ht₁⟩
  apply Prog.wp_bind_of _ _ _ (tryReconfigure_follows status haddr₁ hidle₁ (ht₁ hs))
  rintro dev₂ s₂ ⟨haddr₂, hidle₂, hpin₂, ht₂⟩
  apply Prog.wp_bind_of _ _ _
    (readFloat_follows hidle₂.outside hidle₂.released fuel dev₂)
  rintro x _ ⟨rfl, hx⟩
  apply Prog.wp_bind_of _ _ _ (report_keeps ht₂ hx)
  rintro status _ rfl
  apply Prog.wp_bind_of _ _ _
    (deviceStop_follows hidle₂ ht₂ fun hp => hpin₂.trans (hpin₁ hp))
  rintro _ s₃ hs₃
  apply Prog.wp_step trivial
  intro msg _
  exact ⟨haddr₂, hs₃⟩

theorem code_follows (l : Label) {s : State} (h : Enters enablePinLine l s) :
    (code fuel enablePinLine conv l).wp monitor s (Enters enablePinLine) := by
  cases l with
  | startUp dev interval => exact startUp_follows interval h.1 h.2
  | loop dev status interval => exact loop_follows status interval h.1 h.2.1 h.2.2

end Thread

/-! ## Runs -/

theorem reachable_inv {fuel : Nat} {enablePinLine : Option Line} {conv : Conversion}
    {interval : UInt16} {pin : Bool} {p : Pool Unit Call Reply Label State}
    (h : ((system fuel enablePinLine conv).restrict fun _ => FaultsLast).Reachable
      (initial interval pin) p) :
    System.Inv (fun _ => monitor) (fun _ => Enters enablePinLine) (fun ph s => ph () = s) p := by
  apply h.invariant
  · intro _ l s hs
    exact expand_follows (code_follows l hs)
  · rintro ph s ⟨⟩ c r rfl _ hr
    exact ⟨hr, by rw [Function.update_self]; rfl⟩
  · exact ⟨fun _ => (initial interval pin).shared, fun _ => ⟨rfl, rfl, rfl⟩, rfl⟩

instance (fuel : Nat) (enablePinLine : Option Line) (conv : Conversion) (t : Unit) (s : State)
    (c : Call) (r : Reply c) : Decidable ((system fuel enablePinLine conv).possible t s c r) :=
  inferInstanceAs (Decidable (possible s c r))

instance (fuel : Nat) (enablePinLine : Option Line) (conv : Conversion) (t : Unit) (s : State)
    (c : Call) (r : Reply c) :
    Decidable (((system fuel enablePinLine conv).restrict fun _ => FaultsLast).possible t s c r) :=
  inferInstanceAs (Decidable (possible s c r ∧ FaultsLast s c r))

/-- A checked transfer to the sensor, with the driver READY. -/
def transfer (tx : List UInt8) (rxBytes : Nat) (msg : Msg) (rx : List UInt8) :
    List (Unit × (c : Call) × Reply c) :=
  [((), ⟨.i2cAcquireBus, ()⟩), ((), ⟨.i2cState, .ready⟩), ((), ⟨.i2cState, .ready⟩),
   ((), ⟨.i2cMasterTransmit i2cAddress1 tx rxBytes, ()⟩), ((), ⟨.i2cWait, (msg, rx)⟩),
   ((), ⟨.i2cReleaseBus, ()⟩), ((), ⟨.opReturn, ()⟩)]

/-- A successful `BMP280_read_data`. -/
def dataRead (addr : UInt8) (rx : List UInt8) : List (Unit × (c : Call) × Reply c) :=
  transfer [addr] rx.length .ok rx ++
    [((), ⟨.opDone (.bmp280ReadData i2cAddress1 addr rx.length) (some rx), ()⟩)]

/-- A `BMP280_init` whose first transfer, the read of the id, is not acknowledged;
the HAL leaves the driver READY then. -/
def failedInit : List (Unit × (c : Call) × Reply c) :=
  ((), ⟨.enter .bmp280Init, ()⟩) :: transfer [regId] 1 .reset [] ++
    [((), ⟨.opDone (.bmp280ReadData i2cAddress1 regId 1) none, ()⟩),
     ((), ⟨.leave .bmp280Init false, ()⟩)]

/-- The calls of `report` for a measurement that converts to zeros, up to the post. -/
def reportZeros : List (Unit × (c : Call) × Reply c) :=
  [((), ⟨.setHwValue 0 0, ()⟩), ((), ⟨.setHwValue 1 0, ()⟩), ((), ⟨.setHwValue 2 0, ()⟩),
   ((), ⟨.setHwStatus .ok, ()⟩), ((), ⟨.chPoolAlloc, some (4 : Obj)⟩),
   ((), ⟨.load 4, blank⟩),
   ((), ⟨.store 4 ((Msp.createMspFrame blank hwId [0, 0, 0]).getD blank), ()⟩)]

def toZeros : Conversion := ⟨fun _ => 0, fun _ => 0, fun _ => 0⟩

/-- `deviceStart` with the line low and the calls of `BMP280_init` given. -/
def switchOn (initCalls : List (Unit × (c : Call) × Reply c)) :
    List (Unit × (c : Call) × Reply c) :=
  [((), ⟨.palReadLine .bmp280Enable, false⟩), ((), ⟨.palSetLine .bmp280Enable, ()⟩),
   ((), ⟨.chThdSleepMilliseconds 100, ()⟩)] ++ initCalls ++
  [((), ⟨.chThdSleepMilliseconds 100, ()⟩)]

/-- The start-up with an `initCalls` at both places and the resulting status. -/
def startUpCalls (initCalls : List (Unit × (c : Call) × Reply c)) (status : HwStatus) :
    List (Unit × (c : Call) × Reply c) :=
  [((), ⟨.registerSchedule hwId, ()⟩), ((), ⟨.chThdSleepMilliseconds 1000, ()⟩)] ++
  switchOn initCalls ++ initCalls ++
  [((), ⟨.setHwStatus status, ()⟩), ((), ⟨.registerHw hwId, ()⟩),
   ((), ⟨.palReadLine .bmp280Enable, true⟩), ((), ⟨.palClearLine .bmp280Enable, ()⟩),
   ((), ⟨.chThdSleepMilliseconds 1000, ()⟩)]

/-- Every initialisation fails at its first transfer, and the read of the
measurement registers succeeds. The mode is still FORCED, so that
`BMP280_read_float` reads at once. -/
def unconfiguredRun : List (Unit × (c : Call) × Reply c) :=
  startUpCalls failedInit .error ++ switchOn failedInit ++ failedInit ++
  dataRead regData [0x80, 0, 0, 0x80, 0, 0] ++ reportZeros

/-- A frame is posted though every `BMP280_init` has returned false. -/
theorem report_unconfigured :
    ∃ p, (system 1 (some .bmp280Enable) toZeros).Reachable (initial 300 false) p ∧
      p.AboutTo () (.chMBPost 4) ∧ p.shared.result = some false := by
  obtain ⟨p, h, hp⟩ := System.Reachable.exists_of_playAll
    (system 1 (some .bmp280Enable) toZeros) (initial 300 false) unconfiguredRun
    (fun p => (p.nextCall (), p.shared.result)) (b := (some (.chMBPost 4), some false))
    (by decide +kernel)
  obtain ⟨hc, hr⟩ := Prod.mk.inj hp
  exact ⟨p, h, Pool.aboutTo_of_nextCall hc, hr⟩

/-- **No weather frame from an unconfigured sensor**, in the runs in which a
fault of an initialisation lasts until the measurement registers are read: the
status becomes OK and a frame is posted only when the last `BMP280_init`, made
since the sensor was switched on, has returned true. -/
theorem report_configured {fuel : Nat} {enablePinLine : Option Line} {conv : Conversion}
    {interval : UInt16} {pin : Bool} {p : Pool Unit Call Reply Label State}
    (h : ((system fuel enablePinLine conv).restrict fun _ => FaultsLast).Reachable
      (initial interval pin) p) :
    (p.AboutTo () (.setHwStatus .ok) → p.shared.result = some true) ∧
    ∀ o, p.AboutTo () (.chMBPost o) → p.shared.result = some true := by
  have hinv := reachable_inv h
  constructor
  · intro hp
    obtain ⟨ph, ha, hs⟩ := hinv.allows hp
    rw [← hs]
    exact ha
  · intro o hp
    obtain ⟨ph, ha, hs⟩ := hinv.allows hp
    rw [← hs]
    exact ha

/-- A successful `BMP280_read_register16` of a zero. -/
def zeroRead (addr : UInt8) : List (Unit × (c : Call) × Reply c) :=
  transfer [addr] 2 .ok [0, 0] ++
    [((), ⟨.opDone (.bmp280ReadRegister16 i2cAddress1 addr) (some 0), ()⟩)]

/-- A successful `BMP280_write_register8`. -/
def written (addr value : UInt8) : List (Unit × (c : Call) × Reply c) :=
  [((), ⟨.i2cAcquireBus, ()⟩), ((), ⟨.i2cMasterTransmit i2cAddress1 [addr, value] 0, ()⟩),
   ((), ⟨.i2cWait, (.ok, [])⟩), ((), ⟨.i2cReleaseBus, ()⟩), ((), ⟨.opReturn, ()⟩),
   ((), ⟨.opDone (.bmp280WriteRegister8 i2cAddress1 addr value) false, ()⟩)]

/-- A `BMP280_init` that finds a BMP280 with a calibration of zeros. -/
def goodInit : List (Unit × (c : Call) × Reply c) :=
  [((), ⟨.enter .bmp280Init, ()⟩)] ++ dataRead regId [bmp280ChipId] ++
  written regReset resetValue ++ [((), ⟨.i2cState, .ready⟩)] ++ dataRead regStatus [0] ++
  calibrationRegisters.flatMap (fun reg => zeroRead reg.1) ++ written regConfig 0x80 ++
  written regCtrl 0x6C ++ [((), ⟨.leave .bmp280Init true, ()⟩)]

/-- A forced measurement that is read from the configured sensor. -/
def configuredRun : List (Unit × (c : Call) × Reply c) :=
  startUpCalls goodInit .ok ++ switchOn goodInit ++ dataRead regCtrl [0x6C] ++
  written regCtrl 0x6D ++
  [((), ⟨.chVTGetSystemTime, 0⟩), ((), ⟨.chThdSleepMilliseconds 5, ()⟩)] ++
  dataRead regStatus [0] ++ dataRead regData [0x80, 0, 0, 0x80, 0, 0] ++ reportZeros

theorem report_configured_forcedRun :
    ∃ p, ((system 1 (some .bmp280Enable) toZeros).restrict fun _ => FaultsLast).Reachable
        (initial 300 false) p ∧
      p.AboutTo () (.chMBPost 4) ∧ p.shared.result = some true := by
  obtain ⟨p, h, hp⟩ := System.Reachable.exists_of_playAll
    ((system 1 (some .bmp280Enable) toZeros).restrict fun _ => FaultsLast) (initial 300 false)
    configuredRun (fun p => p.nextCall ()) (b := some (.chMBPost 4)) (by decide +kernel)
  have hc := Pool.aboutTo_of_nextCall hp
  exact ⟨p, h, hc, (report_configured h).2 4 hc⟩

end MeteoL053.Bmp280
