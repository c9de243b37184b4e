import MeteoL053.Lib.Run
import MeteoL053.Lib.Fields
import MeteoL053.Bus.Drivers

/-!
The settings of the lightning sensor, `PWFusion_AS3935_I2C.c`: the setters and
getters of the driver over a device that answers every transfer, and the record
of settings they stand for.
-/

namespace MeteoL053.As3935

open CallTree RegisterFile

/-! ## The driver -/

section Driver

variable (dev : UInt8)

/-- `AS3935_SetIndoors`. -/
def setIndoors : Fw Bool := Bus.as3935Write dev 0x00 0x3E 0x24

/-- `AS3935_SetOutdoors`. -/
def setOutdoors : Fw Bool := Bus.as3935Write dev 0x00 0x3E 0x1C

/-- `AS3935_DisturberEn`. -/
def disturberEn : Fw Bool := Bus.as3935Write dev 0x03 0x20 0x00

/-- `AS3935_DisturberDis`. -/
def disturberDis : Fw Bool := Bus.as3935Write dev 0x03 0x20 0x20

/-- `AS3935_SetTuningCaps`. -/
def setTuningCaps (tuneCapacitor : UInt8) : Fw Bool := Bus.as3935Write dev 0x08 0x0F tuneCapacitor

/-- `AS3935_SetIRQ_Output_Source`. -/
def setIRQOutputSource (irqSelect : UInt8) : Fw Bool :=
  if irqSelect = 1 then Bus.as3935Write dev 0x08 0xE0 0x20
  else if irqSelect = 2 then Bus.as3935Write dev 0x08 0xE0 0x40
  else if irqSelect = 3 then Bus.as3935Write dev 0x08 0xE0 0x80
  else Bus.as3935Write dev 0x08 0xE0 0x00

/-- `AS3935_SetMinStrikes`: the number of strikes that was set. -/
def setMinStrikes (minStrk : UInt8) : Fw UInt8 := do
  if minStrk < 5 then
    let _ ← Bus.as3935Write dev 0x02 0x30 0x00
    return 1
  else if minStrk < 9 then
    let _ ← Bus.as3935Write dev 0x02 0x30 0x10
    return 5
  else if minStrk < 16 then
    let _ ← Bus.as3935Write dev 0x02 0x30 0x20
    return 9
  else
    let _ ← Bus.as3935Write dev 0x02 0x30 0x30
    return 16

/-- `AS3935_GetNoiseFloorLvl`. -/
def getNoiseFloorLvl : Fw UInt8 := do
  let regRaw ← Bus.as3935Read dev 0x01
  return (regRaw &&& 0x70) >>> 4

/-- `AS3935_SetNoiseFloorLvl`. -/
def setNoiseFloorLvl (nfSel : UInt8) : Fw Bool :=
  if nfSel ≤ 7 then Bus.as3935Write dev 0x01 0x70 ((nfSel &&& 0x07) <<< 4)
  else Bus.as3935Write dev 0x01 0x70 0x20

/-- `AS3935_GetWatchdogThreshold`. -/
def getWatchdogThreshold : Fw UInt8 := do
  let regRaw ← Bus.as3935Read dev 0x01
  return regRaw &&& 0x0F

/-- `AS3935_SetWatchdogThreshold`. -/
def setWatchdogThreshold (wdth : UInt8) : Fw Bool :=
  Bus.as3935Write dev 0x01 0x0F (wdth &&& 0x0F)

/-- `AS3935_GetSpikeRejection`. -/
def getSpikeRejection : Fw UInt8 := do
  let regRaw ← Bus.as3935Read dev 0x02
  return regRaw &&& 0x0F

/-- `AS3935_SetSpikeRejection`. -/
def setSpikeRejection (srej : UInt8) : Fw Bool :=
  Bus.as3935Write dev 0x02 0x0F (srej &&& 0x0F)

/-- `AS3935_SetLCO_FDIV`. The field starts at bit 6, the value is shifted by 5. -/
def setLCOFDIV (fdiv : UInt8) : Fw Bool :=
  Bus.as3935Write dev 0x03 0xC0 ((fdiv &&& 0x03) <<< 5)

end Driver

/-! ## The settings -/

/-- What the setters set. -/
inductive Setting where
  | afeGain
  | noiseFloor
  | watchdogThreshold
  | spikeRejection
  | minStrikes
  | disturberMask
  | lcoFdiv
  | irqSource
  | tuningCaps
  deriving DecidableEq

/-- Where the device keeps a setting. -/
def field : Setting → BitField UInt8
  | .afeGain => ⟨0x00, 0x3E, 1⟩
  | .noiseFloor => ⟨0x01, 0x70, 4⟩
  | .watchdogThreshold => ⟨0x01, 0x0F, 0⟩
  | .spikeRejection => ⟨0x02, 0x0F, 0⟩
  | .minStrikes => ⟨0x02, 0x30, 4⟩
  | .disturberMask => ⟨0x03, 0x20, 5⟩
  | .lcoFdiv => ⟨0x03, 0xC0, 6⟩
  | .irqSource => ⟨0x08, 0xE0, 5⟩
  | .tuningCaps => ⟨0x08, 0x0F, 0⟩

/-- A value for each setting. -/
abbrev Settings := Setting → UInt8

/-- The settings a register file encodes. -/
def decode (regs : UInt8 → UInt8) : Settings := fun x => (field x).get regs

/-- The setters of the driver with their arguments. -/
inductive Setter where
  | setIndoors
  | setOutdoors
  | setNoiseFloorLvl (nfSel : UInt8)
  | setWatchdogThreshold (wdth : UInt8)
  | setSpikeRejection (srej : UInt8)
  | setMinStrikes (minStrk : UInt8)
  | disturberEn
  | disturberDis
  | setLCOFDIV (fdiv : UInt8)
  | setIRQOutputSource (irqSelect : UInt8)
  | setTuningCaps (tuneCapacitor : UInt8)
  deriving DecidableEq

/-- The code of a setter; the results that say the transfers succeeded are dropped. -/
def Setter.code (dev : UInt8) : Setter → Fw Unit
  | setIndoors => do let _ ← As3935.setIndoors dev
  | setOutdoors => do let _ ← As3935.setOutdoors dev
  | setNoiseFloorLvl nfSel => do let _ ← As3935.setNoiseFloorLvl dev nfSel
  | setWatchdogThreshold wdth => do let _ ← As3935.setWatchdogThreshold dev wdth
  | setSpikeRejection srej => do let _ ← As3935.setSpikeRejection dev srej
  | setMinStrikes minStrk => do let _ ← As3935.setMinStrikes dev minStrk
  | disturberEn => do let _ ← As3935.disturberEn dev
  | disturberDis => do let _ ← As3935.disturberDis dev
  | setLCOFDIV fdiv => do let _ ← As3935.setLCOFDIV dev fdiv
  | setIRQOutputSource irqSelect => do let _ ← As3935.setIRQOutputSource dev irqSelect
  | setTuningCaps tuneCapacitor => do let _ ← As3935.setTuningCaps dev tuneCapacitor

/-- Setters one after the other. -/
def setAll (dev : UInt8) : List Setter → Fw Unit
  | [] => return
  | x :: xs => do
    x.code dev
    setAll dev xs

/-- The ranges the comments of the driver give for the arguments. -/
def Setter.Documented : Setter → Prop
  | setNoiseFloorLvl nfSel => nfSel ≤ 7
  | setWatchdogThreshold wdth => wdth ≤ 15
  | setSpikeRejection srej => srej ≤ 15
  | setLCOFDIV fdiv => fdiv ≤ 3
  | setIRQOutputSource irqSelect => irqSelect ≤ 3
  | setTuningCaps tuneCapacitor => tuneCapacitor ≤ 15
  | _ => True

instance : DecidablePred Setter.Documented
  | .setNoiseFloorLvl nfSel => inferInstanceAs (Decidable (nfSel ≤ 7))
  | .setWatchdogThreshold wdth => inferInstanceAs (Decidable (wdth ≤ 15))
  | .setSpikeRejection srej => inferInstanceAs (Decidable (srej ≤ 15))
  | .setLCOFDIV fdiv => inferInstanceAs (Decidable (fdiv ≤ 3))
  | .setIRQOutputSource irqSelect => inferInstanceAs (Decidable (irqSelect ≤ 3))
  | .setTuningCaps tuneCapacitor => inferInstanceAs (Decidable (tuneCapacitor ≤ 15))
  | .setIndoors | .setOutdoors | .setMinStrikes _ | .disturberEn | .disturberDis => isTrue trivial

/-- The numbers of strikes the device knows, rounded down. -/
def strikes (minStrk : UInt8) : UInt8 :=
  if minStrk < 5 then 1 else if minStrk < 9 then 5 else if minStrk < 16 then 9 else 16

/-- Their codes. -/
def strikesCode (n : UInt8) : UInt8 :=
  if n = 1 then 0 else if n = 5 then 1 else if n = 9 then 2 else 3

/-- What a setter is to set. -/
def Setter.setting : Setter → Setting
  | setIndoors | setOutdoors => .afeGain
  | setNoiseFloorLvl _ => .noiseFloor
  | setWatchdogThreshold _ => .watchdogThreshold
  | setSpikeRejection _ => .spikeRejection
  | setMinStrikes _ => .minStrikes
  | disturberEn | disturberDis => .disturberMask
  | setLCOFDIV _ => .lcoFdiv
  | setIRQOutputSource _ => .irqSource
  | setTuningCaps _ => .tuningCaps

/-- And to which value. The IRQ sources 1, 2 and 3 have a bit each. -/
def Setter.value : Setter → UInt8
  | setIndoors => 0x12
  | setOutdoors => 0x0E
  | setNoiseFloorLvl nfSel => nfSel
  | setWatchdogThreshold wdth => wdth
  | setSpikeRejection srej => srej
  | setMinStrikes minStrk => strikesCode (strikes minStrk)
  | disturberEn => 0
  | disturberDis => 1
  | setLCOFDIV fdiv => fdiv
  | setIRQOutputSource irqSelect =>
    if irqSelect = 1 then 1 else if irqSelect = 2 then 2 else if irqSelect = 3 then 4 else 0
  | setTuningCaps tuneCapacitor => tuneCapacitor

/-- The record of settings after a setter. -/
def Settings.set (s : Settings) (x : Setter) : Settings := Function.update s x.setting x.value

/-! ## A device that answers -/

structure Device where
  regs : UInt8 → UInt8
  /-- what the transfer under way reads -/
  rx : List UInt8

/-- A transfer that reaches the device: it reads from a register on or writes one. -/
def Device.transfer (d : Device) : List UInt8 → Nat → Device
  | [reg], n => { d with rx := (List.range n).map fun i => d.regs (reg + UInt8.ofNat i) }
  | [reg, v], _ => { regs := Function.update d.regs reg v, rx := [] }
  | _, _ => d

/-- Every transfer succeeds; `other` answers the calls that are not about the bus. -/
def answer (other : (c : Call) → Reply c) : Handler Call Reply Device := fun d c =>
  match c with
  | .i2cState => (I2cState.ready, d)
  | .i2cMasterTransmit _ tx rxBytes => ((), d.transfer tx rxBytes)
  | .i2cWait => ((Msg.ok, d.rx), d)
  | c => (other c, d)

section Runs

variable (other : (c : Call) → Reply c) (dev : UInt8) (d : Device)

theorem checkedOp_run {α : Type} (tx : List UInt8) (rxBytes : Nat) (failed : α)
    (result : Msg → List UInt8 → α) :
    (Bus.checkedOp (.transmit dev tx rxBytes) failed result).run (answer other) d =
      some (result .ok (d.transfer tx rxBytes).rx, d.transfer tx rxBytes) := rfl

theorem as3935Read_run (reg : UInt8) :
    (Bus.as3935Read dev reg).run (answer other) d =
      some (d.regs reg, { d with rx := [d.regs reg] }) := by
  rw [Bus.as3935Read, checkedOp_run]
  simp [Device.transfer]

theorem as3935Write_run (reg mask data : UInt8) :
    (Bus.as3935Write dev reg mask data).run (answer other) d =
      some (true, ⟨write d.regs reg mask data, []⟩) := by
  rw [Bus.as3935Write, Prog.run_bind_of (as3935Read_run other dev d reg), checkedOp_run]
  simp [Device.transfer, write, setMasked]

/-- The data byte a setter passes to the masked write. -/
def Setter.data : Setter → UInt8
  | setIndoors => 0x24
  | setOutdoors => 0x1C
  | setNoiseFloorLvl nfSel => if nfSel ≤ 7 then (nfSel &&& 0x07) <<< 4 else 0x20
  | setWatchdogThreshold wdth => wdth &&& 0x0F
  | setSpikeRejection srej => srej &&& 0x0F
  | setMinStrikes minStrk =>
    if minStrk < 5 then 0x00 else if minStrk < 9 then 0x10 else if minStrk < 16 then 0x20 else 0x30
  | disturberEn => 0x00
  | disturberDis => 0x20
  | setLCOFDIV fdiv => (fdiv &&& 0x03) <<< 5
  | setIRQOutputSource irqSelect =>
    if irqSelect = 1 then 0x20 else if irqSelect = 2 then 0x40
    else if irqSelect = 3 then 0x80 else 0x00
  | setTuningCaps tuneCapacitor => tuneCapacitor

/-- The registers after a setter. -/
def Setter.store (regs : UInt8 → UInt8) (x : Setter) : UInt8 → UInt8 :=
  write regs (field x.setting).reg (field x.setting).mask x.data

theorem setMinStrikes_eq (minStrk : UInt8) :
    setMinStrikes dev minStrk =
      (Bus.as3935Write dev 0x02 0x30 (Setter.setMinStrikes minStrk).data >>=
        fun _ => pure (strikes minStrk)) := by
  simp only [setMinStrikes, strikes, Setter.data]
  split
  · rfl
  · split
    · rfl
    · split <;> rfl

theorem setMinStrikes_run (minStrk : UInt8) :
    (setMinStrikes dev minStrk).run (answer other) d =
      some (strikes minStrk, ⟨Setter.store d.regs (.setMinStrikes minStrk), []⟩) := by
  rw [setMinStrikes_eq]
  exact Prog.run_bind_of (as3935Write_run other dev d 0x02 0x30 _) _

theorem setIRQOutputSource_eq (irqSelect : UInt8) :
    setIRQOutputSource dev irqSelect =
      Bus.as3935Write dev 0x08 0xE0 (Setter.setIRQOutputSource irqSelect).data := by
  simp only [setIRQOutputSource, Setter.data, apply_ite (Bus.as3935Write dev 0x08 0xE0)]

theorem setNoiseFloorLvl_eq (nfSel : UInt8) :
    setNoiseFloorLvl dev nfSel =
      Bus.as3935Write dev 0x01 0x70 (Setter.setNoiseFloorLvl nfSel).data := by
  simp only [setNoiseFloorLvl, Setter.data, apply_ite (Bus.as3935Write dev 0x01 0x70)]

/-- Every setter is one masked write to its field. -/
theorem Setter.code_eq (x : Setter) :
    x.code dev = (Bus.as3935Write dev (field x.setting).reg (field x.setting).mask x.data >>=
      fun _ => pure ()) := by
  cases x with
  | setNoiseFloorLvl nfSel =>
    rw [code, setNoiseFloorLvl_eq]
    rfl
  | setMinStrikes minStrk =>
    rw [code, setMinStrikes_eq]
    exact Prog.bind_assoc _ _ _
  | setIRQOutputSource irqSelect =>
    rw [code, setIRQOutputSource_eq]
    rfl
  | _ => rfl

theorem Setter.code_run (x : Setter) :
    (x.code dev).run (answer other) d = some ((), ⟨Setter.store d.regs x, []⟩) := by
  rw [x.code_eq dev]
  exact Prog.run_bind_of (as3935Write_run other dev d _ _ _) _

theorem setAll_run (setters : List Setter) :
    ∃ rx, (setAll dev setters).run (answer other) d =
      some ((), ⟨setters.foldl Setter.store d.regs, rx⟩) := by
  induction setters generalizing d with
  | nil => exact ⟨d.rx, rfl⟩
  | cons x xs ih =>
    obtain ⟨rx, hrun⟩ := ih ⟨Setter.store d.regs x, []⟩
    refine ⟨rx, ?_⟩
    rw [setAll, Prog.run_bind_of (x.code_run other dev d), hrun]
    rfl

/-! ## The register file and the record of settings -/

/-- The device encodes the settings, and the getters return them. -/
structure Refines (s : Settings) : Prop where
  registers : decode d.regs = s
  noiseFloor : ((getNoiseFloorLvl dev).run (answer other) d).map Prod.fst = some (s .noiseFloor)
  watchdogThreshold :
    ((getWatchdogThreshold dev).run (answer other) d).map Prod.fst = some (s .watchdogThreshold)
  spikeRejection :
    ((getSpikeRejection dev).run (answer other) d).map Prod.fst = some (s .spikeRejection)

/-- The getters read the fields of the settings. -/
theorem refines_decode : Refines other dev d (decode d.regs) := by
  constructor
  · rfl
  · rw [getNoiseFloorLvl, Prog.run_bind_of (as3935Read_run other dev d 0x01)]
    rfl
  · rw [getWatchdogThreshold, Prog.run_bind_of (as3935Read_run other dev d 0x01)]
    simp [decode, field, BitField.get]
  · rw [getSpikeRejection, Prog.run_bind_of (as3935Read_run other dev d 0x02)]
    simp [decode, field, BitField.get]

end Runs

theorem field_disjoint (x y : Setting) (h : x ≠ y) : (field x).Disjoint (field y) := by
  cases x <;> cases y <;> first | exact absurd rfl h | decide

/-- What arrives in the field of a setter. -/
def Setter.stored (x : Setter) : UInt8 := (x.data &&& (field x.setting).mask) >>> (field x.setting).shift

theorem decode_store (regs : UInt8 → UInt8) (x : Setter) :
    decode (Setter.store regs x) = Function.update (decode regs) x.setting x.stored :=
  get_write field_disjoint regs x.setting x.data

/-- A statement about the small values of an argument is checked value by value. -/
theorem forall_le {P : UInt8 → Prop} {n : Nat} (h : ∀ i < n + 1, P (UInt8.ofNat i)) {v : UInt8}
    (hn : n < 256) (hv : v ≤ UInt8.ofNat n) : P v := by
  have hle : v.toNat ≤ n := by
    have := UInt8.le_iff_toNat_le.mp hv
    rwa [UInt8.toNat_ofNat_of_lt' hn] at this
  have := h v.toNat (by omega)
  rwa [UInt8.ofNat_toNat] at this

/-- With a divider of 16 the setters store the values they are to set. -/
theorem Setter.stored_eq_value {x : Setter} (hx : x.Documented)
    (hf : ∀ fdiv, x = .setLCOFDIV fdiv → fdiv = 0) : x.stored = x.value := by
  cases x with
  | setIndoors | setOutdoors | disturberEn | disturberDis => decide
  | setNoiseFloorLvl nfSel =>
    exact forall_le (P := fun v => (setNoiseFloorLvl v).stored = v) (by decide) (by decide) hx
  | setWatchdogThreshold wdth =>
    exact forall_le (P := fun v => (setWatchdogThreshold v).stored = v) (by decide) (by decide) hx
  | setSpikeRejection srej =>
    exact forall_le (P := fun v => (setSpikeRejection v).stored = v) (by decide) (by decide) hx
  | setMinStrikes minStrk =>
    simp only [stored, value, data, setting, field, strikes]
    split
    · decide
    · split
      · decide
      · split <;> decide
  | setLCOFDIV fdiv =>
    cases hf fdiv rfl
    decide
  | setIRQOutputSource irqSelect =>
    exact forall_le (P := fun v => (setIRQOutputSource v).stored = (setIRQOutputSource v).value)
      (by decide) (by decide) hx
  | setTuningCaps tuneCapacitor =>
    exact forall_le (P := fun v => (setTuningCaps v).stored = v) (by decide) (by decide) hx

/-- The other dividers are stored one bit too low. -/
theorem setLCOFDIV_stored {fdiv : UInt8} (hx : (Setter.setLCOFDIV fdiv).Documented)
    (h : (Setter.setLCOFDIV fdiv).stored = fdiv) : fdiv = 0 :=
  forall_le (P := fun v => (Setter.setLCOFDIV v).stored = v → v = 0) (by decide) (by decide) hx h

theorem decode_foldl (setters : List Setter) (regs : UInt8 → UInt8)
    (hs : ∀ x ∈ setters, x.stored = x.value) :
    decode (setters.foldl Setter.store regs) = setters.foldl Settings.set (decode regs) := by
  induction setters generalizing regs with
  | nil => rfl
  | cons x xs ih =>
    have hx : decode (Setter.store regs x) = (decode regs).set x := by
      rw [decode_store, hs x List.mem_cons_self]
      rfl
    rw [List.foldl_cons, List.foldl_cons, ← hx]
    exact ih _ fun y hy => hs y (List.mem_cons_of_mem x hy)

/-- For every device that answers, other answers and setters with documented
arguments: after each of the setters the device encodes the last value set for
each setting and the getters return them, if and only if no divider but the one
with code 0 is set. `AS3935_SetMinStrikes` always returns what its code means. -/
theorem setters_refine_iff (other : (c : Call) → Reply c) (dev : UInt8) (d : Device)
    (setters : List Setter) (hdoc : ∀ x ∈ setters, x.Documented) :
    ((∀ n, ∃ d', (setAll dev (setters.take n)).run (answer other) d = some ((), d') ∧
        Refines other dev d' ((setters.take n).foldl Settings.set (decode d.regs))) ↔
      ∀ fdiv, .setLCOFDIV fdiv ∈ setters → fdiv = 0) ∧
    ∀ minStrk, ∃ d', (setMinStrikes dev minStrk).run (answer other) d =
        some (strikes minStrk, d') ∧ decode d'.regs .minStrikes = strikesCode (strikes minStrk) := by
  refine ⟨⟨fun h fdiv hmem => ?_, fun hz n => ?_⟩, fun minStrk => ?_⟩
  · -- the prefix that ends with this setter encodes what it stored
    obtain ⟨pre, post, rfl⟩ := List.append_of_mem hmem
    obtain ⟨d', hrun, href⟩ := h (pre.length + 1)
    have htake : (pre ++ Setter.setLCOFDIV fdiv :: post).take (pre.length + 1) =
        pre ++ [Setter.setLCOFDIV fdiv] := by
      simp [List.take_append, List.take_of_length_le]
    obtain ⟨rx, hrun'⟩ := setAll_run other dev d (pre ++ [Setter.setLCOFDIV fdiv])
    rw [htake, hrun'] at hrun
    cases hrun
    have hreg := congrFun href.registers .lcoFdiv
    rw [htake, List.foldl_append, List.foldl_append, List.foldl_cons, List.foldl_nil,
      decode_store] at hreg
    apply setLCOFDIV_stored (hdoc _ (by simp))
    simpa [Settings.set, Setter.setting, Setter.value] using hreg
  · obtain ⟨rx, hrun⟩ := setAll_run other dev d (setters.take n)
    refine ⟨_, hrun, ?_⟩
    rw [← decode_foldl]
    · exact refines_decode other dev _
    · intro x hx
      have hmem := List.mem_of_mem_take hx
      exact Setter.stored_eq_value (hdoc x hmem) fun fdiv he => hz fdiv (he ▸ hmem)
  · refine ⟨_, setMinStrikes_run other dev d minStrk, ?_⟩
    rw [decode_store]
    exact Setter.stored_eq_value (x := .setMinStrikes minStrk) trivial (fun _ he => nomatch he)

/-- Setters that share registers. -/
def sharing : List Setter :=
  [.setNoiseFloorLvl 5, .setWatchdogThreshold 9, .setMinStrikes 10, .setSpikeRejection 3,
    .disturberDis, .setLCOFDIV 0, .setIRQOutputSource 3, .setTuningCaps 7, .setOutdoors]

/-- They refine the record on a device with all bits set. -/
theorem setters_refine_iff_sharing :
    (∀ x ∈ sharing, x.Documented) ∧
      ∀ n, ∃ d', (setAll 0 (sharing.take n)).run (answer anyReply) ⟨fun _ => 0xFF, []⟩ =
          some ((), d') ∧
        Refines anyReply 0 d' ((sharing.take n).foldl Settings.set (decode fun _ => 0xFF)) :=
  ⟨by decide,
    (setters_refine_iff anyReply 0 ⟨fun _ => 0xFF, []⟩ sharing (by decide)).1.mpr
      (by simp [sharing])⟩

/-- The dividers 1, 2 and 3 are stored as 0, 1 and 1. -/
theorem setLCOFDIV_stores_half :
    ([1, 2, 3] : List UInt8).map (fun fdiv =>
      ((setLCOFDIV 0 fdiv).run (answer anyReply) ⟨fun _ => 0, []⟩).map fun r =>
        (r.1, decode r.2.regs .lcoFdiv)) = [some (true, 0), some (true, 1), some (true, 1)] ∧
    ¬ ∃ d', (setAll 0 [.setLCOFDIV 3]).run (answer anyReply) ⟨fun _ => 0, []⟩ = some ((), d') ∧
      Refines anyReply 0 d' ([Setter.setLCOFDIV 3].foldl Settings.set (decode fun _ => 0)) := by
  refine ⟨by decide +kernel, ?_⟩
  rintro ⟨d', hrun, href⟩
  obtain ⟨rx, hrun'⟩ := setAll_run anyReply 0 ⟨fun _ => 0, []⟩ [.setLCOFDIV 3]
  cases hrun'.symm.trans hrun
  have hreg : decode (Setter.store (fun _ => 0) (.setLCOFDIV 3)) .lcoFdiv = 3 :=
    congrFun href.registers .lcoFdiv
  exact absurd hreg (by decide)

end MeteoL053.As3935
