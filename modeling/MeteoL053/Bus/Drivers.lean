import MeteoL053.Hc12

/-!
The operations of the I2C drivers on the shared bus: BMP280, VEML7700, BH1750,
ADS1X15 and AS3935. All of them acquire the bus, let `checkI2CCondition`
recover a locked driver, do one transfer and release the bus;
`BMP280_write_register8` leaves the check out.
-/

namespace MeteoL053.Bus

open CallTree

/-- `checkI2CCondition` of `main.c`, the `checkI2cFunc` of every device on `I2CD1`. -/
def checkI2CCondition : Fw Bool := do
  if (← ask .i2cState) = I2cState.locked then
    ask .i2cStop
    ask .i2cStart
  return (← ask .i2cState) = I2cState.ready

/-- The transfers of the HAL. -/
inductive Transfer where
  | transmit (addr : UInt8) (tx : List UInt8) (rxBytes : Nat)
  | receive (addr : UInt8) (rxBytes : Nat)

/-- A HAL transfer blocks its thread between its start and its end. -/
def Transfer.run : Transfer → Fw (Msg × List UInt8)
  | transmit addr tx rxBytes => do
    ask (.i2cMasterTransmit addr tx rxBytes)
    ask .i2cWait
  | receive addr rxBytes => do
    ask (.i2cMasterReceive addr rxBytes)
    ask .i2cWait

/-- Acquire, check, transfer, release. `failed` is what the operation returns
when the check fails, `result` what it makes of the transfer. -/
def checkedOp {α : Type} (x : Transfer) (failed : α) (result : Msg → List UInt8 → α) : Fw α := do
  ask .i2cAcquireBus
  if !(← checkI2CCondition) then
    ask .i2cReleaseBus
    ask .opReturn
    return failed
  let (msg, rx) ← x.run
  ask .i2cReleaseBus
  ask .opReturn
  return result msg rx

/-- The calls of a checked operation. -/
def BusCall : Call → Prop
  | .i2cAcquireBus | .i2cReleaseBus | .i2cState | .i2cStop | .i2cStart => True
  | .i2cMasterTransmit .. | .i2cMasterReceive .. | .i2cWait | .opReturn => True
  | _ => False

theorem checkI2CCondition_all : checkI2CCondition.All BusCall := by
  apply Prog.all_step trivial
  intro state
  split
  · exact ⟨trivial, fun _ => ⟨trivial, fun _ => ⟨trivial, fun _ => trivial⟩⟩⟩
  · exact ⟨trivial, fun _ => trivial⟩

theorem Transfer.run_all (x : Transfer) : x.run.All BusCall := by
  cases x with
  | transmit addr tx rxBytes => exact ⟨trivial, fun _ => ⟨trivial, fun _ => trivial⟩⟩
  | receive addr rxBytes => exact ⟨trivial, fun _ => ⟨trivial, fun _ => trivial⟩⟩

theorem checkedOp_all {α : Type} (x : Transfer) (failed : α) (result : Msg → List UInt8 → α) :
    (checkedOp x failed result).All BusCall := by
  apply Prog.all_step trivial
  intro _
  apply Prog.all_bind checkI2CCondition_all
  intro ok
  cases ok with
  | false => exact ⟨trivial, fun _ => ⟨trivial, fun _ => trivial⟩⟩
  | true =>
    apply Prog.all_bind x.run_all
    intro r
    exact ⟨trivial, fun _ => ⟨trivial, fun _ => trivial⟩⟩

/-- Two bytes of a receive buffer as a number, `hi` in front of `lo`. -/
def word16 (hi lo : UInt8) : UInt16 := hi.toUInt16 <<< 8 ||| lo.toUInt16

/-! ## `bmp280.c` -/

/-- `BMP280_read_register16`: the register on success. -/
def bmp280ReadRegister16 (dev addr : UInt8) : Fw (Option UInt16) :=
  checkedOp (.transmit dev [addr] 2) none fun msg rx =>
    if msg = .ok then some (word16 (rx.getD 1 0) (rx.getD 0 0)) else none

/-- `BMP280_read_data`: the bytes on success. -/
def bmp280ReadData (dev addr : UInt8) (len : Nat) : Fw (Option (List UInt8)) :=
  checkedOp (.transmit dev [addr] len) none fun msg rx => if msg = .ok then some rx else none

/-- `BMP280_write_register8`. The check of the driver is commented out in the
source, and the result is true when the transfer failed. -/
def bmp280WriteRegister8 (dev addr value : UInt8) : Fw Bool := do
  ask .i2cAcquireBus
  let (msg, _) ← (Transfer.transmit dev [addr, value] 0).run
  ask .i2cReleaseBus
  ask .opReturn
  return msg ≠ .ok

/-! ## `veml7700.c` -/

/-- `VEML7700_I2C__sing_reg_write`. -/
def veml7700Write (dev regAdd : UInt8) (regData : UInt32) : Fw Bool :=
  checkedOp (.transmit dev [regAdd, (regData &&& 0xFF).toUInt8, (regData >>> 8 &&& 0xFF).toUInt8] 0)
    false fun msg _ => msg = .ok

/-- `VEML7700_I2C__sing_reg_read`: the result and the data if there are new ones.
A failed check returns true without data. -/
def veml7700Read (dev regAdd : UInt8) : Fw (Bool × Option UInt32) :=
  checkedOp (.transmit dev [regAdd] 2) (true, none) fun msg rx =>
    if msg = .ok then (true, some (word16 (rx.getD 1 0) (rx.getD 0 0)).toUInt32) else (false, none)

/-! ## `bh1750.c` -/

/-- `BH1750_send_command`. -/
def bh1750SendCommand (dev cmd : UInt8) : Fw Msg :=
  checkedOp (.transmit dev [cmd] 0) .timeout fun msg _ => msg

/-- `BH1750_read_dev`: the result and `bufferRx`. -/
def bh1750ReadDev (dev : UInt8) : Fw (Msg × Option (List UInt8)) :=
  checkedOp (.receive dev 2) (.timeout, none) fun msg rx => (msg, some rx)

/-! ## `ADS1X15.c` -/

/-- `ADS__writeRegister`. -/
def adsWriteRegister (dev reg : UInt8) (value : UInt16) : Fw Bool :=
  checkedOp (.transmit dev [reg, (value >>> 8).toUInt8, (value &&& 0xFF).toUInt8] 0) false
    fun msg _ => msg = .ok

/-- `ADS__readRegister`: the result and `*dataRx` if it was written, which it is
also after a failed transfer. -/
def adsReadRegister (dev reg : UInt8) : Fw (Bool × Option UInt16) :=
  checkedOp (.transmit dev [reg] 2) (false, none) fun msg rx =>
    (msg = .ok, some (word16 (rx.getD 0 0) (rx.getD 1 0)))

/-! ## `PWFusion_AS3935_I2C.c` -/

/-- `AS3935_I2C__sing_reg_read`. -/
def as3935Read (dev regAdd : UInt8) : Fw UInt8 :=
  checkedOp (.transmit dev [regAdd] 1) 0xFF fun msg rx => if msg = .ok then rx.getD 0 0 else 0xFF

/-- `AS3935_I2C__sing_reg_write`: read, modify, write. -/
def as3935Write (dev regAdd dataMask regData : UInt8) : Fw Bool := do
  let origRegData ← as3935Read dev regAdd
  let newRegData := (origRegData &&& ~~~dataMask) ||| (regData &&& dataMask)
  checkedOp (.transmit dev [regAdd, newRegData] 0) false fun msg _ => msg = .ok

theorem as3935Write_all (dev regAdd dataMask regData : UInt8) :
    (as3935Write dev regAdd dataMask regData).All BusCall :=
  Prog.all_bind (checkedOp_all ..) fun _ => checkedOp_all ..

/-- `AS3935_I2C__write16`; `dataTx` lies little-endian in memory. -/
def as3935Write16 (dev : UInt8) (data : UInt16) : Fw Bool :=
  checkedOp (.transmit dev [data.toUInt8, (data >>> 8).toUInt8] 0) false fun msg _ => msg = .ok

/-! ## Threads on the bus -/

/-- The code of an operation. -/
def performOp : (op : BusOp) → Fw op.Result
  | .bmp280ReadRegister16 dev addr => bmp280ReadRegister16 dev addr
  | .bmp280ReadData dev addr len => bmp280ReadData dev addr len
  | .bmp280WriteRegister8 dev addr value => bmp280WriteRegister8 dev addr value
  | .veml7700Write dev regAdd regData => veml7700Write dev regAdd regData
  | .veml7700Read dev regAdd => veml7700Read dev regAdd
  | .bh1750SendCommand dev cmd => bh1750SendCommand dev cmd
  | .bh1750ReadDev dev => bh1750ReadDev dev
  | .adsWriteRegister dev reg value => adsWriteRegister dev reg value
  | .adsReadRegister dev reg => adsReadRegister dev reg
  | .as3935Read dev regAdd => as3935Read dev regAdd
  | .as3935Write dev regAdd dataMask regData => as3935Write dev regAdd dataMask regData
  | .as3935Write16 dev data => as3935Write16 dev data

/-- A thread does any operations in any order; what it does with the results
does not matter to the bus. -/
def busOps : Fw Block := do
  let op ← ask .nextBusOp
  let _ ← performOp op
  return .busOps

/-- The code behind a call: an operation runs over the bus and reports its result. -/
def codeOf : (c : Call) → Fw (Reply c)
  | .busOp op => do
    let r ← performOp op
    ask (.opDone op r)
    return r
  | c => ask c

/-- The operations of a program written out. -/
def expand {α : Type} (p : Fw α) : Fw α := p.inline codeOf

theorem performOp_all (op : BusOp) : (performOp op).All BusCall := by
  cases op with
  | bmp280WriteRegister8 dev addr value =>
    apply Prog.all_step trivial
    intro _
    apply Prog.all_bind (Transfer.run_all _)
    intro r
    exact ⟨trivial, fun _ => ⟨trivial, fun _ => trivial⟩⟩
  | as3935Write dev regAdd dataMask regData => exact as3935Write_all ..
  | _ =>
    simp only [performOp]
    exact checkedOp_all ..

/-- Calls that bus operations do not make. -/
theorem expand_all {α : Type} {p : Fw α} {P : Call → Prop} (hp : p.All P)
    (hbus : ∀ c, BusCall c → P c) (hdone : ∀ op r, P (.opDone op r)) : (expand p).All P := by
  apply hp.inline
  intro c hc
  cases c with
  | busOp op =>
    apply Prog.all_bind ((performOp_all op).mono hbus)
    intro r
    exact ⟨hdone op r, fun _ => trivial⟩
  | _ => exact ⟨hc, fun _ => trivial⟩

theorem expand_bind {α β : Type} (p : Fw α) (f : α → Fw β) :
    expand (p >>= f) = (expand p >>= fun a => expand (f a)) := Prog.inline_bind codeOf p f

end MeteoL053.Bus
