import MeteoL053.Bmp280.Driver
import MeteoL053.Bus.Attached

/-!
The coefficients in the handle after `BMP280_init`, and those that the register
map of the sensor defines. The sixteen-bit coefficients are the two registers as
they are; `dig_H4` and `dig_H5` are put together from twelve bits and lose their
sign.
-/

namespace MeteoL053.Bmp280

open CallTree Bus

/-! ## The register map -/

/-- The chip id and the coefficients: registers that nothing changes. -/
def Factory (reg : UInt8) : Prop :=
  reg = regId ∨ 0x88 ≤ reg ∧ reg ≤ 0xA1 ∨ 0xE1 ≤ reg ∧ reg ≤ 0xE7

instance : DecidablePred Factory := fun _ => inferInstanceAs (Decidable (_ ∨ _ ∧ _ ∨ _ ∧ _))

/-- One of `m` values, the upper half negative: two's complement. -/
def signed (m n : Nat) : Int := if n < m / 2 then n else (n : Int) - m

section Map

variable (regs : UInt8 → UInt8)

/-- Two registers, the low byte first. -/
def unsigned16 (reg : UInt8) : Nat := 256 * (regs (reg + 1)).toNat + (regs reg).toNat

def signed16 (reg : UInt8) : Int := signed 65536 (unsigned16 regs reg)

/-- T1 to T3 and P1 to P9. -/
def commonMap : List Int :=
  [unsigned16 regs 0x88, signed16 regs 0x8A, signed16 regs 0x8C,
   unsigned16 regs 0x8E, signed16 regs 0x90, signed16 regs 0x92, signed16 regs 0x94,
   signed16 regs 0x96, signed16 regs 0x98, signed16 regs 0x9A, signed16 regs 0x9C,
   signed16 regs 0x9E]

/-- The bits of H4: 0xE4 in front of the low half of 0xE5. -/
def bitsH4 : Nat := 16 * (regs 0xE4).toNat + (regs 0xE5).toNat % 16

/-- The bits of H5: 0xE6 in front of the high half of 0xE5. -/
def bitsH5 : Nat := 16 * (regs 0xE6).toNat + (regs 0xE5).toNat / 16

/-- H1 to H6. -/
def humidityMap : List Int :=
  [(regs 0xA1).toNat, signed16 regs 0xE1, (regs 0xE3).toNat,
   signed 4096 (bitsH4 regs), signed 4096 (bitsH5 regs), signed 256 (regs 0xE7).toNat]

end Map

def Calibration.common (cal : Calibration) : List Int :=
  [cal.digT1.toNat, cal.digT2.toInt, cal.digT3.toInt,
   cal.digP1.toNat, cal.digP2.toInt, cal.digP3.toInt, cal.digP4.toInt, cal.digP5.toInt,
   cal.digP6.toInt, cal.digP7.toInt, cal.digP8.toInt, cal.digP9.toInt]

def Calibration.humidity (cal : Calibration) : List Int :=
  [cal.digH1.toNat, cal.digH2.toInt, cal.digH3.toNat,
   cal.digH4.toInt, cal.digH5.toInt, cal.digH6.toInt]

/-- The handle holds the coefficients of the register map, those for the
humidity if the sensor is a BME280. -/
def Decoded (regs : UInt8 → UInt8) (dev : Handle) : Prop :=
  dev.cal.common = commonMap regs ∧
    (regs regId = bme280ChipId → dev.cal.humidity = humidityMap regs)

instance (regs : UInt8 → UInt8) (dev : Handle) : Decidable (Decoded regs dev) :=
  inferInstanceAs (Decidable (_ ∧ (_ → _)))

/-! ## Words and halves of bytes -/

theorem word16_toNat (hi lo : UInt8) : (word16 hi lo).toNat = 256 * hi.toNat + lo.toNat := by
  have hlo : lo.toNat < 2 ^ 8 := lo.toNat_lt
  have hhi : hi.toNat < 2 ^ 8 := hi.toNat_lt
  have hshift : hi.toNat <<< 8 % 2 ^ 16 = hi.toNat <<< 8 := by
    rw [Nat.shiftLeft_eq]
    exact Nat.mod_eq_of_lt (by omega)
  have hor : hi.toNat <<< 8 ||| lo.toNat = 256 * hi.toNat + lo.toNat := by
    rw [← Nat.shiftLeft_add_eq_or_of_lt hlo, Nat.shiftLeft_eq]
    omega
  simp only [word16, UInt16.toNat_or, UInt16.toNat_shiftLeft, UInt8.toNat_toUInt16]
  exact (congrArg (· ||| lo.toNat) hshift).trans hor

theorem bitVec_toInt {w : Nat} (v : BitVec (w + 1)) : v.toInt = signed (2 ^ (w + 1)) v.toNat := by
  have hpow : 2 ^ (w + 1) = 2 * 2 ^ w := Nat.pow_succ'
  rw [BitVec.toInt_eq_toNat_cond, signed, hpow]
  split <;> split <;> omega

theorem toInt16_toInt (v : UInt16) : v.toInt16.toInt = signed 65536 v.toNat :=
  bitVec_toInt v.toBitVec

theorem toInt8_toInt (v : UInt8) : v.toInt8.toInt = signed 256 v.toNat :=
  bitVec_toInt v.toBitVec

/-- `dig_H4` before its conversion to a signed number. -/
theorem wordH4_toNat (hi lo : UInt8) :
    ((word16 hi lo &&& 0x00ff) <<< 4 ||| (word16 hi lo &&& 0x0f00) >>> 8).toNat =
      16 * lo.toNat + hi.toNat % 16 := by
  have hlo : lo.toNat < 2 ^ 8 := lo.toNat_lt
  have hbyte : (256 * hi.toNat + lo.toNat) &&& 255 = lo.toNat := by
    rw [show 255 = 2 ^ 8 - 1 from rfl, Nat.and_two_pow_sub_one_eq_mod]
    omega
  have hhalf : ((256 * hi.toNat + lo.toNat) &&& 3840) >>> 8 = hi.toNat % 16 := by
    rw [Nat.shiftRight_and_distrib, show 3840 >>> 8 = 2 ^ 4 - 1 from rfl,
      Nat.and_two_pow_sub_one_eq_mod, Nat.shiftRight_eq_div_pow]
    omega
  have hshift : lo.toNat <<< 4 % 2 ^ 16 = lo.toNat <<< 4 := by
    rw [Nat.shiftLeft_eq]
    exact Nat.mod_eq_of_lt (by omega)
  have hor : lo.toNat <<< 4 ||| hi.toNat % 16 = 16 * lo.toNat + hi.toNat % 16 := by
    rw [← Nat.shiftLeft_add_eq_or_of_lt (show hi.toNat % 16 < 2 ^ 4 by omega), Nat.shiftLeft_eq]
    omega
  simp only [UInt16.toNat_or, UInt16.toNat_shiftLeft, UInt16.toNat_shiftRight, UInt16.toNat_and,
    word16_toNat]
  refine Eq.trans (congrArg₂ (· ||| ·) ?_ hhalf) hor
  exact (congrArg (fun n => n <<< 4 % 2 ^ 16) hbyte).trans hshift

/-- `dig_H5` before its conversion to a signed number. -/
theorem wordH5_toNat (hi lo : UInt8) :
    (word16 hi lo >>> 4).toNat = 16 * hi.toNat + lo.toNat / 16 := by
  rw [UInt16.toNat_shiftRight, word16_toNat]
  change (256 * hi.toNat + lo.toNat) >>> 4 = _
  rw [Nat.shiftRight_eq_div_pow]
  omega

/-- Twelve bits are read as if they had no sign, which is right below 2048. -/
theorem signed_eq_iff {n : Nat} (hn : n < 4096) : signed 65536 n = signed 4096 n ↔ n < 2048 := by
  unfold signed
  split <;> split <;> omega

/-! ## The sensor on the bus -/

/-- The sensor on the bus: `regs` is what it sends for its factory registers. Its
other registers may hold anything at any time, and every transfer may fail. -/
structure Chip (D : Type) where
  wiring : Wiring D
  regs : UInt8 → UInt8
  sends : ∀ past reg n d i, i < n → Factory (reg + UInt8.ofNat i) →
    (wiring.transfer past [reg] n d).1.getD i 0 = regs (reg + UInt8.ofNat i)

/-- What an operation of the driver reads from factory registers. -/
def Reads (regs : UInt8 → UInt8) : (op : BusOp) → op.Result → Prop
  | .bmp280ReadRegister16 _ addr, r =>
    Factory addr → Factory (addr + 1) → ∀ v, r = some v → v = word16 (regs (addr + 1)) (regs addr)
  | .bmp280ReadData _ addr len, r =>
    Factory addr → 0 < len → ∀ rx, r = some rx → rx.getD 0 0 = regs addr
  | _, _ => True

/-- The driver before a sensor with the factory registers `regs`. -/
def registers (regs : UInt8 → UInt8) : Monitor Call Reply Unit where
  hangs _ := True
  allows _ _ := True
  answers _
    | .busOp op, r => Reads regs op r
    | _, _ => True
  next φ _ _ := φ

section Runs

variable {D : Type} (x : Chip D)

/-- An operation that returns nothing from a failed transfer. -/
theorem checkedOp_some {α : Type} {dev : UInt8} {tx : List UInt8} {n : Nat}
    (result : List UInt8 → α) {s s' : Site D} {a : α}
    (hrun : (checkedOp (.transmit dev tx n) none fun msg rx =>
      if msg = .ok then some (result rx) else none).run x.wiring.answer s = some (some a, s')) :
    a = result (x.wiring.sent s dev tx n) := by
  have hbad : ∀ (msg : Msg) (rx : List UInt8), msg ≠ .ok →
      (if msg = .ok then some (result rx) else none) = none := fun _ _ hmsg => if_neg hmsg
  rw [x.wiring.checkedOp_run s dev tx n hbad] at hrun
  cases houtcome : x.wiring.outcome s dev tx n <;> rw [houtcome] at hrun <;> cases hrun
  rfl

theorem sent_getD {s : Site D} {dev reg : UInt8} {n i : Nat} (hi : i < n)
    (hfactory : Factory (reg + UInt8.ofNat i)) :
    (x.wiring.sent s dev [reg] n).getD i 0 = x.regs (reg + UInt8.ofNat i) :=
  x.sends _ reg n _ i hi hfactory

theorem sent_getD_zero {s : Site D} {dev reg : UInt8} {n : Nat} (hn : 0 < n)
    (hfactory : Factory reg) : (x.wiring.sent s dev [reg] n).getD 0 0 = x.regs reg := by
  have hreg : reg + UInt8.ofNat 0 = reg := UInt8.add_zero reg
  have hsent : (x.wiring.sent s dev [reg] n).getD 0 0 = x.regs (reg + UInt8.ofNat 0) :=
    sent_getD x hn (hreg.symm ▸ hfactory)
  rw [hsent, hreg]

theorem performOp_reads (op : BusOp) {s s' : Site D} {r : op.Result}
    (hrun : (performOp op).run x.wiring.answer s = some (r, s')) : Reads x.regs op r := by
  cases op with
  | bmp280ReadRegister16 dev addr =>
    rintro hlow hhigh v rfl
    rw [checkedOp_some x (fun rx => word16 (rx.getD 1 0) (rx.getD 0 0)) hrun,
      sent_getD x (by decide) hhigh, sent_getD_zero x (by decide) hlow]
    rfl
  | bmp280ReadData dev addr len =>
    rintro hfactory hlen rx rfl
    rw [checkedOp_some x (fun rx => rx) hrun, sent_getD_zero x hlen hfactory]
  | _ => trivial

theorem codeOf_registers (φ : Unit) (c : Call) (s : Site D) (r : Reply c) (s' : Site D)
    (hrun : (codeOf c).run x.wiring.answer s = some (r, s')) :
    (registers x.regs).answers φ c r := by
  cases c with
  | busOp op =>
    rw [codeOf, Prog.run_bind] at hrun
    obtain ⟨⟨r₁, s₁⟩, hop, hdone⟩ := Option.bind_eq_some_iff.mp hrun
    cases hdone
    exact performOp_reads x op hop
  | _ => trivial

end Runs

/-! ## What the driver stores -/

section Stores

variable {regs : UInt8 → UInt8} {dev : Handle}

section Rules

variable {α : Type} {Q : α → Unit → Prop} {addr : UInt8}

theorem readRegister16_registers {f : Option UInt16 → Fw α} (hlow : Factory addr)
    (hhigh : Factory (addr + 1)) (hnone : (f none).wp (registers regs) () Q)
    (hsome : (f (some (word16 (regs (addr + 1)) (regs addr)))).wp (registers regs) () Q) :
    (readRegister16 dev addr >>= f).wp (registers regs) () Q := by
  refine Prog.wp_step trivial ?_
  rintro (_ | v) hr
  · exact hnone
  · rw [hr hlow hhigh v rfl]
    exact hsome

theorem readData_registers {len : Nat} {f : Option (List UInt8) → Fw α}
    (hnone : (f none).wp (registers regs) () Q)
    (hsome : ∀ rx, (Factory addr → 0 < len → rx.getD 0 0 = regs addr) →
      (f (some rx)).wp (registers regs) () Q) :
    (readData dev addr len >>= f).wp (registers regs) () Q := by
  refine Prog.wp_step trivial ?_
  rintro (_ | rx) hr
  · exact hnone
  · exact hsome rx fun hfactory hlen => hr hfactory hlen rx rfl

end Rules

/-- The fields after a chain of reads that all succeed. -/
def stored (regs : UInt8 → UInt8) (fields : List (UInt8 × (Calibration → UInt16 → Calibration)))
    (cal : Calibration) : Calibration :=
  fields.foldl (fun cal field => field.2 cal (word16 (regs (field.1 + 1)) (regs field.1))) cal

theorem readRegisters_stores (fields : List (UInt8 × (Calibration → UInt16 → Calibration)))
    (cal : Calibration) (hfactory : ∀ field ∈ fields, Factory field.1 ∧ Factory (field.1 + 1)) :
    (readRegisters dev fields cal).wp (registers regs) () fun r _ =>
      r.1 = true → r.2 = stored regs fields cal := by
  induction fields generalizing cal with
  | nil => exact fun _ => rfl
  | cons field fields ih =>
    obtain ⟨hlow, hhigh⟩ := hfactory field (List.mem_cons_self ..)
    apply readRegister16_registers hlow hhigh
    · exact fun h => absurd h Bool.false_ne_true
    · exact ih _ fun field' h => hfactory field' (List.mem_cons_of_mem _ h)

theorem stored_common (regs : UInt8 → UInt8) (cal : Calibration) :
    (stored regs calibrationRegisters cal).common = commonMap regs := by
  simp only [stored, calibrationRegisters, List.foldl_cons, List.foldl_nil, Calibration.common,
    commonMap, toInt16_toInt, word16_toNat]
  rfl

theorem readCalibrationData_stores :
    (readCalibrationData dev).wp (registers regs) () fun r _ =>
      r.1 = true → r.2.common = commonMap regs := by
  have hfactory : ∀ field ∈ calibrationRegisters, Factory field.1 ∧ Factory (field.1 + 1) := by
    simp only [calibrationRegisters, List.forall_mem_cons]
    decide
  apply Prog.wp_mono _ _ _ (readRegisters_stores calibrationRegisters dev.cal hfactory)
  intro r _ hr hok
  rw [hr hok, stored_common]

/-- H1 to H6 as the driver reads them. -/
def humidityRead (regs : UInt8 → UInt8) : List Int :=
  [(regs 0xA1).toNat, signed16 regs 0xE1, (regs 0xE3).toNat,
   signed 65536 (bitsH4 regs), signed 65536 (bitsH5 regs), signed 256 (regs 0xE7).toNat]

theorem readHumCalibrationData_stores (cal : Calibration) :
    (readHumCalibrationData dev cal).wp (registers regs) () fun r _ =>
      r.1 = true → r.2.common = cal.common ∧ r.2.humidity = humidityRead regs := by
  apply readData_registers
  · exact fun h => absurd h Bool.false_ne_true
  intro h1 hh1
  apply readRegister16_registers (by decide) (by decide)
  · exact fun h => absurd h Bool.false_ne_true
  apply readData_registers
  · exact fun h => absurd h Bool.false_ne_true
  intro h3 hh3
  apply readRegister16_registers (by decide) (by decide)
  · exact fun h => absurd h Bool.false_ne_true
  apply readRegister16_registers (by decide) (by decide)
  · exact fun h => absurd h Bool.false_ne_true
  apply readData_registers
  · exact fun h => absurd h Bool.false_ne_true
  intro h6 hh6 _
  refine ⟨rfl, ?_⟩
  simp only [Calibration.humidity, humidityRead, toInt16_toInt, toInt8_toInt, word16_toNat,
    wordH4_toNat, wordH5_toNat, hh1 (by decide) (by decide), hh3 (by decide) (by decide),
    hh6 (by decide) (by decide)]
  rfl

/-- What the handle holds after a successful `BMP280_init`. -/
structure Held (regs : UInt8 → UInt8) (dev : Handle) : Prop where
  id : dev.id = regs regId
  common : dev.cal.common = commonMap regs
  humidity : regs regId = bme280ChipId → dev.cal.humidity = humidityRead regs

theorem loadCalibration_stores (hid : dev.id = regs regId) :
    (loadCalibration dev).wp (registers regs) () fun r _ => r.1 = true → Held regs r.2 := by
  apply Prog.wp_bind_of _ _ _ readCalibrationData_stores
  rintro ⟨ok, cal⟩ _ hcal
  cases ok with
  | false => exact fun h => absurd h Bool.false_ne_true
  | true =>
    dsimp only
    rw [if_neg (by simp)]
    by_cases hbme : dev.id = bme280ChipId
    · rw [if_pos hbme]
      apply Prog.wp_bind_of _ _ _ (readHumCalibrationData_stores cal)
      rintro ⟨ok, cal'⟩ _ hcal' hok
      obtain ⟨hcommon, hhumidity⟩ := hcal' hok
      exact ⟨hid, hcommon.trans (hcal rfl), fun _ => hhumidity⟩
    · rw [if_neg hbme]
      exact fun _ => ⟨hid, hcal rfl, fun h => absurd (hid.trans h) hbme⟩

/-- A program whose result does not matter. -/
theorem wp_registers {α : Type} (p : Fw α) : p.wp (registers regs) () fun _ _ => True := by
  induction p with
  | ret a => trivial
  | call c k ih => exact ⟨trivial, fun r _ => ih r⟩
  | hang => trivial

/-- The writes at the end leave the coefficients alone. -/
theorem configure_keeps (hheld : Held regs dev) :
    (configure dev).wp (registers regs) () fun r _ => Held regs r.2 := by
  refine Prog.wp_step trivial fun failed _ => ?_
  cases failed with
  | true => exact hheld
  | false =>
    apply Prog.wp_bind_of _ _ _ (wp_registers (writeControl _))
    intro ok _ _
    exact ⟨hheld.id, hheld.common, hheld.humidity⟩

theorem probe_stores (fuel : Nat) :
    (probe fuel dev).wp (registers regs) () fun r _ => r.1 = true → Held regs r.2 := by
  apply readData_registers
  · exact fun h => absurd h Bool.false_ne_true
  intro id hid
  dsimp only
  split
  · exact fun h => absurd h Bool.false_ne_true
  refine Prog.wp_step trivial fun failed _ => ?_
  cases failed with
  | true => exact fun h => absurd h Bool.false_ne_true
  | false =>
    apply Prog.wp_bind_of _ _ _ (wp_registers (waitCopied _ fuel))
    intro copied _ _
    cases copied with
    | false => exact fun h => absurd h Bool.false_ne_true
    | true =>
      apply Prog.wp_bind_of _ _ _ (loadCalibration_stores (hid (by decide) (by decide)))
      rintro ⟨ok, dev'⟩ _ hheld
      cases ok with
      | false => exact fun h => absurd h Bool.false_ne_true
      | true => exact Prog.wp_mono _ _ (fun _ _ h _ => h) (configure_keeps (hheld rfl))

theorem init_stores (fuel : Nat) :
    (init fuel dev).wp (registers regs) () fun r _ => r.1 = true → Held regs r.2 := by
  have hleave : ∀ (ok : Bool) (dev' : Handle), (ok = true → Held regs dev') →
      (ask (.leave .bmp280Init ok) >>= fun _ => pure (ok, dev') : Fw (Bool × Handle)).wp
        (registers regs) () fun r _ => r.1 = true → Held regs r.2 :=
    fun _ _ h => Prog.wp_step trivial fun _ _ => h
  refine Prog.wp_step trivial fun _ _ => ?_
  split
  · exact hleave false dev fun h => absurd h Bool.false_ne_true
  · apply Prog.wp_bind_of _ _ _ (probe_stores fuel)
    rintro ⟨ok, dev'⟩ _ hheld
    exact hleave ok dev' hheld

end Stores

/-! ## Where the two agree -/

theorem bitsH4_lt (regs : UInt8 → UInt8) : bitsH4 regs < 4096 := by
  have hbyte : (regs 0xE4).toNat < 2 ^ 8 := (regs 0xE4).toNat_lt
  unfold bitsH4
  omega

theorem bitsH5_lt (regs : UInt8 → UInt8) : bitsH5 regs < 4096 := by
  have hhigh : (regs 0xE6).toNat < 2 ^ 8 := (regs 0xE6).toNat_lt
  have hlow : (regs 0xE5).toNat < 2 ^ 8 := (regs 0xE5).toNat_lt
  unfold bitsH5
  omega

/-- The sign of a twelve-bit coefficient is the top bit of its high byte. -/
theorem humidityRead_eq_iff (regs : UInt8 → UInt8) :
    humidityRead regs = humidityMap regs ↔ regs 0xE4 < 0x80 ∧ regs 0xE6 < 0x80 := by
  have hlist : humidityRead regs = humidityMap regs ↔
      signed 65536 (bitsH4 regs) = signed 4096 (bitsH4 regs) ∧
        signed 65536 (bitsH5 regs) = signed 4096 (bitsH5 regs) := by
    simp [humidityRead, humidityMap]
  have hh4 : bitsH4 regs < 2048 ↔ regs 0xE4 < 0x80 := by
    rw [UInt8.lt_iff_toNat_lt]
    change _ ↔ _ < 128
    unfold bitsH4
    omega
  have hh5 : bitsH5 regs < 2048 ↔ regs 0xE6 < 0x80 := by
    have hlow : (regs 0xE5).toNat < 2 ^ 8 := (regs 0xE5).toNat_lt
    rw [UInt8.lt_iff_toNat_lt]
    change _ ↔ _ < 128
    unfold bitsH5
    omega
  rw [hlist, signed_eq_iff (bitsH4_lt regs), signed_eq_iff (bitsH5_lt regs), hh4, hh5]

theorem Held.decoded_iff {regs : UInt8 → UInt8} {dev : Handle} (h : Held regs dev) :
    Decoded regs dev ↔ (regs regId = bme280ChipId → regs 0xE4 < 0x80 ∧ regs 0xE6 < 0x80) := by
  unfold Decoded
  rw [and_iff_right h.common]
  refine forall_congr' fun hbme => ?_
  rw [h.humidity hbme, humidityRead_eq_iff]

theorem init_held {D : Type} (x : Chip D) {fuel : Nat} {dev dev' : Handle} {s s' : Site D}
    (hrun : (expand (init fuel dev)).run x.wiring.answer s = some ((true, dev'), s')) :
    Held x.regs dev' := by
  obtain ⟨_, hheld⟩ := Prog.run_inline_of_wp (codeOf_registers x) (init_stores fuel) hrun
  exact hheld rfl

/-- Whatever the registers of the sensor hold and however the transfers go: after
`BMP280_init` has returned true, the handle holds the coefficients of the register
map if and only if the sensor is not a BME280 or its H4 and H5 are not negative. -/
theorem calibration_decoded_iff {D : Type} (x : Chip D) {fuel : Nat} {dev dev' : Handle}
    {s s' : Site D}
    (hrun : (expand (init fuel dev)).run x.wiring.answer s = some ((true, dev'), s')) :
    Decoded x.regs dev' ↔
      (x.regs regId = bme280ChipId → x.regs 0xE4 < 0x80 ∧ x.regs 0xE6 < 0x80) :=
  (init_held x hrun).decoded_iff

/-- A sensor on a bus without faults, `regs` its registers. -/
def faultless (regs : UInt8 → UInt8) : Chip Unit where
  wiring :=
    { env :=
        { delay := fun _ => 0
          reply := fun _ c =>
            match c with
            | .i2cState => I2cState.ready
            | .i2cWait => (.ok, [])
            | c => anyReply c }
      transfer := fun _ tx n d =>
        match tx with
        | [reg] => ((List.range n).map fun i => regs (reg + UInt8.ofNat i), d)
        | _ => ([], d)
      reaches := fun _ => false }
  regs := regs
  sends past reg n d i hi _ := by
    change ((List.range n).map fun i => regs (reg + UInt8.ofNat i)).getD i 0 = _
    rw [List.getD_eq_getElem?_getD, List.getElem?_map, List.getElem?_range hi]
    rfl

/-- A BME280 with the high bytes `h4` and `h5`; every other register holds its number. -/
def bme280 (h4 h5 reg : UInt8) : UInt8 :=
  if reg = regId then bme280ChipId
  else if reg = regStatus then 0
  else if reg = 0xE4 then h4
  else if reg = 0xE6 then h5
  else reg

def unread : Handle := ⟨i2cAddress1, initDefaultParams, 0, {}⟩

def powerOn : Site Unit := ⟨⟨0, []⟩, (), [], 0⟩

theorem calibration_decoded_positive :
    ∃ dev' s', (expand (init 1 unread)).run (faultless (bme280 0x14 0x03)).wiring.answer powerOn =
      some ((true, dev'), s') ∧ Decoded (bme280 0x14 0x03) dev' := by
  have hreturn : ((expand (init 1 unread)).run (faultless (bme280 0x14 0x03)).wiring.answer
      powerOn).map (fun r => r.1.1) = some true := by decide +kernel
  obtain ⟨⟨⟨_, dev'⟩, s'⟩, hrun, rfl⟩ := Option.map_eq_some_iff.mp hreturn
  refine ⟨dev', s', hrun, ?_⟩
  exact (calibration_decoded_iff (faultless (bme280 0x14 0x03)) hrun).mpr fun _ => by decide

/-- A BME280 whose H4 is -11 (0xFF in 0xE4, 5 in the low half of 0xE5): `BMP280_init`
returns true and `dig_H4` is 4085. -/
theorem negative_h4_misread :
    signed 4096 (bitsH4 (bme280 0xFF 0x03)) = -11 ∧
    ((expand (init 1 unread)).run (faultless (bme280 0xFF 0x03)).wiring.answer powerOn).map
      (fun r => (r.1.1, r.1.2.cal.digH4.toInt, decide (Decoded (bme280 0xFF 0x03) r.1.2))) =
      some (true, 4085, false) := by
  constructor <;> decide +kernel

end MeteoL053.Bmp280
