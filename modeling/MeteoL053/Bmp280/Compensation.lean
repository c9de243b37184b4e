import MeteoL053.Bmp280.Calibration
import MeteoL053.Lib.MachineInt

/-!
The compensation formulas in the integer types of the source. The temperature and
the humidity are computed in `int32_t` and the pressure in `int64_t`, without a
check of the coefficients. `Bmp280/Driver.lean` has the exact formulas; here
every operation is checked, and each function is shown to have a result if and
only if a few of its intermediates fit. The result is then the exact one, the
pressure modulo `2 ^ 32`.
-/

namespace MeteoL053.Bmp280

open MachineInt
open MachineInt.IntType (int32 int64)

/-! ## The functions in machine arithmetic -/

section Code

variable (cal : Calibration)

/-- `BMP280_compensate_temperature`. -/
def compensateTemperature32 (adcTemp : Int) : Option (Int × Int) := do
  let t1 : Int := cal.digT1.toNat
  let t2 := cal.digT2.toInt
  let t3 := cal.digT3.toInt
  let var1 ← int32.shr (← int32.mul (← int32.sub (← int32.shr adcTemp 3) (← int32.shl t1 1)) t2) 11
  let var2 ← int32.shr (← int32.mul
    (← int32.shr (← int32.mul (← int32.sub (← int32.shr adcTemp 4) t1)
      (← int32.sub (← int32.shr adcTemp 4) t1)) 12) t3) 14
  let fineTemp ← int32.add var1 var2
  let temperature ← int32.shr (← int32.add (← int32.mul fineTemp 5) 128) 8
  return (temperature, fineTemp)

/-- `BMP280_compensate_pressure` up to the test of the divisor: `var1` and `var2`. -/
def pressureTerms64 (fineTemp : Int) : Option (Int × Int) := do
  let var1 ← int64.sub fineTemp 128000
  let var2 ← int64.mul (← int64.mul var1 var1) cal.digP6.toInt
  let var2 ← int64.add var2 (← int64.shl (← int64.mul var1 cal.digP5.toInt) 17)
  let var2 ← int64.add var2 (← int64.shl cal.digP4.toInt 35)
  let var1 ← int64.add (← int64.shr (← int64.mul (← int64.mul var1 var1) cal.digP3.toInt) 8)
    (← int64.shl (← int64.mul var1 cal.digP2.toInt) 12)
  let var1 ← int64.shr (← int64.mul (← int64.add (← int64.shl 1 47) var1) cal.digP1.toNat) 33
  return (var1, var2)

/-- The rest of `BMP280_compensate_pressure`; the first difference is one of `int`. -/
def pressureQuotient64 (adcPress var1 var2 : Int) : Option UInt32 := do
  let p ← int32.sub 1048576 adcPress
  let p ← int64.div (← int64.mul (← int64.sub (← int64.shl p 31) var2) 3125) var1
  let var1 ← int64.shr
    (← int64.mul (← int64.mul cal.digP9.toInt (← int64.shr p 13)) (← int64.shr p 13)) 25
  let var2 ← int64.shr (← int64.mul cal.digP8.toInt p) 19
  let p ← int64.add (← int64.shr (← int64.add (← int64.add p var1) var2) 8)
    (← int64.shl cal.digP7.toInt 4)
  return UInt32.ofInt p

/-- `BMP280_compensate_pressure`. -/
def compensatePressure64 (adcPress fineTemp : Int) : Option UInt32 := do
  let (var1, var2) ← pressureTerms64 cal fineTemp
  -- avoids the division by zero
  if var1 = 0 then return 0 else pressureQuotient64 cal adcPress var1 var2

/-- `BMP280_compensate_humidity`. -/
def compensateHumidity32 (adcHum fineTemp : Int) : Option UInt32 := do
  let v ← int32.sub fineTemp 76800
  let v ← int32.mul
    (← int32.shr (← int32.add
      (← int32.sub (← int32.sub (← int32.shl adcHum 14) (← int32.shl cal.digH4.toInt 20))
        (← int32.mul cal.digH5.toInt v)) 16384) 15)
    (← int32.shr (← int32.add (← int32.mul (← int32.add
      (← int32.shr (← int32.mul (← int32.shr (← int32.mul v cal.digH6.toInt) 10)
        (← int32.add (← int32.shr (← int32.mul v cal.digH3.toNat) 11) 32768)) 10) 2097152)
      cal.digH2.toInt) 8192) 14)
  let v ← int32.sub v (← int32.shr (← int32.mul
    (← int32.shr (← int32.mul (← int32.shr v 15) (← int32.shr v 15)) 7) cal.digH1.toNat) 4)
  let v := if v < 0 then 0 else v
  let v := if v > 419430400 then 419430400 else v
  return UInt32.ofInt (← int32.shr v 12)

end Code

/-! ## Ranges of the coefficients -/

theorem shiftRight_eq_asr (x : Int) (n : Nat) : x >>> n = asr x n := rfl

theorem within_int16 (x : Int16) : Within 32768 x.toInt := by
  have hlo : -32768 ≤ x.toInt := x.le_toInt
  have hhi : x.toInt < 32768 := x.toInt_lt
  constructor <;> omega

theorem within_uint16 (x : UInt16) : Within 65535 x.toNat := by
  have hlt : x.toNat < 65536 := x.toNat_lt
  constructor <;> omega

theorem within_int8 (x : Int8) : Within 128 x.toInt := by
  have hlo : -128 ≤ x.toInt := x.le_toInt
  have hhi : x.toInt < 128 := x.toInt_lt
  constructor <;> omega

theorem within_uint8 (x : UInt8) : Within 255 x.toNat := by
  have hlt : x.toNat < 256 := x.toNat_lt
  constructor <;> omega

/-- The raw temperature and the raw pressure have 20 bits. -/
def Raw20 (adc : Int) : Prop := 0 ≤ adc ∧ adc < 1048576

theorem Raw20.within {adc : Int} (h : Raw20 adc) : Within 1048576 adc := by
  obtain ⟨hlo, hhi⟩ := h
  constructor <;> omega

/-! ## The temperature -/

/-- The intermediates of `BMP280_compensate_temperature` that may not fit. -/
structure TemperatureFits (cal : Calibration) (adcTemp : Int) : Prop where
  linear : int32.Fits ((asr adcTemp 3 - cal.digT1.toNat * 2) * cal.digT2.toInt)
  square : Within 46340 (asr adcTemp 4 - cal.digT1.toNat)
  quadratic : int32.Fits
    (asr ((asr adcTemp 4 - cal.digT1.toNat) * (asr adcTemp 4 - cal.digT1.toNat)) 12 *
      cal.digT3.toInt)

theorem compensateTemperature32_eq_some_iff (cal : Calibration) {adcTemp : Int}
    (hadc : Raw20 adcTemp) (r : Int × Int) :
    compensateTemperature32 cal adcTemp = some r ↔
      TemperatureFits cal adcTemp ∧ r = compensateTemperature cal adcTemp := by
  have h3 : Within 131072 (asr adcTemp 3) := hadc.within.shiftRight (by omega)
  have h4 : Within 65536 (asr adcTemp 4) := hadc.within.shiftRight (by omega)
  have ht1 : Within 65535 (cal.digT1.toNat : Int) := within_uint16 cal.digT1
  have htwice : Within 131070 ((cal.digT1.toNat : Int) * 2) := ht1.mul (by decide : Within 2 2)
  unfold compensateTemperature32
  simp only [IntType.shr, IntType.shl, IntType.sub, IntType.mul, IntType.add,
    IntType.checked_bind, shiftRight_eq_asr, Int.reducePow]
  constructor
  · rintro ⟨-, -, -, hvar1, -, -, -, -, -, hsquare, -, hvar2, -, -, -, -, -, hr⟩
    exact ⟨⟨hvar1, square_fits_iff.mp hsquare, hvar2⟩, (Option.some.inj hr).symm⟩
  · rintro ⟨h, rfl⟩
    have hsquare := square_fits_iff.mpr h.square
    have h11 : Within 1048576 (asr _ 11) := (within32 h.linear).shiftRight (by omega)
    have h12 : Within 524288 (asr _ 12) := (within32 hsquare).shiftRight (by omega)
    have h14 : Within 131072 (asr _ 14) := (within32 h.quadratic).shiftRight (by omega)
    have hfine := h11.add h14
    have hfive := hfine.mul (by decide : Within 5 5)
    have hround := hfive.add (by decide : Within 128 128)
    -- one entry for each operation, in the order of the source
    exact ⟨h3.fits32 (by omega), htwice.fits32 (by omega), (h3.sub htwice).fits32 (by omega), h.linear,
      h11.fits32 (by omega), h4.fits32 (by omega), (h4.sub ht1).fits32 (by omega),
      h4.fits32 (by omega), (h4.sub ht1).fits32 (by omega), hsquare, h12.fits32 (by omega), h.quadratic,
      h14.fits32 (by omega), hfine.fits32 (by omega), hfive.fits32 (by omega), hround.fits32 (by omega),
      (hround.shiftRight (m := 23041) (by omega)).fits32 (by omega), rfl⟩

/-- `fine_temp` as it reaches the other two functions. -/
theorem TemperatureFits.fineTemp {cal : Calibration} {adcTemp : Int}
    (h : TemperatureFits cal adcTemp) : Within 1179648 (compensateTemperature cal adcTemp).2 := by
  have hvar1 : Within 1048576 (asr _ 11) := (within32 h.linear).shiftRight (by omega)
  have hvar2 : Within 131072 (asr _ 14) := (within32 h.quadratic).shiftRight (by omega)
  exact hvar1.add hvar2

/-! ## The pressure -/

section Pressure

variable (cal : Calibration)

/-- `var2` before the division. -/
def pressureOffset (fineTemp : Int) : Int :=
  (fineTemp - 128000) * (fineTemp - 128000) * cal.digP6.toInt +
    (fineTemp - 128000) * cal.digP5.toInt * 2 ^ 17 + cal.digP4.toInt * 2 ^ 35

/-- The factor of P1. -/
def pressureScale (fineTemp : Int) : Int :=
  2 ^ 47 + (asr ((fineTemp - 128000) * (fineTemp - 128000) * cal.digP3.toInt) 8 +
    (fineTemp - 128000) * cal.digP2.toInt * 2 ^ 12)

/-- `var1` before the division. -/
def pressureDivisor (fineTemp : Int) : Int := asr (pressureScale cal fineTemp * cal.digP1.toNat) 33

theorem pressureTerms64_eq_some_iff {fineTemp : Int} (hfine : Within 1179648 fineTemp)
    (r : Int × Int) :
    pressureTerms64 cal fineTemp = some r ↔
      int64.Fits (pressureScale cal fineTemp * cal.digP1.toNat) ∧
        r = (pressureDivisor cal fineTemp, pressureOffset cal fineTemp) := by
  have hv := hfine.sub (by decide : Within 128000 128000)
  have hsquare := hv.mul hv
  have h6 := hsquare.mul (within_int16 cal.digP6)
  have h5 := hv.mul (within_int16 cal.digP5)
  have h5shift := h5.mul (by decide : Within 131072 131072)
  have h4shift := (within_int16 cal.digP4).mul (by decide : Within 34359738368 34359738368)
  have h3 := hsquare.mul (within_int16 cal.digP3)
  have h3shift : Within 218872741363712 (asr _ 8) := h3.shiftRight (by omega)
  have h2 := hv.mul (within_int16 cal.digP2)
  have h2shift := h2.mul (by decide : Within 4096 4096)
  have hone : Within 140737488355328 140737488355328 := by decide
  have hscale := hone.add (h3shift.add h2shift)
  unfold pressureTerms64
  simp only [IntType.shr, IntType.shl, IntType.sub, IntType.mul, IntType.add,
    IntType.checked_bind, shiftRight_eq_asr, Int.reducePow, one_mul]
  constructor
  · rintro ⟨-, -, -, -, -, -, -, -, -, -, -, -, -, -, -, -, hproduct, -, hr⟩
    exact ⟨hproduct, (Option.some.inj hr).symm⟩
  · rintro ⟨hproduct, rfl⟩
    have hdivisor : Within 1073741824 (asr _ 33) := (within64 hproduct).shiftRight (by omega)
    -- one entry for each operation, in the order of the source
    exact ⟨hv.fits64 (by omega), hsquare.fits64 (by omega), h6.fits64 (by omega),
      h5.fits64 (by omega), h5shift.fits64 (by omega), (h6.add h5shift).fits64 (by omega),
      h4shift.fits64 (by omega), ((h6.add h5shift).add h4shift).fits64 (by omega),
      hsquare.fits64 (by omega), h3.fits64 (by omega), h3shift.fits64 (by omega),
      h2.fits64 (by omega), h2shift.fits64 (by omega), (h3shift.add h2shift).fits64 (by omega),
      hone.fits64 (by omega), hscale.fits64 (by omega), hproduct, hdivisor.fits64 (by omega), rfl⟩

/-- `p` after the division. -/
def pressureQuotient (adcPress var1 var2 : Int) : Int :=
  (((1048576 - adcPress) * 2 ^ 31 - var2) * 3125).tdiv var1

/-- The quadratic correction before its shift, with a factor of `p` shifted by 13. -/
def pressureSquare (p : Int) : Int := cal.digP9.toInt * asr p 13 * asr p 13

variable {cal} {p : Int}

/-- The factors of the square fit when the square does. -/
theorem pressureSquare_factor (h : int64.Fits (pressureSquare cal p)) :
    int64.Fits (cal.digP9.toInt * asr p 13) := by
  have hp9 := within_int16 cal.digP9
  by_cases hone : Within 1 (asr p 13)
  · exact (hp9.mul hone).fits64 (by omega)
  · have habs : 2 ≤ |asr p 13| := by
      rw [within_iff] at hone
      omega
    have hsquare : |cal.digP9.toInt * asr p 13| * |asr p 13| ≤ 9223372036854775808 := by
      rw [← abs_mul]
      exact within_iff.mp (within64 h)
    have hhalf : |cal.digP9.toInt * asr p 13| ≤ 4611686018427387904 := by
      nlinarith [abs_nonneg (cal.digP9.toInt * asr p 13)]
    exact (within_iff.mpr hhalf).fits64 (by omega)

/-- A `p` near the ends of the range leaves room for a square only if P9 is zero. -/
theorem pressureSquare_sum (hp : int64.Fits p) (h : int64.Fits (pressureSquare cal p)) :
    int64.Fits (p + asr (pressureSquare cal p) 25) := by
  by_cases hzero : cal.digP9.toInt = 0
  · have hsquare : pressureSquare cal p = 0 := by simp [pressureSquare, hzero]
    rw [hsquare]
    simpa [asr] using hp
  · have hshift : Within 4294967296 (asr p 13) := by
      rw [within_iff]
      by_contra hlarge
      have hp9 : 1 ≤ |cal.digP9.toInt| := Int.one_le_abs hzero
      have hsquare : |cal.digP9.toInt| * (|asr p 13| * |asr p 13|) ≤ 9223372036854775808 := by
        rw [← abs_mul, ← abs_mul, ← mul_assoc]
        exact within_iff.mp (within64 h)
      nlinarith [abs_nonneg (asr p 13)]
    have hp : Within 35184372097024 p := by
      have hdiv : asr p 13 = p / 8192 := Int.shiftRight_eq_div_pow p 13
      obtain ⟨hlo, hhi⟩ := hshift
      constructor <;> omega
    have hterm : Within 274877906944 (asr _ 25) := (within64 h).shiftRight (by omega)
    exact (hp.add hterm).fits64 (by omega)

variable (cal)

/-- The intermediates after the test of the divisor that may not fit. -/
structure QuotientFits (adcPress var1 var2 : Int) : Prop where
  dividend : int64.Fits (((1048576 - adcPress) * 2 ^ 31 - var2) * 3125)
  square : int64.Fits (pressureSquare cal (pressureQuotient adcPress var1 var2))
  linear : int64.Fits (cal.digP8.toInt * pressureQuotient adcPress var1 var2)
  sum : int64.Fits (pressureQuotient adcPress var1 var2 +
    asr (pressureSquare cal (pressureQuotient adcPress var1 var2)) 25 +
    asr (cal.digP8.toInt * pressureQuotient adcPress var1 var2) 19)

/-- The result for a divisor that is not zero. -/
def pressureResult (p : Int) : Int :=
  asr (p + asr (pressureSquare cal p) 25 + asr (cal.digP8.toInt * p) 19) 8 + cal.digP7.toInt * 2 ^ 4

/-- The quotient is in range: no multiple of 3125 is the least `int64_t`, whose
quotient by -1 would not be. -/
theorem pressureQuotient_fits {adcPress var2 : Int} (var1 : Int)
    (h : int64.Fits (((1048576 - adcPress) * 2 ^ 31 - var2) * 3125)) :
    int64.Fits (pressureQuotient adcPress var1 var2) := by
  have hdividend : Within 9223372036854775807 (((1048576 - adcPress) * 2 ^ 31 - var2) * 3125) := by
    obtain ⟨hlo, hhi⟩ := h
    simp only [IntType.bound] at hlo hhi
    constructor <;> omega
  exact (hdividend.tdiv var1).fits64 (by omega)

theorem pressureQuotient64_eq_some_iff {adcPress var1 var2 : Int} (hadc : Raw20 adcPress)
    (hvar1 : var1 ≠ 0) (hvar2 : Within 72057594037927936 var2) (r : UInt32) :
    pressureQuotient64 cal adcPress var1 var2 = some r ↔
      QuotientFits cal adcPress var1 var2 ∧
        r = UInt32.ofInt (pressureResult cal (pressureQuotient adcPress var1 var2)) := by
  have hdiff := (by decide : Within 1048576 1048576).sub hadc.within
  have hshift := hdiff.mul (by decide : Within 2147483648 2147483648)
  have h7 := (within_int16 cal.digP7).mul (by decide : Within 16 16)
  unfold pressureQuotient64
  simp only [IntType.shr, IntType.shl, IntType.sub, IntType.mul, IntType.add,
    IntType.checked_bind, IntType.div_bind, shiftRight_eq_asr, Int.reducePow]
  constructor
  · rintro ⟨-, -, -, hdividend, -, -, -, -, -, hsquare, -, hlinear, -, -, hsum, -, -, -, hr⟩
    exact ⟨⟨hdividend, hsquare, hlinear, hsum⟩, (Option.some.inj hr).symm⟩
  · rintro ⟨h, rfl⟩
    have hp := pressureQuotient_fits var1 h.dividend
    have h13 : Within 1125899906842624 (asr _ 13) := (within64 hp).shiftRight (by omega)
    have h25 : Within 274877906944 (asr _ 25) := (within64 h.square).shiftRight (by omega)
    have h19 : Within 17592186044416 (asr _ 19) := (within64 h.linear).shiftRight (by omega)
    have h8 : Within 36028797018963968 (asr _ 8) := (within64 h.sum).shiftRight (by omega)
    -- one entry for each operation, in the order of the source
    exact ⟨hdiff.fits32 (by omega), hshift.fits64 (by omega), (hshift.sub hvar2).fits64 (by omega),
      h.dividend, hvar1, hp, h13.fits64 (by omega), pressureSquare_factor h.square,
      h13.fits64 (by omega), h.square, h25.fits64 (by omega), h.linear, h19.fits64 (by omega),
      pressureSquare_sum hp h.square, h.sum, h8.fits64 (by omega), h7.fits64 (by omega),
      (h8.add h7).fits64 (by omega), rfl⟩

/-- The intermediates of `BMP280_compensate_pressure` that may not fit; when the
divisor is zero there is only one. -/
def PressureFits (adcPress fineTemp : Int) : Prop :=
  int64.Fits (pressureScale cal fineTemp * cal.digP1.toNat) ∧
    (pressureDivisor cal fineTemp ≠ 0 →
      QuotientFits cal adcPress (pressureDivisor cal fineTemp) (pressureOffset cal fineTemp))

theorem exactPressure_eq (adcPress fineTemp : Int) :
    exactPressure cal adcPress fineTemp =
      if pressureDivisor cal fineTemp = 0 then 0
      else pressureResult cal (pressureQuotient adcPress (pressureDivisor cal fineTemp)
        (pressureOffset cal fineTemp)) := rfl

theorem pressureOffset_within {fineTemp : Int} (hfine : Within 1179648 fineTemp) :
    Within 72057594037927936 (pressureOffset cal fineTemp) := by
  have hv := hfine.sub (by decide : Within 128000 128000)
  have h6 := (hv.mul hv).mul (within_int16 cal.digP6)
  have h5 := (hv.mul (within_int16 cal.digP5)).mul (by decide : Within (2 ^ 17) (2 ^ 17))
  have h4 := (within_int16 cal.digP4).mul (by decide : Within (2 ^ 35) (2 ^ 35))
  exact ((h6.add h5).add h4).mono (by omega)

theorem compensatePressure64_eq_some_iff {adcPress fineTemp : Int} (hadc : Raw20 adcPress)
    (hfine : Within 1179648 fineTemp) (r : UInt32) :
    compensatePressure64 cal adcPress fineTemp = some r ↔
      PressureFits cal adcPress fineTemp ∧ r = compensatePressure cal adcPress fineTemp := by
  have hcode : compensatePressure64 cal adcPress fineTemp = some r ↔
      int64.Fits (pressureScale cal fineTemp * cal.digP1.toNat) ∧
        (if pressureDivisor cal fineTemp = 0 then some 0
          else pressureQuotient64 cal adcPress (pressureDivisor cal fineTemp)
            (pressureOffset cal fineTemp)) = some r := by
    unfold compensatePressure64
    rw [Option.bind_eq_bind, Option.bind_eq_some_iff]
    constructor
    · rintro ⟨terms, hterms, hrest⟩
      obtain ⟨hproduct, rfl⟩ := (pressureTerms64_eq_some_iff cal hfine terms).mp hterms
      exact ⟨hproduct, hrest⟩
    · rintro ⟨hproduct, hrest⟩
      exact ⟨_, (pressureTerms64_eq_some_iff cal hfine _).mpr ⟨hproduct, rfl⟩, hrest⟩
  rw [hcode, compensatePressure, exactPressure_eq, PressureFits, and_assoc]
  refine and_congr_right fun _ => ?_
  by_cases hzero : pressureDivisor cal fineTemp = 0
  · rw [if_pos hzero, if_pos hzero, Option.some_inj, eq_comm]
    exact (and_iff_right fun h => absurd hzero h).symm
  · rw [if_neg hzero, if_neg hzero, pressureQuotient64_eq_some_iff cal hadc hzero
      (pressureOffset_within cal hfine), forall_prop_of_true hzero]

end Pressure

/-! ## The humidity -/

section Humidity

variable (cal : Calibration)

/-- The first factor before its rounding and shift. -/
def humidityOffset (adcHum fineTemp : Int) : Int :=
  adcHum * 2 ^ 14 - cal.digH4.toInt * 2 ^ 20 - cal.digH5.toInt * (fineTemp - 76800)

/-- The product of the terms with H6 and H3. -/
def humidityCurve (fineTemp : Int) : Int :=
  asr ((fineTemp - 76800) * cal.digH6.toInt) 10 *
    (asr ((fineTemp - 76800) * cal.digH3.toNat) 11 + 32768)

/-- The second factor before its rounding and shift. -/
def humidityGain (fineTemp : Int) : Int :=
  (asr (humidityCurve cal fineTemp) 10 + 2097152) * cal.digH2.toInt

/-- The product of the two factors. -/
def humidityProduct (adcHum fineTemp : Int) : Int :=
  asr (humidityOffset cal adcHum fineTemp + 16384) 15 * asr (humidityGain cal fineTemp + 8192) 14

/-- The quadratic correction before its last shift. -/
def humidityCorrection (v : Int) : Int := asr (asr v 15 * asr v 15) 7 * cal.digH1.toNat

/-- The intermediates of `BMP280_compensate_humidity` that may not fit. -/
structure HumidityFits (adcHum fineTemp : Int) : Prop where
  digH4 : -2048 ≤ cal.digH4.toInt ∧ cal.digH4.toInt < 2048
  level : int32.Fits (adcHum * 2 ^ 14 - cal.digH4.toInt * 2 ^ 20)
  cross : int32.Fits (cal.digH5.toInt * (fineTemp - 76800))
  offset : int32.Fits (humidityOffset cal adcHum fineTemp)
  offsetRounded : int32.Fits (humidityOffset cal adcHum fineTemp + 16384)
  curve : int32.Fits (humidityCurve cal fineTemp)
  gain : int32.Fits (humidityGain cal fineTemp)
  gainRounded : int32.Fits (humidityGain cal fineTemp + 8192)
  product : int32.Fits (humidityProduct cal adcHum fineTemp)
  square : Within 46340 (asr (humidityProduct cal adcHum fineTemp) 15)
  correction : int32.Fits (humidityCorrection cal (humidityProduct cal adcHum fineTemp))

/-- The raw humidity has 16 bits. -/
def Raw16 (adc : Int) : Prop := 0 ≤ adc ∧ adc < 65536

theorem Raw16.within {adc : Int} (h : Raw16 adc) : Within 65535 adc := by
  obtain ⟨hlo, hhi⟩ := h
  constructor <;> omega

variable {cal}

theorem digH4_fits_iff :
    int32.Fits (cal.digH4.toInt * 1048576) ↔ -2048 ≤ cal.digH4.toInt ∧ cal.digH4.toInt < 2048 := by
  simp only [IntType.Fits, IntType.bound]
  omega

/-- The correction is small against a product whose square fits. -/
theorem humidityCorrection_sub {v : Int} (hsquare : Within 46340 (asr v 15))
    (hcorrection : int32.Fits (humidityCorrection cal v)) :
    int32.Fits (v - asr (humidityCorrection cal v) 4) := by
  have hv : Within 1518534656 v := by
    have hdiv : asr v 15 = v / 32768 := Int.shiftRight_eq_div_pow v 15
    obtain ⟨hlo, hhi⟩ := hsquare
    constructor <;> omega
  have hshift : Within 134217728 (asr _ 4) := (within32 hcorrection).shiftRight (by omega)
  exact (hv.sub hshift).fits32 (by omega)

/-- The limits of the result. -/
theorem within_limits (v : Int) :
    Within 419430400 (if (if v < 0 then 0 else v) > 419430400 then 419430400
      else if v < 0 then 0 else v) := by
  constructor <;> split <;> split <;> omega

/-- The limits make the result a `uint32_t`. -/
theorem exactHumidity_range (cal : Calibration) (adcHum fineTemp : Int) :
    0 ≤ exactHumidity cal adcHum fineTemp ∧ exactHumidity cal adcHum fineTemp < 2 ^ 32 := by
  unfold exactHumidity
  dsimp only
  rw [asr, Int.shiftRight_eq_div_pow]
  constructor <;> split <;> split <;> omega

theorem compensateHumidity32_eq_some_iff {adcHum fineTemp : Int} (hadc : Raw16 adcHum)
    (hfine : Within 1179648 fineTemp) (r : UInt32) :
    compensateHumidity32 cal adcHum fineTemp = some r ↔
      HumidityFits cal adcHum fineTemp ∧ r = compensateHumidity cal adcHum fineTemp := by
  have hv := hfine.sub (by decide : Within 76800 76800)
  have hhum := hadc.within.mul (by decide : Within 16384 16384)
  have h6 := hv.mul (within_int8 cal.digH6)
  have h6shift : Within 157056 (asr _ 10) := h6.shiftRight (by omega)
  have h3 := hv.mul (within_uint8 cal.digH3)
  have h3shift : Within 156443 (asr _ 11) := h3.shiftRight (by omega)
  have h3sum := h3shift.add (by decide : Within 32768 32768)
  unfold compensateHumidity32
  simp only [IntType.shr, IntType.shl, IntType.sub, IntType.mul, IntType.add,
    IntType.checked_bind, shiftRight_eq_asr, Int.reducePow]
  constructor
  · rintro ⟨-, -, h4, hlevel, hcross, hoffset, hoffset', -, -, -, -, -, -, hcurve, -, -, hgain,
      hgain', -, hproduct, -, -, hsquare, -, hcorrection, -, -, -, hr⟩
    exact ⟨⟨digH4_fits_iff.mp h4, hlevel, hcross, hoffset, hoffset', hcurve, hgain, hgain', hproduct,
      square_fits_iff.mp hsquare, hcorrection⟩, (Option.some.inj hr).symm⟩
  · rintro ⟨h, rfl⟩
    have hsquare := square_fits_iff.mpr h.square
    have h15 : Within 65536 (asr _ 15) := (within32 h.offsetRounded).shiftRight (by omega)
    have h10 : Within 2097152 (asr _ 10) := (within32 h.curve).shiftRight (by omega)
    have hslope := h10.add (by decide : Within 2097152 2097152)
    have h14 : Within 131072 (asr _ 14) := (within32 h.gainRounded).shiftRight (by omega)
    have h7 : Within 16777216 (asr _ 7) := (within32 hsquare).shiftRight (by omega)
    have h4 : Within 134217728 (asr _ 4) := (within32 h.correction).shiftRight (by omega)
    have h12 : Within 102400 (asr _ 12) :=
      (within_limits (humidityProduct cal adcHum fineTemp -
        asr (humidityCorrection cal (humidityProduct cal adcHum fineTemp)) 4)).shiftRight (by omega)
    -- one entry for each operation, in the order of the source
    exact ⟨hv.fits32 (by omega), hhum.fits32 (by omega), digH4_fits_iff.mpr h.digH4, h.level, h.cross,
      h.offset, h.offsetRounded, h15.fits32 (by omega), h6.fits32 (by omega), h6shift.fits32 (by omega),
      h3.fits32 (by omega), h3shift.fits32 (by omega), h3sum.fits32 (by omega), h.curve,
      h10.fits32 (by omega), hslope.fits32 (by omega), h.gain, h.gainRounded, h14.fits32 (by omega),
      h.product, h.square.fits32 (by omega), h.square.fits32 (by omega), hsquare,
      h7.fits32 (by omega), h.correction, h4.fits32 (by omega),
      humidityCorrection_sub h.square h.correction, h12.fits32 (by omega), rfl⟩

end Humidity

/-! ## `BMP280_read_fixed` -/

section Fixed

/-- `adc_pressure`, from the bytes of the data registers. -/
def adcPressure (data : List UInt8) : Nat :=
  (data.getD 0 0).toNat <<< 12 ||| (data.getD 1 0).toNat <<< 4 ||| (data.getD 2 0).toNat >>> 4

/-- `adc_temp`. -/
def adcTemp (data : List UInt8) : Nat :=
  (data.getD 3 0).toNat <<< 12 ||| (data.getD 4 0).toNat <<< 4 ||| (data.getD 5 0).toNat >>> 4

/-- `adc_humidity`. -/
def adcHumidity (data : List UInt8) : Nat := (data.getD 6 0).toNat <<< 8 ||| (data.getD 7 0).toNat

/-- The exact `fine_temp`. -/
def fineTemp (dev : Handle) (data : List UInt8) : Int :=
  (compensateTemperature dev.cal (adcTemp data)).2

/-- What `BMP280_read_fixed` makes of the data, by the exact formulas. -/
def fixedOf (dev : Handle) (data : List UInt8) : Fixed where
  temperature := (compensateTemperature dev.cal (adcTemp data)).1
  pressure := compensatePressure dev.cal (adcPressure data) (fineTemp dev data)
  humidity :=
    if dev.id = bme280ChipId then
      compensateHumidity dev.cal (adcHumidity data) (fineTemp dev data)
    else 0

/-- What it makes of them in machine arithmetic. -/
def machineFixed (dev : Handle) (data : List UInt8) : Option Fixed := do
  let (temperature, fineTemp) ← compensateTemperature32 dev.cal (adcTemp data)
  let pressure ← compensatePressure64 dev.cal (adcPressure data) fineTemp
  let humidity ←
    (if dev.id = bme280ChipId then compensateHumidity32 dev.cal (adcHumidity data) fineTemp
    else some 0)
  return ⟨temperature, pressure, humidity⟩

/-- What the exact formulas give, before the conversions to the return types. -/
def exactOf (dev : Handle) (data : List UInt8) : Int × Int × Int :=
  ((compensateTemperature dev.cal (adcTemp data)).1,
    exactPressure dev.cal (adcPressure data) (fineTemp dev data),
    if dev.id = bme280ChipId then exactHumidity dev.cal (adcHumidity data) (fineTemp dev data)
    else 0)

def Fixed.values (r : Fixed) : Int × Int × Int := (r.temperature, r.pressure.toNat, r.humidity.toNat)

/-- `BMP280_read_fixed` applies the formulas to the bytes it reads. -/
theorem readFixed_eq (dev : Handle) :
    readFixed dev = (readData dev regData (if dev.id = bme280ChipId then 8 else 6) >>= fun data =>
      pure (data.map (fixedOf dev))) := by
  refine congrArg (readData dev regData (if dev.id = bme280ChipId then 8 else 6) >>= ·) ?_
  funext reply
  cases reply <;> rfl

/-- No intermediate overflows. -/
structure CompensationFits (dev : Handle) (data : List UInt8) : Prop where
  temperature : TemperatureFits dev.cal (adcTemp data)
  pressure : PressureFits dev.cal (adcPressure data) (fineTemp dev data)
  humidity : dev.id = bme280ChipId →
    HumidityFits dev.cal (adcHumidity data) (fineTemp dev data)

/-- The exact pressure is a value of the return type. -/
def PressureInRange (dev : Handle) (data : List UInt8) : Prop :=
  0 ≤ exactPressure dev.cal (adcPressure data) (fineTemp dev data) ∧
    exactPressure dev.cal (adcPressure data) (fineTemp dev data) < 2 ^ 32

theorem toNat_ofInt_eq_iff (x : Int) :
    ((UInt32.ofInt x).toNat : Int) = x ↔ 0 ≤ x ∧ x < 2 ^ 32 := by
  rw [UInt32.ofInt, UInt32.toNat_ofNat']
  omega

theorem values_fixedOf_eq_iff (dev : Handle) (data : List UInt8) :
    (fixedOf dev data).values = exactOf dev data ↔ PressureInRange dev data := by
  have hhumidity : ((fixedOf dev data).humidity.toNat : Int) = (exactOf dev data).2.2 := by
    unfold fixedOf exactOf
    dsimp only
    split
    · exact (toNat_ofInt_eq_iff _).mpr (exactHumidity_range _ _ _)
    · rfl
  have hpressure : ((fixedOf dev data).pressure.toNat : Int) = (exactOf dev data).2.1 ↔
      PressureInRange dev data := toNat_ofInt_eq_iff _
  rw [Fixed.values, Prod.ext_iff, Prod.ext_iff]
  exact ⟨fun h => hpressure.mp h.2.1, fun h => ⟨rfl, hpressure.mpr h, hhumidity⟩⟩

theorem byte_shiftLeft_lt (a : UInt8) (k : Nat) : a.toNat <<< k < 2 ^ (8 + k) := by
  rw [Nat.shiftLeft_eq, Nat.pow_add]
  exact Nat.mul_lt_mul_of_pos_right a.toNat_lt (Nat.two_pow_pos k)

theorem raw20_bytes (a b c : UInt8) :
    Raw20 (a.toNat <<< 12 ||| b.toNat <<< 4 ||| c.toNat >>> 4 : Nat) := by
  have ha : a.toNat <<< 12 < 2 ^ 20 := byte_shiftLeft_lt a 12
  have hb : b.toNat <<< 4 < 2 ^ 12 := byte_shiftLeft_lt b 4
  have hc : c.toNat >>> 4 < 2 ^ 8 := lt_of_le_of_lt (Nat.shiftRight_le _ _) c.toNat_lt
  have hor := Nat.or_lt_two_pow (Nat.or_lt_two_pow ha (lt_trans hb (by decide)))
    (lt_trans hc (by decide))
  exact ⟨Int.natCast_nonneg _, Int.ofNat_lt.mpr hor⟩

theorem raw16_bytes (a b : UInt8) : Raw16 (a.toNat <<< 8 ||| b.toNat : Nat) := by
  have ha : a.toNat <<< 8 < 2 ^ 16 := byte_shiftLeft_lt a 8
  have hb : b.toNat < 2 ^ 16 := lt_trans b.toNat_lt (by decide)
  exact ⟨Int.natCast_nonneg _, Int.ofNat_lt.mpr (Nat.or_lt_two_pow ha hb)⟩

variable (dev : Handle) (data : List UInt8)

theorem adcTemp_raw : Raw20 (adcTemp data) := raw20_bytes _ _ _

theorem adcPressure_raw : Raw20 (adcPressure data) := raw20_bytes _ _ _

theorem adcHumidity_raw : Raw16 (adcHumidity data) := raw16_bytes _ _

theorem temperature_eq_some_iff (r : Int × Int) :
    compensateTemperature32 dev.cal (adcTemp data) = some r ↔
      TemperatureFits dev.cal (adcTemp data) ∧ r = compensateTemperature dev.cal (adcTemp data) :=
  compensateTemperature32_eq_some_iff dev.cal (adcTemp_raw data) r

theorem pressure_eq_some_iff (htemp : TemperatureFits dev.cal (adcTemp data)) (r : UInt32) :
    compensatePressure64 dev.cal (adcPressure data) (fineTemp dev data) = some r ↔
      PressureFits dev.cal (adcPressure data) (fineTemp dev data) ∧
        r = compensatePressure dev.cal (adcPressure data) (fineTemp dev data) :=
  compensatePressure64_eq_some_iff dev.cal (adcPressure_raw data) htemp.fineTemp r

theorem humidity_eq_some_iff (htemp : TemperatureFits dev.cal (adcTemp data)) (r : UInt32) :
    compensateHumidity32 dev.cal (adcHumidity data) (fineTemp dev data) = some r ↔
      HumidityFits dev.cal (adcHumidity data) (fineTemp dev data) ∧
        r = compensateHumidity dev.cal (adcHumidity data) (fineTemp dev data) :=
  compensateHumidity32_eq_some_iff (adcHumidity_raw data) htemp.fineTemp r

/-- The humidity of a BME280, or zero. -/
theorem humidityOrZero_eq_some_iff (htemp : TemperatureFits dev.cal (adcTemp data)) (r : UInt32) :
    (if dev.id = bme280ChipId then
        compensateHumidity32 dev.cal (adcHumidity data) (fineTemp dev data) else some 0) = some r ↔
      (dev.id = bme280ChipId → HumidityFits dev.cal (adcHumidity data) (fineTemp dev data)) ∧
        r = (fixedOf dev data).humidity := by
  unfold fixedOf
  by_cases hbme : dev.id = bme280ChipId
  · simp only [if_pos hbme, forall_prop_of_true hbme]
    exact humidity_eq_some_iff dev data htemp r
  · simp only [if_neg hbme, Option.some_inj]
    exact ⟨fun h => ⟨fun hid => absurd hid hbme, h.symm⟩, fun h => h.2.symm⟩

theorem machineFixed_eq_some_iff (r : Fixed) :
    machineFixed dev data = some r ↔ CompensationFits dev data ∧ r = fixedOf dev data := by
  unfold machineFixed
  simp only [Option.bind_eq_bind, Option.bind_eq_some_iff]
  constructor
  · rintro ⟨temp, htemp, pressure, hpressure, humidity, hhumidity, hr⟩
    obtain ⟨htempFits, rfl⟩ := (temperature_eq_some_iff dev data temp).mp htemp
    obtain ⟨hpressureFits, rfl⟩ := (pressure_eq_some_iff dev data htempFits pressure).mp hpressure
    obtain ⟨hhumidityFits, rfl⟩ :=
      (humidityOrZero_eq_some_iff dev data htempFits humidity).mp hhumidity
    exact ⟨⟨htempFits, hpressureFits, hhumidityFits⟩, (Option.some.inj hr).symm⟩
  · rintro ⟨h, rfl⟩
    exact ⟨_, (temperature_eq_some_iff dev data _).mpr ⟨h.temperature, rfl⟩,
      _, (pressure_eq_some_iff dev data h.temperature _).mpr ⟨h.pressure, rfl⟩,
      _, (humidityOrZero_eq_some_iff dev data h.temperature _).mpr ⟨h.humidity, rfl⟩, rfl⟩

/-- The machine computes the exact values when nothing overflows and the pressure
is in range. -/
theorem machineFixed_exact_iff :
    (∃ r, machineFixed dev data = some r ∧ r.values = exactOf dev data) ↔
      CompensationFits dev data ∧ PressureInRange dev data := by
  constructor
  · rintro ⟨r, hr, hvalues⟩
    obtain ⟨hfits, rfl⟩ := (machineFixed_eq_some_iff dev data r).mp hr
    exact ⟨hfits, (values_fixedOf_eq_iff dev data).mp hvalues⟩
  · rintro ⟨hfits, hrange⟩
    exact ⟨fixedOf dev data, (machineFixed_eq_some_iff dev data _).mpr ⟨hfits, rfl⟩,
      (values_fixedOf_eq_iff dev data).mpr hrange⟩

end Fixed

/-! ## Before the first successful `BMP280_init` -/

section Zero

/-- Without coefficients only the square of the temperature can overflow. -/
theorem zero_temperatureFits_iff {adcTemp : Int} (hadc : Raw20 adcTemp) :
    TemperatureFits {} adcTemp ↔ adcTemp < 741456 := by
  have hdiv : asr adcTemp 4 = adcTemp / 16 := Int.shiftRight_eq_div_pow adcTemp 4
  have hdiff : asr adcTemp 4 - (({} : Calibration).digT1.toNat : Int) = adcTemp / 16 :=
    (sub_zero _).trans hdiv
  obtain ⟨hlo, hhi⟩ := hadc
  constructor
  · intro h
    have hle : adcTemp / 16 ≤ 46340 := hdiff ▸ h.square.2
    omega
  · intro hlt
    have hsquare : Within 46340 (adcTemp / 16) := by
      constructor <;> omega
    exact ⟨IntType.fits_mul_zero _ rfl, hdiff.symm ▸ hsquare, IntType.fits_mul_zero _ rfl⟩

theorem zero_fineTemp (adcTemp : Int) : (compensateTemperature {} adcTemp).2 = 0 := by
  simp [compensateTemperature, asr]

theorem zero_pressureProduct (fineTemp : Int) :
    pressureScale {} fineTemp * (({} : Calibration).digP1.toNat : Int) = 0 := mul_zero _

theorem zero_pressureDivisor (fineTemp : Int) : pressureDivisor {} fineTemp = 0 := by
  rw [pressureDivisor, zero_pressureProduct]
  rfl

/-- A divisor of zero ends `BMP280_compensate_pressure` at once. -/
theorem zero_pressureFits (adcPress fineTemp : Int) : PressureFits {} adcPress fineTemp :=
  ⟨zero_pressureProduct fineTemp ▸ int64.fits_zero,
    fun h => absurd (zero_pressureDivisor fineTemp) h⟩

theorem zero_pressureInRange {dev : Handle} (hcal : dev.cal = {}) (data : List UInt8) :
    PressureInRange dev data := by
  rw [PressureInRange, hcal, exactPressure_eq, if_pos (zero_pressureDivisor _)]
  decide

theorem zero_humidityFits {adcHum : Int} (hadc : Raw16 adcHum) : HumidityFits {} adcHum 0 := by
  have hlevel : adcHum * 2 ^ 14 - ({} : Calibration).digH4.toInt * 2 ^ 20 = adcHum * 16384 :=
    sub_zero _
  have hcross : ({} : Calibration).digH5.toInt * (0 - 76800) = 0 := by decide
  have hoffset : humidityOffset {} adcHum 0 = adcHum * 16384 := by
    rw [humidityOffset, hlevel, hcross, sub_zero]
  have hproduct : humidityProduct {} adcHum 0 = 0 := mul_zero _
  have hraw := hadc.within.mul (by decide : Within 16384 16384)
  have hfits : int32.Fits (adcHum * 16384) := hraw.fits32 (by omega)
  have hround : int32.Fits (adcHum * 16384 + 16384) :=
    (hraw.add (by decide : Within 16384 16384)).fits32 (by omega)
  constructor
  case level =>
    rw [hlevel]
    exact hfits
  case offset =>
    rw [hoffset]
    exact hfits
  case offsetRounded =>
    rw [hoffset]
    exact hround
  case product =>
    rw [hproduct]
    exact int32.fits_zero
  case square =>
    rw [hproduct]
    decide
  case correction =>
    rw [hproduct]
    decide
  -- the others are about the coefficients alone
  all_goals decide

theorem zero_compensationFits_iff {dev : Handle} (hcal : dev.cal = {}) (data : List UInt8) :
    CompensationFits dev data ↔ adcTemp data < 741456 := by
  have hfine : fineTemp dev data = 0 := by
    rw [fineTemp, hcal, zero_fineTemp]
  have htemp : TemperatureFits dev.cal (adcTemp data) ↔ adcTemp data < 741456 := by
    rw [hcal, zero_temperatureFits_iff (adcTemp_raw data)]
    omega
  constructor
  · intro h
    exact htemp.mp h.temperature
  · intro hlt
    refine ⟨htemp.mpr hlt, ?_, fun _ => ?_⟩
    · rw [hcal]
      exact zero_pressureFits _ _
    · rw [hcal, hfine]
      exact zero_humidityFits (adcHumidity_raw data)

end Zero

/-! ## A negative H4 -/

/-- A BME280 with a negative H4 passes `BMP280_init`, and every measurement of it
then overflows. -/
theorem negative_h4_overflows {D : Type} (x : Chip D) {fuel : Nat} {dev dev' : Handle}
    {s s' : Bus.Site D}
    (hrun : (Bus.expand (init fuel dev)).run x.wiring.answer s = some ((true, dev'), s'))
    (hbme : x.regs regId = bme280ChipId) (hneg : 0x80 ≤ x.regs 0xE4) (data : List UInt8) :
    machineFixed dev' data = none := by
  have hheld := init_held x hrun
  have hh4 : dev'.cal.digH4.toInt = signed 65536 (bitsH4 x.regs) := by
    have hlist := hheld.humidity hbme
    simp only [Calibration.humidity, humidityRead, List.cons.injEq] at hlist
    exact hlist.2.2.2.1
  have hlarge : 2048 ≤ dev'.cal.digH4.toInt := by
    have hbyte : 128 ≤ (x.regs 0xE4).toNat := UInt8.le_iff_toNat_le.mp hneg
    have hlt := bitsH4_lt x.regs
    rw [hh4, signed, if_pos (by omega), bitsH4]
    omega
  cases hresult : machineFixed dev' data with
  | none => rfl
  | some r =>
    have hfits := ((machineFixed_eq_some_iff dev' data r).mp hresult).1
    have hsmall := (hfits.humidity (hheld.id.trans hbme)).digH4.2
    omega

/-- For every handle and all data that `BMP280_read_fixed` can read: every
intermediate of a function fits its type, with a divisor that is not zero, if and
only if the few that may not fit do, and there is a result exactly then: the exact
temperature and humidity, and the exact pressure modulo `2 ^ 32`. The results are
the exact values if and only if, besides, the pressure is in `0 .. 2 ^ 32 - 1`.
With the coefficients all zero the pressure always is, and the intermediates fit
for raw temperatures below 741456. -/
theorem compensation_fits_iff (dev : Handle) (data : List UInt8) :
    (∀ r, compensateTemperature32 dev.cal (adcTemp data) = some r ↔
      TemperatureFits dev.cal (adcTemp data) ∧ r = compensateTemperature dev.cal (adcTemp data)) ∧
    (TemperatureFits dev.cal (adcTemp data) →
      (∀ r, compensatePressure64 dev.cal (adcPressure data) (fineTemp dev data) = some r ↔
        PressureFits dev.cal (adcPressure data) (fineTemp dev data) ∧
          r = compensatePressure dev.cal (adcPressure data) (fineTemp dev data)) ∧
      (∀ r, compensateHumidity32 dev.cal (adcHumidity data) (fineTemp dev data) = some r ↔
        HumidityFits dev.cal (adcHumidity data) (fineTemp dev data) ∧
          r = compensateHumidity dev.cal (adcHumidity data) (fineTemp dev data))) ∧
    (∀ r, machineFixed dev data = some r ↔ CompensationFits dev data ∧ r = fixedOf dev data) ∧
    ((∃ r, machineFixed dev data = some r ∧ r.values = exactOf dev data) ↔
      CompensationFits dev data ∧ PressureInRange dev data) ∧
    (dev.cal = {} → PressureInRange dev data ∧
      (CompensationFits dev data ↔ adcTemp data < 741456)) ∧
    readFixed dev = (readData dev regData (if dev.id = bme280ChipId then 8 else 6) >>= fun data =>
      pure (data.map (fixedOf dev))) :=
  ⟨temperature_eq_some_iff dev data,
    fun htemp => ⟨pressure_eq_some_iff dev data htemp, humidity_eq_some_iff dev data htemp⟩,
    machineFixed_eq_some_iff dev data, machineFixed_exact_iff dev data,
    fun hcal => ⟨zero_pressureInRange hcal data, zero_compensationFits_iff hcal data⟩,
    readFixed_eq dev⟩

/-- A handle with the coefficients `cal`. -/
def calibrated (cal : Calibration) : Handle := ⟨i2cAddress1, initDefaultParams, bme280ChipId, cal⟩

/-- Coefficients as a sensor may have them. -/
def sampleCalibration : Calibration where
  digT1 := 27504
  digT2 := 26435
  digT3 := -1000
  digP1 := 36477
  digP2 := -10685
  digP3 := 3024
  digP4 := 2855
  digP5 := 140
  digP6 := -7
  digP7 := 15500
  digP8 := -14600
  digP9 := 6000
  digH1 := 75
  digH2 := 360
  digH4 := 324
  digH5 := 50
  digH6 := 30

/-- A measurement at 25.08 degrees that overflows nowhere and is exact. -/
theorem compensation_fits_sample :
    (CompensationFits (calibrated sampleCalibration)
      [0x65, 0x5A, 0xC0, 0x7E, 0xED, 0x00, 0x6D, 0x60] ∧
    PressureInRange (calibrated sampleCalibration)
      [0x65, 0x5A, 0xC0, 0x7E, 0xED, 0x00, 0x6D, 0x60]) ∧
    fixedOf (calibrated sampleCalibration) [0x65, 0x5A, 0xC0, 0x7E, 0xED, 0x00, 0x6D, 0x60] =
      ⟨2508, 25767233, 40659⟩ := by
  have hresult : machineFixed (calibrated sampleCalibration)
      [0x65, 0x5A, 0xC0, 0x7E, 0xED, 0x00, 0x6D, 0x60] = some ⟨2508, 25767233, 40659⟩ := by
    decide +kernel
  have hall := compensation_fits_iff (calibrated sampleCalibration)
    [0x65, 0x5A, 0xC0, 0x7E, 0xED, 0x00, 0x6D, 0x60]
  exact ⟨hall.2.2.2.1.mp ⟨_, hresult, by decide +kernel⟩, ((hall.2.2.1 _).mp hresult).2.symm⟩

/-- All coefficients zero and the largest raw temperature: its square is no
`int32_t`. With P1 and P2, or H5, at the ends of their ranges the other two functions
overflow as well, here with raw values of zero. With a P1 of 1 nothing overflows,
but the exact pressure is larger than the return type. -/
theorem compensation_overflows :
    compensateTemperature32 {} (adcTemp [0, 0, 0, 0xFF, 0xFF, 0xF0, 0, 0]) = none ∧
    machineFixed (calibrated {}) [0, 0, 0, 0xFF, 0xFF, 0xF0, 0, 0] = none ∧
    compensatePressure64 { digP1 := 65535, digP2 := -32768 } 0
      (fineTemp (calibrated { digP1 := 65535, digP2 := -32768 }) []) = none ∧
    compensateHumidity32 { digH5 := 32767 } 0
      (fineTemp (calibrated { digH5 := 32767 }) []) = none ∧
    (machineFixed (calibrated { digP1 := 1 }) []).map Fixed.pressure = some 2684354560 ∧
    (exactOf (calibrated { digP1 := 1 }) []).2.1 = 1677721600000 := by
  decide +kernel

end MeteoL053.Bmp280
