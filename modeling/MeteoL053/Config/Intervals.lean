import MeteoL053.Calls

/-!
The sampling intervals: the configuration `main.c` starts the sensor threads
with, and the timeouts the threads pass to `chMsgWaitTimeout`.
-/

namespace MeteoL053.Config

/-- The sensor threads `main.c` can configure. -/
inductive Sensor where
  | bmp280
  | bh1750
  | veml7700
  | ml8511
  | rain
  | wind
  | as3935
  | power
  deriving DecidableEq, Repr

/-- `SCHEDULE_LIST_SIZE`. -/
abbrev scheduleListSize : Nat := 10

/-- `appConfiguration_t`; `pad` is the byte the compiler leaves in front of the
16-bit fields. -/
structure AppConfiguration where
  version : UInt8
  pad : UInt8
  interval : Fin scheduleListSize → UInt16

/-- `DEFAULT_TASK_INTERVAL`, in seconds. -/
def defaultTaskInterval : UInt16 := 300

/-- The `*_HW_ID` of `appCfg.h`. -/
def Sensor.hwId : Sensor → Fin scheduleListSize
  | bmp280 => 1
  | bh1750 => 2
  | veml7700 => 2
  | ml8511 => 3
  | rain => 6
  | wind => 5
  | as3935 => 5
  | power => 4

/-- The `*_DEFAULT_INTERVAL` of `appCfg.h`. -/
def Sensor.defaultInterval : Sensor → UInt16
  | rain => 10
  | bmp280 | bh1750 | veml7700 | ml8511 | wind | as3935 | power => defaultTaskInterval

/-- The stored interval of a sensor, or its default when that is zero. -/
def AppConfiguration.seconds (cfg : AppConfiguration) (s : Sensor) : UInt16 :=
  if cfg.interval s.hwId > 0 then cfg.interval s.hwId else s.defaultInterval

/-- The same with both values times 1000, stored to a `uint16_t`. -/
def AppConfiguration.scaled (cfg : AppConfiguration) (s : Sensor) : UInt16 :=
  if cfg.interval s.hwId > 0 then ((cfg.interval s.hwId).toUInt32 * 1000).toUInt16
  else (s.defaultInterval.toUInt32 * 1000).toUInt16

/-- The `interval` field of the thread configuration as `main` initialises it. -/
def startInterval (cfg : AppConfiguration) : Sensor → UInt16
  | .bmp280 => cfg.seconds .bmp280
  | .bh1750 => cfg.seconds .bh1750
  | .veml7700 => cfg.seconds .veml7700
  | .ml8511 => cfg.seconds .ml8511
  | .rain => cfg.scaled .rain
  | .wind => cfg.scaled .wind
  | .as3935 => cfg.seconds .as3935
  | .power => cfg.seconds .power

/-- The argument of `chMsgWaitTimeout`: `interval * 1000` in `int` arithmetic. -/
def waitTimeout (interval : UInt16) : UInt32 := interval.toUInt32 * 1000

/-- The interval after the wait: a message replaces it, `(uint16_t)chMsgGet(tp)`. -/
def nextInterval (interval : UInt16) : Option UInt32 → UInt16
  | none => interval
  | some msg => msg.toUInt16

/-- The timeouts a sensor thread passes to its waits, all of which but the last
have ended in a message or a timeout. -/
def waitTimeouts (interval : UInt16) : List (Option UInt32) → List UInt32
  | [] => [waitTimeout interval]
  | r :: rs => waitTimeout interval :: waitTimeouts (nextInterval interval r) rs

/-! ## Seconds -/

/-- The intervals in force at those waits, when the messages carry intervals. -/
def periods (interval : Nat) : List (Option UInt16) → List Nat
  | [] => [interval]
  | r :: rs => interval :: periods ((r.map UInt16.toNat).getD interval) rs

/-- The thread of `s` starts with the configured seconds in its `interval` and
waits 1000 ticks for each second, whatever intervals it gets by message. -/
structure MeansSeconds (cfg : AppConfiguration) (s : Sensor) : Prop where
  interval : startInterval cfg s = cfg.seconds s
  timeouts : ∀ rs : List (Option UInt16),
    (waitTimeouts (startInterval cfg s) (rs.map (Option.map UInt16.toUInt32))).map UInt32.toNat =
      (periods (cfg.seconds s).toNat rs).map (1000 * ·)

/-- The product stays below `INT_MAX`, let alone `2 ^ 32`. -/
theorem waitTimeout_toNat (interval : UInt16) :
    (waitTimeout interval).toNat = 1000 * interval.toNat := by
  have h : interval.toNat < 2 ^ 16 := interval.toNat_lt
  simp only [waitTimeout, UInt32.toNat_mul, UInt16.toNat_toUInt32, UInt32.reduceToNat]
  omega

theorem waitTimeouts_toNat (interval : UInt16) (rs : List (Option UInt16)) :
    (waitTimeouts interval (rs.map (Option.map UInt16.toUInt32))).map UInt32.toNat =
      (periods interval.toNat rs).map (1000 * ·) := by
  induction rs generalizing interval with
  | nil => simp [waitTimeouts, periods, waitTimeout_toNat]
  | cons r rs ih =>
    cases r with
    | none => simpa [waitTimeouts, periods, waitTimeout_toNat, nextInterval] using ih interval
    | some v => simpa [waitTimeouts, periods, waitTimeout_toNat, nextInterval] using ih v

/-- No positive number of seconds survives the factor in a `uint16_t`: 999 is
odd, so `1000 * v` and `v` differ modulo `2 ^ 16`. -/
theorem scaled_ne (v : UInt16) (h : v > 0) : (v.toUInt32 * 1000).toUInt16 ≠ v := by
  intro heq
  have hlt : v.toNat < 2 ^ 16 := v.toNat_lt
  have hpos : 0 < v.toNat := UInt16.lt_iff_toNat_lt.1 h
  have := congrArg UInt16.toNat heq
  simp only [UInt32.toNat_toUInt16, UInt32.toNat_mul, UInt16.toNat_toUInt32,
    UInt32.reduceToNat] at this
  omega

theorem seconds_pos (cfg : AppConfiguration) (s : Sensor) : cfg.seconds s > 0 := by
  unfold AppConfiguration.seconds
  split
  · assumption
  · cases s <;> decide

theorem scaled_ne_seconds (cfg : AppConfiguration) (s : Sensor) : cfg.scaled s ≠ cfg.seconds s := by
  have hscaled : cfg.scaled s = ((cfg.seconds s).toUInt32 * 1000).toUInt16 := by
    unfold AppConfiguration.scaled AppConfiguration.seconds
    split <;> rfl
  rw [hscaled]
  exact scaled_ne _ (seconds_pos cfg s)

theorem startInterval_eq_seconds (cfg : AppConfiguration) {s : Sensor} (hr : s ≠ .rain)
    (hw : s ≠ .wind) : startInterval cfg s = cfg.seconds s := by
  cases s with
  | rain => exact absurd rfl hr
  | wind => exact absurd rfl hw
  | _ => rfl

/-- With every stored configuration the periods mean seconds for all threads
but those of the rain and the wind sensor, and for these two with none. -/
theorem meansSeconds_iff (cfg : AppConfiguration) (s : Sensor) :
    MeansSeconds cfg s ↔ s ≠ .rain ∧ s ≠ .wind := by
  constructor
  · intro h
    constructor
    · rintro rfl
      exact scaled_ne_seconds cfg .rain h.interval
    · rintro rfl
      exact scaled_ne_seconds cfg .wind h.interval
  · rintro ⟨hr, hw⟩
    have hstart := startInterval_eq_seconds cfg hr hw
    constructor
    · exact hstart
    · intro rs
      rw [hstart]
      exact waitTimeouts_toNat _ rs

/-- The rain thread with an empty configuration: 10000 for the 10 seconds of its
default, so its first wait takes 10000 seconds. -/
theorem rain_waits_too_long :
    startInterval ⟨3, 0, fun _ => 0⟩ .rain = 10000 ∧
    waitTimeouts (startInterval ⟨3, 0, fun _ => 0⟩ .rain) [] = [10000000] ∧
    ¬ MeansSeconds ⟨3, 0, fun _ => 0⟩ .rain := by
  refine ⟨by decide, by decide, fun h => ?_⟩
  exact absurd h.interval (by decide)

end MeteoL053.Config
