import Mathlib.Tactic.Linarith
import MeteoL053.Veml7700.Reading

/-!
Whether the gain of the light sensor follows the light.
`VEML7700_init_default_params_gain` does not use the gain it is given, so every
switch of the range programs the gain 1/8 again: the count is always scaled with
the gain of the sensor, and the gain is the right one only in bright light.
-/

namespace MeteoL053.Veml7700

open CallTree

/-! ## The sensor -/

/-- The answers of the kernel and the HAL, which failed transfers have reached the
sensor, and the light it counts. -/
structure Conditions where
  env : Bus.Env
  reaches : List Bus.Event → Bool
  light : List Bus.Event → UInt16

/-- The registers of the sensor on the bus. -/
def Conditions.wiring (c : Conditions) : Bus.Wiring (UInt8 → UInt16) where
  env := c.env
  transfer past tx _ regs :=
    match tx with
    | [reg] =>
      let w := if reg = commandALS then c.light past else regs reg
      ([w.toUInt8, (w >>> 8).toUInt8], regs)
    | [reg, lo, hi] => ([], Function.update regs reg (Bus.word16 hi lo))
    | _ => ([], regs)
  reaches := c.reaches

/-- The gain that is programmed in the sensor. -/
def deviceGain (s : Bus.Site (UInt8 → UInt16)) : UInt8 := ((s.device 0 &&& 0x1800) >>> 11).toUInt8

/-- The calls of the thread. -/
inductive Request where
  | init
  | getALSLux

def Request.code {ν : Type} (fl : Arithmetic ν) (d : Driver ν) : Request → Fw (Bool × Driver ν)
  | init => do
    let ok ← Veml7700.init d
    return (ok, d)
  | getALSLux => Veml7700.getALSLux fl d

/-- The states after a successful initialisation and any calls, whatever they
return. -/
inductive Reached {ν : Type} (fl : Arithmetic ν) (c : Conditions) :
    Driver ν → Bus.Site (UInt8 → UInt16) → Prop where
  | start {s s' : Bus.Site (UInt8 → UInt16)}
      (h : (Bus.expand (init (initDefaultParams fl))).run c.wiring.answer s = some (true, s')) :
      Reached fl c (initDefaultParams fl) s'
  | request {d d' : Driver ν} {s s' : Bus.Site (UInt8 → UInt16)} {ok : Bool} (r : Request)
      (h : Reached fl c d s)
      (hrun : (Bus.expand (r.code fl d)).run c.wiring.answer s = some ((ok, d'), s')) :
      Reached fl c d' s'

/-! ## The gain never changes -/

/-- The cache holds the words of the gain 1/8. -/
def Cached {ν : Type} (d : Driver ν) : Prop := d.registerCache = registerWords .d8

/-- And so does the sensor. -/
def Programmed (s : Bus.Site (UInt8 → UInt16)) : Prop := s.device 0 = 0x1300

section Steps

variable {ν : Type} {fl : Arithmetic ν} {c : Conditions} {d : Driver ν}
  {s : Bus.Site (UInt8 → UInt16)}

theorem afterALS_device : (afterALS c.wiring d s).device = s.device := by
  change (c.wiring.after s d.addr [commandALS] 2).device = s.device
  rw [Bus.Wiring.after_device]
  split
  · exact c.wiring.check_device _
  · rfl

theorem written_device (i : Fin 4) :
    (written c.wiring d s i).2.device =
      if (c.wiring.outcome s d.addr (writeBytes d i) 0).Reached then
        Function.update s.device (UInt8.ofNat i)
          (Bus.word16 (d.registerCache i >>> 8 &&& 0xFF).toUInt8 (d.registerCache i &&& 0xFF).toUInt8)
      else s.device := by
  change (c.wiring.after s d.addr (writeBytes d i) 0).device = _
  rw [Bus.Wiring.after_device]
  split
  · exact congrArg (Function.update · _ _) (c.wiring.check_device _)
  · rfl

/-- A write that reaches the sensor leaves the gain it has. -/
theorem written_programmed (hd : Cached d) (hs : Programmed s) (i : Fin 4) :
    Programmed (written c.wiring d s i).2 := by
  unfold Programmed
  rw [written_device, hd]
  split
  · by_cases hi : i = 0
    · subst hi
      rw [show UInt8.ofNat ((0 : Fin 4) : Nat) = 0 from rfl, Function.update_self]
      decide
    · have hne : (0 : UInt8) ≠ UInt8.ofNat i :=
        (by decide : ∀ i : Fin 4, i ≠ 0 → (0 : UInt8) ≠ UInt8.ofNat i) i hi
      rw [Function.update_of_ne hne]
      exact hs
  · exact hs

theorem writtenAll_programmed (hd : Cached d) (hs : Programmed s) (is : List (Fin 4)) :
    Programmed (writtenAll c.wiring d is s).2 := by
  induction is generalizing s with
  | nil => exact hs
  | cons i is ih =>
    rw [writtenAll]
    split
    · exact ih (written_programmed hd hs i)
    · exact written_programmed hd hs i

theorem initialised_programmed (hd : Cached d) (hs : Programmed s) :
    Programmed (initialised c.wiring d s).2 := by
  have h := writtenAll_programmed (c := c) hd hs (List.finRange 4)
  unfold initialised
  dsimp only
  split <;> exact h

/-- A successful write of the configuration register programs the gain. -/
theorem written_of_ok (hd : Cached d) {i : Fin 4} (hi : i.val = 0)
    (hok : (written c.wiring d s i).1 = true) : Programmed (written c.wiring d s i).2 := by
  obtain rfl : i = 0 := Fin.ext hi
  unfold Programmed
  rw [written_device, if_pos (.inr (of_decide_eq_true hok)), hd,
    show UInt8.ofNat ((0 : Fin 4) : Nat) = 0 from rfl, Function.update_self]
  decide

theorem writtenAll_of_ok (hd : Cached d) {is : List (Fin 4)} (hmem : ∃ i ∈ is, i.val = 0)
    (hok : (writtenAll c.wiring d is s).1 = true) : Programmed (writtenAll c.wiring d is s).2 := by
  induction is generalizing s with
  | nil => simp at hmem
  | cons i is ih =>
    rw [writtenAll] at hok ⊢
    cases hwrite : (written c.wiring d s i).1 with
    | false => simp [hwrite] at hok
    | true =>
      rw [hwrite, if_pos rfl] at hok
      rw [if_pos rfl]
      by_cases hi : i.val = 0
      · exact writtenAll_programmed hd (written_of_ok hd hi hwrite) is
      · obtain ⟨k, hk, hzero⟩ := hmem
        rcases List.mem_cons.mp hk with rfl | hk
        · exact absurd hzero hi
        · exact ih ⟨k, hk, hzero⟩ hok

/-- A successful initialisation programs the gain. -/
theorem initialised_of_ok (hd : Cached d) (hok : (initialised c.wiring d s).1 = true) :
    Programmed (initialised c.wiring d s).2 := by
  have h := writtenAll_of_ok (c := c) hd (by decide) hok
  unfold initialised
  dsimp only
  split <;> exact h

theorem ranged_keeps (hd : Cached d) (hs : Programmed s) (r : ν) :
    Cached (ranged fl c.wiring d s r).1.2 ∧ Programmed (ranged fl c.wiring d s r).2 := by
  unfold ranged
  cases due fl d r with
  | none => exact ⟨hd, hs⟩
  | some range =>
    have hcached : Cached (initDefaultParamsGain d range.1) := rfl
    refine ⟨?_, initialised_programmed hcached hs⟩
    dsimp only
    split <;> rfl

theorem getALSLux_keeps (hd : Cached d) (hs : Programmed s) {ok : Bool} {d' : Driver ν}
    {s' : Bus.Site (UInt8 → UInt16)}
    (hrun : (Bus.expand (getALSLux fl d)).run c.wiring.answer s = some ((ok, d'), s')) :
    Cached d' ∧ Programmed s' := by
  have hals : Programmed (afterALS c.wiring d s) := by
    unfold Programmed
    rw [afterALS_device]
    exact hs
  have hcounted : Cached (counted c.wiring d s) := hd
  have hselected : Cached (selected fl c.wiring d s).1.2 ∧ Programmed (selected fl c.wiring d s).2 :=
    ranged_keeps hcounted hals _
  rw [getALSLux_run] at hrun
  split at hrun
  · split at hrun
    · cases hrun
      exact hselected
    · cases hrun
      exact hselected
  · cases hrun
    exact ⟨hcounted, hals⟩

theorem Reached.keeps (h : Reached fl c d s) : Cached d ∧ Programmed s := by
  induction h with
  | start h =>
    rw [init_run] at h
    obtain ⟨hok, rfl⟩ := Prod.mk.inj (Option.some.inj h)
    exact ⟨rfl, initialised_of_ok rfl hok⟩
  | request r h hrun ih =>
    obtain ⟨hd, hs⟩ := ih
    cases r with
    | init =>
      rw [Request.code, Bus.expand_bind, Prog.run_bind_of (init_run c.wiring _ _)] at hrun
      cases hrun
      exact ⟨hd, initialised_programmed hd hs⟩
    | getALSLux => exact getALSLux_keeps hd hs hrun

end Steps

/-! ## The right gain -/

/-- The gain for the band of a result. -/
def band (result : ℚ) : Gain :=
  if 1880 < result ∧ result < 3771 then .x1 else if 3771 ≤ result then .d8 else .x2

theorem getGain_cached {ν : Type} {d : Driver ν} (hd : Cached d) : getGain d = 2 := by
  rw [getGain, Driver.config, hd]
  decide

theorem result_cached {d : Driver ℚ} (hd : Cached d) (n : UInt32) :
    result exact d n = n.toNat * 8 * (2304 / 10000) := by
  have htime : getIntegrationTime d = 0xC := by
    rw [getIntegrationTime, Driver.config, hd]
    decide
  rw [result, getGain_cached hd, htime]
  rfl

/-- Only a count of at least 2046 is in the band of the gain 1/8. -/
theorem band_eq_d8_iff (n : Nat) : band (n * 8 * (2304 / 10000)) = .d8 ↔ 2046 ≤ n := by
  have hbright : (3771 : ℚ) ≤ n * 8 * (2304 / 10000) ↔ 2046 ≤ n := by
    constructor
    · intro h
      by_contra hn
      have hle : (n : ℚ) ≤ 2045 := by exact_mod_cast (by omega : n ≤ 2045)
      linarith
    · intro hn
      have hge : (2046 : ℚ) ≤ n := by exact_mod_cast hn
      linarith
  rw [← hbright]
  unfold band
  split
  · next h => exact iff_of_false nofun (not_le.mpr h.2)
  · split
    · next h => exact iff_of_true rfl h
    · next h => exact iff_of_false nofun h

/-- For every light, every sequence of check and transfer outcomes and every
sequence of calls after a successful initialisation, whatever they return: the
driver scales with the gain that is programmed in the sensor, and after a reading
that returns true this is the gain for the band of its result, in the cache and
in the sensor, if and only if its count is at least 2046. -/
theorem gain_follows_light_iff {c : Conditions} {d : Driver ℚ} {s : Bus.Site (UInt8 → UInt16)}
    (h : Reached exact c d s) :
    (getGain d = deviceGain s ∧ getGain d = 2) ∧
    ∀ d' s', (Bus.expand (getALSLux exact d)).run c.wiring.answer s = some ((true, d'), s') →
      (getGain d' = (band (reading exact c.wiring d s)).code.toUInt8 ∧
          deviceGain s' = (band (reading exact c.wiring d s)).code.toUInt8 ↔
        2046 ≤ (count c.wiring d s).toNat) := by
  have hgain : ∀ s, Programmed s → deviceGain s = 2 := by
    intro s hs
    rw [deviceGain, hs]
    decide
  have hcode : ∀ g : Gain, 2 = g.code.toUInt8 ↔ g = .d8 := by
    intro g
    cases g <;> decide
  obtain ⟨hd, hs⟩ := h.keeps
  refine ⟨⟨(getGain_cached hd).trans (hgain s hs).symm, getGain_cached hd⟩, ?_⟩
  intro d' s' hrun
  obtain ⟨hd', hs'⟩ := getALSLux_keeps hd hs hrun
  rw [getGain_cached hd', hgain s' hs', and_self, hcode, reading, result_cached hd,
    band_eq_d8_iff]

/-- A sensor in constant light on a bus without faults. -/
def constantLight (n : UInt16) : Conditions where
  env := { delay := fun _ => 0, reply := fun _ c => anyReply c }
  reaches _ := false
  light _ := n

/-- The sensor before the station starts. -/
def powerOn : Bus.Site (UInt8 → UInt16) where
  world := ⟨0, []⟩
  device _ := 0
  tx := []
  rxBytes := 0

/-- The driver before its initialisation. -/
def started : Driver ℚ := initDefaultParams exact

/-- The first reading after the initialisation: what it returns, the gain for it,
and the gains of the cache and the sensor after it. -/
def firstReading (c : Conditions) : Option (Bool × UInt8 × UInt8 × UInt8) := do
  let (_, s) ← (Bus.expand (init started)).run c.wiring.answer powerOn
  let ((ok, d), s') ← (Bus.expand (getALSLux exact started)).run c.wiring.answer s
  return (ok, (band (reading exact c.wiring started s)).code.toUInt8, getGain d,
    deviceGain s')

/-- In the dark and in twilight the gain stays 1/8, where 2 and 1 are due. -/
theorem gain_stuck_in_the_dark :
    firstReading (constantLight 0) = some (true, 1, 2, 2) ∧
    firstReading (constantLight 1500) = some (true, 0, 2, 2) := by
  constructor <;> decide +kernel

/-- In bright light it is the right one. -/
theorem gain_follows_light_iff_bright :
    ∃ s d' s', Reached exact (constantLight 60000) started s ∧
      (Bus.expand (getALSLux exact started)).run (constantLight 60000).wiring.answer s =
        some ((true, d'), s') ∧
      getGain d' = (band (reading exact (constantLight 60000).wiring started s)).code.toUInt8 ∧
      deviceGain s' =
        (band (reading exact (constantLight 60000).wiring started s)).code.toUInt8 := by
  have hplay : ((Bus.expand (init started)).run (constantLight 60000).wiring.answer
      powerOn).bind (fun r => ((Bus.expand (getALSLux exact started)).run
        (constantLight 60000).wiring.answer r.2).map fun q =>
          (r.1, q.1.1, (count (constantLight 60000).wiring started r.2).toNat)) =
      some (true, true, 60000) := by decide +kernel
  obtain ⟨⟨ok, s⟩, hinit, hplay⟩ := Option.bind_eq_some_iff.mp hplay
  obtain ⟨⟨⟨ok', d'⟩, s'⟩, hrun, hq⟩ := Option.map_eq_some_iff.mp hplay
  simp only [Prod.mk.injEq] at hq
  obtain ⟨rfl, rfl, hcount⟩ := hq
  have hreached : Reached exact (constantLight 60000) started s := .start hinit
  refine ⟨s, d', s', hreached, hrun, ((gain_follows_light_iff hreached).2 d' s' hrun).mpr ?_⟩
  rw [hcount]
  decide

end MeteoL053.Veml7700
