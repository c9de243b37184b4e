import MeteoL053.Bus.Run

/-!
The ADC of the power thread, `ADS1X15.c`: a reading starts a conversion, polls
the configuration register until the device is not busy, and reads the result.

A register operation is one call; its answer is the result and the data word if
it was stored, which it also is after a failed transfer.
-/

namespace MeteoL053.Ads1x15

open CallTree Bus

/-! ## The driver -/

def regConvert : UInt8 := 0x00
def regConfig : UInt8 := 0x01
def osNotBusy : UInt16 := 0x8000
def osStartSingle : UInt16 := 0x8000
def muxDiff01 : UInt16 := 0x0000
def modeContinue : UInt16 := 0x0000
def modeSingle : UInt16 := 0x0100

/-- `ADS1X15_device_t`; the transmit buffer is filled anew for each transfer. -/
structure Device where
  config : UInt16
  gain : UInt16
  mode : UInt16
  datarate : UInt16
  compMode : UInt8
  compPol : UInt8
  compLatch : UInt8
  compQueConvert : UInt8
  bufferRx : UInt16
  i2cAddress : UInt8

/-- `ADS__setGain`. -/
def setGain (dev : Device) (gain : UInt8) : Device :=
  { dev with
    gain :=
      if gain = 1 then 0x0200 else if gain = 2 then 0x0400 else if gain = 4 then 0x0600
      else if gain = 8 then 0x0800 else if gain = 16 then 0x0A00 else 0x0000 }

/-- `ADS__setMode`. -/
def setMode (dev : Device) (mode : UInt8) : Device :=
  { dev with mode := if mode = 0 then modeContinue else modeSingle }

/-- `ADS__setDataRate`. -/
def setDataRate (dev : Device) (dataRate : UInt8) : Device :=
  { dev with datarate := (if dataRate > 7 then 4 else dataRate.toUInt16) <<< 5 }

/-- `ADS__writeRegister`. -/
abbrev writeRegister (dev : Device) (reg : UInt8) (value : UInt16) : Fw Bool :=
  ask (.busOp (.adsWriteRegister dev.i2cAddress reg value))

/-- `ADS__readRegister`: the result and the word if `*dataRx` was written. -/
abbrev readRegister (dev : Device) (reg : UInt8) : Fw (Bool × Option UInt16) :=
  ask (.busOp (.adsReadRegister dev.i2cAddress reg))

/-- The configuration word of a request. -/
def configure (dev : Device) (readmode : UInt16) : Device :=
  { dev with
    config := osStartSingle ||| readmode ||| dev.gain ||| dev.mode ||| dev.datarate |||
      (if dev.compMode ≠ 0 then 0x0010 else 0x0000) |||
      (if dev.compPol ≠ 0 then 0x0008 else 0x0000) |||
      (if dev.compLatch ≠ 0 then 0x0004 else 0x0000) ||| dev.compQueConvert.toUInt16 }

/-- `ADS__requestADCPriv`. -/
def requestADCPriv (dev : Device) (readmode : UInt16) : Fw (Bool × Device) := do
  let dev := configure dev readmode
  let ok ← writeRegister dev regConfig dev.config
  return (ok, dev)

/-- `ADS__getValue`, with the device for the caller. -/
def getValue (dev : Device) : Fw (Bool × Option UInt16 × Device) := do
  let (ok, value) ← readRegister dev regConvert
  return (ok, value, dev)

/-- The device after a read of the configuration register into `bufferRx`. -/
def Device.buffered (dev : Device) (data : Option UInt16) : Device :=
  { dev with bufferRx := data.getD dev.bufferRx }

/-- `ADS__isBusy`: the result of the read is not looked at. -/
def isBusy (dev : Device) : Fw (Bool × Device) := do
  let (_, data) ← readRegister dev regConfig
  let dev := dev.buffered data
  return (dev.bufferRx &&& osNotBusy = 0, dev)

/-- One turn of the polling loop. -/
def pollTurn (dev : Device) : Fw (Device ⊕ Device) := do
  let (busy, dev) ← isBusy dev
  if busy then
    ask (.chThdSleepMilliseconds 10)
    return .inl dev
  return .inr dev

/-- `while (ADS__isBusy(dev)) chThdSleepMilliseconds(10)`. -/
def waitReady (fuel : Nat) (dev : Device) : Fw Device := repeatUntil pollTurn fuel dev

/-- The wait of a single conversion. The time is tested before the loop only. -/
def waitAndGet (fuel : Nat) (dev : Device) (start stop : UInt16) :
    Fw (Bool × Option UInt16 × Device) := do
  if !timeIsInRange (← ask .chVTGetSystemTime) start stop then
    return (false, none, dev)
  let dev ← waitReady fuel dev
  getValue dev

/-- `ADS__readADCPriv`: the result, the value if `*value` was written, and the
device. -/
def readADCPriv (fuel : Nat) (dev : Device) (readmode : UInt16) :
    Fw (Bool × Option UInt16 × Device) := do
  let (ok, dev) ← requestADCPriv dev readmode
  if !ok then
    return (false, none, dev)
  let start ← ask .chVTGetSystemTime
  let stop := start + 1000
  if dev.mode = modeSingle ∧ dev.compQueConvert = 3 then
    waitAndGet fuel dev start stop
  else
    getValue dev

/-- The read mode of a pin. -/
def pinMode (pin : UInt8) : UInt16 := (4 + pin.toUInt16) <<< 12

/-- `ADS__readADC`. -/
def readADC (fuel : Nat) (dev : Device) (pin : UInt8) : Fw (Bool × Option UInt16 × Device) :=
  readADCPriv fuel dev (pinMode pin)

/-- `ADS__readADC_Differential_0_1`. -/
def readADCDifferential01 (fuel : Nat) (dev : Device) : Fw (Bool × Option UInt16 × Device) :=
  readADCPriv fuel dev muxDiff01

/-- The settings of `ADS__init`. -/
def initSettings (dev : Device) : Device :=
  setDataRate (setMode (setGain { dev with compQueConvert := 3, compPol := 1 } 0) 1) 4

/-- `ADS__init`: the first reading goes to `bufferRx` of the device. -/
def init (fuel : Nat) (dev : Device) : Fw (Bool × Device) := do
  let (ok, value, dev) ← readADC fuel (initSettings dev) 0
  return (ok, dev.buffered value)

/-! ## A reading call by call -/

section Reading

variable (env : Env) (dev : Device) (readmode : UInt16) (w : World)

/-- The write that starts a conversion. -/
abbrev request : Call :=
  .busOp (.adsWriteRegister dev.i2cAddress regConfig (configure dev readmode).config)

/-- The read of a poll. -/
abbrev poll : Call := .busOp (.adsReadRegister dev.i2cAddress regConfig)

/-- The read of the result. -/
abbrev convert : Call := .busOp (.adsReadRegister dev.i2cAddress regConvert)

/-- After the write, with the start of the window read, and with the time tested. -/
def requested : World := w.after env (request dev readmode)
def started : World := (requested env dev readmode w).after env .chVTGetSystemTime
def tested : World := (started env dev readmode w).after env .chVTGetSystemTime

/-- The write succeeds, the device makes single conversions and the time test
passes, so the reading comes to its loop. -/
structure Waits : Prop where
  accepted : w.reply env (request dev readmode) = true
  mode : dev.mode = modeSingle
  que : dev.compQueConvert = 3
  inRange : timeIsInRange (UInt16.ofNat ((started env dev readmode w).time env))
    (UInt16.ofNat (started env dev readmode w).now)
    (UInt16.ofNat (started env dev readmode w).now + 1000) = true

theorem readADCPriv_run (fuel : Nat) :
    (readADCPriv fuel dev readmode).run (answer env) w =
      (if w.reply env (request dev readmode) = true then
        (if dev.mode = modeSingle ∧ dev.compQueConvert = 3 then
          waitAndGet fuel (configure dev readmode)
            (UInt16.ofNat (started env dev readmode w).now)
            (UInt16.ofNat (started env dev readmode w).now + 1000)
        else getValue (configure dev readmode)).run (answer env) (started env dev readmode w)
      else some ((false, none, configure dev readmode), requested env dev readmode w)) := by
  have hrequest : (requestADCPriv dev readmode).run (answer env) w =
      some ((w.reply env (request dev readmode), configure dev readmode),
        requested env dev readmode w) := rfl
  rw [readADCPriv, Prog.run_bind_of hrequest]
  cases w.reply env (request dev readmode) with
  | false => rfl
  | true => rfl

theorem waitAndGet_run (fuel : Nat) (start stop : UInt16) :
    (waitAndGet fuel dev start stop).run (answer env) w =
      (if timeIsInRange (UInt16.ofNat (w.time env)) start stop = true then
        (waitReady fuel dev >>= getValue).run (answer env) (w.after env .chVTGetSystemTime)
      else some ((false, none, dev), w.after env .chVTGetSystemTime)) := by
  have hread : (ask .chVTGetSystemTime).run (answer env) w =
      some (UInt16.ofNat (w.time env), w.after env .chVTGetSystemTime) := rfl
  rw [waitAndGet, Prog.run_bind_of hread]
  cases timeIsInRange (UInt16.ofNat (w.time env)) start stop with
  | false => rfl
  | true => rfl

theorem getValue_run :
    (getValue dev).run (answer env) w =
      some (((w.reply env (convert dev)).1, (w.reply env (convert dev)).2, dev),
        w.after env (convert dev)) := rfl

/-! ## The polling loop -/

/-- A poll: the device with what was read, and the world. -/
def polled (x : Device × World) : Device × World :=
  (x.1.buffered (x.2.reply env (poll x.1)).2, x.2.after env (poll x.1))

/-- The buffer says not busy after the poll. -/
def Ready (x : Device × World) : Prop := (polled env x).1.bufferRx &&& osNotBusy ≠ 0

instance (x : Device × World) : Decidable (Ready env x) := inferInstanceAs (Decidable (¬ _ = _))

def pollExit (x : Device × World) : Option (Device × World) :=
  if Ready env x then some (polled env x) else none

/-- A poll that found the device busy, and the sleep after it. -/
def pollNext (x : Device × World) : Device × World :=
  ((polled env x).1, (polled env x).2.after env (.chThdSleepMilliseconds 10))

theorem pollExit_eq_none_iff (x : Device × World) : pollExit env x = none ↔ ¬ Ready env x := by
  unfold pollExit
  split
  · next h => exact ⟨fun hx => (nomatch hx), fun hn => absurd h hn⟩
  · next h => exact ⟨fun _ => h, fun _ => rfl⟩

theorem pollTurn_turnsBy : TurnsBy (answer env) pollTurn (pollExit env) (pollNext env) := by
  intro dev w
  have hbusy : (isBusy dev).run (answer env) w =
      some ((decide ((polled env (dev, w)).1.bufferRx &&& osNotBusy = 0), (polled env (dev, w)).1),
        (polled env (dev, w)).2) := rfl
  rw [pollTurn, Prog.run_bind_of hbusy, pollExit]
  by_cases h : (polled env (dev, w)).1.bufferRx &&& osNotBusy = 0
  · rw [if_neg (fun hr => hr h), decide_eq_true h]
    rfl
  · rw [if_pos (show Ready env (dev, w) from h), decide_eq_false h]
    rfl

/-- What happens in `k` turns of the loop, the latest first. -/
def pollTrace (x : Device × World) : Nat → List Event
  | 0 => []
  | k + 1 =>
    let (dev, w) := (pollNext env)^[k] x
    ⟨(polled env (dev, w)).2.time env, .chThdSleepMilliseconds 10, ()⟩ ::
      ⟨w.time env, poll dev, w.reply env (poll dev)⟩ :: pollTrace x k

theorem pollNext_trace (x : Device × World) (k : Nat) :
    ((pollNext env)^[k] x).2.trace = pollTrace env x k ++ x.2.trace := by
  induction k with
  | zero => rfl
  | succ k ih =>
    rw [Function.iterate_succ_apply', pollTrace, List.cons_append, List.cons_append, ← ih]
    rfl

/-- The address is not changed by polling. -/
theorem pollNext_address (x : Device × World) (k : Nat) :
    ((pollNext env)^[k] x).1.i2cAddress = x.1.i2cAddress := by
  induction k with
  | zero => rfl
  | succ k ih =>
    rw [Function.iterate_succ_apply']
    exact ih

/-- The loop with enough fuel: the first poll that leaves the not-busy bit in
the buffer ends it, and the result is read. -/
theorem waitReady_getValue_run_iff {fuel : Nat} {y : (Bool × Option UInt16 × Device) × World} :
    (waitReady fuel dev >>= getValue).run (answer env) w = some y ↔
      ∃ k, k < fuel ∧ (∀ j, j < k → ¬ Ready env ((pollNext env)^[j] (dev, w))) ∧
        Ready env ((pollNext env)^[k] (dev, w)) ∧
        (getValue (polled env ((pollNext env)^[k] (dev, w))).1).run (answer env)
          (polled env ((pollNext env)^[k] (dev, w))).2 = some y := by
  rw [Prog.run_bind]
  constructor
  · intro hrun
    obtain ⟨⟨dev', w'⟩, hwait, hget⟩ := Option.bind_eq_some_iff.mp hrun
    obtain ⟨k, hk, hbefore, hexit⟩ := (repeatUntil_run_iff (pollTurn_turnsBy env)).mp hwait
    unfold pollExit at hexit
    split at hexit
    · next hready =>
      cases hexit
      exact ⟨k, hk, fun j hj => (pollExit_eq_none_iff env _).mp (hbefore j hj), hready, hget⟩
    · cases hexit
  · rintro ⟨k, hk, hbefore, hready, hget⟩
    have hwait : (waitReady fuel dev).run (answer env) w =
        some (polled env ((pollNext env)^[k] (dev, w))) :=
      (repeatUntil_run_iff (pollTurn_turnsBy env)).mpr
        ⟨k, hk, fun j hj => (pollExit_eq_none_iff env _).mpr (hbefore j hj), if_pos hready⟩
    rw [hwait]
    exact hget

/-! ## Whole readings -/

/-- The loop's state after `k` turns of a reading. -/
def turns (k : Nat) : Device × World :=
  (pollNext env)^[k] (configure dev readmode, tested env dev readmode w)

/-- What happens in a reading that waits `k` turns, the latest first. -/
def readingTrace (k : Nat) : List Event :=
  let (dev', w') := turns env dev readmode w k
  let last := (polled env (dev', w')).2
  ⟨last.time env, convert dev', last.reply env (convert dev')⟩ ::
    ⟨w'.time env, poll dev', w'.reply env (poll dev')⟩ ::
      (pollTrace env (configure dev readmode, tested env dev readmode w) k ++
        [⟨(started env dev readmode w).time env, .chVTGetSystemTime,
            UInt16.ofNat ((started env dev readmode w).time env)⟩,
          ⟨(requested env dev readmode w).time env, .chVTGetSystemTime,
            UInt16.ofNat ((requested env dev readmode w).time env)⟩,
          ⟨w.time env, request dev readmode, w.reply env (request dev readmode)⟩])

/-- A reading that comes to its loop ends with the first poll after which the
buffer says not busy, and with the read of the result. -/
theorem readADCPriv_run_of_waits (hw : Waits env dev readmode w) {fuel : Nat}
    {y : (Bool × Option UInt16 × Device) × World} :
    (readADCPriv fuel dev readmode).run (answer env) w = some y ↔
      ∃ k, k < fuel ∧ (∀ j, j < k → ¬ Ready env (turns env dev readmode w j)) ∧
        Ready env (turns env dev readmode w k) ∧
        (getValue (polled env (turns env dev readmode w k)).1).run (answer env)
          (polled env (turns env dev readmode w k)).2 = some y := by
  rw [readADCPriv_run, if_pos hw.accepted, if_pos ⟨hw.mode, hw.que⟩, waitAndGet_run,
    if_pos hw.inRange]
  exact waitReady_getValue_run_iff env _ _

theorem exists_first_ready {k : Nat} (hk : Ready env (turns env dev readmode w k)) :
    ∃ k', k' ≤ k ∧ (∀ j, j < k' → ¬ Ready env (turns env dev readmode w j)) ∧
      Ready env (turns env dev readmode w k') := by
  have hexit : pollExit env (turns env dev readmode w k) ≠ none :=
    fun h => (pollExit_eq_none_iff env _).mp h hk
  obtain ⟨k', hk', hbefore, hfirst⟩ := exists_first_exit hexit
  refine ⟨k', hk', fun j hj => (pollExit_eq_none_iff env _).mp (hbefore j hj), ?_⟩
  by_contra hn
  exact hfirst ((pollExit_eq_none_iff env _).mpr hn)

theorem getValue_trace (k : Nat) :
    ((polled env (turns env dev readmode w k)).2.after env
      (convert (polled env (turns env dev readmode w k)).1)).trace =
      readingTrace env dev readmode w k ++ w.trace := by
  have hturns := pollNext_trace env (configure dev readmode, tested env dev readmode w) k
  rw [readingTrace, List.cons_append, List.cons_append, List.append_assoc]
  exact congrArg (fun t => _ :: _ :: t) hturns

/-- A reading that does not come to its loop ends at once; if it was to wait, it
reports failure and leaves the value. -/
theorem readADCPriv_run_of_not_waits (hw : ¬ Waits env dev readmode w) :
    ∃ r w' new, (∀ fuel, (readADCPriv fuel dev readmode).run (answer env) w = some (r, w')) ∧
      w'.trace = new ++ w.trace ∧ (∀ e ∈ new, e.call ≠ .chThdSleepMilliseconds 10) ∧
      (dev.mode = modeSingle ∧ dev.compQueConvert = 3 → r.1 = false ∧ r.2.1 = none) := by
  by_cases hok : w.reply env (request dev readmode) = true
  · by_cases hsingle : dev.mode = modeSingle ∧ dev.compQueConvert = 3
    · -- the time test fails
      have hlate : ¬ timeIsInRange (UInt16.ofNat ((started env dev readmode w).time env))
          (UInt16.ofNat (started env dev readmode w).now)
          (UInt16.ofNat (started env dev readmode w).now + 1000) = true :=
        fun h => hw ⟨hok, hsingle.1, hsingle.2, h⟩
      refine ⟨(false, none, configure dev readmode), tested env dev readmode w, [_, _, _], ?_, rfl,
        ?_, fun _ => ⟨rfl, rfl⟩⟩
      · intro fuel
        rw [readADCPriv_run, if_pos hok, if_pos hsingle, waitAndGet_run, if_neg hlate]
        rfl
      · simp
    · have hget := getValue_run env (configure dev readmode) (started env dev readmode w)
      have hrun : ∀ fuel, (readADCPriv fuel dev readmode).run (answer env) w =
          (getValue (configure dev readmode)).run (answer env) (started env dev readmode w) := by
        intro fuel
        rw [readADCPriv_run, if_pos hok, if_neg hsingle]
      refine ⟨_, _, [_, _, _], fun fuel => (hrun fuel).trans hget, rfl, ?_,
        fun h => absurd h hsingle⟩
      simp
  · refine ⟨(false, none, configure dev readmode), requested env dev readmode w, [_], ?_, rfl, ?_,
      fun _ => ⟨rfl, rfl⟩⟩
    · intro fuel
      rw [readADCPriv_run, if_neg hok]
    · simp

theorem sleep_mem_pollTrace {x : Device × World} {j k : Nat} (hj : j < k) :
    ⟨(polled env ((pollNext env)^[j] x)).2.time env, .chThdSleepMilliseconds 10, ()⟩ ∈
      pollTrace env x k := by
  induction k with
  | zero => exact absurd hj (Nat.not_lt_zero j)
  | succ k ih =>
    rcases Nat.lt_succ_iff_lt_or_eq.mp hj with hj | rfl
    · exact List.mem_cons_of_mem _ (List.mem_cons_of_mem _ (ih hj))
    · exact List.mem_cons_self

theorem exists_of_sleep_mem_pollTrace {x : Device × World} {k : Nat} {e : Event}
    (he : e ∈ pollTrace env x k) (hcall : e.call = .chThdSleepMilliseconds 10) :
    ∃ j, j < k ∧ e.time = (polled env ((pollNext env)^[j] x)).2.time env := by
  induction k with
  | zero => cases he
  | succ k ih =>
    rcases List.mem_cons.mp he with rfl | he
    · exact ⟨k, Nat.lt_succ_self k, rfl⟩
    · rcases List.mem_cons.mp he with rfl | he
      · cases hcall
      · obtain ⟨j, hj, ht⟩ := ih he
        exact ⟨j, Nat.lt_succ_of_lt hj, ht⟩

/-- The time at which the `j`-th turn goes to sleep. -/
def sleepTime (j : Nat) : Nat := (polled env (turns env dev readmode w j)).2.time env

theorem sleep_mem_readingTrace {k j : Nat} (hj : j < k) :
    ⟨sleepTime env dev readmode w j, .chThdSleepMilliseconds 10, ()⟩ ∈
      readingTrace env dev readmode w k :=
  List.mem_cons_of_mem _ (List.mem_cons_of_mem _
    (List.mem_append_left _ (sleep_mem_pollTrace env hj)))

theorem exists_of_sleep_mem_readingTrace {k : Nat} {e : Event}
    (he : e ∈ readingTrace env dev readmode w k) (hcall : e.call = .chThdSleepMilliseconds 10) :
    ∃ j, j < k ∧ e.time = sleepTime env dev readmode w j := by
  rcases List.mem_cons.mp he with rfl | he
  · cases hcall
  · rcases List.mem_cons.mp he with rfl | he
    · cases hcall
    · rcases List.mem_append.mp he with he | he
      · exact exists_of_sleep_mem_pollTrace env he hcall
      · simp only [List.mem_cons, List.not_mem_nil, or_false] at he
        rcases he with rfl | rfl | rfl <;> cases hcall

/-! ## Ending in the window -/

/-- With enough fuel the code ends, and it does not go to sleep again once the
1000 ms from `start` on have passed. -/
def EndsInWindow {α : Type} (p : Nat → Fw α) (start : Nat) : Prop :=
  ∃ fuel a w' new, (p fuel).run (answer env) w = some (a, w') ∧ w'.trace = new ++ w.trace ∧
    ∀ e ∈ new, e.call = .chThdSleepMilliseconds 10 → e.time < start + 1000

/-- A reading that comes to its loop finds the not-busy bit in the buffer after
a poll, all sleeps before it being in the window. -/
def ReadyInWindow : Prop :=
  Waits env dev readmode w →
    ∃ k, Ready env (turns env dev readmode w k) ∧
      ∀ j, j < k → sleepTime env dev readmode w j < (started env dev readmode w).now + 1000

theorem readADCPriv_endsInWindow_iff :
    EndsInWindow env w (fun fuel => readADCPriv fuel dev readmode)
        (started env dev readmode w).now ↔ ReadyInWindow env dev readmode w := by
  constructor
  · rintro ⟨fuel, r, w', new, hrun, htrace, hsleeps⟩ hwaits
    obtain ⟨k, -, -, hready, hget⟩ := (readADCPriv_run_of_waits env dev readmode w hwaits).mp hrun
    refine ⟨k, hready, fun j hj => ?_⟩
    rw [getValue_run] at hget
    cases hget
    rw [getValue_trace] at htrace
    have hnew := List.append_cancel_right htrace
    exact hsleeps _ (hnew ▸ sleep_mem_readingTrace env dev readmode w hj) rfl
  · intro h
    by_cases hwaits : Waits env dev readmode w
    · obtain ⟨k, hready, hin⟩ := h hwaits
      -- the loop ends with the first poll that finds the device ready
      obtain ⟨k', hk', hbefore, hfirst⟩ := exists_first_ready env dev readmode w hready
      have hrun := (readADCPriv_run_of_waits env dev readmode w hwaits).mpr
        ⟨k', Nat.lt_succ_self k', hbefore, hfirst, getValue_run env _ _⟩
      refine ⟨k' + 1, _, _, _, hrun, getValue_trace env dev readmode w k', ?_⟩
      intro e he hcall
      obtain ⟨j, hj, ht⟩ := exists_of_sleep_mem_readingTrace env dev readmode w he hcall
      rw [ht]
      exact hin j (Nat.lt_of_lt_of_le hj hk')
    · obtain ⟨r, w', new, hrun, htrace, hno, -⟩ :=
        readADCPriv_run_of_not_waits env dev readmode w hwaits
      exact ⟨0, r, w', new, hrun 0, htrace, fun e he hcall => absurd hcall (hno e he)⟩

theorem endsInWindow_map {α β : Type} (p : Nat → Fw α) (f : α → β) (start : Nat) :
    EndsInWindow env w (fun fuel => p fuel >>= fun a => .ret (f a)) start ↔
      EndsInWindow env w p start := by
  constructor
  · rintro ⟨fuel, b, w', new, hrun, hrest⟩
    rw [Prog.run_bind] at hrun
    obtain ⟨⟨a, w''⟩, hp, hret⟩ := Option.bind_eq_some_iff.mp hrun
    cases hret
    exact ⟨fuel, a, _, new, hp, hrest⟩
  · rintro ⟨fuel, a, w', new, hrun, hrest⟩
    exact ⟨fuel, f a, w', new, Prog.run_bind_of hrun _, hrest⟩

/-- For every clock, every sequence of bus outcomes and every device state: each
of the readings ends in its window if and only if it does not come to its loop
or a poll in the window leaves the not-busy bit in the buffer. -/
theorem readings_end_in_window_iff :
    (∀ readmode, EndsInWindow env w (fun fuel => readADCPriv fuel dev readmode)
      (started env dev readmode w).now ↔ ReadyInWindow env dev readmode w) ∧
    (∀ pin, EndsInWindow env w (fun fuel => readADC fuel dev pin)
      (started env dev (pinMode pin) w).now ↔ ReadyInWindow env dev (pinMode pin) w) ∧
    (EndsInWindow env w (fun fuel => readADCDifferential01 fuel dev)
      (started env dev muxDiff01 w).now ↔ ReadyInWindow env dev muxDiff01 w) ∧
    (EndsInWindow env w (fun fuel => init fuel dev)
      (started env (initSettings dev) (pinMode 0) w).now ↔
        ReadyInWindow env (initSettings dev) (pinMode 0) w) := by
  refine ⟨fun readmode => readADCPriv_endsInWindow_iff env dev readmode w,
    fun pin => readADCPriv_endsInWindow_iff env dev _ w,
    readADCPriv_endsInWindow_iff env dev _ w, ?_⟩
  exact (endsInWindow_map env w _ (fun r => (r.1, r.2.2.buffered r.2.1)) _).trans
    (readADCPriv_endsInWindow_iff env (initSettings dev) _ w)

end Reading

/-- The device as it is before its first use. -/
def fresh : Device where
  config := 0
  gain := 0
  mode := 0
  datarate := 0
  compMode := 0
  compPol := 0
  compLatch := 0
  compQueConvert := 0
  bufferRx := 0
  i2cAddress := 0x48

/-- A device that acknowledges every write and no read; the receive buffer of
the driver keeps its zeros. -/
def deaf : Env where
  delay _ := 0
  reply _ c :=
    match c with
    | .busOp (.adsWriteRegister ..) => true
    | .busOp (.adsReadRegister ..) => (false, some 0)
    | c => anyReply c

theorem deaf_not_ready (x : Device × World) : ¬ Ready deaf x := by
  have hbuffer : (polled deaf x).1.bufferRx = 0 := rfl
  rw [Ready, hbuffer]
  decide

/-- `ADS__init` polls such a device for ever. -/
theorem init_polls_for_ever :
    (∀ fuel, (init fuel fresh).run (answer deaf) ⟨0, []⟩ = none) ∧
      ¬ EndsInWindow deaf ⟨0, []⟩ (fun fuel => init fuel fresh)
        (started deaf (initSettings fresh) (pinMode 0) ⟨0, []⟩).now := by
  have hwaits : Waits deaf (initSettings fresh) (pinMode 0) ⟨0, []⟩ :=
    ⟨rfl, rfl, rfl, by decide⟩
  have hnone : ∀ fuel, (init fuel fresh).run (answer deaf) ⟨0, []⟩ = none := by
    intro fuel
    have hread : (readADC fuel (initSettings fresh) 0).run (answer deaf) ⟨0, []⟩ = none := by
      rw [Option.eq_none_iff_forall_ne_some]
      intro y hy
      obtain ⟨k, -, -, hready, -⟩ := (readADCPriv_run_of_waits deaf _ _ _ hwaits).mp hy
      exact deaf_not_ready _ hready
    rw [init, Prog.run_bind, hread]
    rfl
  refine ⟨hnone, ?_⟩
  rintro ⟨fuel, a, w', new, hrun, -⟩
  cases (hnone fuel).symm.trans hrun

/-! ## Fresh values -/

/-- The word that a successful read of register `reg` gave. -/
def wordRead (addr reg : UInt8) : Event → Option UInt16
  | ⟨_, .busOp (.adsReadRegister a r), (true, data)⟩ => if a = addr ∧ r = reg then data else none
  | _ => none

/-- A successful write of register `reg`. -/
def wrote (addr reg : UInt8) : Event → Bool
  | ⟨_, .busOp (.adsWriteRegister a r _), ok⟩ => ok && (a = addr && r = reg)
  | _ => false

/-- In these events, the latest first: a successful write of the configuration,
then a successful read of it that reports not busy, then a successful read of
the value. -/
def Fresh (addr : UInt8) (events : List Event) (value : UInt16) : Prop :=
  ∃ e₃ e₂ e₁, [e₃, e₂, e₁].Sublist events ∧ wrote addr regConfig e₁ = true ∧
    (∃ status, wordRead addr regConfig e₂ = some status ∧ status &&& osNotBusy ≠ 0) ∧
    wordRead addr regConvert e₃ = some value

section Freshness

variable (env : Env) (dev : Device) (readmode : UInt16) (w : World)

/-- Whenever the reading returns: success means a fresh value, failure leaves
the caller's value. -/
def ReadsFresh (p : Nat → Fw (Bool × Option UInt16 × Device)) : Prop :=
  ∀ fuel ok value dev' w', (p fuel).run (answer env) w = some ((ok, value, dev'), w') →
    ∃ new, w'.trace = new ++ w.trace ∧
      (ok = true → ∃ v, value = some v ∧ Fresh dev.i2cAddress new v) ∧ (ok = false → value = none)

/-- The answer to the `k`-th poll, and to the read of the result after it. -/
def pollReply (k : Nat) : Bool × Option UInt16 :=
  (turns env dev readmode w k).2.reply env (poll (turns env dev readmode w k).1)

def convertReply (k : Nat) : Bool × Option UInt16 :=
  (polled env (turns env dev readmode w k)).2.reply env (convert (turns env dev readmode w k).1)

/-- The poll that ends the wait was a successful read and the result is read
too, or the read of the result fails before its transfer. -/
def TransfersSucceed : Prop :=
  Waits env dev readmode w → ∀ k, (∀ j, j < k → ¬ Ready env (turns env dev readmode w j)) →
    Ready env (turns env dev readmode w k) →
      convertReply env dev readmode w k = (false, none) ∨
        (∃ value, convertReply env dev readmode w k = (true, some value)) ∧
          ∃ status, pollReply env dev readmode w k = (true, some status)

theorem wordRead_eq_some_iff {addr reg a r : UInt8} {t : Nat} {reply : Bool × Option UInt16}
    {v : UInt16} :
    wordRead addr reg ⟨t, .busOp (.adsReadRegister a r), reply⟩ = some v ↔
      reply = (true, some v) ∧ a = addr ∧ r = reg := by
  obtain ⟨ok, data⟩ := reply
  cases ok with
  | false => simp [wordRead]
  | true =>
    simp only [wordRead, Prod.mk.injEq, true_and]
    split
    · next h => simp [h]
    · next h => simp [h]

/-- A poll that found the device busy did not read the not-busy bit. -/
theorem busy_of_mem_pollTrace {x : Device × World} {k : Nat} {e : Event} {addr : UInt8}
    {status : UInt16} (hbusy : ∀ j, j < k → ¬ Ready env ((pollNext env)^[j] x))
    (he : e ∈ pollTrace env x k) (hword : wordRead addr regConfig e = some status) :
    status &&& osNotBusy = 0 := by
  induction k with
  | zero => cases he
  | succ k ih =>
    rcases List.mem_cons.mp he with rfl | he
    · cases hword
    · rcases List.mem_cons.mp he with rfl | he
      · obtain ⟨hreply, -⟩ := wordRead_eq_some_iff.mp hword
        have hlast := hbusy k (Nat.lt_succ_self k)
        rw [Ready, polled, Device.buffered, hreply] at hlast
        exact Classical.not_not.mp hlast
      · exact ih (fun j hj => hbusy j (Nat.lt_succ_of_lt hj)) he

/-- In a reading that waits, only the last poll can have read the not-busy bit. -/
theorem pollReply_of_mem_readingTrace {k : Nat} {e : Event} {addr : UInt8} {status : UInt16}
    (hbusy : ∀ j, j < k → ¬ Ready env (turns env dev readmode w j))
    (he : e ∈ readingTrace env dev readmode w k)
    (hword : wordRead addr regConfig e = some status) (hbit : status &&& osNotBusy ≠ 0) :
    pollReply env dev readmode w k = (true, some status) := by
  rcases List.mem_cons.mp he with rfl | he
  · obtain ⟨-, -, hreg⟩ := wordRead_eq_some_iff.mp hword
    exact absurd hreg (by decide)
  · rcases List.mem_cons.mp he with rfl | he
    · exact (wordRead_eq_some_iff.mp hword).1
    · rcases List.mem_append.mp he with he | he
      · exact absurd (busy_of_mem_pollTrace env hbusy he hword) hbit
      · simp only [List.mem_cons, List.not_mem_nil, or_false] at he
        rcases he with rfl | rfl | rfl <;> cases hword

theorem fresh_readingTrace {k : Nat} {value status : UInt16}
    (hwaits : Waits env dev readmode w) (hready : Ready env (turns env dev readmode w k))
    (hconvert : convertReply env dev readmode w k = (true, some value))
    (hpoll : pollReply env dev readmode w k = (true, some status)) :
    Fresh dev.i2cAddress (readingTrace env dev readmode w k) value := by
  have haddr : (turns env dev readmode w k).1.i2cAddress = dev.i2cAddress :=
    pollNext_address env _ k
  refine ⟨_, _, ⟨w.time env, request dev readmode, w.reply env (request dev readmode)⟩,
    .cons_cons _ (.cons_cons _ (List.singleton_sublist.mpr ?_)), ?_, ⟨status, ?_, ?_⟩, ?_⟩
  · simp
  · rw [hwaits.accepted]
    simp [wrote]
  · exact wordRead_eq_some_iff.mpr ⟨hpoll, haddr, rfl⟩
  · rw [Ready, polled, Device.buffered] at hready
    rw [pollReply] at hpoll
    rw [hpoll] at hready
    exact hready
  · exact wordRead_eq_some_iff.mpr ⟨hconvert, haddr, rfl⟩

theorem transfersSucceed_of_readsFresh
    (h : ReadsFresh env dev w (fun fuel => readADCPriv fuel dev readmode)) :
    TransfersSucceed env dev readmode w := by
  intro hwaits k hbefore hready
  have hrun := (readADCPriv_run_of_waits env dev readmode w hwaits).mpr
    ⟨k, Nat.lt_succ_self k, hbefore, hready, getValue_run env _ _⟩
  obtain ⟨new, htrace, htrue, hfalse⟩ := h (k + 1) _ _ _ _ hrun
  rw [getValue_trace] at htrace
  obtain rfl := List.append_cancel_right htrace
  have htrue' : (convertReply env dev readmode w k).1 = true →
      ∃ v, (convertReply env dev readmode w k).2 = some v ∧
        Fresh dev.i2cAddress (readingTrace env dev readmode w k) v := htrue
  have hfalse' : (convertReply env dev readmode w k).1 = false →
      (convertReply env dev readmode w k).2 = none := hfalse
  cases hok : (convertReply env dev readmode w k).1 with
  | false => exact .inl (Prod.ext hok (hfalse' hok))
  | true =>
    obtain ⟨v, hv, e₃, e₂, e₁, hsub, -, ⟨status, hword, hbit⟩, -⟩ := htrue' hok
    have he₂ := hsub.subset (List.mem_cons_of_mem _ List.mem_cons_self)
    exact .inr ⟨⟨v, Prod.ext hok hv⟩, status,
      pollReply_of_mem_readingTrace env dev readmode w hbefore he₂ hword hbit⟩

theorem readsFresh_of_transfersSucceed (hmode : dev.mode = modeSingle)
    (hque : dev.compQueConvert = 3) (h : TransfersSucceed env dev readmode w) :
    ReadsFresh env dev w (fun fuel => readADCPriv fuel dev readmode) := by
  intro fuel ok value dev' w' hrun
  by_cases hwaits : Waits env dev readmode w
  · obtain ⟨k, -, hbefore, hready, hget⟩ :=
      (readADCPriv_run_of_waits env dev readmode w hwaits).mp hrun
    rw [getValue_run] at hget
    have hreply : (ok, value) = convertReply env dev readmode w k := by
      cases hget
      rfl
    refine ⟨readingTrace env dev readmode w k, ?_, ?_⟩
    · cases hget
      exact getValue_trace env dev readmode w k
    · rcases h hwaits k hbefore hready with hfail | ⟨⟨v, hv⟩, status, hs⟩
      · cases hreply.trans hfail
        exact ⟨fun hok => (nomatch hok), fun _ => rfl⟩
      · cases hreply.trans hv
        exact ⟨fun _ => ⟨v, rfl, fresh_readingTrace env dev readmode w hwaits hready hv hs⟩,
          fun hok => (nomatch hok)⟩
  · obtain ⟨r, w₁, new, hall, htrace, -, hfail⟩ :=
      readADCPriv_run_of_not_waits env dev readmode w hwaits
    cases (hall fuel).symm.trans hrun
    obtain ⟨hok, hvalue⟩ := hfail ⟨hmode, hque⟩
    exact ⟨new, htrace, fun h => (nomatch hok.symm.trans h), fun _ => hvalue⟩

/-- For every device in single mode, every history and every sequence of bus
outcomes: what the readings return is fresh, and a failure leaves the caller's
value, if and only if the transfers that decide it succeed. -/
theorem readings_fresh_iff (hmode : dev.mode = modeSingle) (hque : dev.compQueConvert = 3) :
    (∀ pin, ReadsFresh env dev w (fun fuel => readADC fuel dev pin) ↔
      TransfersSucceed env dev (pinMode pin) w) ∧
    (ReadsFresh env dev w (fun fuel => readADCDifferential01 fuel dev) ↔
      TransfersSucceed env dev muxDiff01 w) :=
  ⟨fun pin => ⟨transfersSucceed_of_readsFresh env dev (pinMode pin) w,
      readsFresh_of_transfersSucceed env dev (pinMode pin) w hmode hque⟩,
    transfersSucceed_of_readsFresh env dev muxDiff01 w,
    readsFresh_of_transfersSucceed env dev muxDiff01 w hmode hque⟩

end Freshness

/-- A device that answers everything and is never busy. -/
def healthy : Env where
  delay _ := 0
  reply _ c :=
    match c with
    | .busOp (.adsWriteRegister ..) => true
    | .busOp (.adsReadRegister _ reg) => (true, some (if reg = regConvert then 0x1234 else 0x8583))
    | c => anyReply c

theorem readings_fresh_iff_healthy :
    (∀ pin, ReadsFresh healthy (initSettings fresh) ⟨0, []⟩
      (fun fuel => readADC fuel (initSettings fresh) pin)) ∧
    ReadsFresh healthy (initSettings fresh) ⟨0, []⟩
      (fun fuel => readADCDifferential01 fuel (initSettings fresh)) := by
  have hiff := readings_fresh_iff healthy (initSettings fresh) ⟨0, []⟩ rfl rfl
  exact ⟨fun pin => (hiff.1 pin).mpr fun _ _ _ _ => .inr ⟨⟨0x1234, rfl⟩, 0x8583, rfl⟩,
    hiff.2.mpr fun _ _ _ _ => .inr ⟨⟨0x1234, rfl⟩, 0x8583, rfl⟩⟩

/-- After its first conversion the device misses a poll: the transfer fails and
the receive buffer keeps the value 0xFFFE, whose top bit reads as not busy. -/
def missedPoll : Env where
  delay _ := 0
  reply trace c :=
    match c with
    | .busOp (.adsWriteRegister ..) => true
    | .busOp (.adsReadRegister _ reg) =>
      if reg = regConvert then (true, some 0xFFFE)
      else if trace.any (fun e => (wordRead 0x48 regConvert e).isSome) then (false, some 0xFFFE)
      else (true, some 0x8583)
    | c => anyReply c

/-- The second of two readings returns the value of the first as new. -/
theorem second_reading_is_stale :
    ∃ dev w, (readADCDifferential01 1 (initSettings fresh)).run (answer missedPoll) ⟨0, []⟩ =
        some ((true, some 0xFFFE, dev), w) ∧
      dev.mode = modeSingle ∧ dev.compQueConvert = 3 ∧
      (∃ dev' w', (readADCDifferential01 1 dev).run (answer missedPoll) w =
        some ((true, some 0xFFFE, dev'), w')) ∧
      ¬ ReadsFresh missedPoll dev w (fun fuel => readADCDifferential01 fuel dev) := by
  refine ⟨_, _, rfl, rfl, rfl, ⟨_, _, rfl⟩, ?_⟩
  intro h
  have hsucceed := transfersSucceed_of_readsFresh missedPoll _ muxDiff01 _ h
  rcases hsucceed ⟨rfl, rfl, rfl, by decide⟩ 0 (fun j hj => absurd hj (Nat.not_lt_zero j))
    (by decide) with hfail | ⟨-, status, hpoll⟩
  · cases hfail
  · cases hpoll

end MeteoL053.Ads1x15
