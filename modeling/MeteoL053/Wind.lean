import MeteoL053.Lib.Threads
import MeteoL053.Config.Intervals

/-!
The wind thread of `windThread.c` with the interrupt of the anemometer and the
system clock, and when its samples account for the pulses and the time.

The clock counts milliseconds in 16 bits while the thread holds the kernel lock
and while it does not. `pulses`, `counted`, `reading` and the like are history
variables.
-/

namespace MeteoL053.Wind

open CallTree Config

/-! ## The thread -/

/-- `WIND_HW_ID`. -/
def hwId : UInt8 := 5

/-- The blocks of the wind thread, of the interrupt and of the clock. -/
inductive Label where
  | start (interval : UInt16)
  | loop (lastRunTime interval : UInt16)
  | pulse
  | clock

/-- `chVTGetSystemTimeX() - lastRunTime`: the difference of two `uint16_t` values
in `int`, stored to a `uint32_t`. -/
def elapsed (now lastRunTime : UInt16) : UInt32 := now.toUInt32 - lastRunTime.toUInt32

/-- The thread up to its loop. -/
def start (interval : UInt16) : Fw Label := do
  ask (.registerSchedule hwId)
  ask (.setHwStatus .unknown)
  ask (.registerHw hwId)
  ask (.palEnableLineEvent .wind)
  ask (.palSetLineCallback .wind)
  let lastRunTime ← ask .chVTGetSystemTime
  return .loop lastRunTime interval

/-- The sample that a turn of the loop takes under the kernel lock; returns the
new `lastRunTime`. -/
def sample (lastRunTime : UInt16) : Fw UInt16 := do
  ask .chSysLock
  let now ← ask .chVTGetSystemTime
  let count ← ask .windSpeedCount
  let value ← ask (.windSpeed count (elapsed now lastRunTime))
  ask (.setHwValue 0 value)
  let lastRunTime ← ask .chVTGetSystemTime
  ask (.setWindSpeedCount 0)
  ask .chSysUnlock
  return lastRunTime

/-- One turn of the loop. -/
def loop (lastRunTime interval : UInt16) : Fw Label := do
  if (← ask .windSpeedCount) > (0 : UInt32) then
    ask (.setHwStatus .ok)
  let lastRunTime ← sample lastRunTime
  let msg ← ask (.chMsgWaitTimeout (waitTimeout interval))
  return .loop lastRunTime (nextInterval interval msg)

/-- The code of a block; the interrupt and the clock never end. -/
def code : Label → Fw Label
  | .start interval => start interval
  | .loop lastRunTime interval => loop lastRunTime interval
  | .pulse => do ask .windPulse; return .pulse
  | .clock => do ask .tick; return .clock

/-! ## The system -/

/-- What interleaves. -/
inductive Thread where
  | wind
  | anemometer
  | clock
  deriving DecidableEq

structure State where
  /-- milliseconds since the start of the station; `systime_t` is the low 16 bits -/
  now : Nat
  /-- the kernel lock, which masks the interrupt -/
  locked : Bool
  /-- the callback of the line is set -/
  callback : Bool
  windSpeedCount : UInt32
  /-- when the wait of the thread may have started -/
  waiting : Nat
  /-- interrupts so far -/
  pulses : Nat
  /-- interrupts that found `windSpeedCount` at its largest value -/
  overflows : Nat
  /-- the count that the last sample divided -/
  divided : UInt32
  /-- what the samples have divided, taken when they reset the count -/
  counted : Nat
  /-- when the thread has last read the clock, and the time before -/
  reading : Nat
  previous : Nat
  deriving DecidableEq

/-- `Wind__thread_increaseWindCount`. -/
def increaseWindCount (n : UInt32) : UInt32 := n + 1

def effect (s : State) : (c : Call) → Reply c → State
  | .palSetLineCallback _, _ => { s with callback := true }
  | .chSysLock, _ => { s with locked := true }
  | .chSysUnlock, _ => { s with locked := false, waiting := s.now }
  | .chVTGetSystemTime, _ => { s with reading := s.now, previous := s.reading }
  | .windSpeed count _, _ => { s with divided := count }
  | .setWindSpeedCount n, _ =>
    { s with windSpeedCount := n, counted := s.counted + s.divided.toNat }
  | .windPulse, _ =>
    { s with
      windSpeedCount := increaseWindCount s.windSpeedCount
      pulses := s.pulses + 1
      overflows := s.overflows + (s.windSpeedCount.toNat + 1) / 2 ^ 32 }
  | .tick, _ => { s with now := s.now + 1 }
  | _, _ => s

/-- The interrupt needs its callback and no lock; a wait without a message takes
at least its timeout. -/
def possible (s : State) : (c : Call) → Reply c → Prop
  | .chVTGetSystemTime, r => r = UInt16.ofNat s.now
  | .windSpeedCount, r => r = s.windSpeedCount
  | .windPulse, _ => s.locked = false ∧ s.callback = true
  | .chMsgWaitTimeout timeout, r => r.isSome = true ∨ s.waiting + timeout.toNat ≤ s.now
  | _, _ => True

instance (s : State) (c : Call) (r : Reply c) : Decidable (possible s c r) := by
  revert r
  apply Call.casesOn (motive := fun c => ∀ r : Reply c, Decidable (possible s c r)) c <;> intros <;>
    first
    | exact isTrue trivial
    | exact inferInstanceAs (Decidable (_ = _))
    | exact inferInstanceAs (Decidable (_ ∧ _))
    | exact inferInstanceAs (Decidable (_ = _ ∨ _ ≤ _))

/-- The wind thread, the interrupt and the clock. -/
def system : System Thread Call Reply Label State where
  body _ := code
  possible _ := possible
  effect _ := effect

instance (t : Thread) (s : State) (c : Call) (r : Reply c) : Decidable (system.possible t s c r) :=
  inferInstanceAs (Decidable (possible s c r))

/-- The thread starts at time `now`. -/
def initial (now : Nat) (interval : UInt16) : Pool Thread Call Reply Label State where
  shared :=
    { now, locked := false, callback := false, windSpeedCount := 0, waiting := now, pulses := 0,
      overflows := 0, divided := 0, counted := 0, reading := now, previous := now }
  prog
    | .wind => .ret (.start interval)
    | .anemometer => .ret .pulse
    | .clock => .ret .clock

/-! ## The invariant -/

/-- Where the wind thread is in a turn, with its variables. -/
inductive Phase where
  | starting
  /-- outside the lock -/
  | free (lastRunTime : UInt16)
  | entered (lastRunTime : UInt16)
  | timed (lastRunTime now : UInt16)
  | read (lastRunTime now : UInt16) (count : UInt32)
  | divided
  | stamped (lastRunTime : UInt16)
  | cleared (lastRunTime : UInt16)

/-- The calls of a phase: a sample divides what it has read and resets the count
after that. -/
inductive Allowed : Phase → Call → Prop where
  | registerSchedule (id : UInt8) : Allowed .starting (.registerSchedule id)
  | registerHw (id : UInt8) : Allowed .starting (.registerHw id)
  | unknown : Allowed .starting (.setHwStatus .unknown)
  | enableEvent (l : Line) : Allowed .starting (.palEnableLineEvent l)
  | setCallback (l : Line) : Allowed .starting (.palSetLineCallback l)
  | firstTime : Allowed .starting .chVTGetSystemTime
  | look (last : UInt16) : Allowed (.free last) .windSpeedCount
  | ok (last : UInt16) : Allowed (.free last) (.setHwStatus .ok)
  | lock (last : UInt16) : Allowed (.free last) .chSysLock
  | wait (last : UInt16) (timeout : UInt32) : Allowed (.free last) (.chMsgWaitTimeout timeout)
  | time (last : UInt16) : Allowed (.entered last) .chVTGetSystemTime
  | count (last now : UInt16) : Allowed (.timed last now) .windSpeedCount
  | divide (last now : UInt16) (n : UInt32) :
      Allowed (.read last now n) (.windSpeed n (elapsed now last))
  | value (v : UInt32) : Allowed .divided (.setHwValue 0 v)
  | stamp : Allowed .divided .chVTGetSystemTime
  | clear (last : UInt16) : Allowed (.stamped last) (.setWindSpeedCount 0)
  | unlock (last : UInt16) : Allowed (.cleared last) .chSysUnlock

/-- The monitor of the wind thread. -/
def monitor : Monitor Call Reply Phase where
  hangs _ := False
  allows := Allowed
  answers _ _ _ := True
  next
    | .starting, .chVTGetSystemTime, now => .free now
    | .free last, .chSysLock, _ => .entered last
    | .entered last, .chVTGetSystemTime, now => .timed last now
    | .timed last now, .windSpeedCount, n => .read last now n
    | .read .., .windSpeed .., _ => .divided
    | .divided, .chVTGetSystemTime, now => .stamped now
    | .stamped last, .setWindSpeedCount _, _ => .cleared last
    | .cleared last, .chSysUnlock, _ => .free last
    | φ, _, _ => φ

/-- The interrupt and the clock make one call over and over. -/
def repeats (c : Call) : Monitor Call Reply Phase where
  hangs _ := False
  allows _ c' := c' = c
  answers _ _ _ := True
  next φ _ _ := φ

def monitors : Thread → Monitor Call Reply Phase
  | .wind => monitor
  | .anemometer => repeats .windPulse
  | .clock => repeats .tick

/-- Which block a thread continues with. -/
def Continues : Thread → Label → Phase → Prop
  | .wind, .start _, φ => φ = .starting
  | .wind, .loop last _, φ => φ = .free last
  | .anemometer, .pulse, _ => True
  | .clock, .clock, _ => True
  | _, _, _ => False

/-- What a phase says about the shared state. -/
def Phase.Ties : Phase → State → Prop
  | starting, s => s.locked = false
  | free last, s => s.locked = false ∧ last = UInt16.ofNat s.reading
  | entered last, s => s.locked = true ∧ last = UInt16.ofNat s.reading
  | timed last now, s =>
    s.locked = true ∧ last = UInt16.ofNat s.previous ∧ now = UInt16.ofNat s.reading
  | read last now n, s =>
    s.locked = true ∧ last = UInt16.ofNat s.previous ∧ now = UInt16.ofNat s.reading ∧
      n = s.windSpeedCount
  | divided, s => s.locked = true ∧ s.divided = s.windSpeedCount
  | stamped last, s =>
    s.locked = true ∧ last = UInt16.ofNat s.reading ∧ s.divided = s.windSpeedCount
  | cleared last, s => s.locked = true ∧ last = UInt16.ofNat s.reading

/-- The pulses are divided, in the count, or lost when it wrapped; the readings
are in order. -/
structure Books (s : State) : Prop where
  pulses : s.counted + s.windSpeedCount.toNat + 2 ^ 32 * s.overflows = s.pulses
  previous : s.previous ≤ s.reading
  reading : s.reading ≤ s.now

/-! ## The code follows the monitors -/

theorem sample_follows (last : UInt16) :
    (sample last).wp monitor (.free last) fun last' φ => φ = .free last' := by
  apply Prog.wp_step (Allowed.lock last)
  intro _ _
  apply Prog.wp_step (Allowed.time last)
  intro now _
  apply Prog.wp_step (Allowed.count last now)
  intro n _
  apply Prog.wp_step (Allowed.divide last now n)
  intro value _
  apply Prog.wp_step (Allowed.value value)
  intro _ _
  apply Prog.wp_step Allowed.stamp
  intro last' _
  apply Prog.wp_step (Allowed.clear last')
  intro _ _
  exact Prog.wp_step (Allowed.unlock last') fun _ _ => rfl

theorem start_follows (interval : UInt16) :
    (start interval).wp monitor .starting (Continues .wind) := by
  apply Prog.wp_step (Allowed.registerSchedule hwId)
  intro _ _
  apply Prog.wp_step Allowed.unknown
  intro _ _
  apply Prog.wp_step (Allowed.registerHw hwId)
  intro _ _
  apply Prog.wp_step (Allowed.enableEvent .wind)
  intro _ _
  apply Prog.wp_step (Allowed.setCallback .wind)
  intro _ _
  exact Prog.wp_step Allowed.firstTime fun _ _ => rfl

theorem loop_follows (last interval : UInt16) :
    (loop last interval).wp monitor (.free last) (Continues .wind) := by
  have hrest : (sample last >>= fun last' =>
      ask (.chMsgWaitTimeout (waitTimeout interval)) >>= fun msg =>
        pure (Label.loop last' (nextInterval interval msg))).wp monitor (.free last)
          (Continues .wind) := by
    apply Prog.wp_bind_of _ _ _ (sample_follows last)
    rintro last' _ rfl
    exact Prog.wp_step (Allowed.wait last' _) fun _ _ => rfl
  apply Prog.wp_step (Allowed.look last)
  intro n _
  split
  · apply Prog.wp_step (Allowed.ok last)
    intro _ _
    exact hrest
  · exact hrest

theorem code_follows (t : Thread) (l : Label) (φ : Phase) (h : Continues t l φ) :
    (code l).wp (monitors t) φ (Continues t) := by
  cases t with
  | wind =>
    cases l with
    | start interval =>
      cases h
      exact start_follows interval
    | loop last interval =>
      cases h
      exact loop_follows last interval
    | _ => exact h.elim
  | anemometer =>
    cases l with
    | pulse => exact Prog.wp_step rfl fun _ _ => trivial
    | _ => exact h.elim
  | clock =>
    cases l with
    | clock => exact Prog.wp_step rfl fun _ _ => trivial
    | _ => exact h.elim

/-! ## What a step keeps -/

theorem Books.wind_step {s : State} {φ : Phase} {c : Call} {r : Reply c} (hb : Books s)
    (ht : φ.Ties s) (hc : Allowed φ c) (hr : possible s c r) :
    (monitor.next φ c r).Ties (effect s c r) ∧ Books (effect s c r) := by
  have ⟨hp, hprev, hread⟩ := hb
  cases hc with
  | firstTime => exact ⟨⟨ht, hr⟩, ⟨hp, hread, Nat.le_refl _⟩⟩
  | lock => exact ⟨⟨rfl, ht.2⟩, ⟨hp, hprev, hread⟩⟩
  | time => exact ⟨⟨ht.1, ht.2, hr⟩, ⟨hp, hread, Nat.le_refl _⟩⟩
  | count => exact ⟨⟨ht.1, ht.2.1, ht.2.2, hr⟩, hb⟩
  | divide => exact ⟨⟨ht.1, ht.2.2.2⟩, ⟨hp, hprev, hread⟩⟩
  | stamp => exact ⟨⟨ht.1, hr, ht.2⟩, ⟨hp, hread, Nat.le_refl _⟩⟩
  | clear =>
    obtain ⟨hl, hlast, hd⟩ := ht
    refine ⟨⟨hl, hlast⟩, ⟨?_, hprev, hread⟩⟩
    -- the count moves from `windSpeedCount` to `counted`
    simp only [effect, hd, UInt32.toNat_zero]
    omega
  | unlock => exact ⟨⟨rfl, ht.2⟩, ⟨hp, hprev, hread⟩⟩
  | setCallback => exact ⟨ht, ⟨hp, hprev, hread⟩⟩
  | _ => exact ⟨ht, hb⟩

theorem increaseWindCount_toNat (n : UInt32) :
    (increaseWindCount n).toNat + 2 ^ 32 * ((n.toNat + 1) / 2 ^ 32) = n.toNat + 1 := by
  rw [increaseWindCount, UInt32.toNat_add]
  exact Nat.mod_add_div _ _

/-- An interrupt finds the lock free, so no phase under the lock sees it. -/
theorem Books.pulse_step {s : State} {φ : Phase} (hb : Books s) (ht : φ.Ties s)
    (hr : possible s .windPulse ()) :
    φ.Ties (effect s .windPulse ()) ∧ Books (effect s .windPulse ()) := by
  obtain ⟨hl, -⟩ := hr
  constructor
  · cases φ with
    | starting | free last => exact ht
    | entered | timed | read | divided | stamped | cleared =>
      exact absurd (ht.1.symm.trans hl) Bool.noConfusion
  · refine ⟨?_, hb.previous, hb.reading⟩
    have := increaseWindCount_toNat s.windSpeedCount
    have := hb.pulses
    simp only [effect]
    omega

theorem Books.tick_step {s : State} {φ : Phase} (hb : Books s) (ht : φ.Ties s) :
    φ.Ties (effect s .tick ()) ∧ Books (effect s .tick ()) := by
  constructor
  · cases φ <;> exact ht
  · exact ⟨hb.pulses, hb.previous, Nat.le_succ_of_le hb.reading⟩

/-- The global invariant. -/
def Accounts (ph : Thread → Phase) (s : State) : Prop := (ph .wind).Ties s ∧ Books s

theorem accounts_call (ph : Thread → Phase) (s : State) (t : Thread) (c : Call) (r : Reply c)
    (hJ : Accounts ph s) (hc : (monitors t).allows (ph t) c) (hr : possible s c r) :
    (monitors t).answers (ph t) c r ∧
      Accounts (Function.update ph t ((monitors t).next (ph t) c r)) (effect s c r) := by
  obtain ⟨ht, hb⟩ := hJ
  unfold Accounts
  cases t with
  | wind =>
    rw [Function.update_self]
    exact ⟨trivial, hb.wind_step ht hc hr⟩
  | anemometer =>
    cases hc
    rw [Function.update_of_ne (by decide)]
    exact ⟨trivial, hb.pulse_step ht hr⟩
  | clock =>
    cases hc
    rw [Function.update_of_ne (by decide)]
    exact ⟨trivial, hb.tick_step ht⟩

variable {now : Nat} {interval : UInt16} {p : Pool Thread Call Reply Label State}

theorem initial_inv (now : Nat) (interval : UInt16) :
    System.Inv monitors Continues Accounts (initial now interval) := by
  refine ⟨fun _ => .starting, fun t => ?_, rfl, ?_⟩
  · cases t with
    | wind => rfl
    | anemometer | clock => trivial
  · exact ⟨rfl, Nat.le_refl now, Nat.le_refl now⟩

theorem reachable_inv (h : system.Reachable (initial now interval) p) :
    System.Inv monitors Continues Accounts p :=
  h.invariant (fun t l φ => code_follows t l φ) accounts_call (initial_inv now interval)

/-! ## When the samples are right -/

/-- The pulses so far are in the samples and in the count, each once, and a
sample divides by the true time since the last reading of the one before. -/
structure Accounted (p : Pool Thread Call Reply Label State) : Prop where
  pulses : p.shared.counted + p.shared.windSpeedCount.toNat = p.shared.pulses
  time : ∀ count time, p.AboutTo .wind (.windSpeed count time) →
    time ≠ 0 ∧ time.toNat = p.shared.reading - p.shared.previous

/-- Two readings of the clock, in true time, between which the 16-bit clock has
moved but not wrapped. The alternative is a wait of almost 50 days, after which
the borrow of the subtraction meets the wrap of the `uint32_t`. -/
def Measurable (previous reading : Nat) : Prop :=
  previous < reading ∧
    (reading / 2 ^ 16 = previous / 2 ^ 16 ∨
      reading % 2 ^ 16 < previous % 2 ^ 16 ∧ 2 ^ 32 < reading - previous + 2 ^ 16 ∧
        reading - previous < 2 ^ 32)

theorem elapsed_toNat (reading previous : Nat) :
    (elapsed (UInt16.ofNat reading) (UInt16.ofNat previous)).toNat =
      (2 ^ 32 - previous % 2 ^ 16 + reading % 2 ^ 16) % 2 ^ 32 := by
  simp only [elapsed, UInt32.toNat_sub, UInt16.toNat_toUInt32, UInt16.toNat_ofNat']

theorem elapsed_iff {reading previous : Nat} (h : previous ≤ reading) :
    (elapsed (UInt16.ofNat reading) (UInt16.ofNat previous) ≠ 0 ∧
        (elapsed (UInt16.ofNat reading) (UInt16.ofNat previous)).toNat = reading - previous) ↔
      Measurable previous reading := by
  have hzero : ∀ n : UInt32, n ≠ 0 ↔ n.toNat ≠ 0 := fun n => by
    rw [ne_eq, ← UInt32.toNat_inj, UInt32.toNat_zero]
  rw [hzero, elapsed_toNat, Measurable]
  omega

/-- In every run, whatever the waits, the samples are right in a state if and
only if the count has not wrapped and the clock has moved and not wrapped
between the two readings of a sample that is about to divide. -/
theorem accounted_iff (h : system.Reachable (initial now interval) p) :
    Accounted p ↔
      p.shared.overflows = 0 ∧
        ∀ count time, p.AboutTo .wind (.windSpeed count time) →
          Measurable p.shared.previous p.shared.reading := by
  have hinv := reachable_inv h
  have htime : ∀ count time, p.AboutTo .wind (.windSpeed count time) →
      (time ≠ 0 ∧ time.toNat = p.shared.reading - p.shared.previous ↔
        Measurable p.shared.previous p.shared.reading) := by
    intro count time hc
    obtain ⟨ph, hallow, ht, hb⟩ := hinv.allows hc
    generalize ph .wind = φ at hallow ht
    cases hallow with
    | divide last now' n =>
      obtain ⟨-, rfl, rfl, -⟩ := ht
      exact elapsed_iff hb.previous
  obtain ⟨ph, -, -, hb⟩ := hinv
  have hpulses := hb.pulses
  constructor
  · rintro ⟨hp, ht⟩
    refine ⟨by omega, fun count time hc => ?_⟩
    exact (htime count time hc).mp (ht count time hc)
  · rintro ⟨ho, hm⟩
    refine ⟨by omega, fun count time hc => ?_⟩
    exact (htime count time hc).mpr (hm count time hc)

/-- The run up to the first division: the thread reads the clock at `now`, the
clock ticks, pulses come, and it reads the clock again. -/
def firstSample (now : Nat) (ticks : Nat) (pulses : Nat) :
    List (Thread × (c : Call) × Reply c) :=
  [(.wind, ⟨.registerSchedule hwId, ()⟩), (.wind, ⟨.setHwStatus .unknown, ()⟩),
    (.wind, ⟨.registerHw hwId, ()⟩), (.wind, ⟨.palEnableLineEvent .wind, ()⟩),
    (.wind, ⟨.palSetLineCallback .wind, ()⟩), (.wind, ⟨.chVTGetSystemTime, .ofNat now⟩),
    (.wind, ⟨.windSpeedCount, (0 : UInt32)⟩)] ++
  List.replicate ticks (.clock, ⟨.tick, ()⟩) ++
  List.replicate pulses (.anemometer, ⟨.windPulse, ()⟩) ++
  [(.wind, ⟨.chSysLock, ()⟩), (.wind, ⟨.chVTGetSystemTime, .ofNat (now + ticks)⟩),
    (.wind, ⟨.windSpeedCount, .ofNat pulses⟩)]

/-- Two pulses in the three milliseconds before the first sample. -/
theorem accounted_iff_threeTicks :
    ∃ p, system.Reachable (initial 100 300) p ∧ p.AboutTo .wind (.windSpeed 2 3) ∧
      Accounted p := by
  obtain ⟨p, hp, hf⟩ := System.Reachable.exists_of_playAll system (initial 100 300)
    (firstSample 100 3 2)
    (fun p => (p.nextCall .wind, p.shared.overflows, p.shared.previous, p.shared.reading))
    (b := (some (.windSpeed 2 3), 0, 100, 103)) (by decide +kernel)
  simp only [Prod.mk.injEq] at hf
  obtain ⟨hnext, ho, hprev, hread⟩ := hf
  refine ⟨p, hp, Pool.aboutTo_of_nextCall hnext, ?_⟩
  refine (accounted_iff hp).mpr ⟨ho, fun _ _ _ => ?_⟩
  rw [hprev, hread, Measurable]
  omega

/-- The first turn of the loop can divide by zero. One that starts in the last
millisecond before the clock wraps divides by `2 ^ 32 - 65535` after 1 ms. -/
theorem first_sample_misses_time :
    (∃ p, system.Reachable (initial 100 300) p ∧ p.AboutTo .wind (.windSpeed 0 0) ∧
      ¬ Accounted p) ∧
    (∃ p, system.Reachable (initial 65535 300) p ∧ p.AboutTo .wind (.windSpeed 1 4294901761) ∧
      p.shared.reading - p.shared.previous = 1 ∧ ¬ Accounted p) := by
  constructor
  · obtain ⟨p, hp, hnext⟩ := System.Reachable.exists_of_playAll system (initial 100 300)
      (firstSample 100 0 0) (fun p => p.nextCall .wind) (b := some (.windSpeed 0 0))
      (by decide +kernel)
    have hc := Pool.aboutTo_of_nextCall hnext
    exact ⟨p, hp, hc, fun h => absurd rfl (h.time 0 0 hc).1⟩
  · obtain ⟨p, hp, hf⟩ := System.Reachable.exists_of_playAll system (initial 65535 300)
      (firstSample 65535 1 1) (fun p => (p.nextCall .wind, p.shared.reading - p.shared.previous))
      (b := (some (.windSpeed 1 4294901761), 1)) (by decide +kernel)
    simp only [Prod.mk.injEq] at hf
    obtain ⟨hnext, htrue⟩ := hf
    have hc := Pool.aboutTo_of_nextCall hnext
    refine ⟨p, hp, hc, htrue, fun h => ?_⟩
    have := (h.time 1 4294901761 hc).2
    rw [htrue] at this
    exact absurd this (by decide)

end MeteoL053.Wind
