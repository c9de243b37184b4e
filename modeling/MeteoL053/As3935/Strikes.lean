import MeteoL053.As3935.Thread
import MeteoL053.Bus.Frames

/-!
Which interrupts of the lightning sensor lead to a frame. The thread compares
the distance and the energy with 0xFF, the value of a failed register read, but
only after the getters have masked and assembled what was read: no distance is
0xFF, and an energy of 0xFF is one that the sensor can report.
-/

namespace MeteoL053.As3935

open CallTree

/-- What the five register reads of an iteration bring; nothing is a failed
check or transfer. -/
structure Reads where
  source : Option UInt8
  distance : Option UInt8
  mmsb : Option UInt8
  msb : Option UInt8
  lsb : Option UInt8
  deriving DecidableEq

/-- What `AS3935_I2C__sing_reg_read` returns. -/
def orOnes (r : Option UInt8) : UInt8 := r.getD 0xFF

namespace Reads

variable (r : Reads)

/-- The source of the interrupt was read and is lightning. -/
def Lightning : Prop := ∃ v, r.source = some v ∧ v &&& 0x0F = 0x08

/-- The reads after that of the source succeeded. -/
def StrikeRead : Prop := r.distance ≠ none ∧ r.mmsb ≠ none ∧ r.msb ≠ none ∧ r.lsb ≠ none

/-- The three bytes of the energy, 0xFF for a failed read, make up 0xFF. -/
def EnergyOnes : Prop :=
  orOnes r.mmsb &&& 0x1F = 0 ∧ orOnes r.msb = 0 ∧ orOnes r.lsb = 0xFF

/-- The energy the getter assembles. -/
def energy : UInt32 := strikeEnergy (orOnes r.mmsb) (orOnes r.msb) (orOnes r.lsb)

end Reads

/-! ## The values -/

theorem interruptSource_eq_one_iff (r : Reads) :
    interruptSource (orOnes r.source) = 1 ↔ r.Lightning := by
  unfold Reads.Lightning
  cases r.source with
  | none => exact iff_of_false (by decide) fun ⟨_, h, _⟩ => nomatch h
  | some v =>
    unfold interruptSource orOnes
    split
    · simp_all
    · split
      · simp_all
      · split <;> simp_all

/-- The mask of the distance hides a failed read. -/
theorem distanceKm_ne (reg : UInt8) : distanceKm reg ≠ 0xFF := by
  intro h
  have hle : (reg &&& 0x3F).toNat ≤ 0x3F := by
    rw [UInt8.toNat_and]
    exact Nat.and_le_right
  rw [show reg &&& 0x3F = 0xFF from h] at hle
  exact absurd hle (by decide)

theorem shiftLeft_or_toNat {a : UInt32} (ha : a.toNat < 2 ^ 24) (b : UInt8) :
    (a <<< 8 ||| b.toUInt32).toNat = a.toNat * 256 + b.toNat := by
  have hb : b.toNat < 2 ^ 8 := b.toNat_lt
  have hshift : (a <<< 8).toNat = a.toNat <<< 8 := by
    have height : UInt32.toNat 8 % 32 = 8 := rfl
    rw [UInt32.toNat_shiftLeft, height, Nat.shiftLeft_eq]
    omega
  rw [UInt32.toNat_or, hshift, UInt8.toNat_toUInt32, ← Nat.shiftLeft_add_eq_or_of_lt hb,
    Nat.shiftLeft_eq]

theorem strikeEnergy_toNat (mmsb msb lsb : UInt8) :
    (strikeEnergy mmsb msb lsb).toNat =
      (mmsb &&& 0x1F).toNat * 65536 + msb.toNat * 256 + lsb.toNat := by
  have hm : (mmsb &&& 0x1F).toNat < 2 ^ 8 := UInt8.toNat_lt _
  have hb : msb.toNat < 2 ^ 8 := msb.toNat_lt
  have hinner := shiftLeft_or_toNat (a := (mmsb &&& 0x1F).toUInt32)
    (by rw [UInt8.toNat_toUInt32]; omega) msb
  rw [UInt8.toNat_toUInt32] at hinner
  rw [strikeEnergy, shiftLeft_or_toNat (by omega), hinner]
  omega

theorem energy_eq_ones_iff (r : Reads) : r.energy = 0xFF ↔ r.EnergyOnes := by
  have hmsb : (orOnes r.msb).toNat < 2 ^ 8 := UInt8.toNat_lt _
  have hlsb : (orOnes r.lsb).toNat < 2 ^ 8 := UInt8.toNat_lt _
  unfold Reads.energy Reads.EnergyOnes
  rw [← UInt32.toNat_inj, strikeEnergy_toNat, ← UInt8.toNat_inj, ← UInt8.toNat_inj,
    ← UInt8.toNat_inj]
  simp only [UInt32.reduceToNat, UInt8.reduceToNat]
  omega

/-! ## The reads -/

section Runs

variable {D : Type} (x : Bus.Wiring D) (dev : UInt8) (s : Bus.Site D)

/-- The read of a register that starts in `s`. -/
def readAt (reg : UInt8) : Option UInt8 :=
  if x.outcome s dev [reg] 1 = .done then some ((x.sent s dev [reg] 1).getD 0 0) else none

def afterRead (reg : UInt8) : Bus.Site D :=
  x.pass (x.after s dev [reg] 1) (.opDone (.as3935Read dev reg) (orOnes (readAt x dev s reg)))

theorem singRegRead_run (reg : UInt8) :
    (Bus.expand (singRegRead dev reg)).run x.answer s =
      some (orOnes (readAt x dev s reg), afterRead x dev s reg) := by
  have hread : (Bus.as3935Read dev reg).run x.answer s =
      some (orOnes (readAt x dev s reg), x.after s dev [reg] 1) := by
    rw [Bus.as3935Read, x.checkedOp_run s dev [reg] 1 (fun msg rx hmsg => if_neg hmsg), readAt,
      if_pos rfl]
    cases x.outcome s dev [reg] 1 <;> rfl
  exact x.expand_busOp_run s (.as3935Read dev reg) hread

def afterReads (regs : List UInt8) : Bus.Site D := regs.foldl (afterRead x dev) s

/-- The thread waits before it reads the source. -/
def rested : Bus.Site D := x.pass s (.chThdSleepMilliseconds 10)

/-- The reads of an iteration that starts to serve in `s`. -/
def reads : Reads where
  source := readAt x dev (rested x s) 0x03
  distance := readAt x dev (afterReads x dev (rested x s) [0x03]) 0x07
  mmsb := readAt x dev (afterReads x dev (rested x s) [0x03, 0x07]) 0x06
  msb := readAt x dev (afterReads x dev (rested x s) [0x03, 0x07, 0x06]) 0x05
  lsb := readAt x dev (afterReads x dev (rested x s) [0x03, 0x07, 0x06, 0x05]) 0x04

theorem getInterruptSrc_run :
    (Bus.expand (getInterruptSrc dev)).run x.answer s =
      some (interruptSource (orOnes (readAt x dev (rested x s) 0x03)),
        afterRead x dev (rested x s) 0x03) := by
  have hrest : (Bus.expand (getInterruptSrc dev)).run x.answer s =
      (Bus.expand (singRegRead dev 0x03 >>= fun reg => pure (interruptSource reg))).run x.answer
        (rested x s) := rfl
  rw [hrest, Bus.expand_bind, Prog.run_bind_of (singRegRead_run x dev _ 0x03)]
  rfl

theorem getLightningDistKm_run :
    (Bus.expand (getLightningDistKm dev)).run x.answer s =
      some (distanceKm (orOnes (readAt x dev s 0x07)), afterRead x dev s 0x07) := by
  rw [getLightningDistKm, Bus.expand_bind, Prog.run_bind_of (singRegRead_run x dev s 0x07)]
  rfl

theorem getStrikeEnergyRaw_run :
    (Bus.expand (getStrikeEnergyRaw dev)).run x.answer s =
      some (strikeEnergy (orOnes (readAt x dev s 0x06))
          (orOnes (readAt x dev (afterReads x dev s [0x06]) 0x05))
          (orOnes (readAt x dev (afterReads x dev s [0x06, 0x05]) 0x04)),
        afterReads x dev s [0x06, 0x05, 0x04]) := by
  rw [getStrikeEnergyRaw, Bus.expand_bind, Prog.run_bind_of (singRegRead_run x dev s 0x06),
    Bus.expand_bind, Prog.run_bind_of (singRegRead_run x dev _ 0x05),
    Bus.expand_bind, Prog.run_bind_of (singRegRead_run x dev _ 0x04)]
  rfl

def lastRead : Bus.Site D := afterReads x dev (rested x s) [0x03, 0x07, 0x06, 0x05, 0x04]

/-- The three getters one after the other. -/
theorem getters_run {α : Type} (k : UInt8 → UInt8 → UInt32 → Fw α) :
    (Bus.expand (getInterruptSrc dev >>= fun interruptSrc => getLightningDistKm dev >>=
      fun distance => getStrikeEnergyRaw dev >>= fun energy =>
        k interruptSrc distance energy)).run x.answer s =
      (Bus.expand (k (interruptSource (orOnes (reads x dev s).source))
        (distanceKm (orOnes (reads x dev s).distance)) (reads x dev s).energy)).run x.answer
          (lastRead x dev s) := by
  rw [Bus.expand_bind, Prog.run_bind_of (getInterruptSrc_run x dev s),
    Bus.expand_bind, Prog.run_bind_of (getLightningDistKm_run x dev _),
    Bus.expand_bind, Prog.run_bind_of (getStrikeEnergyRaw_run x dev _)]
  simp only [reads, Reads.energy, lastRead, afterReads, List.foldl_cons, List.foldl_nil]

/-! ## The frame -/

/-- The getters fill no buffer. -/
theorem lastRead_seen :
    (lastRead x dev s).world.seen Bus.stored = s.world.seen Bus.stored := by
  have hrun := getters_run x dev s fun _ _ _ => (pure () : Fw Unit)
  apply x.run_seen _ hrun
  apply Bus.expand_all _ Bus.stored_busCall fun _ _ => rfl
  refine ⟨rfl, fun _ => ⟨rfl, fun _ => ⟨rfl, fun _ => ?_⟩⟩⟩
  exact ⟨rfl, fun _ => ⟨rfl, fun _ => ⟨rfl, fun _ => trivial⟩⟩⟩

/-- The arguments of the frame. -/
def Reads.args (r : Reads) : List UInt32 :=
  [1, (distanceKm (orOnes r.distance)).toUInt32, r.energy]

/-- A frame with what `r` makes up is built on the way from `s` to `s'`. -/
def Builds (r : Reads) (s s' : Bus.Site D) : Prop :=
  ∃ o obj v, Msp.createMspFrame obj hwId r.args = some v ∧
    s'.world.seen Bus.stored = (o, v) :: s.world.seen Bus.stored

theorem publish_ends (r : Reads) (status : HwStatus)
    (hfree : ∀ w : Bus.World, w.reply x.env .chPoolAlloc ≠ none) :
    (Bus.expand (publish (interruptSource (orOnes r.source)) (distanceKm (orOnes r.distance))
      r.energy status)).Ends x.answer s fun _ s' =>
        (r.Lightning ∧ ¬ r.EnergyOnes → Builds r s s') ∧
        (¬ (r.Lightning ∧ ¬ r.EnergyOnes) → s'.world.seen Bus.stored = s.world.seen Bus.stored) := by
  have hcond : (interruptSource (orOnes r.source) = 0x01 ∧ distanceKm (orOnes r.distance) ≠ 0xFF ∧
      r.energy ≠ 0xFF) ↔ r.Lightning ∧ ¬ r.EnergyOnes := by
    rw [← interruptSource_eq_one_iff, ← energy_eq_ones_iff]
    simp only [distanceKm_ne, ne_eq, not_false_eq_true, true_and]
  unfold publish
  by_cases hsend : r.Lightning ∧ ¬ r.EnergyOnes
  · rw [if_pos (hcond.mpr hsend), (hcond.mpr hsend).1]
    let shown := x.pass (x.pass (x.pass (x.pass s (.setHwValue 0 1))
      (.setHwValue 1 (distanceKm (orOnes r.distance)).toUInt32)) (.setHwValue 2 r.energy))
      (.setHwStatus .ok)
    have hshown : shown.world.seen Bus.stored = s.world.seen Bus.stored := rfl
    change (Bus.expand (Stream.sendReading hwId r.args >>= fun _ => pure HwStatus.ok)).Ends
      x.answer shown _
    rw [Bus.expand_bind]
    apply Prog.ends_bind
    obtain ⟨_, s', hrun, hstored⟩ := Bus.sendReading_ends x shown hwId r.args (by simp [Reads.args])
    obtain ⟨o, ho⟩ := Option.ne_none_iff_exists'.mp (hfree shown.world)
    rw [ho, hshown] at hstored
    obtain ⟨obj, v, hv, hstored⟩ := hstored
    exact ⟨(), s', hrun, .ok, s', rfl, fun _ => ⟨o, obj, v, hv, hstored⟩, fun h => absurd hsend h⟩
  · rw [if_neg fun h => hsend (hcond.mp h)]
    exact ⟨status, s, rfl, fun h => absurd h hsend, fun _ => rfl⟩

/-- An iteration builds the frame of its reads for lightning with an energy other than 0xFF. -/
theorem serve_ends (status : HwStatus)
    (hfree : ∀ w : Bus.World, w.reply x.env .chPoolAlloc ≠ none) :
    (Bus.expand (serve dev status)).Ends x.answer s fun _ s' =>
      ((reads x dev s).Lightning ∧ ¬ (reads x dev s).EnergyOnes → Builds (reads x dev s) s s') ∧
      (¬ ((reads x dev s).Lightning ∧ ¬ (reads x dev s).EnergyOnes) →
        s'.world.seen Bus.stored = s.world.seen Bus.stored) := by
  have hserve : serve dev status =
      (getInterruptSrc dev >>= fun interruptSrc => getLightningDistKm dev >>= fun distance =>
        getStrikeEnergyRaw dev >>= fun energy =>
          publish interruptSrc distance energy status >>= fun status =>
            ask (.setInterruptCount 0) >>= fun _ => enableInterrupt >>= fun _ => pure status) := rfl
  have hlast := lastRead_seen x dev s
  unfold Prog.Ends
  rw [hserve, getters_run, Bus.expand_bind]
  obtain ⟨status', s', hrun, hsent, hnot⟩ :=
    publish_ends x (lastRead x dev s) (reads x dev s) status hfree
  rw [Builds, hlast] at hsent
  rw [hlast] at hnot
  rw [Prog.run_bind_of hrun]
  exact ⟨_, _, rfl, hsent, hnot⟩

end Runs

/-- For every register contents and every pattern of success or failure of the
five reads, with a free pool buffer: a frame is built exactly when all five reads
succeeded and the source is lightning, if and only if, when the source was read
and is lightning, the other reads succeed exactly when the energy bytes, 0xFF for
a failed read, do not make up 0xFF. A frame that is built has the values of its
reads. -/
theorem strike_frames_iff {D : Type} (x : Bus.Wiring D) (dev : UInt8) (s : Bus.Site D)
    (status : HwStatus) (hfree : ∀ w : Bus.World, w.reply x.env .chPoolAlloc ≠ none) :
    ∃ status' s', (Bus.expand (serve dev status)).run x.answer s = some (status', s') ∧
      (s'.world.seen Bus.stored ≠ s.world.seen Bus.stored → Builds (reads x dev s) s s') ∧
      ((s'.world.seen Bus.stored ≠ s.world.seen Bus.stored ↔
          (reads x dev s).Lightning ∧ (reads x dev s).StrikeRead) ↔
        ((reads x dev s).Lightning →
          ((reads x dev s).StrikeRead ↔ ¬ (reads x dev s).EnergyOnes))) := by
  obtain ⟨status', s', hrun, hsent, hnot⟩ := serve_ends x dev s status hfree
  have hbuilt : s'.world.seen Bus.stored ≠ s.world.seen Bus.stored ↔
      (reads x dev s).Lightning ∧ ¬ (reads x dev s).EnergyOnes := by
    constructor
    · intro hne
      exact Classical.byContradiction fun h => hne (hnot h)
    · intro h
      obtain ⟨o, obj, v, -, hstored⟩ := hsent h
      rw [hstored]
      exact List.cons_ne_self _ _
  refine ⟨status', s', hrun, fun hne => hsent (hbuilt.mp hne), ?_⟩
  rw [hbuilt, and_congr_right_iff]
  exact imp_congr_right fun _ => Iff.comm

/-- A sensor with these registers after lightning, a free buffer, and only the
`n`-th transfer of the iteration fails. -/
def strike (distance mmsb msb lsb : UInt8) (n : Nat) : Bus.Wiring Unit where
  env :=
    { (failsAt n).env with
      reply := fun past c =>
        match c with
        | .chPoolAlloc => some 0
        | .load _ => blank
        | c => (failsAt n).env.reply past c }
  transfer _ tx _ _ :=
    ([if tx = [0x03] then 0x08 else if tx = [0x07] then distance else if tx = [0x06] then mmsb
      else if tx = [0x05] then msb else lsb], ())
  reaches _ := false

/-- Before the first transfer. -/
def idleSite : Bus.Site Unit where
  world := ⟨0, []⟩
  device := ()
  tx := []
  rxBytes := 0

/-- The frames of an iteration, and the reads that failed. -/
def served (x : Bus.Wiring Unit) : Option (List (List UInt8) × Reads) :=
  ((Bus.expand (serve 0 .ok)).run x.answer idleSite).map fun r =>
    ((r.2.world.seen Bus.stored).map fun v => v.2.message.take 18, reads x 0 idleSite)

/-- A strike at 5 km whose distance cannot be read is sent as one at 63 km; one
with an energy of 0xFF is not sent though all reads succeed. -/
theorem strike_misreported :
    served (strike 5 1 2 3 2) =
      some ([Msp.frame hwId [1, 63, 0x010203]], ⟨some 8, none, some 1, some 2, some 3⟩) ∧
    served (strike 5 0 0 0xFF 0) =
      some ([], ⟨some 8, some 5, some 0, some 0, some 0xFF⟩) := by
  constructor <;> decide +kernel

theorem strike_frames_iff_allRead :
    (∀ w : Bus.World, w.reply (strike 5 1 2 3 0).env .chPoolAlloc ≠ none) ∧
    ∃ status' s', (Bus.expand (serve 0 .ok)).run (strike 5 1 2 3 0).answer idleSite =
        some (status', s') ∧
      (s'.world.seen Bus.stored ≠ idleSite.world.seen Bus.stored ↔
        (reads (strike 5 1 2 3 0) 0 idleSite).Lightning ∧
          (reads (strike 5 1 2 3 0) 0 idleSite).StrikeRead) := by
  have hfree : ∀ w : Bus.World, w.reply (strike 5 1 2 3 0).env .chPoolAlloc ≠ none :=
    fun _ => Option.some_ne_none 0
  obtain ⟨status', s', hrun, -, hiff⟩ := strike_frames_iff (strike 5 1 2 3 0) 0 idleSite .ok hfree
  have hreads : reads (strike 5 1 2 3 0) 0 idleSite =
      ⟨some 8, some 5, some 1, some 2, some 3⟩ := by decide +kernel
  refine ⟨hfree, status', s', hrun, hiff.mpr fun _ => ?_⟩
  rw [hreads]
  simp [Reads.StrikeRead, Reads.EnergyOnes, orOnes]

end MeteoL053.As3935
