import MeteoL053.Bmp280.Thread
import MeteoL053.Bus.Run

/-!
When `BMP280_init` ends. All of it but the loop that waits for the NVM copy is
straight-line code; the loop is left when the driver is found not READY or when
the status register is read without its `im_update` bit.
-/

namespace MeteoL053.Bmp280

open CallTree Bus

/-! ## The straight-line parts -/

theorem readRegisters_total (dev : Handle)
    (regs : List (UInt8 × (Calibration → UInt16 → Calibration))) (cal : Calibration) :
    (readRegisters dev regs cal).Total := by
  induction regs generalizing cal with
  | nil => trivial
  | cons reg regs ih =>
    intro r
    cases r with
    | none => trivial
    | some v => exact ih _

theorem readHumCalibrationData_total (dev : Handle) (cal : Calibration) :
    (readHumCalibrationData dev cal).Total := by
  -- one case for each of the six reads
  rintro (_ | h1)
  · trivial
  rintro (_ | h2)
  · trivial
  rintro (_ | h3)
  · trivial
  rintro (_ | h4)
  · trivial
  rintro (_ | h5)
  · trivial
  rintro (_ | h6)
  · trivial
  · trivial

theorem loadCalibration_total (dev : Handle) : (loadCalibration dev).Total := by
  apply Prog.total_bind (readRegisters_total dev _ _)
  rintro ⟨ok, cal⟩
  cases ok with
  | false => trivial
  | true =>
    dsimp only
    split
    · trivial
    · split
      · exact Prog.total_bind (readHumCalibrationData_total dev cal) fun _ => trivial
      · trivial

theorem writeControl_total (dev : Handle) : (writeControl dev).Total := by
  unfold writeControl
  dsimp only
  split
  · intro failed
    cases failed with
    | false => exact fun _ => trivial
    | true => trivial
  · exact fun _ => trivial

theorem configure_total (dev : Handle) : (configure dev).Total := by
  intro failed
  cases failed with
  | false =>
    change Prog.Total (writeControl _ >>= _)
    exact Prog.total_bind (writeControl_total _) fun _ => trivial
  | true => trivial

/-! ## The wait loop -/

/-- One turn of the loop. -/
def copyTurn (dev : Handle) (_ : Unit) : Fw (Unit ⊕ Bool) := do
  if (← ask .i2cState) ≠ I2cState.ready then
    return .inr false
  match ← readData dev regStatus 1 with
  | some status => if status.getD 0 0 &&& 1 = 0 then return .inr true else return .inl ()
  | none => return .inl ()

theorem waitCopied_eq (dev : Handle) (fuel : Nat) :
    waitCopied dev fuel = repeatUntil (copyTurn dev) fuel () := by
  induction fuel with
  | zero => rfl
  | succ fuel ih =>
    rw [waitCopied, repeatUntil, copyTurn]
    simp only [Prog.perform_bind, Prog.call_bind]
    refine congrArg (Prog.call _) (funext fun state => ?_)
    split
    · rfl
    · refine congrArg (Prog.call _) (funext fun data => ?_)
      cases data with
      | none => exact ih
      | some status =>
        dsimp only
        split
        · rfl
        · exact ih

section Loop

variable (env : Env) (dev : Handle)

/-- The read of the status register. -/
abbrev statusRead : Call := .busOp (.bmp280ReadData dev.addr regStatus 1)

/-- A turn that starts in `w` leaves the loop: the driver is not READY, or the
status is read and the copy is over. -/
def CopyEnds (w : World) : Prop :=
  w.reply env .i2cState ≠ I2cState.ready ∨
    ∃ status : List UInt8, (w.after env .i2cState).reply env (statusRead dev) = some status ∧
      status.getD 0 0 &&& 1 = 0

/-- The world after a turn that goes on. -/
def copyNext (w : World) : World := (w.after env .i2cState).after env (statusRead dev)

/-- The result of a turn that leaves the loop. -/
def copyExit (x : Unit × World) : Option (Bool × World) :=
  if x.2.reply env .i2cState ≠ I2cState.ready then some (false, x.2.after env .i2cState)
  else
    match (x.2.after env .i2cState).reply env (statusRead dev) with
    | some status =>
      if List.getD status 0 0 &&& 1 = 0 then some (true, copyNext env dev x.2) else none
    | none => none

theorem copyExit_ne_none_iff (x : Unit × World) :
    copyExit env dev x ≠ none ↔ CopyEnds env dev x.2 := by
  by_cases hstate : x.2.reply env .i2cState ≠ I2cState.ready
  · rw [copyExit, if_pos hstate]
    exact ⟨fun _ => .inl hstate, fun _ => nofun⟩
  · rw [copyExit, if_neg hstate]
    cases hs : (x.2.after env .i2cState).reply env (statusRead dev) with
    | none =>
      refine ⟨fun h => absurd rfl h, ?_⟩
      rintro (h | ⟨status, hread, -⟩)
      · exact absurd h hstate
      · cases hs.symm.trans hread
    | some status =>
      dsimp only
      split
      · next hbit => exact ⟨fun _ => .inr ⟨status, hs, hbit⟩, fun _ => nofun⟩
      · next hbit =>
        refine ⟨fun h => absurd rfl h, ?_⟩
        rintro (h | ⟨status', hread, hbit'⟩)
        · exact absurd h hstate
        · cases hs.symm.trans hread
          exact absurd hbit' hbit

theorem copyTurn_turnsBy :
    TurnsBy (answer env) (copyTurn dev) (copyExit env dev)
      (fun x => ((), copyNext env dev x.2)) := by
  intro u w
  have hrun : (copyTurn dev u).run (answer env) w =
      (if w.reply env .i2cState ≠ I2cState.ready then .ret (.inr false)
      else readData dev regStatus 1 >>= fun
        | some status => if status.getD 0 0 &&& 1 = 0 then .ret (.inr true) else .ret (.inl ())
        | none => .ret (.inl ()) : Fw (Unit ⊕ Bool)).run (answer env) (w.after env .i2cState) := rfl
  rw [hrun, copyExit]
  by_cases hstate : w.reply env .i2cState ≠ I2cState.ready
  · rw [if_pos hstate, if_pos hstate]
    rfl
  · have hread : (readData dev regStatus 1).run (answer env) (w.after env .i2cState) =
        some ((w.after env .i2cState).reply env (statusRead dev), copyNext env dev w) := rfl
    rw [if_neg hstate, if_neg hstate, Prog.run_bind_of hread]
    cases (w.after env .i2cState).reply env (statusRead dev) with
    | none => rfl
    | some status =>
      dsimp only
      split
      · rfl
      · rfl

/-- The loop ends if and only if one of its turns leaves it. -/
theorem waitCopied_ends_iff (w : World) :
    (∃ fuel y, (waitCopied dev fuel).run (answer env) w = some y) ↔
      ∃ k, CopyEnds env dev ((copyNext env dev)^[k] w) := by
  constructor
  · rintro ⟨fuel, y, hrun⟩
    rw [waitCopied_eq] at hrun
    obtain ⟨k, -, -, hexit⟩ := (repeatUntil_run_iff (copyTurn_turnsBy env dev)).mp hrun
    rw [iterate_world] at hexit
    have hne : copyExit env dev ((), (copyNext env dev)^[k] w) ≠ none := by
      rw [hexit]
      exact Option.some_ne_none y
    exact ⟨k, (copyExit_ne_none_iff env dev _).mp hne⟩
  · rintro ⟨k, hends⟩
    have hexit : copyExit env dev ((fun x => ((), copyNext env dev x.2))^[k] ((), w)) ≠ none := by
      rw [iterate_world]
      exact (copyExit_ne_none_iff env dev _).mpr hends
    obtain ⟨k', -, hbefore, hfirst⟩ := exists_first_exit hexit
    obtain ⟨y, hy⟩ := Option.ne_none_iff_exists'.mp hfirst
    refine ⟨k' + 1, y, ?_⟩
    rw [waitCopied_eq]
    exact (repeatUntil_run_iff (copyTurn_turnsBy env dev)).mpr
      ⟨k', Nat.lt_succ_self k', hbefore, hy⟩

end Loop

/-! ## `BMP280_init` -/

section Init

variable (env : Env) (dev : Handle) (w : World)

/-- The read of the chip id and the write of the soft reset. -/
abbrev idRead : Call := .busOp (.bmp280ReadData dev.addr regId 1)

abbrev resetWrite : Call := .busOp (.bmp280WriteRegister8 dev.addr regReset resetValue)

/-- The handle and the world in which the loop starts, `none` when the function
returns before it: because of the chip id or the reset, and then the read of
the id and the address before those. -/
def resetStart : Option (Handle × World) :=
  if dev.id ≠ bmp280ChipId ∧ dev.id ≠ bme280ChipId then none
  else if w.reply env (resetWrite dev) = true then none
  else some (dev, w.after env (resetWrite dev))

def probeStart : Option (Handle × World) :=
  match w.reply env (idRead dev) with
  | none => none
  | some id => resetStart env { dev with id := List.getD id 0 0 } (w.after env (idRead dev))

def waitStart : Option (Handle × World) :=
  if dev.addr ≠ i2cAddress0 ∧ dev.addr ≠ i2cAddress1 then none
  else probeStart env dev (w.after env (.enter .bmp280Init))

/-- The part of `BMP280_init` behind the loop. -/
def afterWait (copied : Bool) : Fw (Bool × Handle) := do
  if !copied then
    return (false, dev)
  let (ok, dev) ← loadCalibration dev
  if !ok then
    return (false, dev)
  configure dev

theorem afterWait_total (copied : Bool) : (afterWait dev copied).Total := by
  cases copied with
  | false => trivial
  | true =>
    change Prog.Total (loadCalibration dev >>= _)
    apply Prog.total_bind (loadCalibration_total dev)
    rintro ⟨ok, dev'⟩
    cases ok with
    | false => trivial
    | true => exact configure_total dev'

theorem reset_ends_of_fuel_iff (fuel : Nat) :
    (∃ y, (do
        if ← writeRegister8 dev regReset resetValue then
          return (false, dev)
        let copied ← waitCopied dev fuel
        afterWait dev copied : Fw (Bool × Handle)).run (answer env) w = some y) ↔
      ∀ dev' w', (if w.reply env (resetWrite dev) = true then none
          else some (dev, w.after env (resetWrite dev))) = some (dev', w') →
        ∃ y, (waitCopied dev' fuel).run (answer env) w' = some y := by
  have hwrite : (writeRegister8 dev regReset resetValue).run (answer env) w =
      some (w.reply env (resetWrite dev), w.after env (resetWrite dev)) := rfl
  rw [Prog.run_bind_of hwrite]
  cases w.reply env (resetWrite dev) with
  | true => exact ⟨fun _ dev' w' h => (nomatch h), fun _ => ⟨_, rfl⟩⟩
  | false =>
    refine Iff.trans (Prog.exists_run_bind_iff (afterWait_total dev)) ?_
    constructor
    · rintro h dev' w' ⟨⟩
      exact h
    · intro h
      exact h dev _ rfl

theorem probe_ends_of_fuel_iff (fuel : Nat) :
    (∃ y, (probe fuel dev).run (answer env) w = some y) ↔
      ∀ dev' w', probeStart env dev w = some (dev', w') →
        ∃ y, (waitCopied dev' fuel).run (answer env) w' = some y := by
  have hread : (readData dev regId 1).run (answer env) w =
      some (w.reply env (idRead dev), w.after env (idRead dev)) := rfl
  rw [probe, Prog.run_bind_of hread, probeStart]
  cases w.reply env (idRead dev) with
  | none => exact ⟨fun _ dev' w' h => (nomatch h), fun _ => ⟨_, rfl⟩⟩
  | some id =>
    dsimp only
    unfold resetStart
    dsimp only
    split
    · exact ⟨fun _ dev' w' h => (nomatch h), fun _ => ⟨_, rfl⟩⟩
    · exact reset_ends_of_fuel_iff env { dev with id := List.getD id 0 0 } _ fuel

/-- The return of `BMP280_init`. -/
def leaveInit : Bool × Handle → Fw (Bool × Handle)
  | (ok, dev) => do
    ask (.leave .bmp280Init ok)
    return (ok, dev)

theorem init_ends_of_fuel_iff (fuel : Nat) :
    (∃ y, (init fuel dev).run (answer env) w = some y) ↔
      ∀ dev' w', waitStart env dev w = some (dev', w') →
        ∃ y, (waitCopied dev' fuel).run (answer env) w' = some y := by
  have hrun : (init fuel dev).run (answer env) w =
      (if dev.addr ≠ i2cAddress0 ∧ dev.addr ≠ i2cAddress1 then leaveInit (false, dev)
        else probe fuel dev >>= leaveInit).run (answer env) (w.after env (.enter .bmp280Init)) := rfl
  rw [hrun, waitStart]
  by_cases haddr : dev.addr ≠ i2cAddress0 ∧ dev.addr ≠ i2cAddress1
  · rw [if_pos haddr, if_pos haddr]
    exact ⟨fun _ dev' w' h => (nomatch h), fun _ => ⟨_, rfl⟩⟩
  · have hleave : ∀ r, (leaveInit r).Total := fun _ _ => trivial
    rw [if_neg haddr, if_neg haddr, Prog.exists_run_bind_iff hleave]
    exact probe_ends_of_fuel_iff env dev _ fuel

theorem copyEnds_of_init_run {fuel : Nat} {y : (Bool × Handle) × World} {dev' : Handle}
    {w' : World} (hrun : (init fuel dev).run (answer env) w = some y)
    (hstart : waitStart env dev w = some (dev', w')) :
    ∃ k, CopyEnds env dev' ((copyNext env dev')^[k] w') := by
  obtain ⟨x, hx⟩ := (init_ends_of_fuel_iff env dev w fuel).mp ⟨y, hrun⟩ dev' w' hstart
  exact (waitCopied_ends_iff env dev' w').mp ⟨fuel, x, hx⟩

/-- For every sequence of bus outcomes and register contents: `BMP280_init`
ends if and only if it returns before its loop or a turn of the loop finds the
driver not READY or the copy over. -/
theorem init_ends_iff :
    (∃ fuel y, (init fuel dev).run (answer env) w = some y) ↔
      ∀ dev' w', waitStart env dev w = some (dev', w') →
        ∃ k, CopyEnds env dev' ((copyNext env dev')^[k] w') := by
  constructor
  · rintro ⟨fuel, y, hrun⟩ dev' w' hstart
    exact copyEnds_of_init_run env dev w hrun hstart
  · intro h
    cases hstart : waitStart env dev w with
    | none =>
      refine ⟨0, (init_ends_of_fuel_iff env dev w 0).mpr ?_⟩
      intro dev' w' h'
      cases hstart.symm.trans h'
    | some x =>
      obtain ⟨fuel, hfuel⟩ := (waitCopied_ends_iff env x.1 x.2).mpr (h x.1 x.2 hstart)
      refine ⟨fuel, (init_ends_of_fuel_iff env dev w fuel).mpr ?_⟩
      intro dev' w' h'
      cases hstart.symm.trans h'
      exact hfuel

end Init

/-- A BMP280 that gives its id, acknowledges the soft reset and no read after
it; the driver stays READY. -/
def gone : Env where
  delay _ := 0
  reply _ c :=
    match c with
    | .i2cState => I2cState.ready
    | .busOp (.bmp280ReadData _ addr _) => if addr = regId then some [bmp280ChipId] else none
    | .busOp (.bmp280WriteRegister8 ..) => false
    | c => anyReply c

/-- Initialising such a device never ends. -/
theorem init_waits_for_ever :
    (waitStart gone initialHandle ⟨0, []⟩).isSome = true ∧
      ∀ fuel, (init fuel initialHandle).run (answer gone) ⟨0, []⟩ = none := by
  refine ⟨rfl, fun fuel => ?_⟩
  rw [Option.eq_none_iff_forall_ne_some]
  intro y hy
  obtain ⟨k, hready | ⟨status, hread, -⟩⟩ := copyEnds_of_init_run gone initialHandle ⟨0, []⟩ hy rfl
  · exact hready rfl
  · cases hread

end MeteoL053.Bmp280
