import MeteoL053.Lib.Fields
import MeteoL053.Bmp280.Wait

/-!
Whether a forced measurement is complete when it is read. `BMP280_read_float`
polls the status register between the write that starts the measurement and the
read of its result, and a poll that fails ends the loop like one that finds the
measurement over.
-/

namespace MeteoL053.Bmp280

open CallTree Bus RegisterFile

/-! ## The loop -/

/-- One turn of the loop. -/
def measureTurn (dev : Handle) (start : UInt16) (_ : Unit) : Fw (Unit ⊕ Bool) := do
  if !(← isMeasuring dev) then
    return .inr true
  let now ← ask .chVTGetSystemTime
  if timeIsInRange now start (start + 2000) then return .inl () else return .inr false

theorem waitMeasured_eq (dev : Handle) (start : UInt16) (fuel : Nat) :
    waitMeasured dev start fuel = repeatUntil (measureTurn dev start) fuel () := by
  induction fuel with
  | zero => rfl
  | succ fuel ih =>
    rw [waitMeasured, repeatUntil, measureTurn]
    simp only [Prog.bind_assoc]
    congr 1
    funext measuring
    cases measuring with
    | false => rfl
    | true =>
      simp only [Bool.not_true, Bool.false_eq_true, if_false, Prog.perform_bind, Prog.call_bind]
      refine congrArg (Prog.call _) (funext fun now => ?_)
      split
      · exact ih
      · rfl

/-- What `BMP280_is_measuring` makes of the read of the status register. -/
def measuring : Option (List UInt8) → Bool
  | some status => status.getD 0 0 &&& 8 ≠ 0
  | none => false

section Loop

variable (env : Env) (dev : Handle) (start : UInt16)

theorem isMeasuring_run (w : World) :
    (isMeasuring dev).run (answer env) w =
      some (measuring (w.reply env (statusRead dev)), w.after env (statusRead dev)) := by
  have hread : (readData dev regStatus 1).run (answer env) w =
      some (w.reply env (statusRead dev), w.after env (statusRead dev)) := rfl
  rw [isMeasuring, Prog.run_bind_of hread]
  cases w.reply env (statusRead dev) with
  | none => rfl
  | some status => rfl

/-- The world after a turn that goes on. -/
def pollNext (w : World) : World := (w.after env (statusRead dev)).after env .chVTGetSystemTime

/-- The two seconds have not passed after the poll made in `w`. -/
def inTime (w : World) : Bool :=
  timeIsInRange ((w.after env (statusRead dev)).reply env .chVTGetSystemTime) start (start + 2000)

/-- The turn that starts in `w` goes on. -/
def StillMeasuring (w : World) : Prop :=
  measuring (w.reply env (statusRead dev)) = true ∧ inTime env dev start w = true

/-- The result of a turn that leaves the loop. -/
def measureExit (x : Unit × World) : Option (Bool × World) :=
  if measuring (x.2.reply env (statusRead dev)) = false then
    some (true, x.2.after env (statusRead dev))
  else if inTime env dev start x.2 then none
  else some (false, pollNext env dev x.2)

theorem measureTurn_turnsBy :
    TurnsBy (answer env) (measureTurn dev start) (measureExit env dev start)
      (fun x => ((), pollNext env dev x.2)) := by
  intro u w
  rw [measureTurn, Prog.run_bind_of (isMeasuring_run env dev w), measureExit]
  cases measuring (w.reply env (statusRead dev)) with
  | false => rfl
  | true =>
    have hclock : (ask .chVTGetSystemTime).run (answer env) (w.after env (statusRead dev)) =
        some ((w.after env (statusRead dev)).reply env .chVTGetSystemTime, pollNext env dev w) := rfl
    simp only [Bool.not_true, Bool.false_eq_true, if_false]
    rw [Prog.run_bind_of hclock, ← inTime]
    cases inTime env dev start w with
    | true => rfl
    | false => rfl

theorem measureExit_eq_none_iff (x : Unit × World) :
    measureExit env dev start x = none ↔ StillMeasuring env dev start x.2 := by
  unfold measureExit StillMeasuring
  cases measuring (x.2.reply env (statusRead dev)) with
  | false => simp
  | true => cases inTime env dev start x.2 with
    | false => simp
    | true => simp

/-- The loop ends with `true` after the first turns that all go on, when the next
one finds the measurement over or cannot read the status. -/
theorem waitMeasured_run_true_iff (w : World) (w' : World) :
    (∃ fuel, (waitMeasured dev start fuel).run (answer env) w = some (true, w')) ↔
      ∃ k, (∀ j < k, StillMeasuring env dev start ((pollNext env dev)^[j] w)) ∧
        measuring (((pollNext env dev)^[k] w).reply env (statusRead dev)) = false ∧
        w' = ((pollNext env dev)^[k] w).after env (statusRead dev) := by
  have hexit : ∀ x : World, measureExit env dev start ((), x) = some (true, w') ↔
      measuring (x.reply env (statusRead dev)) = false ∧ w' = x.after env (statusRead dev) := by
    intro x
    unfold measureExit
    cases measuring (x.reply env (statusRead dev)) with
    | false => simp [eq_comm]
    | true => cases inTime env dev start x with
      | false => simp
      | true => simp
  have hturns : ∀ k, (fun x => ((), pollNext env dev x.2))^[k] ((), w) =
      ((), (pollNext env dev)^[k] w) := iterate_world (pollNext env dev) w
  have hstay : ∀ x : World, measureExit env dev start ((), x) = none ↔ StillMeasuring env dev start x :=
    fun x => measureExit_eq_none_iff env dev start ((), x)
  constructor
  · rintro ⟨fuel, hrun⟩
    rw [waitMeasured_eq] at hrun
    obtain ⟨k, -, hbefore, hlast⟩ := (repeatUntil_run_iff (measureTurn_turnsBy env dev start)).mp hrun
    refine ⟨k, fun j hj => ?_, ?_⟩
    · rw [← hstay, ← hturns]
      exact hbefore j hj
    · rw [← hexit, ← hturns]
      exact hlast
  · rintro ⟨k, hbefore, hlast⟩
    refine ⟨k + 1, ?_⟩
    rw [waitMeasured_eq]
    refine (repeatUntil_run_iff (measureTurn_turnsBy env dev start)).mpr
      ⟨k, Nat.lt_succ_self k, fun j hj => ?_, ?_⟩
    · rw [hturns, hstay]
      exact hbefore j hj
    · rw [hturns, hexit]
      exact hlast

end Loop

/-! ## `BMP280_read_float` -/

section Calls

variable (dev : Handle)

abbrev ctrlRead : Call := .busOp (.bmp280ReadData dev.addr regCtrl 1)

abbrev ctrlWrite (v : UInt8) : Call := .busOp (.bmp280WriteRegister8 dev.addr regCtrl v)

/-- The read of the measurement registers, in one sequence. -/
abbrev measurementRead : Call :=
  .busOp (.bmp280ReadData dev.addr regData (if dev.id = bme280ChipId then 8 else 6))

/-- The control register with the forced mode in its two low bits. -/
def forcedCtrl (rx : List UInt8) : UInt8 := (rx.getD 0 0 &&& ~~~3) ||| Mode.forced.code

theorem forcedCtrl_mode (rx : List UInt8) : forcedCtrl rx &&& 3 = Mode.forced.code :=
  setMasked_and_self (rx.getD 0 0) 3 1

end Calls

section ReadFloat

variable (env : Env) (dev : Handle) (w : World)

/-- The clock after the forced-mode write and the world in which the loop starts;
`none` when the measurement is not started. -/
def forcedStart : Option (UInt16 × World) :=
  match w.reply env (ctrlRead dev) with
  | none => none
  | some rx =>
    let w := w.after env (ctrlRead dev)
    if w.reply env (ctrlWrite dev (forcedCtrl rx)) = true then none
    else
      let w := w.after env (ctrlWrite dev (forcedCtrl rx))
      some (w.reply env .chVTGetSystemTime,
        (w.after env .chVTGetSystemTime).after env (.chThdSleepMilliseconds 5))

/-- The part of `BMP280_read_float` behind the loop. -/
def afterMeasured (ok : Bool) : Fw (Option Fixed) := if !ok then return none else readFixed dev

theorem readFloat_run (hmode : dev.params.mode = .sleep) (fuel : Nat) :
    (forcedStart env dev w = none ∧ ∃ w', (readFloat fuel dev).run (answer env) w = some (none, w')) ∨
      ∃ start w₁, forcedStart env dev w = some (start, w₁) ∧
        (readFloat fuel dev).run (answer env) w =
          (waitMeasured dev start fuel >>= afterMeasured dev).run (answer env) w₁ := by
  have hprog : readFloat fuel dev = forceMeasurement dev >>= fun ok =>
      if !ok then .ret none
      else ask .chVTGetSystemTime >>= fun start => ask (.chThdSleepMilliseconds 5) >>= fun _ =>
        waitMeasured dev start fuel >>= afterMeasured dev := by
    rw [readFloat, if_pos hmode]
    rfl
  have hread : (readData dev regCtrl 1).run (answer env) w =
      some (w.reply env (ctrlRead dev), w.after env (ctrlRead dev)) := rfl
  rw [hprog, forceMeasurement, Prog.bind_assoc, Prog.run_bind_of hread, forcedStart]
  cases w.reply env (ctrlRead dev) with
  | none => exact .inl ⟨rfl, _, rfl⟩
  | some rx =>
    have hwrite : (writeRegister8 dev regCtrl (forcedCtrl rx)).run (answer env)
        (w.after env (ctrlRead dev)) =
        some ((w.after env (ctrlRead dev)).reply env (ctrlWrite dev (forcedCtrl rx)),
          (w.after env (ctrlRead dev)).after env (ctrlWrite dev (forcedCtrl rx))) := rfl
    dsimp only
    rw [Prog.bind_assoc, ← forcedCtrl, Prog.run_bind_of hwrite]
    cases (w.after env (ctrlRead dev)).reply env (ctrlWrite dev (forcedCtrl rx)) with
    | true => exact .inl ⟨rfl, _, rfl⟩
    | false => exact .inr ⟨_, _, rfl, rfl⟩

theorem readFixed_run :
    ∃ x, (readFixed dev).run (answer env) w = some (x, w.after env (measurementRead dev)) ∧
      (x = none ↔ w.reply env (measurementRead dev) = none) := by
  have hread : (readData dev regData (if dev.id = bme280ChipId then 8 else 6)).run (answer env) w =
      some (w.reply env (measurementRead dev), w.after env (measurementRead dev)) := rfl
  rw [readFixed, Prog.run_bind_of hread]
  cases w.reply env (measurementRead dev) with
  | none => exact ⟨_, rfl, by simp⟩
  | some data => exact ⟨_, rfl, by simp⟩

/-- The calls that return a measurement: the forced measurement is started, some
polls go on, the next one ends the loop and the measurement registers are read. -/
theorem readFloat_run_some_iff (hmode : dev.params.mode = .sleep) (w' : World) :
    (∃ fuel x, (readFloat fuel dev).run (answer env) w = some (some x, w')) ↔
      ∃ start w₁ k, forcedStart env dev w = some (start, w₁) ∧
        (∀ j < k, StillMeasuring env dev start ((pollNext env dev)^[j] w₁)) ∧
        measuring (((pollNext env dev)^[k] w₁).reply env (statusRead dev)) = false ∧
        (((pollNext env dev)^[k] w₁).after env (statusRead dev)).reply env (measurementRead dev) ≠ none ∧
        w' = (((pollNext env dev)^[k] w₁).after env (statusRead dev)).after env (measurementRead dev) := by
  constructor
  · rintro ⟨fuel, x, hrun⟩
    rcases readFloat_run env dev w hmode fuel with ⟨-, w₁, hnone⟩ | ⟨start, w₁, hstart, hloop⟩
    · cases hnone.symm.trans hrun
    · rw [hloop, Prog.run_bind] at hrun
      obtain ⟨⟨ok, w₂⟩, hwait, hafter⟩ := Option.bind_eq_some_iff.mp hrun
      cases ok with
      | false => cases hafter
      | true =>
        obtain ⟨k, hbefore, hend, rfl⟩ := (waitMeasured_run_true_iff env dev start w₁ w₂).mp ⟨fuel, hwait⟩
        obtain ⟨y, hfixed, hy⟩ := readFixed_run env dev
          (((pollNext env dev)^[k] w₁).after env (statusRead dev))
        cases hfixed.symm.trans hafter
        exact ⟨start, w₁, k, hstart, hbefore, hend, fun hnone => (nomatch hy.mpr hnone), rfl⟩
  · rintro ⟨start, w₁, k, hstart, hbefore, hend, hdata, rfl⟩
    obtain ⟨fuel, hwait⟩ := (waitMeasured_run_true_iff env dev start w₁ _).mpr ⟨k, hbefore, hend, rfl⟩
    obtain ⟨y, hfixed, hy⟩ := readFixed_run env dev
      (((pollNext env dev)^[k] w₁).after env (statusRead dev))
    obtain ⟨x, rfl⟩ := Option.ne_none_iff_exists'.mp fun hnone => hdata (hy.mp hnone)
    rcases readFloat_run env dev w hmode fuel with ⟨hnone, -⟩ | ⟨start', w₁', hstart', hloop⟩
    · cases hnone.symm.trans hstart
    · cases hstart.symm.trans hstart'
      refine ⟨fuel, x, ?_⟩
      rw [hloop, Prog.run_bind_of hwait]
      exact hfixed

end ReadFloat

/-! ## What the call has seen -/

/-- The forced-mode write succeeded. -/
def ForcedWrite (dev : Handle) (e : Event) : Prop :=
  ∃ time v, e = ⟨time, ctrlWrite dev v, false⟩ ∧ v &&& 3 = Mode.forced.code

/-- The status register was read with the measuring bit clear. -/
def StatusClear (dev : Handle) (e : Event) : Prop :=
  ∃ time status, e = ⟨time, statusRead dev, some status⟩ ∧ status.getD 0 0 &&& 8 = 0

/-- The measurement registers were read. -/
def DataRead (dev : Handle) (e : Event) : Prop :=
  ∃ time data, e = ⟨time, measurementRead dev, some data⟩

/-- The measurement was complete when it was read: of the events of the call, the
latest first, one is the read of the data, an earlier one a clear status and one
before that the start of the measurement. -/
def Complete (dev : Handle) (events : List Event) : Prop :=
  ∃ data status forced, [data, status, forced].Sublist events ∧ DataRead dev data ∧
    StatusClear dev status ∧ ForcedWrite dev forced

section Events

variable (env : Env) (dev : Handle)

theorem not_statusClear_of_call {e : Event} (h : e.call ≠ statusRead dev) : ¬ StatusClear dev e := by
  rintro ⟨time, status, rfl, -⟩
  exact h rfl

theorem readData_ne_statusRead {addr : UInt8} (h : addr ≠ regStatus) (len : Nat) :
    Call.busOp (.bmp280ReadData dev.addr addr len) ≠ statusRead dev :=
  fun he => h (BusOp.bmp280ReadData.inj (Call.busOp.inj he)).2.1

/-- A read of the status register is clear when it succeeded without the bit. -/
theorem statusClear_event_iff (w : World) :
    StatusClear dev (w.event env (statusRead dev)) ↔
      w.reply env (statusRead dev) ≠ none ∧ measuring (w.reply env (statusRead dev)) = false := by
  unfold World.event
  generalize w.reply env (statusRead dev) = r
  constructor
  · rintro ⟨time', status, he, hbit⟩
    cases he
    exact ⟨Option.some_ne_none _, by simpa [measuring] using hbit⟩
  · rintro ⟨hr, hbit⟩
    obtain ⟨status, rfl⟩ := Option.ne_none_iff_exists'.mp hr
    exact ⟨_, status, rfl, by simpa [measuring] using hbit⟩

/-- The events up to the loop. -/
theorem forcedStart_trace {w w₁ : World} {start : UInt16}
    (h : forcedStart env dev w = some (start, w₁)) :
    ∃ before forced, w₁.trace = before ++ w.trace ∧ forced ∈ before ∧ ForcedWrite dev forced ∧
      ∀ e ∈ before, ¬ StatusClear dev e := by
  unfold forcedStart at h
  cases hread : w.reply env (ctrlRead dev) with
  | none =>
    rw [hread] at h
    cases h
  | some rx =>
    rw [hread] at h
    dsimp only at h
    split at h
    · cases h
    · next hok =>
      cases h
      rw [Bool.not_eq_true] at hok
      refine ⟨[_, _, _, _], (w.after env (ctrlRead dev)).event env (ctrlWrite dev (forcedCtrl rx)), rfl,
        .tail _ (.tail _ (.head _)), ⟨_, _, congrArg (Event.mk _ _) hok, forcedCtrl_mode rx⟩, ?_⟩
      · intro e he
        apply not_statusClear_of_call
        simp only [List.mem_cons, List.not_mem_nil, or_false] at he
        rcases he with rfl | rfl | rfl | rfl
        · exact nofun
        · exact nofun
        · exact fun he => nomatch Call.busOp.inj he
        · exact readData_ne_statusRead dev (by decide) 1

/-- Polls that go on find the measuring bit set. -/
theorem pollNext_trace {start : UInt16} (w : World) {k : Nat}
    (h : ∀ j < k, StillMeasuring env dev start ((pollNext env dev)^[j] w)) :
    ∃ polls, ((pollNext env dev)^[k] w).trace = polls ++ w.trace ∧
      ∀ e ∈ polls, ¬ StatusClear dev e := by
  induction k with
  | zero => exact ⟨[], rfl, fun e he => absurd he List.not_mem_nil⟩
  | succ k ih =>
    obtain ⟨polls, htrace, hpolls⟩ := ih fun j hj => h j (Nat.lt_succ_of_lt hj)
    have hmeasuring := (h k (Nat.lt_succ_self k)).1
    rw [Function.iterate_succ_apply']
    generalize (pollNext env dev)^[k] w = v at htrace hmeasuring
    refine ⟨(v.after env (statusRead dev)).event env .chVTGetSystemTime ::
      v.event env (statusRead dev) :: polls, ?_, ?_⟩
    · rw [pollNext, World.after_trace, World.after_trace, htrace]
      rfl
    · intro e he
      rcases List.mem_cons.mp he with rfl | he
      · exact not_statusClear_of_call dev nofun
      · rcases List.mem_cons.mp he with rfl | he
        · intro hclear
          have hover := ((statusClear_event_iff env dev v).mp hclear).2
          cases hmeasuring.symm.trans hover
        · exact hpolls e he

end Events

/-! ## Complete measurements -/

section Complete

variable (env : Env) (dev : Handle) (w : World)

/-- The condition on the transfers of a call: when a forced measurement has been
started, a poll that the loop comes to does not fail, or the read of the
measurement registers after it fails as well. -/
def FailedPollsLast : Prop :=
  ∀ start w₁ k, forcedStart env dev w = some (start, w₁) →
    (∀ j < k, StillMeasuring env dev start ((pollNext env dev)^[j] w₁)) →
    ((pollNext env dev)^[k] w₁).reply env (statusRead dev) = none →
    (((pollNext env dev)^[k] w₁).after env (statusRead dev)).reply env (measurementRead dev) = none

variable {env dev w}

/-- The events of a call that returns a measurement. -/
theorem returned_trace {start : UInt16} {w₁ : World} {k : Nat}
    (hstart : forcedStart env dev w = some (start, w₁))
    (hbefore : ∀ j < k, StillMeasuring env dev start ((pollNext env dev)^[j] w₁)) :
    ∃ earlier forced,
      ((((pollNext env dev)^[k] w₁).after env (statusRead dev)).after env (measurementRead dev)).trace =
        (((pollNext env dev)^[k] w₁).after env (statusRead dev)).event env (measurementRead dev) ::
          ((pollNext env dev)^[k] w₁).event env (statusRead dev) :: earlier ++ w.trace ∧
      forced ∈ earlier ∧ ForcedWrite dev forced ∧ ∀ e ∈ earlier, ¬ StatusClear dev e := by
  obtain ⟨before, forced, htrace, hmem, hforced, hnot⟩ := forcedStart_trace env dev hstart
  obtain ⟨polls, hpolls, hnot'⟩ := pollNext_trace env dev w₁ hbefore
  refine ⟨polls ++ before, forced, ?_, List.mem_append_right _ hmem, hforced, ?_⟩
  · rw [World.after_trace, World.after_trace, hpolls, htrace]
    simp
  · intro e he
    rcases List.mem_append.mp he with he | he
    · exact hnot' e he
    · exact hnot e he

/-- A measurement that is read after a failed poll was not seen to be complete. -/
theorem not_complete_of_failedPoll {start : UInt16} {w₁ : World} {k : Nat} {events : List Event}
    (hstart : forcedStart env dev w = some (start, w₁))
    (hbefore : ∀ j < k, StillMeasuring env dev start ((pollNext env dev)^[j] w₁))
    (hfailed : ((pollNext env dev)^[k] w₁).reply env (statusRead dev) = none)
    (htrace : ((((pollNext env dev)^[k] w₁).after env (statusRead dev)).after env
      (measurementRead dev)).trace = events ++ w.trace) : ¬ Complete dev events := by
  obtain ⟨earlier, forced, htrace', -, -, hnot⟩ := returned_trace hstart hbefore
  have hevents := List.append_cancel_right (htrace.symm.trans htrace')
  rintro ⟨data, status, forced', hsub, -, hclear, -⟩
  have hmem : status ∈ events := hsub.subset (by simp)
  rw [hevents] at hmem
  rcases List.mem_cons.mp hmem with rfl | hmem
  · exact not_statusClear_of_call dev (readData_ne_statusRead dev (by decide) _) hclear
  · rcases List.mem_cons.mp hmem with rfl | hmem
    · exact ((statusClear_event_iff env dev _).mp hclear).1 hfailed
    · exact hnot status hmem hclear

theorem complete_of_poll {start : UInt16} {w₁ : World} {k : Nat}
    (hstart : forcedStart env dev w = some (start, w₁))
    (hbefore : ∀ j < k, StillMeasuring env dev start ((pollNext env dev)^[j] w₁))
    (hread : ((pollNext env dev)^[k] w₁).reply env (statusRead dev) ≠ none)
    (hover : measuring (((pollNext env dev)^[k] w₁).reply env (statusRead dev)) = false)
    (hdata : (((pollNext env dev)^[k] w₁).after env (statusRead dev)).reply env
      (measurementRead dev) ≠ none) :
    ∃ events, ((((pollNext env dev)^[k] w₁).after env (statusRead dev)).after env
      (measurementRead dev)).trace = events ++ w.trace ∧ Complete dev events := by
  obtain ⟨earlier, forced, htrace, hmem, hforced, -⟩ := returned_trace hstart hbefore
  obtain ⟨data, hdata⟩ := Option.ne_none_iff_exists'.mp hdata
  have hlast : DataRead dev ((((pollNext env dev)^[k] w₁).after env (statusRead dev)).event env
      (measurementRead dev)) := ⟨_, data, congrArg (Event.mk _ _) hdata⟩
  have hclear := (statusClear_event_iff env dev _).mpr ⟨hread, hover⟩
  exact ⟨_, htrace, _, _, forced, ((List.singleton_sublist.mpr hmem).cons_cons _).cons_cons _,
    hlast, hclear, hforced⟩

end Complete

/-- For every sequence of transfer outcomes, register contents and clock
readings: whenever `BMP280_read_float` with the mode SLEEP returns a measurement,
it has started it and seen it complete before it read it, if and only if a failed
poll of the status register is always followed by a failed read of the
measurement. -/
theorem readFloat_complete_iff (env : Env) (dev : Handle) (w : World)
    (hmode : dev.params.mode = .sleep) :
    (∀ fuel x w', (readFloat fuel dev).run (answer env) w = some (some x, w') →
      ∃ events, w'.trace = events ++ w.trace ∧ Complete dev events) ↔
    FailedPollsLast env dev w := by
  constructor
  · intro h start w₁ k hstart hbefore hfailed
    apply Classical.byContradiction
    intro hdata
    have hover : measuring (((pollNext env dev)^[k] w₁).reply env (statusRead dev)) = false := by
      rw [hfailed]
      rfl
    obtain ⟨fuel, x, hrun⟩ := (readFloat_run_some_iff env dev w hmode _).mpr
      ⟨start, w₁, k, hstart, hbefore, hover, hdata, rfl⟩
    obtain ⟨events, htrace, hcomplete⟩ := h fuel x _ hrun
    exact not_complete_of_failedPoll hstart hbefore hfailed htrace hcomplete
  · intro h fuel x w' hrun
    obtain ⟨start, w₁, k, hstart, hbefore, hover, hdata, rfl⟩ :=
      (readFloat_run_some_iff env dev w hmode w').mp ⟨fuel, x, hrun⟩
    have hread : ((pollNext env dev)^[k] w₁).reply env (statusRead dev) ≠ none :=
      fun hfailed => hdata (h start w₁ k hstart hbefore hfailed)
    exact complete_of_poll hstart hbefore hread hover hdata

/-- A BMP280 whose status register is not acknowledged; everything else is. -/
def unreadableStatus : Env where
  delay _ := 1
  reply _ c :=
    match c with
    | .busOp (.bmp280ReadData _ addr len) =>
      if addr = regStatus then none else some (List.replicate len 0)
    | .busOp (.bmp280WriteRegister8 ..) => false
    | c => anyReply c

/-- The handle of the thread after a successful initialisation. -/
def sleepingHandle : Handle :=
  { initialHandle with id := bmp280ChipId, params := { initDefaultParams with mode := .sleep } }

/-- The data registers are read though the measurement was never seen to end. -/
theorem unreadable_status_returns_measurement :
    ∃ x w' events, (readFloat 1 sleepingHandle).run (answer unreadableStatus) ⟨0, []⟩ =
        some (some x, w') ∧ w'.trace = events ++ [] ∧ ¬ Complete sleepingHandle events := by
  refine ⟨_, _, _, rfl, (List.append_nil _).symm, ?_⟩
  exact not_complete_of_failedPoll (k := 0) (w := ⟨0, []⟩) rfl nofun rfl (List.append_nil _).symm

/-- A BMP280 that is measuring at the first poll and ready at the next ones. -/
def measuringOnce : Env where
  delay _ := 1
  reply past c :=
    match c with
    | .busOp (.bmp280ReadData _ addr len) =>
      if addr = regStatus ∧ past.length ≤ 4 then some [8] else some (List.replicate len 0)
    | .busOp (.bmp280WriteRegister8 ..) => false
    | c => anyReply c

theorem measuringOnce_status (w : World) :
    w.reply measuringOnce (statusRead sleepingHandle) ≠ none := by
  change (if _ then some _ else some _) ≠ none
  split <;> exact Option.some_ne_none _

theorem readFloat_complete_iff_measuringOnce :
    sleepingHandle.params.mode = .sleep ∧
    ∃ x w' events, (readFloat 2 sleepingHandle).run (answer measuringOnce) ⟨0, []⟩ =
        some (some x, w') ∧ w'.trace = events ++ [] ∧ Complete sleepingHandle events := by
  have hlast : FailedPollsLast measuringOnce sleepingHandle ⟨0, []⟩ :=
    fun _ _ _ _ _ hfailed => absurd hfailed (measuringOnce_status _)
  obtain ⟨events, htrace, hcomplete⟩ :=
    (readFloat_complete_iff measuringOnce sleepingHandle ⟨0, []⟩ rfl).mpr hlast 2 _ _ rfl
  exact ⟨rfl, _, _, events, rfl, htrace, hcomplete⟩

end MeteoL053.Bmp280
