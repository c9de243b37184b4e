import MeteoL053.Radio.System
import MeteoL053.Station.Locks

/-!
Every thread of the station takes its locks in order, so that no deadlock is
reachable.

The blocks of the threads start and end without locks, but for the blocks of
`HC12__reconfigure`, between which the shell has `uart_bsem`.
-/

namespace MeteoL053.Station.Locks

open CallTree Config Registry LockOrder Relation

/-! ## One lock -/

/-- The phase with one lock. -/
abbrev only (l : LockId) : Phase := Phase.take {} l

theorem only_of_ne {l l' : LockId} (h : l' ≠ l) : (only l).held l' = false := by
  rw [take_held, Function.update_of_ne h]

theorem only_uart_mayHang : (only .uart).MayHang := fun _ h => only_of_ne h

theorem only_canBus {l : LockId} (h : l ≠ .i2c) : (only l).CanBus := by
  intro l' hl'
  by_cases e : l' = l
  · subst e
    cases l' <;> first | exact Nat.zero_lt_one | exact absurd rfl h
  · rw [only_of_ne e] at hl'
    cases hl'

theorem release_only (l : LockId) :
    ({ held := Function.update (only l).held l false, talk := .none } : Phase) = {} :=
  take_release l rfl

/-- Without locks every lock may be taken. -/
theorem idle_below (l : LockId) : ∀ l', ({} : Phase).held l' = true → rank l' < rank l := by
  intro l' h
  cases h

variable {t : Thread} {φ : Phase}

/-! ## The radio -/

section Radio

theorem inFn_follows {f : Fn} {p : Fw Bool} {Q : Bool → Phase → Prop}
    (h : p.wp (fwMonitor t) φ Q) : (inFn f p).wp (fwMonitor t) φ Q := by
  refine Prog.wp_step ⟨trivial, trivial⟩ fun _ _ => ?_
  apply Prog.wp_bind_of _ _ _ h
  intro ok φ' hQ
  exact Prog.wp_step ⟨trivial, trivial⟩ fun _ _ => hQ

/-- Code of the radio that has the semaphore. -/
theorem uart_follows {α : Type} {p : Fw α} (hp : p.All Ordinary) :
    p.wp (fwMonitor t) (only .uart) fun _ φ => φ = only .uart :=
  ordinary_follows hp (only_canBus (by decide)) only_uart_mayHang

theorem idle_follows {α : Type} {p : Fw α} (hp : p.All Ordinary) :
    p.wp (fwMonitor t) {} fun _ φ => φ = {} :=
  ordinary_follows hp canBus_idle mayHang_idle

/-- A wait for `uart_bsem` with a timeout. -/
theorem wp_attempt_uart {α : Type} {ticks : Nat} {f : Bool → Fw α} {Q : α → Phase → Prop}
    (timeout : (f false).wp (fwMonitor t) {} Q) (ok : (f true).wp (fwMonitor t) (only .uart) Q) :
    (MeteoL053.ask (.chBSemWaitTimeout ticks) >>= f).wp (fwMonitor t) {} Q := by
  refine Prog.wp_step ⟨idle_below .uart, trivial⟩ fun r _ => ?_
  cases r with
  | false => exact timeout
  | true => exact ok

/-- The end of a function that has `uart_bsem`. -/
theorem wp_signal_uart {α : Type} {f : Unit → Fw α} {Q : α → Phase → Prop}
    (h : (f ()).wp (fwMonitor t) {} Q) :
    (MeteoL053.ask .chBSemSignal >>= f).wp (fwMonitor t) (only .uart) Q := by
  refine Prog.wp_step ⟨take_self .uart, trivial⟩ fun _ _ => ?_
  have hnext : (fwMonitor t).next (only .uart) .chBSemSignal () = {} := release_only .uart
  rw [hnext]
  exact h

theorem checkStatus_follows : Hc12.checkStatus.wp (fwMonitor t) {} fun _ φ => φ = {} := by
  have hend : (do let _ ← Hc12.normalMode; MeteoL053.ask .chBSemSignal; return true : Fw Bool).wp
      (fwMonitor t) (only .uart) fun _ φ => φ = {} := by
    apply Prog.wp_bind_of _ _ _ (uart_follows normalMode_ordinary)
    rintro _ _ rfl
    exact wp_signal_uart rfl
  apply inFn_follows
  refine Prog.wp_step ⟨trivial, trivial⟩ fun _ _ => ?_
  refine wp_attempt_uart rfl ?_
  apply Prog.wp_bind_of _ _ _ (uart_follows progMode_ordinary)
  rintro _ _ rfl
  iterate 5 refine Prog.wp_step ⟨trivial, trivial⟩ fun _ _ => ?_
  rw [Prog.wp_ite]
  split
  · exact Prog.wp_step ⟨trivial, trivial⟩ fun _ _ => hend
  · exact hend

theorem tunrOffRadio_follows :
    Hc12.tunrOffRadio.wp (fwMonitor t) {} fun ok φ => φ = if ok then only .uart else {} := by
  apply inFn_follows
  refine wp_attempt_uart rfl ?_
  apply Prog.wp_bind_of _ _ _ (uart_follows goToSleep_ordinary)
  rintro _ _ rfl
  rfl

theorem tunrOnRadio_follows :
    Hc12.tunrOnRadio.wp (fwMonitor t) (only .uart) fun _ φ => φ = {} := by
  apply inFn_follows
  apply Prog.wp_bind_of _ _ _ (uart_follows wakeUp_ordinary)
  rintro _ _ rfl
  exact wp_signal_uart rfl

theorem ping_follows : Hc12.ping.wp (fwMonitor t) {} fun _ φ => φ = {} := by
  have hpinged : Hc12.pinged.wp (fwMonitor t) {} fun _ φ => φ = {} :=
    idle_follows (Prog.all_bind goToSleep_ordinary fun _ => ⟨trivial, fun _ => trivial⟩)
  apply Prog.wp_bind_of _ _ _ checkStatus_follows
  rintro _ _ rfl
  refine Prog.wp_step ⟨trivial, trivial⟩ fun status _ => ?_
  rw [Prog.wp_ite]
  split
  · exact hpinged
  · refine Prog.wp_step ⟨trivial, trivial⟩ fun _ _ => ?_
    exact Prog.wp_step ⟨trivial, trivial⟩ fun _ _ => rfl

theorem transmit_follows : Hc12.transmit.wp (fwMonitor t) {} fun _ φ => φ = {} := by
  refine Prog.wp_step ⟨trivial, trivial⟩ fun mail _ => ?_
  cases mail with
  | none =>
    apply Prog.wp_bind_of _ _ _ (idle_follows goToSleep_ordinary)
    rintro _ _ rfl
    rfl
  | some pbuf =>
    apply Prog.wp_bind_of _ _ _ (idle_follows wakeUp_ordinary)
    rintro _ _ rfl
    refine Prog.wp_step ⟨idle_below .uart, trivial⟩ fun _ _ => ?_
    refine Prog.wp_step ⟨trivial, trivial⟩ fun obj _ => ?_
    -- an object that is no message hangs the thread with the semaphore
    cases obj.bytes with
    | none => exact only_uart_mayHang
    | some message =>
      refine Prog.wp_step ⟨trivial, trivial⟩ fun _ _ => ?_
      cases obj.pokes 0 [0x0A, 0x0D] with
      | none => exact only_uart_mayHang
      | some obj =>
        iterate 4 refine Prog.wp_step ⟨trivial, trivial⟩ fun _ _ => ?_
        exact wp_signal_uart rfl

theorem hc12_follows (b : Block) : (hc12 b).wp (monitor .hc12) {} fun _ φ => φ = {} := by
  cases b with
  | start =>
    refine Prog.wp_step ⟨trivial, trivial⟩ fun _ _ => ?_
    refine Prog.wp_step ⟨trivial, trivial⟩ fun _ _ => ?_
    apply Prog.wp_bind_of _ _ _ (lift_ordinary .hc12 normalMode_ordinary)
    rintro _ _ rfl
    rfl
  | ping => exact lift_follows .hc12 ping_follows
  | _ => exact lift_follows .hc12 transmit_follows

end Radio

/-! ## The lightning sensor -/

section As3935

variable (dev : UInt8)

theorem step_follows (step : As3935.Step) (h : φ.CanBus) :
    (step.code dev).wp (fwMonitor t) φ fun _ φ' => φ' = φ := by
  cases step with
  | write reg mask data => exact performOp_follows (.as3935Write dev reg mask data) h
  | calRCO =>
    apply Prog.wp_bind_of _ _ _ (checkedOp_follows _ _ _ h)
    rintro _ _ rfl
    exact Prog.wp_step ⟨trivial, trivial⟩ fun _ _ => rfl
  | sleep ms => exact Prog.wp_step ⟨trivial, trivial⟩ fun _ _ => rfl

theorem perform_follows (steps : List As3935.Step) (h : φ.CanBus) :
    (As3935.perform dev steps).wp (fwMonitor t) φ fun _ φ' => φ' = φ := by
  induction steps with
  | nil => rfl
  | cons step steps ih =>
    apply Prog.wp_bind_of _ _ _ (step_follows dev step h)
    rintro ok _ rfl
    cases ok with
    | false => rfl
    | true => exact ih

theorem procedure_follows (p : As3935.Procedure) (h : φ.CanBus) :
    (p.code dev).wp (fwMonitor t) φ fun _ φ' => φ' = φ := by
  rw [p.code_eq dev]
  exact perform_follows dev p.steps h

theorem calibrate_follows (capacitance location : UInt8) (h : φ.CanBus) :
    (As3935.calibrate dev capacitance location).wp (fwMonitor t) φ fun _ φ' => φ' = φ := by
  apply Prog.wp_bind_of _ _ _ (procedure_follows dev (.manualCal capacitance location 1) h)
  rintro ok _ rfl
  exact Prog.wp_step ⟨trivial, trivial⟩ fun _ _ => rfl

theorem enableInterrupt_follows :
    As3935.enableInterrupt.wp (fwMonitor t) φ fun _ φ' => φ' = φ := by
  iterate 2 refine Prog.wp_step ⟨trivial, trivial⟩ fun _ _ => ?_
  exact ⟨⟨trivial, trivial⟩, fun _ _ => rfl⟩

/-- A reading of at most four values does not hang. -/
theorem sendReading_follows (cmd : UInt8) (args : List UInt32) (h : args.length ≤ 4) :
    (Stream.sendReading cmd args).wp (fwMonitor t) φ fun _ φ' => φ' = φ := by
  refine Prog.wp_step ⟨trivial, trivial⟩ fun r _ => ?_
  cases r with
  | none => rfl
  | some o =>
    refine Prog.wp_step ⟨trivial, trivial⟩ fun obj _ => ?_
    obtain ⟨obj', hcreate, -⟩ := Msp.createMspFrame_eq obj cmd args h
    rw [hcreate]
    refine Prog.wp_step ⟨trivial, trivial⟩ fun _ _ => ?_
    exact Prog.wp_step ⟨trivial, trivial⟩ fun _ _ => rfl

theorem publish_follows (interruptSrc distance : UInt8) (energy : UInt32) (status : HwStatus) :
    (As3935.publish interruptSrc distance energy status).wp (fwMonitor t) φ
      fun _ φ' => φ' = φ := by
  unfold As3935.publish
  rw [Prog.wp_ite]
  split
  · iterate 4 refine Prog.wp_step ⟨trivial, trivial⟩ fun _ _ => ?_
    apply Prog.wp_bind_of _ _ _ (sendReading_follows As3935.hwId
      [interruptSrc.toUInt32, distance.toUInt32, energy] (Nat.le_succ 3))
    rintro _ _ rfl
    rfl
  · rfl

theorem getInterruptSrc_follows (h : φ.CanBus) :
    (As3935.getInterruptSrc dev).wp (fwMonitor t) φ fun _ φ' => φ' = φ := by
  refine Prog.wp_step ⟨trivial, trivial⟩ fun _ _ => ?_
  exact Prog.wp_step h fun _ _ => rfl

theorem getLightningDistKm_follows (h : φ.CanBus) :
    (As3935.getLightningDistKm dev).wp (fwMonitor t) φ fun _ φ' => φ' = φ :=
  Prog.wp_step h fun _ _ => rfl

theorem getStrikeEnergyRaw_follows (h : φ.CanBus) :
    (As3935.getStrikeEnergyRaw dev).wp (fwMonitor t) φ fun _ φ' => φ' = φ := by
  iterate 2 refine Prog.wp_step h fun _ _ => ?_
  exact Prog.wp_step h fun _ _ => rfl

theorem serve_follows (status : HwStatus) (h : φ.CanBus) :
    (As3935.serve dev status).wp (fwMonitor t) φ fun _ φ' => φ' = φ := by
  unfold As3935.serve As3935.disableInterrupt
  rw [Prog.pure_eq, Prog.ret_bind]
  apply Prog.wp_bind_of _ _ _ (getInterruptSrc_follows dev h)
  rintro interruptSrc _ rfl
  apply Prog.wp_bind_of _ _ _ (getLightningDistKm_follows dev h)
  rintro distance _ rfl
  apply Prog.wp_bind_of _ _ _ (getStrikeEnergyRaw_follows dev h)
  rintro energy _ rfl
  apply Prog.wp_bind_of _ _ _ (publish_follows ..)
  rintro status _ rfl
  refine Prog.wp_step ⟨trivial, trivial⟩ fun _ _ => ?_
  apply Prog.wp_bind_of _ _ _ enableInterrupt_follows
  rintro _ _ rfl
  rfl

theorem tryReconfigure_follows (status : HwStatus) (h : φ.CanBus) :
    (As3935.tryReconfigure dev status).wp (fwMonitor t) φ fun _ φ' => φ' = φ := by
  unfold As3935.tryReconfigure
  rw [Prog.wp_ite]
  split
  · apply Prog.wp_bind_of _ _ _ (calibrate_follows dev 72 As3935.locationOutdoors h)
    rintro status _ rfl
    rw [Prog.wp_ite]
    split
    · apply Prog.wp_bind_of _ _ _ enableInterrupt_follows
      rintro _ _ rfl
      rfl
    · rfl
  · rfl

/-- The end of a section under `as3935_bsem`. -/
theorem wp_signal_as3935 {α : Type} {f : Unit → Fw α} {Q : α → Phase → Prop}
    (h : (f ()).wp (fwMonitor t) {} Q) :
    (MeteoL053.ask .as3935BSemSignal >>= f).wp (fwMonitor t) (only .as3935) Q := by
  refine Prog.wp_step ⟨take_self .as3935, trivial⟩ fun _ _ => ?_
  have hnext : (fwMonitor t).next (only .as3935) .as3935BSemSignal () = {} := release_only .as3935
  rw [hnext]
  exact h

theorem as3935Start_follows (interval : UInt16) :
    (As3935.start dev interval).wp (fwMonitor t) {} fun _ φ => φ = {} := by
  iterate 2 refine Prog.wp_step ⟨trivial, trivial⟩ fun _ _ => ?_
  refine Prog.wp_step ⟨idle_below .as3935, trivial⟩ fun _ _ => ?_
  apply Prog.wp_bind_of _ _ _ (calibrate_follows dev 0 2 (only_canBus (by decide)))
  rintro status _ rfl
  apply wp_signal_as3935
  iterate 2 refine Prog.wp_step ⟨trivial, trivial⟩ fun _ _ => ?_
  rw [Prog.wp_ite]
  split
  · apply Prog.wp_bind_of _ _ _ enableInterrupt_follows
    rintro _ _ rfl
    rfl
  · rfl

theorem as3935Loop_follows (s : Sensor) (status : HwStatus) (interval : UInt16) :
    (As3935.loop dev status interval).wp (fwMonitor (.sensor s)) {} fun _ φ => φ = {} := by
  have hbus : (only .as3935).CanBus := only_canBus (by decide)
  refine Prog.wp_step ⟨idle_below .as3935, trivial⟩ fun _ _ => ?_
  apply Prog.wp_bind_of _ _ _ (tryReconfigure_follows dev status hbus)
  rintro status _ rfl
  refine Prog.wp_step ⟨trivial, trivial⟩ fun count _ => ?_
  have hserve : (if count > (0 : UInt32) then As3935.serve dev status else return status).wp
      (fwMonitor (.sensor s)) (only .as3935) fun _ φ => φ = only .as3935 := by
    rw [Prog.wp_ite]
    split
    · exact serve_follows dev status hbus
    · rfl
  apply Prog.wp_bind_of _ _ _ hserve
  rintro status _ rfl
  apply wp_signal_as3935
  exact Prog.wp_step ⟨⟨s, rfl⟩, fun _ => rfl, rfl⟩ fun _ _ => rfl

end As3935

/-! ## The sensors on the ADC and the power thread -/

theorem adcSample_follows (g : AdcGroup) :
    (adcSample g).wp (monitor t) {} fun _ φ => φ = {} := by
  refine Prog.wp_step ⟨idle_below .adc, trivial⟩ fun _ _ => ?_
  iterate 4 refine Prog.wp_step ⟨trivial, trivial⟩ fun _ _ => ?_
  exact Prog.wp_step ⟨take_self .adc, trivial⟩ fun _ _ => release_only .adc

theorem awaitInterval_idle (s : Sensor) (timeout : UInt32) :
    (awaitInterval timeout).wp (monitor (.sensor s)) {} fun _ φ => φ = {} :=
  awaitInterval_follows timeout ⟨s, rfl⟩ (fun _ => rfl) rfl

theorem still_of_uvLine (c : Call) (h : Ml8511.LineCall c) : Still c := by
  cases c with
  | fw c => cases c <;> first | exact h.elim | trivial
  | _ => first | exact h.elim | trivial

theorem getUV_follows (uv : UInt16 → Option UInt32) (d : Ml8511.Driver) :
    (Ml8511.getUV uv d).wp (monitor t) {} fun _ φ => φ = {} := by
  apply Prog.wp_bind_of _ _ _ (still_follows ((Ml8511.enable_all d).mono still_of_uvLine) mayHang_idle)
  rintro d _ rfl
  apply Prog.wp_bind_of _ _ _ (adcSample_follows .device1)
  rintro ⟨msg, sample⟩ _ rfl
  apply Prog.wp_bind_of _ _ _ (still_follows ((Ml8511.disable_all d).mono still_of_uvLine) mayHang_idle)
  rintro d _ rfl
  rfl

/-- The start of both threads. -/
theorem registration_routine (hwId : UInt8) :
    (do MeteoL053.ask (.registerSchedule hwId)
        MeteoL053.ask (.chThdSleepMilliseconds 1000)
        MeteoL053.ask (.setHwStatus .unknown)
        MeteoL053.ask (.registerHw hwId) : Fw Unit).All Routine := by
  iterate 3 refine Prog.all_step trivial fun _ => ?_
  exact ⟨trivial, fun _ => trivial⟩

theorem ml8511_follows (s : Sensor) (uv : UInt16 → Option UInt32) (l : Ml8511.Label) :
    (Ml8511.code uv l).wp (monitor (.sensor s)) {} fun _ φ => φ = {} := by
  cases l with
  | start d interval =>
    apply Prog.wp_bind_of _ _ _ (lift_routine Ml8511.device (registration_routine Ml8511.hwId))
    rintro _ _ rfl
    rfl
  | loop d interval =>
    apply Prog.wp_bind_of _ _ _ (getUV_follows uv d)
    rintro ⟨v, d⟩ _ rfl
    apply Prog.wp_bind_of _ _ _ (lift_ordinary Ml8511.device (ml8511Report_ordinary v))
    rintro _ _ rfl
    apply Prog.wp_bind_of _ _ _ (awaitInterval_idle s _)
    rintro msg _ rfl
    rfl

theorem rain_follows (s : Sensor) (l : Rain.Label) :
    (Rain.code l).wp (monitor (.sensor s)) {} fun _ φ => φ = {} := by
  cases l with
  | start interval =>
    apply Prog.wp_bind_of _ _ _ (lift_routine Rain.device (registration_routine Rain.hwId))
    rintro _ _ rfl
    rfl
  | loop referenceNoRain interval =>
    apply Prog.wp_bind_of _ _ _ (adcSample_follows .rain)
    rintro ⟨msg, sample⟩ _ rfl
    apply Prog.wp_bind_of _ _ _ (lift_ordinary Rain.device (rainReport_ordinary msg _))
    rintro _ _ rfl
    apply Prog.wp_bind_of _ _ _ (awaitInterval_idle s _)
    rintro next _ rfl
    rfl

theorem powerReport_follows (conv : Power.Conversion) (ok : Bool) (v : Power.Vars) :
    (Power.report conv ok v).wp (monitor t) {} fun _ φ => φ = {} := by
  cases ok with
  | false => exact Prog.wp_step ⟨trivial, trivial⟩ fun _ _ => rfl
  | true =>
    have hmeasure : (Power.measure conv v).All Still := by
      refine (Power.measure_all conv v).mono fun c hc => ?_
      cases c with
      | fw c => cases c <;> first | exact hc.elim | trivial
      | _ => first | exact hc.elim | trivial
    apply Prog.wp_bind_of _ _ _ (still_follows hmeasure mayHang_idle)
    rintro streamBuff _ rfl
    apply Prog.wp_bind_of _ _ _ (lift_ordinary Power.device (sendReading_ordinary _ streamBuff))
    rintro _ _ rfl
    rfl

theorem power_follows (s : Sensor) (fuel : Nat) (conv : Power.Conversion) (l : Power.Label) :
    (Power.code fuel conv l).wp (monitor (.sensor s)) {} fun _ φ => φ = {} := by
  cases l with
  | start interval => exact lift_routine Power.device (powerStart_routine fuel interval)
  | loop v =>
    apply Prog.wp_bind_of _ _ _ (lift_ordinary Power.device (powerTryReconfigure_ordinary fuel v))
    rintro v _ rfl
    apply Prog.wp_bind_of _ _ _ (lift_follows Power.device tunrOffRadio_follows)
    rintro off _ rfl
    cases off with
    | false => rfl
    | true =>
      apply Prog.wp_bind_of _ _ _ (lift_follows Power.device tunrOnRadio_follows)
      rintro _ _ rfl
      apply Prog.wp_bind_of _ _ _ (lift_ordinary Power.device (readVoltages_ordinary fuel v))
      rintro ⟨ok, v⟩ _ rfl
      apply Prog.wp_bind_of _ _ _ (powerReport_follows conv ok v)
      rintro status _ rfl
      apply Prog.wp_bind_of _ _ _ (awaitInterval_idle s _)
      rintro msg _ rfl
      rfl

/-! ## The shell -/

section Shell

variable (dev : UInt8)

theorem tuneStep_follows (i : UInt8) :
    (Tuning.tuneStep dev i).wp (monitor t) (only .as3935) fun _ φ => φ = only .as3935 := by
  have hbus : (only .as3935).CanBus := only_canBus (by decide)
  refine Prog.wp_step ⟨trivial, trivial⟩ fun _ _ => ?_
  apply Prog.wp_bind_of _ _ _ (lift_follows Tuning.device (procedure_follows dev (.tuneAntenna i) hbus))
  rintro _ _ rfl
  iterate 2 refine Prog.wp_step ⟨trivial, trivial⟩ fun _ _ => ?_
  apply Prog.wp_bind_of _ _ _ (lift_follows Tuning.device enableInterrupt_follows)
  rintro _ _ rfl
  iterate 6 refine Prog.wp_step ⟨trivial, trivial⟩ fun _ _ => ?_
  exact ⟨⟨trivial, trivial⟩, fun _ _ => rfl⟩

theorem tuneSteps_follows (is : List UInt8) :
    (Tuning.tuneSteps dev is).wp (monitor t) (only .as3935) fun _ φ => φ = only .as3935 := by
  induction is with
  | nil => rfl
  | cons i is ih =>
    apply Prog.wp_bind_of _ _ _ (tuneStep_follows dev i)
    rintro _ _ rfl
    exact ih

theorem autoTune_follows : (Tuning.autoTune dev).wp (monitor t) {} fun _ φ => φ = {} := by
  refine Prog.wp_step ⟨idle_below .as3935, trivial⟩ fun r _ => ?_
  cases r with
  | false => rfl
  | true =>
    apply Prog.wp_bind_of _ _ _ (tuneSteps_follows dev Tuning.capacitors)
    rintro _ _ rfl
    apply Prog.wp_bind_of _ _ _ (lift_follows Tuning.device
      (procedure_follows dev (.manualCal 0 As3935.locationOutdoors 1) (only_canBus (by decide))))
    rintro _ _ rfl
    exact ⟨⟨take_self .as3935, trivial⟩, fun _ _ => release_only .as3935⟩

theorem setEntry_follows (id : Fin scheduleListSize) (intervalI : UInt8) :
    (Shell.setEntry id intervalI).wp (monitor .shell) {} fun _ φ => φ = {} := by
  refine Prog.wp_step ⟨trivial, trivial⟩ fun entry _ => ?_
  rw [Prog.wp_ite]
  split
  · refine Prog.wp_step ⟨trivial, trivial⟩ fun s _ => ?_
    cases s with
    | none => exact mayHang_idle
    | some s =>
      refine Prog.wp_step ⟨fun _ => rfl, rfl, rfl⟩ fun _ _ => ?_
      refine Prog.wp_step ⟨fun _ => rfl, rfl, _, rfl⟩ fun _ _ => ?_
      exact ⟨⟨trivial, trivial⟩, fun _ _ => rfl⟩
  · rfl

theorem setSchedule_follows (id intervalI : UInt8) :
    (Shell.setSchedule id intervalI).wp (monitor .shell) {} fun _ φ => φ = {} := by
  unfold Shell.setSchedule
  split
  · split
    · exact setEntry_follows _ intervalI
    · rfl
  · rfl

theorem cmdSch_follows (argv : List String) :
    (Shell.cmdSch argv).wp (monitor .shell) {} fun _ φ => φ = {} := by
  have hlines : (Shell.scheduleLines (List.finRange scheduleListSize)).wp (monitor .shell) {}
      fun _ φ => φ = {} := still_follows ((Shell.scheduleLines_local _).mono fun _ => Local.still) mayHang_idle
  match argv with
  | [id, interval] =>
    apply Prog.wp_bind_of _ _ _ (setSchedule_follows _ _)
    rintro _ _ rfl
    exact hlines
  | [] =>
    unfold Shell.cmdSch
    exact hlines
  | [_] => exact Prog.wp_step ⟨trivial, trivial⟩ fun _ _ => hlines
  | _ :: _ :: _ :: _ => exact Prog.wp_step ⟨trivial, trivial⟩ fun _ _ => hlines

/-- Between the blocks of the shell. -/
def AtLabel : Shell.Label → Phase → Prop
  | .radio (.drain _), φ => φ = only .uart
  | .radio (.reply ..), φ => φ = only .uart
  | _, φ => φ = {}

/-- Between the blocks of `HC12__reconfigure`. -/
def AtBlock : Block → Phase → Prop
  | .drain _, φ => φ = only .uart
  | .reply .., φ => φ = only .uart
  | _, φ => φ = {}

theorem radio_follows {p : Fw Block} (h : p.wp (fwMonitor .shell) φ AtBlock) :
    (Shell.radio p).wp (monitor .shell) φ AtLabel := by
  have hinline : (p.inline Shell.codeOf).wp (monitor .shell) φ AtBlock := by
    refine Prog.wp_inline_of ?_ (fun φ c hc => ?_) p φ h
    · exact fun _ hh => hh
    cases c with
    | chMsgWaitTimeout timeout =>
      obtain ⟨⟨s, hs⟩, -⟩ := hc
      cases hs
    | leave f r =>
      -- the text after a failed `HC12__reconfigure` is one more call
      cases f <;> cases r <;> first
        | exact ⟨⟨trivial, trivial⟩, fun _ _ => ⟨trivial, rfl⟩⟩
        | exact Prog.wp_step ⟨trivial, trivial⟩ fun _ _ =>
            ⟨⟨trivial, trivial⟩, fun _ _ => ⟨trivial, rfl⟩⟩
    | busOp op => exact ⟨⟨trivial, trivial⟩, fun _ _ => ⟨trivial, rfl⟩⟩
    | _ => exact ⟨hc, fun _ _ => ⟨trivial, rfl⟩⟩
  apply Prog.wp_bind_of _ _ _ hinline
  intro b φ' hb
  cases b <;> exact hb

theorem finish_follows (result : Bool) :
    (Hc12.finish result).wp (fwMonitor .shell) (only .uart) AtBlock := by
  apply Prog.wp_bind_of _ _ _ (uart_follows normalMode_ordinary)
  rintro _ _ rfl
  apply wp_signal_uart
  exact Prog.wp_step ⟨trivial, trivial⟩ fun _ _ => rfl

/-- The loops that wait for the module keep the semaphore. -/
theorem waits_uart : Radio.Waits (fwMonitor .shell) (only .uart) AtBlock where
  hangs := only_uart_mayHang
  talks c hc := by
    cases c <;> first | exact ⟨⟨trivial, trivial⟩, fun _ => rfl⟩ | cases hc
  drain _ := rfl
  reply _ _ _ _ := rfl
  finish := finish_follows

theorem reconfigure_follows (cfg : Hc12Cfg) :
    (Hc12.reconfigure cfg).wp (fwMonitor .shell) {} AtBlock := by
  have hconfigure : (Hc12.configure cfg).wp (fwMonitor .shell) {} AtBlock := by
    have hfail : (do MeteoL053.ask (.leave .reconfigure false); return .prompt : Fw Block).wp
        (fwMonitor .shell) {} AtBlock := Prog.wp_step ⟨trivial, trivial⟩ fun _ _ => rfl
    refine Prog.wp_step ⟨trivial, trivial⟩ fun status _ => ?_
    rw [Prog.wp_ite]
    split
    · exact hfail
    · refine wp_attempt_uart hfail ?_
      apply Prog.wp_bind_of _ _ _ (uart_follows progMode_ordinary)
      rintro _ _ rfl
      rfl
  refine Prog.wp_step ⟨trivial, trivial⟩ fun _ _ => ?_
  refine Prog.wp_step ⟨trivial, trivial⟩ fun status _ => ?_
  rw [Prog.wp_ite]
  split
  · apply Prog.wp_bind_of _ _ _ (idle_follows wakeUp_ordinary)
    rintro _ _ rfl
    exact hconfigure
  · exact hconfigure

/-- A command that ends at the prompt. -/
theorem prompt_follows {p : Code Unit} (h : p.wp (monitor .shell) {} fun _ φ => φ = {}) :
    (do p; return Shell.Label.prompt : Code Shell.Label).wp (monitor .shell) {} AtLabel := by
  apply Prog.wp_bind_of _ _ _ h
  rintro _ _ rfl
  rfl

theorem cmdSleep_follows (argv : List String) :
    (Shell.cmdSleep argv).wp (monitor .shell) {} fun _ φ => φ = {} := by
  refine (Shell.cmdSleep_all argv).wp (fun c hc => ?_) mayHang_idle
  cases c with
  | print text => exact Still.keeps trivial
  | fw c => cases c <;> first | exact hc.elim | exact Still.keeps trivial
  | waitForInterrupt => exact ⟨⟨fun _ => rfl, trivial⟩, fun _ _ => rfl⟩
  | _ => exact hc.elim

theorem command_follows (argv : List (List UInt8)) (c : Shell.Command) :
    (Shell.command dev argv c).wp (monitor .shell) {} AtLabel := by
  cases c with
  | tune =>
    apply Prog.wp_bind_of _ _ _ (autoTune_follows dev)
    rintro _ _ rfl
    exact Prog.wp_step ⟨trivial, trivial⟩ fun _ _ => rfl
  | sleep => exact prompt_follows (cmdSleep_follows _)
  | hc12set => exact radio_follows (reconfigure_follows Shell.hc12cfg)
  | values => exact prompt_follows (showing_follows (Shell.valueLines_showing _))
  | send => exact prompt_follows (showing_follows (Shell.cmdSend_showing argv))
  | hw => exact prompt_follows (showing_follows (Shell.hwLines_showing _))
  | schedule => exact prompt_follows (cmdSch_follows _)
  | save => exact prompt_follows (still_follows (Shell.cmdSave_local.mono fun _ => Local.still) mayHang_idle)
  | mem => exact prompt_follows (showing_follows (Shell.cmdMem_showing _))

variable (F : Features)

theorem dispatch_follows (cmd : List UInt8) (argv : List (List UInt8)) :
    (Shell.dispatch F dev cmd argv).wp (monitor .shell) {} AtLabel := by
  unfold Shell.dispatch
  rw [Prog.wp_ite]
  split
  · rw [Prog.wp_ite]
    split
    · exact Prog.wp_step ⟨trivial, trivial⟩ fun _ _ => rfl
    · refine Prog.wp_step ⟨trivial, trivial⟩ fun _ _ => ?_
      apply Prog.wp_bind_of _ _ _ (showing_follows (Shell.listCommands_showing _))
      rintro _ _ rfl
      apply Prog.wp_bind_of _ _ _ (showing_follows (Shell.listCommands_showing _))
      rintro _ _ rfl
      exact Prog.wp_step ⟨trivial, trivial⟩ fun _ _ => rfl
  · cases Shell.cmdexec (Shell.shellCommands F) (Shell.text cmd) with
    | some c => exact command_follows dev argv c
    | none =>
      refine Prog.wp_step ⟨trivial, trivial⟩ fun _ _ => ?_
      exact Prog.wp_step ⟨trivial, trivial⟩ fun _ _ => rfl

theorem execute_follows (line : List UInt8) :
    (Shell.execute F dev line).wp (monitor .shell) {} AtLabel := by
  unfold Shell.execute
  split
  next cmd saveptr _ =>
  split
  · exact Prog.wp_step ⟨trivial, trivial⟩ fun _ _ => rfl
  · rfl
  · exact dispatch_follows dev F _ _

theorem key_follows (line : List UInt8) :
    (Shell.key F dev line).wp (monitor .shell) {} AtLabel := by
  refine Prog.wp_step ⟨fun _ => rfl, trivial⟩ fun c _ => ?_
  simp only [Prog.wp_ite]
  split
  · split
    · iterate 2 refine Prog.wp_step ⟨trivial, trivial⟩ fun _ _ => ?_
      exact Prog.wp_step ⟨trivial, trivial⟩ fun _ _ => rfl
    · rfl
  split
  · exact Prog.wp_step ⟨trivial, trivial⟩ fun _ _ => execute_follows dev F line
  split
  · rfl
  split
  · exact Prog.wp_step ⟨trivial, trivial⟩ fun _ _ => rfl
  · rfl

theorem shell_follows (l : Shell.Label) (h : AtLabel l φ) :
    (Shell.code F dev l).wp (monitor .shell) φ AtLabel := by
  have hprompt : Shell.prompt.wp (monitor .shell) {} AtLabel :=
    Prog.wp_step ⟨trivial, trivial⟩ fun _ _ => rfl
  match l, h with
  | .start, rfl =>
    refine Prog.wp_step ⟨trivial, trivial⟩ fun _ _ => ?_
    exact Prog.wp_step ⟨trivial, trivial⟩ fun _ _ => rfl
  | .prompt, rfl => exact hprompt
  | .key line, rfl => exact key_follows dev F line
  | .radio (.drain cfg), rfl => exact radio_follows (waits_uart.drain_follows cfg)
  | .radio (.reply cfg cmd timeout index), rfl =>
    exact radio_follows (waits_uart.reply_follows cfg cmd timeout index)
  | .radio .start, rfl => exact hprompt
  | .radio .ping, rfl => exact hprompt
  | .radio .transmit, rfl => exact hprompt
  | .radio .produce, rfl => exact hprompt
  | .radio .power, rfl => exact hprompt
  | .radio .prompt, rfl => exact hprompt
  | .radio .busOps, rfl => exact hprompt

end Shell

/-! ## All threads -/

/-- Between the blocks of a thread. -/
def Continues : Thread → Label → Phase → Prop
  | .shell, .shell l, φ => AtLabel l φ
  | _, _, φ => φ = {}

theorem sensor_follows (x : Setup) (s : Sensor) (l : Label) :
    (sensorCode x s l).wp (monitor (.sensor s)) {} fun _ φ => φ = {} := by
  unfold sensorCode
  split
  · apply Prog.wp_bind_of _ _ _ (lift_routine _ (bmp280_routine x.fuel x.bmp280Line x.bmp280 _))
    rintro _ _ rfl
    rfl
  · apply Prog.wp_bind_of _ _ _ (lift_routine _ (bh1750_routine _))
    rintro _ _ rfl
    rfl
  · apply Prog.wp_bind_of _ _ _ (lift_routine _ (veml7700_routine _ _))
    rintro _ _ rfl
    rfl
  · apply Prog.wp_bind_of _ _ _ (ml8511_follows _ x.uv _)
    rintro _ _ rfl
    rfl
  · apply Prog.wp_bind_of _ _ _ (rain_follows _ _)
    rintro _ _ rfl
    rfl
  · apply Prog.wp_bind_of _ _ _ (lift_routine _ (windStart_routine _))
    rintro _ _ rfl
    rfl
  · apply Prog.wp_bind_of _ _ _ (lift_routine _ (windLoop_routine _ _))
    rintro _ _ rfl
    rfl
  · apply Prog.wp_bind_of _ _ _ (lift_follows _ (as3935Start_follows x.as3935 _))
    rintro _ _ rfl
    rfl
  · apply Prog.wp_bind_of _ _ _ (lift_follows _ (as3935Loop_follows x.as3935 _ _ _))
    rintro _ _ rfl
    rfl
  · apply Prog.wp_bind_of _ _ _ (power_follows _ x.fuel x.power _)
    rintro _ _ rfl
    rfl
  · rfl

theorem registry_follows (m : Mail) :
    (liftRegistry (registerThread m)).wp (monitor (.registry m)) {} fun _ φ => φ = {} := by
  refine Prog.wp_step ⟨fun _ => rfl, trivial⟩ fun record _ => ?_
  exact Prog.wp_step ⟨trivial, trivial⟩ fun _ _ => rfl

/-- **Every block of every thread keeps the order of the locks.** -/
theorem body_follows (x : Setup) (t : Thread) (l : Label) (φ : Phase) (h : Continues t l φ) :
    (body x t l).wp (monitor t) φ (Continues t) := by
  unfold body
  split
  · cases h
    apply Prog.wp_bind_of _ _ _ (hc12_follows _)
    rintro _ _ rfl
    rfl
  · apply Prog.wp_bind_of _ _ _ (shell_follows x.as3935 x.features _ h)
    intro l φ hl
    exact hl
  · cases h
    exact sensor_follows x _ _
  · cases h
    apply Prog.wp_bind_of _ _ _ (registry_follows _)
    rintro _ _ rfl
    rfl
  · cases h
    exact Prog.wp_step ⟨trivial, trivial⟩ fun _ _ => rfl
  · cases h
    exact Prog.wp_step ⟨trivial, trivial⟩ fun _ _ => rfl
  · exact h

/-! ## The invariant -/

/-- The phases fit the locks and the messages. -/
structure Fits (ph : Thread → Phase) (s : State) : Prop where
  good : Good (Phase.held ∘ ph) s.locks
  meeting : Meeting (Phase.talk ∘ ph) s.msgs

theorem Fits.call {ph : Thread → Phase} {s : State} {t : Thread} {c : Call} {r : Reply c}
    (h : Fits ph s) (ha : (monitor t).allows (ph t) c) (hr : possible t s c r) :
    Fits (Function.update ph t ((monitor t).next (ph t) c r)) (effect t s c r) where
  good := by
    rw [Function.comp_update]
    exact h.good.call ha.1 hr.1
  meeting := by
    rw [Function.comp_update]
    exact h.meeting.call ha.2 hr.2

theorem reachable_inv {x : Setup} {cfg : AppConfiguration} {p : Pool Thread Call Reply Label State}
    (h : (system x).Reachable (initial x cfg) p) : System.Inv monitor Continues Fits p := by
  refine h.invariant (body_follows x) (fun ph s t c r hJ ha hr => ⟨trivial, hJ.call ha hr⟩) ?_
  refine ⟨fun _ => {}, fun t => ?_, ?_⟩
  · cases t <;> rfl
  · exact ⟨Good.initial, Meeting.initial⟩

/-! ## No deadlock -/

/-- The shell waits for the thread that has its message to take or to release. -/
def meets (s : State) : Call → Thread → Prop
  | .chMsgSent x, u => u = .sensor x ∧ s.msgs x ≠ .idle
  | _, _ => False

/-- Thread `t` waits for thread `u`. -/
def Waits (p : Pool Thread Call Reply Label State) : Thread → Thread → Prop :=
  WaitsFor locking State.locks meets p

/-- A thread that waits for no other thread has a call that can be answered. -/
theorem exists_answer {u : Thread} {s : State} {c : Call}
    (hfree : ∀ l, action c = .acquire l → s.locks.taken l = false)
    (hsent : ∀ x, c = .chMsgSent x → s.msgs x = .idle)
    (hget : c = .chMsgGet → ∃ m, s.msgs.inbox u = .taken m) : ∃ r, possible u s c r := by
  cases c with
  | fw c =>
    refine ⟨anyReply c, ?_, trivial⟩
    cases c <;> first
      | trivial
      | exact hfree _ rfl
      | exact fun h => by cases h
  | registry c =>
    cases c with
    | post m d => exact ⟨false, trivial, trivial⟩
    | fetch m => exact ⟨.hc12, trivial, trivial⟩
    | put m id d => exact ⟨(), trivial, trivial⟩
    | chThdSleepMilliseconds ms => exact ⟨(), trivial, trivial⟩
  | adcAcquireBus => exact ⟨(), hfree .adc rfl, trivial⟩
  | adcWait => exact ⟨(.ok, 0), trivial, trivial⟩
  | palReadLine l => exact ⟨false, trivial, trivial⟩
  | chMsgSent x => exact ⟨(), trivial, hsent x rfl⟩
  | chMsgWait timeout => exact ⟨false, trivial, fun h => by cases h⟩
  | chMsgGet =>
    obtain ⟨m, hm⟩ := hget rfl
    exact ⟨m, trivial, hm⟩
  | as3935BSemWaitTimeout ticks => exact ⟨false, (fun h => by cases h), trivial⟩
  | streamRead => exact ⟨(0 : UInt8), trivial, trivial⟩
  | scheduleList i => exact ⟨none, trivial, trivial⟩
  | interval s => exact ⟨(0 : UInt16), trivial, trivial⟩
  | hwList i => exact ⟨none, trivial, trivial⟩
  | hwStatus d => exact ⟨.ok, trivial, trivial⟩
  | hwValue d i => exact ⟨(0 : UInt32), trivial, trivial⟩
  | heapStatus => exact ⟨(0, 0, 0, 0), trivial, trivial⟩
  | _ => exact ⟨(), trivial, trivial⟩

section Deadlock

variable {x : Setup} {p : Pool Thread Call Reply Label State} {ph : Thread → Phase}

theorem allows_of_nextCall (hwp : ∀ t, (p.prog t).wp (monitor t) (ph t) (Continues t))
    {t : Thread} {c : Call} (hc : p.nextCall t = some c) : (monitor t).allows (ph t) c :=
  (Pool.aboutTo_of_nextCall hc).allows (hwp t)

/-- Only the shell waits for another thread, and it waits for a sensor thread. -/
theorem not_meet_of_meets (hwp : ∀ t, (p.prog t).wp (monitor t) (ph t) (Continues t))
    (c : Call) (u : Thread) (c' : Call) (hmeets : meets p.shared c u)
    (hc' : p.nextCall u = some c') : action c' ≠ .meet := by
  intro hact
  have hallows := allows_of_nextCall hwp hc'
  cases c with
  | chMsgSent x =>
    obtain ⟨rfl, -⟩ := hmeets
    cases c' with
    | chMsgSent y =>
      obtain ⟨-, hshell, -⟩ := hallows
      cases hshell
    | fw c' => cases c' <;> cases hact
    | registry c' => cases c' <;> cases hact
    | _ => cases hact
  | _ => exact hmeets

/-- Thread `u` enters its next block, or makes a call that can be answered. -/
def CanStep (x : Setup) (p : Pool Thread Call Reply Label State) (u : Thread) : Prop :=
  (∃ l, p.prog u = .ret l) ∨
    ∃ c k r, p.prog u = .call c k ∧ (system x).possible u p.shared c r

/-- A thread at the end of a chain of waits can step, unless it has hung. -/
theorem canStep_of_no_wait (x : Setup)
    (hwp : ∀ t, (p.prog t).wp (monitor t) (ph t) (Continues t)) (hfits : Fits ph p.shared)
    {u : Thread} (hnone : ∀ v, ¬ Waits p u v) (hhang : p.prog u ≠ .hang) : CanStep x p u := by
  cases hprog : p.prog u with
  | ret l => exact .inl ⟨l, hprog⟩
  | hang => exact absurd hprog hhang
  | call c k =>
    have hc : p.nextCall u = some c := by rw [Pool.nextCall, hprog]
    have hallows := allows_of_nextCall hwp hc
    have hanswer : ∃ r, possible u p.shared c r := by
      apply exists_answer
      · intro l hact
        exact free_of_no_wait hfits.good hc hact hnone
      · rintro y rfl
        by_contra hne
        exact hnone (.sensor y) ⟨_, hc, rfl, hne⟩
      · rintro rfl
        obtain ⟨-, ⟨y, rfl⟩, hserving⟩ := hallows
        have hserves := hfits.meeting.server y
        rw [Function.comp_apply, hserving] at hserves
        exact hserves
    obtain ⟨r, hr⟩ := hanswer
    exact .inr ⟨c, k, r, hprog, hr⟩

/-- **No deadlock.** However the threads and the interrupts of the station
interleave: a lock has one holder; no thread waits for itself through others;
from every thread the chain of waits leads to one that can step, or that has
hung with no lock but `uart_bsem`; and a thread that waits for a message, its
receiver, a record, a key or an interrupt holds no lock. -/
theorem station_no_deadlock (x : Setup) (cfg : AppConfiguration)
    (p : Pool Thread Call Reply Label State) (h : (system x).Reachable (initial x cfg) p) :
    (∀ l t u, p.shared.locks.holds t l = true → p.shared.locks.holds u l = true → t = u) ∧
    (∀ t, ¬ TransGen (Waits p) t t) ∧
    (∀ t, ∃ u, ReflTransGen (Waits p) t u ∧
      (CanStep x p u ∨
        p.prog u = .hang ∧ ∀ l, l ≠ .uart → p.shared.locks.holds u l = false)) ∧
    ∀ t c, p.nextCall t = some c → action c = .meet ∨ action c = .alone →
      ∀ l, p.shared.locks.holds t l = false := by
  obtain ⟨ph, hwp, hfits⟩ := reachable_inv h
  have hholds : ∀ t l, p.shared.locks.holds t l = (ph t).held l := fun t l => by
    rw [hfits.good.holds]
    rfl
  have hrank : ∀ l, rank l < 2 := fun l => by cases l <;> decide
  have hchain := fun t => no_deadlock (fun t c hc => (allows_of_nextCall hwp hc).1) hfits.good hrank
    (not_meet_of_meets hwp) t
  refine ⟨fun l t u ht hu => (hfits.good.lock l).unique t u ht hu, fun t => (hchain t).1, fun t => ?_,
    fun t c hc hact l => ?_⟩
  · obtain ⟨u, hwaits, hend⟩ := (hchain t).2
    refine ⟨u, hwaits, ?_⟩
    by_cases hhang : p.prog u = .hang
    · refine .inr ⟨hhang, fun l hl => ?_⟩
      have hu := hwp u
      rw [hhang] at hu
      rw [hholds]
      exact hu l hl
    · exact .inl (canStep_of_no_wait x hwp hfits hend hhang)
  · have hallows := (allows_of_nextCall hwp hc).1
    rw [hholds]
    unfold Locking.Allows at hallows
    rcases hact with hact | hact
    · simp only [locking, hact] at hallows
      exact hallows l
    · simp only [locking, hact] at hallows
      exact hallows l

/-- A setup with both sensors of the run below. -/
def twoSensors : Setup where
  features s := s = .bh1750 ∨ s = .as3935
  fuel := 0
  bmp280Line := none
  bmp280 := ⟨fun _ => 0, fun _ => 0, fun _ => 0⟩
  veml7700 := ⟨fun _ => 0, id, fun _ _ => 0, fun _ _ => 0, fun _ _ => false, id⟩
  ml8511Line := false
  uv _ := none
  power := ⟨fun _ _ => 0, fun _ _ => 0⟩
  as3935 := 3

/-- The lightning sensor has its semaphore and waits for the bus of the light
sensor. -/
theorem station_no_deadlock_as3935 :
    ∃ p, (system twoSensors).Reachable (initial twoSensors ⟨0, 0, fun _ => 60⟩) p ∧
      Waits p (.sensor .as3935) (.sensor .bh1750) ∧
      p.shared.locks.holds (.sensor .as3935) .as3935 = true ∧
      ¬ TransGen (Waits p) (.sensor .as3935) (.sensor .as3935) := by
  obtain ⟨p, hp, hf⟩ := System.Reachable.exists_of_playAll (system twoSensors)
    (initial twoSensors ⟨0, 0, fun _ => 60⟩)
    [(.sensor .bh1750, ⟨.registry (.post .schedule (.sensor .bh1750)), true⟩),
      (.sensor .bh1750, ⟨.fw (.chThdSleepMilliseconds 1000), ()⟩),
      (.sensor .bh1750, ⟨.fw (.setHwStatus .unknown), ()⟩),
      (.sensor .bh1750, ⟨.fw .i2cAcquireBus, ()⟩),
      (.sensor .as3935, ⟨.registry (.post .schedule (.sensor .as3935)), true⟩),
      (.sensor .as3935, ⟨.fw (.chThdSleepMilliseconds 1000), ()⟩),
      (.sensor .as3935, ⟨.fw .as3935BSemWait, ()⟩)]
    (fun p => (p.nextCall (.sensor .as3935), p.shared.locks.holds (.sensor .bh1750) .i2c,
      p.shared.locks.holds (.sensor .as3935) .as3935))
    (b := (some (.fw .i2cAcquireBus), true, true)) (by decide +kernel)
  simp only [Prod.mk.injEq] at hf
  obtain ⟨hnext, hbus, hheld⟩ := hf
  refine ⟨p, hp, ⟨_, hnext, hbus⟩, hheld, ?_⟩
  exact (station_no_deadlock twoSensors ⟨0, 0, fun _ => 60⟩ p hp).2.1 (.sensor .as3935)

end Deadlock

end MeteoL053.Station.Locks
