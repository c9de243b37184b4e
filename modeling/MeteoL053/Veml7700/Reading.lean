import MeteoL053.Bus.Frames
import MeteoL053.Veml7700.Thread

/-!
Which light readings are from the call that returns them. The read of the ALS
register returns true when the check of the driver fails, and the count then is
the one of an earlier call.
-/

namespace MeteoL053.Veml7700

open CallTree

section Runs

variable {D ν : Type} (x : Bus.Wiring D) (d : Driver ν) (s : Bus.Site D)

/-! ## The read of the count -/

/-- What becomes of the read of the ALS register. -/
def alsOutcome : Bus.Outcome := x.outcome s d.addr [commandALS] 2

/-- The count that the read transfers when it succeeds. -/
def sentCount : UInt32 :=
  (Bus.word16 ((x.sent s d.addr [commandALS] 2).getD 1 0)
    ((x.sent s d.addr [commandALS] 2).getD 0 0)).toUInt32

/-- What `VEML7700_I2C__sing_reg_read` makes of it. -/
def alsResult : Bool × Option UInt32 :=
  match alsOutcome x d s with
  | .refused => (true, none)
  | .lost | .late => (false, none)
  | .done => (true, some (sentCount x d s))

/-- The count in `raw_counts` after the read. -/
def count : UInt32 := (alsResult x d s).2.getD d.rawCounts

def afterALS : Bus.Site D :=
  x.pass (x.after s d.addr [commandALS] 2)
    (.opDone (.veml7700Read d.addr commandALS) (alsResult x d s))

theorem singRegRead_run :
    (Bus.expand (singRegRead d commandALS)).run x.answer s =
      some (alsResult x d s, afterALS x d s) := by
  apply x.expand_busOp_run s (.veml7700Read d.addr commandALS)
  rw [Bus.performOp, Bus.veml7700Read, x.checkedOp_run s d.addr [commandALS] 2
    (fun msg rx hmsg => if_neg hmsg), if_pos rfl, alsResult, alsOutcome]
  cases x.outcome s d.addr [commandALS] 2 <;> rfl

theorem getALS_run :
    (Bus.expand (getALS d)).run x.answer s =
      some (((alsResult x d s).1, { d with rawCounts := count x d s }), afterALS x d s) := by
  rw [getALS, Bus.expand_bind, Prog.run_bind_of (singRegRead_run x d s)]
  rfl

/-! ## The writes of a range -/

/-- The bytes of a register write. -/
def writeBytes (i : Fin 4) : List UInt8 :=
  [UInt8.ofNat i, (d.registerCache i &&& 0xFF).toUInt8,
    (d.registerCache i >>> 8 &&& 0xFF).toUInt8]

/-- A register write succeeds, and what it leaves. -/
def written (i : Fin 4) : Bool × Bus.Site D :=
  let ok := decide (x.outcome s d.addr (writeBytes d i) 0 = .done)
  (ok, x.pass (x.after s d.addr (writeBytes d i) 0)
    (.opDone (.veml7700Write d.addr (UInt8.ofNat i) (d.registerCache i)) ok))

/-- Register writes up to the first that fails. -/
def writtenAll : List (Fin 4) → Bus.Site D → Bool × Bus.Site D
  | [], s => (true, s)
  | i :: is, s => if (written x d s i).1 then writtenAll is (written x d s i).2
    else (false, (written x d s i).2)

theorem singRegWrite_run (i : Fin 4) :
    (Bus.expand (singRegWrite d (UInt8.ofNat i) (d.registerCache i))).run x.answer s =
      some ((written x d s i).1, (written x d s i).2) :=
  x.expand_busOp_run s (.veml7700Write d.addr (UInt8.ofNat i) (d.registerCache i))
    (x.checkedOp_run_write s d.addr (writeBytes d i) 0)

theorem writeRegisters_run (is : List (Fin 4)) :
    (Bus.expand (writeRegisters d is)).run x.answer s =
      some ((writtenAll x d is s).1, (writtenAll x d is s).2) := by
  induction is generalizing s with
  | nil => rfl
  | cons i is ih =>
    rw [writeRegisters, Bus.expand_bind, Prog.run_bind_of (singRegWrite_run x d s i), writtenAll]
    cases (written x d s i).1 with
    | false => rfl
    | true => exact ih _

/-- `VEML7700_init` succeeds, and what it leaves. -/
def initialised : Bool × Bus.Site D :=
  ((writtenAll x d (List.finRange 4) s).1,
    if (writtenAll x d (List.finRange 4) s).1 then
      x.pass (writtenAll x d (List.finRange 4) s).2 (.chThdSleepMilliseconds 10)
    else (writtenAll x d (List.finRange 4) s).2)

theorem init_run :
    (Bus.expand (init d)).run x.answer s = some ((initialised x d s).1, (initialised x d s).2) := by
  rw [init, Bus.expand_bind, Prog.run_bind_of (writeRegisters_run x d s (List.finRange 4)),
    initialised]
  cases (writtenAll x d (List.finRange 4) s).1 with
  | false => rfl
  | true => rfl

end Runs

section Scale

variable {D ν : Type} (fl : Arithmetic ν) (x : Bus.Wiring D) (d : Driver ν) (s : Bus.Site D)

/-! ## The range -/

/-- The range that is due for a result: its gain and the flags `x1`, `x2` and `d8`
after the switch. -/
def due (result : ν) : Option (Gain × UInt8 × UInt8 × UInt8) :=
  if fl.lt (fl.lit 1880) result ∧ fl.lt result (fl.lit 3771) then
    if d.x1 = 1 then some (.x1, 0, 1, 1) else none
  else if fl.lt (fl.lit 3770) result then
    if d.d8 = 1 then some (.d8, 1, 1, 0) else none
  else
    if d.x2 = 1 then some (.x2, 1, 0, 1) else none

theorem selectRange_eq (result : ν) :
    selectRange fl d result =
      match due fl d result with
      | some (gain, x1, x2, d8) => switchRange d gain x1 x2 d8
      | none => pure (true, d) := by
  unfold selectRange due
  split
  · split <;> rfl
  · split
    · split <;> rfl
    · split <;> rfl

/-- The driver after the range was selected for a count, whether that succeeded,
and what it leaves. -/
def ranged (result : ν) : (Bool × Driver ν) × Bus.Site D :=
  match due fl d result with
  | some (gain, x1, x2, d8) =>
    let d' := initDefaultParamsGain d gain
    let r := initialised x d' s
    ((r.1, if r.1 then { d' with x1, x2, d8 } else d'), r.2)
  | none => ((true, d), s)

theorem selectRange_run (result : ν) :
    (Bus.expand (selectRange fl d result)).run x.answer s =
      some (((ranged fl x d s result).1.1, (ranged fl x d s result).1.2),
        (ranged fl x d s result).2) := by
  rw [selectRange_eq, ranged]
  cases due fl d result with
  | none => rfl
  | some r =>
    obtain ⟨gain, x1, x2, d8⟩ := r
    dsimp only
    rw [switchRange, Bus.expand_bind, Prog.run_bind_of (init_run x _ s)]
    cases (initialised x (initDefaultParamsGain d gain) s).1 with
    | false => rfl
    | true => rfl

/-- The driver with the count that is scaled. -/
def counted : Driver ν := { d with rawCounts := count x d s }

/-- The result that the call scales the count to. -/
def reading : ν := result fl d (count x d s)

/-- What selecting the range comes to in a call. -/
def selected : (Bool × Driver ν) × Bus.Site D :=
  ranged fl x (counted x d s) (afterALS x d s) (reading fl x d s)

/-- `VEML7700_getALSLux` on a device. -/
theorem getALSLux_run :
    (Bus.expand (getALSLux fl d)).run x.answer s =
      some (if (alsResult x d s).1 then
          if (selected fl x d s).1.1 then
            ((true, { (selected fl x d s).1.2 with lux := correct fl (reading fl x d s) }),
              (selected fl x d s).2)
          else ((false, (selected fl x d s).1.2), (selected fl x d s).2)
        else ((false, counted x d s), afterALS x d s)) := by
  rw [getALSLux, Bus.expand_bind, Prog.run_bind_of (getALS_run x d s)]
  cases (alsResult x d s).1 with
  | false => rfl
  | true =>
    have hscale : (Bus.expand (scaleLux fl (counted x d s) (count x d s))).run x.answer
        (afterALS x d s) = some (if (selected fl x d s).1.1 then
            ((true, { (selected fl x d s).1.2 with lux := correct fl (reading fl x d s) }),
              (selected fl x d s).2)
          else ((false, (selected fl x d s).1.2), (selected fl x d s).2)) := by
      have hselect := selectRange_run fl x (counted x d s) (afterALS x d s) (reading fl x d s)
      rw [← selected] at hselect
      rw [scaleLux, Bus.expand_bind]
      change (Bus.expand (selectRange fl (counted x d s) (reading fl x d s)) >>= _).run x.answer _ = _
      rw [Prog.run_bind_of hselect]
      cases (selected fl x d s).1.1 with
      | false => rfl
      | true => rfl
    exact hscale

/-! ## Readings of the call -/

/-- All four register writes succeed when a range switch is attempted. -/
def SwitchOk : Prop :=
  ∀ range, due fl d (reading fl x d s) = some range →
    (initialised x (initDefaultParamsGain (counted x d s) range.1) (afterALS x d s)).1 = true

theorem selected_ok_iff : (selected fl x d s).1.1 = true ↔ SwitchOk fl x d s := by
  unfold selected ranged SwitchOk
  have hdue : due fl (counted x d s) (reading fl x d s) = due fl d (reading fl x d s) := rfl
  rw [hdue]
  cases due fl d (reading fl x d s) with
  | none => simp
  | some range => simp

/-- The call returns true. -/
def Returns : Prop :=
  (alsOutcome x d s = .done ∨ alsOutcome x d s = .refused) ∧ SwitchOk fl x d s

/-- What `VEML7700_getALSLux` is to do: it returns true exactly when the count was
transferred in this call and every write of a range switch succeeded, and the
light is then that of the count. -/
structure Fresh (ok : Bool) (lux : ν) : Prop where
  returns : ok = true ↔ alsOutcome x d s = .done ∧ SwitchOk fl x d s
  lux : ok = true → lux = correct fl (result fl d (sentCount x d s))

/-- The condition: the check before the read of the count passes, or a range
switch is due for the count held from before and one of its writes fails. -/
def Checked : Prop := alsOutcome x d s ≠ .refused ∨ ¬ SwitchOk fl x d s

theorem getALSLux_ends :
    (Bus.expand (getALSLux fl d)).Ends x.answer s fun r _ =>
      (r.1 = true ↔ Returns fl x d s) ∧
      (r.1 = true → alsOutcome x d s = .done →
        r.2.lux = correct fl (result fl d (sentCount x d s))) := by
  unfold Prog.Ends
  rw [getALSLux_run]
  have hals : (alsResult x d s).1 = true ↔ alsOutcome x d s = .done ∨ alsOutcome x d s = .refused := by
    unfold alsResult
    cases alsOutcome x d s <;> simp
  have hselect := selected_ok_iff fl x d s
  unfold Returns
  rw [← hals, ← hselect]
  have hcount : alsOutcome x d s = .done → reading fl x d s = result fl d (sentCount x d s) := by
    intro hdone
    unfold reading count alsResult
    rw [hdone]
    rfl
  cases (alsResult x d s).1 with
  | false => exact ⟨_, _, rfl, by simp, by simp⟩
  | true =>
    cases (selected fl x d s).1.1 with
    | false => exact ⟨_, _, rfl, by simp, by simp⟩
    | true => exact ⟨_, _, rfl, by simp, fun _ hdone => congrArg (correct fl) (hcount hdone)⟩

/-- A failed check that goes unnoticed is the only flaw. -/
theorem returns_imp_done_iff :
    (Returns fl x d s → alsOutcome x d s = .done) ↔ Checked fl x d s := by
  unfold Returns Checked
  cases alsOutcome x d s <;> simp

theorem fresh_iff {ok : Bool} {lux : ν} (hok : ok = true ↔ Returns fl x d s)
    (hlux : ok = true → alsOutcome x d s = .done → lux = correct fl (result fl d (sentCount x d s))) :
    Fresh fl x d s ok lux ↔ Checked fl x d s := by
  rw [← returns_imp_done_iff]
  constructor
  · intro h hr
    exact (h.returns.mp (hok.mpr hr)).1
  · intro h
    refine ⟨?_, fun ht => hlux ht (h (hok.mp ht))⟩
    rw [hok]
    exact ⟨fun hr => ⟨h hr, hr.2⟩, fun ⟨hdone, hswitch⟩ => ⟨.inl hdone, hswitch⟩⟩

/-! ## The thread -/

/-- When a turn of the loop comes to the reading. -/
def settled (status : HwStatus) : Bus.Site D :=
  if status = .error then x.pass (initialised x d s).2 (.chThdSleepMilliseconds 100) else s

theorem tryReconfigure_run (status : HwStatus) :
    (Bus.expand (tryReconfigure d status)).run x.answer s = some ((), settled x d s status) := by
  unfold tryReconfigure settled
  split
  · rw [Bus.expand_bind, Prog.run_bind_of (init_run x d s)]
    rfl
  · rfl

/-- The status OK, or a frame that is posted. -/
def reported : Call → Option Unit
  | .setHwStatus .ok | .chMBPost _ => some ()
  | _ => none

theorem reported_busCall (c : Call) (hc : Bus.BusCall c) : reported c = none := by
  cases c <;> first | rfl | exact hc.elim

/-- A call that reports nothing. -/
def Quiet (c : Call) : Prop := reported c = none

theorem writeRegisters_quiet (is : List (Fin 4)) : (writeRegisters d is).All Quiet := by
  induction is with
  | nil => trivial
  | cons i is ih =>
    refine ⟨rfl, fun ok => ?_⟩
    cases ok with
    | false => trivial
    | true => exact ih

theorem init_quiet : (init d).All Quiet := by
  apply Prog.all_bind (writeRegisters_quiet d _)
  intro ok
  cases ok with
  | false => trivial
  | true => exact ⟨rfl, fun _ => trivial⟩

theorem tryReconfigure_quiet (status : HwStatus) : (tryReconfigure d status).All Quiet := by
  unfold tryReconfigure
  split
  · exact Prog.all_bind (init_quiet d) fun _ => ⟨rfl, fun _ => trivial⟩
  · trivial

theorem selectRange_quiet (result : ν) : (selectRange fl d result).All Quiet := by
  rw [selectRange_eq]
  cases due fl d result with
  | none => trivial
  | some range =>
    apply Prog.all_bind (init_quiet _)
    intro ok
    cases ok <;> trivial

theorem getALSLux_quiet : (getALSLux fl d).All Quiet := by
  have hread : (getALS d).All Quiet := ⟨rfl, fun _ => trivial⟩
  apply Prog.all_bind hread
  rintro ⟨ok, d'⟩
  cases ok with
  | false => trivial
  | true =>
    apply Prog.all_bind (selectRange_quiet fl _ _)
    rintro ⟨ok, d''⟩
    cases ok <;> trivial

theorem report_ends (ok : Bool) (lux : ν) :
    (Bus.expand (report fl ok lux)).Ends x.answer s fun _ s' =>
      s'.world.seen reported ≠ s.world.seen reported ↔ ok = true := by
  cases ok with
  | false => exact ⟨_, _, rfl, iff_of_false (fun h => h rfl) Bool.false_ne_true⟩
  | true =>
    let shown := x.pass (x.pass (x.pass (x.pass s .chSysLock) (.setHwValue 0 (fl.toUInt32 lux)))
      (.setHwStatus .ok)) .chSysUnlock
    change (Bus.expand (Stream.sendReading hwId [fl.toUInt32 lux] >>= fun _ => pure HwStatus.ok)).Ends
      x.answer shown _
    rw [Bus.expand_bind]
    apply Prog.ends_bind
    obtain ⟨_, s', hrun, -⟩ := Bus.sendReading_ends x shown hwId [fl.toUInt32 lux] (by simp)
    obtain ⟨new, hnew⟩ := x.run_seen_append reported hrun
    have hshown : shown.world.seen reported = () :: s.world.seen reported := rfl
    rw [hshown] at hnew
    refine ⟨(), s', hrun, .ok, s', rfl, iff_of_true (fun h => ?_) rfl⟩
    have hlength := congrArg List.length (hnew.symm.trans h)
    simp only [List.length_append, List.length_cons] at hlength
    omega

/-- A turn reports a reading exactly when the call for it returns true. -/
theorem loop_ends (status : HwStatus) (interval : UInt16) :
    (Bus.expand (loop fl d status interval)).Ends x.answer s fun _ s' =>
      s'.world.seen reported ≠ s.world.seen reported ↔ Returns fl x d (settled x d s status) := by
  have hloop : loop fl d status interval = (tryReconfigure d status >>= fun _ =>
      getALSLux fl d >>= fun r => report fl r.1 r.2.lux >>= fun status' =>
      ask (.chMsgWaitTimeout (Config.waitTimeout interval)) >>= fun msg =>
      pure (.loop r.2 status' (Config.nextInterval interval msg))) := rfl
  obtain ⟨⟨ok, d'⟩, s₁, hread, hok, -⟩ := getALSLux_ends fl x d (settled x d s status)
  obtain ⟨status', s₂, hreport, hseen⟩ := report_ends fl x s₁ ok d'.lux
  have hquiet : s₁.world.seen reported = s.world.seen reported := by
    have hboth : (Bus.expand (tryReconfigure d status >>= fun _ => getALSLux fl d)).run x.answer s =
        some ((ok, d'), s₁) := by
      rw [Bus.expand_bind, Prog.run_bind_of (tryReconfigure_run x d s status)]
      exact hread
    apply x.run_seen _ hboth
    apply Bus.expand_all _ reported_busCall fun _ _ => rfl
    exact Prog.all_bind (tryReconfigure_quiet d status) fun _ => getALSLux_quiet fl d
  unfold Prog.Ends
  rw [hloop, Bus.expand_bind, Prog.run_bind_of (tryReconfigure_run x d s status), Bus.expand_bind,
    Prog.run_bind_of hread, Bus.expand_bind, Prog.run_bind_of hreport]
  refine ⟨_, _, rfl, ?_⟩
  rw [← hok, ← hseen, hquiet]
  exact Iff.rfl

end Scale

/-- For every arithmetic, every history of calls, here any state of the driver and
of the bus, and every sequence of check and transfer outcomes:
`VEML7700_getALSLux` returns true exactly for a count of this call and with the
light of that count, if and only if the check before the read passes, or a range
switch is due for the count held from before and one of its writes fails. Under
the same condition, and only then, a turn of the thread sets the status OK or
posts a frame only for a count of this turn. -/
theorem light_fresh_iff {D ν : Type} (fl : Arithmetic ν) (x : Bus.Wiring D) (d : Driver ν)
    (s : Bus.Site D) :
    (∃ ok d' s', (Bus.expand (getALSLux fl d)).run x.answer s = some ((ok, d'), s') ∧
      (Fresh fl x d s ok d'.lux ↔ Checked fl x d s)) ∧
    ∀ status interval, ∃ l s', (Bus.expand (loop fl d status interval)).run x.answer s = some (l, s') ∧
      ((s'.world.seen reported ≠ s.world.seen reported →
          alsOutcome x d (settled x d s status) = .done) ↔
        Checked fl x d (settled x d s status)) := by
  constructor
  · obtain ⟨⟨ok, d'⟩, s', hrun, hok, hlux⟩ := getALSLux_ends fl x d s
    exact ⟨ok, d', s', hrun, fresh_iff fl x d s hok hlux⟩
  · intro status interval
    obtain ⟨l, s', hrun, hseen⟩ := loop_ends fl x d s status interval
    refine ⟨l, s', hrun, ?_⟩
    rw [hseen, returns_imp_done_iff]

/-- A sensor that counts 5000 on a bus whose driver is stopped when it is acquired
for the second time. -/
def stoppedOnce : Bus.Wiring Unit where
  env :=
    { delay := fun _ => 0
      reply := fun past c =>
        match c with
        | .i2cState =>
          if (past.filter fun e => e.call matches .i2cAcquireBus).length = 2 then I2cState.stop
          else I2cState.ready
        | c => anyReply c }
  transfer _ _ _ _ := ([0x88, 0x13], ())
  reaches _ := false

/-- What becomes of the read in the second of two turns of the loop, and how much
has been reported after the first and after the second. -/
def twoTurns (x : Bus.Wiring Unit) : Option (Bus.Outcome × Nat × Nat) := do
  let s := ⟨⟨0, []⟩, (), [], 0⟩
  let (l, s₁) ← (Bus.expand (loop exact (initDefaultParams exact) .ok 60)).run x.answer s
  match l with
  | .loop d status interval =>
    let (_, s₂) ← (Bus.expand (loop exact d status interval)).run x.answer s₁
    return (alsOutcome x d (settled x d s₁ status), (s₁.world.seen reported).length,
      (s₂.world.seen reported).length)
  | .start .. => none

/-- The second turn sets the status OK though its read was refused. -/
theorem stale_light_reported : twoTurns stoppedOnce = some (.refused, 1, 2) := by decide +kernel

end MeteoL053.Veml7700
