import MeteoL053.Bus.Drivers
import MeteoL053.Bus.Run

/-!
One device on the bus, and every way its transfers can go. The environment
decides at every operation whether `checkI2CCondition` finds the driver ready,
how the transfer ends, and whether a transfer that failed has reached the device
all the same.
-/

namespace MeteoL053.Bus

open CallTree

/-- What becomes of a checked operation: the check fails; the transfer fails,
before or after the device has taken it; or it succeeds. -/
inductive Outcome where
  | refused
  | lost
  | late
  | done
  deriving DecidableEq, Repr

/-- The device has taken the transfer. -/
def Outcome.Reached (o : Outcome) : Prop := o = .late ∨ o = .done

instance : DecidablePred Outcome.Reached := fun _ => inferInstanceAs (Decidable (_ ∨ _))

/-- The device, and the transfer under way. -/
structure Site (D : Type) where
  world : World
  device : D
  tx : List UInt8
  rxBytes : Nat

/-- The answers of the kernel and the HAL; what the device sends back to a
transfer and its state then; which failed transfers have reached it. -/
structure Wiring (D : Type) where
  env : Env
  transfer : List Event → List UInt8 → Nat → D → List UInt8 × D
  reaches : List Event → Bool

/-- The world after the call `c` with the answer `r`. -/
def World.record (env : Env) (w : World) (c : Call) (r : Reply c) : World where
  now := w.time env + duration c
  trace := ⟨w.time env, c, r⟩ :: w.trace

namespace Wiring

variable {D : Type} (x : Wiring D) (s : Site D)

/-- A call that is not about the transfer. -/
def pass (c : Call) : Site D := { s with world := s.world.after x.env c }

/-- How the transfer under way ends. -/
def ending : Outcome :=
  if (s.world.reply x.env .i2cWait).1 = .ok then .done
  else if x.reaches s.world.trace then .late else .lost

/-- What the device makes of the transfer under way. -/
def delivery : List UInt8 × D := x.transfer s.world.trace s.tx s.rxBytes s.device

/-- The result of the transfer; the receive buffer of a failed one may hold anything. -/
def waited : Msg × List UInt8 :=
  if x.ending s = .done then (.ok, (x.delivery s).1) else s.world.reply x.env .i2cWait

/-- The end of the transfer. -/
def finish : Site D where
  world := s.world.record x.env .i2cWait (x.waited s)
  device := if (x.ending s).Reached then (x.delivery s).2 else s.device
  tx := s.tx
  rxBytes := s.rxBytes

def answer : Handler Call Reply (Site D) := fun s c =>
  match c with
  | .i2cMasterTransmit addr tx rxBytes =>
    ((), { x.pass s (.i2cMasterTransmit addr tx rxBytes) with tx, rxBytes })
  | .i2cWait => (x.waited s, x.finish s)
  | c => (s.world.reply x.env c, x.pass s c)

/-- The result of `checkI2CCondition`, and what it leaves. -/
def check : Bool × Site D :=
  let s₁ := x.pass s .i2cState
  if s.world.reply x.env .i2cState = I2cState.locked then
    let s₂ := x.pass (x.pass s₁ .i2cStop) .i2cStart
    (s₂.world.reply x.env .i2cState = I2cState.ready, x.pass s₂ .i2cState)
  else (s₁.world.reply x.env .i2cState = I2cState.ready, x.pass s₁ .i2cState)

theorem check_device : (x.check s).2.device = s.device := by
  unfold check
  dsimp only
  split <;> rfl

theorem checkI2CCondition_run :
    checkI2CCondition.run x.answer s = some ((x.check s).1, (x.check s).2) := by
  have hstate : x.answer s .i2cState = (s.world.reply x.env .i2cState, x.pass s .i2cState) := rfl
  unfold checkI2CCondition check
  simp only [Prog.perform_bind, Prog.run_call, hstate]
  by_cases hlocked : s.world.reply x.env .i2cState = I2cState.locked
  · rw [if_pos hlocked, if_pos hlocked]
    rfl
  · rw [if_neg hlocked, if_neg hlocked]
    rfl

/-- A result that is the same for every failed transfer. -/
theorem result_waited {α : Type} {bad : α} {result : Msg → List UInt8 → α} (refused : α)
    (hbad : ∀ msg rx, msg ≠ .ok → result msg rx = bad) :
    result (x.waited s).1 (x.waited s).2 =
      match x.ending s with
      | .refused => refused
      | .lost | .late => bad
      | .done => result .ok (x.delivery s).1 := by
  unfold waited ending
  by_cases hmsg : (s.world.reply x.env .i2cWait).1 = .ok
  · simp only [hmsg, if_true]
  · by_cases hr : x.reaches s.world.trace = true <;> simp [hmsg, hr, hbad]

section Operation

variable (addr : UInt8) (tx : List UInt8) (rxBytes : Nat)

/-- The bus is acquired and the driver checked. -/
def checked : Bool × Site D := x.check (x.pass s .i2cAcquireBus)

/-- The transfer is under way. -/
def started : Site D :=
  { x.pass (x.checked s).2 (.i2cMasterTransmit addr tx rxBytes) with tx, rxBytes }

/-- What becomes of an operation that starts in `s`. -/
def outcome : Outcome :=
  if (x.checked s).1 then x.ending (x.started s addr tx rxBytes) else .refused

/-- The bytes that a successful operation reads. -/
def sent : List UInt8 := (x.delivery (x.started s addr tx rxBytes)).1

/-- After the operation. -/
def after : Site D :=
  x.pass (x.pass (if (x.checked s).1 then x.finish (x.started s addr tx rxBytes)
    else (x.checked s).2) .i2cReleaseBus) .opReturn

/-- An operation that makes the same of every failed transfer. -/
theorem checkedOp_run {α : Type} {failed bad : α} {result : Msg → List UInt8 → α}
    (hbad : ∀ msg rx, msg ≠ .ok → result msg rx = bad) :
    (checkedOp (.transmit addr tx rxBytes) failed result).run x.answer s =
      some (match x.outcome s addr tx rxBytes with
        | .refused => failed
        | .lost | .late => bad
        | .done => result .ok (x.sent s addr tx rxBytes), x.after s addr tx rxBytes) := by
  have hacquire : (checkedOp (.transmit addr tx rxBytes) failed result).run x.answer s =
      (checkI2CCondition >>= fun ok => _).run x.answer (x.pass s .i2cAcquireBus) := rfl
  rw [hacquire, Prog.run_bind_of (x.checkI2CCondition_run _), ← checked]
  unfold outcome after sent
  cases (x.checked s).1 with
  | false => rfl
  | true =>
    rw [if_pos rfl, if_pos rfl, ← x.result_waited _ failed hbad]
    rfl

/-- An operation that only writes. -/
theorem checkedOp_run_write :
    (checkedOp (.transmit addr tx rxBytes) false fun msg _ => decide (msg = .ok)).run x.answer s =
      some (decide (x.outcome s addr tx rxBytes = .done), x.after s addr tx rxBytes) := by
  rw [x.checkedOp_run s addr tx rxBytes fun _ _ hmsg => decide_eq_false hmsg]
  cases x.outcome s addr tx rxBytes <;> rfl

/-- The device takes what reaches it. -/
theorem after_device :
    (x.after s addr tx rxBytes).device =
      if (x.outcome s addr tx rxBytes).Reached then
        (x.delivery (x.started s addr tx rxBytes)).2
      else s.device := by
  unfold after outcome
  cases hcheck : (x.checked s).1 with
  | false => exact x.check_device _
  | true =>
    change (if _ then _ else (x.checked s).2.device) = _
    rw [if_pos rfl, checked, check_device]
    rfl

end Operation

/-! ## What a run adds to the trace -/

section Seen

variable {α β : Type} (f : Call → Option β) {p : Fw α} {a : α} {s s' : Site D}

theorem answer_seen (s : Site D) (c : Call) :
    (x.answer s c).2.world.seen f = (f c).toList ++ s.world.seen f := by
  have htrace : (x.answer s c).2.world.trace =
      ⟨s.world.time x.env, c, (x.answer s c).1⟩ :: s.world.trace := by
    cases c <;> rfl
  unfold World.seen
  rw [htrace]
  cases hc : f c with
  | none => exact List.filterMap_cons_none (f := fun e : Event => f e.call) hc
  | some b => exact List.filterMap_cons_some (f := fun e : Event => f e.call) hc

theorem run_seen_append (hrun : p.run x.answer s = some (a, s')) :
    ∃ new, s'.world.seen f = new ++ s.world.seen f := by
  induction p generalizing s with
  | ret b =>
    cases hrun
    exact ⟨[], rfl⟩
  | call c k ih =>
    obtain ⟨new, hnew⟩ := ih _ hrun
    exact ⟨new ++ (f c).toList, by rw [hnew, x.answer_seen f, List.append_assoc]⟩
  | hang => cases hrun

/-- A program without calls of interest adds none. -/
theorem run_seen {f : Call → Option β} (hp : p.All fun c => f c = none)
    (hrun : p.run x.answer s = some (a, s')) : s'.world.seen f = s.world.seen f := by
  induction p generalizing s with
  | ret b =>
    cases hrun
    rfl
  | call c k ih =>
    rw [ih _ (hp.2 _) hrun, x.answer_seen f, hp.1]
    rfl
  | hang => cases hrun

end Seen

/-- A driver operation as one call runs its code and reports its result. -/
theorem expand_busOp_run (op : BusOp) {r : op.Result} {s' : Site D}
    (hop : (performOp op).run x.answer s = some (r, s')) :
    (expand (ask (.busOp op))).run x.answer s = some (r, x.pass s' (.opDone op r)) := by
  have hcode : expand (ask (.busOp op)) = (performOp op >>= fun r =>
      ask (.opDone op r) >>= fun _ => pure r) := Prog.bind_ret _
  rw [hcode, Prog.run_bind_of hop]
  rfl

end Wiring

end MeteoL053.Bus
