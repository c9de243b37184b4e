import MeteoL053.Lib.LockOrder
import MeteoL053.Station.Messages

/-!
The station does not deadlock: the locks of the bus, the ADC, the radio and the
lightning sensor, and the messages from the shell to the sensor threads.

`as3935_bsem` is held over operations on the bus; no other two locks are held
together, and none while a thread waits for a message, a key, a record or the
end of its own message. What is not about locks and messages is answered in any
way. `holds` and `msgs` are history variables where the kernel has queues.
-/

namespace MeteoL053.Station.Locks

open CallTree Config Registry LockOrder Relation

/-! ## The system -/

inductive LockId where
  /-- `hc12State.uart_bsem` -/
  | uart
  /-- the mutex of `ADCD1` -/
  | adc
  /-- `as3935_bsem` -/
  | as3935
  /-- the mutex of `I2CD1` -/
  | i2c
  deriving DecidableEq

/-- The bus may be taken under another lock. -/
def rank : LockId → Nat
  | .uart | .adc | .as3935 => 0
  | .i2c => 1

/-- What a call does to the locks. -/
def action : Call → Action LockId
  | .fw .chBSemWait => .acquire .uart
  | .fw (.chBSemWaitTimeout _) => .attempt .uart
  | .fw .chBSemSignal => .release .uart
  | .fw .as3935BSemWait => .acquire .as3935
  | .as3935BSemWaitTimeout _ => .attempt .as3935
  | .fw .as3935BSemSignal => .release .as3935
  | .fw .i2cAcquireBus => .acquire .i2c
  | .fw .i2cReleaseBus => .release .i2c
  | .adcAcquireBus => .acquire .adc
  | .adcReleaseBus => .release .adc
  | .chMsgSent _ => .meet
  | .chMsgSend .. | .chMsgWait _ | .streamRead | .waitForInterrupt => .alone
  | .registry (.fetch _) => .alone
  | _ => .neutral

/-- A wait with a timeout has got its semaphore. -/
def got : (c : Call) → Reply c → Bool
  | .fw (.chBSemWaitTimeout _), r => r
  | .as3935BSemWaitTimeout _, r => r
  | _, _ => false

def locking : Locking Call Reply LockId := ⟨action, got⟩

structure State where
  locks : LockOrder.Locks Thread LockId
  msgs : Messages

/-- A lock is taken when it is free. -/
def possible (t : Thread) (s : State) (c : Call) (r : Reply c) : Prop :=
  locking.Possible s.locks c r ∧ s.msgs.Possible t c r

def effect (t : Thread) (s : State) (c : Call) (r : Reply c) : State where
  locks := locking.effect t s.locks c r
  msgs := s.msgs.after t c r

/-- The whole station with its locks and messages. -/
def system (x : Setup) : System Thread Call Reply Label State where
  body := body x
  possible := possible
  effect := effect

instance (x : Setup) (t : Thread) (s : State) (c : Call) (r : Reply c) :
    Decidable ((system x).possible t s c r) :=
  inferInstanceAs (Decidable (_ ∧ _))

/-- When `main` has started the threads. -/
def initial (x : Setup) (cfg : AppConfiguration) : Pool Thread Call Reply Label State where
  shared := ⟨⟨fun _ => false, fun _ _ => false⟩, fun _ => .idle⟩
  prog t := .ret (startLabel x cfg t)

/-! ## The discipline of the threads -/

structure Phase where
  held : LockId → Bool := fun _ => false
  talk : Talk := .none

/-- A thread that hangs has at most the radio. -/
def Phase.MayHang (φ : Phase) : Prop := ∀ l, l ≠ .uart → φ.held l = false

def monitor (t : Thread) : Monitor Call Reply Phase where
  hangs := Phase.MayHang
  allows φ c := locking.Allows rank φ.held c ∧ φ.talk.Allows t c
  answers _ _ _ := True
  next φ c r := ⟨locking.after φ.held c r, φ.talk.next c r⟩

/-- The same for code that is lifted: an operation on the bus is one call, and so
is the wait for a message. -/
def fwMonitor (t : Thread) : Monitor MeteoL053.Call MeteoL053.Reply Phase where
  hangs := Phase.MayHang
  allows φ
    | .busOp _ => ∀ l, φ.held l = true → rank l < rank .i2c
    | .chMsgWaitTimeout _ => (∃ s, t = .sensor s) ∧ (∀ l, φ.held l = false) ∧ φ.talk = .none
    | c => (monitor t).allows φ (.fw c)
  answers _ _ _ := True
  next φ
    | .busOp _, _ => φ
    | .chMsgWaitTimeout _, _ => φ
    | .registerSchedule _, _ => φ
    | .registerHw _, _ => φ
    | c, r => (monitor t).next φ (.fw c) r

section Code

variable {t : Thread} {φ : Phase}

/-- The bus can be taken. -/
def Phase.CanBus (φ : Phase) : Prop := ∀ l, φ.held l = true → rank l < rank .i2c

theorem canBus_idle : Phase.CanBus {} := by
  intro l hl
  cases hl

theorem mayHang_idle : Phase.MayHang {} := fun _ _ => rfl

/-- The phase with one more lock. -/
def Phase.take (φ : Phase) (l : LockId) : Phase := { φ with held := Function.update φ.held l true }

theorem take_held (l : LockId) : (φ.take l).held = Function.update φ.held l true := rfl

theorem take_self (l : LockId) : (φ.take l).held l = true := by
  rw [take_held, Function.update_self]

theorem take_release (l : LockId) (h : φ.held l = false) :
    { φ with held := Function.update (φ.take l).held l false } = φ := by
  have hheld : Function.update (Function.update φ.held l true) l false = φ.held := by
    rw [Function.update_idem, ← h, Function.update_eq_self]
  unfold Phase.take
  rw [hheld]

theorem Phase.CanBus.not_held (h : φ.CanBus) : φ.held .i2c = false := by
  cases hi : φ.held .i2c with
  | false => rfl
  | true => exact absurd (h .i2c hi) (Nat.lt_irrefl _)

/-! ### Operations on the bus -/

theorem Ordinary.keeps {c : MeteoL053.Call} (h : Ordinary c) (hbus : φ.CanBus) :
    (fwMonitor t).allows φ c ∧ ∀ r, (fwMonitor t).answers φ c r → (fwMonitor t).next φ c r = φ := by
  cases c with
  | busOp op => exact ⟨hbus, fun _ _ => rfl⟩
  | _ => first | exact h.elim | exact ⟨⟨trivial, trivial⟩, fun _ _ => rfl⟩

/-- Code without locks keeps the locks. -/
theorem ordinary_follows {α : Type} {p : Fw α} (hp : p.All Ordinary) (hbus : φ.CanBus)
    (hhang : φ.MayHang) : p.wp (fwMonitor t) φ fun _ φ' => φ' = φ :=
  hp.wp (fun _ hc => Ordinary.keeps hc hbus) hhang

theorem checkI2CCondition_follows :
    Bus.checkI2CCondition.wp (fwMonitor t) φ fun _ φ' => φ' = φ := by
  refine Prog.wp_step ⟨trivial, trivial⟩ fun state _ => ?_
  split
  · refine Prog.wp_step ⟨trivial, trivial⟩ fun _ _ => ?_
    refine Prog.wp_step ⟨trivial, trivial⟩ fun _ _ => ?_
    exact Prog.wp_step ⟨trivial, trivial⟩ fun _ _ => rfl
  · exact Prog.wp_step ⟨trivial, trivial⟩ fun _ _ => rfl

theorem transfer_follows (x : Bus.Transfer) : x.run.wp (fwMonitor t) φ fun _ φ' => φ' = φ := by
  cases x with
  | transmit addr tx rxBytes =>
    exact Prog.wp_step ⟨trivial, trivial⟩ fun _ _ => ⟨⟨trivial, trivial⟩, fun _ _ => rfl⟩
  | receive addr rxBytes =>
    exact Prog.wp_step ⟨trivial, trivial⟩ fun _ _ => ⟨⟨trivial, trivial⟩, fun _ _ => rfl⟩

/-- The end of an operation gives the bus back. -/
theorem releaseBus_follows {α : Type} (a : α) (h : φ.CanBus) :
    (do MeteoL053.ask .i2cReleaseBus; MeteoL053.ask .opReturn; return a : Fw α).wp
      (fwMonitor t) (φ.take .i2c) fun _ φ' => φ' = φ := by
  refine Prog.wp_step ⟨take_self .i2c, trivial⟩ fun _ _ => ?_
  exact Prog.wp_step ⟨trivial, trivial⟩ fun _ _ => take_release .i2c h.not_held

theorem checkedOp_follows {α : Type} (x : Bus.Transfer) (failed : α)
    (result : Msg → List UInt8 → α) (h : φ.CanBus) :
    (Bus.checkedOp x failed result).wp (fwMonitor t) φ fun _ φ' => φ' = φ := by
  refine Prog.wp_step ⟨h, trivial⟩ fun _ _ => ?_
  apply Prog.wp_bind_of _ _ _ (checkI2CCondition_follows (φ := φ.take .i2c))
  rintro ok _ rfl
  cases ok with
  | false => exact releaseBus_follows failed h
  | true =>
    apply Prog.wp_bind_of _ _ _ (transfer_follows x)
    rintro ⟨msg, rx⟩ _ rfl
    exact releaseBus_follows (result msg rx) h

theorem performOp_follows (op : BusOp) (h : φ.CanBus) :
    (Bus.performOp op).wp (fwMonitor t) φ fun _ φ' => φ' = φ := by
  cases op with
  | bmp280WriteRegister8 dev addr value =>
    refine Prog.wp_step ⟨h, trivial⟩ fun _ _ => ?_
    apply Prog.wp_bind_of _ _ _ (transfer_follows (φ := φ.take .i2c) _)
    rintro ⟨msg, rx⟩ _ rfl
    exact releaseBus_follows _ h
  | as3935Write dev regAdd dataMask regData =>
    apply Prog.wp_bind_of _ _ _ (checkedOp_follows _ _ _ h)
    rintro _ _ rfl
    exact checkedOp_follows _ _ _ h
  | _ =>
    simp only [Bus.performOp]
    exact checkedOp_follows _ _ _ h

/-! ### Lifted code -/

theorem expand_follows {α : Type} {p : Fw α} {Q : α → Phase → Prop}
    (h : p.wp (fwMonitor t) φ Q) : (Bus.expand p).wp (fwMonitor t) φ Q := by
  refine Prog.wp_inline (fun φ c hc => ?_) p φ h
  cases c with
  | busOp op =>
    apply Prog.wp_bind_of _ _ _ (performOp_follows op hc)
    rintro r _ rfl
    exact Prog.wp_step ⟨trivial, trivial⟩ fun _ _ => ⟨trivial, rfl⟩
  | _ => exact ⟨hc, fun _ _ => ⟨trivial, rfl⟩⟩

theorem awaitInterval_follows (timeout : UInt32) (hs : ∃ s, t = .sensor s)
    (hheld : ∀ l, φ.held l = false) (htalk : φ.talk = .none) :
    (awaitInterval timeout).wp (monitor t) φ fun _ φ' => φ' = φ := by
  have hφ : ({ φ with talk := .none } : Phase) = φ := by rw [← htalk]
  refine Prog.wp_step ⟨hheld, hs, htalk⟩ fun r _ => ?_
  cases r with
  | false => rfl
  | true =>
    refine Prog.wp_step ⟨trivial, hs, rfl⟩ fun msg _ => ?_
    refine Prog.wp_step ⟨trivial, hs, msg, rfl, rfl⟩ fun _ _ => ?_
    exact Prog.wp_step ⟨trivial, hs, msg, rfl⟩ fun _ _ => hφ

/-- Code that follows the discipline in the terms of the firmware follows it in
the terms of the station. -/
theorem lift_follows {α : Type} (d : Device) {p : Fw α} {Q : α → Phase → Prop}
    (h : p.wp (fwMonitor t) φ Q) : (lift d p).wp (monitor t) φ Q := by
  unfold lift
  refine Prog.wp_inline_of ?_ (fun φ c hc => ?_) _ φ (expand_follows h)
  · exact fun _ hh => hh
  cases c with
  | chMsgWaitTimeout timeout =>
    obtain ⟨hs, hheld, htalk⟩ := hc
    refine Prog.wp_mono _ _ ?_ (awaitInterval_follows timeout hs hheld htalk)
    rintro r _ rfl
    exact ⟨trivial, rfl⟩
  | registerSchedule id => exact Prog.wp_step ⟨trivial, trivial⟩ fun _ _ => ⟨trivial, rfl⟩
  | registerHw id => exact Prog.wp_step ⟨trivial, trivial⟩ fun _ _ => ⟨trivial, rfl⟩
  | busOp op => exact ⟨⟨trivial, trivial⟩, fun _ _ => ⟨trivial, rfl⟩⟩
  | _ => exact ⟨hc, fun _ _ => ⟨trivial, rfl⟩⟩

theorem lift_ordinary {α : Type} (d : Device) {p : Fw α} (hp : p.All Ordinary) :
    (lift d p).wp (monitor t) {} fun _ φ => φ = {} :=
  lift_follows d (ordinary_follows hp canBus_idle mayHang_idle)

/-- A routine block of a sensor thread. -/
theorem lift_routine {α : Type} (d : Device) {s : Sensor} {p : Fw α} (hp : p.All Routine) :
    (lift d p).wp (monitor (.sensor s)) {} fun _ φ => φ = {} := by
  refine lift_follows d (hp.wp (fun c hc => ?_) mayHang_idle)
  cases c with
  | chMsgWaitTimeout timeout => exact ⟨⟨⟨s, rfl⟩, fun _ => rfl, rfl⟩, fun _ _ => rfl⟩
  | registerSchedule id => exact ⟨⟨trivial, trivial⟩, fun _ _ => rfl⟩
  | registerHw id => exact ⟨⟨trivial, trivial⟩, fun _ _ => rfl⟩
  | _ => exact Ordinary.keeps hc canBus_idle

theorem Still.keeps {c : Call} (h : Still c) :
    (monitor t).allows φ c ∧ ∀ r, (monitor t).answers φ c r → (monitor t).next φ c r = φ := by
  cases c with
  | fw c => cases c <;> first | exact h.elim | exact ⟨⟨trivial, trivial⟩, fun _ _ => rfl⟩
  | registry c => cases c <;> first | exact h.elim | exact ⟨⟨trivial, trivial⟩, fun _ _ => rfl⟩
  | _ => first | exact h.elim | exact ⟨⟨trivial, trivial⟩, fun _ _ => rfl⟩

theorem still_follows {α : Type} {p : Code α} (hp : p.All Still) (hhang : φ.MayHang) :
    p.wp (monitor t) φ fun _ φ' => φ' = φ :=
  hp.wp (fun _ hc => Still.keeps hc) hhang

theorem showing_follows {p : Code Unit} (hp : p.All Showing) :
    p.wp (monitor t) {} fun _ φ => φ = {} :=
  still_follows (hp.mono fun _ h => h.local.still) mayHang_idle

end Code

end MeteoL053.Station.Locks
