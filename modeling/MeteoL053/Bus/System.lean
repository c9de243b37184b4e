import MeteoL053.Lib.Threads
import MeteoL053.Lib.Lock
import MeteoL053.Bus.Drivers

/-!
The shared bus at work: any number of threads that do any operations of the
I2C drivers in any order, over the bus mutex and the state of `I2CD1`.

The HAL needs the driver READY for a transfer, leaves it LOCKED after a timeout
and READY otherwise. `holds`, `inFlight` and `unchecked` are history variables.
-/

namespace MeteoL053.Bus

open CallTree Lock

structure State (ι : Type) where
  /-- the bus mutex is taken -/
  busMtx : Bool
  /-- `I2CD1.state` -/
  state : I2cState
  /-- the thread has acquired the bus and not released it since -/
  holds : ι → Bool
  /-- the threads whose transfer has started and not ended -/
  inFlight : List ι
  /-- the operation of the thread is `BMP280_write_register8` -/
  unchecked : ι → Bool

/-- The one operation without `checkI2cFunc`. -/
def unchecked : BusOp → Bool
  | .bmp280WriteRegister8 .. => true
  | _ => false

variable {ι : Type}

/-- The mutex is acquired when it is free. With `exact` the state is read as it
is; without, a read may give anything, and so may `checkI2cFunc`. Transfers end
in any way. -/
def possible (exact : Bool) (_t : ι) (s : State ι) : (c : Call) → Reply c → Prop
  | .i2cAcquireBus, _ => s.busMtx = false
  | .i2cState, r => exact = true → r = s.state
  | _, _ => True

instance (exact : Bool) (t : ι) (s : State ι) (c : Call) (r : Reply c) :
    Decidable (possible exact t s c r) := by
  revert r
  apply Call.casesOn (motive := fun c => ∀ r : Reply c, Decidable (possible exact t s c r)) c <;> intros <;>
    first
    | exact isTrue trivial
    | exact inferInstanceAs (Decidable (_ = _))
    | exact inferInstanceAs (Decidable (_ = _ → _ = _))

variable [DecidableEq ι]

def effect (t : ι) (s : State ι) : (c : Call) → Reply c → State ι
  | .i2cAcquireBus, _ => { s with busMtx := true, holds := Function.update s.holds t true }
  | .i2cReleaseBus, _ => { s with busMtx := false, holds := Function.update s.holds t false }
  | .i2cStop, _ => { s with state := .stop }
  | .i2cStart, _ => { s with state := .ready }
  | .i2cMasterTransmit .., _ => { s with state := .activeTx, inFlight := t :: s.inFlight }
  | .i2cMasterReceive .., _ => { s with state := .activeRx, inFlight := t :: s.inFlight }
  | .i2cWait, r =>
    { s with
      state := if r.1 = Msg.timeout then .locked else .ready
      inFlight := s.inFlight.erase t }
  | .nextBusOp, op => { s with unchecked := Function.update s.unchecked t (unchecked op) }
  | _, _ => s

/-- The bus system. -/
def system (ι : Type) [DecidableEq ι] (exact : Bool) : System ι Call Reply Block (State ι) where
  body _ _ := busOps
  possible := possible exact
  effect := effect

instance (exact : Bool) (t : ι) (s : State ι) (c : Call) (r : Reply c) :
    Decidable ((system ι exact).possible t s c r) :=
  inferInstanceAs (Decidable (possible exact t s c r))

/-- After `i2c1_init`. -/
def initial : Pool ι Call Reply Block (State ι) where
  shared :=
    { busMtx := false, state := .ready, holds := fun _ => false, inFlight := [],
      unchecked := fun _ => false }
  prog _ := .ret .busOps

/-! ## Stages of an operation -/

/-- Where a thread is in an operation: it has `acquired` the bus, the driver is
`usable`, it is `stopped`, or the transfer is `active`. -/
inductive Stage where
  | idle
  | acquired
  | usable
  | stopped
  | active
  deriving DecidableEq

@[ext] structure Phase where
  stage : Stage := .idle
  unchecked : Bool := false

/-- Inside an operation the thread owns the bus. -/
def Phase.holds (φ : Phase) : Bool := φ.stage ≠ .idle

/-- The bus is acquired by an idle thread and released with the driver running;
the driver is stopped and started by the owner between transfers; a transfer
needs a usable driver. -/
def monitor : Monitor Call Reply Phase where
  hangs _ := False
  allows φ
    | .nextBusOp | .i2cAcquireBus | .opReturn => φ.stage = .idle
    | .i2cReleaseBus | .i2cState | .i2cStop => φ.stage = .acquired ∨ φ.stage = .usable
    | .i2cStart => φ.stage = .stopped
    | .i2cMasterTransmit .. | .i2cMasterReceive .. => φ.stage = .usable
    | .i2cWait => φ.stage = .active
    | _ => False
  answers _ _ _ := True
  next φ
    | .nextBusOp, op => { φ with unchecked := Bus.unchecked op }
    | .i2cAcquireBus, _ => { φ with stage := if φ.unchecked then .usable else .acquired }
    | .i2cState, r => { φ with stage := if r = I2cState.ready then .usable else .acquired }
    | .i2cStop, _ => { φ with stage := .stopped }
    | .i2cStart, _ => { φ with stage := .usable }
    | .i2cMasterTransmit .., _ | .i2cMasterReceive .., _ => { φ with stage := .active }
    | .i2cWait, _ => { φ with stage := .acquired }
    | .i2cReleaseBus, _ => { φ with stage := .idle }
    | _, _ => φ

/-! ## The operations follow the monitor -/

theorem checkI2CCondition_follows :
    checkI2CCondition.wp monitor { stage := .acquired } fun ok φ =>
      φ = { stage := if ok then .usable else .acquired } := by
  apply Prog.wp_step (Or.inl rfl)
  intro state _
  split
  · next hs =>
    subst hs
    apply Prog.wp_step (Or.inl rfl)
    intro _ _
    apply Prog.wp_step rfl
    intro _ _
    apply Prog.wp_step (Or.inr rfl)
    intro state _
    by_cases h : state = I2cState.ready <;> simp [monitor, h]
  · by_cases h : state = I2cState.ready
    · apply Prog.wp_step (Or.inr (by simp [monitor, h]))
      intro state' _
      by_cases h' : state' = I2cState.ready <;> simp [monitor, h']
    · apply Prog.wp_step (Or.inl (by simp [monitor, h]))
      intro state' _
      by_cases h' : state' = I2cState.ready <;> simp [monitor, h']

theorem Transfer.run_follows (x : Transfer) (u : Bool) :
    x.run.wp monitor { stage := .usable, unchecked := u } fun _ φ =>
      φ = { stage := .acquired, unchecked := u } := by
  cases x with
  | transmit addr tx rxBytes =>
    exact Prog.wp_step rfl fun _ _ => ⟨rfl, fun _ _ => rfl⟩
  | receive addr rxBytes =>
    exact Prog.wp_step rfl fun _ _ => ⟨rfl, fun _ _ => rfl⟩

/-- Every operation with the check, whatever it transfers and returns. -/
theorem checkedOp_follows {α : Type} (x : Transfer) (failed : α) (result : Msg → List UInt8 → α) :
    (checkedOp x failed result).wp monitor {} fun _ φ => φ = {} := by
  apply Prog.wp_step rfl
  intro _ _
  apply Prog.wp_bind_of _ _ _ checkI2CCondition_follows
  rintro ok _ rfl
  cases ok with
  | false => exact Prog.wp_step (.inl rfl) fun _ _ => Prog.wp_step rfl fun _ _ => rfl
  | true =>
    apply Prog.wp_bind_of _ _ _ (x.run_follows false)
    rintro ⟨msg, rx⟩ _ rfl
    exact Prog.wp_step (.inl rfl) fun _ _ => Prog.wp_step rfl fun _ _ => rfl

/-- The operation without the check relies on a usable driver. -/
theorem bmp280WriteRegister8_follows (dev addr value : UInt8) :
    (bmp280WriteRegister8 dev addr value).wp monitor { unchecked := true } fun _ φ =>
      φ = { unchecked := true } := by
  apply Prog.wp_step rfl
  intro _ _
  apply Prog.wp_bind_of _ _ _ (Transfer.run_follows _ true)
  rintro ⟨msg, rx⟩ _ rfl
  exact Prog.wp_step (.inl rfl) fun _ _ => Prog.wp_step rfl fun _ _ => rfl

theorem as3935Write_follows (dev regAdd dataMask regData : UInt8) :
    (as3935Write dev regAdd dataMask regData).wp monitor {} fun _ φ => φ = {} := by
  apply Prog.wp_bind_of _ _ _ (checkedOp_follows _ _ _)
  rintro _ _ rfl
  exact checkedOp_follows _ _ _

theorem performOp_follows (op : BusOp) :
    (performOp op).wp monitor { unchecked := unchecked op } fun _ φ =>
      φ = { unchecked := unchecked op } := by
  cases op with
  | bmp280WriteRegister8 dev addr value => exact bmp280WriteRegister8_follows dev addr value
  | as3935Write dev regAdd dataMask regData => exact as3935Write_follows dev regAdd dataMask regData
  | _ =>
    simp only [performOp]
    exact checkedOp_follows _ _ _

/-- Between two operations a thread does not own the bus. -/
def Between (_l : Block) (φ : Phase) : Prop := φ.stage = .idle

theorem busOps_follows {φ : Phase} (h : φ.stage = .idle) : busOps.wp monitor φ Between := by
  apply Prog.wp_step h
  intro op _
  have hφ : monitor.next φ .nextBusOp op = { unchecked := unchecked op } := by
    ext <;> simp [monitor, h]
  rw [hφ]
  apply Prog.wp_bind_of _ _ _ (performOp_follows op)
  rintro _ _ rfl
  rfl

/-! ## The bus belongs to one thread -/

/-- The stages, the mutex and the transfers agree. -/
structure Good (ph : ι → Phase) (s : State ι) : Prop where
  lock : Exclusive s.busMtx s.holds
  holds : s.holds = Phase.holds ∘ ph
  flight : (s.inFlight = [] ∧ ∀ t, (ph t).stage ≠ .active) ∨
    ∃ t, s.inFlight = [t] ∧ ∀ u, (ph u).stage = .active ↔ u = t

variable {ph : ι → Phase} {s s' : State ι} {t : ι} {φ : Phase}

omit [DecidableEq ι] in
theorem Good.holds_eq (h : Good ph s) (t : ι) : s.holds t = (ph t).holds :=
  congrFun h.holds t

omit [DecidableEq ι] in
theorem Good.holds_of_stage (h : Good ph s) (ht : (ph t).stage ≠ .idle) : s.holds t = true := by
  rw [h.holds_eq]
  simpa [Phase.holds] using ht

omit [DecidableEq ι] in
/-- An owner without a transfer in flight: there is none at all. -/
theorem Good.flight_empty (h : Good ph s) (ht : (ph t).stage ≠ .idle)
    (hact : (ph t).stage ≠ .active) : s.inFlight = [] := by
  rcases h.flight with ⟨he, -⟩ | ⟨u, -, hu⟩
  · exact he
  · have hua := (hu u).mpr rfl
    have e := h.lock.unique t u (h.holds_of_stage ht) (h.holds_of_stage (by simp [hua]))
    rw [e] at hact
    exact absurd hua hact

omit [DecidableEq ι] in
theorem Good.owner_between (h : Good ph s) (ht : (ph t).stage ≠ .idle)
    (hact : (ph t).stage ≠ .active) : s.holds t = true ∧ s.inFlight = [] :=
  ⟨h.holds_of_stage ht, h.flight_empty ht hact⟩

omit [DecidableEq ι] in
theorem Good.not_holds_of_idle (h : Good ph s) (ht : (ph t).stage = .idle) :
    s.holds t = false := by
  rw [h.holds_eq]
  simp [Phase.holds, ht]

omit [DecidableEq ι] in
theorem Good.flight_length (h : Good ph s) : s.inFlight.length ≤ 1 := by
  rcases h.flight with ⟨he, -⟩ | ⟨u, hu, -⟩
  · simp [he]
  · simp [hu]

omit [DecidableEq ι] in
/-- A transfer in flight belongs to the owner of the bus. -/
theorem Good.holds_of_mem_flight (h : Good ph s) (ht : t ∈ s.inFlight) : s.holds t = true := by
  rcases h.flight with ⟨he, -⟩ | ⟨u, hu, ha⟩
  · simp [he] at ht
  · obtain rfl : t = u := by simpa [hu] using ht
    exact h.holds_of_stage (by simp [(ha t).mpr rfl])

/-- A step outside a transfer leaves the transfers as they are. -/
theorem Good.flight_update (h : Good ph s) (hact : (ph t).stage ≠ .active)
    (hnext : φ.stage ≠ .active) :
    (s.inFlight = [] ∧ ∀ u, (Function.update ph t φ u).stage ≠ .active) ∨
      ∃ u, s.inFlight = [u] ∧ ∀ v, (Function.update ph t φ v).stage = .active ↔ v = u := by
  have hsame : ∀ u, (Function.update ph t φ u).stage = .active ↔ (ph u).stage = .active := by
    intro u
    by_cases e : u = t
    · subst e
      simp [hact, hnext]
    · rw [Function.update_of_ne e]
  simpa only [hsame, ne_eq] using h.flight

/-- A step that neither takes nor gives up the bus. -/
theorem Good.step (h : Good ph s) (hbus : s'.busMtx = s.busMtx) (hholds : s'.holds = s.holds)
    (hin : s'.inFlight = s.inFlight) (hsame : φ.holds = (ph t).holds)
    (hact : (ph t).stage ≠ .active) (hnext : φ.stage ≠ .active) :
    Good (Function.update ph t φ) s' where
  lock := by rw [hbus, hholds]; exact h.lock
  holds := by
    rw [hholds, h.holds]
    exact (comp_update_same Phase.holds hsame).symm
  flight := by rw [hin]; exact h.flight_update hact hnext

theorem Good.acquire (h : Good ph s) (hfree : s.busMtx = false) (ht : (ph t).stage = .idle)
    (hφ : φ.stage = .acquired ∨ φ.stage = .usable) :
    Good (Function.update ph t φ) (effect t s .i2cAcquireBus ()) where
  lock := h.lock.acquire hfree t
  holds := by
    have hh : φ.holds = true := by rcases hφ with e | e <;> simp [Phase.holds, e]
    rw [Function.comp_update, ← h.holds, hh]
    rfl
  flight := by
    refine h.flight_update (by simp [ht]) ?_
    rcases hφ with e | e <;> simp [e]

theorem Good.release (h : Good ph s) (ht : (ph t).stage = .acquired ∨ (ph t).stage = .usable) :
    Good (Function.update ph t { ph t with stage := .idle }) (effect t s .i2cReleaseBus ()) where
  lock := h.lock.release (h.holds_of_stage (by rcases ht with e | e <;> simp [e]))
  holds := by
    rw [Function.comp_update, ← h.holds]
    rfl
  flight := by
    refine h.flight_update ?_ (by simp)
    rcases ht with e | e <;> simp [e]

theorem Good.startTransfer (h : Good ph s) (ht : (ph t).stage = .usable) (state : I2cState) :
    Good (Function.update ph t { ph t with stage := .active })
      { s with state := state, inFlight := t :: s.inFlight } where
  lock := h.lock
  holds := by
    rw [h.holds]
    exact (comp_update_same Phase.holds (by simp [ht, Phase.holds])).symm
  flight := by
    have hempty := h.flight_empty (t := t) (by simp [ht]) (by simp [ht])
    refine .inr ⟨t, by simp [hempty], fun u => ?_⟩
    by_cases e : u = t
    · subst e
      simp
    · rw [Function.update_of_ne e]
      simp only [e, iff_false]
      intro hu
      -- another transfer in flight would have an owner of its own
      exact e (h.lock.unique u t (h.holds_of_stage (by simp [hu])) (h.holds_of_stage (by simp [ht])))

theorem Good.endTransfer (h : Good ph s) (ht : (ph t).stage = .active) (state : I2cState) :
    Good (Function.update ph t { ph t with stage := .acquired })
      { s with state := state, inFlight := s.inFlight.erase t } where
  lock := h.lock
  holds := by
    rw [h.holds]
    exact (comp_update_same Phase.holds (by simp [ht, Phase.holds])).symm
  flight := by
    rcases h.flight with ⟨-, hn⟩ | ⟨u, hu, ha⟩
    · exact absurd ht (hn t)
    · obtain rfl : t = u := (ha t).mp ht
      refine .inl ⟨by simp [hu], fun v => ?_⟩
      by_cases e : v = t
      · subst e
        simp
      · rw [Function.update_of_ne e]
        exact fun hv => e ((ha v).mp hv)

theorem Good.call {exact : Bool} (h : Good ph s) {c : Call} {r : Reply c}
    (ha : monitor.allows (ph t) c) (hr : possible exact t s c r) :
    Good (Function.update ph t (monitor.next (ph t) c r)) (effect t s c r) := by
  cases c with
  | nextBusOp =>
    have ht : (ph t).stage = .idle := ha
    exact h.step rfl rfl rfl rfl (by simp [ht]) (by simp [monitor, ht])
  | opReturn =>
    have ht : (ph t).stage = .idle := ha
    exact h.step rfl rfl rfl rfl (by simp [ht]) (by simp [monitor, ht])
  | i2cAcquireBus =>
    refine h.acquire hr ha ?_
    cases hu : (ph t).unchecked with
    | true => exact .inr (by simp [monitor, hu])
    | false => exact .inl (by simp [monitor, hu])
  | i2cReleaseBus => exact h.release ha
  | i2cState =>
    have hstage : (monitor.next (ph t) .i2cState r).stage = .acquired ∨
        (monitor.next (ph t) .i2cState r).stage = .usable := by
      by_cases e : r = I2cState.ready <;> simp [monitor, e]
    refine h.step rfl rfl rfl ?_ ?_ ?_
    · rcases ha with e | e <;> rcases hstage with e' | e' <;> simp [e, e', Phase.holds]
    · rcases ha with e | e <;> simp [e]
    · rcases hstage with e' | e' <;> simp [e']
  | i2cStop =>
    refine h.step rfl rfl rfl ?_ ?_ (by simp [monitor])
    · rcases ha with e | e <;> simp [e, monitor, Phase.holds]
    · rcases ha with e | e <;> simp [e]
  | i2cStart =>
    have ht : (ph t).stage = .stopped := ha
    exact h.step rfl rfl rfl (by simp [ht, monitor, Phase.holds]) (by simp [ht]) (by simp [monitor])
  | i2cMasterTransmit addr tx rxBytes => exact h.startTransfer ha .activeTx
  | i2cMasterReceive addr rxBytes => exact h.startTransfer ha .activeRx
  | i2cWait => exact h.endTransfer ha _
  | _ => exact ha.elim

omit [DecidableEq ι] in
theorem Good.initial : Good (fun _ : ι => {}) initial.shared :=
  ⟨Exclusive.initial, rfl, .inl ⟨rfl, by simp⟩⟩

theorem reachable_good {exact : Bool} {p : Pool ι Call Reply Block (State ι)}
    (h : (system ι exact).Reachable initial p) :
    System.Inv (fun _ => monitor) (fun _ => Between) Good p := by
  refine h.invariant (fun t l φ hφ => busOps_follows hφ) ?_ ⟨fun _ => {}, fun t => rfl, Good.initial⟩
  intro ph s t c r hg ha hr
  exact ⟨trivial, hg.call ha hr⟩

/-- **The shared bus.** In every interleaving of the operations, whatever
`checkI2cFunc` and the transfers return: at most one transfer is in flight and
it belongs to the thread that owns the bus; the driver is stopped and started
only by the owner and with no transfer in flight; the owner never acquires the
bus again and only it releases it; and an operation that returns does not own
the bus. -/
theorem bus_exclusive {exact : Bool} {p : Pool ι Call Reply Block (State ι)}
    (h : (system ι exact).Reachable initial p) :
    p.shared.inFlight.length ≤ 1 ∧ (∀ t ∈ p.shared.inFlight, p.shared.holds t = true) ∧
    (∀ t u, p.shared.holds t = true → p.shared.holds u = true → t = u) ∧
    (∀ t, p.AboutTo t .i2cStop ∨ p.AboutTo t .i2cStart →
      p.shared.holds t = true ∧ p.shared.inFlight = []) ∧
    (∀ t, p.AboutTo t .i2cAcquireBus → p.shared.holds t = false) ∧
    (∀ t, p.AboutTo t .i2cReleaseBus → p.shared.holds t = true) ∧
    (∀ t, p.AboutTo t .opReturn → p.shared.holds t = false) ∧
    (∀ t l, p.prog t = .ret l → p.shared.holds t = false) := by
  have hinv := reachable_good h
  obtain ⟨ph, hwp, hg⟩ := reachable_good h
  refine ⟨hg.flight_length, fun t ht => hg.holds_of_mem_flight ht, hg.lock.unique,
    ?_, ?_, ?_, ?_, ?_⟩
  · rintro t (ht | ht)
    · obtain ⟨ph, ha, hg⟩ := hinv.allows ht
      exact hg.owner_between (by rcases ha with e | e <;> simp [e])
        (by rcases ha with e | e <;> simp [e])
    · obtain ⟨ph, ha, hg⟩ := hinv.allows ht
      have e : (ph t).stage = .stopped := ha
      exact hg.owner_between (by simp [e]) (by simp [e])
  · intro t ht
    obtain ⟨ph, ha, hg⟩ := hinv.allows ht
    exact hg.not_holds_of_idle ha
  · intro t ht
    obtain ⟨ph, ha, hg⟩ := hinv.allows ht
    exact hg.holds_of_stage (by rcases ha with e | e <;> simp [e])
  · intro t ht
    obtain ⟨ph, ha, hg⟩ := hinv.allows ht
    exact hg.not_holds_of_idle ha
  · intro t l hl
    have hb := hwp t
    rw [hl] at hb
    exact hg.not_holds_of_idle hb

/-- One thread recovers a locked driver and starts a transfer while another
waits for the bus. -/
def recoveryRun : List (Bool × (c : Call) × Reply c) :=
  [(false, ⟨.nextBusOp, .bh1750ReadDev 0x23⟩), (true, ⟨.nextBusOp, .as3935Read 3 0⟩),
   (true, ⟨.i2cAcquireBus, ()⟩), (true, ⟨.i2cState, .locked⟩), (true, ⟨.i2cStop, ()⟩),
   (true, ⟨.i2cStart, ()⟩), (true, ⟨.i2cState, .ready⟩),
   (true, ⟨.i2cMasterTransmit 3 [0] 1, ()⟩)]

theorem bus_exclusive_recoveryRun :
    ∃ p, (system Bool false).Reachable initial p ∧ p.shared.inFlight = [true] ∧
      p.shared.holds true = true ∧ p.AboutTo false .i2cAcquireBus ∧
      p.shared.holds false = false := by
  obtain ⟨p, h, hp⟩ := System.Reachable.exists_of_playAll (system Bool false) initial recoveryRun
    (fun p => (p.shared.inFlight, p.nextCall false)) (b := ([true], some .i2cAcquireBus))
    (by decide +kernel)
  obtain ⟨hf, hc⟩ := Prod.mk.inj hp
  have hw := Pool.aboutTo_of_nextCall hc
  obtain ⟨-, hown, -, -, hacq, -⟩ := bus_exclusive h
  exact ⟨p, h, hf, hown true (by simp [hf]), hw, hacq false hw⟩

end MeteoL053.Bus
