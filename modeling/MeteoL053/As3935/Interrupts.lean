import MeteoL053.Lib.Threads
import MeteoL053.As3935.Thread

/-!
The thread of the lightning sensor with its interrupt, and which interrupts a
reset of `interruptCount` discards. `As3935__thread_disableInterrupt` does
nothing, so the interrupt may come between any two calls of the thread.

Interrupts are numbered from 1 in the order in which they come. The source is
read by the first transfer of register 0x03 after the test of `interruptCount`, and
its reading is dated to the start of that transfer; when the bus is not ready and
there is no transfer, to the return of the read. `interrupts`, `due`, `read`, `reset`
and `serving` are history variables.
-/

namespace MeteoL053.As3935

open CallTree

/-- The code of a block; the interrupt never ends. -/
def code (dev : UInt8) : Label → Fw Label
  | .start interval => start dev interval
  | .loop status interval => loop dev status interval
  | .interrupt => do ask .as3935IRQ; return .interrupt

/-! ## The system -/

/-- What interleaves. -/
inductive Thread where
  | as3935
  | irq
  deriving DecidableEq

structure State where
  /-- the event of the line is enabled -/
  enabled : Bool
  /-- the callback of the line is set -/
  callback : Bool
  interruptCount : UInt32
  /-- interrupts so far -/
  interrupts : Nat
  /-- the thread has found interrupts and not yet read their source -/
  due : Bool
  /-- the interrupts when the source was last read -/
  read : Nat
  /-- the thread is between a read of the source and the reset -/
  serving : Bool
  /-- the interrupts when the count was last reset -/
  reset : Nat
  deriving DecidableEq

/-- `As3935__thread_IRQ` on the count. -/
def irq (interruptCount : UInt32) : UInt32 := interruptCount + 1

/-- The operation is a read of the source. -/
def readsSource : BusOp → Bool
  | .as3935Read _ reg => reg = 0x03
  | _ => false

/-- The source is read, if that is due. -/
def State.readSource (s : State) : State :=
  if s.due then { s with due := false, read := s.interrupts, serving := true } else s

def effect (s : State) : (c : Call) → Reply c → State
  | .palEnableLineEvent _, _ => { s with enabled := true }
  | .palSetLineCallback _, _ => { s with callback := true }
  | .interruptCount, r => if r > 0 then { s with due := true } else s
  | .i2cMasterTransmit _ tx _, _ => if tx = [0x03] then s.readSource else s
  | .busOp op, _ => if readsSource op then s.readSource else s
  | .opDone op _, _ => if readsSource op then s.readSource else s
  | .setInterruptCount n, _ =>
    { s with interruptCount := n, reset := s.interrupts, serving := false }
  | .as3935IRQ, _ =>
    { s with interruptCount := irq s.interruptCount, interrupts := s.interrupts + 1 }
  | _, _ => s

/-- The interrupt needs its event and its callback; the bus and the kernel may
answer anything. -/
def possible (s : State) : (c : Call) → Reply c → Prop
  | .interruptCount, r => r = s.interruptCount
  | .as3935IRQ, _ => s.enabled = true ∧ s.callback = true
  | _, _ => True

instance (s : State) (c : Call) (r : Reply c) : Decidable (possible s c r) := by
  revert r
  apply Call.casesOn (motive := fun c => ∀ r : Reply c, Decidable (possible s c r)) c <;> intros <;>
    first
    | exact isTrue trivial
    | exact inferInstanceAs (Decidable (_ = _))
    | exact inferInstanceAs (Decidable (_ ∧ _))

/-- The thread, with its operations expanded, and the interrupt. -/
def system (dev : UInt8) : System Thread Call Reply Label State where
  body _ l := Bus.expand (code dev l)
  possible _ := possible
  effect _ := effect

instance (dev : UInt8) (t : Thread) (s : State) (c : Call) (r : Reply c) :
    Decidable ((system dev).possible t s c r) :=
  inferInstanceAs (Decidable (possible s c r))

/-- No interrupt comes between a read of the source and the reset. -/
def Undisturbed (t : Thread) (s : State) (c : Call) (_ : Reply c) : Prop :=
  t = .irq → c = .as3935IRQ → s.serving = false

instance (dev : UInt8) (t : Thread) (s : State) (c : Call) (r : Reply c) :
    Decidable (((system dev).restrict Undisturbed).possible t s c r) :=
  inferInstanceAs (Decidable (possible s c r ∧ (t = .irq → c = .as3935IRQ → s.serving = false)))

def initial (interval : UInt16) : Pool Thread Call Reply Label State where
  shared :=
    { enabled := false, callback := false, interruptCount := 0, interrupts := 0, due := false,
      read := 0, serving := false, reset := 0 }
  prog
    | .as3935 => .ret (.start interval)
    | .irq => .ret .interrupt

/-! ## The code follows the monitors -/

/-- How far the thread is with the interrupts it has found. -/
inductive Phase where
  | outside
  | due
  | serving
  deriving DecidableEq

def Phase.readSource : Phase → Phase
  | due => serving
  | φ => φ

/-- The thread looks at the count only when it is done with the last interrupts,
then reads the source, and resets the count after that. -/
def allows : Phase → Call → Prop
  | .serving, .setInterruptCount n => n = 0
  | _, .setInterruptCount _ => False
  | φ, .interruptCount => φ = .outside
  | φ, .busOp (.as3935Read _ reg) => φ = .due → reg = 0x03
  | _, .busOp _ => False
  | _, .as3935IRQ => False
  | _, _ => True

def monitor : Monitor Call Reply Phase where
  hangs _ := True
  allows := allows
  answers _ _ _ := True
  next
    | φ, .interruptCount, r => if r > 0 then .due else φ
    | φ, .i2cMasterTransmit _ tx _, _ => if tx = [0x03] then φ.readSource else φ
    | φ, .busOp op, _ => if readsSource op then φ.readSource else φ
    | φ, .opDone op _, _ => if readsSource op then φ.readSource else φ
    | _, .setInterruptCount _, _ => .outside
    | φ, _, _ => φ

/-- The interrupt makes one call over and over. -/
def irqMonitor : Monitor Call Reply Phase where
  hangs _ := False
  allows _ c := c = .as3935IRQ
  answers _ _ _ := True
  next φ _ _ := φ

def monitors : Thread → Monitor Call Reply Phase
  | .as3935 => monitor
  | .irq => irqMonitor

/-- Which block a thread continues with. -/
def Continues : Thread → Label → Phase → Prop
  | .as3935, .start _, φ => φ = .outside
  | .as3935, .loop .., φ => φ = .outside
  | .irq, .interrupt, _ => True
  | _, _, _ => False

/-- A call that has to do with the interrupts only when their source is due. -/
def Plain : Call → Prop
  | .setInterruptCount _ | .interruptCount | .busOp _ | .opDone .. | .as3935IRQ => False
  | _ => True

theorem plain_of_busCall (c : Call) (h : Bus.BusCall c) : Plain c := by
  cases c <;> first | exact h.elim | trivial

theorem Phase.readSource_of_ne {φ : Phase} (hφ : φ ≠ .due) : φ.readSource = φ := by
  cases φ <;> first | rfl | exact absurd rfl hφ

theorem Plain.keeps {c : Call} (h : Plain c) {φ : Phase} (hφ : φ ≠ .due) :
    allows φ c ∧ ∀ r, monitor.answers φ c r → monitor.next φ c r = φ := by
  cases c with
  | i2cMasterTransmit addr tx rxBytes =>
    refine ⟨by cases φ <;> trivial, fun _ _ => ?_⟩
    simp only [monitor, Phase.readSource_of_ne hφ, ite_self]
  | _ => first | exact h.elim | (cases φ <;> exact ⟨trivial, fun _ _ => rfl⟩)

theorem plain_follows {α : Type} {p : Fw α} (h : p.All Plain) (φ : Phase) (hφ : φ ≠ .due) :
    p.wp monitor φ fun _ φ' => φ' = φ :=
  h.wp (fun _ hc => hc.keeps hφ) trivial

/-- Bus calls may read the source that is due. -/
theorem busCalls_follow {α : Type} {p : Fw α} (h : p.All Bus.BusCall) :
    p.wp monitor .due fun _ φ => φ = .due ∨ φ = .serving := by
  refine h.wp_within (I := fun φ => φ = Phase.due ∨ φ = Phase.serving) ?_ (fun _ _ => trivial)
    (.inl rfl)
  intro φ c hφ hc
  cases c with
  | i2cMasterTransmit addr tx rxBytes =>
    refine ⟨by cases φ <;> trivial, fun _ _ => ?_⟩
    simp only [monitor]
    split
    · rcases hφ with rfl | rfl <;> exact .inr rfl
    · exact hφ
  | _ => first | exact hc.elim | (cases φ <;> exact ⟨trivial, fun _ _ => hφ⟩)

theorem plain_of_stepCall (c : Call) (h : StepCall c) : Plain c := by
  cases c <;> first | exact h.elim | trivial

theorem calibrate_plain (dev capacitance location : UInt8) :
    (calibrate dev capacitance location).All Plain := by
  have hcal := Procedure.code_all dev (.manualCal capacitance location 1)
  apply Prog.all_bind (hcal.mono plain_of_stepCall)
  intro ok
  exact ⟨trivial, fun _ => trivial⟩

theorem enableInterrupt_plain : enableInterrupt.All Plain :=
  enableInterrupt_all.mono fun c h => by cases c <;> first | exact h.elim | trivial

theorem plain_of_streamCall (c : Call) (h : Stream.StreamCall c) : Plain c := by
  cases c <;> first | exact h.elim | trivial

theorem publish_plain (interruptSrc distance : UInt8) (energy : UInt32) (status : HwStatus) :
    (publish interruptSrc distance energy status).All Plain := by
  unfold publish
  split
  · apply Prog.all_step trivial
    intro _
    apply Prog.all_step trivial
    intro _
    apply Prog.all_step trivial
    intro _
    apply Prog.all_step trivial
    intro _
    exact Prog.all_bind ((Stream.sendReading_all ..).mono plain_of_streamCall) fun _ => trivial
  · trivial

theorem tryReconfigure_plain (dev : UInt8) (status : HwStatus) :
    (tryReconfigure dev status).All Plain := by
  unfold tryReconfigure
  split
  · apply Prog.all_bind (calibrate_plain ..)
    intro status'
    split
    · exact Prog.all_bind enableInterrupt_plain fun _ => trivial
    · trivial
  · trivial

theorem getInterruptSrc_follows (dev : UInt8) :
    (getInterruptSrc dev).wp monitor .due fun _ φ => φ = .serving := by
  apply Prog.wp_step trivial
  intro _ _
  exact Prog.wp_step (fun _ => rfl) fun _ _ => rfl

/-- Another register read after that of the source. -/
theorem singRegRead_follows (dev reg : UInt8) :
    (singRegRead dev reg).wp monitor .serving fun _ φ => φ = .serving := by
  refine Prog.wp_step (fun h => nomatch h) fun r _ => ?_
  simp [monitor, Phase.readSource]

theorem getLightningDistKm_follows (dev : UInt8) :
    (getLightningDistKm dev).wp monitor .serving fun _ φ => φ = .serving := by
  apply Prog.wp_bind_of _ _ _ (singRegRead_follows dev 0x07)
  rintro _ _ rfl
  rfl

theorem getStrikeEnergyRaw_follows (dev : UInt8) :
    (getStrikeEnergyRaw dev).wp monitor .serving fun _ φ => φ = .serving := by
  apply Prog.wp_bind_of _ _ _ (singRegRead_follows dev 0x06)
  rintro _ _ rfl
  apply Prog.wp_bind_of _ _ _ (singRegRead_follows dev 0x05)
  rintro _ _ rfl
  apply Prog.wp_bind_of _ _ _ (singRegRead_follows dev 0x04)
  rintro _ _ rfl
  rfl

/-- Serving reads the source before it resets the count. -/
theorem serve_follows (dev : UInt8) (status : HwStatus) :
    (serve dev status).wp monitor .due fun _ φ => φ = .outside := by
  apply Prog.wp_bind_of _ _ _ (getInterruptSrc_follows dev)
  rintro interruptSrc _ rfl
  apply Prog.wp_bind_of _ _ _ (getLightningDistKm_follows dev)
  rintro distance _ rfl
  apply Prog.wp_bind_of _ _ _ (getStrikeEnergyRaw_follows dev)
  rintro energy _ rfl
  apply Prog.wp_bind_of _ _ _ (plain_follows (publish_plain ..) .serving (by decide))
  rintro status' _ rfl
  apply Prog.wp_step rfl
  intro _ _
  exact Prog.wp_bind_of _ _ _ (plain_follows enableInterrupt_plain .outside (by decide)) fun _ _ h => h

theorem start_follows (dev : UInt8) (interval : UInt16) :
    (start dev interval).wp monitor .outside (Continues .as3935) := by
  apply Prog.wp_step trivial
  intro _ _
  apply Prog.wp_step trivial
  intro _ _
  apply Prog.wp_step trivial
  intro _ _
  apply Prog.wp_bind_of _ _ _ (plain_follows (calibrate_plain dev 0 2) .outside (by decide))
  rintro status _ rfl
  apply Prog.wp_step trivial
  intro _ _
  apply Prog.wp_step trivial
  intro _ _
  apply Prog.wp_step trivial
  intro _ _
  split
  · exact Prog.wp_bind_of _ _ _ (plain_follows enableInterrupt_plain .outside (by decide)) fun _ _ h => h
  · rfl

theorem loop_follows (dev : UInt8) (status : HwStatus) (interval : UInt16) :
    (loop dev status interval).wp monitor .outside (Continues .as3935) := by
  apply Prog.wp_step trivial
  intro _ _
  apply Prog.wp_bind_of _ _ _ (plain_follows (tryReconfigure_plain dev status) .outside (by decide))
  rintro status' _ rfl
  apply Prog.wp_step rfl
  intro count _
  have hserve : (if count > (0 : UInt32) then serve dev status' else return status').wp monitor
      (if count > (0 : UInt32) then .due else .outside) fun _ φ => φ = .outside := by
    split
    · exact serve_follows dev status'
    · rfl
  apply Prog.wp_bind_of _ _ _ hserve
  rintro status'' _ rfl
  apply Prog.wp_step trivial
  intro _ _
  exact Prog.wp_step trivial fun _ _ => rfl

/-- An operation leads where its return leads. -/
theorem codeOf_follows (φ : Phase) (c : Call) (h : monitor.allows φ c) :
    (Bus.codeOf c).wp monitor φ fun r φ' => monitor.answers φ c r ∧ φ' = monitor.next φ c r := by
  cases c with
  | busOp op =>
    cases op with
    | as3935Read dev reg =>
      have hbus : (Bus.as3935Read dev reg).All Bus.BusCall := Bus.checkedOp_all ..
      by_cases hφ : φ = .due
      · subst hφ
        obtain rfl : reg = 0x03 := h rfl
        apply Prog.wp_bind_of _ _ _ (busCalls_follow hbus)
        -- the transfer has read the source, or the return counts for it
        rintro r φ' (rfl | rfl) <;> exact Prog.wp_step trivial fun _ _ => ⟨trivial, rfl⟩
      · apply Prog.wp_bind_of _ _ _ (plain_follows (hbus.mono plain_of_busCall) φ hφ)
        rintro r φ' rfl
        exact Prog.wp_step (by cases φ' <;> trivial) fun _ _ => ⟨trivial, rfl⟩
    | _ => cases φ <;> exact h.elim
  | _ => exact ⟨h, fun _ _ => ⟨trivial, rfl⟩⟩

theorem code_follows (dev : UInt8) (t : Thread) (l : Label) (φ : Phase) (h : Continues t l φ) :
    (Bus.expand (code dev l)).wp (monitors t) φ (Continues t) := by
  cases t with
  | as3935 =>
    apply Prog.wp_inline codeOf_follows
    cases l with
    | start interval =>
      cases h
      exact start_follows dev interval
    | loop status interval =>
      cases h
      exact loop_follows dev status interval
    | interrupt => exact h.elim
  | irq =>
    cases l with
    | interrupt => exact Prog.wp_step rfl fun _ _ => trivial
    | _ => exact h.elim

/-! ## What a step keeps -/

/-- The count holds the interrupts since the last reset. -/
structure Books (φ : Phase) (s : State) : Prop where
  count : s.interruptCount = UInt32.ofNat (s.interrupts - s.reset)
  reset : s.reset ≤ s.interrupts
  due : s.due = true ↔ φ = .due
  serving : s.serving = true ↔ φ = .serving

/-- No interrupt has come since the read of the source. -/
def Fresh (s : State) : Prop := s.serving = true → s.interrupts = s.read

theorem Books.readSource {φ : Phase} {s : State} (hb : Books φ s) :
    Books φ.readSource s.readSource := by
  unfold State.readSource
  cases hdue : s.due with
  | true =>
    obtain rfl := hb.due.mp hdue
    exact ⟨hb.count, hb.reset, by simp [Phase.readSource], by simp [Phase.readSource]⟩
  | false =>
    have hφ : φ ≠ .due := fun hφ => Bool.false_ne_true (hdue.symm.trans (hb.due.mpr hφ))
    rw [Phase.readSource_of_ne hφ]
    exact hb

theorem Fresh.readSource {s : State} (hf : Fresh s) : Fresh s.readSource := by
  unfold State.readSource
  split
  · exact fun _ => rfl
  · exact hf

theorem Books.as3935_step {φ : Phase} {s : State} {c : Call} (hb : Books φ s) (hc : allows φ c)
    (r : Reply c) : Books (monitor.next φ c r) (effect s c r) := by
  cases c with
  | interruptCount =>
    obtain rfl : φ = .outside := by cases φ <;> first | rfl | cases hc
    simp only [monitor, effect]
    split
    · refine ⟨hb.count, hb.reset, by simp, ?_⟩
      rw [hb.serving]
      simp
    · exact hb
  | i2cMasterTransmit addr tx rxBytes =>
    simp only [monitor, effect]
    split
    · exact hb.readSource
    · exact hb
  | opDone op r =>
    simp only [monitor, effect]
    split
    · exact hb.readSource
    · exact hb
  | busOp op =>
    simp only [monitor, effect]
    split
    · exact hb.readSource
    · exact hb
  | setInterruptCount n =>
    cases φ with
    | serving =>
      cases hc
      refine ⟨by simp [effect], Nat.le_refl _, ?_, by simp [effect, monitor]⟩
      exact hb.due.trans (by simp [monitor])
    | _ => exact hc.elim
  | as3935IRQ => cases φ <;> exact hc.elim
  | palEnableLineEvent l => exact ⟨hb.count, hb.reset, hb.due, hb.serving⟩
  | palSetLineCallback l => exact ⟨hb.count, hb.reset, hb.due, hb.serving⟩
  | _ => exact hb

theorem Books.irq_step {φ : Phase} {s : State} (hb : Books φ s) :
    Books φ (effect s .as3935IRQ ()) := by
  refine ⟨?_, Nat.le_succ_of_le hb.reset, hb.due, hb.serving⟩
  simp only [effect, irq, hb.count]
  rw [Nat.succ_sub hb.reset, Nat.succ_eq_add_one, UInt32.ofNat_add]
  rfl

/-- The global invariant. -/
def Accounts (ph : Thread → Phase) (s : State) : Prop := Books (ph .as3935) s

theorem accounts_call (ph : Thread → Phase) (s : State) (t : Thread) (c : Call) (r : Reply c)
    (hJ : Accounts ph s) (hc : (monitors t).allows (ph t) c) :
    (monitors t).answers (ph t) c r ∧
      Accounts (Function.update ph t ((monitors t).next (ph t) c r)) (effect s c r) := by
  unfold Accounts
  cases t with
  | as3935 =>
    rw [Function.update_self]
    exact ⟨trivial, Books.as3935_step hJ hc r⟩
  | irq =>
    cases hc
    rw [Function.update_of_ne (by decide)]
    exact ⟨trivial, Books.irq_step hJ⟩

/-- A call of the thread leaves no interrupt after the read of the source. -/
theorem Fresh.as3935_step {s : State} (hf : Fresh s) {φ : Phase} {c : Call} (hc : allows φ c)
    (r : Reply c) : Fresh (effect s c r) := by
  cases c with
  | interruptCount =>
    simp only [effect]
    split <;> exact hf
  | i2cMasterTransmit addr tx rxBytes =>
    simp only [effect]
    split
    · exact hf.readSource
    · exact hf
  | busOp op =>
    simp only [effect]
    split
    · exact hf.readSource
    · exact hf
  | opDone op r =>
    simp only [effect]
    split
    · exact hf.readSource
    · exact hf
  | setInterruptCount n => exact fun h => nomatch h
  | as3935IRQ => cases φ <;> exact hc.elim
  | _ => exact hf

theorem fresh_call {ph : Thread → Phase} {s : State} {t : Thread} {c : Call} {r : Reply c}
    (hf : Fresh s) (hc : (monitors t).allows (ph t) c) (hu : Undisturbed t s c r) :
    Fresh (effect s c r) := by
  cases t with
  | as3935 => exact hf.as3935_step hc r
  | irq =>
    cases hc
    exact fun h => absurd (h.symm.trans (hu rfl rfl)) (by decide)

variable {dev : UInt8} {interval : UInt16} {p q : Pool Thread Call Reply Label State}

theorem reachable_inv (h : (system dev).Reachable (initial interval) p) :
    System.Inv monitors Continues Accounts p := by
  refine h.invariant (code_follows dev) (fun ph s t c r hJ hc _ => accounts_call ph s t c r hJ hc) ?_
  refine ⟨fun _ => .outside, fun t => ?_, rfl, Nat.le_refl 0, by simp [initial], by simp [initial]⟩
  cases t with
  | as3935 => rfl
  | irq => trivial

theorem undisturbed_inv (h : (system dev).Reachable (initial interval) p)
    (hp : p.shared.serving = false) (hq : ((system dev).restrict Undisturbed).Reachable p q) :
    System.Inv monitors Continues (fun ph s => Accounts ph s ∧ Fresh s) q := by
  refine hq.invariant (code_follows dev) ?_ ?_
  · rintro ph s t c r ⟨hJ, hf⟩ hc ⟨-, hu⟩
    obtain ⟨hans, hJ'⟩ := accounts_call ph s t c r hJ hc
    exact ⟨hans, hJ', fresh_call hf hc hu⟩
  · obtain ⟨ph, hwp, hJ⟩ := reachable_inv h
    exact ⟨ph, hwp, hJ, fun hs => absurd (hs.symm.trans hp) (by decide)⟩

/-- From any point of a run at which the thread is not serving on, as long as no
interrupt comes between a read of the source and the reset that follows it: the
count holds the interrupts since the last reset, and whenever the thread is about
to reset it, the thread has read the source in this iteration and every interrupt
since the previous reset came before that read. -/
theorem interrupts_served (h : (system dev).Reachable (initial interval) p)
    (hp : p.shared.serving = false) (hq : ((system dev).restrict Undisturbed).Reachable p q) :
    q.shared.interruptCount = UInt32.ofNat (q.shared.interrupts - q.shared.reset) ∧
    ∀ n, q.AboutTo .as3935 (.setInterruptCount n) →
      n = 0 ∧ q.shared.serving = true ∧
        ∀ i, q.shared.reset < i → i ≤ q.shared.interrupts → i ≤ q.shared.read := by
  have hinv := undisturbed_inv h hp hq
  constructor
  · obtain ⟨ph, -, hb, -⟩ := hinv
    exact hb.count
  · intro n hc
    obtain ⟨ph, hallow, hb, hf⟩ := hinv.allows hc
    unfold Accounts at hb
    generalize ph .as3935 = φ at hallow hb
    cases φ with
    | serving =>
      have hserving := hb.serving.mpr rfl
      exact ⟨hallow, hserving, fun i _ hi => hi.trans_eq (hf hserving)⟩
    | _ => exact hallow.elim

/-! ## Runs -/

/-- A call of the thread. -/
def does (c : Call) (r : Reply c) : Thread × (c : Call) × Reply c := (.as3935, ⟨c, r⟩)

/-- A transfer that succeeds. -/
def transferred (tx : List UInt8) (rxBytes : Nat) (rx : List UInt8) :
    List (Thread × (c : Call) × Reply c) :=
  [does .i2cAcquireBus (), does .i2cState .ready, does .i2cState .ready,
    does (.i2cMasterTransmit 0 tx rxBytes) (), does .i2cWait (.ok, rx), does .i2cReleaseBus (),
    does .opReturn ()]

/-- A step of a calibration on a sensor with all bits clear. -/
def stepped : Step → List (Thread × (c : Call) × Reply c)
  | .write reg mask data => transferred [reg] 1 [0] ++ transferred [reg, data &&& mask] 0 []
  | .calRCO => transferred [0x96, 0x3D] 0 [] ++ [does (.chThdSleepMilliseconds 2) ()]
  | .sleep ms => [does (.chThdSleepMilliseconds ms) ()]

/-- A register read of the loop. -/
def readOf (reg v : UInt8) : List (Thread × (c : Call) × Reply c) :=
  transferred [reg] 1 [v] ++ [does (.opDone (.as3935Read 0 reg) v) ()]

def interrupted : Thread × (c : Call) × Reply c := (.irq, ⟨.as3935IRQ, ()⟩)

/-- The thread starts, lightning strikes and the first turn of the loop serves it;
`between` is what happens right after the read of the source. -/
def firstStrike (between : List (Thread × (c : Call) × Reply c)) :
    List (Thread × (c : Call) × Reply c) :=
  [does (.registerSchedule hwId) (), does (.chThdSleepMilliseconds 1000) (),
    does .as3935BSemWait ()] ++
  (Procedure.manualCal 0 2 1).steps.flatMap stepped ++
  [does (.setHwStatus .ok) (), does .as3935BSemSignal (), does (.registerHw hwId) (),
    does (.chThdSleepMilliseconds 1000) (), does (.palEnableLineEvent .as3935Interrupt) (),
    does (.palSetLineMode .as3935Interrupt) (), does (.palSetLineCallback .as3935Interrupt) (),
    interrupted, does .as3935BSemWait (), does .interruptCount (1 : UInt32),
    does (.chThdSleepMilliseconds 10) ()] ++
  readOf 0x03 0x08 ++ between ++ readOf 0x07 5 ++ readOf 0x06 1 ++ readOf 0x05 2 ++ readOf 0x04 3 ++
  [does (.setHwValue 0 1) (), does (.setHwValue 1 5) (), does (.setHwValue 2 0x010203) (),
    does (.setHwStatus .ok) (), does .chPoolAlloc none]

/-- A second strike while the first is served is discarded by the reset. -/
theorem second_strike_lost :
    ∃ p q, (system 0).Reachable (initial 60) p ∧ p.AboutTo .as3935 (.setInterruptCount 0) ∧
      p.shared.interruptCount = 2 ∧
      ¬ (∀ i, p.shared.reset < i → i ≤ p.shared.interrupts → i ≤ p.shared.read) ∧
      System.Step (system 0) p q ∧ q.shared.interruptCount = 0 ∧ q.shared.interrupts = 2 := by
  obtain ⟨p, hp, hf⟩ := System.Reachable.exists_of_playAll (system 0) (initial 60)
    (firstStrike [interrupted])
    (fun p => (p.nextCall .as3935, p.shared.interruptCount, p.shared.reset, p.shared.interrupts,
      p.shared.read))
    (b := (some (.setInterruptCount 0), 2, 0, 2, 1)) (by decide +kernel)
  simp only [Prod.mk.injEq] at hf
  obtain ⟨hnext, hcount, hreset, hall, hread⟩ := hf
  have hc := Pool.aboutTo_of_nextCall hnext
  obtain ⟨k, hk⟩ := hc
  refine ⟨p, _, hp, ⟨k, hk⟩, hcount, ?_, .call p .as3935 _ k () hk trivial, rfl, hall⟩
  rw [hreset, hall, hread]
  intro h
  exact absurd (h 2 (by decide) (by decide)) (by decide)

/-- The strike that came before the read is served. -/
theorem interrupts_served_firstStrike :
    ∃ p, ((system 0).restrict Undisturbed).Reachable (initial 60) p ∧
      p.AboutTo .as3935 (.setInterruptCount 0) ∧ p.shared.interrupts = 1 ∧
      ∀ i, p.shared.reset < i → i ≤ p.shared.interrupts → i ≤ p.shared.read := by
  obtain ⟨p, hp, hf⟩ := System.Reachable.exists_of_playAll ((system 0).restrict Undisturbed)
    (initial 60) (firstStrike []) (fun p => (p.nextCall .as3935, p.shared.interrupts))
    (b := (some (.setInterruptCount 0), 1)) (by decide +kernel)
  simp only [Prod.mk.injEq] at hf
  obtain ⟨hnext, hall⟩ := hf
  have hc := Pool.aboutTo_of_nextCall hnext
  exact ⟨p, hp, hc, hall, ((interrupts_served .start rfl hp).2 0 hc).2.2⟩

end MeteoL053.As3935
