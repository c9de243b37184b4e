import MeteoL053.Radio.System

/-!
The command mode of the radio belongs to the holder of `uart_bsem`.

Each thread is followed by the same monitor. It lets a thread take the
semaphore only when it does not hold it, signal it only as its holder and out of
command mode, and return from a function only with the semaphore as the caller
expects it. `Good` ties this to the semaphore and the set line.
-/

namespace MeteoL053.Radio.AtMode

open CallTree Lock

/-- What a thread knows of itself. `lineUp`: it has set the set line since it
called `progMode`; `booting`: it has never set the line. -/
@[ext] structure Phase where
  stack : List Fn := []
  holds : Bool := false
  atMode : Bool := false
  lineUp : Bool := false
  booting : Bool := false
  deriving DecidableEq

/-- Inside one of the two functions that talk to the module in command mode. -/
def InAt (stack : List Fn) : Prop := .checkStatus ∈ stack ∨ .reconfigure ∈ stack

/-- What a caller of `f` expects of the semaphore when `f` returns `b`. -/
def Returns (φ : Phase) (b : Bool) : Fn → Prop
  | .checkStatus | .reconfigure | .tunrOnRadio => φ.holds = false
  | .tunrOffRadio => φ.holds = b ∧ φ.atMode = false
  | .normalMode => (φ.atMode = true → φ.lineUp = true) ∧ φ.booting = false
  | _ => φ.atMode = true → InAt φ.stack.tail

def monitor : Monitor Call Reply Phase where
  hangs _ := True
  allows φ
    | .chBSemWait | .chBSemWaitTimeout _ => φ.holds = false
    | .chBSemSignal => φ.holds = true ∧ φ.atMode = false
    | .palClearLine .hc12Set => φ.atMode = true
    | .enter .progMode => φ.holds = true ∧ InAt φ.stack
    | .enter .tunrOnRadio => φ.holds = true
    | .leave f b => Returns φ b f
    | .chnWrite _ => φ.holds = true ∧ φ.atMode = false ∧ φ.booting = false
    | _ => True
  answers _ _ _ := True
  next φ
    | .chBSemWait, _ => { φ with holds := true }
    | .chBSemWaitTimeout _, r => { φ with holds := r }
    | .chBSemSignal, _ => { φ with holds := false }
    | .palSetLine .hc12Set, _ => { φ with lineUp := true, booting := false }
    | .palClearLine .hc12Set, _ => { φ with lineUp := false }
    | .enter f, _ =>
      { φ with
        stack := f :: φ.stack
        atMode := f = .progMode || φ.atMode
        lineUp := f ≠ .progMode && φ.lineUp }
    | .leave f _, _ =>
      { φ with
        stack := φ.stack.tail
        atMode := f ≠ .normalMode && φ.atMode
        lineUp := f ≠ .normalMode && φ.lineUp }
    | _, _ => φ

/-! ## The code follows the monitor -/

/-- At the end of a block: the shell waits for a reply as holder in command
mode, every other block ends with nothing held. -/
def Between : Thread → Block → Phase → Prop
  | .stream, .start, φ => φ = { booting := true }
  | .shell, .drain _, φ | .shell, .reply .., φ =>
    φ = { stack := [.reconfigure], holds := true, atMode := true }
  | _, _, φ => φ = {}

theorem normalMode_follows (φ : Phase) : Hc12.normalMode.wp monitor φ fun _ φ' =>
    φ' = { φ with atMode := false, lineUp := false, booting := false } := by
  apply inFn_wp trivial
  apply Prog.wp_step trivial
  intro _ _
  apply Prog.wp_step trivial
  intro _ _
  exact ⟨⟨fun _ => rfl, rfl⟩, rfl⟩

theorem progMode_follows {φ : Phase} (hh : φ.holds = true) (hs : InAt φ.stack) :
    Hc12.progMode.wp monitor φ fun _ φ' => φ' = { φ with atMode := true, lineUp := false } := by
  apply inFn_wp (And.intro hh hs)
  apply Prog.wp_step rfl
  intro _ _
  apply Prog.wp_step trivial
  intro _ _
  exact ⟨fun _ => hs, rfl⟩

theorem goToSleep_follows {φ : Phase} (ha : φ.atMode = false) :
    Hc12.goToSleep.wp monitor φ fun _ φ' => φ' = φ := by
  have hleave : ∀ result : Bool, monitor.allows (monitor.next φ (.enter .goToSleep) ())
      (.leave .goToSleep result) := fun _ hat => absurd (ha.symm.trans hat) Bool.false_ne_true
  apply inFn_wp trivial
  apply Prog.wp_step trivial
  intro status _
  split
  · exact ⟨hleave false, rfl⟩
  · iterate 3
      apply Prog.wp_step trivial
      intro _ _
    exact ⟨hleave true, rfl⟩

theorem wakeUp_follows {φ : Phase} (ha : φ.atMode = false) :
    Hc12.wakeUp.wp monitor φ fun _ φ' => φ' = φ := by
  have hleave : ∀ result : Bool, monitor.allows (monitor.next φ (.enter .wakeUp) ())
      (.leave .wakeUp result) := fun _ hat => absurd (ha.symm.trans hat) Bool.false_ne_true
  apply inFn_wp trivial
  apply Prog.wp_step trivial
  intro status _
  split
  · exact ⟨hleave false, rfl⟩
  · iterate 3
      apply Prog.wp_step trivial
      intro _ _
    exact ⟨hleave true, rfl⟩

theorem start_follows : Hc12.start.wp monitor { booting := true } (Between .stream) := by
  apply Prog.wp_step trivial
  intro _ _
  apply Prog.wp_bind_of _ _ _ (normalMode_follows _)
  rintro _ _ rfl
  rfl

/-- Back from command mode, the semaphore is given up. -/
theorem checkStatus_ends :
    (do let _ ← Hc12.normalMode; ask .chBSemSignal; return true : Fw Bool).wp monitor
      { stack := [.checkStatus], holds := true, atMode := true } fun _ φ =>
        φ = { stack := [.checkStatus] } := by
  apply Prog.wp_bind_of _ _ _ (normalMode_follows _)
  rintro _ _ rfl
  exact ⟨⟨rfl, rfl⟩, fun _ _ => rfl⟩

theorem checkStatus_follows : Hc12.checkStatus.wp monitor {} fun _ φ => φ = {} := by
  apply inFn_wp trivial
  apply Prog.wp_mono _ _ (Q := fun _ φ => φ = { stack := [.checkStatus] })
  · rintro _ _ rfl
    exact ⟨rfl, rfl⟩
  · apply Prog.wp_step trivial
    intro _ _
    apply Prog.wp_step rfl
    intro got _
    cases got with
    | false => rfl
    | true =>
      apply Prog.wp_bind_of _ _ _ (progMode_follows rfl (.inl List.mem_cons_self))
      rintro _ _ rfl
      iterate 5
        apply Prog.wp_step trivial
        intro _ _
      split
      · exact Prog.wp_step trivial fun _ _ => checkStatus_ends
      · exact checkStatus_ends

theorem ping_follows : Hc12.ping.wp monitor {} (Between .stream) := by
  apply Prog.wp_bind_of _ _ _ checkStatus_follows
  rintro _ _ rfl
  apply Prog.wp_step trivial
  intro status _
  rw [Prog.wp_ite]
  split
  · apply Prog.wp_bind_of _ _ _ (goToSleep_follows rfl)
    rintro _ _ rfl
    exact Prog.wp_step trivial fun _ _ => rfl
  · exact Prog.wp_step trivial fun _ _ => Prog.wp_step trivial fun _ _ => rfl

theorem transmit_follows : Hc12.transmit.wp monitor {} (Between .stream) := by
  apply Prog.wp_step trivial
  intro o _
  cases o with
  | none =>
    apply Prog.wp_bind_of _ _ _ (goToSleep_follows rfl)
    rintro _ _ rfl
    rfl
  | some o =>
    apply Prog.wp_bind_of _ _ _ (wakeUp_follows rfl)
    rintro _ _ rfl
    apply Prog.wp_step rfl
    intro _ _
    apply Prog.wp_step trivial
    intro v _
    cases v.bytes with
    | none => trivial
    | some bs =>
      refine Prog.wp_step ⟨rfl, rfl, rfl⟩ fun _ _ => ?_
      cases v.pokes 0 [0x0A, 0x0D] with
      | none => trivial
      | some v' =>
        refine Prog.wp_step trivial fun _ _ => ?_
        refine Prog.wp_step ⟨rfl, rfl, rfl⟩ fun _ _ => ?_
        refine Prog.wp_step trivial fun _ _ => ?_
        refine Prog.wp_step trivial fun _ _ => ?_
        exact Prog.wp_step (And.intro rfl rfl) fun _ _ => rfl

theorem tunrOffRadio_follows : Hc12.tunrOffRadio.wp monitor {} fun off φ =>
    φ = { holds := off } := by
  apply inFn_wp trivial
  apply Prog.wp_step rfl
  intro got _
  cases got with
  | false => exact ⟨⟨rfl, rfl⟩, rfl⟩
  | true =>
    apply Prog.wp_bind_of _ _ _ (goToSleep_follows rfl)
    rintro _ _ rfl
    exact ⟨⟨rfl, rfl⟩, rfl⟩

theorem tunrOnRadio_follows : Hc12.tunrOnRadio.wp monitor { holds := true } fun _ φ => φ = {} := by
  apply inFn_wp rfl
  apply Prog.wp_bind_of _ _ _ (wakeUp_follows rfl)
  rintro _ _ rfl
  apply Prog.wp_step (And.intro rfl rfl)
  intro _ _
  exact ⟨rfl, rfl⟩

theorem power_follows : Hc12.power.wp monitor {} (Between .power) := by
  apply Prog.wp_bind_of _ _ _ tunrOffRadio_follows
  rintro off _ rfl
  cases off with
  | false => rfl
  | true =>
    apply Prog.wp_bind_of _ _ _ tunrOnRadio_follows
    rintro _ _ rfl
    rfl

/-- `reconfigure` talks to the module. -/
def configuring : Phase := { stack := [.reconfigure], holds := true, atMode := true }

theorem configuring_waits : Waits monitor configuring (Between .shell) where
  hangs := trivial
  talks c hc := by
    cases c <;> first
      | exact ⟨trivial, fun _ => rfl⟩
      | cases hc
  drain _ := rfl
  reply _ _ _ _ := rfl
  finish result := by
    apply Prog.wp_bind_of _ _ _ (normalMode_follows _)
    rintro _ _ rfl
    exact ⟨⟨rfl, rfl⟩, fun _ _ => ⟨rfl, fun _ _ => rfl⟩⟩

theorem configure_follows (cfg : Hc12Cfg) :
    (Hc12.configure cfg).wp monitor { stack := [.reconfigure] } (Between .shell) := by
  apply Prog.wp_step trivial
  intro status _
  split
  · exact ⟨rfl, fun _ _ => rfl⟩
  · apply Prog.wp_step rfl
    intro got _
    cases got with
    | false => exact ⟨rfl, fun _ _ => rfl⟩
    | true =>
      apply Prog.wp_bind_of _ _ _ (progMode_follows rfl (.inr List.mem_cons_self))
      rintro _ _ rfl
      rfl

theorem prompt_follows : Hc12.prompt.wp monitor {} (Between .shell) := by
  apply Prog.wp_step trivial
  intro cfg _
  apply Prog.wp_step trivial
  intro _ _
  apply Prog.wp_step trivial
  intro status _
  split
  · apply Prog.wp_bind_of _ _ _ (wakeUp_follows rfl)
    rintro _ _ rfl
    exact configure_follows cfg
  · exact configure_follows cfg

theorem bodyOn_follows (t : Thread) (l : Block) (φ : Phase) (h : Between t l φ) :
    (bodyOn t l).wp monitor φ (Between t) := by
  cases t with
  | stream =>
    cases l with
    | start => rw [show φ = _ from h]; exact start_follows
    | ping => rw [show φ = _ from h]; exact ping_follows
    | _ => rw [show φ = _ from h]; exact transmit_follows
  | power => rw [show φ = {} by cases l <;> exact h]; exact power_follows
  | shell =>
    cases l with
    | drain cfg => rw [show φ = _ from h]; exact configuring_waits.drain_follows cfg
    | reply cfg cmd timeout index =>
      rw [show φ = _ from h]
      exact configuring_waits.replyOn_follows cfg cmd timeout index
    | _ => rw [show φ = _ from h]; exact prompt_follows

/-! ## The global invariant -/

structure Good (ph : Thread → Phase) (s : State) : Prop where
  lock : Exclusive s.uartBsem s.holds
  holds : s.holds = Phase.holds ∘ ph
  stack : s.stack = Phase.stack ∘ ph
  atMode : s.atMode = Phase.atMode ∘ ph
  atHolder : ∀ t, s.atMode t = true → s.holds t = true ∧ InAt (s.stack t)
  lineUp : ∀ t, s.atMode t = true → (ph t).lineUp = true → s.lineSet = true
  low : s.lineSet = false → (ph .stream).booting = true ∨ ∃ t, s.atMode t = true
  started : s.started = true → (ph .stream).booting = false

variable {ph : Thread → Phase} {s s' : State} {t : Thread} {φ : Phase}

theorem Good.holds_eq (h : Good ph s) (t : Thread) : s.holds t = (ph t).holds :=
  congrFun h.holds t

theorem Good.stack_eq (h : Good ph s) (t : Thread) : s.stack t = (ph t).stack :=
  congrFun h.stack t

theorem Good.atMode_eq (h : Good ph s) (t : Thread) : s.atMode t = (ph t).atMode :=
  congrFun h.atMode t

theorem Good.initial (lineSet enableLine : Bool) :
    Good (fun | .stream => { booting := true } | _ => {}) (boot lineSet enableLine).shared where
  lock := Exclusive.initial
  holds := by funext t; cases t <;> rfl
  stack := by funext t; cases t <;> rfl
  atMode := by funext t; cases t <;> rfl
  atHolder t := by simp [boot, quiet]
  lineUp t := by simp [boot, quiet]
  low _ := .inl rfl
  started := by simp [boot, quiet]

/-- The invariant speaks about a part of the state only. -/
theorem Good.frame (h : Good ph s) (hsem : s'.uartBsem = s.uartBsem)
    (hline : s'.lineSet = s.lineSet) (hholds : s'.holds = s.holds) (hstack : s'.stack = s.stack)
    (hat : s'.atMode = s.atMode) (hstarted : s'.started = s.started) :
    Good (Function.update ph t (ph t)) s' := by
  rw [Function.update_eq_self]
  obtain ⟨lock, holds, stack, atMode, atHolder, lineUp, low, started⟩ := h
  constructor <;> simp only [hsem, hline, hholds, hstack, hat, hstarted] <;> assumption

theorem Good.take (h : Good ph s) (hfree : s.uartBsem = false) :
    Good (Function.update ph t { ph t with holds := true }) (s.take t) where
  lock := h.lock.acquire hfree t
  holds := by rw [Function.comp_update, ← h.holds]; rfl
  stack := h.stack.trans (comp_update_same Phase.stack (by rfl)).symm
  atMode := h.atMode.trans (comp_update_same Phase.atMode (by rfl)).symm
  atHolder u hu := by
    -- nobody held the semaphore, so nobody was in command mode
    have hheld := (h.atHolder u hu).1
    rw [h.lock.free hfree u] at hheld
    cases hheld
  lineUp u hu hup := h.lineUp u hu ((apply_update_same Phase.lineUp (by rfl) u).symm.trans hup)
  low hl := (h.low hl).imp_left (apply_update_same Phase.booting (by rfl) Thread.stream).trans
  started hs := (apply_update_same Phase.booting (by rfl) Thread.stream).trans (h.started hs)

theorem Good.signal (h : Good ph s) (hh : (ph t).holds = true) (ha : (ph t).atMode = false) :
    Good (Function.update ph t { ph t with holds := false })
      { s with uartBsem := false, holds := Function.update s.holds t false } where
  lock := h.lock.release ((h.holds_eq t).trans hh)
  holds := by rw [Function.comp_update, ← h.holds]
  stack := h.stack.trans (comp_update_same Phase.stack (by rfl)).symm
  atMode := h.atMode.trans (comp_update_same Phase.atMode (by rfl)).symm
  atHolder u hu := by
    have hne : u ≠ t := by
      rintro rfl
      rw [h.atMode_eq, ha] at hu
      cases hu
    simpa [hne] using h.atHolder u hu
  lineUp u hu hup := h.lineUp u hu ((apply_update_same Phase.lineUp (by rfl) u).symm.trans hup)
  low hl := (h.low hl).imp_left (apply_update_same Phase.booting (by rfl) Thread.stream).trans
  started hs := (apply_update_same Phase.booting (by rfl) Thread.stream).trans (h.started hs)

theorem Good.setLine (h : Good ph s) :
    Good (Function.update ph t { ph t with lineUp := true, booting := false })
      { s with lineSet := true } where
  lock := h.lock
  holds := h.holds.trans (comp_update_same Phase.holds (by rfl)).symm
  stack := h.stack.trans (comp_update_same Phase.stack (by rfl)).symm
  atMode := h.atMode.trans (comp_update_same Phase.atMode (by rfl)).symm
  atHolder := h.atHolder
  lineUp _ _ _ := rfl
  low hl := by cases hl
  started hs := by
    by_cases ht : t = .stream
    · rw [ht, Function.update_self]
    · rw [Function.update_of_ne (Ne.symm ht)]
      exact h.started hs

theorem Good.clearLine (h : Good ph s) (ha : (ph t).atMode = true) :
    Good (Function.update ph t { ph t with lineUp := false }) { s with lineSet := false } where
  lock := h.lock
  holds := h.holds.trans (comp_update_same Phase.holds (by rfl)).symm
  stack := h.stack.trans (comp_update_same Phase.stack (by rfl)).symm
  atMode := h.atMode.trans (comp_update_same Phase.atMode (by rfl)).symm
  atHolder := h.atHolder
  lineUp u hu hup := by
    -- only the holder is in command mode, and it has just cleared the line
    have hat : s.atMode t = true := (h.atMode_eq t).trans ha
    have e : u = t := h.lock.unique u t (h.atHolder u hu).1 (h.atHolder t hat).1
    rw [e, Function.update_self] at hup
    cases hup
  low _ := .inr ⟨t, (h.atMode_eq t).trans ha⟩
  started hs := (apply_update_same Phase.booting (by rfl) Thread.stream).trans (h.started hs)

/-! Entering and leaving a function, for the state and for the monitor. -/

section Stack

variable (s : State) (φ : Phase) (f : Fn) (b : Bool)

@[simp] theorem enter_stack :
    (effect t s (.enter f) ()).stack = Function.update s.stack t (f :: s.stack t) := rfl

@[simp] theorem enter_holds : (effect t s (.enter f) ()).holds = s.holds := rfl

@[simp] theorem enter_atMode : (effect t s (.enter f) ()).atMode =
    if f = .progMode then Function.update s.atMode t true else s.atMode := rfl

@[simp] theorem leave_stack :
    (effect t s (.leave f b) ()).stack = Function.update s.stack t (s.stack t).tail := rfl

@[simp] theorem leave_holds : (effect t s (.leave f b) ()).holds = s.holds := rfl

@[simp] theorem leave_atMode : (effect t s (.leave f b) ()).atMode =
    if f = .normalMode then Function.update s.atMode t false else s.atMode := rfl

@[simp] theorem leave_started : (effect t s (.leave f b) ()).started =
    (s.started || (f = .normalMode && t = .stream)) := rfl

@[simp] theorem next_enter : monitor.next φ (.enter f) () =
    { φ with
      stack := f :: φ.stack
      atMode := f = .progMode || φ.atMode
      lineUp := f ≠ .progMode && φ.lineUp } := rfl

@[simp] theorem next_leave : monitor.next φ (.leave f b) () =
    { φ with
      stack := φ.stack.tail
      atMode := f ≠ .normalMode && φ.atMode
      lineUp := f ≠ .normalMode && φ.lineUp } := rfl

end Stack

theorem Good.enter_stack (h : Good ph s) (f : Fn) :
    (effect t s (.enter f) ()).stack =
      Phase.stack ∘ Function.update ph t (monitor.next (ph t) (.enter f) ()) := by
  rw [Function.comp_update, ← h.stack]
  simp [h.stack_eq]

theorem Good.leave_stack (h : Good ph s) (f : Fn) (b : Bool) :
    (effect t s (.leave f b) ()).stack =
      Phase.stack ∘ Function.update ph t (monitor.next (ph t) (.leave f b) ()) := by
  rw [Function.comp_update, ← h.stack]
  simp [h.stack_eq]

theorem Good.enterProgMode (h : Good ph s) (hh : (ph t).holds = true)
    (hs : InAt (ph t).stack) :
    Good (Function.update ph t (monitor.next (ph t) (.enter .progMode) ()))
      (effect t s (.enter .progMode) ()) where
  lock := h.lock
  holds := h.holds.trans (comp_update_same Phase.holds (by rfl)).symm
  stack := h.enter_stack .progMode
  atMode := by
    rw [Function.comp_update, ← h.atMode]
    simp
  atHolder u hu := by
    by_cases e : u = t
    · subst e
      rw [← h.stack_eq] at hs
      exact ⟨(h.holds_eq u).trans hh, by simpa [InAt] using hs⟩
    · simpa [e] using h.atHolder u (by simpa [e] using hu)
  lineUp u hu hup := by
    by_cases e : u = t
    · subst e
      simp at hup
    · exact h.lineUp u (by simpa [e] using hu) (by simpa [e] using hup)
  low _ := .inr ⟨t, by simp⟩
  started hs := (apply_update_same Phase.booting (by rfl) Thread.stream).trans (h.started hs)

theorem enter_atMode_of_ne (s : State) {f : Fn} (hf : f ≠ .progMode) :
    (effect t s (.enter f) ()).atMode = s.atMode := by
  simp [hf]

theorem Good.enterOther (h : Good ph s) {f : Fn} (hf : f ≠ .progMode) :
    Good (Function.update ph t (monitor.next (ph t) (.enter f) ()))
      (effect t s (.enter f) ()) where
  lock := h.lock
  holds := h.holds.trans (comp_update_same Phase.holds (by rfl)).symm
  stack := h.enter_stack f
  atMode := by
    rw [enter_atMode_of_ne s hf, comp_update_same Phase.atMode (by simp [hf]), ← h.atMode]
  atHolder u hu := by
    rw [enter_atMode_of_ne s hf] at hu
    have hu' := h.atHolder u hu
    by_cases e : u = t
    · subst e
      refine ⟨hu'.1, ?_⟩
      rcases hu'.2 with hc | hr
      · exact .inl (by simp [hc])
      · exact .inr (by simp [hr])
    · simpa [e] using hu'
  lineUp u hu hup := h.lineUp u (enter_atMode_of_ne s hf ▸ hu)
    ((apply_update_same Phase.lineUp (by simp [hf]) u).symm.trans hup)
  low hl := by
    rw [enter_atMode_of_ne s hf]
    exact (h.low hl).imp_left (apply_update_same (t := t)
      (x := monitor.next (ph t) (.enter f) ()) Phase.booting (by rfl) Thread.stream).trans
  started hs := (apply_update_same Phase.booting (by rfl) Thread.stream).trans (h.started hs)

theorem Good.leaveNormalMode (h : Good ph s) {b : Bool} (hr : Returns (ph t) b .normalMode) :
    Good (Function.update ph t (monitor.next (ph t) (.leave .normalMode b) ()))
      (effect t s (.leave .normalMode b) ()) where
  lock := h.lock
  holds := h.holds.trans (comp_update_same Phase.holds (by rfl)).symm
  stack := h.leave_stack .normalMode b
  atMode := by
    rw [Function.comp_update, ← h.atMode]
    simp
  atHolder u hu := by
    by_cases e : u = t
    · subst e
      simp at hu
    · simpa [e] using h.atHolder u (by simpa [e] using hu)
  lineUp u hu hup := by
    by_cases e : u = t
    · subst e
      simp at hu
    · exact h.lineUp u (by simpa [e] using hu) (by simpa [e] using hup)
  low hl := by
    -- the line is up when `t` leaves command mode, so a low line is another's
    have hl' : s.lineSet = false := hl
    have hat : s.atMode t = false := by
      cases ha : s.atMode t with
      | false => rfl
      | true =>
        have hup := h.lineUp t ha (hr.1 ((h.atMode_eq t).symm.trans ha))
        rw [hl'] at hup
        cases hup
    rcases h.low hl' with hb | ⟨u, hu⟩
    · exact .inl ((apply_update_same Phase.booting (by rfl) Thread.stream).trans hb)
    · have hne : u ≠ t := by
        rintro rfl
        rw [hat] at hu
        cases hu
      exact .inr ⟨u, by simpa [hne] using hu⟩
  started hs := by
    refine (apply_update_same Phase.booting (by rfl) Thread.stream).trans ?_
    by_cases e : t = .stream
    · rw [← e]
      exact hr.2
    · exact h.started (by simpa [e] using hs)

theorem leave_atMode_of_ne (s : State) {f : Fn} (b : Bool) (hf : f ≠ .normalMode) :
    (effect t s (.leave f b) ()).atMode = s.atMode := by
  simp [hf]

/-- A function that returns in command mode was called from one that may be in it. -/
theorem inAt_of_returns {b : Bool} {f : Fn} (hf : f ≠ .normalMode) (hheld : φ.holds = true)
    (hat : φ.atMode = true) (hr : Returns φ b f) : InAt φ.stack.tail := by
  have hheld' : φ.holds ≠ false := by rw [hheld]; decide
  have hat' : φ.atMode ≠ false := by rw [hat]; decide
  cases f with
  | checkStatus => exact absurd hr hheld'
  | reconfigure => exact absurd hr hheld'
  | tunrOnRadio => exact absurd hr hheld'
  | tunrOffRadio => exact absurd hr.2 hat'
  | normalMode => exact absurd rfl hf
  | _ => exact hr hat

theorem Good.leaveOther (h : Good ph s) {f : Fn} {b : Bool} (hf : f ≠ .normalMode)
    (hr : Returns (ph t) b f) :
    Good (Function.update ph t (monitor.next (ph t) (.leave f b) ()))
      (effect t s (.leave f b) ()) where
  lock := h.lock
  holds := h.holds.trans (comp_update_same Phase.holds (by rfl)).symm
  stack := h.leave_stack f b
  atMode := by
    rw [leave_atMode_of_ne s b hf, comp_update_same Phase.atMode (by simp [hf]), ← h.atMode]
  atHolder u hu := by
    rw [leave_atMode_of_ne s b hf] at hu
    have hu' := h.atHolder u hu
    by_cases e : u = t
    · subst e
      have hin := inAt_of_returns hf ((h.holds_eq u).symm.trans hu'.1)
        ((h.atMode_eq u).symm.trans hu) hr
      exact ⟨hu'.1, by simpa [h.stack_eq] using hin⟩
    · simpa [e] using hu'
  lineUp u hu hup := h.lineUp u (leave_atMode_of_ne s b hf ▸ hu)
    ((apply_update_same Phase.lineUp (by simp [hf]) u).symm.trans hup)
  low hl := by
    rw [leave_atMode_of_ne s b hf]
    exact (h.low hl).imp_left (apply_update_same (t := t)
      (x := monitor.next (ph t) (.leave f b) ()) Phase.booting (by rfl) Thread.stream).trans
  started hs := (apply_update_same Phase.booting (by rfl) Thread.stream).trans
    (h.started (by simpa [hf] using hs))

/-- Every call the monitor allows keeps the invariant. -/
theorem Good.call (h : Good ph s) {c : Call} {r : Reply c} (ha : monitor.allows (ph t) c)
    (hr : possible t s c r) :
    Good (Function.update ph t (monitor.next (ph t) c r)) (effect t s c r) := by
  cases c with
  | chBSemWait => exact h.take hr
  | chBSemWaitTimeout ticks =>
    cases r with
    | true => exact h.take (hr rfl)
    | false =>
      have hφ : monitor.next (ph t) (.chBSemWaitTimeout ticks) false = ph t := by
        have hh : (ph t).holds = false := ha
        simp only [monitor, ← hh]
      rw [hφ]
      exact h.frame rfl rfl rfl rfl rfl rfl
  | chBSemSignal => exact h.signal ha.1 ha.2
  | palSetLine l =>
    cases l with
    | hc12Set => exact h.setLine
    | _ => exact h.frame rfl rfl rfl rfl rfl rfl
  | palClearLine l =>
    cases l with
    | hc12Set => exact h.clearLine ha
    | _ => exact h.frame rfl rfl rfl rfl rfl rfl
  | status =>
    simp only [effect]
    split <;> exact h.frame rfl rfl rfl rfl rfl rfl
  | enter f =>
    by_cases hf : f = .progMode
    · subst hf
      exact h.enterProgMode ha.1 ha.2
    · exact h.enterOther hf
  | leave f b =>
    by_cases hf : f = .normalMode
    · subst hf
      exact h.leaveNormalMode ha
    · exact h.leaveOther hf ha
  | _ => exact h.frame rfl rfl rfl rfl rfl rfl

theorem reachable_good {pointers : Pointers} {lineSet enableLine : Bool}
    {p : Pool Thread Call Reply Block State}
    (h : ((systemOn pointers).restrict InRxBuff).Reachable (boot lineSet enableLine) p) :
    System.Inv (fun _ => monitor) Between Good p := by
  refine h.invariant bodyOn_follows ?_ ?_
  · rintro ph s t c r hg ha ⟨⟨hr, -⟩, hin⟩
    have heffect : (systemOn pointers).effect t s c r = effect t s c r := by
      simp only [systemOn, show strayByte c r = none from hin]
    refine ⟨trivial, ?_⟩
    rw [System.restrict, heffect]
    exact hg.call ha hr
  · refine ⟨_, fun t => ?_, Good.initial lineSet enableLine⟩
    cases t <;> rfl

/-- **Command mode and semaphore discipline.** After the first `normalMode` of
the stream thread, in every interleaving and with any timeouts, clock values and
replies none of whose bytes is stored behind `rxBuff`: at most one thread holds
`uart_bsem`, only its holder signals it, and every function gives it back before
it returns, `tunrOffRadio` excepted, which keeps it exactly when it returns true,
for the `tunrOnRadio` that follows. The set line is low only while the holder is
in the command mode section of `checkStatus` or `reconfigure`, so telemetry is
written only while the module is out of command mode. -/
theorem command_mode_exclusive {pointers : Pointers} {lineSet enableLine : Bool}
    {p : Pool Thread Call Reply Block State}
    (h : ((systemOn pointers).restrict InRxBuff).Reachable (boot lineSet enableLine) p)
    (hs : p.shared.started = true) :
    (∀ t u, p.shared.holds t = true → p.shared.holds u = true → t = u) ∧
    (∀ t, p.AboutTo t .chBSemSignal → p.shared.holds t = true) ∧
    (∀ t f b, p.AboutTo t (.leave f b) →
      f = .checkStatus ∨ f = .reconfigure ∨ f = .tunrOnRadio → p.shared.holds t = false) ∧
    (∀ t b, p.AboutTo t (.leave .tunrOffRadio b) → p.shared.holds t = b) ∧
    (∀ t, p.AboutTo t (.enter .tunrOnRadio) → p.shared.holds t = true) ∧
    (∀ l, p.prog .stream = .ret l → p.shared.holds .stream = false) ∧
    (p.shared.lineSet = false → ∃ t, p.shared.holds t = true ∧ p.shared.atMode t = true ∧
      (.checkStatus ∈ p.shared.stack t ∨ .reconfigure ∈ p.shared.stack t)) ∧
    ∀ t bs, p.AboutTo t (.chnWrite bs) →
      p.shared.lineSet = true ∧ ∀ u, p.shared.atMode u = false := by
  have hinv := reachable_good h
  obtain ⟨ph, hwp, hg⟩ := reachable_good h
  have hlow : p.shared.lineSet = false → ∃ t, p.shared.atMode t = true := by
    intro hl
    rcases hg.low hl with hb | hat
    · rw [hg.started hs] at hb
      cases hb
    · exact hat
  refine ⟨hg.lock.unique, ?_, ?_, ?_, ?_, ?_, ?_, ?_⟩
  · intro t ht
    obtain ⟨ph, ha, hg⟩ := hinv.allows ht
    exact (hg.holds_eq t).trans ha.1
  · intro t f b ht hf
    obtain ⟨ph, ha, hg⟩ := hinv.allows ht
    rw [hg.holds_eq]
    rcases hf with rfl | rfl | rfl <;> exact ha
  · intro t b ht
    obtain ⟨ph, ha, hg⟩ := hinv.allows ht
    exact (hg.holds_eq t).trans ha.1
  · intro t ht
    obtain ⟨ph, ha, hg⟩ := hinv.allows ht
    exact (hg.holds_eq t).trans ha
  · intro l hl
    have hb := hwp .stream
    rw [hl] at hb
    rw [hg.holds_eq]
    cases l <;> rw [show ph .stream = _ from hb]
  · intro hl
    obtain ⟨t, ht⟩ := hlow hl
    obtain ⟨hh, hin⟩ := hg.atHolder t ht
    exact ⟨t, hh, ht, hin⟩
  · intro t bs ht
    obtain ⟨ph, ⟨hh, ha, -⟩, hg⟩ := hinv.allows ht
    have hnone : ∀ u, p.shared.atMode u = false := by
      intro u
      cases hu : p.shared.atMode u with
      | false => rfl
      | true =>
        have e := hg.lock.unique u t (hg.atHolder u hu).1 ((hg.holds_eq t).trans hh)
        rw [e, hg.atMode_eq, ha] at hu
        cases hu
    refine ⟨?_, hnone⟩
    cases hl : p.shared.lineSet with
    | true => rfl
    | false =>
      obtain ⟨u, hu⟩ := hlow hl
      rw [hnone u] at hu
      cases hu

/-- The stream thread starts up and enters command mode for its first ping. -/
def firstPing : List (Thread × (c : Call) × Reply c) :=
  [(.stream, ⟨.setHwStatus .unknown, ()⟩),
   (.stream, ⟨.enter .normalMode, ()⟩), (.stream, ⟨.palSetLine .hc12Set, ()⟩),
   (.stream, ⟨.chThdSleepMilliseconds 50, ()⟩), (.stream, ⟨.leave .normalMode true, ()⟩),
   (.stream, ⟨.enter .checkStatus, ()⟩), (.stream, ⟨.setStatus .nok, ()⟩),
   (.stream, ⟨.chBSemWaitTimeout 500, true⟩),
   (.stream, ⟨.enter .progMode, ()⟩), (.stream, ⟨.palClearLine .hc12Set, ()⟩)]

/-- Bytes of pointers into RAM and flash; the queue of `uart_bsem` is empty. -/
def linked : Pointers :=
  ⟨[0x10, 0x02, 0x00, 0x20, 0x00, 0x91, 0x00, 0x08, 0x8C, 0x04, 0x00, 0x20, 0x8C, 0x04, 0x00, 0x20],
    rfl⟩

theorem command_mode_exclusive_firstPing :
    ∃ p, ((systemOn linked).restrict InRxBuff).Reachable (boot true true) p ∧
      p.shared.started = true ∧ p.shared.lineSet = false ∧
      ∃ t, p.shared.holds t = true ∧ p.shared.atMode t = true := by
  obtain ⟨p, h, hp⟩ := System.Reachable.exists_of_playAll ((systemOn linked).restrict InRxBuff)
    (boot true true) firstPing (fun p => (p.shared.started, p.shared.lineSet)) (b := (true, false))
    (by decide +kernel)
  obtain ⟨hs, hl⟩ := Prod.mk.inj hp
  obtain ⟨-, -, -, -, -, -, hlow, -⟩ := command_mode_exclusive h hs
  obtain ⟨t, hh, hat, -⟩ := hlow hl
  exact ⟨p, h, hs, hl, t, hh, hat⟩

/-- The ping is answered, and the module goes to sleep. -/
def pingAnswered : List (Thread × (c : Call) × Reply c) :=
  [(.stream, ⟨.chThdSleepMilliseconds 50, ()⟩), (.stream, ⟨.leave .progMode true, ()⟩),
   (.stream, ⟨.chprintf "AT", ()⟩), (.stream, ⟨.chnRead 0 8, [0x4F, 0x4B]⟩),
   (.stream, ⟨.rxBuff 0, (0x4F : UInt8)⟩), (.stream, ⟨.rxBuff 1, (0x4B : UInt8)⟩),
   (.stream, ⟨.rxBuff 2, (0 : UInt8)⟩), (.stream, ⟨.setStatus .ok, ()⟩),
   (.stream, ⟨.enter .normalMode, ()⟩), (.stream, ⟨.palSetLine .hc12Set, ()⟩),
   (.stream, ⟨.chThdSleepMilliseconds 50, ()⟩), (.stream, ⟨.leave .normalMode true, ()⟩),
   (.stream, ⟨.chBSemSignal, ()⟩), (.stream, ⟨.leave .checkStatus true, ()⟩),
   (.stream, ⟨.status, .ok⟩), (.stream, ⟨.enter .goToSleep, ()⟩), (.stream, ⟨.status, .ok⟩),
   (.stream, ⟨.palClearLine .hc12Enable, ()⟩), (.stream, ⟨.chThdSleepMilliseconds 10, ()⟩),
   (.stream, ⟨.setStatus .sleep, ()⟩), (.stream, ⟨.leave .goToSleep true, ()⟩),
   (.stream, ⟨.setHwStatus .ok, ()⟩)]

/-- `hc12set` up to the first AT command. -/
def firstCommand : List (Thread × (c : Call) × Reply c) :=
  [(.shell, ⟨.nextCfg, ⟨1, 9600, 3, 8⟩⟩), (.shell, ⟨.enter .reconfigure, ()⟩),
   (.shell, ⟨.status, .sleep⟩), (.shell, ⟨.enter .wakeUp, ()⟩), (.shell, ⟨.status, .sleep⟩),
   (.shell, ⟨.palSetLine .hc12Enable, ()⟩), (.shell, ⟨.chThdSleepMilliseconds 500, ()⟩),
   (.shell, ⟨.setStatus .ok, ()⟩), (.shell, ⟨.leave .wakeUp true, ()⟩), (.shell, ⟨.status, .ok⟩),
   (.shell, ⟨.chBSemWaitTimeout 1000, true⟩), (.shell, ⟨.enter .progMode, ()⟩),
   (.shell, ⟨.palClearLine .hc12Set, ()⟩), (.shell, ⟨.chThdSleepMilliseconds 50, ()⟩),
   (.shell, ⟨.leave .progMode true, ()⟩), (.shell, ⟨.chnRead 0 1, []⟩),
   (.shell, ⟨.chprintf "AT+C001", ()⟩), (.shell, ⟨.chVTGetSystemTime, (0 : UInt16)⟩)]

/-- A reply of 152 bytes: both buffers full, the status OK, the pointers as they
are, and a count of 1. -/
def longReply : List UInt8 := List.replicate 128 0x41 ++ [2, 0, 0, 0] ++ linked.1 ++ freeCount

/-- The turns of the reply loop for a reply that comes at once. -/
def replyTurns (reply : List UInt8) : List (Thread × (c : Call) × Reply c) :=
  (List.range reply.length).flatMap fun i =>
    [(.shell, ⟨.chVTGetSystemTime, (0 : UInt16)⟩), (.shell, ⟨.chnRead i 1, [reply.getD i 0]⟩)] ++
      if i > 1 then
        [(.shell, ⟨.rxBuff (i - 1), reply.getD (i - 1) 0⟩), (.shell, ⟨.rxBuff i, reply.getD i 0⟩)]
      else []

/-- The stream thread sends a message. -/
def sendMessage : List (Thread × (c : Call) × Reply c) :=
  [(.stream, ⟨.chMBFetch, some (0 : Obj)⟩), (.stream, ⟨.enter .wakeUp, ()⟩), (.stream, ⟨.status, .ok⟩),
   (.stream, ⟨.leave .wakeUp false, ()⟩), (.stream, ⟨.chBSemWait, ()⟩),
   (.stream, ⟨.load 0, blank.setSize 2⟩)]

/-- The reply frees `uart_bsem` while the shell holds it: the stream thread takes it
too and writes its message to the module in command mode. -/
theorem telemetry_in_command_mode :
    ∃ p, (systemOn linked).Reachable (boot true true) p ∧ p.shared.started = true ∧
      p.shared.holds .shell = true ∧ p.shared.holds .stream = true ∧
      p.AboutTo .stream (.chnWrite [0, 0]) ∧ p.shared.lineSet = false ∧
      p.shared.atMode .shell = true := by
  obtain ⟨p, h, hp⟩ := System.Reachable.exists_of_playAll (systemOn linked) (boot true true)
    (firstPing ++ pingAnswered ++ firstCommand ++ replyTurns longReply ++ sendMessage)
    (fun p => (p.shared.started, p.shared.holds .shell, p.shared.holds .stream,
      p.nextCall .stream, p.shared.lineSet, p.shared.atMode .shell))
    (b := (true, true, true, some (.chnWrite [0, 0]), false, true)) (by decide +kernel)
  simp only [Prod.mk.injEq] at hp
  obtain ⟨hs, hshell, hstream, hc, hl, hat⟩ := hp
  exact ⟨p, h, hs, hshell, hstream, Pool.aboutTo_of_nextCall hc, hl, hat⟩

end MeteoL053.Radio.AtMode
