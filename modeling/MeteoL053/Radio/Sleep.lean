import MeteoL053.Radio.System

/-!
`goToSleep` and `wakeUp` as the three threads use them.

Both touch the enable line and the status in two steps with a sleep between
them. A position says how far a thread is in one of them; the monitors follow
the positions, the semaphore and whether the thread is going to use the radio.
-/

namespace MeteoL053.Radio.Enable

open CallTree

/-! ## Phases and monitors -/

/-- How far a thread is in `goToSleep` or `wakeUp`. Between its two calls of
them the power thread has `slept`. -/
inductive Pos where
  | outside
  | sleepEntered
  | sleepTested
  | sleepCleared
  | sleepDone
  | slept
  | wakeEntered
  | wakeTested
  | wakeRaised
  | wakeDone
  deriving DecidableEq

/-- What a thread knows of itself. `ready`: the stream thread has called
`wakeUp` for the message it has, the shell has found the status OK. -/
@[ext] structure Phase where
  pos : Pos := .outside
  stack : List Fn := []
  holds : Bool := false
  ready : Bool := false
  deriving DecidableEq

/-- Who may switch the module off, and with what in hand. -/
def MaySleep (φ : Phase) : Thread → Prop
  | .stream => φ.holds = false ∧ φ.ready = false
  | .power => φ.holds = true
  | .shell => False

def afterSleep : Thread → Pos
  | .power => .slept
  | _ => .outside

def monitor (t : Thread) : Monitor Call Reply Phase where
  hangs _ := True
  allows φ
    | .enter .goToSleep => φ.pos = .outside ∧ MaySleep φ t
    | .enter .wakeUp => φ.pos = afterSleep t
    | .leave .goToSleep _ => φ.pos = .sleepDone
    | .leave .wakeUp _ => φ.pos = .wakeDone
    | .leave .reconfigure _ => φ.pos = .outside ∧ φ.holds = false
    | .leave _ _ => φ.pos ≠ .sleepCleared
    | .status => φ.pos = .sleepEntered ∨ φ.pos = .wakeEntered ∨
        φ.pos = .outside ∧ t = .shell ∧ φ.stack = [.reconfigure]
    | .palClearLine .hc12Enable =>
      φ.pos = .sleepTested ∧ MaySleep φ t ∧ .goToSleep ∈ φ.stack
    | .palSetLine .hc12Enable => φ.pos = .wakeTested
    | .setStatus .sleep => φ.pos = .sleepCleared
    | .setStatus .ok => φ.pos = .wakeRaised
    | .setStatus .nok => False
    | .chBSemWait | .chBSemWaitTimeout _ =>
      φ.pos = .outside ∧ φ.holds = false ∧ (t ≠ .power → φ.ready = true)
    | .chBSemSignal => φ.pos = .outside ∧ φ.holds = true
    | .chnWrite _ | .chprintf _ => t ≠ .power ∧ φ.holds = true
    | _ => True
  answers _ _ _ := True
  next φ
    | .enter f, _ =>
      { φ with
        stack := f :: φ.stack
        pos := if f = .goToSleep then .sleepEntered else if f = .wakeUp then .wakeEntered else φ.pos }
    | .leave f _, _ =>
      { φ with
        stack := φ.stack.tail
        pos := if f = .goToSleep then afterSleep t else if f = .wakeUp then .outside else φ.pos
        ready := f ≠ .reconfigure && φ.ready }
    | .status, r =>
      match φ.pos with
      | .sleepEntered =>
        { φ with pos := if r = Hc12Status.ok then .sleepTested else .sleepDone }
      | .wakeEntered =>
        if r = Hc12Status.sleep then { φ with pos := .wakeTested }
        else { φ with pos := .wakeDone, ready := t = .stream || φ.ready }
      | _ => { φ with ready := r = Hc12Status.ok || φ.ready }
    | .palClearLine .hc12Enable, _ => { φ with pos := .sleepCleared }
    | .palSetLine .hc12Enable, _ => { φ with pos := .wakeRaised }
    | .setStatus .sleep, _ => { φ with pos := .sleepDone }
    | .setStatus .ok, _ => { φ with pos := .wakeDone, ready := t = .stream || φ.ready }
    | .chBSemWait, _ => { φ with holds := true }
    | .chBSemWaitTimeout _, r => { φ with holds := r }
    | .chBSemSignal, _ => { φ with holds := false, ready := t ≠ .stream && φ.ready }
    | _, _ => φ

section Next

variable (t : Thread) (φ : Phase)

@[simp] theorem next_enter (f : Fn) (r : Reply (.enter f)) :
    (monitor t).next φ (.enter f) r =
      { φ with
        stack := f :: φ.stack
        pos := if f = .goToSleep then .sleepEntered else if f = .wakeUp then .wakeEntered else φ.pos } :=
  rfl

@[simp] theorem next_leave (f : Fn) (b : Bool) (r : Reply (.leave f b)) :
    (monitor t).next φ (.leave f b) r =
      { φ with
        stack := φ.stack.tail
        pos := if f = .goToSleep then afterSleep t else if f = .wakeUp then .outside else φ.pos
        ready := f ≠ .reconfigure && φ.ready } :=
  rfl

theorem next_status_asleep (r : Hc12Status) (hp : φ.pos = .sleepEntered) :
    (monitor t).next φ .status r =
      { φ with pos := if r = Hc12Status.ok then .sleepTested else .sleepDone } := by
  simp only [monitor, hp]

theorem next_status_awake (r : Hc12Status) (hp : φ.pos = .wakeEntered) :
    (monitor t).next φ .status r =
      if r = Hc12Status.sleep then { φ with pos := .wakeTested }
      else { φ with pos := .wakeDone, ready := t = .stream || φ.ready } := by
  simp only [monitor, hp]

theorem next_status_outside (r : Hc12Status) (hp : φ.pos = .outside) :
    (monitor t).next φ .status r = { φ with ready := r = Hc12Status.ok || φ.ready } := by
  obtain ⟨pos, stack, holds, ready⟩ := φ
  cases hp
  rfl

@[simp] theorem next_clearEnable (r : Reply (.palClearLine .hc12Enable)) :
    (monitor t).next φ (.palClearLine .hc12Enable) r = { φ with pos := .sleepCleared } := rfl

@[simp] theorem next_setEnable (r : Reply (.palSetLine .hc12Enable)) :
    (monitor t).next φ (.palSetLine .hc12Enable) r = { φ with pos := .wakeRaised } := rfl

@[simp] theorem next_setStatus_sleep (r : Reply (.setStatus .sleep)) :
    (monitor t).next φ (.setStatus .sleep) r = { φ with pos := .sleepDone } := rfl

@[simp] theorem next_setStatus_ok (r : Reply (.setStatus .ok)) :
    (monitor t).next φ (.setStatus .ok) r =
      { φ with pos := .wakeDone, ready := t = .stream || φ.ready } := rfl

@[simp] theorem next_signal (r : Reply .chBSemSignal) :
    (monitor t).next φ .chBSemSignal r =
      { φ with holds := false, ready := t ≠ .stream && φ.ready } := rfl

end Next

/-! ## The code follows the monitors -/

/-- At the end of a block; the stream thread has left its start-up loop. -/
def Between : Thread → Block → Phase → Prop
  | .stream, .transmit, φ => φ = {}
  | .stream, _, _ => False
  | .shell, .drain _, φ | .shell, .reply .., φ =>
    φ = { stack := [.reconfigure], holds := true, ready := true }
  | _, _, φ => φ = {}

theorem goToSleep_follows {t : Thread} {φ : Phase} (hp : φ.pos = .outside) (hs : MaySleep φ t) :
    Hc12.goToSleep.wp (monitor t) φ fun _ φ' => φ' = { φ with pos := afterSleep t } := by
  obtain ⟨pos, stack, holds, ready⟩ := φ
  apply inFn_wp (And.intro hp hs)
  apply Prog.wp_step (Or.inl rfl)
  intro status _
  cases status with
  | ok =>
    apply Prog.wp_step (And.intro rfl (And.intro hs List.mem_cons_self))
    intro _ _
    apply Prog.wp_step trivial
    intro _ _
    apply Prog.wp_step rfl
    intro _ _
    exact ⟨rfl, rfl⟩
  | nok => exact ⟨rfl, rfl⟩
  | sleep => exact ⟨rfl, rfl⟩

theorem wakeUp_follows {t : Thread} {φ : Phase} (hp : φ.pos = afterSleep t) :
    Hc12.wakeUp.wp (monitor t) φ fun _ φ' =>
      φ' = { φ with pos := .outside, ready := t = .stream || φ.ready } := by
  obtain ⟨pos, stack, holds, ready⟩ := φ
  apply inFn_wp hp
  apply Prog.wp_step (Or.inr (Or.inl rfl))
  intro status _
  cases status with
  | sleep =>
    apply Prog.wp_step rfl
    intro _ _
    apply Prog.wp_step trivial
    intro _ _
    apply Prog.wp_step rfl
    intro _ _
    exact ⟨rfl, rfl⟩
  | nok => exact ⟨rfl, rfl⟩
  | ok => exact ⟨rfl, rfl⟩

theorem pinged_follows : Hc12.pinged.wp (monitor .stream) {} (Between .stream) := by
  refine Prog.wp_bind_of _ _ _ (goToSleep_follows rfl ⟨rfl, rfl⟩) ?_
  rintro _ _ rfl
  exact Prog.wp_step trivial fun _ _ => rfl

theorem transmit_follows : Hc12.transmit.wp (monitor .stream) {} (Between .stream) := by
  apply Prog.wp_step trivial
  intro o _
  cases o with
  | none =>
    refine Prog.wp_bind_of _ _ _ (goToSleep_follows rfl ⟨rfl, rfl⟩) ?_
    rintro _ _ rfl
    rfl
  | some o =>
    apply Prog.wp_bind_of _ _ _ (wakeUp_follows rfl)
    rintro _ _ rfl
    refine Prog.wp_step ⟨rfl, rfl, fun _ => rfl⟩ fun _ _ => Prog.wp_step trivial fun v _ => ?_
    cases v.bytes with
    | none => trivial
    | some bs =>
      refine Prog.wp_step ⟨by decide, rfl⟩ fun _ _ => ?_
      cases v.pokes 0 [0x0A, 0x0D] with
      | none => trivial
      | some v' => simp [orHang, Prog.wp_call, monitor, Between]

theorem tunrOffRadio_follows : Hc12.tunrOffRadio.wp (monitor .power) {} fun b φ =>
    φ = { pos := if b then .slept else .outside, holds := b } := by
  apply inFn_wp trivial
  refine Prog.wp_step ⟨rfl, rfl, by simp⟩ fun got _ => ?_
  cases got with
  | false => exact ⟨nofun, rfl⟩
  | true =>
    refine Prog.wp_bind_of _ _ _ (goToSleep_follows rfl rfl) ?_
    rintro _ _ rfl
    exact ⟨nofun, rfl⟩

theorem tunrOnRadio_follows :
    Hc12.tunrOnRadio.wp (monitor .power) { pos := .slept, holds := true } fun _ φ => φ = {} := by
  apply inFn_wp trivial
  apply Prog.wp_bind_of _ _ _ (wakeUp_follows rfl)
  rintro _ _ rfl
  exact Prog.wp_step ⟨rfl, rfl⟩ fun _ _ => ⟨nofun, rfl⟩

theorem power_follows : Hc12.power.wp (monitor .power) {} (Between .power) := by
  apply Prog.wp_bind_of _ _ _ tunrOffRadio_follows
  rintro b _ rfl
  cases b with
  | false => rfl
  | true =>
    apply Prog.wp_bind_of _ _ _ tunrOnRadio_follows
    rintro _ _ rfl
    rfl

/-- `reconfigure` talks to the module. -/
def configuring : Phase := { stack := [.reconfigure], holds := true, ready := true }

theorem configuring_waits : Waits (monitor .shell) configuring (Between .shell) where
  hangs := trivial
  talks c hc := by
    cases c with
    | chprintf text => exact ⟨⟨by decide, rfl⟩, fun _ => rfl⟩
    | chnRead _ _ | rxBuff _ | chVTGetSystemTime | chThdSleepMilliseconds _ =>
      exact ⟨trivial, fun _ => rfl⟩
    | _ => cases hc
  drain _ := rfl
  reply _ _ _ _ := rfl
  finish result := by
    simp [Hc12.finish, Hc12.normalMode, inFn, Prog.wp_call, monitor, configuring, Between]

theorem configure_follows (cfg : Hc12Cfg) (ready : Bool) :
    (Hc12.configure cfg).wp (monitor .shell) { stack := [.reconfigure], ready := ready }
      (Between .shell) := by
  apply Prog.wp_step (Or.inr (.inr ⟨rfl, rfl, rfl⟩))
  intro status _
  cases status <;>
    simp [Hc12.progMode, inFn, Prog.wp_call, monitor, Between]

theorem prompt_follows : Hc12.prompt.wp (monitor .shell) {} (Between .shell) := by
  apply Prog.wp_step trivial
  intro cfg _
  apply Prog.wp_step trivial
  intro _ _
  apply Prog.wp_step (Or.inr (.inr ⟨rfl, rfl, rfl⟩))
  intro status _
  split
  · apply Prog.wp_bind_of _ _ _ (wakeUp_follows rfl)
    rintro _ _ rfl
    exact configure_follows cfg _
  · exact configure_follows cfg _

theorem body_follows (t : Thread) (l : Block) (φ : Phase) (h : Between t l φ) :
    (body t l).wp (monitor t) φ (Between t) := by
  cases t with
  | stream =>
    cases l with
    | transmit => rw [show φ = _ from h]; exact transmit_follows
    | _ => exact h.elim
  | power => rw [show φ = {} by cases l <;> exact h]; exact power_follows
  | shell =>
    cases l with
    | drain cfg => rw [show φ = _ from h]; exact configuring_waits.drain_follows cfg
    | reply cfg cmd timeout index =>
      rw [show φ = _ from h]
      exact configuring_waits.reply_follows cfg cmd timeout index
    | _ => rw [show φ = _ from h]; exact prompt_follows

end MeteoL053.Radio.Enable
