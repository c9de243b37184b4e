import Mathlib.Data.Fintype.Defs
import Mathlib.Data.Finset.Insert
import MeteoL053.Lib.Threads
import MeteoL053.Lib.Lock
import MeteoL053.Hc12

/-!
The radio at work: the stream thread, the power thread and the shell over
`uart_bsem`, the set line, the enable line and `hc12State.status`.

The mailbox, the buffers and the bytes on the channel do not matter here and
are answered in any way, except for reply bytes behind `rxBuff`, where `system`
stops the shell and `systemOn` stores them. `holds`, `stack`, `atMode`, `cleared`, `raised`,
`passed` and `started` are history variables.
-/

namespace MeteoL053.Radio

open CallTree

inductive Thread where
  | stream
  | power
  | shell
  deriving DecidableEq, Repr

instance : Fintype Thread := ⟨{.stream, .power, .shell}, fun t => by cases t <;> decide⟩

structure State where
  /-- `uart_bsem` is taken -/
  uartBsem : Bool
  lineSet : Bool
  enableLine : Bool
  status : Hc12Status
  /-- the thread has taken `uart_bsem` and not signalled it since -/
  holds : Thread → Bool
  /-- the functions the thread is inside, innermost first -/
  stack : Thread → List Fn
  /-- the thread is between a call of `progMode` and the return of `normalMode` -/
  atMode : Thread → Bool
  /-- in `goToSleep`, between clearing the enable line and setting the status -/
  cleared : Thread → Bool
  /-- in `wakeUp`, between setting the enable line and setting the status -/
  raised : Thread → Bool
  /-- in `reconfigure`, after it found the status OK -/
  passed : Thread → Bool
  /-- the first `normalMode` of the stream thread has returned -/
  started : Bool

/-- A wait for the semaphore ends when it is free or, with a timeout, at any time. -/
def possible (_t : Thread) (s : State) : (c : Call) → Reply c → Prop
  | .chBSemWait, _ => s.uartBsem = false
  | .chBSemWaitTimeout _, r => r = true → s.uartBsem = false
  | .status, r => r = s.status
  | _, _ => True

instance (t : Thread) (s : State) (c : Call) (r : Reply c) : Decidable (possible t s c r) := by
  revert r
  apply Call.casesOn (motive := fun c => ∀ r : Reply c, Decidable (possible t s c r)) c <;> intros <;>
    first
    | exact isTrue trivial
    | exact inferInstanceAs (Decidable (_ = _))
    | exact inferInstanceAs (Decidable (_ = _ → _ = _))

def State.take (s : State) (t : Thread) : State :=
  { s with uartBsem := true, holds := Function.update s.holds t true }

def effect (t : Thread) (s : State) : (c : Call) → Reply c → State
  | .chBSemWait, _ => s.take t
  | .chBSemWaitTimeout _, r => if r then s.take t else s
  | .chBSemSignal, _ =>
    { s with uartBsem := false, holds := Function.update s.holds t false }
  | .palSetLine .hc12Set, _ => { s with lineSet := true }
  | .palClearLine .hc12Set, _ => { s with lineSet := false }
  | .palSetLine .hc12Enable, _ =>
    { s with enableLine := true, raised := Function.update s.raised t true }
  | .palClearLine .hc12Enable, _ =>
    { s with enableLine := false, cleared := Function.update s.cleared t true }
  | .status, r =>
    if s.stack t = [.reconfigure] ∧ r = Hc12Status.ok then
      { s with passed := Function.update s.passed t true }
    else s
  | .setStatus v, _ =>
    { s with
      status := v
      cleared := Function.update s.cleared t false
      raised := Function.update s.raised t false }
  | .enter f, _ =>
    { s with
      stack := Function.update s.stack t (f :: s.stack t)
      atMode := if f = .progMode then Function.update s.atMode t true else s.atMode }
  | .leave f _, _ =>
    { s with
      stack := Function.update s.stack t (s.stack t).tail
      atMode := if f = .normalMode then Function.update s.atMode t false else s.atMode
      passed := if f = .reconfigure then Function.update s.passed t false else s.passed
      started := s.started || (f = .normalMode && t = .stream) }
  | _, _ => s

def body : Thread → Block → Fw Block
  | .stream, .start => Hc12.start
  | .stream, .ping => Hc12.ping
  | .stream, _ => Hc12.transmit
  | .power, _ => Hc12.power
  | .shell, .drain cfg => Hc12.drain cfg
  | .shell, .reply cfg cmd timeout index => Hc12.reply cfg cmd timeout index
  | .shell, _ => Hc12.prompt

/-- The radio system. -/
def system : System Thread Call Reply Block State where
  body := body
  possible := possible
  effect := effect

instance (t : Thread) (s : State) (c : Call) (r : Reply c) :
    Decidable (system.possible t s c r) :=
  inferInstanceAs (Decidable (possible t s c r))

/-- No thread has called anything yet. -/
def quiet (lineSet enableLine : Bool) (status : Hc12Status) : State where
  uartBsem := false
  lineSet := lineSet
  enableLine := enableLine
  status := status
  holds _ := false
  stack _ := []
  atMode _ := false
  cleared _ := false
  raised _ := false
  passed _ := false
  started := false

/-- The threads are created; the lines are as the board left them. -/
def boot (lineSet enableLine : Bool) : Pool Thread Call Reply Block State where
  shared := quiet lineSet enableLine .nok
  prog
    | .stream => .ret .start
    | .power => .ret .power
    | .shell => .ret .prompt

/-- The ping loop of the stream thread has just succeeded: the module answered,
so it is on and out of its command mode. -/
def pinged : Pool Thread Call Reply Block State where
  shared := { quiet true true .ok with started := true }
  prog
    | .stream => Hc12.pinged
    | .power => .ret .power
    | .shell => .ret .prompt

/-! ## Replies longer than `rxBuff`

The reply loops store every byte they read at the next index. In `hc12State_t` the
64 bytes of `rxBuff` are followed by those of `txBuff`, which nothing uses, by
`status` at 128, the pointers `hc12Cfg` and `threadCfg` from 132 on and `uart_bsem`
from 140 on: the two pointers of its queue, and its count from 148 on. -/

/-- The bytes of the four pointers. -/
abbrev Pointers := { bytes : List UInt8 // bytes.length = 16 }

/-- The bytes of a count of 1, the count of a free semaphore. -/
def freeCount : List UInt8 := [1, 0, 0, 0]

/-- The byte a call stores behind `rxBuff`, and its index. -/
def strayByte : (c : Call) → Reply c → Option (Nat × UInt8)
  | .chnRead index _, b :: _ => if index ≥ streamBufferSize then some (index, b) else none
  | _, _ => none

/-- The stores that are followed: any up to the pointers, then the pointers that are
there already and a count of 1. -/
def followed (pointers : Pointers) (index : Nat) (b : UInt8) : Bool :=
  index < 132 || (pointers.1 ++ freeCount)[index - 132]? = some b

/-- `hc12State.status` with the byte `b` in it. -/
def statusOf (b : UInt8) : Hc12Status := if b = 1 then .sleep else if b = 2 then .ok else .nok

/-- A byte stored behind `rxBuff`. The last byte of the count makes it 1, whatever it
was before. -/
def State.storeBehind (s : State) (index : Nat) (b : UInt8) : State :=
  if index = 128 then { s with status := statusOf b }
  else if index = 151 then { s with uartBsem := false }
  else s

/-- The blocks, with the reply loops as the source has them. -/
def bodyOn : Thread → Block → Fw Block
  | .shell, .reply cfg cmd timeout index => Hc12.replyOn cfg cmd timeout index
  | t, l => body t l

/-- The radio system with the stores behind `rxBuff`. -/
def systemOn (pointers : Pointers) : System Thread Call Reply Block State where
  body := bodyOn
  possible t s c r :=
    possible t s c r ∧ (strayByte c r).all (fun x => followed pointers x.1 x.2) = true
  effect t s c r :=
    match strayByte c r with
    | some (index, b) => (effect t s c r).storeBehind index b
    | none => effect t s c r

instance (pointers : Pointers) (t : Thread) (s : State) (c : Call) (r : Reply c) :
    Decidable ((systemOn pointers).possible t s c r) :=
  inferInstanceAs (Decidable (possible t s c r ∧ _ = true))

/-- No reply byte is stored behind `rxBuff`. -/
def InRxBuff (_t : Thread) (_s : State) (c : Call) (r : Reply c) : Prop := strayByte c r = none

instance (pointers : Pointers) (t : Thread) (s : State) (c : Call) (r : Reply c) :
    Decidable (((systemOn pointers).restrict InRxBuff).possible t s c r) :=
  inferInstanceAs (Decidable ((systemOn pointers).possible t s c r ∧ strayByte c r = none))

/-! ## The reply loops of `reconfigure` -/

/-- The calls of the loops that wait for the module. -/
def talking : Call → Bool
  | .chnRead .. | .rxBuff _ | .chVTGetSystemTime | .chThdSleepMilliseconds _ | .chprintf _ => true
  | _ => false

/-- A phase in which a monitor follows the loops: it does not mind their calls,
and `finish` ends them well. -/
structure Waits {Φ : Type} (M : Monitor Call Reply Φ) (φ : Φ) (Q : Block → Φ → Prop) : Prop where
  hangs : M.hangs φ
  talks : ∀ c, talking c = true → M.allows φ c ∧ ∀ r, M.next φ c r = φ
  drain : ∀ cfg, Q (.drain cfg) φ
  reply : ∀ cfg cmd timeout index, Q (.reply cfg cmd timeout index) φ
  finish : ∀ result, (Hc12.finish result).wp M φ Q

section Waits

variable {Φ : Type} {M : Monitor Call Reply Φ} {φ : Φ} {Q : Block → Φ → Prop}

theorem Waits.step (h : Waits M φ Q) {c : Call} {f : Reply c → Fw Block} (hc : talking c = true)
    (hf : ∀ r, (f r).wp M φ Q) : (ask c >>= f).wp M φ Q := by
  obtain ⟨ha, hn⟩ := h.talks c hc
  apply Prog.wp_step ha
  intro r _
  rw [hn]
  exact hf r

theorem Waits.sendAt (h : Waits M φ Q) (cfg : Hc12Cfg) (cmd : Fin 4) :
    (Hc12.sendAt cfg cmd).wp M φ Q :=
  h.step rfl fun _ => h.step rfl fun timeout => h.reply cfg cmd timeout 0

theorem Waits.drain_follows (h : Waits M φ Q) (cfg : Hc12Cfg) :
    (Hc12.drain cfg).wp M φ Q := by
  apply h.step rfl
  intro bs
  rw [Prog.wp_ite]
  split
  · exact h.drain cfg
  · exact h.sendAt cfg 0

theorem Waits.replied (h : Waits M φ Q) (cfg : Hc12Cfg) (cmd : Fin 4) :
    (Hc12.replied cfg cmd).wp M φ Q := by
  apply h.step rfl
  intro _
  match cmd with
  | 0 => exact h.sendAt cfg 1
  | 1 => exact h.sendAt cfg 2
  | 2 => exact h.sendAt cfg 3
  | 3 => exact h.finish true

theorem Waits.compareReply (h : Waits M φ Q) (cfg : Hc12Cfg) (cmd : Fin 4) (timeout : UInt16)
    (index : UInt8) : (Hc12.compareReply cfg cmd timeout index).wp M φ Q := by
  unfold Hc12.compareReply
  rw [Prog.wp_ite]
  split
  · refine h.step rfl fun prev => h.step rfl fun last => ?_
    rw [Prog.wp_ite]
    split
    · exact h.replied cfg cmd
    · exact h.reply cfg cmd timeout (index + 1)
  · exact h.reply cfg cmd timeout (index + 1)

theorem Waits.replyTurn (h : Waits M φ Q) (behind : Fw Unit)
    (hbehind : behind.wp M φ fun _ φ' => φ' = φ) (cfg : Hc12Cfg) (cmd : Fin 4) (timeout : UInt16)
    (index : UInt8) : (Hc12.replyTurn behind cfg cmd timeout index).wp M φ Q := by
  refine h.step rfl fun now => ?_
  rw [Prog.wp_ite]
  split
  · exact h.finish false
  · refine h.step rfl fun got => ?_
    simp only [Prog.wp_ite]
    split
    · exact h.reply cfg cmd timeout index
    · split
      · apply Prog.wp_bind_of _ _ _ hbehind
        rintro _ _ rfl
        exact h.compareReply cfg cmd timeout index
      · exact h.compareReply cfg cmd timeout index

theorem Waits.reply_follows (h : Waits M φ Q) (cfg : Hc12Cfg) (cmd : Fin 4) (timeout : UInt16)
    (index : UInt8) : (Hc12.reply cfg cmd timeout index).wp M φ Q :=
  h.replyTurn .hang h.hangs cfg cmd timeout index

theorem Waits.replyOn_follows (h : Waits M φ Q) (cfg : Hc12Cfg) (cmd : Fin 4) (timeout : UInt16)
    (index : UInt8) : (Hc12.replyOn cfg cmd timeout index).wp M φ Q :=
  h.replyTurn (return ()) rfl cfg cmd timeout index

end Waits

end MeteoL053.Radio
