import MeteoL053.Calls
import MeteoL053.Lib.Run

/-!
Driver code against any clock, bus and device. The environment answers a call
from everything that has happened so far, so it stands for every sequence of
checks and transfers.
-/

namespace MeteoL053.Bus

open CallTree

/-- A call that was made, when, and its answer. -/
structure Event where
  time : Nat
  call : Call
  reply : Reply call

/-- Milliseconds that pass before the next call, and its answer, after the
events so far with the latest first. -/
structure Env where
  delay : List Event → Nat
  reply : List Event → (c : Call) → Reply c

structure World where
  now : Nat
  trace : List Event

/-- The time of the next call. -/
def World.time (env : Env) (w : World) : Nat := w.now + env.delay w.trace

/-- The system time is the low 16 bits of the clock. -/
def World.reply (env : Env) (w : World) : (c : Call) → Reply c
  | .chVTGetSystemTime => UInt16.ofNat (w.time env)
  | c => env.reply w.trace c

def duration : Call → Nat
  | .chThdSleepMilliseconds ms => ms
  | _ => 0

/-- The world after the call `c`. -/
def World.after (env : Env) (w : World) (c : Call) : World where
  now := w.time env + duration c
  trace := ⟨w.time env, c, w.reply env c⟩ :: w.trace

/-- The event of the call `c` made in `w`. -/
def World.event (env : Env) (w : World) (c : Call) : Event := ⟨w.time env, c, w.reply env c⟩

theorem World.after_trace (env : Env) (w : World) (c : Call) :
    (w.after env c).trace = w.event env c :: w.trace := rfl

/-- What `f` makes of the calls so far, the latest first. -/
def World.seen {β : Type} (f : Call → Option β) (w : World) : List β :=
  w.trace.filterMap fun e => f e.call

def answer (env : Env) : Handler Call Reply World := fun w c => (w.reply env c, w.after env c)

end MeteoL053.Bus
