import MeteoL053.Lib.Threads
import MeteoL053.Lib.Tokens
import MeteoL053.Hc12
import MeteoL053.Stream.Receiver

/-!
The stream buffers at work: any number of producers (sensor threads and the
shell command `send`) and the HC12 stream thread over `streamMemPool`,
`streamMail` and the radio channel.

`held`, `item` and `posted` are history variables. They record which buffer a
thread has taken and not passed on, what a producer is about to send, and what
has been posted so far.
-/

namespace MeteoL053.Stream

open CallTree Tokens

/-! ## Producers -/

/-- `alloc / MSP__createMspFrame / post`, as every sensor thread ends a reading. -/
def sendReading (cmd : UInt8) (args : List UInt32) : Fw Unit := do
  match ← ask .chPoolAlloc with
  | some messagePoolObject =>
    let obj ← ask (.load messagePoolObject)
    let obj ← orHang (Msp.createMspFrame obj cmd args)
    ask (.store messagePoolObject obj)
    let _ ← ask (.chMBPost messagePoolObject)
  | none => return ()

/-- The calls of a producer with something to send. -/
def StreamCall : Call → Prop
  | .chPoolAlloc | .load _ | .store .. | .chMBPost _ => True
  | _ => False

theorem sendReading_all (cmd : UInt8) (args : List UInt32) :
    (sendReading cmd args).All StreamCall := by
  apply Prog.all_step trivial
  intro r
  cases r with
  | none => trivial
  | some o =>
    apply Prog.all_step trivial
    intro obj
    cases Msp.createMspFrame obj cmd args with
    | none => trivial
    | some v => exact ⟨trivial, fun _ => ⟨trivial, fun _ => trivial⟩⟩

/-- `strcpy(message, text); size = strlen(message)`. -/
def copyText (obj : PoolStreamObject) (text : List UInt8) : Option PoolStreamObject := do
  let obj ← obj.pokes 0 (text ++ [0])
  return obj.setSize (UInt8.ofNat obj.strlen)

/-- `cmd_send` with one argument: whether it got a buffer. -/
def cmdSend (text : List UInt8) : Fw Bool := do
  match ← ask .chPoolAlloc with
  | some messagePoolObject =>
    let obj ← ask (.load messagePoolObject)
    let obj ← orHang (copyText obj text)
    ask (.store messagePoolObject obj)
    let _ ← ask (.chMBPost messagePoolObject)
    return true
  | none => return false

theorem cmdSend_all (text : List UInt8) : (cmdSend text).All StreamCall := by
  apply Prog.all_step trivial
  intro r
  cases r with
  | none => trivial
  | some o =>
    apply Prog.all_step trivial
    intro obj
    cases copyText obj text with
    | none => trivial
    | some v => exact ⟨trivial, fun _ => ⟨trivial, fun _ => trivial⟩⟩

/-- A producer takes the next thing to send and sends it. -/
def produce : Fw Block := do
  match ← ask .nextItem with
  | .reading r => sendReading r.cmd r.args
  | .text t => let _ ← cmdSend t.chars
  return .produce

/-! ## The system -/

/-- Producers named by `ι`, and the stream thread. -/
inductive Thread (ι : Type) where
  | producer (i : ι)
  | hc12
  deriving DecidableEq

structure State (ι : Type) where
  free : List Obj
  mail : List Obj
  mem : Obj → PoolStreamObject
  channel : List UInt8
  held : Thread ι → Option Obj
  item : Thread ι → Option Item
  posted : List Item

variable {ι : Type}

/-- Who has which buffer. -/
def State.places (s : State ι) : Places Obj (Thread ι) := ⟨s.free, s.mail, s.held⟩

/-- The pool hands out its first free object, the mailbox is a FIFO of
`STREAM_TX_POOL_SIZE` slots, and an item comes from `items`; the other calls
may be answered in any way. -/
def possible (items : Item → Prop) (_t : Thread ι) (s : State ι) :
    (c : Call) → Reply c → Prop
  | .chPoolAlloc, r => r = s.free.head?
  | .chMBPost _, r => r = decide (s.mail.length < streamTxPoolSize)
  | .chMBFetch, r => r = s.mail.head?
  | .load o, r => r = s.mem o
  | .nextItem, r => items r
  | _, _ => True

instance (items : Item → Prop) [DecidablePred items] (t : Thread ι) (s : State ι) (c : Call)
    (r : Reply c) : Decidable (possible items t s c r) := by
  revert r
  apply Call.casesOn (motive := fun c => ∀ r : Reply c, Decidable (possible items t s c r)) c <;> intros <;>
    first
    | exact isTrue trivial
    | exact inferInstanceAs (Decidable (_ = _))
    | exact inferInstanceAs (Decidable (items _))

variable [DecidableEq ι]

def effect (t : Thread ι) (s : State ι) : (c : Call) → Reply c → State ι
  | .chPoolAlloc, r => { s with free := s.free.tail, held := Function.update s.held t r }
  | .chPoolFree o, _ => { s with free := o :: s.free, held := Function.update s.held t none }
  | .chMBPost o, r =>
    if r then
      { s with
        mail := s.mail ++ [o]
        held := Function.update s.held t none
        posted := s.posted ++ (s.item t).toList }
    else { s with held := Function.update s.held t none }
  | .chMBFetch, r => { s with mail := s.mail.tail, held := Function.update s.held t r }
  | .store o v, _ => { s with mem := Function.update s.mem o v }
  | .nextItem, r => { s with item := Function.update s.item t (some r) }
  | .chnWrite bs, _ => { s with channel := s.channel ++ bs }
  | _, _ => s

def body : Thread ι → Block → Fw Block
  | .producer _, _ => produce
  | .hc12, .start => Hc12.start
  | .hc12, .ping => Hc12.ping
  | .hc12, _ => Hc12.transmit

/-- The stream system; producers send items from `items`. -/
def system (ι : Type) [DecidableEq ι] (items : Item → Prop) :
    System (Thread ι) Call Reply Block (State ι) where
  body := body
  possible := possible items
  effect := effect

instance (items : Item → Prop) [DecidablePred items] (t : Thread ι) (s : State ι) (c : Call)
    (r : Reply c) : Decidable ((system ι items).possible t s c r) :=
  inferInstanceAs (Decidable (possible items t s c r))

/-- After `shared_pools_init`: `chPoolLoadArray` adds the objects one by one in
front of the free list. Buffers hold whatever `mem` says. -/
def initial (mem : Obj → PoolStreamObject) :
    Pool (Thread ι) Call Reply Block (State ι) where
  shared :=
    { free := (List.finRange streamTxPoolSize).reverse, mail := [], mem := mem, channel := [],
      held := fun _ => none, item := fun _ => none, posted := [] }
  prog
    | .producer _ => .ret .produce
    | .hc12 => .ret .start

end MeteoL053.Stream
