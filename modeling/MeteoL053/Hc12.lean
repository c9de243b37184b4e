import MeteoL053.Calls

/-!
The radio code of `threads/hc12Thread.c`: the stream thread and the functions
the power thread and the shell call.

Loops of the source are blocks that return the label of the block to run next.
`replyTurn` is the wait for the answer to one of the four AT commands of
`HC12__reconfigure`. It stores a reply that is longer than `rxBuff` behind it:
`replyOn` goes on as the source does, for `Radio/AtMode.lean`, and `reply`, which
the other systems run, stops there.
-/

namespace MeteoL053

open CallTree

/-- Where a thread continues. -/
inductive Block where
  | start
  | ping
  | transmit
  | produce
  | power
  | prompt
  | busOps
  | drain (cfg : Hc12Cfg)
  | reply (cfg : Hc12Cfg) (cmd : Fin 4) (timeout : UInt16) (index : UInt8)

namespace Hc12

/-- `HC12__thread_normalMode`. -/
def normalMode : Fw Bool := inFn .normalMode do
  ask (.palSetLine .hc12Set)
  ask (.chThdSleepMilliseconds 50)
  return true

/-- `HC12__thread_progMode`. -/
def progMode : Fw Bool := inFn .progMode do
  ask (.palClearLine .hc12Set)
  ask (.chThdSleepMilliseconds 50)
  return true

/-- `HC12__thread_goToSleep`. -/
def goToSleep : Fw Bool := inFn .goToSleep do
  if (← ask .status) ≠ Hc12Status.ok then
    return false
  ask (.palClearLine .hc12Enable)
  ask (.chThdSleepMilliseconds 10)
  ask (.setStatus .sleep)
  return true

/-- `HC12__thread_wakeUp`. -/
def wakeUp : Fw Bool := inFn .wakeUp do
  if (← ask .status) ≠ Hc12Status.sleep then
    return false
  ask (.palSetLine .hc12Enable)
  ask (.chThdSleepMilliseconds 500)
  ask (.setStatus .ok)
  return true

/-- `HC12__thread_checkStatus`; the result says whether the semaphore was
obtained. -/
def checkStatus : Fw Bool := inFn .checkStatus do
  ask (.setStatus .nok)
  if !(← ask (.chBSemWaitTimeout 500)) then
    return false
  let _ ← progMode
  ask (.chprintf "AT")
  let _ ← ask (.chnRead 0 8)
  let b0 ← ask (.rxBuff 0)
  let b1 ← ask (.rxBuff 1)
  let b2 ← ask (.rxBuff 2)
  if (b0 = 0x4F ∨ b1 = 0x4F) ∧ (b1 = 0x4B ∨ b2 = 0x4B) then
    ask (.setStatus .ok)
  let _ ← normalMode
  ask .chBSemSignal
  return true

/-- `HC12__tunrOffRadio`. -/
def tunrOffRadio : Fw Bool := inFn .tunrOffRadio do
  if !(← ask (.chBSemWaitTimeout 1000)) then
    return false
  let _ ← goToSleep
  return true

/-- `HC12__tunrOnRadio`. -/
def tunrOnRadio : Fw Bool := inFn .tunrOnRadio do
  let _ ← wakeUp
  ask .chBSemSignal
  return true

/-! ## The stream thread -/

/-- After a successful ping. -/
def pinged : Fw Block := do
  let _ ← goToSleep
  ask (.setHwStatus .ok)
  return .transmit

/-- The stream thread up to its start-up loop. -/
def start : Fw Block := do
  ask (.setHwStatus .unknown)
  let _ ← normalMode
  return .ping

/-- The start-up loop. -/
def ping : Fw Block := do
  let _ ← checkStatus
  if (← ask .status) = Hc12Status.ok then
    pinged
  else
    ask (.setHwStatus .error)
    ask (.chThdSleepMilliseconds 1000)
    return .ping

/-- One turn of the transmit loop. -/
def transmit : Fw Block := do
  match ← ask .chMBFetch with
  | some pbuf =>
    let _ ← wakeUp
    ask .chBSemWait
    let obj ← ask (.load pbuf)
    let message ← orHang obj.bytes
    ask (.chnWrite message)
    let obj ← orHang (obj.pokes 0 [0x0A, 0x0D])
    ask (.store pbuf obj)
    ask (.chnWrite (obj.message.take 2))
    ask (.chThdSleepMilliseconds 50)
    ask (.chPoolFree pbuf)
    ask .chBSemSignal
    return .transmit
  | none =>
    let _ ← goToSleep
    return .transmit

/-! ## The power thread's use of the radio -/

/-- The part of the power thread's loop that turns the radio off and on; the
rest of the loop uses neither the radio nor its semaphore. -/
def power : Fw Block := do
  if !(← tunrOffRadio) then
    return .power
  let _ ← tunrOnRadio
  return .power

/-! ## Reconfiguration by the shell -/

/-- The AT command texts of `hc12Thread.h`. -/
def atCommand (cfg : Hc12Cfg) : Fin 4 → String
  | 0 => "AT+C00" ++ toString cfg.channel
  | 1 => "AT+B" ++ toString cfg.baud
  | 2 => "AT+FU" ++ toString cfg.modeFU
  | 3 => "AT+P" ++ toString cfg.power

/-- Send AT command `cmd` and start the wait for its reply. -/
def sendAt (cfg : Hc12Cfg) (cmd : Fin 4) : Fw Block := do
  ask (.chprintf (atCommand cfg cmd))
  let timeout ← ask .chVTGetSystemTime
  return .reply cfg cmd timeout 0

/-- The common end of the returns of `HC12__reconfigure` that hold the
semaphore. -/
def finish (result : Bool) : Fw Block := do
  let _ ← normalMode
  ask .chBSemSignal
  ask (.leave .reconfigure result)
  return .prompt

/-- `HC12__reconfigure` between its `wakeUp` and the first read of the channel. -/
def configure (cfg : Hc12Cfg) : Fw Block := do
  if (← ask .status) ≠ Hc12Status.ok then
    ask (.leave .reconfigure false)
    return .prompt
  if !(← ask (.chBSemWaitTimeout 1000)) then
    ask (.leave .reconfigure false)
    return .prompt
  let _ ← progMode
  return .drain cfg

/-- `HC12__reconfigure` up to the first read of the channel. -/
def reconfigure (cfg : Hc12Cfg) : Fw Block := do
  ask (.enter .reconfigure)
  if (← ask .status) = Hc12Status.sleep then
    let _ ← wakeUp
  configure cfg

/-- Read what is left in the channel, then send the first command. -/
def drain (cfg : Hc12Cfg) : Fw Block := do
  if (← ask (.chnRead 0 1)) ≠ ([] : List UInt8) then
    return .drain cfg
  sendAt cfg 0

/-- After a reply: the next command, or the end. -/
def replied (cfg : Hc12Cfg) (cmd : Fin 4) : Fw Block := do
  ask (.chThdSleepMilliseconds 10)
  match cmd with
  | 0 => sendAt cfg 1
  | 1 => sendAt cfg 2
  | 2 => sendAt cfg 3
  | 3 => finish true

/-- The test for the end of a reply, with its last byte at `index`. -/
def compareReply (cfg : Hc12Cfg) (cmd : Fin 4) (timeout : UInt16) (index : UInt8) : Fw Block := do
  if index.toNat > 1 then
    let prev ← ask (.rxBuff (index.toNat - 1))
    let last ← ask (.rxBuff index.toNat)
    if prev = 0x0D ∧ last = 0x0A then
      replied cfg cmd
    else
      return .reply cfg cmd timeout (index + 1)
  else
    return .reply cfg cmd timeout (index + 1)

/-- One turn of a reply-wait loop. The elapsed time is a difference of two
`uint16_t` values after promotion to `int`. A byte that was stored behind `rxBuff`
is followed by `behind`. -/
def replyTurn (behind : Fw Unit) (cfg : Hc12Cfg) (cmd : Fin 4) (timeout : UInt16)
    (index : UInt8) : Fw Block := do
  let now ← ask .chVTGetSystemTime
  if (now.toNat : Int) - timeout.toNat > 1000 then
    finish false
  else if (← ask (.chnRead index.toNat 1)) = ([] : List UInt8) then
    return .reply cfg cmd timeout index
  else
    if index.toNat ≥ streamBufferSize then
      behind
    compareReply cfg cmd timeout index

/-- The turn as the source has it. -/
def replyOn : Hc12Cfg → Fin 4 → UInt16 → UInt8 → Fw Block := replyTurn (return ())

/-- The turn up to a store behind `rxBuff`; nothing is said of what follows it. -/
def reply : Hc12Cfg → Fin 4 → UInt16 → UInt8 → Fw Block := replyTurn .hang

/-- The shell waits for a user to ask for a reconfiguration. -/
def prompt : Fw Block := do
  let cfg ← ask .nextCfg
  reconfigure cfg

/-! ## The calls of the stream and the power thread -/

/-- The calls that set the lines and the status of the radio. -/
def ModeCall : Call → Prop
  | .enter _ | .leave .. | .palSetLine _ | .palClearLine _ | .chThdSleepMilliseconds _ => True
  | .status | .setStatus _ => True
  | _ => False

/-- Those, and the calls for its semaphore, its channel and the messages to send. -/
def RadioCall : Call → Prop
  | .chBSemWait | .chBSemWaitTimeout _ | .chBSemSignal => True
  | .chprintf _ | .chnRead .. | .chnWrite _ | .rxBuff _ => True
  | .chMBFetch | .load _ | .store .. | .chPoolFree _ | .setHwStatus _ => True
  | c => ModeCall c

theorem ModeCall.radio {c : Call} (h : ModeCall c) : RadioCall c := by
  cases c <;> first | exact h.elim | trivial

theorem inFn_all {P : Call → Prop} {f : Fn} {p : Fw Bool} (henter : P (.enter f))
    (hleave : ∀ result, P (.leave f result)) (hp : p.All P) : (inFn f p).All P :=
  Prog.all_step henter fun _ => Prog.all_bind hp fun result => ⟨hleave result, fun _ => trivial⟩

theorem normalMode_all : normalMode.All ModeCall :=
  inFn_all trivial (fun _ => trivial) (Prog.all_step trivial fun _ => ⟨trivial, fun _ => trivial⟩)

theorem progMode_all : progMode.All ModeCall :=
  inFn_all trivial (fun _ => trivial) (Prog.all_step trivial fun _ => ⟨trivial, fun _ => trivial⟩)

theorem goToSleep_all : goToSleep.All ModeCall := by
  refine inFn_all trivial (fun _ => trivial) (Prog.all_step trivial fun status => ?_)
  split
  · trivial
  · iterate 2 refine Prog.all_step trivial fun _ => ?_
    exact ⟨trivial, fun _ => trivial⟩

theorem wakeUp_all : wakeUp.All ModeCall := by
  refine inFn_all trivial (fun _ => trivial) (Prog.all_step trivial fun status => ?_)
  split
  · trivial
  · iterate 2 refine Prog.all_step trivial fun _ => ?_
    exact ⟨trivial, fun _ => trivial⟩

/-- A change of the mode as part of the code of the radio. -/
theorem radio_bind {α β : Type} {p : Fw α} {f : α → Fw β} (hp : p.All ModeCall)
    (hf : ∀ a, (f a).All RadioCall) : (p >>= f).All RadioCall :=
  Prog.all_bind (hp.mono fun _ => ModeCall.radio) hf

theorem checkStatus_all : checkStatus.All RadioCall := by
  have hend : (do let _ ← normalMode; ask .chBSemSignal; return true : Fw Bool).All RadioCall :=
    radio_bind normalMode_all fun _ => ⟨trivial, fun _ => trivial⟩
  refine inFn_all trivial (fun _ => trivial) (Prog.all_step trivial fun _ => ?_)
  refine Prog.all_step trivial fun ok => ?_
  cases ok with
  | false => trivial
  | true =>
    refine radio_bind progMode_all fun _ => ?_
    iterate 5 refine Prog.all_step trivial fun _ => ?_
    split
    · exact Prog.all_step trivial fun _ => hend
    · exact hend

theorem tunrOffRadio_all : tunrOffRadio.All RadioCall := by
  refine inFn_all trivial (fun _ => trivial) (Prog.all_step trivial fun ok => ?_)
  cases ok with
  | false => trivial
  | true => exact radio_bind goToSleep_all fun _ => trivial

theorem tunrOnRadio_all : tunrOnRadio.All RadioCall :=
  inFn_all trivial (fun _ => trivial)
    (radio_bind wakeUp_all fun _ => ⟨trivial, fun _ => trivial⟩)

theorem ping_all : ping.All RadioCall := by
  refine Prog.all_bind checkStatus_all fun _ => Prog.all_step trivial fun status => ?_
  split
  · exact radio_bind goToSleep_all fun _ => ⟨trivial, fun _ => trivial⟩
  · exact Prog.all_step trivial fun _ => ⟨trivial, fun _ => trivial⟩

theorem transmit_all : transmit.All RadioCall := by
  refine Prog.all_step trivial fun mail => ?_
  cases mail with
  | none => exact radio_bind goToSleep_all fun _ => trivial
  | some pbuf =>
    refine radio_bind wakeUp_all fun _ => ?_
    refine Prog.all_step trivial fun _ => Prog.all_step trivial fun obj => ?_
    cases obj.bytes with
    | none => trivial
    | some message =>
      refine Prog.all_step trivial fun _ => ?_
      cases obj.pokes 0 [0x0A, 0x0D] with
      | none => trivial
      | some obj =>
        iterate 4 refine Prog.all_step trivial fun _ => ?_
        exact ⟨trivial, fun _ => trivial⟩

end Hc12

end MeteoL053
