import MeteoL053.Lib.Run
import MeteoL053.Radio.System

/-!
The reply-wait loops of `HC12__reconfigure` against the clock and the channel:
what one turn of a loop does and where a loop is after some turns.

The clock is the true time in milliseconds of which the firmware sees the low
16 bits.
-/

namespace MeteoL053.Radio

open CallTree

/-! ## The environment -/

/-- What the code meets: the ticks of the clock before its `n`-th reading,
what the `n`-th read of the channel finds, and the answers to all other calls. -/
structure Env where
  tick : Nat → Nat
  byte : Nat → Option UInt8
  reply : Nat → (c : Call) → Reply c

structure World where
  /-- milliseconds since the start of the station -/
  now : Nat
  /-- readings of the clock, reads of the channel and other calls so far -/
  readings : Nat
  reads : Nat
  calls : Nat
  /-- the memory from `hc12State.rxBuff` on -/
  rxBuff : Nat → UInt8
  /-- the indices of `rxBuff` used so far -/
  touched : List Nat
  /-- the shell has `uart_bsem` -/
  held : Bool

/-- The world with the clock read. -/
def World.read (env : Env) (w : World) : World :=
  { w with now := w.now + env.tick w.readings, readings := w.readings + 1 }

/-- The world with a byte of the channel stored at `i`. -/
def World.store (w : World) (i : Nat) (b : UInt8) : World :=
  { w with
    reads := w.reads + 1
    rxBuff := Function.update w.rxBuff i b
    touched := i :: w.touched }

def answer (env : Env) : Handler Call Reply World := fun w c =>
  match c with
  | .chVTGetSystemTime => (UInt16.ofNat (w.read env).now, w.read env)
  | .chnRead i _ =>
    match env.byte w.reads with
    | some b => ([b], w.store i b)
    | none => ([], { w with reads := w.reads + 1 })
  | .rxBuff i => (w.rxBuff i, { w with touched := i :: w.touched })
  | .chThdSleepMilliseconds ms => ((), { w with now := w.now + ms })
  | .chBSemWaitTimeout ticks =>
    let r := env.reply w.calls (.chBSemWaitTimeout ticks)
    (r, { w with held := r, calls := w.calls + 1 })
  | .chBSemSignal => ((), { w with held := false })
  | c => (env.reply w.calls c, { w with calls := w.calls + 1 })

/-- The labels inside the reply-wait loop of command `cmd`. -/
def inLoop (cmd : Fin 4) : Block → Bool
  | .reply _ cmd' _ _ => cmd' = cmd
  | _ => false

/-- The labels inside `HC12__reconfigure`. -/
def inReconfigure : Block → Bool
  | .prompt => false
  | _ => true

/-- Ticks in `k` readings of the clock from the `r`-th on. -/
def Env.ticks (env : Env) (r : Nat) : Nat → Nat
  | 0 => 0
  | k + 1 => env.ticks r k + env.tick (r + k)

/-- The bytes found by `k` reads of the channel from the `q`-th on. -/
def Env.received (env : Env) (q : Nat) : Nat → List UInt8
  | 0 => []
  | k + 1 => env.received q k ++ (env.byte (q + k)).toList

/-- The reply ends with CR LF inside the buffer, the LF being at least the third
byte. -/
def Answered (bytes : List UInt8) : Prop :=
  ∃ m, 1 < m ∧ m < streamBufferSize ∧ bytes[m - 1]? = some 0x0D ∧ bytes[m]? = some 0x0A

/-! ## One turn of a loop -/

section Turn

variable (env : Env) (cfg : Hc12Cfg) (cmd : Fin 4) (T : UInt16) (i : UInt8) (w : World)

/-- The test of the source: the elapsed time as the loop sees it. -/
def TimedOut : Prop := ((UInt16.ofNat (w.read env).now).toNat : Int) - T.toNat > 1000

/-- A loop is left by returning with the semaphore released or for the loop of
a later command; nothing more of `rxBuff` is used. -/
def Left (w : World) (l : Block) (w' : World) : Prop :=
  (l = .prompt ∧ w'.held = false ∨
    ∃ next : Fin 4, cmd < next ∧ l = .reply cfg next (UInt16.ofNat w'.now) 0) ∧
  w'.touched = w.touched

theorem finish_run (result : Bool) :
    ∃ w', (Hc12.finish result).run (answer env) w = some (.prompt, w') ∧
      Left cfg cmd w .prompt w' :=
  ⟨_, rfl, .inl ⟨rfl, rfl⟩, rfl⟩

theorem replied_run :
    ∃ l w', (Hc12.replied cfg cmd).run (answer env) w = some (l, w') ∧ Left cfg cmd w l w' := by
  match cmd with
  | 0 => exact ⟨_, _, rfl, .inr ⟨1, by decide, rfl⟩, rfl⟩
  | 1 => exact ⟨_, _, rfl, .inr ⟨2, by decide, rfl⟩, rfl⟩
  | 2 => exact ⟨_, _, rfl, .inr ⟨3, by decide, rfl⟩, rfl⟩
  | 3 => exact ⟨_, _, rfl, .inl ⟨rfl, rfl⟩, rfl⟩

instance : Decidable (TimedOut env T w) := inferInstanceAs (Decidable (_ > _))

/-- What a turn does with a byte it has found. -/
def look : Fw Block := do
  if i.toNat ≥ streamBufferSize then
    .hang
  else if i.toNat > 1 then
    let prev ← ask (.rxBuff (i.toNat - 1))
    let last ← ask (.rxBuff i.toNat)
    if prev = 0x0D ∧ last = 0x0A then
      Hc12.replied cfg cmd
    else
      return .reply cfg cmd T (i + 1)
  else
    return .reply cfg cmd T (i + 1)

/-- A turn after its time test. -/
def listen : Fw Block := do
  if (← ask (.chnRead i.toNat 1)) = ([] : List UInt8) then
    return .reply cfg cmd T i
  else
    look cfg cmd T i

theorem reply_run :
    (Hc12.reply cfg cmd T i).run (answer env) w =
      (if TimedOut env T w then Hc12.finish false else listen cfg cmd T i).run (answer env)
        (w.read env) := rfl

theorem reply_timedOut (h : TimedOut env T w) :
    ∃ w', (Hc12.reply cfg cmd T i).run (answer env) w = some (.prompt, w') ∧
      Left cfg cmd w .prompt w' := by
  rw [reply_run, if_pos h]
  exact finish_run env cfg cmd (w.read env) false

variable {env T i w}

theorem reply_silent (h : ¬ TimedOut env T w) (hb : env.byte w.reads = none) :
    (Hc12.reply cfg cmd T i).run (answer env) w =
      some (.reply cfg cmd T i, { w.read env with reads := w.reads + 1 }) := by
  have hread : answer env (w.read env) (.chnRead i.toNat 1) =
      ([], { w.read env with reads := w.reads + 1 }) := by
    simp only [answer, World.read, hb]
  rw [reply_run, if_neg h, listen, Prog.perform_bind, Prog.run_call, hread, if_pos rfl]
  rfl

theorem reply_byte (h : ¬ TimedOut env T w) {b : UInt8} (hb : env.byte w.reads = some b) :
    (Hc12.reply cfg cmd T i).run (answer env) w =
      (look cfg cmd T i).run (answer env) ((w.read env).store i.toNat b) := by
  have hread : answer env (w.read env) (.chnRead i.toNat 1) =
      ([b], (w.read env).store i.toNat b) := by
    simp only [answer, World.read, hb]
  rw [reply_run, if_neg h, listen, Prog.perform_bind, Prog.run_call, hread,
    if_neg (List.cons_ne_nil b [])]

/-- A byte behind the buffer. -/
theorem reply_overflow (h : ¬ TimedOut env T w) {b : UInt8} (hb : env.byte w.reads = some b)
    (hi : streamBufferSize ≤ i.toNat) :
    (Hc12.reply cfg cmd T i).run (answer env) w = none := by
  rw [reply_byte cfg cmd h hb, look, if_pos hi]
  rfl

/-- The CR and the LF are looked at when there are three bytes. -/
theorem reply_compare (h : ¬ TimedOut env T w) {b : UInt8} (hb : env.byte w.reads = some b)
    (hi : i.toNat < streamBufferSize) (h1 : 1 < i.toNat) :
    (Hc12.reply cfg cmd T i).run (answer env) w =
      (if w.rxBuff (i.toNat - 1) = 0x0D ∧ b = 0x0A then Hc12.replied cfg cmd
        else (return .reply cfg cmd T (i + 1) : Fw Block)).run (answer env)
          { (w.read env).store i.toNat b with
            touched := i.toNat :: (i.toNat - 1) :: i.toNat :: w.touched } := by
  have hne : i.toNat - 1 ≠ i.toNat := by omega
  rw [reply_byte cfg cmd h hb, look, if_neg (by omega), if_pos h1]
  simp only [Prog.perform_bind, Prog.run_call, answer, World.store, World.read,
    Function.update_self, Function.update_of_ne hne]

/-- The first bytes are stored without a comparison. -/
theorem reply_store (h : ¬ TimedOut env T w) {b : UInt8} (hb : env.byte w.reads = some b)
    (h1 : i.toNat ≤ 1) :
    (Hc12.reply cfg cmd T i).run (answer env) w =
      some (.reply cfg cmd T (i + 1), (w.read env).store i.toNat b) := by
  have hsize : streamBufferSize = 64 := rfl
  rw [reply_byte cfg cmd h hb, look, if_neg (by omega), if_neg (by omega)]
  rfl

end Turn

/-! ## The loop -/

theorem answered_snoc (bs : List UInt8) (b : UInt8) :
    Answered (bs ++ [b]) ↔
      Answered bs ∨ 1 < bs.length ∧ bs.length < streamBufferSize ∧
        bs[bs.length - 1]? = some 0x0D ∧ b = 0x0A := by
  constructor
  · rintro ⟨m, h1, hm, hcr, hlf⟩
    rcases Nat.lt_trichotomy m bs.length with hlt | rfl | hgt
    · rw [List.getElem?_append_left (by omega)] at hcr hlf
      exact .inl ⟨m, h1, hm, hcr, hlf⟩
    · rw [List.getElem?_append_left (by omega)] at hcr
      rw [List.getElem?_concat_length] at hlf
      exact .inr ⟨h1, hm, hcr, Option.some.inj hlf⟩
    · rw [List.getElem?_eq_none (by simp; omega)] at hlf
      cases hlf
  · rintro (⟨m, h1, hm, hcr, hlf⟩ | ⟨h1, hm, hcr, rfl⟩)
    · have hlt : m < bs.length := by
        rcases Nat.lt_or_ge m bs.length with hlt | hge
        · exact hlt
        · rw [List.getElem?_eq_none hge] at hlf
          cases hlf
      refine ⟨m, h1, hm, ?_, ?_⟩
      · rwa [List.getElem?_append_left (by omega)]
      · rwa [List.getElem?_append_left hlt]
    · refine ⟨bs.length, h1, hm, ?_, List.getElem?_concat_length⟩
      rwa [List.getElem?_append_left (by omega)]

/-- `w'` is the world after `k` turns from `w` that have not left the loop. -/
structure Waiting (env : Env) (w : World) (k : Nat) (i : UInt8) (w' : World) : Prop where
  now : w'.now = w.now + env.ticks w.readings k
  readings : w'.readings = w.readings + k
  reads : w'.reads = w.reads + k
  index : i.toNat = (env.received w.reads k).length
  fits : (env.received w.reads k).length ≤ streamBufferSize
  unanswered : ¬ Answered (env.received w.reads k)
  buff : ∀ j b, (env.received w.reads k)[j]? = some b → w'.rxBuff j = b
  touched : ∀ j ∈ w'.touched, j ∈ w.touched ∨ j < streamBufferSize

theorem Waiting.start (env : Env) (w : World) : Waiting env w 0 0 w where
  now := rfl
  readings := rfl
  reads := rfl
  index := rfl
  fits := Nat.zero_le _
  unanswered := fun ⟨m, _, _, _, h⟩ => by simp [Env.received] at h
  buff := fun j b h => by simp [Env.received] at h
  touched := fun j h => .inl h

namespace Waiting

variable {env : Env} {w w' : World} {k : Nat} {i : UInt8}

theorem received_succ (hw : Waiting env w k i w') :
    env.received w.reads (k + 1) = env.received w.reads k ++ (env.byte w'.reads).toList := by
  rw [Env.received, hw.reads]

theorem read_now (hw : Waiting env w k i w') :
    (w'.read env).now = w.now + env.ticks w.readings (k + 1) := by
  simp only [World.read, Env.ticks, hw.now, hw.readings]
  omega

/-- The byte before the next one, as the list and the buffer have it. -/
theorem last (hw : Waiting env w k i w') (h1 : 1 < i.toNat) :
    (env.received w.reads k)[(env.received w.reads k).length - 1]? =
      some (w'.rxBuff (i.toNat - 1)) := by
  have hindex := hw.index
  have hlt : (env.received w.reads k).length - 1 < (env.received w.reads k).length := by omega
  rw [hindex, hw.buff _ _ (List.getElem?_eq_getElem hlt), List.getElem?_eq_getElem hlt]

theorem received_byte (hw : Waiting env w k i w') {b : UInt8} (hb : env.byte w'.reads = some b) :
    env.received w.reads (k + 1) = env.received w.reads k ++ [b] := by
  rw [hw.received_succ, hb]
  rfl

/-- The next byte completes the reply if it is the LF behind a CR, inside the
buffer. -/
theorem answered_push_iff (hw : Waiting env w k i w') (b : UInt8) :
    Answered (env.received w.reads k ++ [b]) ↔
      1 < i.toNat ∧ i.toNat < streamBufferSize ∧ w'.rxBuff (i.toNat - 1) = 0x0D ∧ b = 0x0A := by
  rw [answered_snoc, ← hw.index]
  constructor
  · rintro (ha | ⟨h1, hi, hcr, hlf⟩)
    · exact absurd ha hw.unanswered
    · rw [hw.index, hw.last h1] at hcr
      exact ⟨h1, hi, Option.some.inj hcr, hlf⟩
  · rintro ⟨h1, hi, hcr, hlf⟩
    refine .inr ⟨h1, hi, ?_, hlf⟩
    rw [hw.index, hw.last h1, hcr]

/-- One more byte. -/
theorem push (hw : Waiting env w k i w') {b : UInt8} (hb : env.byte w'.reads = some b)
    (hi : i.toNat < streamBufferSize) (hn : ¬ Answered (env.received w.reads k ++ [b]))
    {touched : List Nat} (ht : ∀ j ∈ touched, j ∈ w'.touched ∨ j < streamBufferSize) :
    Waiting env w (k + 1) (i + 1)
      { (w'.read env).store i.toNat b with touched := touched } := by
  have hsize : streamBufferSize = 64 := rfl
  have hindex := hw.index
  have hrec := hw.received_byte hb
  constructor
  · exact hw.read_now
  · simp only [World.store, World.read, hw.readings]
    omega
  · simp only [World.store, World.read, hw.reads]
    omega
  · rw [hrec, List.length_append, List.length_singleton, UInt8.toNat_add, ← hindex,
      Nat.mod_eq_of_lt (by simp; omega)]
    rfl
  · rw [hrec, List.length_append, List.length_singleton]
    omega
  · rwa [hrec]
  · intro j c hj
    rw [hrec] at hj
    simp only [World.store, World.read]
    by_cases hji : j = i.toNat
    · rw [hji, hindex, List.getElem?_concat_length] at hj
      rw [hji, Function.update_self, Option.some.inj hj]
    · have hlt : j < (env.received w.reads k).length := by
        have := (List.getElem?_eq_some_iff.mp hj).1
        simp at this
        omega
      rw [List.getElem?_append_left hlt] at hj
      rw [Function.update_of_ne hji, hw.buff j c hj]
  · intro j hj
    rcases ht j hj with hj | hj
    · exact hw.touched j hj
    · exact .inr hj

/-- A read that finds nothing. -/
theorem silent (hw : Waiting env w k i w') (hb : env.byte w'.reads = none) :
    Waiting env w (k + 1) i { w'.read env with reads := w'.reads + 1 } := by
  have hrec : env.received w.reads (k + 1) = env.received w.reads k := by
    rw [hw.received_succ, hb, Option.toList_none, List.append_nil]
  constructor
  · exact hw.read_now
  · simp only [World.read, hw.readings]
    omega
  · simp only [hw.reads]
    omega
  · rw [hrec, hw.index]
  · rw [hrec]
    exact hw.fits
  · rw [hrec]
    exact hw.unanswered
  · rw [hrec]
    exact hw.buff
  · exact hw.touched

/-- What a turn that does not time out can do: the reply is complete and the
loop is left, it goes on inside the buffer, or it stores a byte behind it. -/
def Turn (env : Env) (cfg : Hc12Cfg) (cmd : Fin 4) (w : World) (k : Nat) (T : UInt16) (i : UInt8)
    (w' : World) : Prop :=
  (Answered (env.received w.reads (k + 1)) ∧
    ∃ l w₁ w₂, (Hc12.reply cfg cmd T i).run (answer env) w' = some (l, w₂) ∧
      Left cfg cmd w₁ l w₂ ∧ ∀ j ∈ w₁.touched, j ∈ w.touched ∨ j < streamBufferSize) ∨
  (∃ i' w₁, (Hc12.reply cfg cmd T i).run (answer env) w' = some (.reply cfg cmd T i', w₁) ∧
    Waiting env w (k + 1) i' w₁) ∨
  (¬ Answered (env.received w.reads (k + 1)) ∧
    streamBufferSize < (env.received w.reads (k + 1)).length ∧
    (Hc12.reply cfg cmd T i).run (answer env) w' = none)

/-- A turn that compares the byte with the one before it. -/
theorem turn_compare (cfg : Hc12Cfg) (cmd : Fin 4) {T : UInt16} (hw : Waiting env w k i w')
    (ht : ¬ TimedOut env T w') {b : UInt8} (hb : env.byte w'.reads = some b)
    (hi : i.toNat < streamBufferSize) (h1 : 1 < i.toNat) : Turn env cfg cmd w k T i w' := by
  have hrun := reply_compare cfg cmd ht hb hi h1
  have htouched : ∀ j ∈ i.toNat :: (i.toNat - 1) :: i.toNat :: w'.touched,
      j ∈ w'.touched ∨ j < streamBufferSize := by
    intro j hj
    simp only [List.mem_cons] at hj
    rcases hj with rfl | rfl | rfl | hj
    · exact .inr hi
    · exact .inr (by omega)
    · exact .inr hi
    · exact .inl hj
  by_cases hcr : w'.rxBuff (i.toNat - 1) = 0x0D ∧ b = 0x0A
  · rw [if_pos hcr] at hrun
    obtain ⟨l, w₂, hreplied, hleft⟩ := replied_run env cfg cmd
      { (w'.read env).store i.toNat b with
        touched := i.toNat :: (i.toNat - 1) :: i.toNat :: w'.touched }
    refine .inl ⟨?_, l, _, w₂, hrun.trans hreplied, hleft, fun j hj => ?_⟩
    · rw [hw.received_byte hb, hw.answered_push_iff]
      exact ⟨h1, hi, hcr⟩
    · rcases htouched j hj with hj | hj
      · exact hw.touched j hj
      · exact .inr hj
  · rw [if_neg hcr] at hrun
    refine .inr (.inl ⟨i + 1, _, hrun, hw.push hb hi ?_ htouched⟩)
    rw [hw.answered_push_iff]
    exact fun h => hcr h.2.2

theorem turn (cfg : Hc12Cfg) (cmd : Fin 4) {T : UInt16} (hw : Waiting env w k i w')
    (ht : ¬ TimedOut env T w') : Turn env cfg cmd w k T i w' := by
  cases hb : env.byte w'.reads with
  | none => exact .inr (.inl ⟨i, _, reply_silent cfg cmd ht hb, hw.silent hb⟩)
  | some b =>
    rcases Nat.lt_or_ge i.toNat streamBufferSize with hi | hi
    · rcases Nat.lt_or_ge 1 i.toNat with h1 | h1
      · exact hw.turn_compare cfg cmd ht hb hi h1
      · -- one of the first two bytes
        refine .inr (.inl ⟨i + 1, _, reply_store cfg cmd ht hb h1, hw.push hb hi ?_ ?_⟩)
        · rw [hw.answered_push_iff]
          omega
        · intro j hj
          rcases List.mem_cons.mp hj with rfl | hj
          · exact .inr hi
          · exact .inl hj
    · refine .inr (.inr ⟨?_, ?_, reply_overflow cfg cmd ht hb hi⟩)
      · rw [hw.received_byte hb, hw.answered_push_iff]
        omega
      · rw [hw.received_byte hb, List.length_append, List.length_singleton, ← hw.index]
        omega

end Waiting

end MeteoL053.Radio
