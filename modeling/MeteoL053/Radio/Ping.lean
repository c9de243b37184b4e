import MeteoL053.Lib.Run
import MeteoL053.Radio.System

/-!
The start-up loop of the stream thread: which answers to its pings
`HC12__thread_checkStatus` accepts, with whatever the earlier attempts have left
in `hc12State.rxBuff`.
-/

namespace MeteoL053.Radio.Ping

open CallTree

/-! ## The environment -/

/-- What the `n`-th attempt meets: whether it gets the semaphore, and the bytes
that arrive before its read times out. -/
structure Env where
  granted : Nat → Bool
  bytes : Nat → List UInt8
  reply : Nat → (c : Call) → Reply c

structure World where
  /-- attempts that have returned -/
  attempts : Nat
  /-- `hc12State.status` -/
  status : Hc12Status
  /-- the memory from `hc12State.rxBuff` on -/
  rxBuff : Nat → UInt8

/-- A read stores what it has received, from `rxBuff[i]` on. -/
def overlay (i : Nat) (received : List UInt8) (rxBuff : Nat → UInt8) : Nat → UInt8 := fun j =>
  if i ≤ j then received[j - i]?.getD (rxBuff j) else rxBuff j

/-- The bytes the `n`-th attempt receives. -/
def Env.received (env : Env) (n : Nat) : List UInt8 := (env.bytes n).take 8

def answer (env : Env) : Handler Call Reply World := fun w c =>
  match c with
  | .chBSemWaitTimeout _ => (env.granted w.attempts, w)
  | .chnRead i n =>
    ((env.bytes w.attempts).take n,
      { w with rxBuff := overlay i ((env.bytes w.attempts).take n) w.rxBuff })
  | .rxBuff i => (w.rxBuff i, w)
  | .status => (w.status, w)
  | .setStatus s => ((), { w with status := s })
  | .leave .checkStatus _ => ((), { w with attempts := w.attempts + 1 })
  | c => (env.reply w.attempts c, w)

/-- The station after `HC12__thread_init`. -/
def initial : World where
  attempts := 0
  status := .nok
  rxBuff _ := 0

/-! ## One attempt -/

/-- The test of the source on the first three bytes of the buffer. -/
def LooksOk (b0 b1 b2 : UInt8) : Prop := (b0 = 0x4F ∨ b1 = 0x4F) ∧ (b1 = 0x4B ∨ b2 = 0x4B)

instance (b0 b1 b2 : UInt8) : Decidable (LooksOk b0 b1 b2) := inferInstanceAs (Decidable (_ ∧ _))

/-- The bytes contain `OK`, from their first or their second on. -/
def ContainsOk (received : List UInt8) : Prop :=
  (received[0]? = some 0x4F ∧ received[1]? = some 0x4B) ∨
    (received[1]? = some 0x4F ∧ received[2]? = some 0x4B)

instance (received : List UInt8) : Decidable (ContainsOk received) :=
  inferInstanceAs (Decidable (_ ∨ _))

section Attempt

variable (env : Env) (w : World)

/-- The buffer after the read of an attempt in `w`. -/
def World.filled : Nat → UInt8 := overlay 0 (env.received w.attempts) w.rxBuff

/-- The end of an attempt with the semaphore. -/
def hangUp : Fw Bool := do
  let _ ← Hc12.normalMode
  ask .chBSemSignal
  return true

/-- An attempt with the semaphore. -/
def attempt : Fw Bool := do
  let _ ← Hc12.progMode
  ask (.chprintf "AT")
  let _ ← ask (.chnRead 0 8)
  let b0 ← ask (.rxBuff 0)
  let b1 ← ask (.rxBuff 1)
  let b2 ← ask (.rxBuff 2)
  if (b0 = 0x4F ∨ b1 = 0x4F) ∧ (b1 = 0x4B ∨ b2 = 0x4B) then
    ask (.setStatus .ok)
  hangUp

theorem attempt_run :
    attempt.run (answer env) w =
      some (true,
        { w with
          status := if LooksOk (w.filled env 0) (w.filled env 1) (w.filled env 2) then .ok
            else w.status
          rxBuff := w.filled env }) := by
  have hrun : attempt.run (answer env) w =
      (if LooksOk (w.filled env 0) (w.filled env 1) (w.filled env 2) then
        ask (.setStatus .ok) >>= fun _ => hangUp
      else hangUp).run (answer env) { w with rxBuff := w.filled env } := rfl
  rw [hrun]
  split
  · rfl
  · rfl

theorem checkStatus_run :
    Hc12.checkStatus.run (answer env) w =
      (if (!env.granted w.attempts) = true then ask (.leave .checkStatus false) >>= fun _ => .ret false
      else attempt >>= fun result => ask (.leave .checkStatus result) >>= fun _ => .ret result).run
        (answer env) { w with status := .nok } := by
  have hrun : Hc12.checkStatus.run (answer env) w =
      ((if (!env.granted w.attempts) = true then .ret false else attempt : Fw Bool) >>= fun result =>
        ask (.leave .checkStatus result) >>= fun _ => .ret result).run
        (answer env) { w with status := .nok } := rfl
  rw [hrun]
  split
  · rfl
  · rfl

theorem checkStatus_refused (h : env.granted w.attempts = false) :
    Hc12.checkStatus.run (answer env) w =
      some (false, { w with attempts := w.attempts + 1, status := .nok }) := by
  rw [checkStatus_run, h]
  rfl

theorem checkStatus_granted (h : env.granted w.attempts = true) :
    Hc12.checkStatus.run (answer env) w =
      some (true,
        { attempts := w.attempts + 1
          status := if LooksOk (w.filled env 0) (w.filled env 1) (w.filled env 2) then .ok else .nok
          rxBuff := w.filled env }) := by
  rw [checkStatus_run, if_neg (by simp [h]), Prog.run_bind_of (attempt_run env _)]
  rfl

end Attempt

/-! ## The start-up loop -/

/-- The stream thread is in its start-up loop. -/
def pinging : Block → Bool
  | .ping => true
  | _ => false

/-- `n` attempts of the start-up loop, none of which ends it. -/
def attempts (env : Env) (n : Nat) : Option (Block × World) :=
  runWhile (answer env) (body .stream) pinging n .ping initial

/-- What `n` attempts leave in the buffer: an attempt without the semaphore reads
nothing, and one that receives fewer bytes than before leaves the others. -/
def Env.leftover (env : Env) : Nat → Nat → UInt8
  | 0 => initial.rxBuff
  | n + 1 =>
    if env.granted n then overlay 0 (env.received n) (env.leftover n) else env.leftover n

theorem goToSleep_ends (env : Env) (w : World) :
    Hc12.goToSleep.Ends (answer env) w fun _ _ => True := by
  refine Prog.ends_step (Prog.ends_bind (Prog.ends_step ?_))
  split
  · exact ⟨_, _, rfl, _, _, rfl, trivial⟩
  · exact ⟨_, _, rfl, _, _, rfl, trivial⟩

/-- The loop goes on with the world an attempt has left, unless it ends here. -/
theorem ping_of_checkStatus {env : Env} {w w₁ w' : World} {ok : Bool}
    (h : Hc12.checkStatus.run (answer env) w = some (ok, w₁))
    (hping : Hc12.ping.run (answer env) w = some (.ping, w')) : w' = w₁ := by
  have hrun : Hc12.ping.run (answer env) w =
      (if w₁.status = Hc12Status.ok then Hc12.pinged
      else ask (.setHwStatus .error) >>= fun _ => ask (.chThdSleepMilliseconds 1000) >>= fun _ =>
        .ret .ping).run (answer env) w₁ := by
    rw [Hc12.ping, Prog.run_bind_of h]
    rfl
  rw [hrun] at hping
  split at hping
  · -- a successful ping leads to the transmit loop
    obtain ⟨slept, w₂, hsleep, -⟩ := goToSleep_ends env w₁
    rw [Hc12.pinged, Prog.run_bind_of hsleep] at hping
    cases hping
  · cases hping
    rfl

theorem attempts_label {env : Env} {n : Nat} {l : Block} {w : World}
    (h : attempts env n = some (l, w)) : l = .ping := by
  cases n with
  | zero => cases h; rfl
  | succ n =>
    obtain ⟨-, -, -, -, hstay⟩ := exists_of_runWhile_snoc h
    cases l with
    | ping => rfl
    | _ => cases hstay

/-- The buffer after some attempts. -/
theorem attempts_world {env : Env} {n : Nat} {w : World}
    (h : attempts env n = some (.ping, w)) : w.attempts = n ∧ w.rxBuff = env.leftover n := by
  induction n generalizing w with
  | zero => cases h; exact ⟨rfl, rfl⟩
  | succ n ih =>
    obtain ⟨l, w₁, hbefore, hrun, -⟩ := exists_of_runWhile_snoc h
    cases attempts_label hbefore
    obtain ⟨hn, hbuff⟩ := ih hbefore
    cases hg : env.granted w₁.attempts with
    | true =>
      cases ping_of_checkStatus (checkStatus_granted env w₁ hg) hrun
      refine ⟨congrArg (· + 1) hn, ?_⟩
      rw [hn] at hg
      simp only [World.filled, Env.leftover, hg, hn, hbuff, if_true]
    | false =>
      cases ping_of_checkStatus (checkStatus_refused env w₁ hg) hrun
      refine ⟨congrArg (· + 1) hn, ?_⟩
      rw [hn] at hg
      simp only [Env.leftover, hg, hbuff, Bool.false_eq_true, if_false]

/-! ## What is accepted -/

/-- The condition on the bytes an attempt receives and on those that earlier ones
have left: no leftover completes the test of the source, and it is not met by an
`O` and a `K` with another byte between them. -/
def Clean (leftover : Nat → UInt8) : List UInt8 → Prop
  | [] => ¬ LooksOk (leftover 0) (leftover 1) (leftover 2)
  | [a] => ¬ LooksOk a (leftover 1) (leftover 2)
  | [a, b] => a = 0x4F ∧ b = 0x4B ∨ ¬ LooksOk a b (leftover 2)
  | a :: b :: c :: _ => a = 0x4F ∧ c = 0x4B → b = 0x4F ∨ b = 0x4B

theorem containsOk_two (a b : UInt8) : ContainsOk [a, b] ↔ a = 0x4F ∧ b = 0x4B := by
  simp [ContainsOk]

theorem containsOk_three (a b c : UInt8) (rest : List UInt8) :
    ContainsOk (a :: b :: c :: rest) ↔ a = 0x4F ∧ b = 0x4B ∨ b = 0x4F ∧ c = 0x4B := by
  simp [ContainsOk]

theorem looksOk_iff_containsOk_iff (leftover : Nat → UInt8) (received : List UInt8) :
    (LooksOk (overlay 0 received leftover 0) (overlay 0 received leftover 1)
        (overlay 0 received leftover 2) ↔ ContainsOk received) ↔ Clean leftover received := by
  have hne : ¬ (0x4F : UInt8) = 0x4B := by decide
  match received with
  | [] => simp [overlay, ContainsOk, Clean]
  | [a] => simp [overlay, ContainsOk, Clean]
  | [a, b] =>
    change (LooksOk a b (leftover 2) ↔ _) ↔ (_ ∨ ¬ LooksOk a b (leftover 2))
    rw [containsOk_two]
    unfold LooksOk
    grind
  | a :: b :: c :: rest =>
    change (LooksOk a b c ↔ _) ↔ (a = 0x4F ∧ c = 0x4B → b = 0x4F ∨ b = 0x4B)
    rw [containsOk_three]
    unfold LooksOk
    grind

theorem status_eq_iff (p q : Prop) [Decidable p] [Decidable q] :
    ((if p then Hc12Status.ok else .nok) = if q then .ok else .nok) ↔ (p ↔ q) := by
  by_cases hp : p <;> by_cases hq : q <;> simp [hp, hq]

/-- In every run of the start-up loop: the next attempt, if it gets the
semaphore, returns with the status `OK` when the bytes it has received contain
`OK` and `NOK` otherwise, if and only if these bytes and the leftovers of the
earlier attempts are clean. -/
theorem ping_status_iff (env : Env) (n : Nat) (w : World) (h : attempts env n = some (.ping, w))
    (hg : env.granted n = true) :
    ∃ w', Hc12.checkStatus.run (answer env) w = some (true, w') ∧
      (w'.status = (if ContainsOk (env.received n) then .ok else .nok) ↔
        Clean (env.leftover n) (env.received n)) := by
  obtain ⟨hn, hbuff⟩ := attempts_world h
  refine ⟨_, checkStatus_granted env w (hn ▸ hg), ?_⟩
  rw [← looksOk_iff_containsOk_iff, World.filled, hn, hbuff]
  exact status_eq_iff _ _

/-- A module that answers the first ping with a garbled byte. -/
def garbled : Env where
  granted _ := true
  bytes _ := [0x4F, 0x52, 0x4B]
  reply _ := anyReply

/-- A module whose first answer is `ERK` and whose next ones are cut off after
their first byte. -/
def cutOff : Env where
  granted _ := true
  bytes n := if n = 0 then [0x45, 0x52, 0x4B] else [0x4F]
  reply _ := anyReply

/-- `ORK` is accepted, and so is a single `O` after `ERK`. -/
theorem wrong_answers_accepted :
    (∃ w', Hc12.checkStatus.run (answer garbled) initial = some (true, w') ∧ w'.status = .ok ∧
      garbled.received 0 = [0x4F, 0x52, 0x4B] ∧ ¬ ContainsOk (garbled.received 0)) ∧
    ∃ w w', attempts cutOff 1 = some (.ping, w) ∧
      Hc12.checkStatus.run (answer cutOff) w = some (true, w') ∧ w'.status = .ok ∧
      cutOff.received 1 = [0x4F] ∧ ¬ ContainsOk (cutOff.received 1) :=
  ⟨⟨_, rfl, rfl, rfl, by decide⟩, _, _, rfl, rfl, rfl, rfl, by decide⟩

/-- A module that answers the second ping. -/
def answering : Env where
  granted _ := true
  bytes n := if n = 0 then [] else [0x4F, 0x4B, 0x0D, 0x0A]
  reply _ := anyReply

theorem ping_status_iff_answering :
    ∃ w w', attempts answering 1 = some (.ping, w) ∧
      Hc12.checkStatus.run (answer answering) w = some (true, w') ∧ w'.status = .ok := by
  obtain ⟨w', hrun, hiff⟩ := ping_status_iff answering 1 _ rfl rfl
  have hclean : Clean (answering.leftover 1) (answering.received 1) := fun _ => .inr rfl
  exact ⟨_, w', rfl, hrun, hiff.mpr hclean⟩

end MeteoL053.Radio.Ping
